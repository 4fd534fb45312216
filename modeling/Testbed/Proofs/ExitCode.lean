import Mathlib
import Testbed.CommandLine
import Testbed.Proofs.Markup
import Testbed.Proofs.Trace

/-!
Exit codes.

A command ends with the code of what it has done as long as that can be printed, whatever the
screen is. Where markup is read, what is printed has names and texts in it that may hold closing
tags: then a success is reported as a failure, and a timeout with no code at all.
-/

namespace Testbed.Rehearsal

variable {τ α : Type} [Seconds τ]

/-- Whoever takes the end of a program as an answer does what the program does. -/
lemma run_attempt (p : Program τ α) (r : Rehearsal τ) :
    run p.attempt r = (.ok (run p r).1, (run p r).2) := by
  induction p generalizing r with
  | done result => rfl
  | ask request next ih => exact ih _ _
  | now next ih => exact ih _ _
  | isCancelled next ih => exact ih _ _
  | pause length next ih => exact ih _ _
  | note level message next ih => exact ih _

lemma trace_attempt (p : Program τ α) (r : Rehearsal τ) : trace p.attempt r = trace p r := by
  induction p generalizing r with
  | done result => rfl
  | ask request next ih => exact congrArg (_ :: ·) (ih _ _)
  | now next ih => exact ih _ _
  | isCancelled next ih => exact congrArg (_ :: ·) (ih _ _)
  | pause length next ih => exact congrArg (_ :: ·) (ih _ _)
  | note level message next ih => exact congrArg (_ :: ·) (ih _)

end Testbed.Rehearsal

namespace Testbed.ExitCode

open CommandLine
open Console (Misprint Screen Table)
open Console.Markup
open Rehearsal (run)

/-! ### What is reported -/

/-- How the operation of a command ends. -/
abbrev End := Except (Failure Float) CommandLine.Result

/-- The report has the code of an end. -/
structure Truthful (result : End) (report : Report) : Prop where
  completed : report.code = 0 ↔ ∃ x, result = .ok x
  timedOut : report.code = 1 ↔ ∃ t, result = .error (.timedOut t)
  failed : report.code = 2 ↔ ∃ f, result = .error f ∧ ∀ t, f ≠ .timedOut t

/-- What is said of an end can be printed. -/
def Printable (screen : Screen) : End → Prop
  | .ok result => ∃ output, result.shown screen = .ok output
  | .error (.timedOut t) => ∃ output, screen.paragraph (timeoutLead ++ t.message) = .ok output
  | .error _ => True

/-- How a command line ends, given how its operation does. -/
structure Reported (screen : Screen) (result : End) (ending : Ending) : Prop where
  truthful : (∃ report, ending = .ran report ∧ Truthful result report) ↔ Printable screen result
  /-- A success that cannot be printed is reported as a failure. -/
  mistaken : ∀ x f, result = .ok x → x.shown screen = .error f →
    ending = .ran ⟨2, "", "Error: " ++ f.message ++ "\n"⟩
  /-- After a timeout that cannot be printed there is no exit code. -/
  broken : ∀ t f, result = .error (.timedOut t) →
    screen.paragraph (timeoutLead ++ t.message) = .error f → ending = .broke f

lemma truthful_failed {f : Failure Float} (h : ∀ t, f ≠ .timedOut t) (output errors : String) :
    Truthful (.error f) ⟨2, output, errors⟩ where
  completed := by simp
  timedOut := by simp [h]
  failed := by simp [h]

section

variable {screen : Screen}

lemma report_failed {f : Failure Float} (h : ∀ t, f ≠ .timedOut t) :
    report screen (.error f) = failed f.message := by
  cases f with
  | timedOut t => exact absurd rfl (h t)
  | _ => rfl

lemma timedOut_printed {t : Timeout Float} {output : String}
    (h : screen.paragraph (timeoutLead ++ t.message) = .ok output) :
    CommandLine.timedOut screen t = .ran ⟨1, output, ""⟩ := by
  unfold CommandLine.timedOut
  rw [h]

lemma timedOut_unprinted {t : Timeout Float} {f : Misprint}
    (h : screen.paragraph (timeoutLead ++ t.message) = .error f) :
    CommandLine.timedOut screen t = .broke f := by
  unfold CommandLine.timedOut
  rw [h]

lemma reported_ok (x : CommandLine.Result) (r : Rehearsal Float) :
    ∃ ending, (run (report screen (.ok x)) r).1 = .ok ending ∧
      Reported screen (.ok x) ending := by
  cases hx : x.shown screen with
  | ok output =>
    refine ⟨.ran ⟨0, output, ""⟩, by rw [report, hx]; rfl, ?_, ?_, nofun⟩
    · exact iff_of_true ⟨_, rfl, by simp, by simp, by simp⟩ ⟨output, hx⟩
    · rintro _ f ⟨⟩ hf
      simp [hx] at hf
  | error f =>
    refine ⟨.ran ⟨2, "", "Error: " ++ f.message ++ "\n"⟩, by rw [report, hx]; rfl, ?_, ?_, nofun⟩
    · refine iff_of_false ?_ fun ⟨output, hout⟩ => by simp [hx] at hout
      rintro ⟨_, ⟨⟩, truthful⟩
      simpa using truthful.failed
    · rintro _ f' ⟨⟩ hf
      rw [hx] at hf
      rw [Except.error.inj hf]

lemma reported_timedOut (t : Timeout Float) :
    Reported screen (.error (.timedOut t)) (CommandLine.timedOut screen t) where
  truthful := by
    cases ht : screen.paragraph (timeoutLead ++ t.message) with
    | ok output =>
      rw [timedOut_printed ht]
      exact iff_of_true ⟨_, rfl, by simp, by simp, by simp⟩ ⟨output, ht⟩
    | error f =>
      rw [timedOut_unprinted ht]
      refine iff_of_false (by rintro ⟨_, ⟨⟩, _⟩) fun ⟨output, hout⟩ => ?_
      rw [ht] at hout
      cases hout
  mistaken := nofun
  broken := by
    rintro _ f ⟨⟩ hf
    exact timedOut_unprinted hf

lemma reported_failed {f : Failure Float} (h : ∀ t, f ≠ .timedOut t) (output errors : String) :
    Reported screen (.error f) (.ran ⟨2, output, errors⟩) where
  truthful := by
    have hprintable : Printable screen (.error f) := by
      cases f with
      | timedOut t => exact absurd rfl (h t)
      | _ => trivial
    exact iff_of_true ⟨_, rfl, truthful_failed h output errors⟩ hprintable
  mistaken := nofun
  broken t _ ht := absurd (Except.error.inj ht) (h t)

variable (screen)

/-- Every end is reported, if not always with a code. -/
lemma run_report (result : End) (r : Rehearsal Float) :
    ∃ ending, (run (report screen result) r).1 = .ok ending ∧ Reported screen result ending := by
  cases result with
  | ok x => exact reported_ok x r
  | error f =>
    by_cases h : ∃ t, f = .timedOut t
    · obtain ⟨t, rfl⟩ := h
      exact ⟨_, rfl, reported_timedOut t⟩
    · rw [not_exists] at h
      exact ⟨_, by rw [report_failed h]; rfl, reported_failed h "" _⟩

lemma run_reported {line : List String} {a : Arguments} (hparse : parse line = .ok a)
    (sources : Settings.Sources) (r : Rehearsal Float) :
    ∃ ending, (run (CommandLine.run screen line sources) r).1 = .ok ending ∧
      Reported screen (run (operation a sources) r).1 ending := by
  obtain ⟨ending, hrun, hreported⟩ :=
    run_report screen (run (operation a sources) r).1 (run (operation a sources) r).2
  refine ⟨ending, ?_, hreported⟩
  have hattempt : run ((operation a sources).attempt.bind (report screen)) r =
      run (report screen (run (operation a sources) r).1) (run (operation a sources) r).2 :=
    Rehearsal.run_bind_ok (Rehearsal.run_attempt (operation a sources) r)
  rw [CommandLine.run, hparse]
  exact (congrArg Prod.fst hattempt).trans hrun

end

/-! ### What can be printed -/

/-- What stands before the names and texts in a paragraph. -/
def leads : List String := [verifiedLead, timeoutLead]

/-- The first bracket of the text opens a tag that closes nothing. -/
def Unmatched (text : List Char) : Prop := ∃ plain name rest, Closes text plain name rest

/-- The texts of a table. -/
def texts (t : Table) : List (List Char) :=
  t.title :: t.header.1 :: t.header.2 :: t.rows.flatMap fun row => [row.1, row.2]

/-- Text is read as markup on the screen, where a tag that closes nothing is refused. -/
structure Parses (screen : Screen) : Prop where
  paragraph : ∀ lead ∈ leads, ∀ text : String, Unmatched text.toList →
    ∃ f, screen.paragraph (lead ++ text) = .error f
  table : ∀ (t : Table), ∀ row ∈ t.rows, Unmatched row.1 → ∃ f, screen.table t = .error f

/-- Text without brackets is no markup, and the screen takes its characters. -/
structure Shows (screen : Screen) : Prop where
  paragraph : ∀ lead ∈ leads, ∀ text : String, '[' ∉ text.toList →
    ∃ output, screen.paragraph (lead ++ text) = .ok output
  table : ∀ t : Table, (∀ text ∈ texts t, '[' ∉ text) → ∃ output, screen.table t = .ok output

/-- The texts in what is said of an end that are not the program's own. -/
def printed : End → List String
  | .ok (.collected _) => []
  | .ok (.installed outcomes) => outcomes.map (·.1.text)
  | .ok (.verified pod selector) => [pod.name ++ " (" ++ selector ++ ")"]
  | .error (.timedOut t) => [t.message]
  | .error _ => []

lemma mem_texts {t : Table} {text : List Char} : text ∈ texts t ↔
    text = t.title ∨ text = t.header.1 ∨ text = t.header.2 ∨
      ∃ row ∈ t.rows, text = row.1 ∨ text = row.2 := by
  simp [texts]

lemma outcome_plain (outcome : Install.Outcome) : '[' ∉ outcome.text.toList := by
  cases outcome <;> decide

lemma Shows.printable {screen : Screen} (shows : Shows screen) {result : End}
    (h : ∀ text ∈ printed result, '[' ∉ text.toList) : Printable screen result := by
  match result with
  | .ok (.collected c) => exact ⟨_, rfl⟩
  | .ok (.installed outcomes) =>
    refine shows.table _ fun text htext => ?_
    rcases mem_texts.1 htext with rfl | rfl | rfl | ⟨row, hrow, hcell⟩
    · show '[' ∉ "Installed resources".toList
      decide
    · show '[' ∉ "Resource".toList
      decide
    · show '[' ∉ "Outcome".toList
      decide
    · obtain ⟨⟨ref, outcome⟩, hmem, rfl⟩ := List.mem_map.1 hrow
      rcases hcell with rfl | rfl
      · exact h _ (List.mem_map.2 ⟨(ref, outcome), hmem, rfl⟩)
      · exact outcome_plain outcome
  | .ok (.verified pod selector) =>
    exact shows.paragraph verifiedLead (by simp [leads]) _ (h _ (List.mem_singleton_self _))
  | .error (.timedOut t) =>
    exact shows.paragraph timeoutLead (by simp [leads]) _ (h _ (List.mem_singleton_self _))
  | .error (.fault _) | .error (.refused _) | .error (.unsupported _) | .error (.noNamespace _)
  | .error .noCluster | .error .cancelled | .error .tooManyChecks => trivial

lemma Parses.not_shown {screen : Screen} (parses : Parses screen) {x : CommandLine.Result}
    {text : String} (htext : text ∈ printed (.ok x)) (h : Unmatched text.toList) :
    ∃ f, x.shown screen = .error f := by
  cases x with
  | collected c => cases htext
  | installed outcomes =>
    obtain ⟨⟨ref, outcome⟩, hmem, rfl⟩ := List.mem_map.1 htext
    exact parses.table _ (ref.text.toList, outcome.text.toList)
      (List.mem_map.2 ⟨(ref, outcome), hmem, rfl⟩) h
  | verified pod selector =>
    obtain rfl := List.mem_singleton.1 htext
    exact parses.paragraph verifiedLead (by simp [leads]) _ h

/-- A success is reported as a failure, and a timeout without an exit code. -/
structure Misreported (result : End) (ending : Ending) : Prop where
  mistaken : ∀ x, result = .ok x → ∃ report, ending = .ran report ∧ report.code = 2
  broken : ∀ t, result = .error (.timedOut t) → ∃ f, ending = .broke f

lemma Reported.misreported {screen : Screen} (parses : Parses screen) {result : End}
    {ending : Ending} (hreported : Reported screen result ending) {text : String}
    (htext : text ∈ printed result) (h : Unmatched text.toList) : Misreported result ending where
  mistaken := by
    rintro x rfl
    obtain ⟨f, hf⟩ := parses.not_shown htext h
    exact ⟨_, hreported.mistaken x f rfl hf, rfl⟩
  broken := by
    rintro t rfl
    obtain rfl := List.mem_singleton.1 htext
    obtain ⟨f, hf⟩ := parses.paragraph timeoutLead (by simp [leads]) _ h
    exact ⟨f, hreported.broken t f rfl hf⟩

/-- **Exit codes tell the truth as long as they can be told.** Every line that is accepted comes to
an end, and with the right code exactly if what is said of its operation can be printed. On a screen
that takes every character that is so if there is no bracket in the names and texts. With a tag in
them that closes nothing, on a screen that reads markup, a timeout ends without a code, and a
verified workload or an installation with the code of a failure. -/
theorem exit_code_truthful {line : List String} {a : Arguments} (hparse : parse line = .ok a)
    (screen : Screen) (sources : Settings.Sources) (r : Rehearsal Float) :
    let result := (run (operation a sources) r).1
    ∃ ending, (run (CommandLine.run screen line sources) r).1 = .ok ending ∧
      Reported screen result ending ∧
      (Shows screen → (∀ text ∈ printed result, '[' ∉ text.toList) →
        ∃ report, ending = .ran report ∧ Truthful result report) ∧
      (Parses screen → (∃ text ∈ printed result, Unmatched text.toList) →
        Misreported result ending) := by
  intro result
  obtain ⟨ending, hrun, hreported⟩ := run_reported screen hparse sources r
  refine ⟨ending, hrun, hreported, fun shows h => ?_, ?_⟩
  · exact hreported.truthful.2 (shows.printable h)
  · rintro parses ⟨text, htext, hclosing⟩
    exact hreported.misreported parses htext hclosing

/-! ### A screen of markup -/

/-- What stands before the message of a timeout. -/
lemma tagged_timeout : Tagged timeoutLead.toList "bold red" "Timeout:".toList where
  isStyle := ⟨canonical_eq (by decide +kernel), by decide, by decide, by decide, by decide⟩
  pieces := ⟨0, 18, rfl⟩
  begun := rfl
  unescaped := by decide

/-- What stands before the name of a pod. -/
lemma tagged_verified : Tagged verifiedLead.toList "bold green" "Verified".toList where
  isStyle := ⟨canonical_eq (by decide +kernel), by decide, by decide, by decide, by decide⟩
  pieces := ⟨0, 20, rfl⟩
  begun := rfl
  unescaped := by decide

lemma closed_lead {lead : String} (h : lead ∈ leads) : Closed lead.toList := by
  rcases List.mem_pair.1 h with rfl | rfl
  · exact tagged_verified.closed
  · exact tagged_timeout.closed

lemma parses_screen : Parses Console.screen where
  paragraph := by
    rintro lead hlead text ⟨plain, name, rest, h⟩
    refine Console.paragraph_error ?_
    rw [String.toList_append]
    exact (closed_lead hlead).render_error h
  table := by
    rintro t row hrow ⟨plain, name, rest, h⟩
    exact Console.table_error hrow h

lemma shows_screen : Shows Console.screen where
  paragraph := by
    intro lead hlead text h
    refine Console.paragraph_ok ?_
    rw [String.toList_append]
    exact (closed_lead hlead).render_ok h
  table t h := Console.table_ok fun row hrow =>
    ⟨h _ (mem_texts.2 (.inr (.inr (.inr ⟨row, hrow, .inl rfl⟩)))),
      h _ (mem_texts.2 (.inr (.inr (.inr ⟨row, hrow, .inr rfl⟩))))⟩

/-! ### A message with a tag in it -/

/-- One check for a message in the log of a workload. -/
def checkFor (message : String) : List String :=
  ["verify", "w", "--log-message", message, "--max-attempts", "1", "--delay", "0"]

/-- A cluster with one pod, which runs and logs nothing. -/
def silentWorld : Rehearsal Float where
  clock := 0
  cost := 0
  serveDelay := 0
  cancelAt := none
  store := ⟨[], []⟩
  script :=
    { faults := []
      pods := [some [⟨some ⟨.text "p", .text "default"⟩, .text "Running",
        [(.text "c", .bool true)], []⟩]]
      logs := []
      probes := []
      ownAccess := true
      fileFault := none }
  record := .empty

/-- What is asked for by the arguments of a line, if it has any. -/
def operationOf (line : List String) : Program Float CommandLine.Result :=
  match parse line with
  | .ok a => operation a ⟨[], [], none⟩
  | .error _ => .fail .noCluster

/-- The message of a timeout. -/
def timeoutOf : End → Option String
  | .error (.timedOut t) => some t.message
  | _ => none

lemma timeout_of_eq_some {result : End} {message : String} (h : timeoutOf result = some message) :
    ∃ t, result = .error (.timedOut t) ∧ t.message = message := by
  match result, h with
  | .error (.timedOut t), h => exact ⟨t, rfl, Option.some.inj h⟩

/-- A check whose operation runs into a timeout. -/
lemma exists_check {message said : String}
    (h : timeoutOf (run (operationOf (checkFor message)) silentWorld).1 = some said) :
    ∃ a t, parse (checkFor message) = .ok a ∧
      (run (operation a ⟨[], [], none⟩) silentWorld).1 = .error (.timedOut t) ∧
      t.message = said := by
  unfold operationOf at h
  split at h
  · rename_i a hparse
    obtain ⟨t, ht, hsaid⟩ := timeout_of_eq_some h
    exact ⟨a, t, hparse, ht, hsaid⟩
  · cases h

/-- A message that closes a tag leaves the timeout without an exit code. -/
theorem tag_in_message_breaks : ∃ a t f, parse (checkFor "[/x]") = .ok a ∧
    (run (operation a ⟨[], [], none⟩) silentWorld).1 = .error (.timedOut t) ∧
    (run (CommandLine.run Console.screen (checkFor "[/x]") ⟨[], [], none⟩) silentWorld).1 =
      .ok (.broke f) := by
  have hend : timeoutOf (run (operationOf (checkFor "[/x]")) silentWorld).1 =
      some "Pod 'p' has not printed message '[/x]' after 1 attempts (timeout 0s)" := by
    decide +kernel
  obtain ⟨a, t, hparse, ht, hsaid⟩ := exists_check hend
  have hcloses : Unmatched t.message.toList := by
    rw [hsaid]
    exact ⟨"Pod 'p' has not printed message '".toList, "x".toList,
      "' after 1 attempts (timeout 0s)".toList, by decide, by decide, by decide, by decide⟩
  obtain ⟨ending, hrun, hreported⟩ :=
    run_reported Console.screen hparse ⟨[], [], none⟩ silentWorld
  have htext : t.message ∈ printed (run (operation a ⟨[], [], none⟩) silentWorld).1 := by
    rw [ht]
    exact List.mem_singleton_self _
  obtain ⟨f, hf⟩ := (hreported.misreported parses_screen htext hcloses).broken t ht
  exact ⟨a, t, f, hparse, ht, by rw [hrun, hf]⟩

/-- Without a tag the exit code is that of a timeout. -/
theorem plain_message_times_out : ∃ a report, parse (checkFor "x") = .ok a ∧
    (run (CommandLine.run Console.screen (checkFor "x") ⟨[], [], none⟩) silentWorld).1 =
      .ok (.ran report) ∧
    report.code = 1 := by
  have hend : timeoutOf (run (operationOf (checkFor "x")) silentWorld).1 =
      some "Pod 'p' has not printed message 'x' after 1 attempts (timeout 0s)" := by
    decide +kernel
  obtain ⟨a, t, hparse, ht, hsaid⟩ := exists_check hend
  obtain ⟨ending, hrun, -, htruthful, -⟩ :=
    exit_code_truthful hparse Console.screen ⟨[], [], none⟩ silentWorld
  have hplain : '[' ∉ t.message.toList := by
    rw [hsaid]
    decide +kernel
  rw [ht] at htruthful
  obtain ⟨report, rfl, truthful⟩ := htruthful shows_screen fun text htext => by
    rwa [List.mem_singleton.1 htext]
  exact ⟨a, report, hparse, hrun, truthful.timedOut.2 ⟨t, rfl⟩⟩

end Testbed.ExitCode
