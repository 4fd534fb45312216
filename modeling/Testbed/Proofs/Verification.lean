import Mathlib
import Testbed.Proofs.Turns

/-!
The two phases of a verification.

First the pods are listed until one of them is ready, then the log of that pod is read until it
holds the message. What ends a phase is read off its last call, and the first phase fixes what the
second one asks for.
-/

namespace Testbed.Verification

open Rehearsal
open Polling (Poll)
open Turns
open Cluster (nonEmpty Fault.isNotReady)

variable {τ α β : Type}

/-! ### What a call shows -/

/-- The pod that a list shows to be ready. -/
def sighted (c : Call τ) : Option Observation :=
  match c.request, c.answer with
  | .pods _ _, .ok listed =>
    match (listed.getD []).mapM Observation.ofPod with
    | .ok observed => observed.find? (·.isReady)
    | .error _ => none
  | _, _ => none

/-- The text that a log holds; it is empty when there is none yet. -/
def logged (c : Call τ) : Option String :=
  match c.request, c.answer with
  | .log _ _ _, .ok text => some (text.getD "")
  | .log _ _ _, .error f => if Fault.isNotReady f then some "" else none
  | _, _ => none

/-- The log that a call reads holds a text as one piece. -/
def Holds (text : String) (c : Call τ) : Prop :=
  ∃ log, logged c = some log ∧ ∃ before after, log.toList = before ++ text.toList ++ after

/-- The error that a call comes to by itself. -/
def failure (c : Call τ) : Option (Failure τ) :=
  match c.request, c.answer with
  | .pods _ _, .ok listed =>
    match (listed.getD []).mapM Observation.ofPod with
    | .ok _ => none
    | .error m => some (.refused (.misfit m))
  | .log _ _ _, .error f => if Fault.isNotReady f then none else some (.fault f)
  | _, .error f => some (.fault f)
  | _, .ok _ => none

/-- Whether the log that a call reads holds a text. -/
def heard (text : String) (c : Call τ) : Option Unit :=
  (logged c).bind fun log => if Text.occursIn text.toList log.toList then some () else none

lemma heard_iff {text : String} {c : Call τ} : heard text c = some () ↔ Holds text c := by
  unfold heard Holds
  cases logged c with
  | none => simp
  | some log =>
    have hiff : Text.occursIn text.toList log.toList = true ↔
        ∃ before after, log.toList = before ++ text.toList ++ after := by
      rw [Text.occursIn_iff]
      exact exists_congr fun _ => exists_congr fun _ => eq_comm
    simp only [Option.bind_some, Option.some.injEq, exists_eq_left', ← hiff]
    simp

lemma heard_eq_none {text : String} {c : Call τ} : heard text c = none ↔ ¬ Holds text c := by
  rw [← heard_iff]
  cases heard text c <;> simp

/-! ### One phase -/

/-- The last call shows what the phase is about, and those before do not. -/
def Ended (met : Call τ → Option α) (cs : List (Call τ)) (a : α) : Prop :=
  ∃ before last, cs = before ++ [last] ∧ (∀ c ∈ before, met c = none) ∧ met last = some a

lemma Ended.getLast {met : Call τ → Option α} {cs : List (Call τ)} {a : α} (h : Ended met cs a) :
    ∃ last, cs.getLast? = some last ∧ met last = some a := by
  obtain ⟨before, last, rfl, -, hlast⟩ := h
  exact ⟨last, List.getLast?_concat, hlast⟩

lemma Ended.unique {met : Call τ → Option α} {cs : List (Call τ)} {a b : α} (h : Ended met cs a)
    (h' : Ended met cs b) : a = b := by
  obtain ⟨last, hlast, hmet⟩ := h.getLast
  obtain ⟨last', hlast', hmet'⟩ := h'.getLast
  cases hlast.symm.trans hlast'
  exact Option.some.inj (hmet.symm.trans hmet')

lemma Ended.not_all {met : Call τ → Option α} {cs : List (Call τ)} {a : α} (h : Ended met cs a) :
    ¬ ∀ c ∈ cs, met c = none := by
  obtain ⟨before, last, rfl, -, hmet⟩ := h
  intro hall
  rw [hall last (List.mem_append_right _ (List.mem_singleton_self _))] at hmet
  cases hmet

lemma ended_heard_iff {text : String} {cs : List (Call τ)} :
    Ended (heard text) cs () ↔
      ∃ before last, cs = before ++ [last] ∧ (∀ c ∈ before, ¬ Holds text c) ∧ Holds text last := by
  unfold Ended
  simp only [heard_iff, heard_eq_none]

/-- A verdict is what can be read off a call. -/
def Reads (request : Request)
    (verdict : Except Fault request.Reply → Except (Failure τ) (Option α))
    (met : Call τ → Option α) : Prop :=
  ∀ start answer finish, (met ⟨start, request, answer, finish⟩,
      failure ⟨start, request, answer, finish⟩) =
    match verdict answer with
    | .ok found => (found, none)
    | .error e => (none, some e)

section

variable {request : Request} {verdict : Except Fault request.Reply → Except (Failure τ) (Option α)}
  {met : Call τ → Option α} {c : Call τ}

lemma Reads.ok (h : Reads request verdict met) {found : Option α}
    (hc : Finds verdict c (.ok found)) :
    met c = found ∧ failure c = none := by
  generalize hfound : Except.ok found = x at hc
  cases hc with
  | mk start answer finish =>
    have hread := h start answer finish
    rw [← hfound] at hread
    exact Prod.mk.inj hread

lemma Reads.error (h : Reads request verdict met) {e : Failure τ}
    (hc : Finds verdict c (.error e)) :
    met c = none ∧ failure c = some e := by
  generalize hfound : Except.error e = x at hc
  cases hc with
  | mk start answer finish =>
    have hread := h start answer finish
    rw [← hfound] at hread
    exact Prod.mk.inj hread

end

section

variable [Seconds τ]

/-- The error of a phase: that of its last call, or a timeout that tells of all of them. -/
inductive PhaseError (policy : Policy τ) (description : String) (start : τ) (cs : List (Call τ))
    (stop : τ) : Failure τ → Prop where
  | tooMany (h : policy.budget? = none) (none : cs = []) :
    PhaseError policy description start cs stop .tooManyChecks
  | own {last : Call τ} {e : Failure τ} (h : cs.getLast? = some last)
    (fails : failure last = some e) (atOnce : stop = last.finish) :
    PhaseError policy description start cs stop e
  | timedOut (h : cs ≠ []) (answered : ∀ c ∈ cs, failure c = none) :
    PhaseError policy description start cs stop
      (.timedOut ⟨description ++ " after " ++ toString cs.length ++ " attempts", policy.budget,
        cs.length, stop - start⟩)

/-- A phase that starts at some time, with its calls. -/
structure Phase (met : Call τ → Option α) (policy : Policy τ) (description : String) (start : τ)
    (cs : List (Call τ)) (result : Except (Failure τ) α) (stop : τ) : Prop where
  length_le : cs.length ≤ policy.maxAttempts
  ok_iff : ∀ a, result = .ok a ↔ Ended met cs a
  stop_eq : ∀ a last, result = .ok a → cs.getLast? = some last → stop = last.finish
  error : ∀ e, result = .error e →
    (∀ c ∈ cs, met c = none) ∧ PhaseError policy description start cs stop e

section

variable {met : Call τ → Option α} {policy : Policy τ} {description : String} {start stop : τ}
  {cs : List (Call τ)}

/-- A phase that comes to an error has shown nothing. -/
lemma Phase.failed {e : Failure τ} (le : cs.length ≤ policy.maxAttempts)
    (nothing : ∀ c ∈ cs, met c = none) (h : PhaseError policy description start cs stop e) :
    Phase met policy description start cs (.error e) stop where
  length_le := le
  ok_iff _ := ⟨fun h => (nomatch h), fun h => absurd nothing h.not_all⟩
  stop_eq _ _ h := nomatch h
  error _ he := Except.error.inj he ▸ ⟨nothing, h⟩

/-- A phase ends at once with what it is about. -/
lemma Phase.succeeded {a : α} (le : cs.length ≤ policy.maxAttempts) (h : Ended met cs a)
    (atOnce : ∀ last, cs.getLast? = some last → stop = last.finish) :
    Phase met policy description start cs (.ok a) stop where
  length_le := le
  ok_iff _ := ⟨fun hb => Except.ok.inj hb ▸ h, fun hb => congrArg Except.ok (h.unique hb)⟩
  stop_eq _ last _ hlast := atOnce last hlast
  error _ he := nomatch he

lemma phase_of_told {p : Poll τ α} {request : Request}
    {verdict : Except Fault request.Reply → Except (Failure τ) (Option α)}
    (reads : Reads request verdict met) {result : Except (Failure τ) α}
    (h : Told p start verdict cs result stop) :
    Phase met p.policy p.description start cs result stop := by
  cases h with
  | tooMany hnone => exact .failed (Nat.zero_le _) (by simp) (.tooMany hnone rfl)
  | @ended before last found _ _ le unmet decides ends =>
    have hbefore : ∀ c ∈ before, met c = none ∧ failure c = none := fun c hc =>
      reads.ok (unmet c hc)
    have hlength : (before ++ [last]).length = before.length + 1 := List.length_append
    have hle := hlength.trans_le le
    have all {P : Call τ → Prop} (h : ∀ c ∈ before, P c) (hlast : P last) :
        ∀ c ∈ before ++ [last], P c :=
      List.forall_mem_append.2 ⟨h, List.forall_mem_singleton.2 hlast⟩
    cases ends with
    | value a =>
      refine .succeeded hle ⟨before, last, rfl, fun c hc => (hbefore c hc).1, (reads.ok decides).1⟩
        fun c hc => ?_
      rw [List.getLast?_concat] at hc
      cases hc
      rfl
    | raised e =>
      obtain ⟨hmet, hfails⟩ := reads.error decides
      exact .failed hle (all (fun c hc => (hbefore c hc).1) hmet)
        (.own List.getLast?_concat hfails rfl)
    | timedOut =>
      obtain ⟨hmet, hfails⟩ := reads.ok decides
      refine .failed hle (all (fun c hc => (hbefore c hc).1) hmet) ?_
      unfold expiry
      rw [← hlength]
      exact .timedOut (by simp) (all (fun c hc => (hbefore c hc).2) hfails)

end

/-! ### The two polls -/

/-- What a list of pods tells. -/
def spot : Except Fault (Option (List Pod)) → Except (Failure τ) (Option Observation)
  | .error f => .error (.fault f)
  | .ok listed =>
    match (listed.getD []).mapM Observation.ofPod with
    | .ok observed => .ok (observed.find? (·.isReady))
    | .error m => .error (.refused (.misfit m))

/-- What the answer to a request for a log tells. -/
def reading : Except Fault (Option String) → Except (Failure τ) String
  | .ok log => .ok (log.getD "")
  | .error f => if Fault.isNotReady f then .ok "" else .error (.fault f)

/-- Whether a log tells a text. -/
def hear (text : String) (answer : Except Fault (Option String)) :
    Except (Failure τ) (Option Unit) :=
  (reading answer).map fun log => if Text.occursIn text.toList log.toList then some () else none

omit [Seconds τ] in
lemma judges_findRunning (ns selector : String) :
    Judges (Verify.findRunning ns selector : Program τ _) (.pods ns selector) spot := by
  refine congrArg (Program.ask (Request.pods ns selector)) (funext fun answer => ?_)
  cases answer with
  | error f => rfl
  | ok listed =>
    show (Program.ofExcept _ ((listed.getD []).mapM Observation.ofPod)).bind _ = _
    unfold spot
    simp only
    cases (listed.getD []).mapM Observation.ofPod <;> rfl

omit [Seconds τ] in
lemma reads_spot (ns selector : String) :
    Reads (τ := τ) (.pods ns selector) spot sighted := by
  intro start answer finish
  cases answer with
  | error f => rfl
  | ok listed =>
    simp only [sighted, failure, spot]
    cases (listed.getD []).mapM Observation.ofPod <;> rfl

/-- What is said when no pod gets ready. -/
def notRunning (selector : String) : String := "Pods matching '" ++ selector ++ "' are not running"

/-- What is said when the log does not hold the message. -/
def notPrinted (pod : Observation) (text : String) : String :=
  "Pod '" ++ pod.name ++ "' has not printed message '" ++ text ++ "'"

/-- The poll for a pod that is ready. -/
def searching (ns selector : String) (policy : Policy τ) : Poll τ Observation where
  check := Verify.findRunning ns selector
  policy := policy
  description := notRunning selector
  waiting := "Waiting for running pod '" ++ selector ++ "'"

/-- The poll for a message in a log. -/
def listening (pod : Observation) (text : String) (policy : Policy τ)
    (container : Option String) : Poll τ Unit where
  check := do
    let logged ← Verify.readLog pod container
    return if Text.occursIn text.toList logged.toList then some () else none
  policy := policy
  description := notPrinted pod text
  waiting := "Waiting for pod '" ++ pod.name ++ "' to log message"

omit [Seconds τ] in
lemma judges_readLog (pod : Observation) (container : Option String) :
    Judges (Verify.readLog pod container : Program τ _)
      (.log pod.name pod.ns (nonEmpty ((nonEmpty container).or pod.logContainer))) reading := by
  refine congrArg (Program.ask (Request.log _ _ _)) (funext fun answer => ?_)
  cases answer with
  | ok log => rfl
  | error f =>
    simp only [reading]
    cases Fault.isNotReady f <;> rfl

lemma judges_listening (pod : Observation) (text : String) (policy : Policy τ)
    (container : Option String) : Judges (listening pod text policy container).check
      (.log pod.name pod.ns (nonEmpty ((nonEmpty container).or pod.logContainer))) (hear text) := by
  show (Verify.readLog pod container).bind _ = _
  rw [judges_readLog]
  refine congrArg (Program.ask (Request.log _ _ _)) (funext fun answer => ?_)
  unfold hear
  beta_reduce
  cases (reading answer : Except (Failure τ) String) <;> rfl

omit [Seconds τ] in
lemma reads_hear (text : String) (pod ns : String) (container : Option String) :
    Reads (τ := τ) (.log pod ns container) (hear text) (heard text) := by
  intro start answer finish
  cases answer with
  | ok log => rfl
  | error f =>
    simp only [heard, logged, failure, hear, reading]
    cases Fault.isNotReady f <;> rfl

/-! ### The container -/

/-- What is named as the container when the log is read: the one that is given, else the first one
if several are declared. An empty name is never passed on. -/
inductive Target (container : Option String) (declared : List String) : Option String → Prop where
  | given {name : String} (h : container = some name) (ne : name ≠ "") :
    Target container declared (some name)
  | first {name other : String} {rest : List String}
    (blank : container = none ∨ container = some "") (h : declared = name :: other :: rest)
    (ne : name ≠ "") : Target container declared (some name)
  | unnamed (blank : container = none ∨ container = some "")
    (h : declared.length ≤ 1 ∨ ∃ rest, declared = "" :: rest) : Target container declared none

omit [Seconds τ] in
lemma target (pod : Observation) (container : Option String) :
    Target container pod.declared (nonEmpty ((nonEmpty container).or pod.logContainer)) := by
  have kept {name : String} (ne : name ≠ "") : nonEmpty (some name) = some name := by
    simp [nonEmpty, Option.filter, ne]
  by_cases blank : container = none ∨ container = some ""
  · have hblank : nonEmpty container = none := by
      rcases blank with rfl | rfl <;> rfl
    rw [hblank, Option.none_or]
    unfold Observation.logContainer
    split
    · rename_i name other rest hdeclared
      by_cases ne : name = ""
      · subst ne
        exact .unnamed blank (Or.inr ⟨_, hdeclared⟩)
      · rw [kept ne]
        exact .first blank hdeclared ne
    · rename_i hshort
      refine .unnamed blank (Or.inl ?_)
      rcases hdeclared : pod.declared with _ | ⟨name, _ | ⟨other, rest⟩⟩
      · exact Nat.zero_le _
      · exact Nat.le_refl _
      · exact absurd hdeclared (hshort name other rest)
  · cases container with
    | none => exact absurd (Or.inl rfl) blank
    | some name =>
      have ne : name ≠ "" := fun h => blank (Or.inr (congrArg some h))
      rw [kept ne, Option.some_or, kept ne]
      exact .given rfl ne

/-! ### Both phases -/

/-- What is done after a success. -/
def closing (said : α → List (Event τ)) : Except (Failure τ) α → List (Event τ)
  | .ok a => said a
  | .error _ => []

/-- A success is followed by a record in the log, and a failure by nothing. -/
lemma unfolds_noted {token : Option τ} {p : Program τ α} {level : Level} {message : α → String}
    {start stop : τ} {events : List (Event τ)} {result : Except (Failure τ) α}
    (h : Unfolds token (p.bind fun a => .note level (message a) (.done (.ok a))) start events
      result stop) :
    ∃ own, events = own ++ closing (fun a => [.noted level (message a)]) result ∧
      Unfolds token p start own result stop := by
  rcases unfolds_bind h with ⟨e, rfl, he⟩ | ⟨a, mid, first, second, rfl, hfirst, hsecond⟩
  · exact ⟨events, (List.append_nil events).symm, he⟩
  · cases hsecond with
    | note hsecond =>
      cases hsecond
      exact ⟨first, rfl, hfirst⟩

omit [Seconds τ] in
lemma callsIn_closing_noted (level : Level) (message : α → String)
    (result : Except (Failure τ) α) :
    callsIn (closing (fun a => [.noted level (message a)]) result) = [] := by
  cases result <;> rfl

lemma asked_of_told {p : Poll τ α} {start stop : τ} {request : Request}
    {verdict : Except Fault request.Reply → Except (Failure τ) (Option α)} {cs : List (Call τ)}
    {result : Except (Failure τ) α} (h : Told p start verdict cs result stop) :
    ∀ c ∈ cs, c.request = request := by
  cases h with
  | tooMany _ => simp
  | ended _ unmet decides _ =>
    exact List.forall_mem_append.2
      ⟨fun c hc => (unmet c hc).asked, List.forall_mem_singleton.2 decides.asked⟩

section

variable {ns selector : String} {policy : Policy τ} {start stop : τ} {events : List (Event τ)}

lemma phase_of_awaitRunning {result : Except (Failure τ) Observation}
    (h : Unfolds none (Verify.awaitRunning ns selector policy) start events result stop) :
    (∀ c ∈ callsIn events, c.request = .pods ns selector) ∧
      Phase sighted policy (notRunning selector) start (callsIn events) result stop := by
  obtain ⟨own, rfl, polled⟩ := unfolds_noted h
  rw [callsIn_append, callsIn_closing_noted, List.append_nil]
  have told :=
    told_of_unfolds (p := searching ns selector policy) (judges_findRunning ns selector) polled
  exact ⟨asked_of_told told, phase_of_told (reads_spot ns selector) told⟩

lemma phase_of_awaitLog {pod : Observation} {text : String} {container : Option String}
    {result : Except (Failure τ) Unit}
    (h : Unfolds none (Verify.awaitLog pod text policy container) start events result stop) :
    (∃ arg, Target container pod.declared arg ∧
        ∀ c ∈ callsIn events, c.request = .log pod.name pod.ns arg) ∧
      Phase (heard text) policy (notPrinted pod text) start (callsIn events) result stop := by
  obtain ⟨own, rfl, polled⟩ :=
    unfolds_noted (p := Polling.pollUntil (listening pod text policy container)) h
  rw [callsIn_append, callsIn_closing_noted, List.append_nil]
  have told := told_of_unfolds (judges_listening pod text policy container) polled
  exact ⟨⟨_, target pod container, asked_of_told told⟩, phase_of_told (reads_hear text _ _ _) told⟩

end

/-- A verification that starts at some time, with the lists of pods and the logs that it asks
for. -/
structure Composed (ns selector : String) (policy : Policy τ) (message container : Option String)
    (start : τ) (lists logs : List (Call τ)) (result : Except (Failure τ) Observation) (stop : τ) :
    Prop where
  lists_asked : ∀ c ∈ lists, c.request = .pods ns selector
  lists_le : lists.length ≤ policy.maxAttempts
  logs_le : logs.length ≤ policy.maxAttempts
  no_logs : message = none ∨ (∀ c ∈ lists, sighted c = none) → logs = []
  logs_asked : logs ≠ [] → ∃ pod arg, Ended sighted lists pod ∧ Target container pod.declared arg ∧
    ∀ c ∈ logs, c.request = .log pod.name pod.ns arg
  returns : ∀ pod, result = .ok pod ↔ Ended sighted lists pod ∧ ∀ text, message = some text →
    ∃ before last, logs = before ++ [last] ∧ (∀ c ∈ before, ¬ Holds text c) ∧ Holds text last
  fails : ∀ e, result = .error e →
    (∀ c ∈ lists, sighted c = none) ∧ logs = [] ∧
        PhaseError policy (notRunning selector) start lists stop e ∨
      ∃ pod text last, Ended sighted lists pod ∧ lists.getLast? = some last ∧ message = some text ∧
        (∀ c ∈ logs, ¬ Holds text c) ∧
        PhaseError policy (notPrinted pod text) last.finish logs stop e

namespace Composed

variable {ns selector : String} {policy : Policy τ} {message container : Option String}
  {start mid stop : τ} {lists logs : List (Call τ)} {pod : Observation}

/-- The first phase comes to an error. -/
lemma missing {e : Failure τ} (asked : ∀ c ∈ lists, c.request = .pods ns selector)
    (phase : Phase sighted policy (notRunning selector) start lists (.error e) stop) :
    Composed ns selector policy message container start lists [] (.error e) stop := by
  obtain ⟨hnone, herror⟩ := phase.error e rfl
  exact {
    lists_asked := asked
    lists_le := phase.length_le
    logs_le := Nat.zero_le _
    no_logs := fun _ => rfl
    logs_asked := fun h => absurd rfl h
    returns := fun _ => ⟨fun h => (nomatch h), fun h => absurd hnone h.1.not_all⟩
    fails := fun _ he => Except.error.inj he ▸ Or.inl ⟨hnone, rfl, herror⟩ }

/-- There is no message, so the first phase is all there is. -/
lemma unasked (asked : ∀ c ∈ lists, c.request = .pods ns selector)
    (phase : Phase sighted policy (notRunning selector) start lists (.ok pod) stop) :
    Composed ns selector policy none container start lists [] (.ok pod) stop where
  lists_asked := asked
  lists_le := phase.length_le
  logs_le := Nat.zero_le _
  no_logs _ := rfl
  logs_asked h := absurd rfl h
  returns pod' := (phase.ok_iff pod').trans ⟨fun h => ⟨h, by simp⟩, fun h => h.1⟩
  fails _ he := nomatch he

/-- The second phase starts when the first one has found its pod, and decides. -/
lemma followed {text : String} {arg : Option String} {found : Except (Failure τ) Unit}
    (asked : ∀ c ∈ lists, c.request = .pods ns selector)
    (phase : Phase sighted policy (notRunning selector) start lists (.ok pod) mid)
    (target : Target container pod.declared arg)
    (asked' : ∀ c ∈ logs, c.request = .log pod.name pod.ns arg)
    (phase' : Phase (heard text) policy (notPrinted pod text) mid logs found stop) :
    Composed ns selector policy (some text) container start lists logs (found.map fun _ => pod)
      stop := by
  have hpod := (phase.ok_iff pod).1 rfl
  obtain ⟨last, hlast, -⟩ := hpod.getLast
  have hmid : mid = last.finish := phase.stop_eq pod last rfl hlast
  refine ⟨asked, phase.length_le, phase'.length_le, ?_, fun _ => ⟨pod, arg, hpod, target, asked'⟩,
    fun pod' => ?_, fun e he => ?_⟩
  · rintro (hnone | hnone)
    · cases hnone
    · exact absurd hnone hpod.not_all
  · have hiff := (phase'.ok_iff ()).trans ended_heard_iff
    cases found with
    | error e =>
      refine iff_of_false (fun h => nomatch h) fun h => ?_
      exact nomatch hiff.2 (h.2 text rfl)
    | ok u =>
      refine ⟨fun h => ?_, fun h => congrArg Except.ok (hpod.unique h.1)⟩
      obtain rfl : pod = pod' := Except.ok.inj h
      exact ⟨hpod, fun _ ht => Option.some.inj ht ▸ hiff.1 rfl⟩
  · cases found with
    | ok u => cases he
    | error e' =>
      obtain rfl : e' = e := Except.error.inj he
      obtain ⟨hnone, herror⟩ := phase'.error e' rfl
      rw [hmid] at herror
      exact Or.inr ⟨pod, text, last, hpod, hlast, rfl,
        fun c hc => heard_eq_none.1 (hnone c hc), herror⟩

end Composed

lemma composed_of_unfolds {ns selector : String} {policy : Policy τ}
    {message container : Option String} {start stop : τ} {events : List (Event τ)}
    {result : Except (Failure τ) Observation}
    (unfolds : Unfolds none (Verify.verify ns selector policy message container) start events
      result stop) : ∃ lists logs, callsIn events = lists ++ logs ∧
        Composed ns selector policy message container start lists logs result stop := by
  cases Deadline.phases_of_unfolds unfolds with
  | @missing events e stop h =>
    obtain ⟨asked, phase⟩ := phase_of_awaitRunning h
    exact ⟨callsIn events, [], (List.append_nil _).symm, .missing asked phase⟩
  | @running events pod stop hmessage h =>
    obtain ⟨asked, phase⟩ := phase_of_awaitRunning h
    subst hmessage
    exact ⟨callsIn events, [], (List.append_nil _).symm, .unasked asked phase⟩
  | @logged first second pod text found mid stop hmessage h h' =>
    obtain ⟨asked, phase⟩ := phase_of_awaitRunning h
    obtain ⟨⟨arg, target, asked'⟩, phase'⟩ := phase_of_awaitLog h'
    subst hmessage
    exact ⟨callsIn first, callsIn second, callsIn_append _ _,
      .followed asked phase target asked' phase'⟩

end

/-! ### Main result -/

/-- **A verification is composed of its two phases.** Without a token all lists of pods come before
all logs, and the pod that is found says which log is read. It is returned if and only if the last
list shows it to be ready and, when there is a message, the last log holds it. Otherwise the
verification comes to the error of the phase that it is in. -/
theorem verify_composes_phases [Seconds τ] (ns selector : String) (policy : Policy τ)
    (message container : Option String) (r : Rehearsal τ) (untold : r.cancelAt = none) :
    ∃ lists logs, calls (Verify.verify ns selector policy message container) r = lists ++ logs ∧
      Composed ns selector policy message container r.clock lists logs
        (run (Verify.verify ns selector policy message container) r).1
        (run (Verify.verify ns selector policy message container) r).2.clock := by
  have h := unfolds_run (Verify.verify ns selector policy message container) r
  rw [untold] at h
  exact composed_of_unfolds h

/-- A pod of two containers that gets ready, and a log that starts late. -/
def lateLog : Rehearsal Rat :=
  let ready : Pod := ⟨some ⟨.text "demo", .text "tests"⟩, .text "Running",
    [(.text "app", .bool true), (.text "proxy", .bool true)], [.text "app", .text "proxy"]⟩
  let waiting : Fault := .status 400 none (some "container is waiting to start")
  { Truncation.neverMet with
    cost := 1
    script := ⟨[], [some [], some [ready]], [.ok none, .error waiting, .ok (some "now ready")], [],
      true, none⟩ }

/-- The second list shows the pod, and at the third time its log holds the message. -/
theorem late_log_is_heard :
    let policy : Policy Rat := ⟨3, 2, by decide, by decide⟩
    let p := Verify.verify "tests" "app=demo" policy (some "ready") (some "")
    lateLog.cancelAt = none ∧
      (run p lateLog).1.toOption = some ⟨"demo", "tests", "Running",
        [⟨"app", true⟩, ⟨"proxy", true⟩], ["app", "proxy"]⟩ ∧
      (calls p lateLog).map (·.start) = [0, 2, 3, 5, 7] ∧
      ∃ lists logs, calls p lateLog = lists ++ logs ∧
        Composed "tests" "app=demo" policy (some "ready") (some "") 0 lists logs
          (run p lateLog).1 (run p lateLog).2.clock := by
  intro policy p
  have hrun : (run p lateLog).1.toOption = some ⟨"demo", "tests", "Running",
      [⟨"app", true⟩, ⟨"proxy", true⟩], ["app", "proxy"]⟩ := by
    decide +kernel
  have hstarts : (calls p lateLog).map (·.start) = [0, 2, 3, 5, 7] := by decide +kernel
  exact ⟨rfl, hrun, hstarts,
    verify_composes_phases "tests" "app=demo" policy (some "ready") (some "") lateLog rfl⟩

end Testbed.Verification
