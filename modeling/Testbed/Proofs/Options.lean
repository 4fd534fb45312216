import Mathlib
import Testbed.Proofs.ExitCode
import Testbed.Proofs.Pacing
import Testbed.Proofs.Verification

/-!
What the options of a verification come to.

A number of checks or a delay that is given on the line goes before that of the settings, and one
that no policy can have ends the command before anything is asked of a cluster. Only a number of
zero is passed over: it counts as no number being given.
-/

namespace Testbed.Options

open CommandLine
open ExitCode (End)
open Pacing (only only_append)
open Rehearsal
open Verification (Composed PhaseError)

/-! ### The policy -/

section

variable {attempts : Option Int} {delay : Option Float} {s : Settings Float}

/-- One of the options is no part of any policy. -/
def Impossible (attempts : Option Int) (delay : Option Float) : Prop :=
  (∃ n, attempts = some n ∧ n < 0) ∨ ∃ d, delay = some d ∧ ¬ 0 ≤ d

/-- The policy is that of the options, and where these say nothing, that of the settings. -/
structure Follows (attempts : Option Int) (delay : Option Float) (s : Settings Float)
    (policy : Policy Float) : Prop where
  checks : ∀ n, attempts = some n → n ≠ 0 → (policy.maxAttempts : Int) = n
  /-- Zero checks count as nothing being said. -/
  usualChecks : attempts = none ∨ attempts = some 0 → policy.maxAttempts = s.policy.maxAttempts
  pace : ∀ d, delay = some d → policy.delay = d
  usualPace : delay = none → policy.delay = s.policy.delay
  usual : attempts = none → delay = none → policy = s.policy

/-- The number of checks that is asked for. -/
def chosen (attempts : Option Int) (s : Settings Float) : Int :=
  (attempts.filter (· != 0)).getD s.policy.maxAttempts

lemma chosen_some {n : Int} (h : n ≠ 0) : chosen (some n) s = n := by
  simp [chosen, Option.filter, h]

lemma chosen_usual (h : attempts = none ∨ attempts = some 0) :
    chosen attempts s = s.policy.maxAttempts := by
  rcases h with rfl | rfl <;> rfl

lemma chosen_pos_iff : 0 < chosen attempts s ↔ ¬ ∃ n, attempts = some n ∧ n < 0 := by
  have usual : (0 : Int) < s.policy.maxAttempts := by exact_mod_cast s.policy.maxAttempts_pos
  cases attempts with
  | none => simpa [chosen_usual] using usual
  | some n =>
    by_cases hn : n = 0
    · subst hn
      simpa [chosen_usual] using usual
    · simp only [chosen_some hn, Option.some.injEq, exists_eq_left']
      omega

lemma nonneg_iff : 0 ≤ delay.getD s.policy.delay ↔ ¬ ∃ d, delay = some d ∧ ¬ 0 ≤ d := by
  cases delay with
  | none => simpa using s.policy.delay_nonneg
  | some d => simp

lemma wholeAbove_int (bound : Nat) (n : Int) : Validation.wholeAbove bound (.int n) =
    if h : (bound : Int) < n then .ok ⟨n, h⟩ else .error (.notAbove bound) := rfl

lemma numberFromZero_float (d : Float) : Validation.numberFromZero (.float d) =
    if h : 0 ≤ d then .ok ⟨d, h⟩ else .error (.below 0) := rfl

/-- A policy is made if there can be one. -/
lemma policy_ok (h : ¬ Impossible attempts delay) :
    ∃ policy, CommandLine.policy attempts delay s = .ok policy ∧ Follows attempts delay s policy := by
  obtain ⟨hchecks, hpace⟩ := not_or.1 h
  have hn : 0 < chosen attempts s := chosen_pos_iff.2 hchecks
  have hd : 0 ≤ delay.getD s.policy.delay := nonneg_iff.2 hpace
  refine ⟨.ofChecked (chosen attempts s) hn ⟨_, hd⟩, ?_, ?_⟩
  · show Policy.ofFields [("max_attempts", .int (chosen attempts s)),
      ("delay", .float (delay.getD s.policy.delay))] = _
    simp [Policy.ofFields, Validation.required, List.lookup, wholeAbove_int, numberFromZero_float,
      hn, hd]
  have hcount : ((Policy.ofChecked (chosen attempts s) hn ⟨_, hd⟩).maxAttempts : Int) =
      chosen attempts s := Int.toNat_of_nonneg hn.le
  constructor
  case checks =>
    rintro n rfl hne
    exact hcount.trans (chosen_some hne)
  case usualChecks =>
    intro hnone
    exact_mod_cast hcount.trans (chosen_usual hnone)
  case pace =>
    rintro d rfl
    rfl
  case usualPace =>
    rintro rfl
    rfl
  case usual =>
    rintro rfl rfl
    rfl

lemma policy_error (h : Impossible attempts delay) :
    ∃ e, CommandLine.policy attempts delay s = .error e := by
  show ∃ e, Policy.ofFields [("max_attempts", .int (chosen attempts s)),
    ("delay", .float (delay.getD s.policy.delay))] = .error e
  by_cases hn : 0 < chosen attempts s
  · have hd : ¬ 0 ≤ delay.getD s.policy.delay :=
      fun hd => h.elim (chosen_pos_iff.1 hn) (nonneg_iff.1 hd)
    simp [Policy.ofFields, Validation.required, List.lookup, wholeAbove_int, numberFromZero_float,
      hn, hd]
  · simp [Policy.ofFields, Validation.required, List.lookup, wholeAbove_int, hn]

end

/-! ### What is done under a policy -/

/-- The program of a verification: to connect, and then to verify under a policy. -/
def verification (a : Arguments) (s : Settings Float) (name : String) (ns message : Option String)
    (container : Option String) (policy : Policy Float) : Program Float Result := do
  connect a s
  let selector := s.workloadLabel ++ "=" ++ name
  let pod ← Verify.verify ((Cluster.nonEmpty ns).getD s.ns) selector policy message container
  return .verified pod selector

/-- No more lists of pods and no more logs are asked for than the policy has checks, and a timeout
is that of the policy. -/
structure Keeps (policy : Policy Float) (cs : List (Call Float)) (result : End) : Prop where
  lists : (only .pods cs).length ≤ policy.maxAttempts
  logs : (only .log cs).length ≤ policy.maxAttempts
  timeout : ∀ t, result = .error (.timedOut t) →
    t.timeout = Seconds.ofNat policy.maxAttempts * policy.delay

/-- The call is about access to the cluster. -/
def IsAccess (c : Call Float) : Prop :=
  c.request.call = .ownAccess ∨ c.request.call = .fileAccess

section

variable {token : Option Float} {start stop : Float} {events : List (Event Float)}

/-- Connecting asks for access alone, and is not about time. -/
lemma connect_unfolds {file context : Option String} {result : Except (Failure Float) Unit}
    (h : Unfolds token (Cluster.connect file context) start events result stop) :
    (∀ c ∈ callsIn events, IsAccess c) ∧ ∀ t, result ≠ .error (.timedOut t) := by
  unfold Cluster.connect at h
  cases h with
  | ask answer finish h =>
    have own : IsAccess (⟨start, .ownAccess, answer, finish⟩ : Call Float) := Or.inl rfl
    match answer with
    | .ok () =>
      cases h
      exact ⟨List.forall_mem_singleton.2 own, nofun⟩
    | .error (.noAccess _) =>
      cases h with
      | ask answer' finish' h =>
        refine ⟨List.forall_mem_cons.2 ⟨own, ?_⟩, ?_⟩
        · cases answer' <;> cases h <;> exact List.forall_mem_singleton.2 (Or.inr rfl)
        · cases answer' <;> cases h <;> nofun
    | .error (.status _ _ _) | .error (.broken _) =>
      cases h
      exact ⟨List.forall_mem_singleton.2 own, nofun⟩

lemma failure_ne_timedOut (c : Call Float) (t : Timeout Float) :
    Verification.failure c ≠ some (.timedOut t) := by
  unfold Verification.failure
  repeat' split
  all_goals nofun

lemma timeout_of_phaseError {policy : Policy Float} {description : String}
    {cs : List (Call Float)} {t : Timeout Float}
    (h : PhaseError policy description start cs stop (.timedOut t)) :
    t.timeout = policy.budget := by
  cases h with
  | own _ fails _ => exact absurd fails (failure_ne_timedOut _ _)
  | timedOut _ _ => rfl

lemma keeps_of_composed {ns selector : String} {policy : Policy Float}
    {message container : Option String} {access lists logs : List (Call Float)}
    {result : Except (Failure Float) Observation} (asks : ∀ c ∈ access, IsAccess c)
    (h : Composed ns selector policy message container start lists logs result stop) :
    Keeps policy (access ++ (lists ++ logs)) (result.map fun pod => .verified pod selector) := by
  have hlogs : ∀ c ∈ logs, c.request.call = .log := by
    intro c hc
    obtain ⟨pod, arg, -, -, asked⟩ := h.logs_asked (List.ne_nil_of_mem hc)
    rw [asked c hc]
    rfl
  have none {kind : Request.Call} {cs : List (Call Float)}
      (hcs : ∀ c ∈ cs, c.request.call ≠ kind) : only kind cs = [] :=
    List.filter_eq_nil_iff.2 fun c hc => by simpa using hcs c hc
  constructor
  case lists =>
    have haccess : only .pods access = [] := none fun c hc => by
      rcases asks c hc with hr | hr <;> simp [hr]
    have hlogs : only .pods logs = [] := none fun c hc => by simp [hlogs c hc]
    rw [only_append, only_append, haccess, hlogs, List.nil_append, List.append_nil]
    exact (List.length_filter_le _ _).trans h.lists_le
  case logs =>
    have haccess : only .log access = [] := none fun c hc => by
      rcases asks c hc with hr | hr <;> simp [hr]
    have hlists : only .log lists = [] := none fun c hc => by
      rw [h.lists_asked c hc]
      nofun
    rw [only_append, only_append, haccess, hlists, List.nil_append, List.nil_append]
    exact (List.length_filter_le _ _).trans h.logs_le
  case timeout =>
    intro t ht
    cases result with
    | ok pod => cases ht
    | error e =>
      obtain rfl : e = .timedOut t := Except.error.inj ht
      rcases h.fails _ rfl with ⟨-, -, herror⟩ | ⟨pod, text, last, -, -, -, -, herror⟩
      · exact timeout_of_phaseError herror
      · exact timeout_of_phaseError herror

lemma keeps_of_unfolds {a : Arguments} {s : Settings Float} {name : String}
    {ns message container : Option String} {policy : Policy Float} {result : End}
    (h : Unfolds none (verification a s name ns message container policy) start events result
      stop) : Keeps policy (callsIn events) result := by
  rcases unfolds_bind h with ⟨e, rfl, he⟩ | ⟨_, mid, first, rest, rfl, hfirst, hrest⟩
  · obtain ⟨asks, untimed⟩ := connect_unfolds he
    have few {kind : Request.Call} (h : kind ≠ .ownAccess ∧ kind ≠ .fileAccess) :
        (only kind (callsIn events)).length ≤ policy.maxAttempts := by
      have hnone : only kind (callsIn events) = [] :=
        List.filter_eq_nil_iff.2 fun c hc => by
          rcases asks c hc with hr | hr <;> simp [hr, h.1.symm, h.2.symm]
      simp [hnone]
    refine ⟨few (by decide), few (by decide), fun t ht => ?_⟩
    cases ht
    exact absurd rfl (untimed t)
  · obtain ⟨asks, -⟩ := connect_unfolds hfirst
    rw [callsIn_append]
    rcases unfolds_bind hrest with ⟨e, rfl, he⟩ | ⟨pod, mid', second, last, rfl, hpod, hlast⟩
    · obtain ⟨lists, logs, hcalls, composed⟩ := Verification.composed_of_unfolds he
      rw [hcalls]
      exact keeps_of_composed asks composed
    · obtain ⟨lists, logs, hcalls, composed⟩ := Verification.composed_of_unfolds hpod
      cases hlast
      rw [List.append_nil, hcalls]
      exact keeps_of_composed asks composed

end

/-! ### Main result -/

/-- A report asks for nothing. -/
lemma calls_report (screen : Console.Screen) (result : End) (r : Rehearsal Float) :
    calls (report screen result) r = [] := by
  unfold report
  repeat' split
  all_goals rfl

section

variable {line : List String} {a : Arguments} (hparse : parse line = .ok a)
  (screen : Console.Screen) (sources : Settings.Sources) (r : Rehearsal Float)

include hparse

/-- A line runs its operation, and then reports how that has ended. -/
lemma run_line : run (CommandLine.run screen line sources) r =
    run (report screen (run (operation a sources) r).1) (run (operation a sources) r).2 := by
  rw [CommandLine.run, hparse]
  exact run_bind_ok (run_attempt _ _)

lemma calls_line :
    calls (CommandLine.run screen line sources) r = calls (operation a sources) r := by
  have hrun : CommandLine.run screen line sources =
      (operation a sources).attempt.bind (report screen) := by
    rw [CommandLine.run, hparse]
    rfl
  rw [hrun, calls_bind_ok (run_attempt _ _), calls_report, List.append_nil]
  unfold calls
  rw [trace_attempt]

end

lemma operation_eq {a : Arguments} {name : String} {ns message container : Option String}
    {attempts : Option Int} {delay : Option Float}
    (command : a.command = .verify name ns message container attempts delay)
    {sources : Settings.Sources} {s : Settings Float} (settings : Settings.load sources = .ok s) :
    operation a sources = (Program.ofExcept invalid (policy attempts delay s)).bind
      (verification a s name ns message container) := by
  unfold operation perform
  rw [settings, command]
  rfl

/-- **Options are honoured or refused, but for zero checks.** A number of checks or a delay that no
policy can have ends the command with the code of a failure, and nothing is asked of a cluster.
Otherwise the verification goes by a policy of the options given and of the settings for the rest:
it asks for as many lists and logs at most as the policy has checks, and a timeout that it reports
is that number times the delay. -/
theorem options_honoured_or_refused {line : List String} {a : Arguments}
    (hparse : parse line = .ok a) {name : String} {ns message container : Option String}
    {attempts : Option Int} {delay : Option Float}
    (command : a.command = .verify name ns message container attempts delay)
    {sources : Settings.Sources} {s : Settings Float} (settings : Settings.load sources = .ok s)
    (screen : Console.Screen) (r : Rehearsal Float) (untold : r.cancelAt = none) :
    (Impossible attempts delay → calls (CommandLine.run screen line sources) r = [] ∧
      ∃ report, (run (CommandLine.run screen line sources) r).1 = .ok (.ran report) ∧
        report.code = 2) ∧
    (¬ Impossible attempts delay → ∃ policy, Follows attempts delay s policy ∧
      operation a sources = verification a s name ns message container policy ∧
      Keeps policy (calls (CommandLine.run screen line sources) r)
        (run (operation a sources) r).1 ∧
      ∀ t, (run (operation a sources) r).1 = .error (.timedOut t) →
        (run (CommandLine.run screen line sources) r).1 = .ok (timedOut screen t)) := by
  have hoperation := operation_eq command settings
  rw [calls_line hparse, run_line hparse]
  constructor
  · intro impossible
    obtain ⟨e, he⟩ := policy_error (s := s) impossible
    rw [hoperation, he]
    exact ⟨rfl, _, rfl, rfl⟩
  · intro possible
    obtain ⟨policy, hpolicy, follows⟩ := policy_ok (s := s) possible
    rw [hpolicy] at hoperation
    have unfolds := unfolds_run (verification a s name ns message container policy) r
    rw [untold] at unfolds
    refine ⟨policy, follows, hoperation, ?_, fun t ht => ?_⟩
    · rw [hoperation]
      exact keeps_of_unfolds unfolds
    · rw [ht]
      rfl

/-! ### A number of checks on the line -/

/-- A verification for which this number of checks is given. -/
def checking (number : String) : List String := ["verify", "w", "--max-attempts", number]

/-- Where nothing else is said, two checks are made, one right after the other. -/
def twice : Settings.Sources :=
  ⟨[], [("KUBE_TESTKIT_MAX_ATTEMPTS", "2"), ("KUBE_TESTKIT_DELAY_BETWEEN_ATTEMPTS", "0")], none⟩

/-- A cluster without pods. -/
def emptyWorld : Rehearsal Float :=
  { ExitCode.silentWorld with script := { ExitCode.silentWorld.script with pods := [] } }

/-- The number of checks that is given, if the line asks for a verification and gives no delay. -/
def checksGiven : Except Stop Arguments → Option Int
  | .ok ⟨_, _, _, .verify _ _ _ _ attempts none⟩ => attempts
  | _ => none

lemma exists_verify {line : List String} {n : Int} (h : checksGiven (parse line) = some n) :
    ∃ a name ns message container, parse line = .ok a ∧
      a.command = .verify name ns message container (some n) none := by
  unfold checksGiven at h
  split at h
  · subst h
    exact ⟨_, _, _, _, _, ‹_›, rfl⟩
  · cases h

/-- The number of checks in the settings. -/
def checksSet (settings : Except Invalid (Settings Float)) : Option Nat :=
  settings.toOption.map (·.policy.maxAttempts)

/-- One check is made where the settings have two. -/
theorem one_check_made : ∃ a s policy, parse (checking "1") = .ok a ∧
    Settings.load twice = .ok s ∧ s.policy.maxAttempts = 2 ∧ policy.maxAttempts = 1 ∧
    policy.delay = s.policy.delay ∧
    Keeps policy (calls (CommandLine.run Console.screen (checking "1") twice) emptyWorld)
      (run (operation a twice) emptyWorld).1 := by
  have hgiven : checksGiven (parse (checking "1")) = some 1 := by decide +kernel
  have hset : checksSet (Settings.load twice) = some 2 := by decide +kernel
  obtain ⟨a, name, ns, message, container, hparse, command⟩ := exists_verify hgiven
  cases hload : Settings.load twice with
  | error e =>
    rw [hload] at hset
    cases hset
  | ok s =>
    rw [hload] at hset
    have possible : ¬ Impossible (some 1) none := by simp [Impossible]
    obtain ⟨policy, follows, -, keeps, -⟩ :=
      (options_honoured_or_refused hparse command hload Console.screen emptyWorld rfl).2 possible
    have hchecks := follows.checks 1 rfl one_ne_zero
    exact ⟨a, s, policy, hparse, rfl, Option.some.inj hset, by exact_mod_cast hchecks,
      follows.usualPace rfl, keeps⟩

/-- The exit code of a command that has run. -/
def codeOf : Except (Failure Float) Ending → Option Nat
  | .ok (.ran report) => some report.code
  | _ => none

/-- Where no check at all is asked for, the two of the settings are made. -/
theorem zero_checks_passed_over : checksGiven (parse (checking "0")) = some 0 ∧
    (only .pods (calls (CommandLine.run Console.screen (checking "0") twice) emptyWorld)).length =
      2 ∧
    codeOf (run (CommandLine.run Console.screen (checking "0") twice) emptyWorld).1 = some 1 := by
  refine ⟨?_, ?_, ?_⟩ <;> decide +kernel

end Testbed.Options
