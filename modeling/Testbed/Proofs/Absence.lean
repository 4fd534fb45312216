import Mathlib
import Testbed.Proofs.Deadline
import Testbed.Proofs.DryRun
import Testbed.Proofs.Requests
import Testbed.Proofs.Verification

/-!
What is absent is absent in one way only.

Discovery has several ways to say that a type is not served, and a cluster several ways to say that
there is no log yet. No operation tells them apart: where one such answer takes the place of
another, the run is the same from there on.
-/

namespace Testbed.Absence

open Rehearsal
open Bootstrap (Kit exists_kit)
open Install (Target Serving)
open Polling (Poll)
open Yaml (Value)

variable {τ α β : Type}

/-! ### Another answer -/

/-- What an answer may mean, for each request. -/
abbrev Meaning := ∀ request : Request, Except Fault request.Reply → Prop

/-- The program, which takes another answer for that to one of its requests. -/
def told (other : ∀ request : Request, Except Fault request.Reply) :
    Nat → Program τ α → Program τ α
  | _, .done result => .done result
  | 0, .ask request next => .ask request fun _ => next (other request)
  | n + 1, .ask request next => .ask request fun answer => told other n (next answer)
  | n, .now next => .now fun t => told other n (next t)
  | n, .isCancelled next => .isCancelled fun b => told other n (next b)
  | n, .pause length next => .pause length fun b => told other n (next b)
  | n, .note level message next => .note level message (told other n next)

/-- All answers with this meaning lead to the same program. -/
inductive Uniform (A : Meaning) : Program τ α → Prop where
  | done (result : Except (Failure τ) α) : Uniform A (.done result)
  | ask {request : Request} {next : Except Fault request.Reply → Program τ α}
    (same : ∀ answer answer', A request answer → A request answer' → next answer = next answer')
    (goes : ∀ answer, Uniform A (next answer)) : Uniform A (.ask request next)
  | now {next : τ → Program τ α} (h : ∀ t, Uniform A (next t)) : Uniform A (.now next)
  | isCancelled {next : Bool → Program τ α} (h : ∀ b, Uniform A (next b)) :
    Uniform A (.isCancelled next)
  | pause {length : τ} {next : Bool → Program τ α} (h : ∀ b, Uniform A (next b)) :
    Uniform A (.pause length next)
  | note {level : Level} {message : String} {next : Program τ α} (h : Uniform A next) :
    Uniform A (.note level message next)

variable [Seconds τ] {A : Meaning}

/-- In every run an answer with some meaning can take the place of another one: the result, all
that the run does and the state in which it ends stay the same. What it means may depend on the
number of the call. -/
def Unmoved (A : Nat → Meaning) (p : Program τ α) : Prop :=
  ∀ (r : Rehearsal τ) (n : Nat) (c : Call τ) (other : ∀ request, Except Fault request.Reply),
    (calls p r)[n]? = some c → A n c.request c.answer → A n c.request (other c.request) →
      run (told other n p) r = run p r ∧ trace (told other n p) r = trace p r

/-- The first answer makes no difference, and none of the others does. -/
lemma Unmoved.ask {A : Nat → Meaning} {request : Request}
    {next : Except Fault request.Reply → Program τ α}
    (first : ∀ answer answer', A 0 request answer → A 0 request answer' →
      next answer = next answer')
    (rest : ∀ answer, Unmoved (fun n => A (n + 1)) (next answer)) :
    Unmoved A (.ask request next) := by
  intro r n c other hc ha ho
  cases n with
  | zero =>
    obtain rfl : r.callOf request = c := Option.some.inj hc
    have hnext : next (other request) = next (r.answer request).1 := first _ _ ho ha
    unfold told
    simp only [run, trace, hnext, and_self]
  | succ n =>
    rw [calls_ask, List.getElem?_cons_succ] at hc
    obtain ⟨hrun, htrace⟩ := rest _ _ n c other hc ha ho
    exact ⟨hrun, congrArg (_ :: ·) htrace⟩

/-- **Runs of a uniform program are unmoved.** -/
theorem Uniform.unmoved {p : Program τ α} (h : Uniform A p) : Unmoved (fun _ => A) p := by
  induction h with
  | done result =>
    intro r n c other hc
    simp [calls, trace] at hc
  | ask same _ ih => exact .ask same ih
  | now _ ih => exact fun r n c other hc ha ho => ih r.clock r n c other hc ha ho
  | isCancelled _ ih =>
    intro r n c other hc ha ho
    obtain ⟨hrun, htrace⟩ := ih r.isCancelled r n c other hc ha ho
    exact ⟨hrun, congrArg (_ :: ·) htrace⟩
  | pause _ ih =>
    intro r n c other hc ha ho
    obtain ⟨hrun, htrace⟩ := ih _ _ n c other hc ha ho
    exact ⟨hrun, congrArg (_ :: ·) htrace⟩
  | note _ ih =>
    intro r n c other hc ha ho
    obtain ⟨hrun, htrace⟩ := ih _ n c other hc ha ho
    exact ⟨hrun, congrArg (_ :: ·) htrace⟩

/-! ### Uniform programs -/

namespace Uniform

omit [Seconds τ] in
lemma bind {p : Program τ α} {f : α → Program τ β} (hp : Uniform A p)
    (hf : ∀ a, Uniform A (f a)) : Uniform A (p.bind f) := by
  induction hp with
  | done result =>
    cases result with
    | ok a => exact hf a
    | error e => exact done _
  | ask same _ ih => exact ask (fun a a' h h' => by rw [same a a' h h']) ih
  | now _ ih => exact now ih
  | isCancelled _ ih => exact isCancelled ih
  | pause _ ih => exact pause ih
  | note _ ih => exact note ih

/-- Answers to its requests do not have that meaning at all. -/
lemma ofAsks {P : Request → Prop} {p : Program τ α} (h : Asks P p)
    (never : ∀ request answer, P request → ¬ A request answer) : Uniform A p := by
  induction h with
  | done result => exact done result
  | ask h _ ih => exact ask (fun a _ ha => absurd ha (never _ a h)) ih
  | now _ ih => exact now ih
  | isCancelled _ ih => exact isCancelled ih
  | pause _ _ ih => exact pause ih
  | note _ ih => exact note ih

omit [Seconds τ] in
/-- An answer with that meaning has a single verdict. -/
lemma judged {request : Request} {verdict : Except Fault request.Reply → Except (Failure τ) α}
    {result : Except (Failure τ) α} (h : ∀ answer, A request answer → verdict answer = result) :
    Uniform A (.ask request fun answer => .done (verdict answer)) :=
  .ask (fun a a' ha ha' => by rw [h a ha, h a' ha']) fun _ => .done _

lemma quiet {p : Program τ α} (h : Asks (fun _ => False) p) : Uniform A p :=
  ofAsks h fun _ _ hf => hf.elim

end Uniform

lemma uniform_turns {s : Serving τ}
    (check : Uniform A (Install.isServed s.kind s.version s.group : Program τ _)) (start : τ)
    (left attempts : Nat) : Uniform A (s.turns start left attempts) := by
  have turn (attempts : Nat) : Uniform A (s.turn start attempts) := by
    rw [Deadline.turn_eq]
    exact .bind check fun served => .quiet (Deadline.asks_goAround s start attempts served)
  induction left generalizing attempts with
  | zero =>
    refine .bind (turn attempts) fun served => ?_
    cases served
    · exact .quiet (Requests.asks_expire _ _ _)
    · exact .done _
  | succ left ih =>
    refine .bind (turn attempts) fun served => ?_
    cases served
    · exact ih _
    · exact .done _

lemma uniform_attempt {p : Poll τ α} (check : Uniform A p.check) (start : τ)
    (left attempts : Nat) : Uniform A (p.attempt start left attempts) := by
  have waits (attempts : Nat) : Uniform A (p.await start attempts) :=
    .quiet (Requests.asks_await _ _ _)
  have gives (attempts : Nat) : Uniform A (p.timeout start attempts : Program τ α) :=
    .quiet (Requests.asks_timeout _ _ _)
  have ended : Uniform A (p.isOver start) := by
    unfold Poll.isOver
    split
    · exact .now fun _ => .done _
    · exact .done _
  induction left generalizing attempts with
  | zero =>
    rw [Truncation.attempt_eq]
    refine .bind check fun found => ?_
    cases found
    · exact .bind (waits _) fun _ => gives _
    · exact .done _
  | succ left ih =>
    rw [Truncation.attempt_eq]
    refine .bind check fun found => ?_
    cases found
    · refine .note (.bind (waits _) fun _ => .bind ended fun isOver => ?_)
      cases isOver
      · exact ih _
      · exact .note (gives _)
    · exact .done _

lemma uniform_pollUntil {p : Poll τ α} (check : Uniform A p.check) :
    Uniform A (Polling.pollUntil p) := by
  refine .now fun start => ?_
  simp only [Program.bind]
  split
  · exact .done _
  · exact uniform_attempt check _ _ _

/-! ### A type that is not listed -/

/-- The answer does not list the type: its group and version are not known, or nothing is served
under them, or only other kinds are. -/
inductive NotListed (kind : String) : Meaning where
  | unknown (group version : String) (reason body : Option String) :
    NotListed kind (.kinds group version) (.error (.status 404 reason body))
  | null (group version : String) : NotListed kind (.kinds group version) (.ok none)
  | others (group version : String) {kinds : List Value} (h : .text kind ∉ kinds) :
    NotListed kind (.kinds group version) (.ok (some kinds))

omit [Seconds τ] in
/-- Each of these answers means that the type is not served. -/
lemma verdict_of_notListed {kind group version : String}
    {answer : Except Fault (Option (List Value))}
    (h : NotListed kind (.kinds group version) answer) :
    Presence.verdict (τ := τ) (.kinds group version)
      (fun listed => (listed.getD []).any (Value.isText kind)) answer = .ok false := by
  cases h with
  | unknown _ _ reason body => rfl
  | null _ _ => rfl
  | others _ _ h =>
    refine congrArg Except.ok (List.any_eq_false.2 fun k hk ht => h ?_)
    rwa [← Naming.isText_iff.1 ht]

lemma not_notListed {kind : String} {request : Request} {answer : Except Fault request.Reply}
    (h : request.call ≠ .kinds) : ¬ NotListed kind request answer := by
  rintro ⟨⟩
  all_goals exact h rfl

omit [Seconds τ] in
lemma uniform_isServed (kind version group : String) :
    Uniform (NotListed kind) (Install.isServed kind version group : Program τ _) := by
  rw [Presence.isServed_eq]
  exact .judged fun answer => verdict_of_notListed

lemma uniform_isInstalled (ref : ResourceRef) (body : Value) :
    Uniform (NotListed ref.kind) (Install.isInstalled ref body : Program τ _) := by
  refine .bind (.quiet (.ofExcept _ _)) fun kind => ?_
  split
  · exact uniform_isServed _ _ _
  · have asks : Asks (fun request => request.call ≠ .kinds) (Cluster.isPresent ref : Program τ _) :=
      .bind (.done _) fun route => .sendOr nofun _ _
    exact .ofAsks asks fun _ _ => not_notListed

lemma uniform_ensure (ref : ResourceRef) (body : Value) :
    Uniform (NotListed ref.kind) (Install.ensure ref body : Program τ _) := by
  rw [Naming.ensure_eq]
  exact .bind (uniform_isInstalled ref body) fun present =>
    .ofAsks (Requests.asks_settle (P := fun request => request.call ≠ .kinds) (fun _ _ => nofun) _)
      fun _ _ => not_notListed

lemma uniform_ensureIn (target : Target) (ref : ResourceRef) (body : Value) :
    Uniform (NotListed ref.kind) (Install.ensureIn target ref body : Program τ _) := by
  cases target with
  | cluster => exact .bind (uniform_ensure ref body) fun _ => .done _
  | collection c => exact .note (.done _)
  | nowhere => exact .done _

lemma uniform_awaitServed (s : Serving τ) :
    Uniform (NotListed s.kind) (Install.awaitServed s) :=
  .now fun _ => uniform_turns (uniform_isServed _ _ _) _ _ _

lemma uniform_add (m : Manifest) (done : Install.Outcomes × Target) :
    Uniform (NotListed m.ref.kind) (Install.add m done : Program τ _) :=
  .bind (uniform_ensureIn _ _ _) fun _ => .done _

/-! ### Setting up a cluster -/

/-- The kind that setting up a cluster asks for with its first call, and with all others. -/
def sought : Nat → String
  | 0 => "Instance"
  | _ + 1 => "Test"

lemma unmoved_of_no_calls {A : Nat → Meaning} {p : Program τ α} (h : ∀ r, calls p r = []) :
    Unmoved A p := by
  intro r n c other hc
  rw [h r] at hc
  cases hc

/-- What setting up does once it is known whether instances are served. -/
def goOn (timeout : τ) (ofInstance ofTest ofRole : Manifest) (present : Bool) :
    Program τ (Install.Outcomes × Target) :=
  (Naming.settle ofInstance.ref ofInstance.body present).bind fun outcome =>
    (Install.add ofTest ([(ofInstance.ref, outcome)], .cluster)).bind
      (Usable.finish timeout ofTest ofRole)

section

variable {roleName : String} {ofInstance ofTest ofRole : Manifest}

lemma setUp_eq (kit : Kit roleName ofInstance ofTest ofRole) (timeout : τ) :
    Bootstrap.setUp timeout roleName =
      (Install.isServed "Instance" Bundled.version Install.ownGroup).bind
        (goOn timeout ofInstance ofTest ofRole) := by
  have check : (Install.isInstalled ofInstance.ref ofInstance.body : Program τ _) =
      Install.isServed "Instance" Bundled.version Install.ownGroup := by
    rw [kit.forInstance.names.isInstalled, kit.forInstance.ref]
    rfl
  rw [Usable.setUp_steps kit, Bootstrap.add_eq, Naming.ensure_eq, check, Program.bind_assoc,
    Program.bind_assoc]
  rfl

/-- After its first call, setting up asks discovery only for the type of tests. -/
lemma uniform_goOn (kit : Kit roleName ofInstance ofTest ofRole) (timeout : τ) (present : Bool) :
    Uniform (NotListed "Test") (goOn timeout ofInstance ofTest ofRole present) := by
  have hkind : ofTest.ref.kind = "Test" := by rw [kit.forTest.ref]
  have adds (done : Install.Outcomes × Target) :
      Uniform (NotListed "Test") (Install.add ofTest done : Program τ _) :=
    hkind ▸ uniform_add ofTest done
  have waits : Uniform (NotListed "Test") (Install.awaitType timeout ofTest .cluster) :=
    hkind ▸ uniform_awaitServed ⟨ofTest.ref.kind, ofTest.ref.version, ofTest.ref.group, timeout⟩
  have settles : Uniform (NotListed "Test")
      (Naming.settle ofInstance.ref ofInstance.body present : Program τ _) :=
    .ofAsks (Requests.asks_settle (P := fun request => request.call ≠ .kinds) (fun _ _ => nofun) _)
      fun _ _ => not_notListed
  exact .bind settles fun _ => .bind (adds _) fun done => .bind waits fun _ =>
    .ofAsks (Pacing.asks_addRole kit.forRole done) fun _ _ => not_notListed

end

lemma unmoved_setUpCluster (timeout : τ) (roleName : String) (target : Target) :
    Unmoved (fun n => NotListed (sought n)) (Install.setUpCluster timeout roleName target) := by
  obtain ⟨ofInstance, ofTest, ofRole, kit⟩ := exists_kit roleName
  cases target with
  | cluster =>
    show Unmoved _ (Bootstrap.setUp timeout roleName)
    have rest (found : Except (Failure τ) Bool) : Uniform (NotListed "Test")
        ((Program.done found).bind (goOn timeout ofInstance ofTest ofRole)) :=
      .bind (.done _) (uniform_goOn kit timeout)
    rw [setUp_eq kit, Presence.isServed_eq]
    refine .ask (fun answer answer' h h' => ?_) fun answer => (rest _).unmoved
    exact congrArg (fun found => (Program.done found).bind (goOn timeout ofInstance ofTest ofRole))
      ((verdict_of_notListed h).trans (verdict_of_notListed h').symm)
  | collection c =>
    refine unmoved_of_no_calls fun r => ?_
    rw [DryRun.collects_cluster kit]
    unfold calls
    rw [(DryRun.inert_said _ _ r).2, List.filterMap_map]
    exact List.filterMap_eq_nil_iff.2 fun _ _ => rfl
  | nowhere =>
    refine unmoved_of_no_calls fun r => ?_
    unfold Install.setUpCluster Install.bundled
    rw [kit.loadInstance]
    rfl

/-! ### A log that is not there yet -/

/-- There is no log yet: nothing is answered, or the empty text, or the cluster says that the
container has not started. -/
inductive NoLog : Meaning where
  | null (pod ns : String) (container : Option String) : NoLog (.log pod ns container) (.ok none)
  | empty (pod ns : String) (container : Option String) :
    NoLog (.log pod ns container) (.ok (some ""))
  | notReady (pod ns : String) (container reason : Option String) {body marker : String}
    (h : marker ∈ Cluster.notReadyMarkers)
    (within : ∃ before after, body.toList = before ++ marker.toList ++ after) :
    NoLog (.log pod ns container) (.error (.status 400 reason (some body)))

omit [Seconds τ] in
/-- Each of these answers means that the log is empty. -/
lemma reading_of_noLog {pod ns : String} {container : Option String}
    {answer : Except Fault (Option String)} (h : NoLog (.log pod ns container) answer) :
    Verification.reading (τ := τ) answer = .ok "" := by
  cases h with
  | null => rfl
  | empty => rfl
  | @notReady _ _ _ reason body marker h within =>
    have hready : Cluster.Fault.isNotReady (.status 400 reason (some body)) = true := by
      obtain ⟨before, after, hbody⟩ := within
      exact List.any_eq_true.2 ⟨marker, h, (Text.occursIn_iff _ _).2 ⟨before, after, hbody.symm⟩⟩
    exact if_pos hready

omit [Seconds τ] in
lemma uniform_readLog (pod : Observation) (container : Option String) :
    Uniform NoLog (Verify.readLog pod container : Program τ _) := by
  rw [Verification.judges_readLog]
  exact .judged fun answer => reading_of_noLog

lemma uniform_awaitLog (pod : Observation) (text : String) (policy : Policy τ)
    (container : Option String) :
    Uniform NoLog (Verify.awaitLog pod text policy container) :=
  .bind (uniform_pollUntil (.bind (uniform_readLog pod container) fun _ => .done _)) fun _ =>
    .note (.done _)

lemma uniform_verify (ns selector : String) (policy : Policy τ)
    (message container : Option String) :
    Uniform NoLog (Verify.verify ns selector policy message container) := by
  have never (request : Request) (answer : Except Fault request.Reply)
      (h : .pods ns selector = request) : ¬ NoLog request answer := by
    subst h
    exact nofun
  refine .bind (.ofAsks (Requests.asks_awaitRunning rfl policy) never) fun pod => ?_
  cases message with
  | none => exact .done _
  | some text => exact .bind (uniform_awaitLog _ _ _ _) fun _ => .done _

/-! ### Main result -/

/-- The operations that ask discovery, each with the kind that its calls ask for. -/
inductive Discovers : {α : Type} → Program τ α → (Nat → String) → Prop where
  | looked (kind version group : String) :
    Discovers (Install.isServed kind version group) fun _ => kind
  | awaited (s : Serving τ) : Discovers (Install.awaitServed s) fun _ => s.kind
  | checked (ref : ResourceRef) (body : Value) :
    Discovers (Install.isInstalled ref body) fun _ => ref.kind
  | ensured (ref : ResourceRef) (body : Value) :
    Discovers (Install.ensure ref body) fun _ => ref.kind
  | installed (target : Target) (ref : ResourceRef) (body : Value) :
    Discovers (Install.ensureIn target ref body) fun _ => ref.kind
  | setUp (timeout : τ) (roleName : String) (target : Target) :
    Discovers (Install.setUpCluster timeout roleName target) sought

/-- The operations that read logs. -/
inductive ReadsLogs : {α : Type} → Program τ α → Prop where
  | read (pod : Observation) (container : Option String) :
    ReadsLogs (Verify.readLog pod container)
  | awaited (pod : Observation) (text : String) (policy : Policy τ) (container : Option String) :
    ReadsLogs (Verify.awaitLog pod text policy container)
  | verified (ns selector : String) (policy : Policy τ) (message container : Option String) :
    ReadsLogs (Verify.verify ns selector policy message container)

/-- **Absence is uniform.** In every run of an operation that asks discovery, one answer that does
not list the kind asked for can take the place of another, and in every run of one that reads logs
so can the answers that there is no log yet: the result, the calls, the waits, the log and the time
at the end stay the same. -/
theorem absence_is_uniform :
    (∀ {α : Type} {p : Program τ α} {kind : Nat → String}, Discovers p kind →
      Unmoved (fun n => NotListed (kind n)) p) ∧
    ∀ {α : Type} {p : Program τ α}, ReadsLogs p → Unmoved (fun _ => NoLog) p := by
  refine ⟨fun h => ?_, fun h => ?_⟩
  · cases h with
    | looked kind version group => exact (uniform_isServed kind version group).unmoved
    | awaited s => exact (uniform_awaitServed s).unmoved
    | checked ref body => exact (uniform_isInstalled ref body).unmoved
    | ensured ref body => exact (uniform_ensure ref body).unmoved
    | installed target ref body => exact (uniform_ensureIn target ref body).unmoved
    | setUp timeout roleName target => exact unmoved_setUpCluster timeout roleName target
  · cases h with
    | read pod container => exact (uniform_readLog pod container).unmoved
    | awaited pod text policy container =>
      exact (uniform_awaitLog pod text policy container).unmoved
    | verified ns selector policy message container =>
      exact (uniform_verify ns selector policy message container).unmoved

/-- Other kinds are served, and the container has not started. -/
def others : ∀ request : Request, Except Fault request.Reply
  | .kinds _ _ => .ok (some [.text "Instance"])
  | .log _ _ _ => .error (.status 400 none (some "PodInitializing"))
  | _ => .error notFound

/-- The second answer to a wait for a type, and the first one to a request for a log, are taken for
others. -/
theorem absent_answers_exchanged :
    let wait := Install.awaitServed ⟨"Test", Bundled.version, Install.ownGroup, (5 : Rat)⟩
    let p := Verify.verify "tests" "app=demo" ⟨3, 2, by decide, by decide⟩ (some "ready") none
    (∃ c, (calls wait Truncation.neverMet)[1]? = some c ∧
        run (told others 1 wait) Truncation.neverMet = run wait Truncation.neverMet ∧
        trace (told others 1 wait) Truncation.neverMet = trace wait Truncation.neverMet) ∧
      ∃ c, (calls p Verification.lateLog)[2]? = some c ∧
        run (told others 2 p) Verification.lateLog = run p Verification.lateLog ∧
        trace (told others 2 p) Verification.lateLog = trace p Verification.lateLog := by
  intro wait p
  have hwait : (calls wait Truncation.neverMet)[1]? =
      some ⟨2, .kinds Install.ownGroup Bundled.version, .error notFound, 2⟩ := by
    with_unfolding_all rfl
  have hlog : (calls p Verification.lateLog)[2]? =
      some ⟨3, .log "demo" "tests" (some "app"), .ok none, 4⟩ := by
    with_unfolding_all rfl
  refine ⟨⟨_, hwait, absence_is_uniform.1 (.awaited _) _ 1 _ others hwait (.unknown _ _ _ _) ?_⟩,
    ⟨_, hlog, absence_is_uniform.2 (.verified _ _ _ _ _) _ 2 _ others hlog (.null _ _ _) ?_⟩⟩
  · exact .others _ _ (by simp)
  · have marks : "PodInitializing" ∈ Cluster.notReadyMarkers := by decide
    exact .notReady _ _ _ _ marks ⟨[], [], (List.append_nil _).symm⟩

end Testbed.Absence
