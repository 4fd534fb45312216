import Mathlib
import Testbed.Proofs.Bootstrap

/-!
Runs that meet no fault.

A script may hold faults that a run never comes to. What an installation does and how long it
takes is known exactly if it meets none.
-/

namespace Testbed.Rehearsal

variable {τ α β : Type} [Seconds τ]

/-- No request of the run is answered by a fault of the script. -/
inductive Undisturbed : Program τ α → Rehearsal τ → Prop where
  | done (result : Except (Failure τ) α) (r : Rehearsal τ) : Undisturbed (.done result) r
  | ask {request : Request} {next : Except Fault request.Reply → Program τ α} {r : Rehearsal τ}
    (free : r.scripted request = none)
    (h : Undisturbed (next (r.answer request).1) (r.answer request).2) :
    Undisturbed (.ask request next) r
  | now {next : τ → Program τ α} {r : Rehearsal τ} (h : Undisturbed (next r.clock) r) :
    Undisturbed (.now next) r
  | isCancelled {next : Bool → Program τ α} {r : Rehearsal τ}
    (h : Undisturbed (next r.isCancelled) r) : Undisturbed (.isCancelled next) r
  | pause {length : τ} {next : Bool → Program τ α} {r : Rehearsal τ}
    (h : Undisturbed (next (r.pause length).1) (r.pause length).2) :
    Undisturbed (.pause length next) r
  | note {level : Level} {message : String} {next : Program τ α} {r : Rehearsal τ}
    (h : Undisturbed next (r.note level message)) : Undisturbed (.note level message next) r

namespace Undisturbed

variable {p : Program τ α} {f : α → Program τ β} {r s : Rehearsal τ}

/-- The beginning of a run that meets no fault meets none. -/
lemma first (h : Undisturbed (p.bind f) r) : Undisturbed p r := by
  induction p generalizing r with
  | done result => exact .done _ _
  | ask request next ih => cases h with | ask free h => exact .ask free (ih _ h)
  | now next ih => cases h with | now h => exact .now (ih _ h)
  | isCancelled next ih => cases h with | isCancelled h => exact .isCancelled (ih _ h)
  | pause length next ih => cases h with | pause h => exact .pause (ih _ h)
  | note level message next ih => cases h with | note h => exact .note (ih h)

/-- So does the rest of it. -/
lemma second {a : α} (h : Undisturbed (p.bind f) r) (hrun : run p r = (.ok a, s)) :
    Undisturbed (f a) s := by
  induction p generalizing r with
  | done result =>
    cases hrun
    exact h
  | ask request next ih => cases h with | ask _ h => exact ih _ h hrun
  | now next ih => cases h with | now h => exact ih _ h hrun
  | isCancelled next ih => cases h with | isCancelled h => exact ih _ h hrun
  | pause length next ih => cases h with | pause h => exact ih _ h hrun
  | note level message next ih => cases h with | note h => exact ih h hrun

end Undisturbed

/-- A script without faults disturbs no run. -/
lemma Faultless.undisturbed {r : Rehearsal τ} (h : Faultless r.script) (p : Program τ α) :
    Undisturbed p r := by
  induction p generalizing r with
  | done result => exact .done _ _
  | ask request next ih =>
    exact .ask h.reached.1 (ih _ (h.run (Program.ask request fun _ => .done (.ok ()))))
  | now next ih => exact .now (ih _ h)
  | isCancelled next ih => exact .isCancelled (ih _ h)
  | pause length next ih =>
    exact .pause (ih _ (h.run (Program.pause length fun _ => .done (.ok ()))))
  | note level message next ih => exact .note (ih h)

lemma answer_of_scripted {request : Request} {r : Rehearsal τ}
    (h : r.scripted request = none) : r.answer request = (r.reached request).serve request := by
  rcases r.answer_cases request with ⟨f, hf, -⟩ | ⟨-, ha⟩
  · rw [h] at hf
    cases hf
  · exact ha

/-- The cluster at a later time. -/
def atTime (now : τ) (r : Rehearsal τ) : Rehearsal τ := { r with clock := now }

/-- A request that goes to the cluster takes its time, and nothing else changes on the way. -/
lemma reached_remote (request : Request) (hr : isRemote request = true) (r : Rehearsal τ) :
    (r.reached request).clock = r.clock + r.cost ∧ (r.reached request).store = r.store ∧
      (r.reached request).cost = r.cost ∧ (r.reached request).serveDelay = r.serveDelay := by
  unfold reached
  rw [if_pos hr]
  exact ⟨rfl, rfl, rfl, rfl⟩

end Testbed.Rehearsal

namespace Testbed.Presence

open Rehearsal
open Install (Outcome)
open Naming (Names settle)
open Yaml (Value)

variable {τ : Type} [Seconds τ]

/-- What an installation that meets no fault does with an object, and how long it takes. -/
inductive Ensured (m : Manifest) (route : Route) (key : ObjectKey) (r : Rehearsal τ) :
    Outcome → Rehearsal τ → Prop where
  | found {s : Rehearsal τ} (h : Found m.ref route key (r.atTime (r.clock + r.cost)))
    (store : s.store = r.store) (clock : s.clock = r.clock + r.cost) :
    Ensured m route key r .alreadyPresent s
  | there {s : Rehearsal τ} (h : ¬ Found m.ref route key (r.atTime (r.clock + r.cost)))
    (hk : key ∈ r.store.objects) (store : s.store = r.store)
    (clock : s.clock = r.clock + r.cost + r.cost) : Ensured m route key r .alreadyPresent s
  | new {s : Rehearsal τ} (h : ¬ Found m.ref route key (r.atTime (r.clock + r.cost)))
    (hk : key ∉ r.store.objects)
    (store : s.store = r.store.create key m.body (r.clock + r.cost + r.cost + r.serveDelay))
    (clock : s.clock = r.clock + r.cost + r.cost) : Ensured m route key r .installed s

variable {m : Manifest} {route : Route} {ns : Option String} {name : String} {r : Rehearsal τ}

lemma found_congr {ref : ResourceRef} {key : ObjectKey} {r s : Rehearsal τ}
    (hs : r.store = s.store) (hc : r.clock = s.clock) :
    Found ref route key r ↔ Found ref route key s := by
  unfold Found
  rw [hs, hc]

/-- A look that meets no fault tells how things are when it reaches the cluster. -/
lemma Tells.run_undisturbed {request : Request} {accept : request.Reply → Bool}
    {Q : Rehearsal τ → Prop} (h : Tells request accept Q) (hr : r.scripted request = none) :
    ∃ result, Rehearsal.run (look request accept) r = (.ok result, r.reached request) ∧
      (result = true ↔ Q (r.reached request)) := by
  have hrun : Rehearsal.run (look request accept) r =
      (verdict request accept ((r.reached request).serve request).1, r.reached request) := by
    show (verdict request accept (r.answer request).1, (r.answer request).2) = _
    rw [answer_of_scripted hr, h.stays]
  rcases h.tells (r.reached request) with ⟨hv, hq⟩ | ⟨hv, hq⟩
  · exact ⟨true, by rw [hrun, hv], iff_of_true rfl hq⟩
  · exact ⟨false, by rw [hrun, hv], iff_of_false Bool.false_ne_true hq⟩

/-- A creation that meets no fault is answered by what is there. -/
lemma answer_create_undisturbed (h : Names m route ns name)
    (hr : r.scripted (.create route (ns.map Value.text) m.body) = none) :
    let key := Store.readKey route ns name
    let answer := r.answer (.create route (ns.map Value.text) m.body)
    answer.2.clock = r.clock + r.cost ∧
      (key ∈ r.store.objects ∧ settled (τ := τ) answer.1 = .ok .alreadyPresent ∧
          answer.2.store = r.store ∨
        key ∉ r.store.objects ∧ settled (τ := τ) answer.1 = .ok .installed ∧
          answer.2.store = r.store.create key m.body (r.clock + r.cost + r.serveDelay)) := by
  intro key answer
  obtain ⟨hclock, hstore, -, hdelay⟩ :=
    reached_remote (.create route (ns.map Value.text) m.body) rfl r
  have ha : answer = _ := answer_of_scripted hr
  rw [ha, serve_create, h.key, hstore, hclock, hdelay]
  by_cases hk : key ∈ r.store.objects
  · rw [if_pos hk]
    exact ⟨hclock, Or.inl ⟨hk, rfl, hstore⟩⟩
  · rw [if_neg hk]
    exact ⟨hclock, Or.inr ⟨hk, rfl, rfl⟩⟩

/-- A check that meets no fault tells how things are when it reaches the cluster. -/
lemma check_undisturbed (h : Names m route ns name)
    (free : Undisturbed (Install.isInstalled m.ref m.body) r) :
    ∃ result s, run (Install.isInstalled m.ref m.body) r = (.ok result, s) ∧
      (result = true ↔
        Found m.ref route (Store.readKey route ns name) (r.atTime (r.clock + r.cost))) ∧
      s.clock = r.clock + r.cost ∧ s.store = r.store ∧ s.cost = r.cost ∧
      s.serveDelay = r.serveDelay := by
  obtain ⟨request, accept, heq, htells⟩ := check_eq (τ := τ) h
  have hremote : Asks (isRemote · = true) (Install.isInstalled m.ref m.body : Program τ _) :=
    Requests.asks_isInstalled rfl fun _ _ => rfl
  rw [heq] at free hremote ⊢
  cases hremote with | ask hremote _ =>
  cases free with | ask hscript _ =>
  obtain ⟨hclock, hstore, hcost, hdelay⟩ := reached_remote request hremote r
  obtain ⟨result, hrun, hresult⟩ := htells.run_undisturbed hscript
  have hfound : result = true ↔
      Found m.ref route (Store.readKey route ns name) (r.atTime (r.clock + r.cost)) :=
    hresult.trans (found_congr hstore hclock)
  exact ⟨result, _, hrun, hfound, hclock, hstore, hcost, hdelay⟩

/-- **An installation that meets no fault** looks once, and tries to create what it does not
find. -/
theorem ensured_of_undisturbed (h : Names m route ns name)
    (free : Undisturbed (Install.ensure m.ref m.body) r) :
    ∃ outcome s, run (Install.ensure m.ref m.body) r = (.ok outcome, s) ∧
      Ensured m route (Store.readKey route ns name) r outcome s := by
  rw [Naming.ensure_eq] at free ⊢
  obtain ⟨result, t, hrun, hresult, hclock, hstore, hcost, hdelay⟩ :=
    check_undisturbed h free.first
  rw [run_bind_ok hrun]
  cases result with
  | true => exact ⟨_, _, rfl, .found (hresult.1 rfl) hstore hclock⟩
  | false =>
    have hmiss := mt hresult.2 Bool.false_ne_true
    obtain ⟨s, hs, hsame, htime, -⟩ := run_settle h t
    have hcreate := free.second hrun
    unfold settle at hcreate
    rw [h.create] at hcreate
    cases hcreate with | ask hscript' _ =>
    obtain ⟨hclock', hcases⟩ := answer_create_undisturbed h hscript'
    rw [hclock, hcost, ← htime] at hclock'
    rw [hstore, hclock, hcost, hdelay, ← hsame] at hcases
    rcases hcases with ⟨hk, hset, hkept⟩ | ⟨hk, hset, hnew⟩
    · exact ⟨_, _, hset ▸ hs, .there hmiss hk hkept hclock'⟩
    · exact ⟨_, _, hset ▸ hs, .new hmiss hk hnew hclock'⟩

end Testbed.Presence

namespace Testbed.Bootstrap

open Rehearsal
open Presence
open Install (Outcomes)
open Naming (Names)

variable {τ : Type} [Seconds τ]

lemma add_ensured {m : Manifest} {route : Route} {ns : Option String} {name : String}
    (h : Names m route ns name) (done : Outcomes) {r : Rehearsal τ}
    (free : Undisturbed (Install.add m (done, .cluster)) r) :
    ∃ outcome s, run (Install.add m (done, .cluster)) r =
        (.ok (done ++ [(m.ref, outcome)], .cluster), s) ∧
      Ensured m route (Store.readKey route ns name) r outcome s := by
  rw [add_eq] at free ⊢
  obtain ⟨outcome, s, hrun, hensured⟩ := ensured_of_undisturbed h free.first
  exact ⟨outcome, s, run_bind_ok hrun, hensured⟩

end Testbed.Bootstrap
