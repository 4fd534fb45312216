import Mathlib
import Testbed.Proofs.Attempts
import Testbed.Proofs.Requests

/-!
Finding out whether an object is there, and installing it if not.

A fault may hide what is there, but nothing is found that is not there. An object that is
installed without faults is there afterwards, and is found when it is installed again.
-/

namespace Testbed.Presence

open Rehearsal
open Install (Outcome)
open Naming (Names presence settle)
open Yaml (Value)

variable {τ : Type}

/-! ### Looking -/

/-- The request creates nothing. -/
def Looks (request : Request) : Prop := ∀ route ns body, request ≠ .create route ns body

/-- What an answer tells. That something is missing is an answer. -/
def verdict (request : Request) (accept : request.Reply → Bool) :
    Except Fault request.Reply → Except (Failure τ) Bool
  | .ok reply => .ok (accept reply)
  | .error f => if f.isStatus 404 then .ok false else .error (.fault f)

def look (request : Request) (accept : request.Reply → Bool) : Program τ Bool :=
  .ask request fun answer => .done (verdict request accept answer)

lemma isServed_eq (kind version group : String) :
    (Install.isServed kind version group : Program τ _) =
      look (.kinds group version) fun listed => (listed.getD []).any (Value.isText kind) := by
  unfold Install.isServed Cluster.kinds Program.sendOr look
  rw [bind_eq, Program.bind]
  congr 1
  funext answer
  cases answer with
  | ok listed => rfl
  | error f => cases hf : f.isStatus 404 <;> simp [verdict, hf, Program.bind, Program.fail, pure_eq]

lemma read_eq (route : Route) (ns : Option String) (name : String) :
    (Program.sendOr (.read route ns name) (fun f => if f.isStatus 404 then some false else none)
      fun _ => true : Program τ _) = look (.read route ns name) fun _ => true := by
  unfold Program.sendOr look
  congr 1
  funext answer
  cases answer with
  | ok listed => rfl
  | error f => cases hf : f.isStatus 404 <;> simp [verdict, hf, Program.fail]

variable [Seconds τ]

/-- The cluster tells by its answer whether something holds of it, and does not change. -/
structure Tells (request : Request) (accept : request.Reply → Bool) (Q : Rehearsal τ → Prop) :
    Prop where
  stays (r : Rehearsal τ) : (r.serve request).2 = r
  tells (r : Rehearsal τ) : verdict (τ := τ) request accept (r.serve request).1 = .ok true ∧ Q r ∨
    verdict (τ := τ) request accept (r.serve request).1 = .ok false ∧ ¬ Q r

/-- What is found holds. Without faults it is found. -/
lemma Tells.run {request : Request} {accept : request.Reply → Bool} {Q : Rehearsal τ → Prop}
    (h : Tells request accept Q) (r : Rehearsal τ) :
    ∃ result s, Rehearsal.run (look request accept) r = (result, s) ∧ s.store = r.store ∧
      (result = .ok true → Q s) ∧
      (Faultless r.script → result = .ok true ∨ result = .ok false ∧ ¬ Q s) := by
  have same := r.store_reached request
  refine ⟨verdict request accept (r.answer request).1, (r.answer request).2, rfl, ?_⟩
  rcases r.answer_cases request with ⟨f, hf, ha⟩ | ⟨-, ha⟩
  · rw [ha]
    refine ⟨same, fun h => ?_, fun hfree => ?_⟩
    · simp only [verdict] at h
      split at h <;> cases h
    · rw [hfree.reached.1] at hf
      cases hf
  · rw [ha, h.stays]
    refine ⟨same, ?_⟩
    rcases h.tells (r.reached request) with ⟨hv, hq⟩ | ⟨hv, hq⟩
    · exact ⟨fun _ => hq, fun _ => Or.inl hv⟩
    · rw [hv]
      exact ⟨nofun, fun _ => Or.inr ⟨rfl, hq⟩⟩

lemma kinds_tells (kind version group : String) :
    Tells (τ := τ) (.kinds group version) (fun listed => (listed.getD []).any (Value.isText kind))
      fun r => Listed r.store group version kind r.clock where
  stays r := by rcases serve_kinds group version r with h | ⟨_, h⟩ <;> rw [h]
  tells r := by
    unfold Listed
    cases hk : r.store.kinds group version r.clock with
    | none => exact Or.inr (by simp [serve, hk, verdict, notFound, Fault.isStatus])
    | some kinds =>
      have hv : verdict (τ := τ) (.kinds group version)
          (fun listed => (listed.getD []).any (Value.isText kind))
          (r.serve (.kinds group version)).1 = .ok (kinds.any (Value.isText kind)) := by
        cases kinds <;> simp [serve, hk, verdict]
      rw [hv]
      rcases Bool.eq_false_or_eq_true (kinds.any (Value.isText kind)) with hb | hb
      · exact Or.inl ⟨by rw [hb], kinds, rfl, hb⟩
      · refine Or.inr ⟨by rw [hb], ?_⟩
        rintro ⟨listed, he, h⟩
        cases he
        exact absurd (hb.symm.trans h) Bool.false_ne_true

lemma read_tells (route : Route) (ns : Option String) (name : String) :
    Tells (τ := τ) (.read route ns name) (fun _ => true)
      fun r => Store.readKey route ns name ∈ r.store.objects where
  stays r := by rw [serve_read]
  tells r := by
    rw [serve_read]
    by_cases hk : Store.readKey route ns name ∈ r.store.objects
    · rw [if_pos hk]
      exact Or.inl ⟨rfl, hk⟩
    · rw [if_neg hk]
      exact Or.inr ⟨rfl, hk⟩

/-! ### Checking -/

/-- What the check of an object looks for: in discovery if the object defines a type. -/
def Found (ref : ResourceRef) (route : Route) (key : ObjectKey) (r : Rehearsal τ) : Prop :=
  if route = .definition then Listed r.store ref.group ref.version ref.kind r.clock
  else key ∈ r.store.objects

/-- The object is there, or its type is. -/
def Present (ref : ResourceRef) (route : Route) (key : ObjectKey) (r : Rehearsal τ) : Prop :=
  key ∈ r.store.objects ∨ Found ref route key r

section

variable {ref : ResourceRef} {route : Route} {key : ObjectKey} {r s : Rehearsal τ}

lemma Found.later [Steady τ] (h : Found ref route key r) (hl : Later r s) :
    Found ref route key s := by
  unfold Found at h ⊢
  split at h
  · rename_i hr
    rw [if_pos hr]
    exact h.later hl
  · rename_i hr
    rw [if_neg hr]
    exact hl.objects.subset h

lemma Present.later [Steady τ] (h : Present ref route key r) (hl : Later r s) :
    Present ref route key s :=
  h.imp (fun hk => hl.objects.subset hk) (fun hf => hf.later hl)

end

section

variable {m : Manifest} {route : Route} {ns : Option String} {name : String}

/-- The check of an object is one look. -/
lemma check_eq (h : Names m route ns name) : ∃ request accept,
    (Install.isInstalled m.ref m.body : Program τ _) = look request accept ∧
      Tells (τ := τ) request accept (Found m.ref route (Store.readKey route ns name)) := by
  rw [h.isInstalled]
  unfold presence Found
  by_cases hr : route = .definition
  · simp only [if_pos hr]
    exact ⟨_, _, isServed_eq _ _ _, kinds_tells _ _ _⟩
  · simp only [if_neg hr]
    exact ⟨_, _, read_eq _ _ _, read_tells _ _ _⟩

lemma run_check (h : Names m route ns name) (r : Rehearsal τ) :
    ∃ result s, run (Install.isInstalled m.ref m.body) r = (result, s) ∧ s.store = r.store ∧
      (result = .ok true → Found m.ref route (Store.readKey route ns name) s) ∧
      (Faultless r.script → result = .ok true ∨
        result = .ok false ∧ ¬ Found m.ref route (Store.readKey route ns name) s) := by
  obtain ⟨request, accept, heq, htells⟩ := check_eq (τ := τ) h
  rw [heq]
  exact htells.run r

/-! ### Installing -/

/-- What the answer to a creation tells. That the object exists already is an answer. -/
def settled : Except Fault Unit → Except (Failure τ) Outcome
  | .ok () => .ok .installed
  | .error f => if f.isStatus 409 then .ok .alreadyPresent else .error (.fault f)

/-- An object that is not found is created with one request, if it has a place. -/
lemma run_settle_of_submit {ref : ResourceRef} {kind body : Value} {place : Option Value}
    (h : (Cluster.create body ref.ns : Program τ _) = Cluster.submit kind route place body)
    (r : Rehearsal τ) :
    ∃ s, run (settle ref body false) r =
        (settled (r.answer (.create route place body)).1, s) ∧
      s.store = (r.answer (.create route place body)).2.store ∧
      s.clock = (r.answer (.create route place body)).2.clock ∧
      calls (settle ref body false) r = [r.callOf (.create route place body)] := by
  unfold settle
  rw [h]
  unfold Cluster.submit
  simp only [Program.bind, run, calls_ask]
  generalize r.answer (.create route place body) = answer
  obtain ⟨f | u, s⟩ := answer
  · cases f with
    | status code reason body =>
      by_cases hc : code = 409
      · subst hc
        exact ⟨_, rfl, rfl, rfl, rfl⟩
      · have hs : (Fault.status code reason body).isStatus 409 = false := by
          simpa [Fault.isStatus] using hc
        simp only [settled, hs]
        split
        · rename_i heq
          cases heq
        · rename_i heq
          cases heq
          exact absurd rfl hc
        · rename_i heq
          cases heq
          exact ⟨_, rfl, rfl, rfl, rfl⟩
    | broken message => exact ⟨_, rfl, rfl, rfl, rfl⟩
    | noAccess message => exact ⟨_, rfl, rfl, rfl, rfl⟩
  · exact ⟨_, rfl, rfl, rfl, rfl⟩

/-- The object of a manifest has a place. -/
lemma run_settle (h : Names m route ns name) (r : Rehearsal τ) :
    ∃ s, run (settle m.ref m.body false) r =
        (settled (r.answer (.create route (ns.map Value.text) m.body)).1, s) ∧
      s.store = (r.answer (.create route (ns.map Value.text) m.body)).2.store ∧
      s.clock = (r.answer (.create route (ns.map Value.text) m.body)).2.clock ∧
      calls (settle m.ref m.body false) r =
        [r.callOf (.create route (ns.map Value.text) m.body)] :=
  run_settle_of_submit h.create r

/-- What is reported as installed has been created by the last call. -/
lemma exists_call_of_installed (h : Names m route ns name) {r s : Rehearsal τ}
    (hrun : run (Install.ensure m.ref m.body) r = (.ok .installed, s)) :
    ∃ c ∈ calls (Install.ensure m.ref m.body) r,
      c.created? = some (Store.readKey route ns name) ∧ c.finish = s.clock := by
  rw [Naming.ensure_eq] at hrun ⊢
  obtain ⟨present, t, hcheck, hrest⟩ := ok_of_run_bind hrun
  rw [calls_bind_ok hcheck]
  cases present with
  | true => cases hrest
  | false =>
    obtain ⟨t', hsettle, -, hclock, hcalls⟩ := run_settle h t
    obtain ⟨hset, rfl⟩ := Prod.mk.inj (hsettle.symm.trans hrest)
    have hans : (t.answer (.create route (ns.map Value.text) m.body)).1 = .ok () := by
      revert hset
      rcases (t.answer (.create route (ns.map Value.text) m.body)).1 with f | u
      · simp only [settled]
        split <;> exact nofun
      · exact fun _ => rfl
    rw [hcalls]
    refine ⟨_, List.mem_append_right _ (List.mem_singleton_self _), ?_, hclock.symm⟩
    simp only [callOf, Call.created?, hans]
    exact congrArg some h.key

lemma created_of_installed (h : Names m route ns name) {r s : Rehearsal τ}
    (hrun : run (Install.ensure m.ref m.body) r = (.ok .installed, s)) :
    Store.readKey route ns name ∈ created (calls (Install.ensure m.ref m.body) r) := by
  obtain ⟨c, hmem, hkey, -⟩ := exists_call_of_installed h hrun
  exact List.mem_filterMap.2 ⟨c, hmem, hkey⟩

/-- Without faults the answer to a creation is right. -/
lemma answer_create (h : Names m route ns name) {r : Rehearsal τ} (hfree : Faultless r.script) :
    let answer := r.answer (.create route (ns.map Value.text) m.body)
    Store.readKey route ns name ∈ answer.2.store.objects ∧
      (∃ outcome, settled (τ := τ) answer.1 = .ok outcome) ∧
      (Store.readKey route ns name ∈ r.store.objects →
        settled (τ := τ) answer.1 = .ok .alreadyPresent ∧ answer.2.store = r.store) := by
  have same := r.store_reached (.create route (ns.map Value.text) m.body)
  intro answer
  have ha : answer = _ := hfree.answer
  rw [ha, serve_create, h.key, same]
  by_cases hk : Store.readKey route ns name ∈ r.store.objects
  · rw [if_pos hk]
    exact ⟨same ▸ hk, ⟨_, rfl⟩, fun _ => ⟨rfl, same⟩⟩
  · rw [if_neg hk]
    exact ⟨by simp [Store.create], ⟨_, rfl⟩, fun hk' => absurd hk' hk⟩

lemma timely_isInstalled (ref : ResourceRef) (body : Value) :
    Asks Timely (Install.isInstalled ref body : Program τ _) :=
  Requests.asks_isInstalled nofun fun _ _ => nofun

/-- Without faults the object is there afterwards. -/
lemma ensure_provides [Steady τ] (h : Names m route ns name) {r : Rehearsal τ} (calm : Calm r) :
    ∃ outcome s, run (Install.ensure m.ref m.body) r = (.ok outcome, s) ∧
      Present m.ref route (Store.readKey route ns name) s := by
  rw [Naming.ensure_eq]
  obtain ⟨result, t, hcheck, -, hfound, hright⟩ := run_check h r
  obtain ⟨-, calm'⟩ := calm.run (timely_isInstalled _ _) hcheck
  rcases hright calm.faultless with rfl | ⟨rfl, -⟩
  · rw [run_bind_ok hcheck]
    exact ⟨_, _, rfl, Or.inr (hfound rfl)⟩
  · rw [run_bind_ok hcheck]
    obtain ⟨s, hsettle, hstore, -⟩ := run_settle h t
    obtain ⟨hkey, ⟨outcome, hset⟩, -⟩ := answer_create h calm'.faultless
    rw [hset] at hsettle
    exact ⟨outcome, s, hsettle, Or.inl (hstore ▸ hkey)⟩

/-- Without faults an object that is there is found, and if its check finds it nothing is tried
to create. -/
lemma ensure_finds [Steady τ] (h : Names m route ns name) {r : Rehearsal τ} (calm : Calm r)
    (hp : Present m.ref route (Store.readKey route ns name) r) :
    ∃ s, run (Install.ensure m.ref m.body) r = (.ok .alreadyPresent, s) ∧ s.store = r.store ∧
      (Found m.ref route (Store.readKey route ns name) r →
        ∀ c ∈ calls (Install.ensure m.ref m.body) r, Looks c.request) := by
  rw [Naming.ensure_eq]
  obtain ⟨result, t, hcheck, hstore, -, hright⟩ := run_check h r
  obtain ⟨hl, calm'⟩ := calm.run (timely_isInstalled _ _) hcheck
  rcases hright calm.faultless with rfl | ⟨rfl, hmiss⟩
  · rw [run_bind_ok hcheck, calls_bind_ok hcheck]
    have hlooks : Asks Looks (Install.isInstalled m.ref m.body : Program τ _) :=
      Requests.asks_isInstalled (fun _ _ _ => nofun) fun _ _ _ _ _ => nofun
    refine ⟨_, rfl, hstore, fun _ c hmem => ?_⟩
    rcases List.mem_append.1 hmem with hmem | hmem
    · exact hlooks.calls r c hmem
    · cases hmem
  · rw [run_bind_ok hcheck]
    have hkey := (hp.later hl).resolve_right hmiss
    obtain ⟨s, hsettle, hsame, -⟩ := run_settle h t
    obtain ⟨-, -, hthere⟩ := answer_create h calm'.faultless
    obtain ⟨hset, hkept⟩ := hthere hkey
    rw [hset] at hsettle
    exact ⟨s, hsettle, (hsame.trans hkept).trans hstore, fun hf => absurd (hf.later hl) hmiss⟩

end

/-! ### Waiting until a type is served -/

section

open Install (Serving)

/-- All results of the program have a property. -/
def Yields {α : Type} (Q : α → Prop) (p : Program τ α) : Prop :=
  ∀ r a s, run p r = (.ok a, s) → Q a

lemma Yields.bind {α β : Type} {Q : β → Prop} {p : Program τ α} {f : α → Program τ β}
    (h : ∀ a, Yields Q (f a)) : Yields Q (p.bind f) := by
  intro r b t hb
  obtain ⟨a, s, -, hf⟩ := ok_of_run_bind hb
  exact h a s b t hf

variable {s : Serving τ} {start : τ}

/-- A turn that does not find the type served does not report it as served. -/
lemma turn_eq (start : τ) (attempts : Nat) : ∃ f, s.turn start attempts =
    (Install.isServed s.kind s.version s.group).bind f ∧
      (∀ r, ∃ message, run (f true) r = (.ok true, r.note .info message)) ∧
      Yields (· = false) (f false) := by
  refine ⟨_, rfl, fun r => ⟨_, rfl⟩, .bind fun now => ?_⟩
  simp only
  split
  · exact .bind fun _ => nofun
  · refine .bind fun _ => .bind fun _ => .bind fun now => ?_
    split
    · refine .bind fun _ => ?_
      rintro r a s ⟨⟩
      rfl
    · rintro r a s ⟨⟩
      rfl

lemma listed_of_turn {attempts : Nat} {r t : Rehearsal τ}
    (h : run (s.turn start attempts) r = (.ok true, t)) :
    Listed t.store s.group s.version s.kind t.clock := by
  obtain ⟨f, hf, htrue, hfalse⟩ := turn_eq (s := s) start attempts
  rw [hf, isServed_eq] at h
  obtain ⟨result, u, hlook, -, hfound, -⟩ := (kinds_tells s.kind s.version s.group).run r
  obtain ⟨served, u', hrun, hrest⟩ := ok_of_run_bind h
  obtain ⟨rfl, rfl⟩ := Prod.mk.inj (hrun.symm.trans hlook)
  cases served with
  | true =>
    obtain ⟨message, hnote⟩ := htrue u'
    obtain rfl : u'.note .info message = t := congrArg Prod.snd (hnote.symm.trans hrest)
    exact hfound rfl
  | false => exact absurd (hfalse u' true t hrest) (by decide)

lemma listed_of_turns {left attempts : Nat} {r t : Rehearsal τ}
    (h : run (s.turns start left attempts) r = (.ok (), t)) :
    Listed t.store s.group s.version s.kind t.clock := by
  induction left generalizing attempts r with
  | zero =>
    obtain ⟨served, u, hturn, hrest⟩ := ok_of_run_bind h
    cases served with
    | true =>
      cases hrest
      exact listed_of_turn hturn
    | false => cases hrest
  | succ left ih =>
    obtain ⟨served, u, hturn, hrest⟩ := ok_of_run_bind h
    cases served with
    | true =>
      cases hrest
      exact listed_of_turn hturn
    | false => exact ih hrest

/-- A type that has been waited for is listed. -/
lemma listed_of_awaitServed {r t : Rehearsal τ}
    (h : run (Install.awaitServed s) r = (.ok (), t)) :
    Listed t.store s.group s.version s.kind t.clock :=
  listed_of_turns (r := r) h

/-- Without faults a type that is listed is not waited for. -/
lemma awaitServed_finds [Steady τ] {r : Rehearsal τ} (calm : Calm r)
    (h : Listed r.store s.group s.version s.kind r.clock) :
    ∃ t, run (Install.awaitServed s) r = (.ok (), t) ∧ t.store = r.store := by
  obtain ⟨f, hf, htrue, -⟩ := turn_eq (s := s) r.clock 1
  obtain ⟨result, u, hlook, hstore, -, hright⟩ := (kinds_tells s.kind s.version s.group).run r
  rw [← isServed_eq] at hlook
  obtain ⟨hl, -⟩ := calm.run (Requests.asks_isServed nofun) hlook
  obtain rfl := (hright calm.faultless).resolve_right fun hmiss => hmiss.2 (h.later hl)
  obtain ⟨message, hnote⟩ := htrue u
  have hturn : run (s.turn r.clock 1) r = (.ok true, u.note .info message) := by
    rw [hf, run_bind_ok hlook, hnote]
  have hturns (left : Nat) :
      run (s.turns r.clock left 1) r = (.ok (), u.note .info message) := by
    cases left <;> rw [Serving.turns, bind_eq, run_bind_ok hturn] <;> rfl
  exact ⟨u.note .info message, hturns _, hstore⟩

end

end Testbed.Presence
