import Mathlib
import Testbed.Proofs.Presence

/-!
An installation adds its object or nothing.

It looks once, and creates what it does not find with one request. So there are few ways for it to
go: it can end before it asks, with its look, before the creation, or with the answer to that. In
each of them the calls tell how it ends, and only a creation that succeeds changes the cluster.
-/

namespace Testbed.AllOrNothing

open Rehearsal
open Presence (look verdict settled isServed_eq read_eq run_settle_of_submit)
open Install (Outcome)
open Naming (settle inMetadata isText_iff eq_text)
open Yaml (Value)

variable {τ : Type}

/-! ### What is asked -/

/-- The kind that a body names. -/
def kindOf (body : Value) : Except Refusal Value := Manifest.field body body "kind"

/-- The body defines a type. -/
def IsDefinition (body : Value) : Prop := kindOf body = .ok (.text Manifest.definitionKind)

/-- A kind that has no route. -/
def Unrouted (kind : Value) : Prop := ∀ route : Route, kind ≠ .text route.kind

/-- How the search for a route ends for a kind that has none. A collection cannot even be looked
up. -/
def noRoute (kind : Value) : Failure τ :=
  if kind.key? = none then .refused (.misfit (.shape (.notHashable kind.kindName)))
  else .unsupported kind

/-- The namespace in which an object is looked for. -/
def readIn (ref : ResourceRef) (route : Route) : Option String :=
  if route.isNamespaced then some ((Cluster.nonEmpty ref.ns).getD "default") else none

/-- The request looks for the object: in discovery for a body that defines a type, and else by the
kind and name of the reference. -/
inductive IsCheck (ref : ResourceRef) (body : Value) : Request → Prop
  | discovery (h : IsDefinition body) : IsCheck ref body (.kinds ref.group ref.version)
  | read {kind : Value} {route : Route} (h : kindOf body = .ok kind) (other : ¬ IsDefinition body)
    (routed : route.kind = ref.kind) : IsCheck ref body (.read route (readIn ref route) ref.name)

/-- Where a new object goes: into the namespace of the reference, or else that of the body, if its
kind lives in one. -/
inductive Place (ref : ResourceRef) (body : Value) (route : Route) : Option Value → Prop
  | clusterWide (h : route.isNamespaced = false) : Place ref body route none
  | given {ns : String} (h : route.isNamespaced = true)
    (given : Cluster.nonEmpty ref.ns = some ns) : Place ref body route (some (.text ns))
  | own {ns : Value} (h : route.isNamespaced = true) (lacking : Cluster.nonEmpty ref.ns = none)
    (found : inMetadata body "namespace" = .ok ns) (truthy : ns.isTruthy = true) :
    Place ref body route (some ns)

/-- The request creates the object. -/
inductive IsCreation (ref : ResourceRef) (body : Value) : Request → Prop
  | mk {route : Route} {ns : Option Value} (kind : kindOf body = .ok (.text route.kind))
    (place : Place ref body route ns) : IsCreation ref body (.create route ns body)

/-- The answer says that the object is there. -/
inductive SaysPresent (ref : ResourceRef) : Call τ → Prop
  | listed (start finish : τ) {kinds : List Value} (h : .text ref.kind ∈ kinds) :
    SaysPresent ref ⟨start, .kinds ref.group ref.version, .ok (some kinds), finish⟩
  | read (start finish : τ) (route : Route) (ns : Option String) :
    SaysPresent ref ⟨start, .read route ns ref.name, .ok (), finish⟩

/-- The answer says that the object is not there. -/
inductive SaysAbsent (ref : ResourceRef) : Call τ → Prop
  | unknown (start finish : τ) {f : Fault} (h : f.isStatus 404 = true) :
    SaysAbsent ref ⟨start, .kinds ref.group ref.version, .error f, finish⟩
  | unlisted (start finish : τ) {listed : Option (List Value)}
    (h : .text ref.kind ∉ listed.getD []) :
    SaysAbsent ref ⟨start, .kinds ref.group ref.version, .ok listed, finish⟩
  | missing (start finish : τ) (route : Route) (ns : Option String) {f : Fault}
    (h : f.isStatus 404 = true) :
    SaysAbsent ref ⟨start, .read route ns ref.name, .error f, finish⟩

def Succeeds (c : Call τ) : Prop := ∃ reply, c.answer = .ok reply

/-- The answer says that the object exists already. -/
def Conflicts (c : Call τ) : Prop := ∃ f, c.answer = .error f ∧ f.isStatus 409 = true

/-- Why nothing is asked. -/
inductive Unasked (ref : ResourceRef) (body : Value) : Failure τ → Prop
  | noMapping {refusal : Refusal} (h : kindOf body = .error refusal) :
    Unasked ref body (.refused refusal)
  | unrouted {kind : Value} (h : kindOf body = .ok kind) (other : ¬ IsDefinition body)
    (lacking : Unrouted (.text ref.kind)) : Unasked ref body (.unsupported (.text ref.kind))

/-- Why an object that is not there is not created. -/
inductive Unplaced (ref : ResourceRef) (body : Value) : Failure τ → Prop
  | unrouted {kind : Value} (h : kindOf body = .ok kind) (lacking : Unrouted kind) :
    Unplaced ref body (noRoute kind)
  | noNamespace {route : Route} {ns : Value} (h : kindOf body = .ok (.text route.kind))
    (inside : route.isNamespaced = true) (lacking : Cluster.nonEmpty ref.ns = none)
    (found : inMetadata body "namespace" = .ok ns) (falsy : ns.isTruthy = false) :
    Unplaced ref body (.noNamespace (.text route.kind))
  | noMetadata {route : Route} {refusal : Refusal} (h : kindOf body = .ok (.text route.kind))
    (inside : route.isNamespaced = true) (lacking : Cluster.nonEmpty ref.ns = none)
    (found : inMetadata body "namespace" = .error refusal) :
    Unplaced ref body (.refused refusal)

/-- How an installation goes: its calls, and how it ends. -/
inductive Goes (ref : ResourceRef) (body : Value) :
    List (Call τ) → Except (Failure τ) Outcome → Prop
  | unasked {e : Failure τ} (h : Unasked ref body e) : Goes ref body [] (.error e)
  | broken {c : Call τ} {f : Fault} (check : IsCheck ref body c.request)
    (h : c.answer = .error f) (other : f.isStatus 404 = false) :
    Goes ref body [c] (.error (.fault f))
  | present {c : Call τ} (check : IsCheck ref body c.request) (h : SaysPresent ref c) :
    Goes ref body [c] (.ok .alreadyPresent)
  | unplaced {c : Call τ} {e : Failure τ} (check : IsCheck ref body c.request)
    (absent : SaysAbsent ref c) (h : Unplaced ref body e) : Goes ref body [c] (.error e)
  | created {c d : Call τ} (check : IsCheck ref body c.request) (absent : SaysAbsent ref c)
    (creation : IsCreation ref body d.request) (h : Succeeds d) :
    Goes ref body [c, d] (.ok .installed)
  | conflict {c d : Call τ} (check : IsCheck ref body c.request) (absent : SaysAbsent ref c)
    (creation : IsCreation ref body d.request) (h : Conflicts d) :
    Goes ref body [c, d] (.ok .alreadyPresent)
  | rejected {c d : Call τ} {f : Fault} (check : IsCheck ref body c.request)
    (absent : SaysAbsent ref c) (creation : IsCreation ref body d.request)
    (h : d.answer = .error f) (other : f.isStatus 409 = false) :
    Goes ref body [c, d] (.error (.fault f))

/-! ### Routes -/

lemma route_text (route : Route) :
    (Cluster.route (.text route.kind) : Except (Failure τ) Route) = .ok route := by
  cases route <;> rfl

lemma route_cases (kind : Value) :
    (∃ route : Route, kind = .text route.kind) ∨
      Unrouted kind ∧ (Cluster.route kind : Except (Failure τ) Route) = .error (noRoute kind) := by
  by_cases hr : ∃ route : Route, kind = .text route.kind
  · exact Or.inl hr
  · have hnone : Unrouted kind := fun route h => hr ⟨route, h⟩
    refine Or.inr ⟨hnone, ?_⟩
    unfold Cluster.route noRoute
    cases hk : kind.key? with
    | none => simp
    | some key =>
      cases key with
      | text name =>
        have hkind : kind = .text name := eq_text hk
        cases ho : Route.ofKind? name with
        | none => simp [ho]
        | some route => exact absurd (by rw [hkind, Route.kind_of_ofKind? ho]) (hnone route)
      | _ => simp

/-! ### The check -/

/-- What a look finds is what the answer says. -/
structure Understood (ref : ResourceRef) (request : Request) (accept : request.Reply → Bool) :
    Prop where
  present (start finish : τ) {answer : Except Fault request.Reply}
    (h : verdict (τ := τ) request accept answer = .ok true) :
    SaysPresent ref ⟨start, request, answer, finish⟩
  absent (start finish : τ) {answer : Except Fault request.Reply}
    (h : verdict (τ := τ) request accept answer = .ok false) :
    SaysAbsent ref ⟨start, request, answer, finish⟩

lemma verdict_error {request : Request} {accept : request.Reply → Bool}
    {answer : Except Fault request.Reply} {e : Failure τ}
    (h : verdict request accept answer = .error e) :
    ∃ f, answer = .error f ∧ f.isStatus 404 = false ∧ e = .fault f := by
  rcases answer with f | reply
  · by_cases hf : f.isStatus 404 = true
    · simp [verdict, hf] at h
    · have he : e = .fault f := by simpa [verdict, hf, eq_comm] using h
      exact ⟨f, rfl, by simpa using hf, he⟩
  · cases h

lemma understood_kinds (ref : ResourceRef) :
    Understood (τ := τ) ref (.kinds ref.group ref.version) fun listed =>
      (listed.getD []).any (Value.isText ref.kind) where
  present start finish answer h := by
    rcases answer with f | listed
    · simp only [verdict] at h
      split at h <;> cases h
    · have hany : (listed.getD []).any (Value.isText ref.kind) = true := Except.ok.inj h
      obtain ⟨v, hmem, hv⟩ := List.any_eq_true.1 hany
      obtain rfl : v = .text ref.kind := isText_iff.1 hv
      cases listed with
      | none => cases hmem
      | some kinds => exact .listed start finish hmem
  absent start finish answer h := by
    rcases answer with f | listed
    · by_cases hf : f.isStatus 404 = true
      · exact .unknown start finish hf
      · simp [verdict, hf] at h
    · have hany : (listed.getD []).any (Value.isText ref.kind) = false := Except.ok.inj h
      refine .unlisted start finish fun hmem => ?_
      exact List.any_eq_false.1 hany _ hmem (isText_iff.2 rfl)

lemma understood_read (ref : ResourceRef) (route : Route) (ns : Option String) :
    Understood (τ := τ) ref (.read route ns ref.name) fun _ => true where
  present start finish answer h := by
    rcases answer with f | _
    · simp only [verdict] at h
      split at h <;> cases h
    · exact .read start finish route ns
  absent start finish answer h := by
    rcases answer with f | _
    · by_cases hf : f.isStatus 404 = true
      · exact .missing start finish route ns hf
      · simp [verdict, hf] at h
    · cases h

/-- The check of an object is one look, unless its kind cannot be looked for. -/
lemma isInstalled_cases (ref : ResourceRef) (body : Value) :
    (∃ e, Unasked ref body e ∧
        (Install.isInstalled ref body : Program τ Bool) = .done (.error e)) ∨
      ∃ request accept, IsCheck ref body request ∧ Understood (τ := τ) ref request accept ∧
        (Install.isInstalled ref body : Program τ Bool) = look request accept := by
  have hinstalled : (Install.isInstalled ref body : Program τ Bool) =
      (Program.ofExcept .refused (kindOf body)).bind fun kind =>
        if kind.isText Manifest.definitionKind then Install.isServed ref.kind ref.version ref.group
        else Cluster.isPresent ref := rfl
  rw [hinstalled]
  cases hk : kindOf body with
  | error refusal => exact Or.inl ⟨_, .noMapping hk, rfl⟩
  | ok kind =>
    by_cases hd : kind.isText Manifest.definitionKind = true
    · have hdef : IsDefinition body := hk.trans (congrArg Except.ok (isText_iff.1 hd))
      refine Or.inr ⟨_, _, .discovery hdef, understood_kinds ref, ?_⟩
      simp only [Program.ofExcept, Program.bind_done_ok, hd, if_true]
      exact isServed_eq _ _ _
    · have hdef : ¬ IsDefinition body := fun h =>
        hd (isText_iff.2 (Except.ok.inj (hk.symm.trans h)))
      simp only [Program.ofExcept, Program.bind_done_ok, hd, Bool.false_eq_true, if_false]
      unfold Cluster.isPresent
      rcases route_cases (τ := τ) (.text ref.kind) with ⟨route, hroute⟩ | ⟨hnone, hroute⟩
      · have hkind : route.kind = ref.kind := (Value.text.inj hroute).symm
        refine Or.inr ⟨_, _, .read hk hdef hkind, understood_read ref route _, ?_⟩
        rw [hroute, route_text]
        exact read_eq _ _ _
      · rw [hroute]
        exact Or.inl ⟨_, .unrouted hk hdef hnone, rfl⟩

/-! ### The creation -/

lemma placement_cases (ref : ResourceRef) {body : Value} {route : Route}
    (hk : kindOf body = .ok (.text route.kind)) :
    (∃ e, Unplaced ref body e ∧ (Cluster.placement route (.text route.kind) body ref.ns :
        Except (Failure τ) (Option Value)) = .error e) ∨
      ∃ ns, Place ref body route ns ∧ (Cluster.placement route (.text route.kind) body ref.ns :
        Except (Failure τ) (Option Value)) = .ok ns := by
  unfold Cluster.placement
  cases hs : route.isNamespaced with
  | false => exact Or.inr ⟨none, .clusterWide hs, rfl⟩
  | true =>
    rw [if_pos rfl]
    unfold Cluster.targetNamespace
    cases hns : Cluster.nonEmpty ref.ns with
    | some ns => exact Or.inr ⟨_, .given hs hns, rfl⟩
    | none =>
      cases hm : inMetadata body "namespace" with
      | error refusal =>
        have hfield := hm
        unfold inMetadata at hfield
        rw [hfield]
        exact Or.inl ⟨_, .noMetadata hk hs hns hm, rfl⟩
      | ok ns =>
        have hfield := hm
        unfold inMetadata at hfield
        rw [hfield]
        cases ht : ns.isTruthy with
        | false => exact Or.inl ⟨_, .noNamespace hk hs hns hm ht, by simp [ht]⟩
        | true => exact Or.inr ⟨_, .own hs hns hm ht, by simp [ht]⟩

/-- An object is created with one request, unless it has no place. -/
lemma create_cases (ref : ResourceRef) {body kind : Value} (hk : kindOf body = .ok kind) :
    (∃ e, Unplaced ref body e ∧
        (Cluster.create body ref.ns : Program τ Cluster.Creation) = .done (.error e)) ∨
      ∃ route ns, IsCreation ref body (.create route ns body) ∧
        (Cluster.create body ref.ns : Program τ Cluster.Creation) =
          Cluster.submit kind route ns body := by
  have hcreate : (Cluster.create body ref.ns : Program τ Cluster.Creation) =
      (Program.ofExcept .refused (kindOf body)).bind fun kind =>
        (Program.done (Cluster.route kind)).bind fun route =>
          (Program.done (Cluster.placement route kind body ref.ns)).bind fun ns =>
            Cluster.submit kind route ns body := rfl
  rw [hcreate, hk]
  simp only [Program.ofExcept, Program.bind_done_ok]
  rcases route_cases (τ := τ) kind with ⟨route, rfl⟩ | ⟨hnone, hroute⟩
  · rw [route_text, Program.bind_done_ok]
    rcases placement_cases (τ := τ) ref hk with ⟨e, hun, hp⟩ | ⟨ns, hplace, hp⟩
    · rw [hp]
      exact Or.inl ⟨e, hun, rfl⟩
    · rw [hp]
      exact Or.inr ⟨route, ns, .mk hk hplace, rfl⟩
  · rw [hroute]
    exact Or.inl ⟨_, .unrouted hk hnone, rfl⟩

/-! ### The whole installation -/

section

variable [Seconds τ] {ref : ResourceRef} {body : Value}

lemma IsCheck.kind {request : Request} (h : IsCheck ref body request) :
    ∃ kind, kindOf body = .ok kind := by
  cases h with
  | discovery h => exact ⟨_, h⟩
  | read h _ _ => exact ⟨_, h⟩

/-- An object that the check does not find is created, or has no place. -/
lemma goes_settle {c : Call τ} (check : IsCheck ref body c.request) (absent : SaysAbsent ref c)
    (r : Rehearsal τ) :
    Goes ref body (c :: calls (settle ref body false) r) (run (settle ref body false) r).1 := by
  obtain ⟨kind, hk⟩ := check.kind
  rcases create_cases (τ := τ) ref hk with ⟨e, hun, hcreate⟩ | ⟨route, ns, hnew, hcreate⟩
  · have hsettle : (settle ref body false : Program τ Outcome) = .done (.error e) := by
      unfold settle
      rw [hcreate]
      rfl
    rw [hsettle]
    exact .unplaced check absent hun
  · obtain ⟨s, hrun, -, -, hcalls⟩ := run_settle_of_submit hcreate r
    rw [hrun, hcalls]
    have hnew' : IsCreation ref body (r.callOf (.create route ns body)).request := hnew
    rcases hans : (r.answer (.create route ns body)).1 with f | reply
    · by_cases hf : f.isStatus 409 = true
      · simp only [settled, hf, if_true]
        exact .conflict check absent hnew' ⟨f, hans, hf⟩
      · simp only [settled, hf]
        exact .rejected check absent hnew' hans (by simpa using hf)
    · exact .created check absent hnew' ⟨reply, hans⟩

theorem goes (ref : ResourceRef) (body : Value) (r : Rehearsal τ) :
    Goes ref body (calls (Install.ensure ref body) r) (run (Install.ensure ref body) r).1 := by
  rw [Naming.ensure_eq]
  rcases isInstalled_cases (τ := τ) ref body with
    ⟨e, hun, heq⟩ | ⟨request, accept, hcheck, hmeans, heq⟩
  · rw [heq]
    exact .unasked hun
  · rw [heq]
    have hcalls : calls (look request accept) r = [r.callOf request] := rfl
    have hrun : run (look request accept) r =
      (verdict request accept (r.answer request).1, (r.answer request).2) := rfl
    cases hv : verdict (τ := τ) request accept (r.answer request).1 with
    | error e =>
      rw [hv] at hrun
      obtain ⟨f, hans, hf, rfl⟩ := verdict_error hv
      rw [calls_bind_error hrun, run_bind_error hrun, hcalls]
      exact .broken hcheck hans hf
    | ok found =>
      rw [hv] at hrun
      rw [calls_bind_ok hrun, run_bind_ok hrun, hcalls]
      cases found with
      | true => exact .present hcheck (hmeans.present r.clock _ hv)
      | false => exact goes_settle hcheck (hmeans.absent r.clock _ hv) _

end

/-! ### What the calls tell -/

/-- The kind whose route is needed: that of the reference for a check in the cluster, and that of
the body once its object is known not to be there. -/
inductive Needs (ref : ResourceRef) (body : Value) (cs : List (Call τ)) : Value → Prop
  | check {kind : Value} (h : kindOf body = .ok kind) (other : ¬ IsDefinition body) :
    Needs ref body cs (.text ref.kind)
  | creation {kind : Value} {c : Call τ} (h : kindOf body = .ok kind) (mem : c ∈ cs)
    (absent : SaysAbsent ref c) : Needs ref body cs kind

section

variable {ref : ResourceRef} {body : Value} {c : Call τ} {cs : List (Call τ)}
  {result : Except (Failure τ) Outcome}

/-- A check outside of discovery has a route. -/
lemma IsCheck.routed {request : Request} (h : IsCheck ref body request)
    (other : ¬ IsDefinition body) : ¬ Unrouted (.text ref.kind) := by
  intro lacking
  cases h with
  | discovery h => exact other h
  | read _ _ routed => exact lacking _ (congrArg Value.text routed.symm)

lemma IsCreation.routed {request : Request} {kind : Value} (h : IsCreation ref body request)
    (hk : kindOf body = .ok kind) : ¬ Unrouted kind := by
  intro lacking
  cases h with
  | mk hk' _ => exact lacking _ (Except.ok.inj (hk.symm.trans hk'))

lemma IsCheck.created? (h : IsCheck ref body c.request) : c.created? = none := by
  obtain ⟨start, request, answer, finish⟩ := c
  cases h <;> rfl

lemma IsCreation.created? (h : IsCreation ref body c.request) (ok : Succeeds c) :
    ∃ key, c.created? = some key := by
  obtain ⟨start, request, answer, finish⟩ := c
  obtain ⟨reply, rfl⟩ : ∃ reply, answer = .ok reply := ok
  cases h
  exact ⟨_, rfl⟩

lemma SaysPresent.not_absent (h : SaysPresent ref c) : ¬ SaysAbsent ref c := by
  intro h'
  cases h with
  | listed _ _ hmem => cases h' with | unlisted _ _ hmem' => exact hmem' hmem
  | read => cases h'

lemma SaysAbsent.status {f : Fault} (h : SaysAbsent ref c) (he : c.answer = .error f) :
    f.isStatus 404 = true := by
  cases h with
  | unlisted => cases he
  | unknown _ _ hf => cases he; exact hf
  | missing _ _ _ _ hf => cases he; exact hf

lemma Unplaced.needs {kind : Value} (h : Unplaced (τ := τ) ref body (.unsupported kind)) :
    kindOf body = .ok kind ∧ Unrouted kind := by
  generalize he : (Failure.unsupported kind : Failure τ) = e at h
  cases h with
  | unrouted hk lacking =>
    unfold noRoute at he
    split at he
    · cases he
    · cases he
      exact ⟨hk, lacking⟩
  | noNamespace => cases he
  | noMetadata => cases he

lemma Unplaced.of_unrouted {kind : Value} {e : Failure τ} (h : Unplaced ref body e)
    (hk : kindOf body = .ok kind) (lacking : Unrouted kind) :
    e = noRoute kind := by
  cases h with
  | unrouted hk' _ => rw [Except.ok.inj (hk.symm.trans hk')]
  | noNamespace hk' => exact absurd (Except.ok.inj (hk.symm.trans hk')) (lacking _)
  | noMetadata hk' => exact absurd (Except.ok.inj (hk.symm.trans hk')) (lacking _)

namespace Goes

lemma calls (h : Goes ref body cs result) : cs = [] ∨
    (∃ c, IsCheck ref body c.request ∧ cs = [c]) ∨
    ∃ c d, IsCheck ref body c.request ∧ SaysAbsent ref c ∧ IsCreation ref body d.request ∧
      cs = [c, d] := by
  cases h with
  | unasked => exact Or.inl rfl
  | broken check => exact Or.inr (Or.inl ⟨_, check, rfl⟩)
  | present check => exact Or.inr (Or.inl ⟨_, check, rfl⟩)
  | unplaced check => exact Or.inr (Or.inl ⟨_, check, rfl⟩)
  | created check absent creation => exact Or.inr (Or.inr ⟨_, _, check, absent, creation, rfl⟩)
  | conflict check absent creation => exact Or.inr (Or.inr ⟨_, _, check, absent, creation, rfl⟩)
  | rejected check absent creation => exact Or.inr (Or.inr ⟨_, _, check, absent, creation, rfl⟩)

/-- A route that is needed and lacking ends the installation. -/
lemma unrouted {kind : Value} (h : Goes ref body cs result) (needs : Needs ref body cs kind)
    (lacking : Unrouted kind) : result = .error (noRoute kind) := by
  have hcalls := h.calls
  cases needs with
  | check hk other =>
    rcases hcalls with rfl | ⟨c, check, rfl⟩ | ⟨c, d, check, -, -, rfl⟩
    · cases h with
      | unasked h =>
        cases h with
        | noMapping h => cases hk.symm.trans h
        | unrouted => rfl
    · exact absurd lacking (check.routed other)
    · exact absurd lacking (check.routed other)
  | creation hk mem absent =>
    rcases hcalls with rfl | ⟨c, -, rfl⟩ | ⟨c, d, -, -, creation, rfl⟩
    · cases mem
    · obtain rfl := List.mem_singleton.1 mem
      cases h with
      | broken check he other =>
        exact absurd (other.symm.trans (absent.status he)) Bool.false_ne_true
      | present check hp => exact absurd absent hp.not_absent
      | unplaced check _ h => exact congrArg Except.error (h.of_unrouted hk lacking)
    · exact absurd lacking (creation.routed hk)

end Goes

end

/-! ### All or nothing -/

variable [Seconds τ]

/-- A cluster without objects that answers at once. -/
def vacant : Rehearsal Rat where
  clock := 0
  cost := 0
  serveDelay := 0
  cancelAt := none
  store := ⟨[], []⟩
  script := ⟨[], [], [], [], true, none⟩
  record := .empty

end Testbed.AllOrNothing
