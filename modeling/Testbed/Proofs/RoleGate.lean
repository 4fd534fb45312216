import Mathlib
import Testbed.Proofs.Deadline
import Testbed.Proofs.Usable

/-!
The order in which a cluster is set up.

Both types are installed, then the last one is waited for, and only then the cluster is asked about
the role. An attempt may end at each of these stages; its calls are those of the stages that it has
come to. The role is reached only through a wait that has ended well, so discovery has listed the
type of tests before.
-/

namespace Testbed.RoleGate

open Rehearsal
open Presence (Yields look verdict isServed_eq read_eq run_settle)
open Bootstrap
open Install (Outcomes Serving Target)
open Naming (Names)
open Yaml (Value)

variable {τ α : Type}

/-! ### Requests of an installation -/

/-- The request by which an object is looked for. -/
def checkOf (ref : ResourceRef) (route : Route) (ns : Option String) (name : String) : Request :=
  if route = .definition then .kinds ref.group ref.version else .read route ns name

/-- The cluster is asked about its role. -/
def AboutRole (request : Request) : Prop :=
  request.call = .read .clusterRole ∨ request.call = .create .clusterRole

/-- An object is created. -/
def isCreation : Request → Bool
  | .create _ _ _ => true
  | _ => false

/-- The requests that are sent, in order. -/
def requests (cs : List (Call τ)) : List Request := cs.map (·.request)

def creations (cs : List (Call τ)) : List Request := (requests cs).filter isCreation

lemma creations_append (cs cs' : List (Call τ)) :
    creations (cs ++ cs') = creations cs ++ creations cs' := by
  unfold creations requests
  rw [List.map_append, List.filter_append]

lemma creations_eq_nil {cs : List (Call τ)} (h : ∀ c ∈ cs, isCreation c.request = false) :
    creations cs = [] := by
  unfold creations requests
  rw [List.filter_eq_nil_iff]
  intro request hr
  obtain ⟨c, hc, rfl⟩ := List.mem_map.1 hr
  rw [h c hc]
  exact Bool.false_ne_true

lemma isCreation_checkOf (ref : ResourceRef) (route : Route) (ns : Option String) (name : String) :
    isCreation (checkOf ref route ns name) = false := by
  unfold checkOf
  split <;> rfl

section

variable [Seconds τ] {m : Manifest} {route : Route} {ns : Option String} {name : String}

/-- An installation looks for its object and may then create it. -/
lemma requests_ensure (h : Names m route ns name) (r : Rehearsal τ) :
    requests (calls (Install.ensure m.ref m.body) r) <+:
      [checkOf m.ref route ns name, .create route (ns.map Value.text) m.body] := by
  obtain ⟨request, accept, hlook, rfl⟩ : ∃ request accept,
      (Install.isInstalled m.ref m.body : Program τ _) = look request accept ∧
        request = checkOf m.ref route ns name := by
    rw [h.isInstalled]
    unfold Naming.presence checkOf
    split
    · exact ⟨_, _, isServed_eq _ _ _, rfl⟩
    · exact ⟨_, _, read_eq _ _ _, rfl⟩
  have hcalls : calls (Install.isInstalled m.ref m.body) r =
      [r.callOf (checkOf m.ref route ns name)] := by
    rw [hlook]
    rfl
  rw [Naming.ensure_eq]
  rcases hrun : run (Install.isInstalled m.ref m.body) r with ⟨e | present, s⟩
  · rw [calls_bind_error hrun, hcalls]
    exact ⟨[_], rfl⟩
  · rw [calls_bind_ok hrun, hcalls]
    cases present with
    | true => exact ⟨[_], rfl⟩
    | false =>
      obtain ⟨t, -, -, -, hsettle⟩ := run_settle h s
      rw [hsettle]
      exact List.prefix_rfl

lemma requests_add (h : Names m route ns name) (done : Outcomes × Target) (r : Rehearsal τ) :
    requests (calls (Install.add m done) r) <+:
      [checkOf m.ref route ns name, .create route (ns.map Value.text) m.body] := by
  obtain ⟨done, target⟩ := done
  cases target with
  | cluster =>
    have hcalls : calls (Install.add m (done, .cluster)) r =
        calls (Install.ensure m.ref m.body) r := by
      rw [add_eq]
      rcases hrun : run (Install.ensure m.ref m.body) r with ⟨e | outcome, s⟩
      · exact calls_bind_error hrun
      · rw [calls_bind_ok hrun]
        exact List.append_nil _
    rw [hcalls]
    exact requests_ensure h r
  | collection c => exact List.nil_prefix
  | nowhere => exact List.nil_prefix

lemma creations_add (h : Names m route ns name) (done : Outcomes × Target) (r : Rehearsal τ) :
    (creations (calls (Install.add m done) r)).Sublist
      [.create route (ns.map Value.text) m.body] := by
  have hsub := (requests_add h done r).sublist.filter isCreation
  rwa [List.filter_cons_of_neg (by rw [isCreation_checkOf]; exact Bool.false_ne_true),
    List.filter_cons_of_pos rfl, List.filter_nil] at hsub

/-- What is installed is reported last. -/
lemma refs_add {done result : Outcomes × Target} {r s : Rehearsal τ}
    (h : run (Install.add m done) r = (.ok result, s)) :
    result.1.map Prod.fst = done.1.map Prod.fst ++ [m.ref] := by
  obtain ⟨x, t, -, hdone⟩ := ok_of_run_bind h
  cases hdone
  simp

end

/-! ### The wait -/

/-- Discovery lists a type of this testbed. -/
inductive Shows (kind : String) : Call τ → Prop where
  | mk (start finish : τ) {kinds : List Value} (h : .text kind ∈ kinds) :
    Shows kind ⟨start, .kinds Install.ownGroup Bundled.version, .ok (some kinds), finish⟩

/-- The wait for the type of tests. -/
def forTests (timeout : τ) : Serving τ := ⟨"Test", Bundled.version, Install.ownGroup, timeout⟩

section

variable [Seconds τ] {timeout start : τ} {r t : Rehearsal τ}

/-- A check that is met has been shown the type. -/
lemma shows_of_isServed {kind : String}
    (h : run (Install.isServed kind Bundled.version Install.ownGroup) r = (.ok true, t)) :
    Shows kind (r.callOf (.kinds Install.ownGroup Bundled.version)) := by
  rw [isServed_eq] at h
  have hverdict := congrArg Prod.fst h
  change verdict _ _ (r.answer (.kinds Install.ownGroup Bundled.version)).1 = _ at hverdict
  unfold callOf
  generalize (r.answer (.kinds Install.ownGroup Bundled.version)).1 = answer at hverdict ⊢
  rcases answer with f | _ | kinds
  · simp only [verdict] at hverdict
    split at hverdict <;> cases hverdict
  · cases hverdict
  · obtain ⟨k, hk, ht⟩ := List.any_eq_true.1 (Except.ok.inj hverdict)
    rw [Naming.isText_iff.1 ht] at hk
    exact .mk _ _ hk

lemma yields_goAround (s : Serving τ) (start : τ) (attempts : Nat) :
    Yields (· = false) (Deadline.goAround s start attempts false) := by
  intro r served t h
  change run (if _ then _ else _) r = _ at h
  split at h
  · cases h
  · obtain ⟨_, u, -, h⟩ := ok_of_run_bind (r := r.note _ _) h
    change run (if _ then _ else _) u = _ at h
    split at h <;> cases h
    rfl

lemma calls_turn (s : Serving τ) (start : τ) (attempts : Nat) (r : Rehearsal τ) :
    calls (s.turn start attempts) r = [r.callOf (.kinds s.group s.version)] := by
  have hcalls : calls (Install.isServed s.kind s.version s.group) r =
      [r.callOf (.kinds s.group s.version)] := by
    rw [isServed_eq]
    rfl
  rw [Deadline.turn_eq]
  rcases hrun : run (Install.isServed s.kind s.version s.group) r with ⟨e | served, u⟩
  · rw [calls_bind_error hrun, hcalls]
  · rw [calls_bind_ok hrun, hcalls,
      Truncation.calls_eq_nil (Deadline.asks_goAround s start attempts served), List.append_nil]

/-- A turn that ends the wait has been shown the type. -/
lemma shows_of_turn {attempts : Nat}
    (h : run ((forTests timeout).turn start attempts) r = (.ok true, t)) :
    Shows "Test" (r.callOf (.kinds Install.ownGroup Bundled.version)) := by
  rw [Deadline.turn_eq] at h
  obtain ⟨served, u, hserved, h⟩ := ok_of_run_bind h
  cases served with
  | true => exact shows_of_isServed hserved
  | false => cases yields_goAround _ _ _ _ _ _ h

lemma shows_of_turns {left attempts : Nat}
    (h : run ((forTests timeout).turns start left attempts) r = (.ok (), t)) :
    ∃ waits last, calls ((forTests timeout).turns start left attempts) r = waits ++ [last] ∧
      Shows "Test" last := by
  induction left generalizing attempts r with
  | zero =>
    rw [Deadline.turns_eq] at h ⊢
    obtain ⟨served, u, hturn, h⟩ := ok_of_run_bind h
    cases served with
    | true =>
      rw [calls_bind_ok hturn, calls_turn]
      exact ⟨[], _, rfl, shows_of_turn hturn⟩
    | false => cases h
  | succ left ih =>
    rw [Deadline.turns_eq] at h ⊢
    obtain ⟨served, u, hturn, h⟩ := ok_of_run_bind h
    rw [calls_bind_ok hturn, calls_turn]
    cases served with
    | true => exact ⟨[], _, rfl, shows_of_turn hturn⟩
    | false =>
      obtain ⟨waits, last, hcalls, hlast⟩ := ih h
      exact ⟨_ :: waits, last, congrArg (_ :: ·) hcalls, hlast⟩

/-- A wait that ends well has been shown the type by its last call. -/
lemma shows_of_awaitServed (h : run (Install.awaitServed (forTests timeout)) r = (.ok (), t)) :
    ∃ waits last, calls (Install.awaitServed (forTests timeout)) r = waits ++ [last] ∧
      Shows "Test" last :=
  shows_of_turns (r := r) h

end

/-! ### The stages of an attempt -/

section

variable [Seconds τ] {timeout : τ} {roleName : String} {ofInstance ofTest ofRole : Manifest}
  {r : Rehearsal τ}

/-- What an attempt calls and how it ends: with the types, with the wait, or with the role. -/
inductive Staged (timeout : τ) (ofRole : Manifest) (r : Rehearsal τ) :
    List (Call τ) → Except (Failure τ) (Outcomes × Target) × Rehearsal τ → Prop where
  | inTypes {e : Failure τ} {s : Rehearsal τ} (h : run installTypes r = (.error e, s)) :
    Staged timeout ofRole r (calls installTypes r) (.error e, s)
  | inWait {done : Outcomes × Target} {e : Failure τ} {s t : Rehearsal τ}
    (h : run installTypes r = (.ok done, s))
    (fails : run (Install.awaitServed (forTests timeout)) s = (.error e, t)) :
    Staged timeout ofRole r
      (calls installTypes r ++ calls (Install.awaitServed (forTests timeout)) s) (.error e, t)
  | inRole {done : Outcomes × Target} {s t : Rehearsal τ} (h : run installTypes r = (.ok done, s))
    (served : run (Install.awaitServed (forTests timeout)) s = (.ok (), t)) :
    Staged timeout ofRole r
      (calls installTypes r ++ (calls (Install.awaitServed (forTests timeout)) s ++
        calls (Install.add ofRole done) t)) (run (Install.add ofRole done) t)

lemma staged (kit : Kit roleName ofInstance ofTest ofRole) (timeout : τ) (r : Rehearsal τ) :
    Staged timeout ofRole r (calls (setUp timeout roleName) r)
      (run (setUp timeout roleName) r) := by
  have hwait : Install.awaitType timeout ofTest .cluster =
      Install.awaitServed (forTests timeout) := by
    unfold Install.awaitType forTests
    rw [kit.forTest.ref]
  rw [kit.setUp_eq, hwait]
  rcases htypes : run installTypes r with ⟨e | done, s⟩
  · rw [calls_bind_error htypes, run_bind_error htypes]
    exact .inTypes htypes
  · rw [calls_bind_ok htypes, run_bind_ok htypes]
    rcases hserved : run (Install.awaitServed (forTests timeout)) s with ⟨e | _, t⟩
    · rw [calls_bind_error hserved, run_bind_error hserved]
      exact .inWait htypes hserved
    · rw [calls_bind_ok hserved, run_bind_ok hserved]
      exact .inRole htypes hserved

/-! ### What the stages ask for -/

lemma creations_installTypes (kit : Kit roleName ofInstance ofTest ofRole) (r : Rehearsal τ) :
    (creations (calls installTypes r)).Sublist
      [.create .definition none ofInstance.body, .create .definition none ofTest.body] := by
  have first := creations_add kit.forInstance.names ([], .cluster) r
  rw [kit.types_eq, kit.first_eq]
  rcases hrun : run (Install.add ofInstance ([], .cluster)) r with ⟨e | done, s⟩
  · rw [calls_bind_error hrun]
    exact first.trans (List.sublist_append_left _ [_])
  · rw [calls_bind_ok hrun, creations_append]
    exact first.append (creations_add kit.forTest.names done s)

lemma refs_installTypes (kit : Kit roleName ofInstance ofTest ofRole) {done : Outcomes × Target}
    {s : Rehearsal τ} (h : run installTypes r = (.ok done, s)) :
    done.1.map Prod.fst = types.map typeRef := by
  rw [kit.types_eq, kit.first_eq] at h
  obtain ⟨first, t, hfirst, hsecond⟩ := ok_of_run_bind h
  rw [refs_add hsecond, refs_add hfirst, kit.forInstance.ref, kit.forTest.ref]
  rfl

/-- The types are installed without a word about the role. -/
lemma spares_types (kit : Kit roleName ofInstance ofTest ofRole) :
    ∀ c ∈ calls (installTypes : Program τ _) r, ¬ AboutRole c.request := by
  have add {m : Manifest} {name : String} (h : Names m .definition none name)
      (done : Outcomes × Target) :
      Asks (fun request => ¬ AboutRole request) (Install.add m done : Program τ _) :=
    Requests.asks_add (Requests.asks_ensure_named h (by simp [AboutRole, Request.call])
      (by simp [AboutRole, Request.call]) (by simp [AboutRole, Request.call]))
  have asks : Asks (fun request => ¬ AboutRole request) (installTypes : Program τ _) := by
    rw [kit.types_eq, kit.first_eq]
    exact .bind (add kit.forInstance.names _) fun done => add kit.forTest.names done
  exact asks.calls r

/-- The wait asks for the types only. -/
lemma kinds_of_wait (timeout : τ) (r : Rehearsal τ) :
    ∀ c ∈ calls (Install.awaitServed (forTests timeout)) r,
      c.request = .kinds Install.ownGroup Bundled.version := by
  have asks : Asks (· = .kinds Install.ownGroup Bundled.version)
      (Install.awaitServed (forTests timeout)) := Requests.asks_awaitServed rfl
  exact asks.calls r

lemma spares_wait (timeout : τ) (r : Rehearsal τ) :
    ∀ c ∈ calls (Install.awaitServed (forTests timeout)) r, ¬ AboutRole c.request := by
  intro c hc
  rw [kinds_of_wait timeout r c hc]
  simp [AboutRole, Request.call]

/-- The role is asked for by its name, and created as it is in its manifest. -/
lemma requests_role (kit : Kit roleName ofInstance ofTest ofRole) {done : Outcomes × Target} :
    ∀ c ∈ calls (Install.add ofRole done) r, c.request = .read .clusterRole none roleName ∨
      c.request = .create .clusterRole none ofRole.body := by
  intro c hc
  have hmem := (requests_add kit.forRole.names done r).subset (List.mem_map_of_mem hc)
  rcases List.mem_pair.1 hmem with h | h
  · exact Or.inl h
  · exact Or.inr h

omit [Seconds τ] in
/-- A call that the beginning does not make comes after it. -/
lemma append_of_cons {P : Call τ → Prop} {xs ys before after : List (Call τ)} {c : Call τ}
    (h : xs ++ ys = before ++ c :: after) (hc : P c) (hxs : ∀ x ∈ xs, ¬ P x) :
    ∃ between, before = xs ++ between := by
  rcases List.append_eq_append_iff.1 h with ⟨between, hbefore, -⟩ | ⟨rest, hrest, hcons⟩
  · exact ⟨between, hbefore⟩
  · cases rest with
    | nil =>
      rw [List.append_nil] at hrest
      exact ⟨[], by rw [List.append_nil, hrest]⟩
    | cons d rest =>
      obtain ⟨rfl, -⟩ := List.cons.inj hcons
      exact absurd hc (hxs c (hrest ▸ by simp))

/-! ### Main result -/

/-- Setting up a cluster, in its order. -/
structure Gated (timeout : τ) (roleName : String) (ofInstance ofTest ofRole : Manifest)
    (r : Rehearsal τ) : Prop where
  creates : (creations (calls (setUp timeout roleName) r)).Sublist
    [.create .definition none ofInstance.body, .create .definition none ofTest.body,
      .create .clusterRole none ofRole.body]
  gate : ∀ before c after, calls (setUp timeout roleName) r = before ++ c :: after →
    AboutRole c.request → ∃ done s waits look between, run installTypes r = (.ok done, s) ∧
      before = calls installTypes r ++ (waits ++ [look]) ++ between ∧ Shows "Test" look
  waits : ∀ done s e t, run installTypes r = (.ok done, s) →
    run (Install.awaitServed (forTests timeout)) s = (.error e, t) →
      run (setUp timeout roleName) r = (.error e, t) ∧
        ∀ c ∈ calls (setUp timeout roleName) r, ¬ AboutRole c.request
  returns : ∀ done target final, run (setUp timeout roleName) r = (.ok (done, target), final) →
    done.map Prod.fst = types.map typeRef ++ [Bundled.roleRef roleName] ∧
      (done.map Prod.fst).Nodup
  named : ∀ c ∈ calls (setUp timeout roleName) r, AboutRole c.request →
    c.request = .read .clusterRole none roleName ∨
      c.request = .create .clusterRole none ofRole.body
  nameIn : Naming.nameIn ofRole.body = some (.text roleName)

namespace Staged

variable {cs : List (Call τ)} {x : Except (Failure τ) (Outcomes × Target) × Rehearsal τ}

lemma creates (kit : Kit roleName ofInstance ofTest ofRole) (h : Staged timeout ofRole r cs x) :
    (creations cs).Sublist [.create .definition none ofInstance.body,
      .create .definition none ofTest.body, .create .clusterRole none ofRole.body] := by
  have types := creations_installTypes kit r
  have nothing (s : Rehearsal τ) :
      creations (calls (Install.awaitServed (forTests timeout)) s) = [] :=
    creations_eq_nil fun c hc => by rw [kinds_of_wait timeout s c hc]; rfl
  cases h with
  | inTypes _ => exact types.trans (List.sublist_append_left _ [_])
  | inWait _ _ =>
    rw [creations_append, nothing, List.append_nil]
    exact types.trans (List.sublist_append_left _ [_])
  | @inRole done s t _ _ =>
    rw [creations_append, creations_append, nothing, List.nil_append]
    exact types.append (creations_add kit.forRole.names done t)

lemma gate (kit : Kit roleName ofInstance ofTest ofRole) (h : Staged timeout ofRole r cs x)
    {before after : List (Call τ)} {c : Call τ} (hcs : cs = before ++ c :: after)
    (hc : AboutRole c.request) : ∃ done s waits look between, run installTypes r = (.ok done, s) ∧
      before = calls installTypes r ++ (waits ++ [look]) ++ between ∧ Shows "Test" look := by
  have hmem : c ∈ cs := hcs ▸ by simp
  cases h with
  | inTypes _ => exact absurd hc (spares_types kit c hmem)
  | inWait _ _ =>
    rcases List.mem_append.1 hmem with hmem | hmem
    · exact absurd hc (spares_types kit c hmem)
    · exact absurd hc (spares_wait _ _ c hmem)
  | @inRole done s t htypes hserved =>
    obtain ⟨waits, look, hwaits, hshows⟩ := shows_of_awaitServed hserved
    rw [← List.append_assoc] at hcs
    obtain ⟨between, hbefore⟩ := append_of_cons (P := fun c => AboutRole c.request) hcs hc
      (List.forall_mem_append.2 ⟨spares_types kit, spares_wait timeout s⟩)
    rw [hwaits] at hbefore
    exact ⟨done, s, waits, look, between, htypes, hbefore, hshows⟩

lemma waits (kit : Kit roleName ofInstance ofTest ofRole) (h : Staged timeout ofRole r cs x)
    {done : Outcomes × Target} {s t : Rehearsal τ} {e : Failure τ}
    (htypes : run installTypes r = (.ok done, s))
    (hfails : run (Install.awaitServed (forTests timeout)) s = (.error e, t)) :
    x = (.error e, t) ∧ ∀ c ∈ cs, ¬ AboutRole c.request := by
  cases h with
  | inTypes htypes' => cases htypes.symm.trans htypes'
  | inWait htypes' hfails' =>
    cases htypes.symm.trans htypes'
    cases hfails.symm.trans hfails'
    exact ⟨rfl, List.forall_mem_append.2 ⟨spares_types kit, spares_wait timeout s⟩⟩
  | inRole htypes' hserved =>
    cases htypes.symm.trans htypes'
    cases hfails.symm.trans hserved

lemma returns (kit : Kit roleName ofInstance ofTest ofRole) (h : Staged timeout ofRole r cs x)
    {done : Outcomes × Target} {final : Rehearsal τ} (hx : x = (.ok done, final)) :
    done.1.map Prod.fst = types.map typeRef ++ [Bundled.roleRef roleName] := by
  cases h with
  | inTypes _ => cases hx
  | inWait _ _ => cases hx
  | inRole htypes _ => rw [refs_add hx, refs_installTypes kit htypes, kit.forRole.ref]

lemma named (kit : Kit roleName ofInstance ofTest ofRole) (h : Staged timeout ofRole r cs x) :
    ∀ c ∈ cs, AboutRole c.request → c.request = .read .clusterRole none roleName ∨
      c.request = .create .clusterRole none ofRole.body := by
  intro c hc habout
  cases h with
  | inTypes _ => exact absurd habout (spares_types kit c hc)
  | inWait _ _ =>
    rcases List.mem_append.1 hc with hc | hc
    · exact absurd habout (spares_types kit c hc)
    · exact absurd habout (spares_wait _ _ c hc)
  | inRole _ _ =>
    rcases List.mem_append.1 hc with hc | hc
    · exact absurd habout (spares_types kit c hc)
    · rcases List.mem_append.1 hc with hc | hc
      · exact absurd habout (spares_wait _ _ c hc)
      · exact requests_role kit c hc

end Staged

/-- The references of what is set up differ in their kinds. -/
lemma nodup_refs (roleName : String) :
    (types.map typeRef ++ [Bundled.roleRef roleName]).Nodup := by
  refine List.Nodup.of_map (·.kind) ?_
  show ["Instance", "Test", "ClusterRole"].Nodup
  decide

/-- **The role waits for the types.** In every cluster, whatever goes wrong and whenever the attempt
is cancelled: at most the two definitions and the role are created, in this order. The role is asked
for only after both types have been installed and discovery has listed the type of tests; where the
wait for it ends badly, not at all. An attempt that comes to its end reports the three objects, and
the role has the name that was chosen wherever it is named. -/
theorem role_waits_for_types (timeout : τ) (roleName : String) (r : Rehearsal τ) :
    ∃ ofInstance ofTest ofRole, Kit roleName ofInstance ofTest ofRole ∧
      Gated timeout roleName ofInstance ofTest ofRole r := by
  obtain ⟨ofInstance, ofTest, ofRole, kit⟩ := exists_kit roleName
  have h := staged kit timeout r
  refine ⟨ofInstance, ofTest, ofRole, kit, h.creates kit, fun _ _ _ hcs hc => h.gate kit hcs hc,
    fun _ _ _ _ htypes hfails => h.waits kit htypes hfails, fun done target final hrun => ?_,
    h.named kit, kit.forRole.names.named⟩
  have hrefs := h.returns kit hrun
  exact ⟨hrefs, hrefs ▸ nodup_refs roleName⟩

end

/-- On a bare cluster an attempt passes through all of its stages. -/
theorem bare_world_in_order : ∃ ofInstance ofTest ofRole done target final,
    Gated (25 : Rat) "yaks:edit" ofInstance ofTest ofRole bareWorld ∧
      run (setUp 25 "yaks:edit") bareWorld = (.ok (done, target), final) ∧ done.length = 3 := by
  obtain ⟨ofInstance, ofTest, ofRole, kit, gated⟩ :=
    role_waits_for_types (25 : Rat) "yaks:edit" bareWorld
  have hfree : Faultless bareWorld.script := by simp [Faultless, bareWorld]
  have served : Bootstrap.Served bareWorld bareWorld.clock := by
    simp [Bootstrap.Served, bareWorld]
  obtain ⟨⟨done, target⟩, final, hrun⟩ := kit.ends (25 : Rat) (by decide) (Follows.refl bareWorld)
    hfree rfl served (Steady.le_refl _)
  have hrefs := congrArg List.length (gated.returns _ _ _ hrun).1
  rw [List.length_map] at hrefs
  exact ⟨ofInstance, ofTest, ofRole, done, target, final, gated, hrun, hrefs⟩

end Testbed.RoleGate
