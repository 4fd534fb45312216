import Mathlib
import Testbed.Proofs.ServedVersion
import Testbed.Proofs.Usable

/-!
What has been installed is found from then on.

The parser picks the type that stands for a definition, and the cluster serves the types of all
versions that the definition does not keep back. The type that is picked is among them.
-/

namespace Testbed.StaysInstalled

open Rehearsal
open Naming (Names Parsed inMetadata field_ok section?_ok makeRef_ok)
open Presence
open SameObject (Stated)
open ServedVersion (Lists FirstServed servedKind servedVersion_ok refer_ok)
open Yaml (Value)

variable {τ : Type}

/-! ### Manifests -/

/-- The manifest defines a type of this group and kind, and this version of it is the first that
is served. -/
structure DefinesType (m : Manifest) (group kind version name : String) : Prop where
  parsed : Parsed m
  named : inMetadata m.body "name" = .ok (.text name)
  offers : ∃ spec entries, Lists m.body spec entries ∧
    Manifest.field m.body spec "group" = .ok (.text group) ∧
    servedKind m.body spec = .ok (.text kind) ∧ FirstServed m.body entries (.text version)

/-- The parser accepts the manifest, its kind has a route, and the fields that tell objects apart
are texts. A definition has a version that is served. -/
inductive Identified (m : Manifest) : Route → Prop
  | object {route : Route} {ns : Option String} {name : String} (h : Stated m route ns name) :
    Identified m route
  | definition {group kind version name : String} (h : DefinesType m group kind version name) :
    Identified m .definition

namespace DefinesType

variable {m : Manifest} {group kind version name : String}

/-- The parser refers to the first version that is served. -/
lemma ref (h : DefinesType m group kind version name) :
    m.ref.group = group ∧ m.ref.kind = kind ∧ m.ref.version = version := by
  obtain ⟨spec, entries, lists, hgroup, hkind, hfirst⟩ := h.offers
  obtain ⟨body, hbody⟩ := h.parsed.ofValue
  obtain ⟨rfl, -⟩ := Naming.ofValue_ok hbody
  obtain ⟨-, group', kind', version', name', hg, hk, hv, -, href⟩ :=
    ServedVersion.ofValue_ok lists hbody
  obtain ⟨-, hmake⟩ := refer_ok href
  obtain ⟨hgroup', hkind', hversion', -⟩ := makeRef_ok hmake
  obtain rfl : group' = .text group := Except.ok.inj (hg.symm.trans hgroup)
  obtain rfl : kind' = .text kind := Except.ok.inj (hk.symm.trans hkind)
  obtain rfl : version' = .text version := by
    rcases servedVersion_ok lists hv with hfirst' | ⟨hnone, -⟩
    · exact hfirst'.unique hfirst
    · exact absurd hnone hfirst.not_none
  exact ⟨(Except.ok.inj hgroup').symm, (Except.ok.inj hkind').symm,
    (Except.ok.inj hversion').symm⟩

/-- The cluster serves that version, among others. -/
lemma mem_definedBy (h : DefinesType m group kind version name) (since : τ) :
    ⟨group, version, [.text kind], since⟩ ∈ Store.definedBy m.body since := by
  obtain ⟨spec, entries, lists, hgroup, hkind, before, entry, after, rfl, -, hserves⟩ := h.offers
  obtain ⟨versions, label, hversions, hlist⟩ := lists.listed
  have hg : Store.field m.body "group" spec = some (.text group) := field_ok hgroup (by simp)
  have hspec : Store.field m.body "spec" m.body = some spec := by
    rcases section?_ok lists.inSpec with hs | rfl
    · exact hs
    · cases hg
  have hk : (Store.field m.body "names" spec).bind (Store.field m.body "kind") =
      some (.text kind) := by
    obtain ⟨names, hnames, hkind⟩ := Naming.bind_ok hkind
    have hk := field_ok hkind (by simp)
    rcases section?_ok hnames with hs | rfl
    · rw [hs]
      exact hk
    · cases hk
  have hv : Store.field m.body "versions" spec = some versions :=
    field_ok hversions (by rintro rfl; cases hlist)
  have hserved : ((Store.field m.body "served" entry).getD (.bool true)).isTruthy = true := by
    cases hs : Store.field m.body "served" entry with
    | none => rfl
    | some v => exact hserves.served v hs
  unfold Store.definedBy
  simp only [hspec, hk, hg, hv, Option.map_some, hlist, Option.getD_some]
  refine List.mem_filterMap.2 ⟨entry, by simp, ?_⟩
  rw [if_pos hserved, hserves.named]

end DefinesType

/-! ### Further steps -/

/-- The second cluster is the first after some steps: any programs one after the other, each with
its own faults, and any time between them. -/
inductive Leads [Seconds τ] (r : Rehearsal τ) : Rehearsal τ → Prop
  | refl : Leads r r
  | step {s : Rehearsal τ} {α : Type} (h : Leads r s) (a : Attempt τ) (p : Program τ α) :
    Leads r (run p (a.start s)).2

section

variable [Seconds τ] {r s : Rehearsal τ}

lemma served_run {α : Type} (p : Program τ α) (r : Rehearsal τ) :
    r.store.served <+: (run p r).2.store.served := by
  induction p generalizing r with
  | done result => exact List.prefix_rfl
  | ask request next ih =>
    refine List.IsPrefix.trans ?_ (ih (r.answer request).1 (r.answer request).2)
    rcases Usable.store_answer request r with h | ⟨route, ns, body, since, -, h⟩
    · rw [h]
    · rw [h]
      exact List.prefix_append _ _
  | now next ih => exact ih _ r
  | isCancelled next ih => exact ih _ r
  | pause length next ih =>
    have hrest := ih (r.pause length).1 (r.pause length).2
    rwa [objects_pause] at hrest
  | note level message next ih => exact ih (r.note level message)

/-- Whatever is done, the cluster keeps what it has. -/
lemma Leads.keeps (h : Leads r s) : r.store.objects <+: s.store.objects ∧
    r.store.served <+: s.store.served := by
  induction h with
  | refl => exact ⟨List.prefix_rfl, List.prefix_rfl⟩
  | step _ a p ih =>
    obtain ⟨hobjects, hserved⟩ := ih
    constructor
    · rw [objects_run]
      exact hobjects.trans (List.prefix_append _ _)
    · exact hserved.trans (served_run p (a.start _))

end

/-! ### Main result -/

variable [Seconds τ] {m : Manifest} {route : Route} {ns : Option String} {name : String}
  {r s t : Rehearsal τ}

/-- What is done about an object that has been installed before. -/
structure Stays (m : Manifest) (route : Route) (r s t : Rehearsal τ) : Prop where
  /-- It was created at the end of its installation. -/
  created : ∃ c ∈ calls (Install.ensure m.ref m.body) r, ∃ key,
    c.created? = some key ∧ c.finish = s.clock
  /-- It is never installed again, even while a new type is not served yet. -/
  again : ∃ u, run (Install.ensure m.ref m.body) t = (.ok .alreadyPresent, u) ∧ u.store = t.store
  /-- It is found and its creation is not tried again. A type has to be served by the time at which
  the check reaches the cluster. -/
  found : (route = .definition → s.clock + s.serveDelay ≤ t.clock + t.cost) →
    (run (Install.isInstalled m.ref m.body) t).1 = .ok true ∧
      ∀ c ∈ calls (Install.ensure m.ref m.body) t, Looks c.request

/-- An object that is installed has a home. -/
lemma Identified.names (h : Identified m route) (free : Faultless r.script)
    (hrun : run (Install.ensure m.ref m.body) r = (.ok .installed, s)) :
    ∃ ns name, Names m route ns name := by
  cases h with
  | object h =>
    have hresult := SameObject.run_ensure h free
    rw [hrun] at hresult
    split at hresult
    · cases hresult
    · split at hresult
      · cases hresult
      · rename_i home
        exact ⟨_, _, h.names home⟩
  | definition h =>
    obtain ⟨spec, entries, lists, -⟩ := h.offers
    exact ⟨none, _, Naming.Accepted.names
      ⟨h.parsed, lists.definition, h.named, Or.inl ⟨rfl, rfl⟩⟩⟩

/-- What a look at a cluster finds that has kept an object, and serves its types. -/
lemma Identified.found (h : Identified m route) {key : ObjectKey} {since : τ}
    (objects : key ∈ t.store.objects)
    (served : route = .definition → Store.definedBy m.body since ⊆ t.store.served ∧
      since ≤ t.clock + t.cost) :
    Found m.ref route key (t.atTime (t.clock + t.cost)) := by
  unfold Found
  cases h with
  | object h =>
    rw [if_neg h.object]
    exact objects
  | definition h =>
    obtain ⟨hserved, hsince⟩ := served rfl
    obtain ⟨hgroup, hkind, hversion⟩ := h.ref
    rw [if_pos rfl, listed_iff]
    refine ⟨_, hserved (h.mem_definedBy since), hgroup.symm, hversion.symm, hsince, ?_⟩
    rw [hkind]
    exact List.any_eq_true.2 ⟨_, List.mem_singleton_self _, Naming.isText_iff.2 rfl⟩

/-- An object whose check finds it is not created again. -/
lemma looks_of_found (hcheck : run (Install.isInstalled m.ref m.body) t = (.ok true, s)) :
    ∀ c ∈ calls (Install.ensure m.ref m.body) t, Looks c.request := by
  have hlooks : Asks Looks (Install.isInstalled m.ref m.body : Program τ _) :=
    Requests.asks_isInstalled (fun _ _ _ => nofun) fun _ _ _ _ _ => nofun
  rw [Naming.ensure_eq, calls_bind_ok hcheck]
  intro c hmem
  rcases List.mem_append.1 hmem with hmem | hmem
  · exact hlooks.calls t c hmem
  · cases hmem

/-- **What has been installed is found later.** -/
theorem installed_is_found (h : Identified m route) (free : Faultless r.script)
    (hrun : run (Install.ensure m.ref m.body) r = (.ok .installed, s)) (leads : Leads s t)
    (free' : Faultless t.script) : Stays m route r s t := by
  obtain ⟨ns, name, names⟩ := h.names free hrun
  obtain ⟨hobjects, hserved⟩ := leads.keeps
  obtain ⟨c, hmem, hcreated, hfinish⟩ := exists_call_of_installed names hrun
  have hdelay : s.serveDelay = r.serveDelay := by
    have hframe := frame_run (Install.ensure m.ref m.body) r
    rw [hrun] at hframe
    exact hframe.2.1
  obtain ⟨outcome, s', hrun', hensured⟩ :=
    ensured_of_undisturbed names (free.undisturbed (Install.ensure m.ref m.body))
  obtain ⟨houtcome, rfl⟩ := Prod.mk.inj (hrun.symm.trans hrun')
  obtain rfl := Except.ok.inj houtcome
  cases hensured with
  | new _ _ hstore hclock =>
  have hkey : Store.readKey route ns name ∈ t.store.objects := by
    refine hobjects.subset ?_
    rw [hstore]
    exact List.mem_append_right _ (List.mem_singleton_self _)
  constructor
  case created => exact ⟨c, hmem, _, hcreated, hfinish⟩
  case again =>
    obtain ⟨outcome, u, hagain, hensured⟩ :=
      ensured_of_undisturbed names (free'.undisturbed (Install.ensure m.ref m.body))
    cases hensured with
    | found _ hstore _ => exact ⟨u, hagain, hstore⟩
    | there _ _ hstore _ => exact ⟨u, hagain, hstore⟩
    | new _ habsent _ _ => exact absurd hkey habsent
  case found =>
    intro served
    have hadded (hroute : route = .definition) :
        Store.definedBy m.body (s.clock + s.serveDelay) ⊆ t.store.served := by
      subst hroute
      refine List.Subset.trans ?_ hserved.subset
      rw [hstore, hdelay, hclock]
      exact List.subset_append_right _ _
    have hfound : Found m.ref route (Store.readKey route ns name)
        (t.atTime (t.clock + t.cost)) :=
      h.found hkey fun hroute => ⟨hadded hroute, served hroute⟩
    obtain ⟨result, u, hcheck, hresult, -⟩ :=
      check_undisturbed names (free'.undisturbed (Install.isInstalled m.ref m.body))
    obtain rfl : result = true := hresult.2 hfound
    exact ⟨by rw [hcheck], looks_of_found hcheck⟩

/-- A cluster without objects that serves new types after ten seconds. -/
def slow : Rehearsal Rat := { AllOrNothing.vacant with serveDelay := 10 }

lemma faultless_slow : Faultless slow.script := SameObject.faultless_vacant

/-- Things are defined, and nothing is done for ten seconds. -/
theorem things_stay_installed : ∃ m s u t, Manifest.ofText ServedVersion.skippingText = .ok m ∧
    run (Install.ensure m.ref m.body) slow = (.ok .installed, s) ∧
      run (Install.ensure m.ref m.body) s = (.ok .alreadyPresent, u) ∧ Leads s t ∧
        (run (Install.isInstalled m.ref m.body) t).1 = .ok true := by
  obtain ⟨m, spec, entries, hm, thing, hfirst, -⟩ := ServedVersion.exists_skipping
  have things : DefinesType m "example.com" "Thing" "v1" "things.example.com" :=
    ⟨Or.inl ⟨_, hm⟩, thing.named, spec, entries, thing.lists, thing.hasGroup, thing.hasKind,
      hfirst⟩
  have names : Names m .definition none "things.example.com" :=
    Naming.Accepted.names ⟨things.parsed, thing.lists.definition, things.named, Or.inl ⟨rfl, rfl⟩⟩
  have h : Identified m .definition := .definition things
  obtain ⟨outcome, s, hrun, hensured⟩ := ensured_of_undisturbed names
    (faultless_slow.undisturbed (Install.ensure m.ref m.body))
  cases hensured with
  | found hfound =>
    unfold Found at hfound
    rw [if_pos rfl, listed_iff] at hfound
    obtain ⟨e, he, -⟩ := hfound
    cases he
  | there _ hk => cases hk
  | new _ _ _ hclock =>
  have hfree : Faultless s.script := by
    have hscript := faultless_slow.run (Install.ensure m.ref m.body)
    rwa [hrun] at hscript
  have hframe := frame_run (Install.ensure m.ref m.body) slow
  rw [hrun] at hframe
  obtain ⟨hcost, hdelay, -⟩ := hframe
  let wait : Attempt Rat := ⟨10, by decide, s.script, none⟩
  have hwait : Leads s (wait.start s) :=
    .step .refl wait (.done (.ok ()) : Program Rat Unit)
  have atOnce := installed_is_found h faultless_slow hrun .refl hfree
  have later := installed_is_found h faultless_slow hrun hwait hfree
  obtain ⟨u, hagain, -⟩ := atOnce.again
  refine ⟨m, s, u, wait.start s, hm, hrun, hagain, hwait, (later.found fun _ => ?_).1⟩
  show s.clock + s.serveDelay ≤ s.clock + 10 + s.cost
  rw [hcost, hdelay]
  exact (add_zero _).ge

end Testbed.StaysInstalled
