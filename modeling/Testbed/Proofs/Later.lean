import Mathlib
import Testbed.Proofs.Trace

/-!
What stays when a run goes on.

Time does not go back, nothing is removed, and what discovery has listed it lists from then on.
-/

namespace Testbed

open Yaml (Value)

/-- Time as runs need it: what is not negative can be added without going back. -/
class Steady (τ : Type) [Seconds τ] : Prop where
  le_refl (a : τ) : a ≤ a
  le_trans {a b c : τ} : a ≤ b → b ≤ c → a ≤ c
  le_of_lt {a b : τ} : a < b → a ≤ b
  le_of_not {a : τ} : ¬ a ≤ 0 → 0 ≤ a
  le_add {a d : τ} : 0 ≤ d → a ≤ a + d
  add_zero {a : τ} : a + 0 ≤ a

instance : Steady Rat where
  le_refl := le_refl
  le_trans := le_trans
  le_of_lt := le_of_lt
  le_of_not h := (not_le.1 h).le
  le_add h := le_add_of_nonneg_right h
  add_zero := (add_zero _).le

namespace Rehearsal

variable {τ α β : Type} [Seconds τ]

/-! ### Objects -/

/-- An object that a call adds was not there, and comes with what it serves. -/
lemma created_cases {request : Request} {r : Rehearsal τ} {key : ObjectKey}
    (h : (r.callOf request).created? = some key) :
    key ∉ r.store.objects ∧ ∃ route ns body, request = .create route ns body ∧
      key = Store.createKey route ns body ∧ (r.answer request).2.store =
        r.store.create key body ((r.answer request).2.clock + r.serveDelay) := by
  obtain ⟨clock, faults, hr⟩ := r.reached_eq request
  unfold callOf at h
  rcases r.answer_cases request with ⟨f, -, ha⟩ | ⟨-, ha⟩
  · rw [Call.created?_of_error (show (r.answer request).1 = .error f by rw [ha])] at h
    cases h
  · rw [ha] at h ⊢
    cases request with
    | create route ns body =>
      rw [serve_create] at h ⊢
      split at h
      · cases h
      · rename_i hn
        obtain rfl : Store.createKey route ns body = key := Option.some.inj h
        rw [if_neg hn]
        rw [hr] at hn ⊢
        exact ⟨hn, route, ns, body, rfl, rfl, rfl⟩
    | _ => cases h

/-- A run creates an object at most once, and none that is there. -/
lemma created_fresh (p : Program τ α) (r : Rehearsal τ) :
    (created (calls p r)).Nodup ∧ ∀ key ∈ created (calls p r), key ∉ r.store.objects := by
  induction p generalizing r with
  | done result => exact ⟨List.nodup_nil, by simp [calls, trace, created]⟩
  | ask request next ih =>
    obtain ⟨hnodup, hfresh⟩ := ih (r.answer request).1 (r.answer request).2
    rw [objects_answer] at hfresh
    rw [calls_ask]
    cases hc : (r.callOf request).created? with
    | none =>
      rw [hc] at hfresh
      simpa [created, hc] using And.intro hnodup hfresh
    | some key =>
      obtain ⟨hnew, -⟩ := created_cases hc
      simp only [hc, Option.toList_some, List.mem_append, List.mem_singleton, not_or] at hfresh
      simp only [created, List.filterMap_cons, hc, List.nodup_cons, List.mem_cons]
      refine ⟨⟨fun hk => (hfresh key hk).2 rfl, hnodup⟩, ?_⟩
      rintro k (rfl | hk)
      · exact hnew
      · exact (hfresh k hk).1
  | now next ih => exact ih _ r
  | isCancelled next ih => exact ih _ r
  | pause length next ih =>
    have := ih (r.pause length).1 (r.pause length).2
    rwa [objects_pause] at this
  | note level message next ih => exact ih (r.note level message)

/-! ### Later states -/

/-- The request takes no more time than it takes to reach the cluster. -/
def Timely (request : Request) : Prop := request.call ≠ .probe

/-- A state that the first may turn into. -/
structure Later (r s : Rehearsal τ) : Prop where
  clock : r.clock ≤ s.clock
  objects : r.store.objects <+: s.store.objects
  served : r.store.served <+: s.store.served
  cost : s.cost = r.cost
  serveDelay : s.serveDelay = r.serveDelay

namespace Later

variable [Steady τ]

lemma refl (r : Rehearsal τ) : Later r r :=
  ⟨Steady.le_refl _, List.prefix_rfl, List.prefix_rfl, rfl, rfl⟩

lemma trans {r s t : Rehearsal τ} (h : Later r s) (h' : Later s t) : Later r t :=
  ⟨Steady.le_trans h.clock h'.clock, h.objects.trans h'.objects, h.served.trans h'.served,
    h'.cost.trans h.cost, h'.serveDelay.trans h.serveDelay⟩

/-- A request that goes to the cluster takes its time. -/
lemma reached {r : Rehearsal τ} (hc : 0 ≤ r.cost) (request : Request) :
    Later r (r.reached request) := by
  unfold Rehearsal.reached
  split
  · exact ⟨Steady.le_add hc, List.prefix_rfl, List.prefix_rfl, rfl, rfl⟩
  · exact ⟨Steady.le_refl _, List.prefix_rfl, List.prefix_rfl, rfl, rfl⟩

lemma serve {request : Request} (r : Rehearsal τ) (hp : Timely request) :
    Later r (r.serve request).2 := by
  obtain ⟨-, hcost, hdelay, -, -⟩ := serve_frame request r
  refine ⟨?_, ?_, ?_, hcost, hdelay⟩
  · have hclock : (r.serve request).2.clock = r.clock := by
      cases request <;> simp only [Rehearsal.serve] <;> (repeat' split) <;>
        first | rfl | exact absurd rfl hp
    rw [hclock]
    exact Steady.le_refl _
  · rw [serve_objects request r r.clock r.clock]
    exact List.prefix_append _ _
  · cases request <;> simp only [Rehearsal.serve] <;> (repeat' split) <;>
      first | exact List.prefix_rfl | exact List.prefix_append _ _

lemma answer {r : Rehearsal τ} (hc : 0 ≤ r.cost) {request : Request}
    (hp : Timely request) : Later r (r.answer request).2 := by
  rcases r.answer_cases request with ⟨f, -, ha⟩ | ⟨-, ha⟩
  · rw [ha]
    exact reached hc request
  · rw [ha]
    exact (reached hc request).trans (serve _ hp)

lemma sleep {length : τ} (r : Rehearsal τ) (pos : ¬ length ≤ 0) : Later r (r.sleep length) :=
  ⟨Steady.le_add (Steady.le_of_not pos), List.prefix_rfl, List.prefix_rfl, rfl, rfl⟩

lemma pause {length : τ} (r : Rehearsal τ) (pos : ¬ length ≤ 0) : Later r (r.pause length).2 := by
  unfold Rehearsal.pause
  split
  · exact sleep r pos
  · split
    · refine ⟨?_, List.prefix_rfl, List.prefix_rfl, rfl, rfl⟩
      simp only [Seconds.latest]
      split
      · rename_i hlt
        exact Steady.le_of_lt hlt
      · exact Steady.le_refl _
    · exact sleep r pos

/-- A run goes on from where it starts. -/
lemma run {P : Request → Prop} {p : Program τ α} (hp : Asks P p)
    (hP : ∀ request, P request → Timely request) {r : Rehearsal τ} (hc : 0 ≤ r.cost) :
    Later r (run p r).2 :=
  hp.keeps (fun _ request hr h => h.trans (answer (h.cost ▸ hc) (hP request hr)))
    (fun _ _ pos h => h.trans (pause _ pos))
    (fun _ _ _ h => ⟨h.clock, h.objects, h.served, h.cost, h.serveDelay⟩) (refl r)

end Later

/-! ### Discovery -/

/-- Discovery lists a kind under a group and version at some time. -/
def Listed (store : Store τ) (group version kind : String) (now : τ) : Prop :=
  ∃ kinds, store.kinds group version now = some kinds ∧ kinds.any (Value.isText kind) = true

lemma listed_iff {store : Store τ} {group version kind : String} {now : τ} :
    Listed store group version kind now ↔ ∃ e ∈ store.served,
      e.group = group ∧ e.version = version ∧ e.since ≤ now ∧
        e.kinds.any (Value.isText kind) = true := by
  have mem (e : Served τ) : e ∈ store.served.filter (fun e =>
      e.group == group && e.version == version && decide (e.since ≤ now)) ↔
        e ∈ store.served ∧ e.group = group ∧ e.version = version ∧ e.since ≤ now := by
    simp [List.mem_filter, and_assoc]
  unfold Listed Store.kinds
  split
  · rename_i hnil
    rw [hnil] at mem
    constructor
    · rintro ⟨kinds, h, -⟩
      cases h
    · rintro ⟨e, he, hg, hv, hs, -⟩
      cases (mem e).2 ⟨he, hg, hv, hs⟩
  · simp only [Option.some.injEq, exists_eq_left']
    rw [List.any_flatMap, List.any_eq_true]
    simp only [mem, and_assoc]

lemma Listed.mono [Steady τ] {store store' : Store τ} {group version kind : String} {t t' : τ}
    (h : Listed store group version kind t) (hs : store.served <+: store'.served) (ht : t ≤ t') :
    Listed store' group version kind t' := by
  obtain ⟨e, he, hg, hv, hsince, hk⟩ := listed_iff.1 h
  exact listed_iff.2 ⟨e, hs.subset he, hg, hv, Steady.le_trans hsince ht, hk⟩

/-- What is listed stays listed. -/
lemma Listed.later [Steady τ] {r s : Rehearsal τ} {group version kind : String}
    (h : Listed r.store group version kind r.clock) (hl : Later r s) :
    Listed s.store group version kind s.clock :=
  h.mono hl.served hl.clock

end Rehearsal

end Testbed
