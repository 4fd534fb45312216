import Mathlib
import Testbed.Proofs.Later

/-!
Attempts at one operation, one after the other, in a cluster that keeps what it has.
-/

namespace Testbed.Rehearsal

variable {τ α : Type} [Seconds τ]

/-- An attempt starts some time after the one before it has ended, has its own faults, and is
cancelled or not. -/
structure Attempt (τ : Type) [Seconds τ] where
  wait : τ
  wait_nonneg : 0 ≤ wait
  script : Script τ
  cancelAt : Option τ

def Attempt.start (a : Attempt τ) (r : Rehearsal τ) : Rehearsal τ :=
  { r with clock := r.clock + a.wait, script := a.script, cancelAt := a.cancelAt }

/-- All states of a run, from the first to the last. -/
def states : Program τ α → Rehearsal τ → List (Rehearsal τ)
  | .done _, r => [r]
  | .ask request next, r => r :: states (next (r.answer request).1) (r.answer request).2
  | .now next, r => r :: states (next r.clock) r
  | .isCancelled next, r => r :: states (next r.isCancelled) r
  | .pause length next, r => r :: states (next (r.pause length).1) (r.pause length).2
  | .note level message next, r => r :: states next (r.note level message)

variable (p : Program τ α)

/-- The cluster after some attempts. -/
def after : List (Attempt τ) → Rehearsal τ → Rehearsal τ
  | [], r => r
  | a :: rest, r => after rest (run p (a.start r)).2

def callsOver : List (Attempt τ) → Rehearsal τ → List (Call τ)
  | [], _ => []
  | a :: rest, r => calls p (a.start r) ++ callsOver rest (run p (a.start r)).2

def statesOver : List (Attempt τ) → Rehearsal τ → List (Rehearsal τ)
  | [], r => [r]
  | a :: rest, r => r :: states p (a.start r) ++ statesOver rest (run p (a.start r)).2

variable {p}

/-! ### What attempts add -/

/-- Attempts leave what there was before them and what they have created. -/
theorem objects_after (attempts : List (Attempt τ)) (r : Rehearsal τ) :
    (after p attempts r).store.objects =
      r.store.objects ++ created (callsOver p attempts r) := by
  induction attempts generalizing r with
  | nil => simp [after, callsOver, created]
  | cons a rest ih =>
    have hrun := objects_run p (a.start r)
    rw [after, callsOver, ih, hrun]
    simp [created, Attempt.start]

/-- However often an operation is tried, nothing is created twice. -/
theorem created_once (attempts : List (Attempt τ)) (r : Rehearsal τ) :
    (created (callsOver p attempts r)).Nodup ∧
      ∀ key ∈ created (callsOver p attempts r), key ∉ r.store.objects := by
  induction attempts generalizing r with
  | nil => exact ⟨List.nodup_nil, by simp [callsOver, created]⟩
  | cons a rest ih =>
    obtain ⟨hnodup, hfresh⟩ := created_fresh p (a.start r)
    obtain ⟨hnodup', hfresh'⟩ := ih (run p (a.start r)).2
    rw [objects_run] at hfresh'
    have happ : created (callsOver p (a :: rest) r) = created (calls p (a.start r)) ++
        created (callsOver p rest (run p (a.start r)).2) := List.filterMap_append
    rw [happ]
    constructor
    · refine List.nodup_append.2 ⟨hnodup, hnodup', ?_⟩
      rintro key hk k hk' rfl
      exact hfresh' key hk' (List.mem_append_right _ hk)
    · intro key hk
      rcases List.mem_append.1 hk with hk | hk
      · exact hfresh key hk
      · exact fun hr => hfresh' key hk (List.mem_append_left _ hr)

/-! ### What attempts keep -/

lemma states_bounds {r s : Rehearsal τ} (h : s ∈ states p r) :
    r.store.objects <+: s.store.objects ∧ s.store.objects <+: (run p r).2.store.objects := by
  have whole (p : Program τ α) (r : Rehearsal τ) :
      r.store.objects <+: (run p r).2.store.objects := by
    rw [objects_run]
    exact List.prefix_append _ _
  induction p generalizing r with
  | done result =>
    obtain rfl := List.mem_singleton.1 h
    exact ⟨List.prefix_rfl, List.prefix_rfl⟩
  | ask request next ih =>
    rcases List.mem_cons.1 h with rfl | h
    · exact ⟨List.prefix_rfl, whole _ _⟩
    · obtain ⟨hfrom, hto⟩ := ih _ h
      rw [objects_answer] at hfrom
      exact ⟨(List.prefix_append _ _).trans hfrom, hto⟩
  | now next ih =>
    rcases List.mem_cons.1 h with rfl | h
    · exact ⟨List.prefix_rfl, whole _ _⟩
    · exact ih _ h
  | isCancelled next ih =>
    rcases List.mem_cons.1 h with rfl | h
    · exact ⟨List.prefix_rfl, whole _ _⟩
    · exact ih _ h
  | pause length next ih =>
    rcases List.mem_cons.1 h with rfl | h
    · exact ⟨List.prefix_rfl, whole _ _⟩
    · obtain ⟨hfrom, hto⟩ := ih _ h
      rw [objects_pause] at hfrom
      exact ⟨hfrom, hto⟩
  | note level message next ih =>
    rcases List.mem_cons.1 h with rfl | h
    · exact ⟨List.prefix_rfl, whole _ _⟩
    · exact ih h

/-- Of two states the earlier one has no object that the later one lacks. -/
def Keeps (s t : Rehearsal τ) : Prop := s.store.objects <+: t.store.objects

lemma states_keep (p : Program τ α) (r : Rehearsal τ) : (states p r).Pairwise Keeps := by
  induction p generalizing r with
  | done result => exact List.pairwise_singleton _ _
  | ask request next ih =>
    refine List.pairwise_cons.2 ⟨fun s hs => ?_, ih _ _⟩
    have hfrom := (states_bounds hs).1
    rw [objects_answer] at hfrom
    exact (List.prefix_append _ _).trans hfrom
  | now next ih => exact List.pairwise_cons.2 ⟨fun s hs => (states_bounds hs).1, ih _ _⟩
  | isCancelled next ih => exact List.pairwise_cons.2 ⟨fun s hs => (states_bounds hs).1, ih _ _⟩
  | pause length next ih =>
    refine List.pairwise_cons.2 ⟨fun s hs => ?_, ih _ _⟩
    have hfrom := (states_bounds hs).1
    rwa [objects_pause] at hfrom
  | note level message next ih =>
    exact List.pairwise_cons.2 ⟨fun s hs => (states_bounds hs).1, ih _⟩

lemma statesOver_from {attempts : List (Attempt τ)} {r s : Rehearsal τ}
    (h : s ∈ statesOver p attempts r) : Keeps r s := by
  induction attempts generalizing r with
  | nil =>
    obtain rfl := List.mem_singleton.1 h
    exact List.prefix_rfl
  | cons a rest ih =>
    rcases List.mem_append.1 h with h | h
    · rcases List.mem_cons.1 h with rfl | h
      · exact List.prefix_rfl
      · exact (states_bounds h).1
    · have hrun : Keeps r (run p (a.start r)).2 := by
        unfold Keeps
        rw [objects_run]
        exact List.prefix_append _ _
      exact hrun.trans (ih h)

/-- However often an operation is tried, no object is lost. -/
theorem statesOver_keep (attempts : List (Attempt τ)) (r : Rehearsal τ) :
    (statesOver p attempts r).Pairwise Keeps := by
  induction attempts generalizing r with
  | nil => exact List.pairwise_singleton _ _
  | cons a rest ih =>
    refine List.pairwise_append.2 ⟨List.pairwise_cons.2 ⟨?_, states_keep p _⟩, ih _, ?_⟩
    · exact fun s hs => (states_bounds hs).1
    · intro s hs t ht
      have hlast : Keeps s (run p (a.start r)).2 := by
        rcases List.mem_cons.1 hs with rfl | hs
        · unfold Keeps
          rw [objects_run]
          exact List.prefix_append _ _
        · exact (states_bounds hs).2
      exact hlast.trans (statesOver_from ht)

section

variable [Steady τ] {P : Request → Prop}

lemma later_start (a : Attempt τ) (r : Rehearsal τ) : Later r (a.start r) :=
  ⟨Steady.le_add a.wait_nonneg, List.prefix_rfl, List.prefix_rfl, rfl, rfl⟩

lemma later_attempt (hp : Asks P p) (hP : ∀ request, P request → Timely request)
    (a : Attempt τ) {r : Rehearsal τ} (hc : 0 ≤ r.cost) : Later r (run p (a.start r)).2 :=
  (later_start a r).trans (Later.run hp hP hc)

/-- What there is before some attempts is there after them. -/
lemma later_after (hp : Asks P p) (hP : ∀ request, P request → Timely request)
    (attempts : List (Attempt τ)) {r : Rehearsal τ} (hc : 0 ≤ r.cost) :
    Later r (after p attempts r) := by
  induction attempts generalizing r with
  | nil => exact Later.refl r
  | cons a rest ih =>
    have ha := later_attempt hp hP a hc
    exact ha.trans (ih (ha.cost ▸ hc))

end

/-! ### Attempts without faults -/

/-- Nothing goes wrong with any request to the cluster. -/
def Faultless (script : Script τ) : Prop := ∀ entry ∈ script.faults, ∀ f ∈ entry.2, f = none

lemma takeFault_faultless (call : Request.Call) {faults : List (Request.Call × List (Option Fault))}
    (h : ∀ entry ∈ faults, ∀ f ∈ entry.2, f = none) :
    (takeFault call faults).1 = none ∧
      ∀ entry ∈ (takeFault call faults).2, ∀ f ∈ entry.2, f = none := by
  induction faults with
  | nil => exact ⟨rfl, h⟩
  | cons entry rest ih =>
    obtain ⟨c, fs⟩ := entry
    obtain ⟨hhead, htail⟩ := List.forall_mem_cons.1 h
    unfold takeFault
    split
    · cases fs with
      | nil => exact ⟨rfl, h⟩
      | cons f fs =>
        obtain ⟨rfl, hfs⟩ := List.forall_mem_cons.1 hhead
        exact ⟨rfl, List.forall_mem_cons.2 ⟨hfs, htail⟩⟩
    · obtain ⟨hnone, hrest⟩ := ih htail
      exact ⟨hnone, List.forall_mem_cons.2 ⟨hhead, hrest⟩⟩

namespace Faultless

lemma reached {request : Request} {r : Rehearsal τ} (h : Faultless r.script) :
    r.scripted request = none ∧ Faultless (r.reached request).script := by
  unfold scripted Rehearsal.reached
  split
  · exact takeFault_faultless request.call h
  · exact ⟨rfl, h⟩

/-- Without faults the cluster itself answers. -/
lemma answer {request : Request} {r : Rehearsal τ} (h : Faultless r.script) :
    r.answer request = (r.reached request).serve request := by
  rcases r.answer_cases request with ⟨f, hf, -⟩ | ⟨-, ha⟩
  · rw [h.reached.1] at hf
    cases hf
  · exact ha

lemma run {r : Rehearsal τ} (h : Faultless r.script) (p : Program τ α) :
    Faultless (run p r).2.script := by
  induction p generalizing r with
  | done result => exact h
  | ask request next ih =>
    refine ih _ ?_
    obtain ⟨-, -, -, -, hfaults⟩ := serve_frame request (r.reached request)
    rw [h.answer]
    unfold Faultless
    rw [hfaults]
    exact h.reached.2
  | now next ih => exact ih _ h
  | isCancelled next ih => exact ih _ h
  | pause length next ih =>
    refine ih _ ?_
    have hscript : (r.pause length).2.script = r.script := by
      unfold pause sleep
      repeat' split
      all_goals rfl
    rwa [hscript]
  | note level message next ih => exact ih h

end Faultless

/-- Nothing goes wrong from here on, and no time is gained. -/
structure Calm (r : Rehearsal τ) : Prop where
  cost : 0 ≤ r.cost
  faultless : Faultless r.script

lemma Calm.run [Steady τ] {p : Program τ α} {r s : Rehearsal τ} {result : Except (Failure τ) α}
    (h : Calm r) (hp : Asks Timely p)
    (hrun : Rehearsal.run p r = (result, s)) : Later r s ∧ Calm s := by
  have hl := Later.run hp (fun _ hr => hr) h.cost
  have hfree := h.faultless.run p
  rw [hrun] at hl hfree
  exact ⟨hl, by rw [hl.cost]; exact h.cost, hfree⟩

end Testbed.Rehearsal
