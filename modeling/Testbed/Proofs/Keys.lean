import Mathlib
import Testbed.Yaml.Reading

/-!
The keys of a mapping that is read.

An entry is put into a mapping under its key, so no two entries of a mapping that a document holds
have the same key.
-/

namespace Testbed.Keys

open Yaml
open Yaml.Reading (Deep Placed both gather settle)

mutual

/-- The mappings in lists and mappings have different keys. -/
def Sound : Value → Prop
  | .list _ items => SoundItems items
  | .map _ entries => (entries.map fun e => e.1.key?).Nodup ∧ SoundEntries entries
  | _ => True

def SoundItems : List Value → Prop
  | [] => True
  | v :: rest => Sound v ∧ SoundItems rest

def SoundEntries : List (Value × Value) → Prop
  | [] => True
  | (_, v) :: rest => Sound v ∧ SoundEntries rest

end

section

variable {key v : Value} {items : List Value} {entries : List (Value × Value)}

lemma soundItems_iff : SoundItems items ↔ ∀ v ∈ items, Sound v := by
  induction items with
  | nil => simp [SoundItems]
  | cons v items ih => simp [SoundItems, ih]

lemma soundEntries_iff : SoundEntries entries ↔ ∀ e ∈ entries, Sound e.2 := by
  induction entries with
  | nil => simp [SoundEntries]
  | cons e entries ih => simp [SoundEntries, ih]

/-! ### Entries -/

lemma mem_insert {e : Value × Value} (h : e ∈ Value.insert key v entries) :
    e.2 = v ∨ e ∈ entries := by
  induction entries with
  | nil =>
    rw [Value.insert, List.mem_singleton] at h
    exact .inl (congrArg Prod.snd h)
  | cons e' entries ih =>
    rw [Value.insert] at h
    split at h
    · rcases List.mem_cons.1 h with rfl | h
      · exact .inl rfl
      · exact .inr (List.mem_cons_of_mem _ h)
    · rcases List.mem_cons.1 h with rfl | h
      · exact .inr (List.mem_cons_self ..)
      · exact (ih h).imp_right (List.mem_cons_of_mem _)

lemma mem_keys_insert {k : Option Key}
    (h : k ∈ (Value.insert key v entries).map fun e => e.1.key?) :
    k = key.key? ∨ k ∈ entries.map fun e => e.1.key? := by
  induction entries with
  | nil => simpa [Value.insert] using h
  | cons e entries ih =>
    rw [Value.insert] at h
    split at h
    · exact .inr (by simpa using h)
    · rcases List.mem_cons.1 h with rfl | h
      · exact .inr (List.mem_cons_self ..)
      · exact (ih h).imp_right (List.mem_cons_of_mem _)

lemma nodup_insert (h : (entries.map fun e => e.1.key?).Nodup) :
    ((Value.insert key v entries).map fun e => e.1.key?).Nodup := by
  induction entries with
  | nil => simp [Value.insert]
  | cons e entries ih =>
    obtain ⟨hnew, hrest⟩ := List.nodup_cons.1 h
    rw [Value.insert]
    split
    · exact h
    · rename_i hne
      refine List.nodup_cons.2 ⟨fun hmem => ?_, ih hrest⟩
      rcases mem_keys_insert hmem with heq | hmem
      · exact hne heq
      · exact hnew hmem

lemma sound_foldl (before : List (Value × Value)) (h : ∀ e ∈ entries, Sound e.2)
    (hnodup : (before.map fun e => e.1.key?).Nodup) (hbefore : ∀ e ∈ before, Sound e.2)
    (label : Option Label) :
    Sound (.map label (entries.foldl (fun acc (k, v) => Value.insert k v acc) before)) := by
  induction entries generalizing before with
  | nil => exact ⟨hnodup, soundEntries_iff.2 hbefore⟩
  | cons e entries ih =>
    refine ih _ (fun e he => h e (List.mem_cons_of_mem _ he)) (nodup_insert hnodup) fun e' he => ?_
    rcases mem_insert he with heq | he
    · rw [heq]
      exact h e (List.mem_cons_self ..)
    · exact hbefore e' he

lemma sound_insertAll (h : ∀ e ∈ entries, Sound e.2) (label : Option Label) :
    Sound (.map label (Reading.insertAll entries)) :=
  sound_foldl [] h List.nodup_nil (List.forall_mem_nil _) label

end

/-! ### Results -/

/-- If there is a result, it has this property. -/
def Gives {ε α : Type} (P : α → Prop) (x : Except ε α) : Prop := ∀ a, x = .ok a → P a

section

variable {ε α β : Type} {P : α → Prop} {Q : β → Prop}

lemma Gives.ok {a : α} (h : P a) : Gives P (.ok a : Except ε α) := by
  rintro _ ⟨⟩
  exact h

lemma Gives.error {e : ε} : Gives P (.error e) := nofun

lemma Gives.bind {x : Except ε α} {f : α → Except ε β} (h : Gives P x)
    (hf : ∀ a, P a → Gives Q (f a)) : Gives Q (x >>= f) := by
  cases x with
  | error e => exact .error
  | ok a => exact hf a (h a rfl)

lemma Gives.map {x : Except ε α} {f : α → β} (h : ∀ a, Q (f a)) : Gives Q (f <$> x) := by
  cases x with
  | error e => exact .error
  | ok a => exact .ok (h a)

lemma gives_both {x : Except Deep α} {y : Except Deep β} (hx : Gives P x) (hy : Gives Q y) :
    Gives (fun z => P z.1 ∧ Q z.2) (both x y) := by
  cases x <;> cases y
  · exact .error
  · exact .error
  · exact .error
  · exact .ok ⟨hx _ rfl, hy _ rfl⟩

lemma gives_gather {xs : List (Except Deep α)} (h : ∀ x ∈ xs, Gives P x) :
    Gives (fun ys => ∀ y ∈ ys, P y) (gather xs) := by
  induction xs with
  | nil => exact .ok (List.forall_mem_nil _)
  | cons x xs ih =>
    have hboth := gives_both (h x (List.mem_cons_self ..))
      (ih fun y hy => h y (List.mem_cons_of_mem _ hy))
    rw [gather]
    cases hxs : both x (gather xs) with
    | error e => exact .error
    | ok z =>
      refine .ok (List.forall_mem_cons.2 ?_)
      exact hboth z hxs

end

/-! ### Values -/

lemma gives_moment (label : Option Label) (text : String) :
    Gives Sound (Reading.moment label text) := by
  unfold Reading.moment
  dsimp only
  split
  · exact .error
  · split
    · exact .error
    · split
      · exact .ok trivial
      · split
        · exact .ok trivial
        · exact .error

lemma gives_scalar (label : Option Label) (tag : Tag) (text : String) :
    Gives Sound (Reading.scalar label tag text) := by
  cases tag with
  | null | text => exact .ok trivial
  | bool | int | float | binary => exact .map fun _ => trivial
  | timestamp => exact gives_moment label text
  | _ => exact .error

lemma gives_standIn (label : Option Label) (tag : Tag) (text : Except Problem String) :
    Gives Sound (Reading.standIn label tag text) := by
  have hscalar : Gives Sound (text >>= Reading.scalar label tag) :=
    Gives.bind (P := fun _ => True) (fun _ _ => trivial) fun s _ => gives_scalar label tag s
  cases tag with
  | merge | default | other => exact .error
  | timestamp => exact Gives.bind (P := fun _ => True) (fun _ _ => trivial) fun _ _ => .error
  | _ => exact hscalar

/-- Entries one by one are no mappings. -/
lemma gives_pairs {xs : List Placed} {f : Placed → Except Deep (Placed × Placed)}
    {g : Placed × Placed → Except Deep (Value × Value)} :
    Gives (fun items => ∀ v ∈ items, Sound v) (gather (xs.map fun x => do
      let e ← f x
      let (k, v) ← g e
      return .pair k v)) := by
  refine gives_gather (List.forall_mem_map.2 fun x _ => ?_)
  refine Gives.bind (P := fun _ => True) (fun _ _ => trivial) fun _ _ => ?_
  exact Gives.bind (P := fun _ => True) (fun _ _ => trivial) fun _ _ => .ok trivial

/-- The mappings of what is read have different keys. -/
lemma gives_value (root : Node) (fuel : Nat) (inside : List Label) (depth : Nat) (p : Placed) :
    Gives Sound (Reading.value root fuel inside depth p) := by
  induction fuel generalizing inside depth p with
  | zero => exact .error
  | succ fuel ih =>
    rw [Reading.value]
    dsimp only
    generalize settle root p = p
    split
    · exact .ok trivial
    · split
      · exact .error
      · -- a scalar of any kind
        rename_i tag text _
        have hscalar := gives_scalar p.label tag text
        split <;>
        · split
          · exact .ok (hscalar _ ‹_›)
          · exact .error
      · split
        · exact (gives_gather (List.forall_mem_map.2 fun x _ => ih _ _ x)).bind fun items h =>
            .ok (soundItems_iff.2 h)
        · exact gives_pairs.bind fun items h => .ok (soundItems_iff.2 h)
        · exact gives_pairs.bind fun items h => .ok (soundItems_iff.2 h)
        · exact .error
        · exact .error
        · exact .error
      · split
        · refine Gives.bind (P := fun entries => ∀ e ∈ entries, Sound e.2) ?_ fun entries h =>
            .ok (sound_insertAll h p.label)
          split
          · refine gives_gather (List.forall_mem_map.2 fun e _ z hz => ?_)
            exact (gives_both (P := fun _ => True) (fun _ _ => trivial) (ih _ _ e.2) z hz).2
          · exact .error
        · exact Gives.bind (P := fun _ => True) (fun _ _ => trivial) fun _ _ => .ok trivial
        · exact .error
        · exact .error
        · exact .error
        · split
          · exact .ok (gives_standIn _ _ _ _ ‹_›)
          · exact .error

/-- **The mappings of a document have different keys.** -/
theorem sound_load {text : String} {v : Value} (h : load text = .ok v) : Sound v := by
  have hgives : Gives Sound (load text) := by
    unfold load
    dsimp only
    split
    · refine Gives.bind (P := fun _ => True) (fun _ _ => trivial) fun node _ => ?_
      split
      · exact .ok trivial
      · rename_i node
        unfold Node.value
        split
        · exact .ok (gives_value _ _ _ _ _ _ ‹_›)
        · exact .error
    · exact .error
  exact hgives v h

end Testbed.Keys
