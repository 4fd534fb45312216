import Mathlib
import Testbed.Proofs.Scanning
import Testbed.Yaml.Reading

/-!
The value of a tree without anchors.

Where nothing is shared, and all keys are different texts, the value of a tree is found by going
down it: nothing is merged, replaced or left out.
-/

namespace Testbed.Nodes

open Scanning (bind_of_ok)
open Yaml
open Yaml.Reading (Deep Placed both gather settle size sizeItems sizeEntries)

mutual

/-- The value of a tree of which no node has an anchor and all keys are different texts. -/
def plainValue : Node → Option Value
  | .scalar none tag text =>
    if tag.isCollection then none else (Reading.scalar none tag text).toOption
  | .sequence none .sequence items => do return .list none (← plainItems items)
  | .mapping none .mapping entries => do
    let fields ← plainFields entries
    if (fields.map (·.1)).Nodup then return .ofFields fields else none
  | _ => none

def plainItems : List Node → Option (List Value)
  | [] => some []
  | n :: rest => do return (← plainValue n) :: (← plainItems rest)

def plainFields : List (Node × Node) → Option (List (String × Value))
  | [] => some []
  | (.scalar none .text name, n) :: rest => do
    return (name, ← plainValue n) :: (← plainFields rest)
  | _ => none

end

/-! ### Going down -/

/-- The node is read as the value, with this fuel and at any depth. -/
def Reads (root : Node) (fuel : Nat) (n : Node) (v : Value) : Prop :=
  ∀ depth, Reading.value root fuel [] depth ⟨n, none⟩ = .ok v

section

variable {root : Node} {fuel : Nat}

lemma reads_scalar {tag : Tag} {text : String} {v : Value} (htag : tag.isCollection = false)
    (h : Reading.scalar none tag text = .ok v) :
    Reads root (fuel + 1) (.scalar none tag text) v := by
  intro depth
  rw [Reading.value]
  dsimp only [settle, Node.anchor?, Option.filter]
  cases tag with
  | sequence | mapping | set | orderedMap | pairs => cases htag
  | _ => simp only [h]

lemma gather_eq {α β : Type} {f : α → Except Deep β} {xs : List α} {ys : List β}
    (h : List.Forall₂ (fun x y => f x = .ok y) xs ys) : gather (xs.map f) = .ok ys := by
  induction h with
  | nil => rfl
  | cons hx _ ih =>
    rw [List.map_cons, gather, hx, ih]
    rfl

lemma placeItems_eq (items : List Node) (step : Nat) :
    Reading.placeItems none step items = items.map (⟨·, none⟩) := by
  induction items generalizing step with
  | nil => rfl
  | cons n rest ih =>
    rw [Reading.placeItems, ih]
    rfl

lemma placeEntries_eq (entries : List (Node × Node)) (step : Nat) :
    Reading.placeEntries none step entries = entries.map fun (k, v) => (⟨k, none⟩, ⟨v, none⟩) := by
  induction entries generalizing step with
  | nil => rfl
  | cons e rest ih =>
    rw [Reading.placeEntries, ih]
    rfl

lemma reads_sequence {items : List Node} {vs : List Value}
    (h : List.Forall₂ (Reads root fuel) items vs) :
    Reads root (fuel + 1) (.sequence none .sequence items) (.list none vs) := by
  intro depth
  have hall : gather ((Reading.placeItems none 0 items).map
      (Reading.value root fuel [] (depth + 1))) = .ok vs := by
    rw [placeItems_eq, List.map_map]
    exact gather_eq (h.imp fun n v hv => hv (depth + 1))
  rw [Reading.value]
  exact bind_of_ok _ hall

lemma filter_mergeKeys {entries : List (Placed × Placed)}
    (h : ∀ e ∈ entries, Reading.isMergeKey root e.1 = false) :
    (entries.filter fun (k, _) => Reading.isMergeKey root k) = [] ∧
      (entries.filter fun (k, _) => !Reading.isMergeKey root k) = entries :=
  ⟨List.filter_eq_nil_iff.2 fun e he => by simp [h e he],
    List.filter_eq_self.2 fun e he => by simp [h e he]⟩

lemma merged_eq {entries : List (Node × Node)} {labels : List Label}
    (h : ∀ e ∈ entries, ∃ name, e.1 = .scalar none .text name) :
    Reading.merged root (fuel + 1) labels (Reading.placeEntries none 0 entries) =
      .ok (entries.map fun (k, v) => (⟨k, none⟩, ⟨v, none⟩)) := by
  have hnone : ∀ e ∈ Reading.placeEntries none 0 entries, Reading.isMergeKey root e.1 = false := by
    rw [placeEntries_eq]
    intro e he
    obtain ⟨⟨k, v⟩, hmem, rfl⟩ := List.mem_map.1 he
    obtain ⟨name, rfl⟩ := h _ hmem
    rfl
  obtain ⟨hsources, hown⟩ := filter_mergeKeys hnone
  rw [Reading.merged]
  simp only [hsources, hown]
  rw [placeEntries_eq]
  rfl

lemma insert_eq {name : String} {v : Value} {fields : List (String × Value)}
    (h : name ∉ fields.map (·.1)) :
    Value.insert (.text name) v (fields.map fun (name, v) => (.text name, v)) =
      (fields ++ [(name, v)]).map fun (name, v) => (.text name, v) := by
  induction fields with
  | nil => rfl
  | cons x fields ih =>
    obtain ⟨k, w⟩ := x
    rw [List.map_cons, List.mem_cons, not_or] at h
    have hne : ¬ (Value.text k).key? = (Value.text name).key? := by
      simp only [Value.key?, Option.some.injEq, Key.text.injEq]
      exact fun he => h.1 he.symm
    rw [List.map_cons, Value.insert, if_neg hne, ih h.2]
    rfl

lemma foldl_insert (before : List (String × Value)) {fields : List (String × Value)}
    (h : ((before ++ fields).map (·.1)).Nodup) :
    (fields.map fun (name, v) => (Value.text name, v)).foldl
      (fun acc (k, v) => Value.insert k v acc) (before.map fun (name, v) => (.text name, v)) =
      (before ++ fields).map fun (name, v) => (.text name, v) := by
  induction fields generalizing before with
  | nil => simp
  | cons x fields ih =>
    obtain ⟨name, v⟩ := x
    have hnew : name ∉ before.map (·.1) := by
      rw [List.map_append, List.nodup_append] at h
      exact fun hmem => h.2.2 name hmem name (by simp) rfl
    rw [List.map_cons, List.foldl_cons]
    dsimp only
    rw [insert_eq hnew, ih _ (by simpa using h)]
    simp

/-- Entries with different keys stay as they are. -/
lemma insertAll_eq {fields : List (String × Value)} (h : (fields.map (·.1)).Nodup) :
    Reading.insertAll (fields.map fun (name, v) => (.text name, v)) =
      fields.map fun (name, v) => (.text name, v) :=
  foldl_insert [] h

/-- The entry has a text as its key, and is read as the field. -/
def ReadsField (root : Node) (fuel : Nat) (e : Node × Node) (x : String × Value) : Prop :=
  e.1 = .scalar none .text x.1 ∧ Reads root fuel e.2 x.2

lemma reads_mapping {entries : List (Node × Node)} {fields : List (String × Value)}
    (h : List.Forall₂ (ReadsField root (fuel + 1)) entries fields)
    (distinct : (fields.map (·.1)).Nodup) :
    Reads root (fuel + 2) (.mapping none .mapping entries) (.ofFields fields) := by
  intro depth
  have hkeys : ∀ e ∈ entries, ∃ name, e.1 = .scalar none .text name := by
    clear distinct
    induction h with
    | nil => simp
    | cons hx _ ih => exact List.forall_mem_cons.2 ⟨⟨_, hx.1⟩, ih⟩
  rw [Reading.value]
  dsimp only [settle, Node.anchor?, Option.filter]
  rw [merged_eq hkeys]
  refine (bind_of_ok (fields.map fun (name, v) => (Value.text name, v)) ?_).trans ?_
  · refine (bind_of_ok _ rfl).trans ?_
    rw [List.map_map]
    refine gather_eq (List.forall₂_map_right_iff.2 (h.imp ?_))
    rintro ⟨_, n⟩ ⟨name, v⟩ ⟨rfl, hv⟩
    have hkey : Reads root (fuel + 1) (.scalar none .text name) (.text name) :=
      reads_scalar rfl rfl
    show both (Reading.value root (fuel + 1) [] (depth + 1) ⟨.scalar none .text name, none⟩)
      (Reading.value root (fuel + 1) [] (depth + 1) ⟨n, none⟩) = .ok (.text name, v)
    rw [hkey, hv]
    rfl
  · rw [insertAll_eq distinct]
    rfl

mutual

/-- A plain tree is read as its value. -/
lemma reads_plain : ∀ {fuel : Nat} {n : Node} {v : Value},
    plainValue n = some v → size n ≤ fuel → Reads root (fuel + 1) n v
  | fuel, .scalar none tag text, v, h, _ => by
    rw [plainValue] at h
    split at h
    · cases h
    · rename_i htag
      refine reads_scalar (by simpa using htag) ?_
      cases hread : Reading.scalar none tag text with
      | error e => rw [hread] at h; cases h
      | ok w => rw [hread] at h; cases h; rfl
  | fuel, .sequence none tag items, v, h, hsize => by
    cases tag with
    | sequence =>
      rw [plainValue] at h
      simp only [Option.bind_eq_bind, Option.bind_eq_some_iff] at h
      obtain ⟨vs, hvs, h⟩ := h
      cases h
      cases fuel with
      | zero => simp [size] at hsize
      | succ fuel =>
        exact reads_sequence (reads_plainItems hvs (by simpa [size] using hsize))
    | _ => cases h
  | fuel, .mapping none tag entries, v, h, hsize => by
    cases tag with
    | mapping =>
      rw [plainValue] at h
      simp only [Option.bind_eq_bind, Option.bind_eq_some_iff] at h
      obtain ⟨fields, hfields, h⟩ := h
      split at h
      · rename_i distinct
        cases h
        cases fuel with
        | zero => simp [size] at hsize
        | succ fuel =>
          exact reads_mapping (reads_plainFields hfields (by simpa [size] using hsize)) distinct
      · cases h
    | _ => cases h
  | _, .alias _, _, h, _ => by cases h
  | _, .scalar (some _) _ _, _, h, _ => by cases h
  | _, .sequence (some _) _ _, _, h, _ => by cases h
  | _, .mapping (some _) _ _, _, h, _ => by cases h

lemma reads_plainItems : ∀ {fuel : Nat} {items : List Node} {vs : List Value},
    plainItems items = some vs → sizeItems items ≤ fuel →
      List.Forall₂ (Reads root (fuel + 1)) items vs
  | _, [], vs, h, _ => by cases h; exact .nil
  | fuel, n :: rest, vs, h, hsize => by
    simp only [sizeItems] at hsize
    rw [plainItems] at h
    simp only [Option.bind_eq_bind, Option.bind_eq_some_iff] at h
    obtain ⟨v, hv, vs', hvs, h⟩ := h
    cases h
    exact .cons (reads_plain hv (by omega)) (reads_plainItems hvs (by omega))

lemma reads_plainFields : ∀ {fuel : Nat} {entries : List (Node × Node)}
    {fields : List (String × Value)}, plainFields entries = some fields →
      sizeEntries entries ≤ fuel → List.Forall₂ (ReadsField root (fuel + 1)) entries fields
  | _, [], vs, h, _ => by cases h; exact .nil
  | fuel, (.scalar none .text name, n) :: rest, vs, h, hsize => by
    simp only [sizeEntries] at hsize
    rw [plainFields] at h
    simp only [Option.bind_eq_bind, Option.bind_eq_some_iff] at h
    obtain ⟨v, hv, vs', hvs, h⟩ := h
    cases h
    exact .cons ⟨rfl, reads_plain (n := n) hv (by omega)⟩ (reads_plainFields hvs (by omega))

end

end

/-- **The value of a plain tree is found by going down it.** -/
theorem value_eq {n : Node} {v : Value} (h : plainValue n = some v) : n.value = .ok v := by
  rw [Node.value, reads_plain h (Nat.le_refl _) 0]

/-! ### Anchors -/

section

open Node

mutual

/-- A plain tree has no anchor that could be met twice, and no alias. -/
lemma checkAnchors_plain : ∀ {met : List String} {n : Node} {v : Value},
    plainValue n = some v → checkAnchors met n = .ok met
  | _, .scalar none _ _, _, _ => rfl
  | met, .sequence none tag items, v, h => by
    cases tag with
    | sequence =>
      rw [plainValue] at h
      simp only [Option.bind_eq_bind, Option.bind_eq_some_iff] at h
      obtain ⟨vs, hvs, -⟩ := h
      exact checkItems_plain hvs
    | _ => cases h
  | met, .mapping none tag entries, v, h => by
    cases tag with
    | mapping =>
      rw [plainValue] at h
      simp only [Option.bind_eq_bind, Option.bind_eq_some_iff] at h
      obtain ⟨fields, hfields, -⟩ := h
      exact checkEntries_plain hfields
    | _ => cases h
  | _, .alias _, _, h => by cases h
  | _, .scalar (some _) _ _, _, h => by cases h
  | _, .sequence (some _) _ _, _, h => by cases h
  | _, .mapping (some _) _ _, _, h => by cases h

lemma checkItems_plain : ∀ {met : List String} {items : List Node} {vs : List Value},
    plainItems items = some vs → checkItems met items = .ok met
  | _, [], _, _ => rfl
  | met, n :: rest, vs, h => by
    rw [plainItems] at h
    simp only [Option.bind_eq_bind, Option.bind_eq_some_iff] at h
    obtain ⟨v, hv, vs', hvs, -⟩ := h
    rw [checkItems, checkAnchors_plain hv]
    exact checkItems_plain hvs

lemma checkEntries_plain : ∀ {met : List String} {entries : List (Node × Node)}
    {fields : List (String × Value)}, plainFields entries = some fields →
      checkEntries met entries = .ok met
  | _, [], _, _ => rfl
  | met, (.scalar none .text name, n) :: rest, fields, h => by
    rw [plainFields] at h
    simp only [Option.bind_eq_bind, Option.bind_eq_some_iff] at h
    obtain ⟨v, hv, vs, hvs, -⟩ := h
    refine (bind_of_ok met rfl).trans ?_
    exact (bind_of_ok met (checkAnchors_plain hv)).trans (checkEntries_plain hvs)

end

end

/-- **A text that holds the tokens of a plain tree denotes its value.** -/
theorem load_eq {text : String} {tokens : List Token} {n : Node} {v : Value}
    (allowed : ∀ c ∈ text.toList, isAllowed c) (scanned : Yaml.tokens text.toList = .ok tokens)
    (parsed : Node.ofTokens? tokens = .ok (some n)) (plain : plainValue n = some v) :
    load text = .ok v := by
  have hnode : Node.ofText text.toList = .ok (some n) := by
    rw [Node.ofText, scanned]
    refine (bind_of_ok _ parsed).trans ?_
    exact bind_of_ok _ (checkAnchors_plain plain)
  rw [load, if_pos (List.all_eq_true.2 allowed), hnode]
  exact value_eq plain

end Testbed.Nodes
