import Mathlib
import Testbed.Proofs.Keys
import Testbed.Proofs.Refusals
import Testbed.Proofs.Trees

/-!
Bodies that are trees.

A collection of a body may have a label, which says where it stands in the document. The labels
are no part of a tree: without them a body is written in the same way if no collection stands at
two places, and a manifest is accepted with the same reference.
-/

namespace Testbed.Trees

open Naming (bind_ok makeRef_ok)
open Refusals
open Yaml
open Yaml.Writing

mutual

/-- The tree that a value is, if it is one. -/
def tree? : Value → Option Tree
  | .null => some (.leaf .null)
  | .bool b => some (.leaf (.bool b))
  | .int n => some (.leaf (.int n))
  | .text s => some (.leaf (.text s))
  | .list _ items => (trees? items).map .list
  | .map _ entries => (fields? entries).map .map
  | _ => none

def trees? : List Value → Option (List Tree)
  | [] => some []
  | v :: rest => do return (← tree? v) :: (← trees? rest)

def fields? : List (Value × Value) → Option (List (String × Tree))
  | [] => some []
  | (.text key, v) :: rest => do return (key, ← tree? v) :: (← fields? rest)
  | _ => none

end

section

variable {v w : Value} {t : Tree} {items : List Value} {es : List (Value × Value)}
  {label : Option Label} {ts : List Tree} {fields : List (String × Tree)}

lemma tree_list (h : tree? (.list label items) = some t) :
    ∃ ts, trees? items = some ts ∧ t = .list ts := by
  rw [tree?, Option.map_eq_some_iff] at h
  obtain ⟨ts, hts, rfl⟩ := h
  exact ⟨ts, hts, rfl⟩

lemma tree_map (h : tree? (.map label es) = some t) :
    ∃ fields, fields? es = some fields ∧ t = .map fields := by
  rw [tree?, Option.map_eq_some_iff] at h
  obtain ⟨fields, hfields, rfl⟩ := h
  exact ⟨fields, hfields, rfl⟩

lemma trees_cons (h : trees? (v :: items) = some ts) :
    ∃ t rest, tree? v = some t ∧ trees? items = some rest ∧ ts = t :: rest := by
  rw [trees?] at h
  simp only [Option.bind_eq_bind, Option.bind_eq_some_iff] at h
  obtain ⟨t, ht, rest, hrest, h⟩ := h
  exact ⟨t, rest, ht, hrest, (Option.some.inj h).symm⟩

lemma fields_cons {e : Value × Value} (h : fields? (e :: es) = some fields) :
    ∃ key t rest, e.1 = .text key ∧ tree? e.2 = some t ∧ fields? es = some rest ∧
      fields = (key, t) :: rest := by
  obtain ⟨k, v⟩ := e
  cases k with
  | text key =>
    rw [fields?] at h
    simp only [Option.bind_eq_bind, Option.bind_eq_some_iff] at h
    obtain ⟨t, ht, rest, hrest, h⟩ := h
    exact ⟨key, t, rest, rfl, ht, hrest, (Option.some.inj h).symm⟩
  | _ => cases h

end

mutual

lemma tree_value : ∀ (t : Tree), tree? t.value = some t
  | .leaf l => by cases l <;> rfl
  | .list items => by rw [Tree.value, tree?, trees_values items]; rfl
  | .map fields => by rw [Tree.value, tree?, fields_entries fields]; rfl

lemma trees_values : ∀ (ts : List Tree), trees? (values ts) = some ts
  | [] => rfl
  | t :: rest => by rw [values, trees?, tree_value t, trees_values rest]; rfl

lemma fields_entries : ∀ (fields : List (String × Tree)), fields? (entries fields) = some fields
  | [] => rfl
  | (key, t) :: rest => by rw [entries, fields?, tree_value t, fields_entries rest]; rfl

end

/-! ### Keys -/

lemma keys_fields {es : List (Value × Value)} {fields : List (String × Tree)}
    (h : fields? es = some fields) :
    es.map (fun e => e.1.key?) = (fields.map (·.1)).map fun key => some (.text key) := by
  induction es generalizing fields with
  | nil =>
    cases h
    rfl
  | cons e es ih =>
    obtain ⟨k, v⟩ := e
    obtain ⟨key, t, rest, rfl, -, hrest, rfl⟩ := fields_cons h
    rw [List.map_cons, ih hrest]
    rfl

mutual

/-- The mappings of a tree that was read have different keys. -/
lemma distinct_tree : ∀ {v : Value} {t : Tree}, tree? v = some t → Keys.Sound v → t.Distinct
  | .null, _, h, _ => by cases h; exact trivial
  | .bool _, _, h, _ => by cases h; exact trivial
  | .int _, _, h, _ => by cases h; exact trivial
  | .text _, _, h, _ => by cases h; exact trivial
  | .list label items, t, h, sound => by
    obtain ⟨ts, hts, rfl⟩ := tree_list h
    exact distinct_trees hts sound
  | .map label es, t, h, sound => by
    obtain ⟨fields, hfields, rfl⟩ := tree_map h
    refine ⟨?_, distinct_fields hfields sound.2⟩
    have hnodup := sound.1
    rw [keys_fields hfields] at hnodup
    exact hnodup.of_map

lemma distinct_trees : ∀ {items : List Value} {ts : List Tree}, trees? items = some ts →
    Keys.SoundItems items → DistinctItems ts
  | [], _, h, _ => by cases h; exact trivial
  | v :: items, ts, h, sound => by
    obtain ⟨t, rest, ht, hrest, rfl⟩ := trees_cons h
    exact ⟨distinct_tree ht sound.1, distinct_trees hrest sound.2⟩

lemma distinct_fields : ∀ {es : List (Value × Value)} {fields : List (String × Tree)},
    fields? es = some fields → Keys.SoundEntries es → DistinctFields fields
  | [], _, h, _ => by cases h; exact trivial
  | (k, v) :: es, fields, h, sound => by
    obtain ⟨key, t, rest, rfl, ht, hrest, rfl⟩ := fields_cons h
    exact ⟨distinct_tree ht sound.1, distinct_fields hrest sound.2⟩

end

/-! ### Labels -/

mutual

/-- The labels of the collections of a tree. -/
def labels : Value → List Label
  | .list label items => label.toList ++ labelsItems items
  | .map label entries => label.toList ++ labelsEntries entries
  | _ => []

def labelsItems : List Value → List Label
  | [] => []
  | v :: rest => labels v ++ labelsItems rest

def labelsEntries : List (Value × Value) → List Label
  | [] => []
  | (_, v) :: rest => labels v ++ labelsEntries rest

end

/-- The labels are counted, and none of them for the second time. -/
structure Counted (c : Census) (ls : List Label) (c' : Census) : Prop where
  met : ∀ l, l ∈ c'.met ↔ l ∈ c.met ∨ l ∈ ls
  shared : c'.shared = c.shared

section

variable {c c' c'' : Census} {ls ls' : List Label}

lemma Counted.refl (c : Census) : Counted c [] c := ⟨by simp, rfl⟩

lemma Counted.trans (h : Counted c ls c') (h' : Counted c' ls' c'') : Counted c (ls ++ ls') c'' :=
  ⟨fun l => by rw [h'.met, h.met, List.mem_append, or_assoc], h'.shared.trans h.shared⟩

/-- The labels that come after are not met either. -/
lemma Counted.new (h : Counted c ls c') (hnew : ∀ l ∈ ls ++ ls', l ∉ c.met)
    (hnodup : (ls ++ ls').Nodup) : ∀ l ∈ ls', l ∉ c'.met := by
  intro l hl hmet
  rcases (h.met l).1 hmet with hold | hls
  · exact hnew l (List.mem_append_right _ hl) hold
  · exact (List.nodup_append.1 hnodup).2.2 l hls l hl rfl

/-- The census of a collection, by that of what is in it. -/
def labelled (label : Option Label) (count : Census → Census) (c : Census) : Census :=
  match label with
  | none => count c
  | some l => if c.met.contains l then c.share l else count { c with met := l :: c.met }

lemma census_list (label : Option Label) (items : List Value) (c : Census) :
    census (.list label items) c = labelled label (censusItems items) c := by
  cases label <;> simp [census, labelled]

lemma census_map (label : Option Label) (es : List (Value × Value)) (c : Census) :
    census (.map label es) c = labelled label (censusEntries es) c := by
  cases label <;> simp [census, labelled]

lemma counted_label {label : Option Label} {count : Census → Census}
    (hnodup : (label.toList ++ ls).Nodup) (hnew : ∀ l ∈ label.toList ++ ls, l ∉ c.met)
    (hcount : ∀ c, (∀ l ∈ ls, l ∉ c.met) → Counted c ls (count c)) :
    Counted c (label.toList ++ ls) (labelled label count c) := by
  cases label with
  | none => exact hcount c hnew
  | some l =>
    have hl : c.met.contains l = false := by simpa using hnew l (by simp)
    simp only [labelled, hl, Bool.false_eq_true, if_false]
    have hstep : Counted c [l] { c with met := l :: c.met } := ⟨by simp [or_comm], rfl⟩
    exact hstep.trans (hcount _ (hstep.new hnew hnodup))

mutual

lemma counted_tree : ∀ {v : Value} {t : Tree} {c : Census}, tree? v = some t → (labels v).Nodup →
    (∀ l ∈ labels v, l ∉ c.met) → Counted c (labels v) (census v c)
  | .null, _, c, _, _, _ => .refl c
  | .bool _, _, c, _, _, _ => .refl c
  | .int _, _, c, _, _, _ => .refl c
  | .text _, _, c, _, _, _ => .refl c
  | .list label items, t, c, h, hnodup, hnew => by
    obtain ⟨ts, hts, -⟩ := tree_list h
    rw [census_list]
    exact counted_label hnodup hnew fun c hc =>
      counted_trees hts (List.nodup_append.1 hnodup).2.1 hc
  | .map label es, t, c, h, hnodup, hnew => by
    obtain ⟨fields, hfields, -⟩ := tree_map h
    rw [census_map]
    exact counted_label hnodup hnew fun c hc =>
      counted_fields hfields (List.nodup_append.1 hnodup).2.1 hc

lemma counted_trees : ∀ {items : List Value} {ts : List Tree} {c : Census},
    trees? items = some ts → (labelsItems items).Nodup → (∀ l ∈ labelsItems items, l ∉ c.met) →
    Counted c (labelsItems items) (censusItems items c)
  | [], _, c, _, _, _ => .refl c
  | v :: items, ts, c, h, hnodup, hnew => by
    obtain ⟨t, rest, ht, hrest, -⟩ := trees_cons h
    obtain ⟨hv, hitems, -⟩ := List.nodup_append.1 hnodup
    have hstep := counted_tree ht hv fun l hl => hnew l (List.mem_append_left _ hl)
    exact hstep.trans (counted_trees hrest hitems (hstep.new hnew hnodup))

lemma counted_fields : ∀ {es : List (Value × Value)} {fields : List (String × Tree)} {c : Census},
    fields? es = some fields → (labelsEntries es).Nodup → (∀ l ∈ labelsEntries es, l ∉ c.met) →
    Counted c (labelsEntries es) (censusEntries es c)
  | [], _, c, _, _, _ => .refl c
  | (k, v) :: es, fields, c, h, hnodup, hnew => by
    obtain ⟨key, t, rest, rfl, ht, hrest, -⟩ := fields_cons h
    obtain ⟨hv, hitems, -⟩ := List.nodup_append.1 hnodup
    have hstep := counted_tree ht hv fun l hl => hnew l (List.mem_append_left _ hl)
    exact hstep.trans (counted_fields hrest hitems (hstep.new hnew hnodup))

end

/-- No collection of the tree is met twice. -/
lemma shared_eq_nil {v : Value} {t : Tree} (h : tree? v = some t) (hnodup : (labels v).Nodup) :
    (census v ⟨[], []⟩).shared = [] :=
  (counted_tree h hnodup fun _ _ => List.not_mem_nil).shared

end

/-! ### Writing without labels -/

lemma anchored_nil (label : Option Label) (write : Draft → Draft) (d : Draft) :
    anchored [] label write d = write d := by
  cases label <;> rfl

lemma isEmpty_trees {items : List Value} {ts : List Tree} (h : trees? items = some ts) :
    (values ts).isEmpty = items.isEmpty := by
  cases items with
  | nil => cases h; rfl
  | cons v items =>
    obtain ⟨t, rest, -, -, rfl⟩ := trees_cons h
    rfl

lemma isEmpty_fields {es : List (Value × Value)} {fields : List (String × Tree)}
    (h : fields? es = some fields) : (entries fields).isEmpty = es.isEmpty := by
  cases es with
  | nil => cases h; rfl
  | cons e es =>
    obtain ⟨key, t, rest, -, -, -, rfl⟩ := fields_cons h
    rfl

mutual

/-- Labels that are not shared are not written. -/
lemma node_tree : ∀ {v : Value} {t : Tree}, tree? v = some t →
    Writing.node [] v = Writing.node [] t.value
  | .null, _, h => by cases h; rfl
  | .bool _, _, h => by cases h; rfl
  | .int _, _, h => by cases h; rfl
  | .text _, _, h => by cases h; rfl
  | .list label items, t, h => by
    obtain ⟨ts, hts, rfl⟩ := tree_list h
    funext role indent d
    rw [Tree.value, Writing.node, Writing.node, anchored_nil, anchored_nil, isEmpty_trees hts,
      nodes_trees hts]
  | .map label es, t, h => by
    obtain ⟨fields, hfields, rfl⟩ := tree_map h
    funext role indent d
    rw [Tree.value, Writing.node, Writing.node, anchored_nil, anchored_nil, isEmpty_fields hfields,
      pairs_fields hfields]

lemma nodes_trees : ∀ {items : List Value} {ts : List Tree}, trees? items = some ts →
    ∀ {column : Nat}, Writing.nodes [] column items = Writing.nodes [] column (values ts)
  | [], _, h, _ => by cases h; rfl
  | v :: items, ts, h, column => by
    obtain ⟨t, rest, ht, hrest, rfl⟩ := trees_cons h
    funext d
    rw [values, Writing.nodes, Writing.nodes, node_tree ht, nodes_trees hrest]

lemma pairs_fields : ∀ {es : List (Value × Value)} {fields : List (String × Tree)},
    fields? es = some fields →
    ∀ {column : Nat}, Writing.pairs [] column es = Writing.pairs [] column (entries fields)
  | [], _, h, _ => by cases h; rfl
  | (k, v) :: es, fields, h, column => by
    obtain ⟨key, t, rest, rfl, ht, hrest, rfl⟩ := fields_cons h
    funext d
    rw [entries, Writing.pairs, Writing.pairs, node_tree ht, pairs_fields hrest]

end

mutual

lemma labels_value : ∀ (t : Tree), labels t.value = []
  | .leaf l => by cases l <;> rfl
  | .list items => labels_values items
  | .map fields => labels_entries fields

lemma labels_values : ∀ (ts : List Tree), labelsItems (values ts) = []
  | [] => rfl
  | t :: rest => by rw [values, labelsItems, labels_value t, labels_values rest]; rfl

lemma labels_entries : ∀ (fields : List (String × Tree)), labelsEntries (entries fields) = []
  | [] => rfl
  | (key, t) :: rest => by rw [entries, labelsEntries, labels_value t, labels_entries rest]; rfl

end

lemma shared_value (t : Tree) : (census t.value ⟨[], []⟩).shared = [] :=
  shared_eq_nil (tree_value t) (by rw [labels_value]; exact List.nodup_nil)

/-- **A tree is written as its value.** -/
lemma document_tree {v : Value} {t : Tree} (h : tree? v = some t) (hnodup : (labels v).Nodup) :
    Writing.document v = Writing.document t.value := by
  unfold Writing.document
  rw [shared_eq_nil h hnodup, shared_value]
  dsimp only
  rw [node_tree h]

/-! ### Accepted without labels -/

/-- The same tree, without labels. -/
def Same (v w : Value) : Prop := ∃ t, tree? v = some t ∧ t.value = w

/-- Results of related values are related. -/
def Follows {α β : Type} (R : α → β → Prop) (x : Except Refusal α) (y : Except Refusal β) : Prop :=
  ∀ a, x = .ok a → ∃ b, y = .ok b ∧ R a b

section

variable {α β γ δ : Type} {R : α → β → Prop} {S : γ → δ → Prop} {root root' v w : Value}
  {es : List (Value × Value)} {fields : List (String × Tree)}

lemma Follows.pure {a : α} {b : β} (h : R a b) : Follows R (.ok a) (.ok b) := by
  rintro _ ⟨⟩
  exact ⟨b, rfl, h⟩

lemma Follows.error {r : Refusal} {y : Except Refusal β} : Follows R (.error r) y := nofun

lemma Follows.bind {x : Except Refusal α} {y : Except Refusal β} {f : α → Except Refusal γ}
    {g : β → Except Refusal δ} (h : Follows R x y) (hf : ∀ a b, R a b → Follows S (f a) (g b)) :
    Follows S (x >>= f) (y >>= g) := by
  intro c hc
  obtain ⟨a, ha, hc⟩ := bind_ok hc
  obtain ⟨b, rfl, hab⟩ := h a ha
  exact hf a b hab c hc

lemma Same.truthy (h : Same v w) : w.isTruthy = v.isTruthy := by
  obtain ⟨t, ht, rfl⟩ := h
  cases v with
  | null | bool b | int n | text s => cases ht; rfl
  | list label items =>
    obtain ⟨ts, hts, rfl⟩ := tree_list ht
    simp only [Tree.value, Value.isTruthy, isEmpty_trees hts]
  | map label es =>
    obtain ⟨fields, hfields, rfl⟩ := tree_map ht
    simp only [Tree.value, Value.isTruthy, isEmpty_fields hfields]
  | _ => cases ht

lemma Same.isText (h : Same v w) (name : String) : w.isText name = v.isText name := by
  obtain ⟨t, ht, rfl⟩ := h
  cases v with
  | null | bool b | int n | text s => cases ht; rfl
  | list label items =>
    obtain ⟨ts, hts, rfl⟩ := tree_list ht
    rfl
  | map label es =>
    obtain ⟨fields, hfields, rfl⟩ := tree_map ht
    rfl
  | _ => cases ht

lemma Same.text (h : Same v w) (htext : IsText v) : w = v := by
  obtain ⟨t, ht, rfl⟩ := h
  obtain ⟨s, hs⟩ := htext
  cases v with
  | text s => cases ht; rfl
  | _ => first | cases hs | cases ht

lemma rel_lookup (h : fields? es = some fields) (name : String) :
    Option.Rel Same (Value.lookup name es) (Value.lookup name (entries fields)) := by
  induction es generalizing fields with
  | nil =>
    cases h
    exact .none
  | cons e es ih =>
    obtain ⟨k, v⟩ := e
    obtain ⟨key, t, rest, rfl, ht, hrest, rfl⟩ := fields_cons h
    rw [entries, Value.lookup, Value.lookup]
    split
    · exact .some ⟨t, ht, rfl⟩
    · exact ih hrest

lemma same_getD {o o' : Option Value} (h : Option.Rel Same o o') {d : Value} (hd : Same d d) :
    Same (o.getD d) (o'.getD d) := by
  cases h with
  | some h => exact h
  | none => exact hd

lemma isSome_of_rel {o o' : Option Value} (h : Option.Rel Same o o') : o'.isSome = o.isSome := by
  cases h <;> rfl

lemma follows_field (h : Same v w) (name : String) :
    Follows Same (Manifest.field root v name) (Manifest.field root' w name) := by
  obtain ⟨t, ht, rfl⟩ := h
  cases v with
  | map label es =>
    obtain ⟨fields, hfields, rfl⟩ := tree_map ht
    exact .pure (same_getD (rel_lookup hfields name) ⟨.leaf .null, rfl, rfl⟩)
  | again l => cases ht
  | _ => exact .error

lemma follows_section (h : Same v w) (name : String) :
    Follows Same (Manifest.section? root v name) (Manifest.section? root' w name) := by
  refine (follows_field h name).bind fun a b hab => ?_
  rw [hab.truthy]
  cases a.isTruthy with
  | true => exact .pure hab
  | false => exact .pure ⟨.map [], rfl, rfl⟩

lemma same_keys {es : List (Value × Value)} {fields : List (String × Tree)}
    (h : fields? es = some fields) :
    List.Forall₂ Same (es.map (·.1)) ((entries fields).map (·.1)) := by
  induction es generalizing fields with
  | nil =>
    cases h
    exact .nil
  | cons e es ih =>
    obtain ⟨k, v⟩ := e
    obtain ⟨key, t, rest, rfl, ht, hrest, rfl⟩ := fields_cons h
    exact .cons ⟨.leaf (.text key), rfl, rfl⟩ (ih hrest)

lemma same_items {items : List Value} {ts : List Tree} (h : trees? items = some ts) :
    List.Forall₂ Same items (values ts) := by
  induction items generalizing ts with
  | nil =>
    cases h
    exact .nil
  | cons v items ih =>
    obtain ⟨t, rest, ht, hrest, rfl⟩ := trees_cons h
    exact .cons ⟨t, ht, rfl⟩ (ih hrest)

lemma any_isText {vs ws : List Value} (h : List.Forall₂ Same vs ws) (name : String) :
    ws.any (Value.isText name) = vs.any (Value.isText name) := by
  induction h with
  | nil => rfl
  | cons hv _ ih => rw [List.any_cons, List.any_cons, hv.isText, ih]

lemma follows_elements (h : Same v w) :
    Follows (List.Forall₂ Same) (Manifest.elements root v) (Manifest.elements root' w) := by
  obtain ⟨t, ht, rfl⟩ := h
  cases v with
  | map label es =>
    obtain ⟨fields, hfields, rfl⟩ := tree_map ht
    exact .pure (same_keys hfields)
  | list label items =>
    obtain ⟨ts, hts, rfl⟩ := tree_list ht
    exact .pure (same_items hts)
  | text s =>
    cases ht
    refine .pure ?_
    rw [List.forall₂_same]
    intro v hv
    obtain ⟨c, -, rfl⟩ := List.mem_map.1 hv
    exact ⟨.leaf (.text _), rfl, rfl⟩
  | again l => cases ht
  | set label items => cases ht
  | bytes b => cases ht
  | pair a b => cases ht
  | _ => exact .error

lemma follows_firstServed {vs ws : List Value} (h : List.Forall₂ Same vs ws) :
    Follows (Option.Rel Same) (Manifest.firstServed root vs) (Manifest.firstServed root' ws) := by
  induction h with
  | nil => exact .pure .none
  | @cons v w vs ws hv _ ih =>
    have hnext (served served' : Value) (hs : Same served served') : Follows (Option.Rel Same)
        (do
          let name ← Manifest.field root v "name"
          if served.isTruthy && name.isTruthy then return some name
          else Manifest.firstServed root vs)
        (do
          let name ← Manifest.field root' w "name"
          if served'.isTruthy && name.isTruthy then return some name
          else Manifest.firstServed root' ws) := by
      refine (follows_field hv "name").bind fun name name' hn => ?_
      rw [hs.truthy, hn.truthy]
      split
      · exact .pure (.some hn)
      · exact ih
    rw [Manifest.firstServed, Manifest.firstServed]
    obtain ⟨t, ht, rfl⟩ := hv
    cases v with
    | map label es =>
      obtain ⟨fields, hfields, rfl⟩ := tree_map ht
      exact hnext _ _ (same_getD (rel_lookup hfields "served") ⟨.leaf (.bool true), rfl, rfl⟩)
    | again l => cases ht
    | _ => exact .error

lemma follows_named (h : Same v w) {name name' : Option Value} :
    Option.Rel Same name name' → Follows Same
      (match name with
        | some name => pure name
        | none => Manifest.field root v "version")
      (match name' with
        | some name => pure name
        | none => Manifest.field root' w "version") := by
  rintro (hn | -)
  · exact .pure hn
  · exact follows_field h "version"

lemma follows_servedVersion (h : Same v w) :
    Follows Same (Manifest.servedVersion root v) (Manifest.servedVersion root' w) := by
  refine (follows_field h "versions").bind fun versions versions' hv => ?_
  rw [hv.truthy]
  cases versions.isTruthy with
  | true =>
    exact (follows_elements hv).bind fun _ _ he => (follows_firstServed he).bind fun _ _ hn =>
      follows_named h hn
  | false => exact follows_named h .none

lemma follows_splitVersion (h : Same v w) :
    Follows (fun x y => Same x.1 y.1 ∧ Same x.2 y.2) (Manifest.splitVersion root v)
      (Manifest.splitVersion root' w) := by
  have hempty : Same (.text "") (.text "") := ⟨.leaf (.text ""), rfl, rfl⟩
  obtain ⟨t, ht, rfl⟩ := h
  cases v with
  | text s =>
    cases ht
    exact .pure ⟨⟨.leaf (.text _), rfl, rfl⟩, ⟨.leaf (.text _), rfl, rfl⟩⟩
  | list label items =>
    obtain ⟨ts, hts, rfl⟩ := tree_list ht
    have hany : (values ts).any (Value.isText "/") = items.any (Value.isText "/") :=
      any_isText (same_items hts) "/"
    show Follows _ (if items.any (Value.isText "/") then _ else _)
      (if (values ts).any (Value.isText "/") then _ else _)
    rw [hany]
    split
    · exact .error
    · exact .pure ⟨hempty, _, ht, rfl⟩
  | map label es =>
    obtain ⟨fields, hfields, rfl⟩ := tree_map ht
    have hslash : (Value.lookup "/" (entries fields)).isSome = (Value.lookup "/" es).isSome :=
      isSome_of_rel (rel_lookup hfields "/")
    show Follows _ (if (Value.lookup "/" es).isSome then _ else _)
      (if (Value.lookup "/" (entries fields)).isSome then _ else _)
    rw [hslash]
    split
    · exact .error
    · exact .pure ⟨hempty, _, ht, rfl⟩
  | set label items => cases ht
  | again l => cases ht
  | _ => exact .error

lemma follows_makeRef {group group' kind kind' version version' name name' : Value}
    {ns ns' : Option Value} (hgroup : Same group group') (hkind : Same kind kind')
    (hversion : Same version version') (hname : Same name name') (hns : Option.Rel Same ns ns') :
    Follows Eq (Manifest.makeRef group kind version name ns)
      (Manifest.makeRef group' kind' version' name' ns') := by
  intro ref href
  have fit := fit_of_makeRef href
  have hns' : ns' = ns := by
    cases hns with
    | none => rfl
    | @some ns ns' hns =>
      rcases fit.ns _ rfl with rfl | htext
      · obtain ⟨t, ht, rfl⟩ := hns
        cases ht
        rfl
      · rw [hns.text htext]
  rw [hgroup.text fit.group, hkind.text fit.kind, hversion.text fit.version, hname.text fit.name,
    hns']
  exact ⟨ref, href, rfl⟩

lemma follows_definitionRef {name name' : Value} (h : Same v w) (hname : Same name name') :
    Follows Eq (Manifest.definitionRef v name) (Manifest.definitionRef w name') := by
  refine (follows_section h "spec").bind fun spec spec' hspec => ?_
  refine (follows_section hspec "names").bind fun names names' hnames => ?_
  refine (follows_field hnames "kind").bind fun kind kind' hkind => ?_
  refine (follows_servedVersion hspec).bind fun version version' hversion => ?_
  refine (follows_field hspec "group").bind fun group group' hgroup => ?_
  rw [hgroup.truthy, hkind.truthy, hversion.truthy]
  split
  · exact follows_makeRef hgroup hkind hversion hname .none
  · exact .error

/-- **A manifest is accepted without labels**, with the same reference. -/
lemma follows_ofValue {body : Value} {t : Tree} (h : tree? body = some t) :
    Follows (fun m m' => m'.ref = m.ref ∧ m'.body = t.value) (Manifest.ofValue body)
      (Manifest.ofValue t.value) := by
  have hsame : Same body t.value := ⟨t, h, rfl⟩
  cases body with
  | map label es =>
    obtain ⟨fields, hfields, rfl⟩ := tree_map h
    refine (follows_field hsame "apiVersion").bind fun apiVersion apiVersion' hapi => ?_
    refine (follows_field hsame "kind").bind fun kind kind' hkind => ?_
    refine (follows_section hsame "metadata").bind fun metadata metadata' hmetadata => ?_
    refine (follows_field hmetadata "name").bind fun name name' hname => ?_
    rw [hapi.truthy, hkind.truthy, hname.truthy, hkind.isText]
    cases apiVersion.isTruthy && kind.isTruthy && name.isTruthy with
    | false => exact .error
    | true =>
      cases kind.isText Manifest.definitionKind with
      | true =>
        refine (follows_definitionRef hsame hname).bind ?_
        rintro ref _ rfl
        exact .pure ⟨rfl, rfl⟩
      | false =>
        refine (follows_splitVersion hapi).bind fun x y hxy => ?_
        refine (follows_field hmetadata "namespace").bind fun ns ns' hns => ?_
        refine (follows_makeRef hxy.1 hkind hxy.2 hname (.some hns)).bind ?_
        rintro ref _ rfl
        exact .pure ⟨rfl, rfl⟩
  | _ => exact .error

end

end Testbed.Trees
