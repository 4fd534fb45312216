import Mathlib
import Testbed.Install
import Testbed.Proofs.Bootstrap
import Testbed.Proofs.Bundled
import Testbed.Proofs.Documents
import Testbed.Proofs.Keys
import Testbed.Proofs.Refusals
import Testbed.Proofs.Streams
import Testbed.Rehearsal

/-!
What is rendered can be installed.

A manifest whose body is a tree is collected and rendered. The text is accepted as a manifest with
the same reference and the same body, unless a key is longer than a key may be on the line of its
value once it stands there with its escapes.
-/

namespace Testbed.Trees

open Refusals
open Yaml (Value)

/-- A manifest that is accepted, and whose body is a tree with these fields: no collection in it is
met at two places. -/
structure Bears (m : Manifest) (fields : List (String × Tree)) : Prop where
  parsed : ∃ raw : Raw, raw.parse = .ok m
  tree : tree? m.body = some (.map fields)
  unshared : (labels m.body).Nodup

/-- The text is accepted as a manifest with the same reference and the same body. -/
def Restores (m : Manifest) (text : String) : Prop :=
  ∃ m', Manifest.ofText text = .ok m' ∧ m'.ref = m.ref ∧ tree? m'.body = tree? m.body

/-- The collection with the body of a manifest only. -/
def alone (m : Manifest) : Collection := Collection.empty.add m.body

section

variable {m : Manifest} {fields : List (String × Tree)}

lemma exists_value {raw : Raw} (h : raw.parse = .ok m) :
    Manifest.ofValue m.body = .ok m ∧ Keys.Sound m.body := by
  obtain ⟨hread, hvalue⟩ := Raw.parse_ok h
  refine ⟨hvalue, ?_⟩
  cases raw with
  | text s => exact Keys.sound_load hread
  | bytes b =>
    obtain ⟨s, -, hload⟩ := Naming.bind_ok hread
    exact Keys.sound_load hload

lemma isMap_body {body : Value} (h : Manifest.ofValue body = .ok m) : Streams.IsMap body := by
  cases body with
  | map label es => exact ⟨label, es, rfl⟩
  | _ => cases h

lemma fields_ne_nil {body : Value} (h : Manifest.ofValue body = .ok m)
    (tree : tree? body = some (.map fields)) : fields ≠ [] := by
  rintro rfl
  obtain ⟨label, es, rfl⟩ := isMap_body h
  obtain ⟨fields, hfields, heq⟩ := tree_map tree
  cases heq
  cases es with
  | nil => cases h
  | cons e es =>
    obtain ⟨key, t, rest, -, -, -, heq⟩ := fields_cons hfields
    cases heq

/-- The rendering of a tree is its document. -/
lemma Bears.render (bears : Bears m fields) :
    (alone m).render = (Yaml.Writing.document (Tree.map fields).value).1 := by
  obtain ⟨raw, hraw⟩ := bears.parsed
  rw [← document_tree bears.tree bears.unshared]
  exact Streams.stream_single (isMap_body (exists_value hraw).1)

/-- **What is rendered is accepted again**, unless a key is too long. -/
lemma Bears.restores_iff (bears : Bears m fields) (legible : LegibleFields 0 fields) :
    Restores m (alone m).render ↔ ShortFields fields := by
  obtain ⟨raw, hraw⟩ := bears.parsed
  obtain ⟨hvalue, sound⟩ := exists_value hraw
  have hne := fields_ne_nil hvalue bears.tree
  rw [bears.render]
  constructor
  · rintro ⟨m', hm', -⟩
    by_contra long
    obtain ⟨e, he⟩ := exists_load_error hne legible long
    rw [Manifest.ofText, he] at hm'
    cases hm'
  · intro short
    have hload := load_document hne legible (distinct_tree bears.tree sound) short
    obtain ⟨m', hm', href, hbody⟩ := follows_ofValue bears.tree m hvalue
    refine ⟨m', ?_, href, ?_⟩
    · exact (congrArg Manifest.ofRead hload).trans hm'
    · rw [hbody, tree_value, bears.tree]

end

/-! ### Collections -/

section

variable {τ : Type}

/-- Collects manifests, one after the other. -/
def collectAll : List Manifest → Install.Target → Program τ Install.Target
  | [], target => pure target
  | m :: ms, target => do
    let (_, target) ← Install.ensureIn target m.ref m.body
    collectAll ms target

variable [Seconds τ]

lemma run_collectAll (ms : List Manifest) (c : Collection) (r : Rehearsal τ) :
    (r.run (collectAll ms (.collection c))).1 = .ok (.collection ⟨c.items ++ ms.map (·.body)⟩) := by
  induction ms generalizing c r with
  | nil =>
    rw [List.map_nil, List.append_nil]
    rfl
  | cons m ms ih =>
    have hnext := ih (c.add m.body) (r.note .debug ("Collected " ++ m.ref.text))
    rw [Collection.items_add, List.append_assoc] at hnext
    exact hnext

/-- The rendering of what is collected is that of each body alone, one after the other. -/
lemma render_all {ms : List Manifest} (h : ∀ m ∈ ms, ∃ raw : Raw, raw.parse = .ok m) :
    (⟨ms.map (·.body)⟩ : Collection).render = String.join (ms.map fun m => (alone m).render) := by
  have hmaps : ∀ b ∈ ms.map (·.body), Streams.IsMap b := by
    intro b hb
    obtain ⟨m, hm, rfl⟩ := List.mem_map.1 hb
    obtain ⟨raw, hraw⟩ := h m hm
    exact isMap_body (exists_value hraw).1
  unfold Collection.render
  rw [Streams.stream_eq hmaps, List.map_map]
  rfl

/-- **What is collected can be installed.** A manifest whose body is a legible tree goes into an
empty collection, and what is rendered is accepted with the same reference and the same body if and
only if no key is too long. The rendering of several manifests is that of each alone, in order.
Bodies may be nested to any depth: the limit that an interpreter's stack sets is not counted. -/
theorem rendering_installs (r : Rehearsal τ) :
    (∀ (m : Manifest) (fields : List (String × Tree)), Bears m fields → LegibleFields 0 fields →
      (r.run (Install.ensureIn (.collection .empty) m.ref m.body)).1 =
          .ok (.collected, .collection (alone m)) ∧
        (Restores m (alone m).render ↔ ShortFields fields)) ∧
    ∀ ms : List Manifest, (∀ m ∈ ms, ∃ raw : Raw, raw.parse = .ok m) →
      ∃ c, (r.run (collectAll ms (.collection .empty))).1 = .ok (.collection c) ∧
        c.render = String.join (ms.map fun m => (alone m).render) := by
  refine ⟨fun m fields bears legible => ⟨rfl, bears.restores_iff legible⟩, fun ms h => ?_⟩
  exact ⟨_, run_collectAll ms .empty r, render_all h⟩

end

/-! ### Documents that are trees -/

mutual

/-- Whether a value without labels is that of the tree. -/
def Tree.isValue : Tree → Value → Bool
  | .leaf .null, .null => true
  | .leaf (.bool b), .bool b' => b == b'
  | .leaf (.int n), .int n' => n == n'
  | .leaf (.text s), .text s' => s == s'
  | .list ts, .list none vs => areValues ts vs
  | .map fields, .map none es => areEntries fields es
  | _, _ => false

def areValues : List Tree → List Value → Bool
  | [], [] => true
  | t :: ts, v :: vs => t.isValue v && areValues ts vs
  | _, _ => false

def areEntries : List (String × Tree) → List (Value × Value) → Bool
  | [], [] => true
  | (key, t) :: fields, (.text key', v) :: es => key == key' && t.isValue v && areEntries fields es
  | _, _ => false

end

mutual

lemma Tree.eq_value : ∀ {t : Tree} {v : Value}, t.isValue v = true → v = t.value
  | .leaf .null, .null, _ => rfl
  | .leaf (.bool b), .bool b', h => by
    rw [Tree.isValue, beq_iff_eq] at h
    rw [h]
    rfl
  | .leaf (.int n), .int n', h => by
    rw [Tree.isValue, beq_iff_eq] at h
    rw [h]
    rfl
  | .leaf (.text s), .text s', h => by
    rw [Tree.isValue, beq_iff_eq] at h
    rw [h]
    rfl
  | .list ts, .list none vs, h => by
    rw [Tree.isValue] at h
    rw [Tree.value, eq_values h]
  | .map fields, .map none es, h => by
    rw [Tree.isValue] at h
    rw [Tree.value, eq_entries h]

lemma eq_values : ∀ {ts : List Tree} {vs : List Value}, areValues ts vs = true → vs = values ts
  | [], [], _ => rfl
  | t :: ts, v :: vs, h => by
    rw [areValues, Bool.and_eq_true] at h
    rw [values, Tree.eq_value h.1, eq_values h.2]

lemma eq_entries : ∀ {fields : List (String × Tree)} {es : List (Value × Value)},
    areEntries fields es = true → es = entries fields
  | [], [], _ => rfl
  | (key, t) :: fields, (.text key', v) :: es, h => by
    simp only [areEntries, Bool.and_eq_true, beq_iff_eq] at h
    obtain ⟨⟨rfl, ht⟩, hfields⟩ := h
    rw [entries, Tree.eq_value ht, eq_entries hfields]

end

lemma exists_bears {text : String} {fields : List (String × Tree)}
    (h : Bundled.holds (fun m => (Tree.map fields).isValue m.body) (Bundled.ofChars text.toList) =
      true) : ∃ m, Manifest.ofText text = .ok m ∧ Bears m fields := by
  obtain ⟨m, hm, hvalue⟩ := Bundled.exists_of_holds h
  refine ⟨m, hm, ⟨.text text, hm⟩, ?_, ?_⟩
  · rw [Tree.eq_value hvalue, tree_value]
  · rw [Tree.eq_value hvalue, labels_value]
    exact List.nodup_nil

/-- Settings under a key with accents, in brackets. -/
def settingsText : String :=
  "apiVersion: v1\nkind: ConfigMap\nmetadata: \x7bname: settings\x7d\nd\u00e9j\u00e0: ['on', 10, '']\n"

def settingsFields : List (String × Tree) :=
  [("apiVersion", .leaf (.text "v1")), ("kind", .leaf (.text "ConfigMap")),
    ("metadata", .map [("name", .leaf (.text "settings"))]),
    ("d\u00e9j\u00e0", .list [.leaf (.text "on"), .leaf (.int 10), .leaf (.text "")])]

/-- Settings that are collected twice are rendered twice, and can be installed again. -/
theorem settings_installed_again : ∃ m, Manifest.ofText settingsText = .ok m ∧
    Restores m (alone m).render ∧
      ∃ c, (Bootstrap.bareWorld.run (collectAll [m, m] (.collection .empty))).1 =
          .ok (.collection c) ∧ c.render = (alone m).render ++ (alone m).render := by
  obtain ⟨m, hm, bears⟩ : ∃ m, Manifest.ofText settingsText = .ok m ∧ Bears m settingsFields :=
    exists_bears (by decide +kernel)
  have legible : LegibleFields 0 settingsFields :=
    legible_fields _ ⟨trivial, trivial, ⟨trivial, trivial⟩,
      ⟨trivial, show (Leaf.int 10).Fits by unfold Leaf.Fits; decide, trivial, trivial⟩, trivial⟩
      (by decide)
  have short : ShortFields settingsFields :=
    ⟨fun _ => by decide, trivial, fun _ => by decide, trivial, fun _ => by decide,
      ⟨fun _ => by decide, trivial, trivial⟩, fun _ => by decide, ⟨trivial, trivial, trivial, trivial⟩,
      trivial⟩
  obtain ⟨one, many⟩ := rendering_installs Bootstrap.bareWorld
  obtain ⟨c, hc, hrender⟩ := many [m, m] (by
    rintro m' hm'
    obtain rfl : m' = m := by simpa using hm'
    exact bears.parsed)
  refine ⟨m, hm, (one m _ bears legible).2.2 short, c, hc, ?_⟩
  rw [hrender]
  simp [String.join]

/-- A key of emoji that is short enough for its line before it is escaped, but not after. -/
def longKey : String := String.ofList (List.replicate 103 '😀')

def longText : String :=
  "\x22" ++ longKey ++ "\x22: null\napiVersion: v1\nkind: X\nmetadata:\n  name: a\n"

def longFields : List (String × Tree) :=
  [(longKey, .leaf .null), ("apiVersion", .leaf (.text "v1")), ("kind", .leaf (.text "X")),
    ("metadata", .map [("name", .leaf (.text "a"))])]

/-- What is collected from a manifest with such a key is rendered as a text that is not accepted. -/
theorem long_key_not_restored : ∃ m, Manifest.ofText longText = .ok m ∧ Bears m longFields ∧
    ¬ Restores m (alone m).render := by
  have hkey : longKey.toList = List.replicate 103 '😀' := String.toList_ofList
  obtain ⟨m, hm, bears⟩ : ∃ m, Manifest.ofText longText = .ok m ∧ Bears m longFields := by
    refine exists_bears ?_
    rw [longText, String.toList_append, String.toList_append, hkey]
    decide +kernel
  have legible : LegibleFields 0 longFields :=
    legible_fields _ ⟨trivial, trivial, trivial, ⟨trivial, trivial⟩, trivial⟩ (by decide)
  have simple : isSimple longKey = true := by
    rw [isSimple_eq, hkey]
    decide +kernel
  have wide : ¬ quotedWidth longKey ≤ 1024 := by
    have hescaped : (Folding.escaped '😀').length = 10 := by decide
    rw [quotedWidth, hkey, List.length_flatMap, List.map_replicate, hescaped, List.sum_replicate]
    decide
  exact ⟨m, hm, bears, mt (bears.restores_iff legible).1 fun short => wide (short.1 simple)⟩

end Testbed.Trees
