import Testbed.Yaml.Writing

/-!
A collection of bodies that are written out instead of sent.
-/

namespace Testbed

open Yaml (Value)

structure Collection where
  items : List Value

namespace Collection

def empty : Collection := ⟨[]⟩

def add (body : Value) (c : Collection) : Collection := ⟨c.items ++ [body]⟩

def size (c : Collection) : Nat := c.items.length

/-- The bodies as one stream of documents, in the order in which they were added. -/
def render (c : Collection) : String := Yaml.Writing.stream c.items

@[simp] theorem items_empty : empty.items = [] := rfl

@[simp] theorem items_add (c : Collection) (body : Value) :
    (c.add body).items = c.items ++ [body] := rfl

end Collection

end Testbed
