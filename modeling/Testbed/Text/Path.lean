/-!
The normal form of a path in a file system: slashes are not repeated, and components that name
their own directory are left out.
-/

namespace Testbed.Text

/-- The parts of a text between slashes. -/
def components (path : List Char) : List (List Char) := path.splitOnP (· == '/')

/-- What a path starts with. Two slashes are a root of their own, more of them are one. -/
def root (path : List Char) : List Char :=
  match path with
  | '/' :: '/' :: '/' :: _ => ['/']
  | '/' :: '/' :: _ => ['/', '/']
  | '/' :: _ => ['/']
  | _ => []

def normalPath (path : List Char) : List Char :=
  let parts := (components path).filter fun part => !part.isEmpty && part != ['.']
  match root path, parts with
  | [], [] => ['.']
  | root, parts => root ++ (parts.intersperse ['/']).flatten

end Testbed.Text
