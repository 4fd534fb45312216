import Testbed.Text.Quoted

/-!
What keeps a text from being printed: a tag that closes or says something wrong, or anything else
that goes wrong on the way to the screen.
-/

namespace Testbed.Console

structure Misprint where
  /-- The name of the exception. -/
  kind : String
  message : String
  deriving Repr, DecidableEq

namespace Misprint

def markup (message : String) : Misprint := ⟨"MarkupError", message⟩

def unmatched (tag : String) (position : Nat) : Misprint :=
  markup ("closing tag '[" ++ tag ++ "]' at position " ++ toString position
    ++ " doesn't match any open tag")

def nothingOpen (position : Nat) : Misprint :=
  markup ("closing tag '[/]' at position " ++ toString position ++ " has nothing to close")

/-- What a handler is to be called with cannot be read. -/
def noParameters (parameters value : String) : Misprint :=
  markup ("error parsing " ++ Text.quoted parameters ++ " in " ++ Text.quoted value
    ++ "; invalid syntax")

/-- A number without digits. -/
def noDigits : Misprint := ⟨"ValueError", "invalid literal for int() with base 10: ''"⟩

def tooManyDigits (limit digits : Nat) : Misprint :=
  ⟨"ValueError", "Exceeds the limit (" ++ toString limit
    ++ " digits) for integer string conversion: value has " ++ toString digits
    ++ " digits; use sys.set_int_max_str_digits() to increase the limit"⟩

end Misprint

end Testbed.Console
