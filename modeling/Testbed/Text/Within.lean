/-!
A text within another.
-/

namespace Testbed.Text

/-- Whether a text occurs in another, without gaps. The empty text does in every one. -/
def occursIn (part : List Char) : List Char → Bool
  | [] => part.isEmpty
  | c :: rest => part.isPrefixOf (c :: rest) || occursIn part rest

theorem occursIn_iff (part text : List Char) : occursIn part text = true ↔ part <:+: text := by
  induction text with
  | nil => simp [occursIn, List.isEmpty_iff]
  | cons c rest ih => simp [occursIn, ih, List.infix_cons_iff]

end Testbed.Text
