import Testbed.Console.Table

/-!
What the console shows: paragraphs of markup and tables, each line ended by a break.
-/

namespace Testbed.Console

def ofLines (lines : List (List Char)) : String := String.ofList (lines.flatMap (· ++ ['\n']))

/-- Markup in lines that fit the screen. -/
def paragraph (markup : String) : Except Misprint String :=
  (fun text => ofLines (wrap screenWidth text)) <$> Markup.render markup.toList

def table (t : Table) : Except Misprint String := ofLines <$> t.render

/-- Where things are printed: what is shown of markup and of tables, or why nothing is. -/
structure Screen where
  paragraph : String → Except Misprint String
  table : Table → Except Misprint String

/-- A screen that takes every character. -/
def screen : Screen := ⟨paragraph, table⟩

end Testbed.Console
