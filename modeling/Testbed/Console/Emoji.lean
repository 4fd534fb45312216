import Testbed.Console.EmojiNames
import Testbed.Text.Blank
import Testbed.Text.Lower

/-!
Emoji by name: a name between colons stands for its characters. The name may end in how they are
to be shown, as a picture or as text.
-/

namespace Testbed.Console.Emoji

open Text (isBlank)

/-- The characters of a name in any case. -/
def ofName? (name : List Char) : Option (List Char) :=
  let name := name.map Text.lowerChar
  EmojiNames.lines.findSome? fun line =>
    let entry := (line.toList.splitOnP (· == ' ')).find? fun entry =>
      entry.takeWhile (· != '=') == name
    entry.map fun entry => (entry.dropWhile (· != '=')).drop 1

/-- The endings of a name, each with the character that selects the way of showing. -/
def endings : List (List Char × Char) :=
  [("-emoji".toList, '\ufe0f'), ("-text".toList, '\ufe0e')]

/-- The characters for what stands between two colons. -/
def ofCode? (code : List Char) : Option (List Char) :=
  match endings.find? fun (ending, _) => ending.isSuffixOf code with
  | some (ending, selector) =>
    (ofName? (code.take (code.length - ending.length))).map (· ++ [selector])
  | none => ofName? code

def isCodeChar (c : Char) : Bool := c != ':' && !isBlank c

/-- Replaces the codes of a text; what is no name of an emoji stays. -/
def replace : List Char → List Char
  | [] => []
  | c :: rest =>
    if c = ':' then
      match _h : rest.dropWhile isCodeChar with
      | ':' :: after =>
        let code := rest.takeWhile isCodeChar
        (ofCode? code).getD (':' :: code ++ [':']) ++ replace after
      | _ => ':' :: replace rest
    else c :: replace rest
termination_by text => text.length
decreasing_by
  · have := (List.dropWhile_suffix (l := rest) isCodeChar).length_le
    simp_all
    omega
  · simp
  · simp

end Testbed.Console.Emoji
