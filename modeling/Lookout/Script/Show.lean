/-
Data as text.

A datum is shown as the script would write it.  A list or dictionary that holds itself is
shown as dots where it comes again.
-/
import Lookout.Script.Machine
import Lookout.Script.FloatText
import Lookout.Text.Letter

namespace Lookout.Script

/-- The lower-case hexadecimal digits of a number, with zeros in front up to a width. -/
def hexPadded (width n : Nat) : List Char :=
  let digits := Nat.toDigits 16 n
  List.replicate (width - digits.length) '0' ++ digits

/-- How one character stands in a shown string. -/
def shownChar (c : Char) : List Char :=
  match c with
  | '\n' => ['\\', 'n']
  | '\r' => ['\\', 'r']
  | '\t' => ['\\', 't']
  | '\\' => ['\\', '\\']
  | '"' => ['\\', '"']
  | _ =>
    let n := c.toNat
    if n < 0x20 || (0x7f ≤ n && n ≤ 0xff) then '\\' :: 'x' :: hexPadded 2 n
    else if n < 0x7f || isLetterOrNumeral c then [c]
    else if n ≤ 0xffff then '\\' :: 'u' :: hexPadded 4 n
    else '\\' :: 'U' :: hexPadded 8 n

/-- A string as the script would write it. -/
def shownString (s : String) : String :=
  String.ofList ('"' :: s.toList.flatMap shownChar ++ ['"'])

/-- Texts with commas between them. -/
def commaJoined (texts : List String) : String :=
  ", ".intercalate texts

/-- The text of a range. -/
def rangeText (start stop step : Int) : String :=
  if step ≠ 1 then
    "range(" ++ intText start ++ ", " ++ intText stop ++ ", " ++ intText step ++ ")"
  else if start ≠ 0 then "range(" ++ intText start ++ ", " ++ intText stop ++ ")"
  else "range(" ++ intText stop ++ ")"

/-- The text of a tuple of shown items. -/
def tupleText : List String → String
  | [] => "()"
  | [item] => "(" ++ item ++ ",)"
  | items => "(" ++ commaJoined items ++ ")"

/-- A datum as the script would write it; `path` holds the cells it is shown in. -/
def shownWithin (m : Machine) : Nat → List Addr → Datum → String
  | 0, _, _ => "..."
  | fuel + 1, path, d =>
    match d with
    | .none => "None"
    | .bool b => if b then "True" else "False"
    | .int n => intText n
    | .float x => String.ofList (compactText 'e' x)
    | .string s => shownString s
    | .ellipsis => "Ellipsis"
    | .tuple items => tupleText (items.map (shownWithin m fuel path))
    | .range start stop step => rangeText start stop step
    | .struct fields =>
      "struct(" ++ commaJoined (fields.map fun (name, v) => name ++ "=" ++ shownWithin m fuel path v)
        ++ ")"
    | .iterator _ => "iterator"
    | .builtin b => b.name
    | .textMethod _ method => nameIn TextMethod.named method
    | .listMethod _ method => nameIn ListMethod.named method
    | .dictMethod _ method => nameIn DictMethod.named method
    | .function a => ((m.closure? a).map (·.name)).getD ""
    | .list a =>
      if path.contains a then "[...]"
      else "[" ++ commaJoined ((m.items a).toList.map (shownWithin m fuel (a :: path))) ++ "]"
    | .dict a =>
      if path.contains a then "\x7b...\x7d"
      else
        "\x7b" ++ commaJoined ((m.entries a).map fun (k, v) =>
          shownWithin m fuel (a :: path) k ++ ": " ++ shownWithin m fuel (a :: path) v) ++ "\x7d"

/-- How deep data are followed before it is too deep. -/
def dataDepth : Nat := 3000

namespace Machine

/-- A datum as the script would write it. -/
def shown (m : Machine) (d : Datum) : String :=
  shownWithin m dataDepth [] d

/-- A datum as text: a string stands for itself. -/
def plainText (m : Machine) : Datum → String
  | .string s => s
  | d => m.shown d

end Machine

end Lookout.Script
