/-
The JSON text of a value.

The text is compact and canonical: no spaces, map entries in key order, numbers in their
shortest form, and in strings only the characters escaped that have to be.
-/
import Lookout.Value.Basic

namespace Lookout

namespace Json

/-- The lower-case hexadecimal digits of a number below 256, always two. -/
def hexPair (n : Nat) : List Char :=
  [Nat.digitChar (n / 16 % 16), Nat.digitChar (n % 16)]

/-- How one character stands inside a quoted string. -/
def escape (c : Char) : List Char :=
  match c with
  | '"' => ['\\', '"']
  | '\\' => ['\\', '\\']
  | '\x08' => ['\\', 'b']
  | '\x0c' => ['\\', 'f']
  | '\n' => ['\\', 'n']
  | '\r' => ['\\', 'r']
  | '\t' => ['\\', 't']
  | _ => if c.toNat < 32 then '\\' :: 'u' :: '0' :: '0' :: hexPair c.toNat else [c]

/-- A quoted string. -/
def quote (s : String) : List Char :=
  '"' :: s.toList.flatMap escape ++ ['"']

end Json

namespace Value

mutual

/-- The JSON text of a value. -/
def jsonText : Value → List Char
  | null => ['n', 'u', 'l', 'l']
  | bool b => if b then ['t', 'r', 'u', 'e'] else ['f', 'a', 'l', 's', 'e']
  | number n => n.text
  | string s => Json.quote s
  | list [] => ['[', ']']
  | list (item :: items) => '[' :: jsonText item ++ jsonItems items
  | map [] => ['{', '}']
  | map ((key, value) :: entries) =>
    '{' :: Json.quote key ++ ':' :: jsonText value ++ jsonEntries entries

/-- The items of a list after the first, each behind a comma, and the closing bracket. -/
def jsonItems : List Value → List Char
  | [] => [']']
  | item :: items => ',' :: jsonText item ++ jsonItems items

/-- The entries of a map after the first, each behind a comma, and the closing brace. -/
def jsonEntries : List (String × Value) → List Char
  | [] => ['}']
  | (key, value) :: entries =>
    ',' :: Json.quote key ++ ':' :: jsonText value ++ jsonEntries entries

end

/-- The value as shown: its JSON text. -/
def display (v : Value) : String :=
  String.ofList v.jsonText

end Value

end Lookout
