/-
What plain scalars stand for.

Words for null and for truth values, integers in base ten or with a prefix for another one,
and floats; everything else is text.  A number with a needless zero in front is text.
Integers are told apart by how wide they are.
-/
import Lookout.Text.Digit
import Lookout.Decimal.Read
import Lookout.Text.Quoted

namespace Lookout.Yaml

/-- What a scalar stands for. -/
inductive Scalar where
  | null
  | bool (b : Bool)
  /-- A natural number of 64 bits. -/
  | unsigned (n : Nat)
  /-- An integer of 64 bits with a minus sign. -/
  | signed (n : Int)
  /-- A natural number of 128 bits. -/
  | unsignedWide (n : Nat)
  /-- An integer of 128 bits with a minus sign. -/
  | signedWide (n : Int)
  | float (x : Float)
  | text (s : String)

namespace Scalar

/-! ### Words -/

/-- Whether a word stands for null. -/
def isNull (s : String) : Bool :=
  s = "~" || s = "null" || s = "Null" || s = "NULL"

/-- The truth value that a word stands for. -/
def bool? (s : String) : Option Bool :=
  if s = "true" || s = "True" || s = "TRUE" then some true
  else if s = "false" || s = "False" || s = "FALSE" then some false
  else none

/-! ### Integers -/

/-- Whether a text is a number but for a needless zero in front. -/
def isPadded (cs : List Char) : Bool :=
  let digits := match cs with
    | '-' :: rest | '+' :: rest => rest
    | _ => cs
  1 < digits.length && digits.head? = some '0' && digits.all Char.isDigit

/-- The number behind a prefix for its base. -/
def based? : List Char → Option Nat
  | '0' :: 'x' :: cs => numberIn? 16 cs
  | '0' :: 'o' :: cs => numberIn? 8 cs
  | '0' :: 'b' :: cs => numberIn? 2 cs
  | _ => none

/-- The natural number below a bound that a text writes, with a plus sign or without sign. -/
def unsigned? (bound : Nat) (cs : List Char) : Option Nat :=
  let digits := match cs with
    | '+' :: rest => rest
    | _ => cs
  match (based? digits).filter (· < bound) with
  | some n => some n
  | none => if isPadded cs then none else (numberIn? 10 digits).filter (· < bound)

/-- The integer not below the negative of a bound that a text writes with a minus sign. -/
def negative? (bound : Nat) : List Char → Option Int
  | '-' :: digits =>
    match (based? digits).filter (· ≤ bound) with
    | some n => some (-(n : Int))
    | none =>
      if isPadded ('-' :: digits) then none
      else ((numberIn? 10 digits).filter (· ≤ bound)).map fun n => -(n : Int)
  | _ => none

/-- The integer that a text writes, of the least width. -/
def integer? (cs : List Char) : Option Scalar :=
  match unsigned? 0x10000000000000000 cs, negative? 0x8000000000000000 cs with
  | some n, _ => some (.unsigned n)
  | none, some n => some (.signed n)
  | none, none =>
    match unsigned? (1 <<< 128) cs, negative? (1 <<< 127) cs with
    | some n, _ => some (.unsignedWide n)
    | none, some n => some (.signedWide n)
    | none, none => none

/-! ### Floats -/

/-- Whether a text is the word for infinity. -/
def isInfinity (cs : List Char) : Bool :=
  let s := String.ofList cs
  s = ".inf" || s = ".Inf" || s = ".INF"

/-- Whether a text is the word for NaN. -/
def isNan (cs : List Char) : Bool :=
  let s := String.ofList cs
  s = ".nan" || s = ".NaN" || s = ".NAN"

/-- The float without a plus sign that a text writes; it is finite unless written by a word. -/
def unmarkedFloat? (cs : List Char) : Option Float :=
  if isInfinity cs then some (1 / 0)
  else if isNan cs then some (0 / 0)
  else if cs.head? = some '-' && isInfinity cs.tail then some (-(1 / 0))
  else (Decimal.readFloat? cs).filter (·.isFinite)

/-- The float that a text writes. -/
def float? (cs : List Char) : Option Float :=
  match cs with
  | '+' :: rest =>
    if rest.head? = some '+' || rest.head? = some '-' then none
    else if isInfinity rest then some (1 / 0)
    else (Decimal.readFloat? rest).filter (·.isFinite)
  | _ => unmarkedFloat? cs

/-! ### Scalars -/

/-- What a plain text stands for. -/
def ofPlain (s : String) : Scalar :=
  let cs := s.toList
  if s.isEmpty || isNull s then .null
  else match bool? s with
    | some b => .bool b
    | none =>
      match integer? cs with
      | some scalar => scalar
      | none =>
        if isPadded cs then .text s
        else match float? cs with
          | some x => .float x
          | none => .text s

/-- The kinds of scalar that a tag asks for. -/
inductive Wanted where
  | bool | int | float | null
deriving DecidableEq, Repr

/-- The kind that a tag asks for. -/
def Wanted.ofTag? : String → Option Wanted
  | "tag:yaml.org,2002:bool" => some .bool
  | "tag:yaml.org,2002:int" => some .int
  | "tag:yaml.org,2002:float" => some .float
  | "tag:yaml.org,2002:null" => some .null
  | _ => none

/-- A kind in words. -/
def Wanted.name : Wanted → String
  | bool => "a boolean"
  | int => "an integer"
  | float => "a float"
  | null => "null"

/-- The scalar of a kind that a text stands for. -/
def Wanted.read? (s : String) : Wanted → Option Scalar
  | bool => (bool? s).map .bool
  | int => integer? s.toList
  | float => (float? s.toList).map .float
  | null => if isNull s then some .null else none

/-- Whether a tag is local to the document, so that it says nothing of the text. -/
def isLocalTag (tag : String) : Bool :=
  tag.toList.head? = some '!'

/-- The scalar of a text.  A tag may ask for a kind, which the text must then stand for; a
local tag counts for nothing, and any other makes it text. -/
def read (tag : Option String) (plain : Bool) (s : String) : Except Wanted Scalar :=
  match tag with
  | none => .ok (if plain then ofPlain s else .text s)
  | some name =>
    if isLocalTag name then .ok (if plain then ofPlain s else .text s)
    else match Wanted.ofTag? name with
      | none => .ok (.text s)
      | some wanted =>
        match wanted.read? s with
        | some scalar => .ok scalar
        | none => .error wanted

/-- A scalar where something else was expected. -/
def described : Scalar → String
  | null => "unit value"
  | bool b => "boolean `" ++ (if b then "true" else "false") ++ "`"
  | unsigned n => "integer `" ++ String.ofList (digitsOf n) ++ "`"
  | signed n => "integer `" ++ String.ofList (integerText n) ++ "`"
  | unsignedWide n => "integer `" ++ String.ofList (digitsOf n) ++ "` as u128"
  | signedWide n => "integer `" ++ String.ofList (integerText n) ++ "` as i128"
  | float x => "floating point `" ++ String.ofList (documentFloatText x) ++ "`"
  | text s => "string " ++ quoted s

end Scalar

end Lookout.Yaml
