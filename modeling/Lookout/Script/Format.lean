/-
Texts put together from a pattern.

In a percent pattern each conversion takes the next item of a tuple, or the one datum given.
In a brace pattern each field names its datum by position, by place or by name.
-/
import Lookout.Script.Operators

namespace Lookout.Script

/-! ### Percent patterns -/

/-- The digits of an integer in a base, with a sign if it is negative. -/
def signedDigits (base : Nat) (n : Int) : List Char :=
  if n < 0 then '-' :: Nat.toDigits base n.natAbs else Nat.toDigits base n.natAbs

/-- The integer that a float has before the point. -/
def truncated (m : Machine) (x : Float) : Except Fault Int :=
  if x.isFinite then
    let a := Magnitude.ofBits x.toBits.toNat
    let n : Int := Magnitude.scaledUp a.significand a.exponent 0 / Magnitude.scaledUp 1 (-a.exponent) 0
    .ok (if x < 0 then -n else n)
  else .error (.notWhole (m.shown (.float x)))

/-- The text that a conversion makes of an integer. -/
def integerConversion (c : Char) (digits : Int → List Char) (d : Datum) :
    Except Fault (List Char) :=
  match d with
  | .int n => .ok (digits n)
  | d => .error (.unsupported ("format(%" ++ toString c ++ ")") d.typeName)

/-- The text that a conversion makes of a number. -/
def floatConversion (c : Char) (layout : Float → List Char) (d : Datum) :
    Except Fault (List Char) :=
  match Num.ofDatum? d with
  | some n => .ok (layout n.toFloat)
  | none => .error (.unsupported ("format(%" ++ toString c ++ ")") d.typeName)

/-- The text that a conversion makes of a datum; nothing if there is no such conversion. -/
def conversion? (m : Machine) (c : Char) : Option (Datum → Except Fault (List Char)) :=
  match c with
  | 's' => some fun d => .ok (m.plainText d).toList
  | 'r' => some fun d => .ok (m.shown d).toList
  | 'd' => some fun d =>
    match d with
    | .float x => (truncated m x).map integerText
    | d => integerConversion c integerText d
  | 'o' => some (integerConversion c (signedDigits 8))
  | 'x' => some (integerConversion c (signedDigits 16))
  | 'X' => some (integerConversion c fun n => (signedDigits 16 n).map Char.toUpper)
  | 'e' => some (floatConversion c (exponentText 'e'))
  | 'E' => some (floatConversion c (exponentText 'E'))
  | 'f' => some (floatConversion c sixPlacesText)
  | 'F' => some (floatConversion c sixPlacesText)
  | 'g' => some (floatConversion c (compactText 'e'))
  | 'G' => some (floatConversion c (compactText 'E'))
  | _ => none

/-- The text of a percent pattern filled with data. -/
def fillPercents (m : Machine) : List Char → List Datum → Except Fault (List Char)
  | [], [] => .ok []
  | [], _ :: _ => .error .tooManyArguments
  | '%' :: [], _ => .error .incompleteFormat
  | '%' :: '%' :: cs, ds => (fillPercents m cs ds).map ('%' :: ·)
  | '%' :: c :: cs, ds =>
    match conversion? m c with
    | none => .error (.unknownFormat c)
    | some convert =>
      match ds with
      | [] => .error .tooFewArguments
      | d :: ds => do
        let text ← convert d
        let rest ← fillPercents m cs ds
        .ok (text ++ rest)
  | c :: cs, ds => (fillPercents m cs ds).map (c :: ·)

/-- The text of a percent pattern filled with the items of a tuple, or with one datum. -/
def Eval.formatPercent (pattern : String) (d : Datum) : Eval Datum := do
  let data := match d with
    | .tuple items => items
    | d => [d]
  let text ← readOr fun m => fillPercents m pattern.toList data
  pure (.string (String.ofList text))

/-! ### Brace patterns -/

/-- A part of a brace pattern. -/
inductive PatternPart where
  | char (c : Char)
  | field (name : List Char)
deriving Repr

/-- The parts of a brace pattern up to the first fault, and that fault. -/
def patternParts (pattern : String) : Nat → List Char → List PatternPart × Option Fault
  | 0, _ => ([], none)
  | _ + 1, [] => ([], none)
  | fuel + 1, '{' :: '{' :: cs =>
    let (parts, fault) := patternParts pattern fuel cs
    (.char '{' :: parts, fault)
  | fuel + 1, '{' :: cs =>
    let name := cs.takeWhile (· != '}')
    match cs.dropWhile (· != '}') with
    | [] => ([], some .unmatchedBrace)
    | _ :: rest =>
      if name.contains '{' then ([], some .unmatchedBrace)
      else
        let (parts, fault) := patternParts pattern fuel rest
        (.field name :: parts, fault)
  | fuel + 1, '}' :: '}' :: cs =>
    let (parts, fault) := patternParts pattern fuel cs
    (.char '}' :: parts, fault)
  | _ + 1, '}' :: _ => ([], some (.standaloneBrace pattern))
  | fuel + 1, c :: cs =>
    let (parts, fault) := patternParts pattern fuel cs
    (.char c :: parts, fault)

/-- How the fields so far named their data. -/
inductive FieldOrder where
  | undecided
  | next (place : Nat)
  | byPlace

/-- The datum of a field, and the order from then on. -/
def fieldDatum (data : List Datum) (named : List (String × Datum)) (order : FieldOrder)
    (name : List Char) : Except Fault (Datum × FieldOrder) :=
  if name.isEmpty then
    match order with
    | .byPlace => .error .mixedNumbering
    | .undecided =>
      match data with
      | d :: _ => .ok (d, .next 1)
      | [] => .error .tooFewParams
    | .next i =>
      match data[i]? with
      | some d => .ok (d, .next (i + 1))
      | none => .error .tooFewParams
  else if name.all Char.isDigit then
    match order with
    | .next _ => .error .mixedNumbering
    | _ =>
      let i := Nat.ofDigitChars 10 name 0
      match data[i]? with
      | some d => .ok (d, .byPlace)
      | none => .error (.indexOutOfBound i)
  else
    match name.find? fun c => ['.', ',', '[', ']'].contains c with
    | some c => .error (.invalidFieldCharacter c)
    | none =>
      match named.lookup (String.ofList name) with
      | some d => .ok (d, order)
      | none => .error (.keyNotFound (String.ofList name))

/-- Whether a field shows its datum as the script would write it, and the name before the
mark. -/
def fieldConversion (field : List Char) : Except Fault (Bool × List Char) :=
  let name := field.takeWhile (· != '!')
  match field.dropWhile (· != '!') with
  | [] => .ok (false, name)
  | _ :: mark =>
    match mark with
    | ['s'] => .ok (false, name)
    | ['r'] => .ok (true, name)
    | _ => .error (.invalidConversion (String.ofList mark))

/-- The text of the parts of a brace pattern; a fault of the pattern comes after them. -/
def fillParts (m : Machine) (data : List Datum) (named : List (String × Datum))
    (fault : Option Fault) (order : FieldOrder) : List PatternPart → Except Fault (List Char)
  | [] =>
    match fault with
    | some f => .error f
    | none => .ok []
  | .char c :: parts => (fillParts m data named fault order parts).map (c :: ·)
  | .field field :: parts => do
    let (shows, name) ← fieldConversion field
    let (d, order) ← fieldDatum data named order name
    let rest ← fillParts m data named fault order parts
    .ok ((if shows then m.shown d else m.plainText d).toList ++ rest)

/-- The text of a brace pattern filled with data. -/
def Eval.formatBraces (pattern : String) (data : List Datum) (named : List (String × Datum)) :
    Eval Datum := do
  let (parts, fault) := patternParts pattern (pattern.length + 1) pattern.toList
  let text ← readOr fun m => fillParts m data named fault .undecided parts
  pure (.string (String.ofList text))

end Lookout.Script
