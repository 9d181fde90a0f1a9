/-
Numbers in JSON text.

Digits are gathered into a 64-bit significand for as long as they fit; those left over only
count towards the exponent.  A literal without fraction and exponent whose value fits a word
is an integer, except minus zero.  Every other literal is the float nearest to its
significand, scaled by one power of ten: the scaling rounds once more, so the result may lie
one float away from the one nearest to the literal.
-/
import Lookout.Value.Basic

namespace Lookout
namespace Json

/-- Why a text is not JSON. -/
inductive Fault where
  | endInList | endInObject | endInString | endInValue
  | expectedColon | expectedListComma | expectedObjectComma
  | expectedIdent | expectedValue
  | invalidEscape | invalidNumber | numberOutOfRange
  | controlCharacter | keyMustBeString
  | loneSurrogate | trailingComma | trailingCharacters | endOfHexEscape
  | tooDeep
deriving DecidableEq, Repr

/-- Where and why reading stopped: the characters not consumed, and whether the fault lies
in the next of them. -/
structure Stop where
  fault : Fault
  rest : List Char
  ahead : Bool

/-- A fault in what was just consumed. -/
def stopAfter {α : Type} (fault : Fault) (rest : List Char) : Except Stop α :=
  .error ⟨fault, rest, false⟩

/-- A fault in the character that comes next. -/
def stopBefore {α : Type} (fault : Fault) (rest : List Char) : Except Stop α :=
  .error ⟨fault, rest, true⟩

/-- Digits gathered into a significand for as long as it stays below `2 ^ 64`, and those
left over. -/
def gather (significand : Nat) : List Char → Nat × List Char
  | [] => (significand, [])
  | d :: ds =>
    let next := significand * 10 + (d.toNat - 48)
    if next < 0x10000000000000000 then gather next ds else (significand, d :: ds)

/-- `10 ^ e` as a float, for `e` up to 308. -/
def powerOfTen (e : Nat) : Float :=
  Float.ofScientific 1 false e

/-- `x · 10 ^ e`, dividing in steps of at most `10 ^ 308`; three steps reach zero. -/
def scaleDown : Nat → Float → Nat → Float
  | 0, x, _ => x
  | steps + 1, x, e =>
    if e ≤ 308 then x / powerOfTen e
    else if x == 0 then x
    else scaleDown steps (x / powerOfTen 308) (e - 308)

/-- The float of a significand and an exponent, or nothing when it overflows. -/
def scaled? (significand : Nat) (e : Int) : Option Float :=
  let x := Float.ofNat significand
  if 0 ≤ e then
    if x == 0 then some x
    else if 308 < e then none
    else
      let y := x * powerOfTen e.toNat
      if y.isFinite then some y else none
  else some (scaleDown 4 x (-e).toNat)

/-- A float with its sign. -/
def signed (negative : Bool) (x : Float) : Float :=
  if negative then -x else x

/-- The exponent part of a literal: its sign, then its digits. -/
structure Exponent where
  negative : Bool
  digits : List Char

/-- The value of an exponent, or nothing when it does not fit 32 bits. -/
def Exponent.value? (e : Exponent) : Option Int :=
  let n := Nat.ofDigitChars 10 e.digits 0
  if n < 0x80000000 then some (if e.negative then -(n : Int) else n) else none

/-- The parts of a number literal. -/
structure Literal where
  negative : Bool
  whole : List Char
  fraction : Option (List Char)
  exponent : Option Exponent

/-- The value of a float literal, or nothing when it is out of range. -/
def Literal.float? (l : Literal) : Option Float :=
  let (significand, extra) := gather 0 l.whole
  let fraction := l.fraction.getD []
  let (significand, left) := gather significand fraction
  let shift : Int := extra.length - ((fraction.length - left.length : Nat) : Int)
  let magnitude : Option Float :=
    match l.exponent with
    | none => scaled? significand shift
    | some e =>
      match e.value? with
      | some n => scaled? significand (shift + n)
      | none => if significand ≠ 0 && !e.negative then none else some 0
  magnitude.map (signed l.negative)

/-- The number that a float denotes; readers only meet finite ones. -/
def floatNumber (x : Float) : Number :=
  (Number.ofFloat? x).getD default

/-- The number of a literal. -/
def Literal.number? (l : Literal) : Option Number :=
  let n : Int := Nat.ofDigitChars 10 l.whole 0
  let integer : Option Number :=
    if l.fraction.isNone && l.exponent.isNone then
      if l.negative then (if n = 0 then none else Number.ofInt? (-n)) else Number.ofInt? n
    else none
  match integer with
  | some m => some m
  | none => l.float?.map floatNumber

/-- The exponent part, if one comes next. -/
def readExponent : List Char → Except Stop (Option Exponent × List Char)
  | [] => .ok (none, [])
  | c :: cs =>
    if c = 'e' || c = 'E' then
      let (negative, rest) :=
        match cs with
        | '+' :: r => (false, r)
        | '-' :: r => (true, r)
        | r => (false, r)
      match rest with
      | [] => stopAfter .endInValue []
      | d :: ds =>
        if d.isDigit then
          .ok (some ⟨negative, d :: ds.takeWhile Char.isDigit⟩, ds.dropWhile Char.isDigit)
        else stopAfter .invalidNumber ds
    else .ok (none, c :: cs)

/-- The fraction part, if one comes next. -/
def readFraction : List Char → Except Stop (Option (List Char) × List Char)
  | '.' :: cs =>
    match cs with
    | [] => stopBefore .endInValue []
    | d :: ds =>
      if d.isDigit then .ok (some (d :: ds.takeWhile Char.isDigit), ds.dropWhile Char.isDigit)
      else stopBefore .invalidNumber (d :: ds)
  | cs => .ok (none, cs)

/-- The digits before the point: a zero alone, or a run without a leading zero. -/
def readWhole : List Char → Except Stop (List Char × List Char)
  | [] => stopAfter .endInValue []
  | c :: cs =>
    if c = '0' then
      match cs with
      | d :: ds => if d.isDigit then stopBefore .invalidNumber (d :: ds) else .ok (['0'], cs)
      | [] => .ok (['0'], [])
    else if c.isDigit then .ok (c :: cs.takeWhile Char.isDigit, cs.dropWhile Char.isDigit)
    else stopAfter .invalidNumber cs

/-- A number whose sign has been read. -/
def readNumber (negative : Bool) (cs : List Char) : Except Stop (Number × List Char) := do
  let (whole, cs) ← readWhole cs
  let (fraction, cs) ← readFraction cs
  let (exponent, cs) ← readExponent cs
  match (Literal.mk negative whole fraction exponent).number? with
  | some n => .ok (n, cs)
  | none => stopAfter .numberOutOfRange cs

end Json
end Lookout
