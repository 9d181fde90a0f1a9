/-
Hosts: names, and addresses of four or sixteen bytes.

A name of a known scheme is decoded, mapped to lower case and written in ASCII; one that ends
in a number has to be an address.

Of the mapping of international names (IDNA) this is the part that names in practice need.  What
is left out of it is said at `mapChar` and `nameToAscii?`; names in ASCII are not affected by that,
unless a label of theirs starts with `xn--`.
-/
import Lookout.Text.Casing
import Lookout.Text.Printable
import Lookout.Url.Percent
import Lookout.Url.Punycode

namespace Lookout

/-- A host. -/
inductive Host where
  | name (text : String)
  /-- An address of four bytes, as a number. -/
  | four (n : Nat)
  /-- An address of sixteen bytes, as eight pieces. -/
  | six (pieces : List Nat)
deriving DecidableEq, Repr

namespace Host

/-! ### Names -/

/-- Whether a character never stands in a name of any scheme. -/
def isForbidden (c : Char) : Bool :=
  c = '\x00' || "\t\n\r #/:<>?@[\\]^|".toList.contains c

/-- Whether a character never stands in a name of a known scheme. -/
def isForbiddenInName (c : Char) : Bool :=
  isForbidden c || c.toNat < 0x20 || c = '%' || c.toNat = 0x7F

/-- A character of a name in its mapped form, which is empty for characters without
appearance.  It is one in lower case already.

Mapped are four characters without appearance, two full stops, and the wide forms of ASCII.  The
other characters that IDNA maps stand for themselves here: those that are compatible with others,
such as `①` with `1` and `ﬁ` with `fi`, and the other ones without appearance, such as the
selectors of variants.  Nor is a letter composed with the marks behind it.  A name with one of these
is written in another form than IDNA gives it. -/
def mapChar (c : Char) : List Char :=
  let n := c.toNat
  if n = 0xAD || n = 0x200B || n = 0x2060 || n = 0xFEFF then []
  else if n = 0x3002 || n = 0xFF61 then ['.']
  else if 0xFF01 ≤ n && n ≤ 0xFF5E then [(Char.ofNat (n - 0xFEE0)).toLower]
  else [c]

/-- A label in ASCII. -/
def labelToAscii (label : List Char) : List Char :=
  if label.all (·.toNat < 128) then label else "xn--".toList ++ Punycode.encode label

/-- A name in ASCII, if it may be one.

Refused are characters that cannot be shown, those that stand in no name, and an empty label behind
the prefix.  IDNA refuses more names, which are accepted here: those with a label that starts with
a mark, that joins or mixes directions of writing against the rules, or that comes with the prefix
and behind it what is not the form of a valid label. -/
def nameToAscii? (name : String) : Option (List Char) :=
  let cs := (Text.toLower name).toList.flatMap mapChar
  let labels := (cs.splitOn '.').map labelToAscii
  if cs.all fun c => !unprintable.contains c || c.toNat < 128 then
    let ascii := ['.'].intercalate labels
    if ascii.any isForbiddenInName || labels.any (· = "xn--".toList) then none else some ascii
  else none

/-! ### Addresses of four bytes -/

/-- A number in base ten, or with a prefix in base eight or sixteen. -/
def number? (cs : List Char) : Option Nat :=
  let (base, digits) := match cs with
    | '0' :: 'x' :: rest | '0' :: 'X' :: rest => (16, rest)
    | '0' :: rest => if rest.isEmpty then (10, cs) else (8, rest)
    | _ => (10, cs)
  if cs.isEmpty then none
  else if digits.isEmpty then some 0
  else numberIn? base digits

/-- The parts of a name between points, without an empty one at the end. -/
def parts (cs : List Char) : List (List Char) :=
  let ps := cs.splitOn '.'
  if 1 < ps.length && ps.getLast? = some [] then ps.dropLast else ps

/-- Whether a name ends in a number. -/
def endsInNumber (cs : List Char) : Bool :=
  match (parts cs).getLast? with
  | some label => (!label.isEmpty && label.all Char.isDigit) || (number? label).isSome
  | none => false

/-- The address of four bytes that a name writes: up to four numbers, the last of which fills
the bytes that are left. -/
def four? (cs : List Char) : Option Nat := do
  let numbers ← (parts cs).mapM number?
  let last ← numbers.getLast?
  let front := numbers.dropLast
  if 3 < front.length || front.any (255 < ·) then none
  else
    let room := Nat.pow 256 (4 - front.length)
    if last < room then some (front.foldl (fun n b => n * 256 + b) 0 * room + last) else none

/-! ### Addresses of sixteen bytes -/

/-- A piece: up to four hexadecimal digits. -/
def piece? (cs : List Char) : Option Nat :=
  if 4 < cs.length then none else numberIn? 16 cs

/-- A byte in base ten, without needless zeros. -/
def byte? (cs : List Char) : Option Nat :=
  if 1 < cs.length && cs.head? = some '0' then none else (numberIn? 10 cs).filter (· < 256)

/-- The two pieces of four bytes between points. -/
def dotted? (cs : List Char) : Option (List Nat) := do
  match ← (cs.splitOn '.').mapM byte? with
  | [a, b, c, d] => some [a * 256 + b, c * 256 + d]
  | _ => none

/-- The pieces between colons; where `last`, four bytes between points may end them. -/
def pieces? (last : Bool) (cs : List Char) : Option (List Nat) :=
  if cs.isEmpty then some []
  else do
    let groups := cs.splitOn ':'
    let front ← groups.dropLast.mapM piece?
    let final := groups.getLastD []
    if last && final.contains '.' then return front ++ (← dotted? final)
    else return front ++ [← piece? final]

/-- The parts of a text around its first pair of colons, if it has one. -/
def aroundGap : List Char → Option (List Char × List Char)
  | ':' :: ':' :: cs => some ([], cs)
  | c :: cs => (aroundGap cs).map fun (front, back) => (c :: front, back)
  | [] => none

/-- The address of sixteen bytes that a text writes; a pair of colons stands for the zeros
that are missing. -/
def six? (cs : List Char) : Option (List Nat) :=
  match aroundGap cs with
  | none => (pieces? true cs).filter (·.length = 8)
  | some (front, back) => do
    let front ← pieces? false front
    let back ← pieces? true back
    let count := front.length + back.length
    if 7 < count then none else some (front ++ List.replicate (8 - count) 0 ++ back)

/-- The length of the run of zeros at the start. -/
def zeros (pieces : List Nat) : Nat :=
  (pieces.takeWhile (· = 0)).length

/-- The longest run of zeros, the first one of several: its start and length. -/
def longestZeros (pieces : List Nat) : Nat × Nat :=
  (List.range pieces.length).foldl
    (fun best i =>
      let n := zeros (pieces.drop i)
      if best.2 < n then (i, n) else best)
    (0, 0)

/-- The hexadecimal digits of pieces between colons. -/
def piecesText (pieces : List Nat) : List Char :=
  [':'].intercalate (pieces.map (Nat.toDigits 16))

/-- An address of sixteen bytes; the longest run of zeros is left out if there are several in
it. -/
def sixText (pieces : List Nat) : List Char :=
  let (start, n) := longestZeros pieces
  if n < 2 then piecesText pieces
  else piecesText (pieces.take start) ++ [':', ':'] ++ piecesText (pieces.drop (start + n))

/-! ### Hosts -/

/-- The host between brackets. -/
def ofBracketed? (cs : List Char) : Option Host :=
  if cs.getLast? = some ']' then (six? cs.dropLast).map .six else none

/-- The host that a text writes; `known` if the scheme is a known one. -/
def ofText? (known : Bool) (cs : List Char) : Option Host :=
  match cs with
  | '[' :: rest => ofBracketed? rest
  | _ =>
    if !known then
      if cs.any isForbidden then none
      else some (.name (String.ofList (Percent.encode Percent.isControl cs)))
    else do
      let decoded ← decodeUtf8? (Percent.decode cs)
      let ascii ← nameToAscii? decoded
      if ascii.isEmpty then none
      else if endsInNumber ascii then (four? ascii).map .four
      else some (.name (String.ofList ascii))

/-- The text of a host. -/
def text : Host → String
  | name s => s
  | four n =>
    ".".intercalate
      [toString (n / 0x1000000), toString (n / 0x10000 % 256), toString (n / 0x100 % 256),
        toString (n % 256)]
  | six pieces => String.ofList ('[' :: sixText pieces ++ [']'])

end Host

end Lookout
