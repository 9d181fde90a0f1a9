/-
Places in the text of a document.

A cursor is what is left of the text and how far it is into it: counted in characters from
the start, and in lines and columns.  Only a line break starts a new line; the pair of
carriage return and line feed is one break.
-/

namespace Lookout.Yaml

/-- Whether a character may occur in a document at all. -/
def isPrintable (c : Char) : Bool :=
  let n := c.toNat
  n = 0x09 || n = 0x0A || n = 0x0D || (0x20 ≤ n && n ≤ 0x7E) || n = 0x85
    || (0xA0 ≤ n && n ≤ 0xD7FF) || (0xE000 ≤ n && n ≤ 0xFFFD) || 0x10000 ≤ n

/-- Whether a character ends a line. -/
def isBreak (c : Char) : Bool :=
  c = '\n' || c = '\r' || c = '\u0085' || c = '\u2028' || c = '\u2029'

/-- Whether a character is a space or a tab. -/
def isGap (c : Char) : Bool :=
  c = ' ' || c = '\t'

/-- Whether a character parts words. -/
def isSpacing (c : Char) : Bool :=
  isGap c || isBreak c

/-- Whether a text ends or goes on with a space, a tab or a line break. -/
def wordEnds (cs : List Char) : Bool :=
  cs.head?.all isSpacing

/-- Whether a character may stand in a name. -/
def isNameChar (c : Char) : Bool :=
  c.isAlphanum || c = '-' || c = '_'

/-- A place in a text, and the text from there on. -/
structure Cursor where
  rest : List Char
  index : Nat
  line : Nat
  column : Nat

namespace Cursor

/-- The start of a text. -/
def ofText (cs : List Char) : Cursor :=
  ⟨cs, 0, 0, 0⟩

/-- The place behind some characters of the line. -/
def skip (n : Nat) (k : Cursor) : Cursor :=
  { k with rest := k.rest.drop n, index := k.index + n, column := k.column + n }

/-- The place at the start of the next line, `n` characters on. -/
def nextLine (n : Nat) (k : Cursor) : Cursor :=
  ⟨k.rest.drop n, k.index + n, k.line + 1, 0⟩

/-- The run of characters of the line that satisfy `p`, and the place behind it. -/
def run (p : Char → Bool) (k : Cursor) : List Char × Cursor :=
  let cs := k.rest.takeWhile fun c => !isBreak c && p c
  (cs, k.skip cs.length)

/-- Whether the text goes on with a character that satisfies `p`. -/
def sees (p : Char → Bool) (k : Cursor) : Bool :=
  k.rest.head?.any p

/-- Whether the text is at its end or at a line break. -/
def atLineEnd (k : Cursor) : Bool :=
  k.rest.head?.all isBreak

/-- The line break at this place as text, and the place behind it; nothing is passed where
there is none.  All breaks read as a line feed but the separators of lines and paragraphs,
which stay. -/
def lineBreak (k : Cursor) : List Char × Cursor :=
  match k.rest with
  | '\r' :: '\n' :: _ => (['\n'], k.nextLine 2)
  | c :: _ =>
    if !isBreak c then ([], k)
    else if c = '\u2028' || c = '\u2029' then ([c], k.nextLine 1)
    else (['\n'], k.nextLine 1)
  | [] => ([], k)

/-- The place behind the spaces and tabs of the line. -/
def skipGaps (k : Cursor) : Cursor :=
  (k.run isGap).2

/-- The place behind a comment, if one starts here. -/
def skipComment (k : Cursor) : Cursor :=
  if k.sees (· = '#') then (k.run fun _ => true).2 else k

/-- Whether a line starts here with one of the marks between documents. -/
def atMark (c : Char) (k : Cursor) : Bool :=
  k.column = 0 && k.rest.take 3 = [c, c, c] && wordEnds (k.rest.drop 3)

/-- Whether a document starts or ends here by its mark. -/
def atDocumentMark (k : Cursor) : Bool :=
  k.atMark '-' || k.atMark '.'

end Cursor

end Lookout.Yaml
