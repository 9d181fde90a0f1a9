/-
Names outside ASCII written with letters and digits.

The characters of ASCII come first.  The others follow in the order of their code points, each
as the distance from the one before in a number system whose digits adapt to the distances.
-/

namespace Lookout

namespace Punycode

/-- The letter or digit of a value below 36. -/
def digit (d : Nat) : Char :=
  Char.ofNat (if d < 26 then 97 + d else 22 + d)

/-- The number of steps of 35 that bring a distance down, and the distance then. -/
def scaleDown : Nat → Nat → Nat → Nat × Nat
  | 0, delta, k => (delta, k)
  | fuel + 1, delta, k =>
    if 455 < delta then scaleDown fuel (delta / 35) (k + 36) else (delta, k)

/-- The bias after a distance, when `handled` characters are written. -/
def adapt (delta handled : Nat) (first : Bool) : Nat :=
  let delta := if first then delta / 700 else delta / 2
  let (delta, k) := scaleDown delta (delta + delta / handled) 0
  k + 36 * delta / (delta + 38)

/-- The digits of a distance. -/
def writeDelta : Nat → Nat → Nat → Nat → List Char
  | 0, _, _, _ => []
  | fuel + 1, bias, k, q =>
    let t := min 26 (max 1 (k - bias))
    if q < t then [digit q]
    else digit (t + (q - t) % (36 - t)) :: writeDelta fuel bias (k + 36) ((q - t) / (36 - t))

/-- How far the writing has come. -/
structure State where
  output : List Char
  delta : Nat
  bias : Nat
  handled : Nat

/-- The state after a character, when those with the code `code` are being written. -/
def step (basic code : Nat) (s : State) (c : Char) : State :=
  if c.toNat < code then { s with delta := s.delta + 1 }
  else if c.toNat = code then
    { output := s.output ++ writeDelta (s.delta + 1) s.bias 36 s.delta
      delta := 0
      bias := adapt s.delta (s.handled + 1) (s.handled = basic)
      handled := s.handled + 1 }
  else s

/-- The state after the characters of all codes in a list, which is in order. -/
def writeCodes (cs : List Char) (basic : Nat) : List Nat → Nat → State → State
  | [], _, s => s
  | code :: codes, next, s =>
    let s := { s with delta := s.delta + (code - next) * (s.handled + 1) }
    let s := cs.foldl (step basic code) s
    writeCodes cs basic codes (code + 1) { s with delta := s.delta + 1 }

/-- A name in letters and digits. -/
def encode (cs : List Char) : List Char :=
  let basic := cs.filter (·.toNat < 128)
  let codes := ((cs.filter (128 ≤ ·.toNat)).map Char.toNat).eraseDups.mergeSort
  let s := writeCodes cs basic.length codes 128 ⟨[], 0, 72, basic.length⟩
  basic ++ (if basic.isEmpty then [] else ['-']) ++ s.output

end Punycode

end Lookout
