/-
What is written as bytes is read back as it was.

The bytes of a character are read with anything behind them: the lead byte tells how many bytes
there are, and what is behind the last one is left for the next character.  The range of the byte
after the lead leaves out the forms that are too long, the surrogates and what is beyond the last
code point, and a character's own bytes are none of these.  The bytes of a text are then read
character by character, and no part of them is an invalid one.
-/
import Lookout.Text.Utf8

namespace Lookout

namespace Utf8

/-! ### The bytes of one character -/

/-- A continuation byte adds its six bits. -/
theorem continueWith_cons (code count : Nat) {bits : Nat} (h : bits < 64) (rest : List Nat) :
    continueWith code (count + 1) ((0x80 + bits) :: rest)
      = continueWith (code * 64 + bits) count rest := by
  rw [continueWith, if_pos (by simp only [Bool.and_eq_true, decide_eq_true_eq]; omega)]
  congr 2
  omega

/-- A lead byte and the byte behind it start a character; the other bytes continue it. -/
theorem next_of_secondByte? {lead low high more b : Nat} (rest : List Nat) (multi : 0x80 ≤ lead)
    (range : secondByte? lead = some (low, high, more)) (hlow : low ≤ b) (hhigh : b ≤ high) :
    next lead (b :: rest) =
      ((continueWith (lead % (if more = 0 then 32 else if more = 1 then 16 else 8) * 64 + b % 64)
          more rest).1.map Char.ofNat,
        (continueWith (lead % (if more = 0 then 32 else if more = 1 then 16 else 8) * 64 + b % 64)
          more rest).2) := by
  unfold next
  rw [if_neg (by omega), range]
  exact if_pos (by simp only [Bool.and_eq_true, decide_eq_true_eq]; omega)

theorem next_two {n : Nat} (low : 0x80 ≤ n) (high : n < 0x800) (rest : List Nat) :
    next (0xC0 + n / 64) ((0x80 + n % 64) :: rest) = (some (Char.ofNat n), rest) := by
  have range : secondByte? (0xC0 + n / 64) = some (0x80, 0xBF, 0) := by grind [secondByte?]
  have code : (0xC0 + n / 64) % 32 * 64 + (0x80 + n % 64) % 64 = n := by omega
  rw [next_of_secondByte? rest (by omega) range (by omega) (by omega), if_pos rfl, code]
  rfl

/-- Surrogates are no characters, and their bytes are left out. -/
theorem next_three {n : Nat} (low : 0x800 ≤ n) (high : n < 0x10000)
    (valid : n < 0xD800 ∨ 0xDFFF < n) (rest : List Nat) :
    next (0xE0 + n / 4096) ((0x80 + n / 64 % 64) :: (0x80 + n % 64) :: rest)
      = (some (Char.ofNat n), rest) := by
  obtain ⟨least, most, range, hleast, hmost⟩ : ∃ least most,
      secondByte? (0xE0 + n / 4096) = some (least, most, 1) ∧
        least ≤ 0x80 + n / 64 % 64 ∧ 0x80 + n / 64 % 64 ≤ most := by
    -- the first lead leaves out what two bytes can write, the lead D the surrogates
    by_cases first : n / 4096 = 0
    · exact ⟨0xA0, 0xBF, by rw [first]; rfl, by omega, by omega⟩
    by_cases surrogates : n / 4096 = 0xD
    · exact ⟨0x80, 0x9F, by rw [surrogates]; rfl, by omega, by omega⟩
    · exact ⟨0x80, 0xBF, by grind [secondByte?], by omega, by omega⟩
  have code : ((0xE0 + n / 4096) % 16 * 64 + (0x80 + n / 64 % 64) % 64) * 64 + n % 64 = n := by
    omega
  rw [next_of_secondByte? _ (by omega) range hleast hmost, if_neg (by decide), if_pos rfl,
    continueWith_cons _ _ (Nat.mod_lt _ (by decide)), code]
  rfl

/-- There are no characters beyond the last code point. -/
theorem next_four {n : Nat} (low : 0x10000 ≤ n) (high : n < 0x110000) (rest : List Nat) :
    next (0xF0 + n / 262144)
        ((0x80 + n / 4096 % 64) :: (0x80 + n / 64 % 64) :: (0x80 + n % 64) :: rest)
      = (some (Char.ofNat n), rest) := by
  obtain ⟨least, most, range, hleast, hmost⟩ : ∃ least most,
      secondByte? (0xF0 + n / 262144) = some (least, most, 2) ∧
        least ≤ 0x80 + n / 4096 % 64 ∧ 0x80 + n / 4096 % 64 ≤ most := by
    -- the first lead leaves out what three bytes can write, the last what no code point is
    by_cases first : n / 262144 = 0
    · exact ⟨0x90, 0xBF, by rw [first]; rfl, by omega, by omega⟩
    by_cases last : n / 262144 = 4
    · exact ⟨0x80, 0x8F, by rw [last]; rfl, by omega, by omega⟩
    · exact ⟨0x80, 0xBF, by grind [secondByte?], by omega, by omega⟩
  have code : (((0xF0 + n / 262144) % 8 * 64 + (0x80 + n / 4096 % 64) % 64) * 64
      + n / 64 % 64) * 64 + n % 64 = n := by
    omega
  rw [next_of_secondByte? _ (by omega) range hleast hmost, if_neg (by decide), if_neg (by decide),
    continueWith_cons _ _ (Nat.mod_lt _ (by decide)),
    continueWith_cons _ _ (Nat.mod_lt _ (by decide)), code]
  rfl

/-- The bytes of a character are read as that character, and nothing behind them is. -/
theorem exists_next_utf8Bytes (c : Char) : ∃ lead bytes, utf8Bytes c = lead :: bytes ∧
    ∀ rest, next lead (bytes ++ rest) = (some c, rest) := by
  have valid : c.toNat < 0xD800 ∨ 0xDFFF < c.toNat ∧ c.toNat < 0x110000 := c.valid
  have same : Char.ofNat c.toNat = c := Char.ofNat_toNat c
  by_cases one : c.toNat < 0x80
  · refine ⟨_, [], if_pos one, fun rest => ?_⟩
    unfold next
    rw [if_pos one, same, List.nil_append]
  by_cases two : c.toNat < 0x800
  · refine ⟨_, _, (if_neg one).trans (if_pos two), fun rest => ?_⟩
    rw [List.singleton_append, next_two (by omega) two, same]
  by_cases three : c.toNat < 0x10000
  · refine ⟨_, _, (if_neg one).trans ((if_neg two).trans (if_pos three)), fun rest => ?_⟩
    exact (next_three (by omega) three (by omega) rest).trans (by rw [same])
  · refine ⟨_, _, (if_neg one).trans ((if_neg two).trans (if_neg three)), fun rest => ?_⟩
    exact (next_four (by omega) (by omega) rest).trans (by rw [same])

/-! ### The bytes of a text -/

/-- The parts of written characters are these characters, as long as there is a unit of fuel for
each byte. -/
theorem parts_flatMap_utf8Bytes : ∀ (cs : List Char) (fuel : Nat),
    (cs.flatMap utf8Bytes).length ≤ fuel → parts fuel (cs.flatMap utf8Bytes) = cs.map some := by
  intro cs
  induction cs with
  | nil =>
    intro fuel _
    cases fuel <;> rfl
  | cons c cs ih =>
    intro fuel enough
    obtain ⟨lead, bytes, written, read⟩ := exists_next_utf8Bytes c
    rw [List.flatMap_cons, written, List.cons_append] at enough ⊢
    rw [List.length_cons, List.length_append] at enough
    obtain ⟨fuel, rfl⟩ : ∃ f, fuel = f + 1 := Nat.exists_eq_add_of_le' (by omega)
    rw [parts, read, List.map_cons]
    exact congrArg (some c :: ·) (ih fuel (by omega))

end Utf8

/-- **A text is read back from its bytes.** -/
theorem decodeUtf8?_flatMap (cs : List Char) :
    decodeUtf8? (cs.flatMap utf8Bytes) = some (String.ofList cs) := by
  rw [decodeUtf8?, Utf8.parts_flatMap_utf8Bytes cs _ (Nat.le_refl _)]
  have all : (cs.map some).mapM id = some cs := by
    rw [List.mapM_map]
    exact (List.mapM_pure (m := Option) (f := id)).trans (congrArg some (List.map_id cs))
  rw [all]
  rfl

/-- A lenient reader changes nothing in a text. -/
theorem decodeLossy_flatMap (cs : List Char) :
    decodeLossy (cs.flatMap utf8Bytes) = String.ofList cs := by
  rw [decodeLossy, Utf8.parts_flatMap_utf8Bytes cs _ (Nat.le_refl _), List.map_map]
  exact congrArg String.ofList (List.map_id cs)

end Lookout
