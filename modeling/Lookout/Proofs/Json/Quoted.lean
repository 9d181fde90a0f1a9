/-
A string that was quoted is read back as it was.

Quoting works character by character, and so does reading: what stands for a character is read as
that character, whatever comes behind it.  A quote inside the string is escaped, so the reader
takes none for the closing one.  Of the characters below the space seven have an escape of one
letter, and the others are written by their number in hexadecimal.
-/
import Lookout.Json.Reader
import Lookout.Json.Text

namespace Lookout.Json

theorem hexValue?_digitChar : ∀ n < 16, hexValue? (Nat.digitChar n) = some n := by decide

/-- A number below the space is read off its two digits, behind two zeros. -/
theorem readCodePoint_hexPair {n : Nat} (hn : n < 32) (cs : List Char) :
    readCodePoint ('0' :: '0' :: hexPair n ++ cs) = .ok (Char.ofNat n, cs) := by
  have hhigh := hexValue?_digitChar (n / 16 % 16) (Nat.mod_lt _ (by decide))
  have hlow := hexValue?_digitChar (n % 16) (Nat.mod_lt _ (by decide))
  have hzero := hexValue?_digitChar 0 (by decide)
  have hread : readHexFour ('0' :: '0' :: hexPair n ++ cs) = .ok (n, cs) := by
    unfold hexPair
    show readHexFour (Nat.digitChar 0 :: Nat.digitChar 0 :: _ :: _ :: cs) = _
    simp only [readHexFour, hzero, hhigh, hlow]
    rw [show 0 * 4096 + 0 * 256 + n / 16 % 16 * 16 + n % 16 = n by omega]
  have htrail : ¬ (0xDC00 ≤ n && n ≤ 0xDFFF) = true := by
    simp only [Bool.and_eq_true, decide_eq_true_eq]
    omega
  have hlead : ¬ (0xD800 ≤ n && n ≤ 0xDBFF) = true := by
    simp only [Bool.and_eq_true, decide_eq_true_eq]
    omega
  unfold readCodePoint
  rw [hread]
  show (if _ then _ else _) = _
  rw [if_neg htrail, if_neg hlead]

/-- What stands for a character inside quotes is read as that character. -/
theorem readString_escape (c : Char) (fuel : Nat) (cs : List Char) :
    readString (fuel + 1) (escape c ++ cs)
      = (readString fuel cs).map fun (ds, rest) => (c :: ds, rest) := by
  -- what is behind a backslash comes down to the character alone
  have hescaped : ∀ es : List Char, readEscape (es ++ cs) = .ok (c, cs) →
      readString (fuel + 1) ('\\' :: es ++ cs)
        = (readString fuel cs).map fun (ds, rest) => (c :: ds, rest) := by
    intro es hread
    show readString (fuel + 1) ('\\' :: (es ++ cs)) = _
    rw [readString, if_neg (by decide), if_pos rfl, hread]
    show (readString fuel cs).bind _ = _
    cases readString fuel cs with
    | error stop => rfl
    | ok found => rfl
  unfold escape
  split
  · exact hescaped ['"'] rfl
  · exact hescaped ['\\'] rfl
  · exact hescaped ['b'] rfl
  · exact hescaped ['f'] rfl
  · exact hescaped ['n'] rfl
  · exact hescaped ['r'] rfl
  · exact hescaped ['t'] rfl
  · case _ hquote hbackslash _ _ _ _ _ =>
    split
    · case isTrue hlow =>
      refine hescaped ('u' :: '0' :: '0' :: hexPair c.toNat) ?_
      show readCodePoint ('0' :: '0' :: hexPair c.toNat ++ cs) = _
      rw [readCodePoint_hexPair hlow, Char.ofNat_toNat]
    · case isFalse hlow =>
      show readString (fuel + 1) (c :: cs) = _
      rw [readString, if_neg hquote, if_neg hbackslash, if_neg hlow]
      cases readString fuel cs with
      | error stop => rfl
      | ok found => rfl

/-- Characters inside quotes are read one after the other up to the closing quote. -/
theorem readString_flatMap_escape (rest : List Char) : ∀ (s : List Char) (fuel : Nat),
    s.length < fuel → readString fuel (s.flatMap escape ++ '"' :: rest) = .ok (s, rest) := by
  intro s
  induction s with
  | nil =>
      intro fuel hfuel
      obtain ⟨f, rfl⟩ := Nat.exists_eq_add_one.mpr hfuel
      rfl
  | cons c s ih =>
      intro fuel hfuel
      obtain ⟨f, rfl⟩ := Nat.exists_eq_add_one.mpr (Nat.zero_lt_of_lt hfuel)
      rw [List.flatMap_cons, List.append_assoc, readString_escape,
        ih f (Nat.lt_of_succ_lt_succ hfuel)]
      rfl

theorem escape_ne_nil (c : Char) : escape c ≠ [] := by
  unfold escape
  split
  any_goals exact List.cons_ne_nil _ _
  split
  · exact List.cons_ne_nil _ _
  · exact List.cons_ne_nil _ _

theorem length_le_flatMap_escape (s : List Char) : s.length ≤ (s.flatMap escape).length := by
  induction s with
  | nil => exact Nat.le_refl _
  | cons c s ih =>
      have hpos := List.length_pos_iff.mpr (escape_ne_nil c)
      rw [List.flatMap_cons, List.length_append, List.length_cons]
      omega

/-- A quoted string and what is behind it. -/
theorem quote_append (s : String) (rest : List Char) :
    quote s ++ rest = '"' :: (s.toList.flatMap escape ++ '"' :: rest) := by
  unfold quote
  rw [List.append_assoc, List.cons_append]
  rfl

/-- **A string that was quoted is read back as it was**, whatever comes behind it. -/
theorem readQuoted_quote (s : String) (rest : List Char) :
    readQuoted (s.toList.flatMap escape ++ '"' :: rest) = .ok (s, rest) := by
  have hfuel : s.toList.length < (s.toList.flatMap escape ++ '"' :: rest).length + 1 := by
    have hle := length_le_flatMap_escape s.toList
    rw [List.length_append]
    omega
  unfold readQuoted
  rw [readString_flatMap_escape rest _ _ hfuel]
  show Except.ok (String.ofList s.toList, rest) = _
  rw [String.ofList_toList]

end Lookout.Json
