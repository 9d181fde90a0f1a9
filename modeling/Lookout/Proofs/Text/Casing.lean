/-
What is left alone when a text in upper case is put in upper case once more.

The upper case of a character may be any character, and several of them; but no image is a small
letter of ASCII.  That is read off the tables, of which only two runs lie near those letters.  A
character of ASCII that is not small is its own upper case, so a text all of whose characters are
of ASCII, as those of a token are, does not change once it is in upper case.
-/
import Lookout.Http.Token
import Lookout.Text.Casing

namespace Lookout

/-! ### Characters -/

/-- Whether a code point is that of a small letter of ASCII. -/
def IsSmall (code : Nat) : Prop :=
  97 ≤ code ∧ code ≤ 122

instance (code : Nat) : Decidable (IsSmall code) :=
  inferInstanceAs (Decidable (_ ∧ _))

theorem toUpper_of_not_small {c : Char} (h : ¬ IsSmall c.toNat) : c.toUpper = c := by
  unfold Char.toUpper
  rw [dif_neg]
  intro small
  exact h ⟨UInt32.le_iff_toNat_le.mp small.1, UInt32.le_iff_toNat_le.mp small.2⟩

/-- A code point stands for itself, or for the null character if it is none. -/
theorem toNat_ofNat_cases (code : Nat) :
    (Char.ofNat code).toNat = code ∨ (Char.ofNat code).toNat = 0 := by
  by_cases valid : code.isValidChar
  · have same : Char.ofNat code = Char.ofNatAux code valid := dif_pos valid
    left
    rw [same]
    rfl
  · have null : Char.ofNat code = Char.ofNat 0 := (dif_neg valid).trans rfl
    right
    rw [null]
    rfl

theorem not_small_ofNat {code : Nat} (h : ¬ IsSmall code) : ¬ IsSmall (Char.ofNat code).toNat := by
  rcases toNat_ofNat_cases code with same | null
  · rw [same]
    exact h
  · rw [null]
    decide

/-! ### The tables -/

/-- What the tables say of ASCII: the capitals are not small. -/
theorem upper_ascii :
    ∀ code < 128, ¬ IsSmall (Char.ofNat code).toUpper.toNat := by
  decide

/-- What the tables say of the characters with an image of several characters. -/
theorem upper_expansions :
    ∀ p ∈ upperExpansions, ∀ code ∈ p.2, ¬ IsSmall code := by
  decide +kernel

/-- What the tables say of a run: it lies within ASCII, or its images lie above the small letters
or below them. -/
theorem upper_runs :
    ∀ r ∈ upperRuns, r.last < 128 ∨ 122 < r.first + r.shift ∨ r.last + r.shift < 97 := by
  decide +kernel

theorem CaseRun.map_not_small {code : Nat} (h : 128 ≤ code) :
    ¬ IsSmall (CaseRun.map upperRuns code) := by
  unfold CaseRun.map IsSmall
  split
  · case h_1 r found =>
    have covered := List.find?_some found
    simp only [covers, Bool.and_eq_true, decide_eq_true_eq] at covered
    have bounds := upper_runs r (List.mem_of_find?_eq_some found)
    omega
  · omega

/-- No character has a small letter of ASCII in its upper case. -/
theorem not_small_of_mem_upperImage {c d : Char} (h : d ∈ upperImage c) : ¬ IsSmall d.toNat := by
  unfold upperImage at h
  by_cases ascii : c.toNat < 128
  · rw [if_pos ascii, List.mem_singleton] at h
    have capital := upper_ascii c.toNat ascii
    rw [Char.ofNat_toNat] at capital
    rw [h]
    exact capital
  · rw [if_neg ascii] at h
    unfold caseImage at h
    split at h
    · case h_1 codes found =>
      obtain ⟨code, hcode, rfl⟩ := List.mem_map.mp h
      obtain ⟨before, after, listed, -⟩ := List.lookup_eq_some_iff.mp found
      have mem : (c.toNat, codes) ∈ upperExpansions := by
        rw [listed]
        exact List.mem_append_right before List.mem_cons_self
      exact not_small_ofNat (upper_expansions _ mem code hcode)
    · rw [List.mem_singleton] at h
      rw [h]
      exact not_small_ofNat (CaseRun.map_not_small (Nat.le_of_not_lt ascii))

theorem upperImage_of_ascii {c : Char} (ascii : c.toNat < 128) (h : ¬ IsSmall c.toNat) :
    upperImage c = [c] := by
  unfold upperImage
  rw [if_pos ascii, toUpper_of_not_small h]

/-! ### Tokens -/

theorem ascii_of_isTokenChar {c : Char} (h : isTokenChar c = true) : c.toNat < 128 := by
  unfold isTokenChar at h
  rcases Bool.or_eq_true_iff.mp h with alnum | sign
  · have last : c.toNat ≤ 90 ∨ c.toNat ≤ 122 ∨ c.toNat ≤ 57 := by
      have alnum : ((c.isUpper || c.isLower) || c.isDigit) = true := alnum
      rcases Bool.or_eq_true_iff.mp alnum with alpha | digit
      · rcases Bool.or_eq_true_iff.mp alpha with upper | lower
        · have bounds : c.val ≥ 'A'.val ∧ c.val ≤ 'Z'.val := of_decide_eq_true upper
          exact Or.inl (UInt32.le_iff_toNat_le.mp bounds.2)
        · have bound : c.val ≤ 'z'.val := of_decide_eq_true (Bool.and_eq_true_iff.mp lower).2
          exact Or.inr (Or.inl (UInt32.le_iff_toNat_le.mp bound))
      · have bound : c.val ≤ '9'.val := of_decide_eq_true (Bool.and_eq_true_iff.mp digit).2
        exact Or.inr (Or.inr (UInt32.le_iff_toNat_le.mp bound))
    omega
  · have signs : tokenSigns.all (·.toNat < 128) = true := by decide
    exact of_decide_eq_true (List.all_eq_true.mp signs c (List.contains_iff_mem.mp sign))

namespace Text

/-- A text is its own upper case if each of its characters is one of ASCII and not small. -/
theorem toUpper_eq_self {s : String} (h : ∀ c ∈ s.toList, c.toNat < 128 ∧ ¬ IsSmall c.toNat) :
    toUpper s = s := by
  have same : s.toList.flatMap upperImage = s.toList := by
    generalize s.toList = cs at h
    induction cs with
    | nil => rfl
    | cons c cs ih =>
        obtain ⟨ascii, large⟩ := h c List.mem_cons_self
        rw [List.flatMap_cons, upperImage_of_ascii ascii large,
          ih fun d hd => h d (List.mem_cons_of_mem c hd)]
        rfl
  unfold toUpper
  rw [same, String.ofList_toList]

theorem not_small_of_mem_toUpper {s : String} {c : Char} (h : c ∈ (toUpper s).toList) :
    ¬ IsSmall c.toNat := by
  unfold toUpper at h
  rw [String.toList_ofList] at h
  obtain ⟨d, -, hd⟩ := List.mem_flatMap.mp h
  exact not_small_of_mem_upperImage hd

/-- **A token in upper case is its own upper case.** -/
theorem toUpper_toUpper_of_isToken {s : String} (h : isToken (toUpper s) = true) :
    toUpper (toUpper s) = toUpper s := by
  unfold isToken at h
  have tokenChars := List.all_eq_true.mp (Bool.and_eq_true_iff.mp h).2
  apply toUpper_eq_self
  intro c hc
  exact ⟨ascii_of_isTokenChar (tokenChars c hc), not_small_of_mem_toUpper hc⟩

end Text

end Lookout
