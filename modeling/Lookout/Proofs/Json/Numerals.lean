/-
The text of a number is read back.

It is a sign, if need be, and a numeral: characters without a space among them, the first of which
is a digit.  The digits of an integer stand for it, and nothing in its text is a point or an
exponent, so an integer is read back as it was.  The text of a float is read as a decimal and
rounded, and not each float comes out of this as it went in.  `ReadsBack` says of a number that it
does when its text is read on its own; then it does so in front of other characters too.
-/
import Mathlib.Data.List.TakeWhile
import Lookout.Json.Reader
import Lookout.Json.Text
import Lookout.Proofs.Json.Numbers

namespace Lookout

namespace Json

/-! ### Numerals -/

theorem not_isSpace_of_isDigit {c : Char} (h : c.isDigit = true) : isSpace c = false := by
  cases hspace : isSpace c with
  | false => rfl
  | true =>
      simp only [isSpace, Bool.or_eq_true, decide_eq_true_eq] at hspace
      rcases hspace with ((rfl | rfl) | rfl) | rfl
      all_goals exact absurd h (by decide)

theorem skipSpace_cons {c : Char} (h : isSpace c = false) (cs : List Char) :
    skipSpace (c :: cs) = c :: cs :=
  List.dropWhile_cons_of_neg (by rw [h]; exact Bool.false_ne_true)

/-- Characters without a space among them, the first of which is a digit. -/
structure Numeral (cs : List Char) : Prop where
  digit : ∃ d ds, cs = d :: ds ∧ d.isDigit = true
  unspaced : ∀ c ∈ cs, isSpace c = false

namespace Numeral

theorem append {cs ds : List Char} (h : Numeral cs) (hds : ∀ c ∈ ds, isSpace c = false) :
    Numeral (cs ++ ds) where
  digit := by
    obtain ⟨d, es, rfl, hd⟩ := h.digit
    exact ⟨d, es ++ ds, rfl, hd⟩
  unspaced := fun c hc => by
    rcases List.mem_append.mp hc with hc | hc
    · exact h.unspaced c hc
    · exact hds c hc

theorem take {cs : List Char} (h : Numeral cs) {k : Nat} (hk : 0 < k) : Numeral (cs.take k) where
  digit := by
    obtain ⟨d, ds, rfl, hd⟩ := h.digit
    obtain ⟨k, rfl⟩ := Nat.exists_eq_add_one.mpr hk
    exact ⟨d, ds.take k, rfl, hd⟩
  unspaced := fun c hc => h.unspaced c (List.mem_of_mem_take hc)

end Numeral

theorem isDigit_of_mem_digitsOf {n : Nat} {c : Char} (h : c ∈ digitsOf n) : c.isDigit = true :=
  Nat.isDigit_of_mem_toDigits (by decide) (by decide) h

theorem numeral_digitsOf (n : Nat) : Numeral (digitsOf n) where
  digit := by
    obtain ⟨d, ds, hds⟩ := List.exists_cons_of_ne_nil (Nat.toDigits_ne_nil (n := n) (b := 10))
    exact ⟨d, ds, hds, isDigit_of_mem_digitsOf (hds ▸ List.mem_cons_self)⟩
  unspaced := fun _ hc => not_isSpace_of_isDigit (isDigit_of_mem_digitsOf hc)

theorem numeral_zero : Numeral ['0'] := numeral_digitsOf 0

theorem unspaced_integerText (n : Int) : ∀ c ∈ integerText n, isSpace c = false := by
  intro c hc
  unfold integerText at hc
  split at hc
  · rcases List.mem_cons.mp hc with rfl | hc
    · rfl
    · exact (numeral_digitsOf _).unspaced c hc
  · exact (numeral_digitsOf _).unspaced c hc

theorem unspaced_replicate (k : Nat) : ∀ c ∈ List.replicate k '0', isSpace c = false :=
  fun c hc => by rw [List.eq_of_mem_replicate hc]; rfl

theorem unspaced_nil : ∀ c ∈ ([] : List Char), isSpace c = false :=
  fun c hc => by cases hc

theorem unspaced_cons {c : Char} {cs : List Char} (hc : isSpace c = false)
    (hcs : ∀ d ∈ cs, isSpace d = false) : ∀ d ∈ c :: cs, isSpace d = false :=
  List.forall_mem_cons.mpr ⟨hc, hcs⟩

theorem numeral_positional (d : Decimal) : Numeral d.positional := by
  have hdigits := numeral_digitsOf d.digits
  unfold Decimal.positional
  dsimp only
  split
  · split
    · exact numeral_zero
    · exact hdigits.append (unspaced_replicate _)
  · split
    · refine numeral_zero.append (unspaced_cons rfl ?_)
      exact List.forall_mem_append.mpr ⟨unspaced_replicate _, hdigits.unspaced⟩
    · case isFalse hlong =>
      refine (hdigits.take (by omega)).append (unspaced_cons rfl ?_)
      exact fun c hc => hdigits.unspaced c (List.mem_of_mem_drop hc)

theorem numeral_positionalWithFraction (d : Decimal) : Numeral d.positionalWithFraction := by
  unfold Decimal.positionalWithFraction
  split
  · exact (numeral_positional d).append (unspaced_cons rfl (unspaced_cons rfl unspaced_nil))
  · exact numeral_positional d

theorem numeral_scientific (plus : Bool) (d : Decimal) : Numeral (d.scientific plus) := by
  have hdigits := numeral_digitsOf d.digits
  unfold Decimal.scientific
  dsimp only
  rw [List.append_assoc, List.append_assoc, List.cons_append]
  refine (hdigits.take Nat.one_pos).append (List.forall_mem_append.mpr ⟨?_, ?_⟩)
  · split
    · exact unspaced_nil
    · exact unspaced_cons rfl fun c hc => hdigits.unspaced c (List.mem_of_mem_drop hc)
  · refine unspaced_cons rfl (List.forall_mem_append.mpr ⟨?_, unspaced_integerText _⟩)
    split
    · exact unspaced_cons rfl unspaced_nil
    · exact unspaced_nil

/-- A float is a numeral in either layout. -/
theorem numeral_layout (positional plus : Bool) (d : Decimal) :
    Numeral (if positional then d.positionalWithFraction else d.scientific plus) := by
  cases positional with
  | true => exact numeral_positionalWithFraction d
  | false => exact numeral_scientific plus d

/-- The sign in front of a numeral. -/
def signText (negative : Bool) : List Char :=
  if negative then ['-'] else []

/-- The text of a number is a sign, if need be, and a numeral. -/
theorem exists_numeral (n : Number) :
    ∃ negative body, n.text = signText negative ++ body ∧ Numeral body := by
  cases n with
  | int n h =>
      show ∃ negative body, integerText n = _ ∧ _
      unfold integerText
      split
      · exact ⟨true, _, rfl, numeral_digitsOf _⟩
      · exact ⟨false, _, rfl, numeral_digitsOf _⟩
  | float x h =>
      obtain ⟨body, hbody, htext⟩ : ∃ body, Numeral body ∧
          jsonFloat.text x = if hasSignBit x then '-' :: body else body :=
        ⟨_, numeral_layout _ _ _, rfl⟩
      show ∃ negative body, jsonFloat.text x = _ ∧ _
      rw [htext]
      split
      · exact ⟨true, body, rfl, hbody⟩
      · exact ⟨false, body, rfl, hbody⟩

/-! ### Numbers that are read back -/

/-- A numeral and its sign are read as a number. -/
theorem readValue_numeral (fuel depth : Nat) (negative : Bool) {body : List Char}
    (hbody : Numeral body) (rest : List Char) :
    readValue (fuel + 1) depth (signText negative ++ body ++ rest)
      = (readNumber negative (body ++ rest)).map fun (n, left) => (.number n, left) := by
  obtain ⟨d, ds, rfl, hd⟩ := hbody.digit
  cases negative with
  | true =>
      show readValue (fuel + 1) depth ('-' :: (d :: ds ++ rest)) = _
      unfold readValue
      rw [skipSpace_cons rfl]
      show Except.bind (readNumber true (d :: ds ++ rest)) _ = _
      cases readNumber true (d :: ds ++ rest) with
      | error stop => rfl
      | ok found => rfl
  | false =>
      show readValue (fuel + 1) depth (d :: (ds ++ rest)) = _
      have hne : ∀ c : Char, c.isDigit = false → d ≠ c := fun c hc hdc => by
        rw [hdc, hc] at hd
        cases hd
      unfold readValue
      rw [skipSpace_cons (not_isSpace_of_isDigit hd)]
      dsimp only
      rw [if_neg (hne 'n' rfl), if_neg (hne 't' rfl), if_neg (hne 'f' rfl), if_neg (hne '"' rfl),
        if_neg (hne '[' rfl), if_neg (hne '{' rfl), if_neg (hne '-' rfl), if_pos hd]
      show Except.bind (readNumber false (d :: ds ++ rest)) _ = _
      cases readNumber false (d :: ds ++ rest) with
      | error stop => rfl
      | ok found => rfl

/-- The digits of a number that is not zero start with another digit than zero. -/
theorem head?_digitsOf_ne {n : Nat} (hn : 0 < n) : (digitsOf n).head? ≠ some '0' := by
  induction n using Nat.strongRecOn with
  | ind n ih =>
      unfold digitsOf
      by_cases hsmall : n < 10
      · rw [Nat.toDigits_of_lt_base hsmall]
        intro hzero
        exact absurd (Nat.digitChar_eq_zero.mp (Option.some.inj hzero)) (Nat.ne_of_gt hn)
      · have hlarge : 10 ≤ n := Nat.le_of_not_lt hsmall
        have hfront := ih (n / 10) (Nat.div_lt_self hn (by decide)) (Nat.div_pos hlarge (by decide))
        obtain ⟨d, ds, hds⟩ := List.exists_cons_of_ne_nil
          (Nat.toDigits_ne_nil (n := n / 10) (b := 10))
        rw [Nat.toDigits_of_base_le (by decide) hlarge, hds]
        unfold digitsOf at hfront
        rw [hds] at hfront
        exact hfront

/-- The digits of a number are read to their end. -/
theorem readWhole_digitsOf (n : Nat) : readWhole (digitsOf n) = .ok (digitsOf n, []) := by
  by_cases hn : 0 < n
  · obtain ⟨d, ds, hds, hd⟩ := (numeral_digitsOf n).digit
    have hzero : d ≠ '0' := fun h => head?_digitsOf_ne hn (by rw [hds, h]; rfl)
    have hall : ∀ c ∈ ds, c.isDigit = true := fun c hc =>
      isDigit_of_mem_digitsOf (hds ▸ List.mem_cons_of_mem d hc)
    rw [hds]
    unfold readWhole
    dsimp only
    rw [if_neg hzero, if_pos hd, List.takeWhile_eq_self_iff.mpr hall,
      List.dropWhile_eq_nil_iff.mpr hall]
  · rw [Nat.eq_zero_of_not_pos hn]
    rfl

/-- The sign and the digits of an integer that fits a word are read as that integer. -/
theorem readNumber_integer {n : Int} (h : FitsWord n) :
    readNumber (decide (n < 0)) (digitsOf n.natAbs) = .ok (.int n h, []) := by
  have hnumber : (Literal.mk (decide (n < 0)) (digitsOf n.natAbs) none none).number?
      = some (.int n h) := by
    have hdigits : Nat.ofDigitChars 10 (digitsOf n.natAbs) 0 = n.natAbs :=
      Nat.ofDigitChars_ten_toDigits
    have hfits : Number.ofInt? n = some (.int n h) := dif_pos h
    unfold Literal.number?
    simp only [Option.isNone_none, Bool.and_self, ↓reduceIte]
    rw [hdigits]
    by_cases hneg : n < 0
    · have habs : -((n.natAbs : Nat) : Int) = n := by omega
      have hne : ¬ ((n.natAbs : Nat) : Int) = 0 := by omega
      rw [decide_eq_true hneg, if_pos rfl, if_neg hne, habs, hfits]
    · have habs : ((n.natAbs : Nat) : Int) = n := by omega
      rw [decide_eq_false hneg, if_neg Bool.false_ne_true, habs, hfits]
  exact readNumber_of_parts (readWhole_digitsOf _) rfl rfl hnumber

end Json

namespace Number

/-- Read on its own, the text of the number is the number again. -/
def ReadsBack (n : Number) : Prop :=
  Value.ofJson? (Value.number n).display = some (.number n)

end Number

namespace Json

/-- A text that is decoded into a value is a document of that value. -/
theorem readText_of_ofJson? {cs : List Char} {v : Value}
    (h : Value.ofJson? (String.ofList cs) = some v) :
    ∃ document, readText cs = .ok document ∧ document.toValue = v := by
  obtain ⟨document, hparse, hvalue⟩ := eq_ok_of_toOption_map h
  refine ⟨document, ?_, hvalue⟩
  unfold parse at hparse
  dsimp only at hparse
  rw [String.toList_ofList] at hparse
  split at hparse
  · case _ found hfound =>
    cases hparse
    exact hfound
  · cases hparse

/-- Only a number decodes into a number. -/
theorem eq_number_of_toValue {document : JsonDocument} {n : Number}
    (h : document.toValue = .number n) : document = .number n := by
  cases document with
  | number m => cases h; rfl
  | _ => cases h

/-- A numeral that is read as a number is read to its end. -/
theorem readNumber_of_readText {negative : Bool} {body : List Char} (hbody : Numeral body)
    {n : Number} (h : readText (signText negative ++ body) = .ok (.number n)) :
    readNumber negative body = .ok (n, []) := by
  unfold readText at h
  obtain ⟨⟨document, left⟩, hvalue, h⟩ := bind_eq_ok h
  have hread := readValue_numeral (2 * (signText negative ++ body).length + 1) depthBound negative
    hbody []
  rw [List.append_nil, List.append_nil, hvalue] at hread
  cases hnumber : readNumber negative body with
  | error stop =>
      rw [hnumber] at hread
      cases hread
  | ok found =>
      obtain ⟨m, behind⟩ := found
      rw [hnumber] at hread
      cases hread
      dsimp only at h
      split at h
      · case _ hbehind =>
        cases h
        -- what was left is unspaced, so nothing was
        cases left with
        | nil => rfl
        | cons c cs =>
            have hc := hbody.unspaced c ((readNumber_suffix hnumber).subset List.mem_cons_self)
            rw [skipSpace_cons hc] at hbehind
            cases hbehind
      · cases h

/-- What a number that is read back from its text was read from. -/
theorem exists_readNumber {n : Number} (h : ∀ x hx, n = .float x hx → n.ReadsBack) :
    ∃ negative body, n.text = signText negative ++ body ∧ Numeral body ∧
      readNumber negative body = .ok (n, []) := by
  cases n with
  | int n hn =>
      refine ⟨decide (n < 0), digitsOf n.natAbs, ?_, numeral_digitsOf _, readNumber_integer hn⟩
      show integerText n = _
      unfold integerText signText
      by_cases hneg : n < 0
      · rw [if_pos hneg, decide_eq_true hneg, if_pos rfl]
        rfl
      · rw [if_neg hneg, decide_eq_false hneg, if_neg Bool.false_ne_true]
        rfl
  | float x hx =>
      obtain ⟨negative, body, htext, hbody⟩ := exists_numeral (.float x hx)
      obtain ⟨document, hread, hvalue⟩ := readText_of_ofJson? (h x hx rfl)
      rw [eq_number_of_toValue hvalue] at hread
      refine ⟨negative, body, htext, hbody, readNumber_of_readText hbody ?_⟩
      rw [← htext]
      exact hread

end Json
end Lookout
