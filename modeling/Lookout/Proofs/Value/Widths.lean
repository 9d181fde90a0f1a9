/-
One integer, handed over in different widths.

An integer that fits a word should be that number whatever width it comes in, and any other
integer its decimal digits.  Of the four widths three keep to this.  A signed integer of 128 bits
is only tried as a signed word, so that one which needs all 64 bits of an unsigned word comes out
as text, while the same integer is a number in every other width that holds it.
-/
import Lookout.Value.Token
import Lookout.Yaml.Tree

namespace Lookout

/-! ### Widths -/

/-- The widths in which a format hands an integer over. -/
inductive IntegerWidth where
  | signed64
  | unsigned64
  | signed128
  | unsigned128
deriving DecidableEq, Repr

namespace IntegerWidth

/-- The least integer of a width. -/
def least : IntegerWidth → Int
  | signed64 => -0x8000000000000000
  | signed128 => -0x80000000000000000000000000000000
  | unsigned64 | unsigned128 => 0

/-- The greatest integer of a width. -/
def greatest : IntegerWidth → Int
  | signed64 => 0x7fffffffffffffff
  | unsigned64 => 0xffffffffffffffff
  | signed128 => 0x7fffffffffffffffffffffffffffffff
  | unsigned128 => 0xffffffffffffffffffffffffffffffff

/-- Whether a width has room for an integer. -/
def Holds (w : IntegerWidth) (n : Int) : Prop :=
  w.least ≤ n ∧ n ≤ w.greatest

instance (w : IntegerWidth) (n : Int) : Decidable (w.Holds n) :=
  inferInstanceAs (Decidable (_ ∧ _))

/-- An integer as it is handed over in a width. -/
def token : IntegerWidth → Int → Token
  | signed64, n | unsigned64, n => .word n
  | signed128, n => .signedWide n
  | unsigned128, n => .unsignedWide n.toNat

end IntegerWidth

/-- Whether an integer fits a word, but no signed one. -/
def OnlyUnsigned (n : Int) : Prop :=
  0x8000000000000000 ≤ n ∧ n < 0x10000000000000000

instance (n : Int) : Decidable (OnlyUnsigned n) :=
  inferInstanceAs (Decidable (_ ∧ _))

theorem OnlyUnsigned.fits {n : Int} (only : OnlyUnsigned n) : FitsWord n := by
  unfold OnlyUnsigned at only
  unfold FitsWord
  omega

theorem OnlyUnsigned.unsigned64 {n : Int} (only : OnlyUnsigned n) :
    IntegerWidth.unsigned64.Holds n := by
  unfold OnlyUnsigned at only
  simp only [IntegerWidth.Holds, IntegerWidth.least, IntegerWidth.greatest]
  omega

theorem OnlyUnsigned.signed128 {n : Int} (only : OnlyUnsigned n) :
    IntegerWidth.signed128.Holds n := by
  unfold OnlyUnsigned at only
  simp only [IntegerWidth.Holds, IntegerWidth.least, IntegerWidth.greatest]
  omega

/-! ### Digits -/

theorem ofList_digitsOf (n : Nat) : String.ofList (digitsOf n) = toString n := rfl

/-- The decimal text of an integer is what it prints as. -/
theorem ofList_integerText (n : Int) : String.ofList (integerText n) = toString n := by
  unfold integerText
  cases n with
  | ofNat m =>
      have nonneg : ¬ Int.ofNat m < 0 := Int.not_lt.mpr (Int.natCast_nonneg m)
      rw [if_neg nonneg]
      exact ofList_digitsOf m
  | negSucc m =>
      rw [if_pos (Int.negSucc_lt_zero m), String.ofList_cons]
      rfl

namespace Value

/-! ### Numbers and texts -/

/-- What an integer stands for: itself if it fits a word, else its decimal digits. -/
def integer (n : Int) : Value :=
  if fits : FitsWord n then number (.int n fits) else string (toString n)

theorem integer_of_fits {n : Int} (fits : FitsWord n) : integer n = number (.int n fits) := by
  unfold integer
  rw [dif_pos fits]

theorem integer_of_not_fits {n : Int} (big : ¬ FitsWord n) : integer n = string (toString n) := by
  unfold integer
  rw [dif_neg big]

theorem ofInt_eq_integer (n : Int) : ofInt n = integer n := by
  unfold ofInt Number.ofInt?
  by_cases fits : FitsWord n
  · rw [dif_pos fits, integer_of_fits fits]
  · rw [dif_neg fits, integer_of_not_fits fits, ← ofList_integerText]

theorem integer_ne_string {n : Int} (fits : FitsWord n) (s : String) : integer n ≠ string s := by
  rw [integer_of_fits fits]
  intro same
  cases same

/-- A signed wide integer is taken for text although it fits a word, if no signed word holds it. -/
theorem ofSignedWide_eq (n : Int) :
    ofSignedWide n = if OnlyUnsigned n then string (toString n) else integer n := by
  unfold ofSignedWide
  by_cases signed : -0x8000000000000000 ≤ n ∧ n < 0x8000000000000000
  · have notOnly : ¬ OnlyUnsigned n := by
      unfold OnlyUnsigned
      omega
    rw [if_pos (by simpa using signed), if_neg notOnly, ofInt_eq_integer]
  · rw [if_neg (by simpa using signed), ofList_integerText]
    by_cases only : OnlyUnsigned n
    · rw [if_pos only]
    · have big : ¬ FitsWord n := by
        unfold FitsWord
        unfold OnlyUnsigned at only
        omega
      rw [if_neg only, integer_of_not_fits big]

theorem ofUnsignedWide_eq (n : Nat) : ofUnsignedWide n = integer n := by
  unfold ofUnsignedWide
  by_cases small : n < 0x10000000000000000
  · rw [if_pos small, ofInt_eq_integer]
  · have big : ¬ FitsWord n := by
      unfold FitsWord
      omega
    rw [if_neg small, integer_of_not_fits big, ofList_digitsOf]
    rfl

/-! ### Tokens of integers -/

/-- The value of an integer of any width. -/
theorem ofToken?_token {w : IntegerWidth} {n : Int} (held : w.Holds n) :
    ofToken? (w.token n) =
      some (if w = .signed128 ∧ OnlyUnsigned n then string (toString n) else integer n) := by
  cases w with
  | signed64 =>
      simp only [IntegerWidth.token, ofToken?, ofInt_eq_integer]
      rfl
  | unsigned64 =>
      simp only [IntegerWidth.token, ofToken?, ofInt_eq_integer]
      rfl
  | signed128 =>
      simp only [IntegerWidth.token, ofToken?, ofSignedWide_eq, true_and]
  | unsigned128 =>
      have nonneg : 0 ≤ n := held.1
      simp only [IntegerWidth.token, ofToken?, ofUnsignedWide_eq, Int.toNat_of_nonneg nonneg]
      rfl

/-- **An integer has the same value in every width, except that a signed wide one is text if it
fits a word but no signed word.**  So all the widths that hold an integer agree on it just when it
is no such integer; and the tree of a document gives an integer of a word the value that the other
widths give it. -/
theorem integer_widths {w : IntegerWidth} {n : Int} (held : w.Holds n) :
    (ofToken? (w.token n) = some (integer n) ↔ ¬ (w = .signed128 ∧ OnlyUnsigned n)) ∧
      (w = .signed128 ∧ OnlyUnsigned n → ofToken? (w.token n) = some (string (toString n))) ∧
      ((∀ v : IntegerWidth, v.Holds n → ofToken? (v.token n) = ofToken? (w.token n)) ↔
        ¬ OnlyUnsigned n) ∧
      (FitsWord n → (Yaml.Tree.int n).toValue = integer n) := by
  refine ⟨?_, ?_, ?_, ?_⟩
  · rw [ofToken?_token held]
    by_cases narrow : w = .signed128 ∧ OnlyUnsigned n
    · rw [if_pos narrow]
      have differ := integer_ne_string narrow.2.fits (toString n)
      simp only [Option.some.injEq, differ.symm, narrow, and_self, not_true_eq_false]
    · rw [if_neg narrow]
      exact iff_of_true rfl narrow
  · intro narrow
    rw [ofToken?_token held, if_pos narrow]
  · constructor
    · intro agree only
      -- Both the unsigned word and the signed wide integer hold it, and tell it apart.
      have same := (agree .unsigned64 only.unsigned64).trans (agree .signed128 only.signed128).symm
      rw [ofToken?_token only.unsigned64, ofToken?_token only.signed128, if_neg (by simp),
        if_pos ⟨rfl, only⟩] at same
      exact integer_ne_string only.fits _ (Option.some.inj same)
    · intro notOnly v holds
      rw [ofToken?_token holds, ofToken?_token held, if_neg fun c => notOnly c.2,
        if_neg fun c => notOnly c.2]
  · intro _
    exact ofInt_eq_integer n

/-- The least integer beyond 64 signed bits, handed over in the four widths. -/
theorem integer_widths_beyond :
    ofToken? (IntegerWidth.unsigned64.token 0x8000000000000000) =
        some (number (.int 0x8000000000000000 (by decide))) ∧
      ofToken? (IntegerWidth.unsigned128.token 0x8000000000000000) =
        some (number (.int 0x8000000000000000 (by decide))) ∧
      ofToken? (IntegerWidth.signed128.token 0x8000000000000000) =
        some (string (toString (0x8000000000000000 : Int))) := by
  refine ⟨?_, ?_, ?_⟩
  · exact ((integer_widths (by decide)).1.mpr (by decide)).trans
      (congrArg some (integer_of_fits (by decide)))
  · exact ((integer_widths (by decide)).1.mpr (by decide)).trans
      (congrArg some (integer_of_fits (by decide)))
  · exact (integer_widths (by decide)).2.1 (by decide)

/-- Two widths that hold one integer and give it different values. -/
theorem integer_two_values :
    ¬ ∀ (n : Int) (v w : IntegerWidth), v.Holds n → w.Holds n →
        ofToken? (v.token n) = ofToken? (w.token n) := by
  intro agree
  have same := agree 0x8000000000000000 .unsigned64 .signed128 (by decide) (by decide)
  rw [ofToken?_token (by decide), ofToken?_token (by decide), if_neg (by decide),
    if_pos (by decide)] at same
  exact integer_ne_string (by decide) _ (Option.some.inj same)

end Value

end Lookout
