/-
Which numbers are zero.

A number is looked at as a float, and an integer of a word may have more digits than a float holds.
So it is rounded, but to a normal float: its first binary digit stays the first of 53, or a carry
puts one in front of it.  A normal float survives being packed into its bits, multiplied by one and
negated, which are the steps that an integer goes through, and it is never zero.
-/
import Mathlib
import Lookout.Value.Number

namespace Lookout
namespace Rounding

open Float.Model Float.Model.UnpackedFloat

/-! ### Binary digits -/

theorem log2_mul_two_pow {n : Nat} (hn : n ≠ 0) : ∀ k : Nat, (n * 2 ^ k).log2 = n.log2 + k := by
  intro k
  induction k with
  | zero => rw [Nat.pow_zero, Nat.mul_one, Nat.add_zero]
  | succ k ih =>
      have hne : n * 2 ^ k ≠ 0 := Nat.mul_ne_zero hn (Nat.pos_iff_ne_zero.mp (Nat.two_pow_pos k))
      have hstep : n * 2 ^ (k + 1) = 2 * (n * 2 ^ k) := by
        rw [Nat.pow_succ, ← Nat.mul_assoc, Nat.mul_comm 2]
      rw [hstep, Nat.log2_two_mul hne, ih, Nat.add_assoc]

theorem div_two_pow_bounds {n w k : Nat} (hn : n ≠ 0) (hlog : n.log2 = w + k) :
    2 ^ w ≤ n / 2 ^ k ∧ n / 2 ^ k < 2 ^ (w + 1) := by
  obtain ⟨hlow, hhigh⟩ := (Nat.log2_eq_iff hn).mp hlog
  constructor
  · rw [Nat.le_div_iff_mul_le (Nat.two_pow_pos k), ← Nat.pow_add]
    exact hlow
  · rw [Nat.div_lt_iff_lt_mul (Nat.two_pow_pos k), ← Nat.pow_add]
    exact Nat.lt_of_lt_of_eq hhigh (by rw [Nat.add_right_comm])

/-! ### Rounding -/

/-- A normal number: its significand has 53 binary digits, and its exponent is within bounds. -/
def NormalWithin (low high : Int) : UnpackedFloat → Prop
  | .finite _ m e _ => m.log2 = 52 ∧ low ≤ e ∧ e ≤ high
  | _ => False

theorem NormalWithin.mono {low low' high high' : Int} (hlow : low' ≤ low) (hhigh : high ≤ high')
    {u : UnpackedFloat} (h : NormalWithin low high u) : NormalWithin low' high' u := by
  cases u with
  | finite s m e hm => exact ⟨h.1, Int.le_trans hlow h.2.1, Int.le_trans h.2.2 hhigh⟩
  | _ => exact h

/-- Digits that are shifted out are gone. -/
theorem mantissa_shiftRight (em : ExtendedMantissa) (k : Nat) :
    (em >>> k).mantissa = em.mantissa / 2 ^ k := by
  show (k.repeat ExtendedMantissa.shiftRightOne em).mantissa = _
  induction k with
  | zero => exact (Nat.div_one _).symm
  | succ k ih =>
      show (k.repeat ExtendedMantissa.shiftRightOne em).mantissa / 2 = _
      rw [ih, Nat.div_div_eq_div_mul, Nat.pow_succ]

/-- Rounding adds at most one. -/
theorem roundToNearestEven_bounds (m : Nat) : ∀ accuracy : Accuracy,
    m ≤ accuracy.roundToNearestEven m ∧ accuracy.roundToNearestEven m ≤ m + 1
  | .exact => ⟨Nat.le_refl m, Nat.le_succ m⟩
  | .inexact .lt => ⟨Nat.le_refl m, Nat.le_succ m⟩
  | .inexact .eq => by
      show m ≤ m + m % 2 ∧ m + m % 2 ≤ m + 1
      omega
  | .inexact .gt => ⟨Nat.le_succ m, Nat.le_refl (m + 1)⟩

theorem targetExponent_eq {e : Int} (he : -1021 ≤ e) :
    Format.binary64.targetExponent e = e - 53 := by
  show max (e - 53) (3 - 2 ^ 10 - 53) = e - 53
  omega

/-- A significand loses all digits behind its first 53. -/
theorem shiftToTargetExponent_eq {m k : Nat} {e : Int} (hlog : m.log2 = 52 + k)
    (he : -1074 ≤ e + k) :
    (shiftToTargetExponent .binary64 m e .exact).1.mantissa = m / 2 ^ k ∧
      (shiftToTargetExponent .binary64 m e .exact).2 = e + k := by
  have htotal : totalExponent m e = e + k + 53 := by
    unfold totalExponent
    omega
  have hshift : (Format.binary64.targetExponent (totalExponent m e) - e).toNat = k := by
    rw [htotal, targetExponent_eq (by omega)]
    omega
  unfold shiftToTargetExponent shiftToExponent
  dsimp only
  rw [hshift]
  exact ⟨mantissa_shiftRight _ _, rfl⟩

/-- A carry may leave a digit too many, which is a zero and goes. -/
theorem shift_carry {r : Nat} {e : Int} (hlow : 2 ^ 52 ≤ r) (hhigh : r ≤ 2 ^ 53)
    (he : -1074 ≤ e) :
    (shiftToTargetExponent .binary64 r e .exact).1.mantissa.log2 = 52 ∧
      e ≤ (shiftToTargetExponent .binary64 r e .exact).2 ∧
      (shiftToTargetExponent .binary64 r e .exact).2 ≤ e + 1 := by
  have hne : r ≠ 0 := by omega
  obtain ⟨c, hc, hlog⟩ : ∃ c ≤ 1, r.log2 = 52 + c := by
    by_cases hover : r < 2 ^ 53
    · exact ⟨0, by omega, (Nat.log2_eq_iff hne).mpr ⟨hlow, hover⟩⟩
    · exact ⟨1, by omega, (Nat.log2_eq_iff hne).mpr ⟨by omega, by omega⟩⟩
  obtain ⟨hmantissa, hexponent⟩ := shiftToTargetExponent_eq (e := e) hlog (by omega)
  obtain ⟨hfirst, hlast⟩ := div_two_pow_bounds hne hlog
  rw [hmantissa, hexponent]
  exact ⟨(Nat.log2_eq_iff (by omega)).mpr ⟨hfirst, hlast⟩, by omega, by omega⟩

/-- A significand with enough digits is rounded to a normal number: one that keeps its first digit,
or has one in front of it after a carry. -/
theorem normalWithin_round (s : Sign) {m k : Nat} {e : Int} (hlog : m.log2 = 52 + k)
    (he : -1074 ≤ e + k) :
    NormalWithin (e + k) (e + k + 1) (roundWithAccuracy .binary64 s m e .exact) := by
  have hm : m ≠ 0 := fun hzero => by
    rw [hzero, Nat.log2_zero] at hlog
    omega
  obtain ⟨hmantissa, hexponent⟩ := shiftToTargetExponent_eq hlog he
  obtain ⟨hlow, hhigh⟩ := div_two_pow_bounds hm hlog
  unfold roundWithAccuracy
  generalize shiftToTargetExponent .binary64 m e .exact = first at *
  obtain ⟨em, e₁⟩ := first
  dsimp only at hmantissa hexponent ⊢
  -- the first shift leaves 53 digits, which may carry when they are rounded
  obtain ⟨hfloor, hcarry⟩ : em.mantissa ≤ em.roundedMantissa ∧
      em.roundedMantissa ≤ em.mantissa + 1 := roundToNearestEven_bounds em.mantissa em.accuracy
  have hcarried := shift_carry (r := em.roundedMantissa) (e := e₁) (by omega) (by omega) (by omega)
  generalize shiftToTargetExponent .binary64 em.roundedMantissa e₁ .exact = second at *
  obtain ⟨hlog₂, hlow₂, hhigh₂⟩ := hcarried
  have hne : second.1.mantissa ≠ 0 := fun hzero => by
    rw [hzero, Nat.log2_zero] at hlog₂
    omega
  rw [dif_neg hne]
  exact ⟨hlog₂, by omega, by omega⟩

/-! ### Packing -/

theorem ofBitVec_unpackSign_packComponents {spec : Format} (s : Sign)
    (exponent : BitVec spec.exponentBits) (mantissa : BitVec spec.mantissaBitsWithoutImplicit) :
    Sign.ofBitVec (unpackSign (packComponents spec s exponent mantissa)) = s := by
  have hsign : unpackSign (packComponents spec s exponent mantissa) = s.toBitVec := by
    ext i hi
    obtain rfl : i = 0 := by omega
    simp [unpackSign, packComponents, BitVec.getLsbD_append, BitVec.getElem_append]
  rw [hsign]
  cases s <;> rfl

theorem toNat_one_append {w : Nat} (v : BitVec w) : (1#1 ++ v).toNat = 2 ^ w + v.toNat := by
  have hone : (1#1).toNat <<< w = 2 ^ w := Nat.one_shiftLeft w
  rw [BitVec.toNat_append, ← Nat.shiftLeft_add_eq_or_of_lt v.isLt, hone]

theorem ofNat_ne {b k : Nat} (hb : b < 2 ^ 11) (hk : k < 2 ^ 11) (hne : b ≠ k) :
    BitVec.ofNat 11 b ≠ BitVec.ofNat 11 k := by
  intro heq
  have hvalues := congrArg BitVec.toNat heq
  rw [BitVec.toNat_ofNat, BitVec.toNat_ofNat, Nat.mod_eq_of_lt hb, Nat.mod_eq_of_lt hk] at hvalues
  exact hne hvalues

/-- A biased exponent that is neither empty nor full is that of a normal number. -/
theorem unpack_packComponents (s : Sign) {m b : Nat} (hm : 0 < m) (hlog : m.log2 = 52)
    (hlow : 0 < b) (hhigh : b < 2047) :
    UnpackedFloat.unpack .binary64
        (packComponents .binary64 s (BitVec.ofNat 11 b) (BitVec.ofNat 52 m))
      = .finite s m ((b : Int) - 1075) hm := by
  obtain ⟨hfirst, hlast⟩ := (Nat.log2_eq_iff (Nat.pos_iff_ne_zero.mp hm)).mp hlog
  have hexponent : (BitVec.ofNat 11 b).toNat = b := by
    rw [BitVec.toNat_ofNat, Nat.mod_eq_of_lt (by omega)]
  have hfull : BitVec.ofNat 11 b ≠ -1#11 := ofNat_ne (k := 2047) (by omega) (by omega) (by omega)
  have hempty : BitVec.ofNat 11 b ≠ 0#11 := ofNat_ne (by omega) (by omega) (by omega)
  have hmantissa : (1#1 ++ BitVec.ofNat 52 m).toNat = m := by
    rw [toNat_one_append, BitVec.toNat_ofNat]
    omega
  rw [UnpackedFloat.unpack]
  simp only [unpackMantissa_packComponents, unpackExponent_packComponents,
    ofBitVec_unpackSign_packComponents]
  rw [if_neg hfull, if_neg hempty]
  simp only [hexponent, hmantissa]
  rfl

/-- A normal number is unpacked as it was packed. -/
theorem unpack_pack {u : UnpackedFloat} (h : NormalWithin (-1074) 971 u) :
    (Float.Model.pack u).unpack = u := by
  cases u with
  | finite s m e hm =>
      obtain ⟨hlog, hlow, hhigh⟩ := h
      obtain ⟨b, hb⟩ : ∃ b : Nat, e + 1075 = b := Int.eq_ofNat_of_zero_le (by omega)
      have hbiased : (e + (1023 : Nat) + (52 : Nat)).toNat = b := by omega
      have hpack : UnpackedFloat.pack .binary64 (.finite s m e hm)
          = packComponents .binary64 s (BitVec.ofNat 11 b) (BitVec.ofNat 52 m) := by
        show (if 2 ^ 11 ≤ (e + (1023 : Nat) + (52 : Nat)).toNat + 1 then _
          else if m.log2 + 1 = 53 then
            packComponents .binary64 s
              (BitVec.ofNat 11 (e + (1023 : Nat) + (52 : Nat)).toNat) (BitVec.ofNat 52 m)
          else _) = _
        rw [hbiased, if_neg (by omega), if_pos (by omega)]
      show UnpackedFloat.unpack .binary64 (UnpackedFloat.pack .binary64 (.finite s m e hm)) = _
      rw [hpack, unpack_packComponents s hm hlog (by omega) (by omega)]
      congr 1
      omega
  | _ => exact h.elim

/-! ### Integers as floats -/

/-- A float that is a normal number, with its exponent within bounds. -/
def IsNormal (low high : Int) (x : Float) : Prop :=
  NormalWithin low high x.toModel.unpack

theorem isNormal_pack {low high : Int} (hlow : -1074 ≤ low) (hhigh : high ≤ 971)
    {u : UnpackedFloat} (h : NormalWithin low high u) :
    IsNormal low high (.ofModel (Float.Model.pack u)) := by
  show NormalWithin low high (Float.Model.pack u).unpack
  rw [unpack_pack (h.mono hlow hhigh)]
  exact h

/-- A number that has too few digits gets more, and is rounded then. -/
theorem round_eq {m k : Nat} {e : Int} (s : Sign) (hlog : m.log2 + k = 52) (he : -1074 + k ≤ e) :
    UnpackedFloat.round .binary64 s m e
      = roundWithAccuracy .binary64 s (m * 2 ^ k) (e - k) .exact := by
  have htotal : totalExponent m e = e - k + 53 := by
    unfold totalExponent
    omega
  have hshift : (e - Format.binary64.targetExponent (totalExponent m e)).toNat = k := by
    rw [htotal, targetExponent_eq (by omega)]
    omega
  unfold UnpackedFloat.round decreaseExponent
  dsimp only
  rw [hshift, Nat.shiftLeft_eq]

theorem ofNat_eq_round {n : Nat} (hn : 0 < n) :
    UnpackedFloat.ofNat .binary64 n = UnpackedFloat.round .binary64 .positive n 0 := by
  have hsign : compare (n : Int) 0 = .gt := by
    show compareOfLessAndEq (n : Int) 0 = .gt
    unfold compareOfLessAndEq
    rw [if_neg (by omega), if_neg (by omega)]
  show UnpackedFloat.normalize .binary64 n 0 .positive = _
  unfold UnpackedFloat.normalize
  rw [hsign]
  rfl

/-- A positive integer with no more digits than a float becomes a normal number. -/
theorem isNormal_toFloat {n : UInt64} (hpos : 0 < n.toNat) (hn : n.toNat < 2 ^ 53) :
    IsNormal (-52) 1 n.toFloat := by
  have hne : n.toNat ≠ 0 := Nat.pos_iff_ne_zero.mp hpos
  obtain ⟨k, hk⟩ : ∃ k, n.toNat.log2 + k = 52 := by
    have hlog := (Nat.log2_lt hne).mpr hn
    exact ⟨52 - n.toNat.log2, by omega⟩
  have hlog : (n.toNat * 2 ^ k).log2 = 52 + 0 := by
    rw [log2_mul_two_pow hne, hk]
  have hnormal := normalWithin_round .positive (e := (0 : Int) - k) hlog (by omega)
  rw [← round_eq .positive hk (by omega), ← ofNat_eq_round hpos] at hnormal
  exact isNormal_pack (by omega) (by omega) (hnormal.mono (by omega) (by omega))

/-- A normal number times one is a normal number. -/
theorem IsNormal.mul_one {low high : Int} {x : Float} (hlow : -1074 ≤ low) (hhigh : high < 971)
    (h : IsNormal low high x) : IsNormal low (high + 1) (x * Float.ofBits 0x3FF0000000000000) := by
  have hone : (Float.ofBits 0x3FF0000000000000).toModel.unpack
      = .finite .positive (2 ^ 52) (-52) (by decide) := by rfl
  refine isNormal_pack hlow (by omega) ?_
  rw [hone]
  unfold IsNormal at h
  cases hx : x.toModel.unpack with
  | finite s m e hm =>
      rw [hx] at h
      obtain ⟨hlog, he, he'⟩ := h
      have hproduct : (m * 2 ^ 52).log2 = 52 + 52 := by
        rw [log2_mul_two_pow (Nat.pos_iff_ne_zero.mp hm), hlog]
      have hnormal := normalWithin_round (s * .positive) (e := e + -52) hproduct (by omega)
      exact hnormal.mono (by omega) (by omega)
  | _ =>
      rw [hx] at h
      exact h.elim

theorem IsNormal.neg {low high : Int} {x : Float} (hlow : -1074 ≤ low) (hhigh : high ≤ 971)
    (h : IsNormal low high x) : IsNormal low high (-x) := by
  refine isNormal_pack hlow hhigh ?_
  unfold IsNormal at h
  cases hx : x.toModel.unpack with
  | finite s m e hm =>
      rw [hx] at h
      exact h
  | _ =>
      rw [hx] at h
      exact h.elim

theorem ofScientific_eq {n : Nat} (hn : 0 < n) :
    UnpackedFloat.ofScientific .binary64 n 0
      = roundWithAccuracy .binary64 .positive (n * 2 ^ 53) (-53) .exact := by
  have hlog : ¬ (0 : Int) < -((2 ^ 11 : Int) + n.log2) := by omega
  unfold UnpackedFloat.ofScientific
  rw [dif_neg (Nat.pos_iff_ne_zero.mp hn), if_neg (by decide), if_neg hlog, if_pos (by decide)]
  show roundWithAccuracy .binary64 .positive (n <<< 53 * 1) (-53) .exact = _
  rw [Nat.mul_one, Nat.shiftLeft_eq]

/-- A positive integer of a word is a normal number as a float. -/
theorem isNormal_ofNat {n : Nat} (hpos : 0 < n) (hn : n < 2 ^ 64) :
    IsNormal (-52) 12 (Float.ofNat n) := by
  show IsNormal (-52) 12 (Float.ofScientific n false 0)
  unfold Float.ofScientific
  by_cases hexact : n < 2 ^ 53
  · rw [dif_pos ⟨hexact, Nat.zero_le 22⟩]
    have hvalue : n.toUInt64.toNat = n := Nat.mod_eq_of_lt hn
    have hnormal : IsNormal (-52) 1 n.toUInt64.toFloat :=
      isNormal_toFloat (by omega) (by omega)
    exact NormalWithin.mono (by omega) (by omega) (hnormal.mul_one (by omega) (by omega))
  · rw [dif_neg fun h => hexact h.1]
    have hne : n ≠ 0 := by omega
    have hlow := (Nat.le_log2 hne).mpr (Nat.le_of_not_lt hexact)
    have hhigh := (Nat.log2_lt hne).mpr hn
    obtain ⟨k, hk⟩ : ∃ k, n.log2 + 53 = 52 + k := ⟨n.log2 + 1, by omega⟩
    have hlog : (n * 2 ^ 53).log2 = 52 + k := by
      rw [log2_mul_two_pow hne, hk]
    have hnormal := normalWithin_round .positive (e := -53) hlog (by omega)
    rw [← ofScientific_eq hpos] at hnormal
    exact isNormal_pack (by omega) (by omega) (hnormal.mono (by omega) (by omega))

theorem unpack_zero : (0 : Float).toModel.unpack = .zero .positive := by rfl

/-- A normal number is not zero. -/
theorem IsNormal.beq_zero {low high : Int} {x : Float} (h : IsNormal low high x) :
    (x == 0) = false := by
  show x.toModel.unpack.beq (0 : Float).toModel.unpack = false
  rw [unpack_zero]
  unfold IsNormal at h
  cases hx : x.toModel.unpack with
  | finite s m e hm => cases s <;> rfl
  | _ =>
      rw [hx] at h
      exact h.elim

/-- **An integer of a word is zero as a float only if it is zero.** -/
theorem ofInt_beq_zero {n : Int} (h : FitsWord n) : (Float.ofInt n == 0) = decide (n = 0) := by
  obtain ⟨hlow, hhigh⟩ := h
  by_cases hzero : n = 0
  · subst hzero
    show (0 : Float).toModel.unpack.beq (0 : Float).toModel.unpack = true
    rw [unpack_zero]
    rfl
  · have hnormal : IsNormal (-52) 12 (Float.ofInt n) := by
      cases n with
      | ofNat k =>
          rw [Int.ofNat_eq_natCast] at hzero hhigh
          exact isNormal_ofNat (by omega) (by omega)
      | negSucc k =>
          have hpositive : IsNormal (-52) 12 (Float.ofNat (k + 1)) :=
            isNormal_ofNat (Nat.succ_pos k) (by omega)
          exact hpositive.neg (by omega) (by omega)
    rw [hnormal.beq_zero, decide_eq_false hzero]

end Rounding

/-- An integer is zero as a number if it is zero. -/
theorem Number.isZero_int {n : Int} (h : FitsWord n) : (Number.int n h).isZero = decide (n = 0) :=
  Rounding.ofInt_beq_zero h

end Lookout
