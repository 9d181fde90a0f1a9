/-
A number is read in front of other characters as it is read on its own.

The reader takes as many characters as can belong to a number.  So what it makes of a text on its
own it also makes of the text in front of others, provided that the first of these belongs to no
number: in a list or a map that is a comma or a closing bracket.  Part by part that holds of the
digits, the fraction and the exponent, and so of the number that they are put together to.

What is left behind a number is in any case the end of the text, since nothing is put back.
-/
import Lookout.Json.Number
import Lookout.Proofs.Except

namespace Lookout

namespace Json

/-! ### Reading what others follow -/

/-- Whether a character can belong to a number behind its first digit. -/
def continuesNumber (c : Char) : Bool :=
  c.isDigit || c = '.' || c = 'e' || c = 'E'

/-- Characters of which the first one, if there is one, belongs to no number. -/
def Detached (rest : List Char) : Prop :=
  ∀ c ∈ rest.head?, continuesNumber c = false

theorem detached_nil : Detached [] :=
  fun c hc => by cases hc

theorem detached_cons {c : Char} (hc : continuesNumber c = false) (rest : List Char) :
    Detached (c :: rest) :=
  fun d hd => by cases hd; exact hc

variable {rest : List Char}

theorem Detached.head_ne {c : Char} {cs : List Char} (h : Detached (c :: cs)) :
    c.isDigit = false ∧ c ≠ '.' ∧ ¬ (c = 'e' ∨ c = 'E') := by
  have hc := h c rfl
  simp only [continuesNumber, Bool.or_eq_false_iff, decide_eq_false_iff_not] at hc
  exact ⟨hc.1.1.1, hc.1.1.2, fun he => he.elim hc.1.2 hc.2⟩

/-- Digits end where they ended before. -/
theorem takeWhile_append_detached (h : Detached rest) : ∀ cs : List Char,
    (cs ++ rest).takeWhile Char.isDigit = cs.takeWhile Char.isDigit ∧
      (cs ++ rest).dropWhile Char.isDigit = cs.dropWhile Char.isDigit ++ rest := by
  intro cs
  induction cs with
  | nil =>
      cases rest with
      | nil => exact ⟨rfl, rfl⟩
      | cons c cs =>
          have hc : ¬ c.isDigit = true := by rw [h.head_ne.1]; exact Bool.false_ne_true
          rw [List.nil_append, List.takeWhile_cons_of_neg hc, List.dropWhile_cons_of_neg hc]
          exact ⟨rfl, rfl⟩
  | cons c cs ih =>
      rw [List.cons_append]
      by_cases hc : c.isDigit = true
      · rw [List.takeWhile_cons_of_pos hc, List.takeWhile_cons_of_pos hc,
          List.dropWhile_cons_of_pos hc, List.dropWhile_cons_of_pos hc, ih.1, ih.2]
        exact ⟨rfl, rfl⟩
      · rw [List.takeWhile_cons_of_neg hc, List.takeWhile_cons_of_neg hc,
          List.dropWhile_cons_of_neg hc, List.dropWhile_cons_of_neg hc]
        exact ⟨rfl, rfl⟩

theorem readWhole_append (hrest : Detached rest) {cs whole left : List Char}
    (h : readWhole cs = .ok (whole, left)) :
    readWhole (cs ++ rest) = .ok (whole, left ++ rest) := by
  cases cs with
  | nil => cases h
  | cons c cs =>
      rw [List.cons_append]
      unfold readWhole at h ⊢
      dsimp only at h ⊢
      by_cases hzero : c = '0'
      · rw [if_pos hzero] at h ⊢
        cases cs with
        | nil =>
            cases h
            cases rest with
            | nil => rfl
            | cons d ds =>
                show (if d.isDigit = true then _ else _) = _
                rw [hrest.head_ne.1]
                rfl
        | cons d ds =>
            dsimp only [List.cons_append] at h ⊢
            split at h
            · cases h
            · case isFalse hd =>
              cases h
              rw [if_neg hd]
              rfl
      · rw [if_neg hzero] at h ⊢
        split at h
        · case isTrue hc =>
          cases h
          rw [if_pos hc, (takeWhile_append_detached hrest cs).1,
            (takeWhile_append_detached hrest cs).2]
        · cases h

/-- Without a point there is no fraction. -/
theorem readFraction_none {cs : List Char} (h : cs.head? ≠ some '.') :
    readFraction cs = .ok (none, cs) := by
  refine readFraction.eq_3 cs fun ds hds => h ?_
  rw [hds]
  rfl

theorem readFraction_append (hrest : Detached rest) {cs left : List Char}
    {fraction : Option (List Char)} (h : readFraction cs = .ok (fraction, left)) :
    readFraction (cs ++ rest) = .ok (fraction, left ++ rest) := by
  cases cs with
  | nil =>
      cases h
      refine readFraction_none fun hpoint => ?_
      cases hrest '.' hpoint
  | cons c cs =>
      by_cases hpoint : c = '.'
      · subst hpoint
        cases cs with
        | nil => cases h
        | cons d ds =>
            rw [List.cons_append, List.cons_append]
            rw [readFraction] at h ⊢
            split at h
            · case isTrue hd =>
              cases h
              rw [if_pos hd, (takeWhile_append_detached hrest ds).1,
                (takeWhile_append_detached hrest ds).2]
            · cases h
      · have hhead : ∀ ds, (c :: ds).head? ≠ some '.' := fun ds h => hpoint (Option.some.inj h)
        rw [readFraction_none (hhead cs)] at h
        cases h
        exact readFraction_none (hhead _)

/-- Without its mark there is no exponent. -/
theorem readExponent_none {cs : List Char} (h : ∀ c ∈ cs.head?, ¬ (c = 'e' ∨ c = 'E')) :
    readExponent cs = .ok (none, cs) := by
  cases cs with
  | nil => rfl
  | cons c cs =>
      have hc : ¬ (decide (c = 'e') || decide (c = 'E')) = true := by
        simpa using h c rfl
      unfold readExponent
      dsimp only
      rw [if_neg hc]

/-- The digits of an exponent whose sign has been read. -/
def exponentDigits (negative : Bool) : List Char → Except Stop (Option Exponent × List Char)
  | [] => stopAfter .endInValue []
  | d :: ds =>
    if d.isDigit then
      .ok (some ⟨negative, d :: ds.takeWhile Char.isDigit⟩, ds.dropWhile Char.isDigit)
    else stopAfter .invalidNumber ds

theorem exponentDigits_append (hrest : Detached rest) {negative : Bool} {cs left : List Char}
    {exponent : Option Exponent} (h : exponentDigits negative cs = .ok (exponent, left)) :
    exponentDigits negative (cs ++ rest) = .ok (exponent, left ++ rest) := by
  cases cs with
  | nil => cases h
  | cons d ds =>
      rw [List.cons_append]
      unfold exponentDigits at h ⊢
      dsimp only at h ⊢
      split at h
      · case isTrue hd =>
        cases h
        rw [if_pos hd, (takeWhile_append_detached hrest ds).1,
          (takeWhile_append_detached hrest ds).2]
      · cases h

/-- Behind the mark of an exponent there may be a sign, and then its digits. -/
theorem readExponent_cons {c : Char} (hc : c = 'e' ∨ c = 'E') (s : Char) (cs : List Char) :
    readExponent (c :: s :: cs) = if s = '+' then exponentDigits false cs
      else if s = '-' then exponentDigits true cs else exponentDigits false (s :: cs) := by
  have hc : (decide (c = 'e') || decide (c = 'E')) = true := by simpa using hc
  unfold readExponent
  dsimp only
  rw [if_pos hc]
  by_cases hplus : s = '+'
  · subst hplus
    cases cs with
    | nil => rfl
    | cons d ds => rfl
  · by_cases hminus : s = '-'
    · subst hminus
      cases cs with
      | nil => rfl
      | cons d ds => rfl
    · simp [hplus, hminus, exponentDigits]

theorem readExponent_append (hrest : Detached rest) {cs left : List Char}
    {exponent : Option Exponent} (h : readExponent cs = .ok (exponent, left)) :
    readExponent (cs ++ rest) = .ok (exponent, left ++ rest) := by
  cases cs with
  | nil =>
      cases h
      refine readExponent_none fun c hc hmark => ?_
      rcases hmark with rfl | rfl
      · cases hrest _ hc
      · cases hrest _ hc
  | cons c cs =>
      by_cases hc : c = 'e' ∨ c = 'E'
      · cases cs with
        | nil => rcases hc with rfl | rfl <;> cases h
        | cons s cs =>
            rw [List.cons_append, List.cons_append]
            rw [readExponent_cons hc] at h ⊢
            split at h
            · case isTrue hplus =>
              rw [if_pos hplus]
              exact exponentDigits_append hrest h
            · case isFalse hplus =>
              rw [if_neg hplus]
              split at h
              · case isTrue hminus =>
                rw [if_pos hminus]
                exact exponentDigits_append hrest h
              · case isFalse hminus =>
                rw [if_neg hminus]
                exact exponentDigits_append hrest h
      · have hnone : ∀ ds, ∀ d ∈ (c :: ds).head?, ¬ (d = 'e' ∨ d = 'E') :=
          fun ds d hd => by cases hd; exact hc
        rw [readExponent_none (hnone cs)] at h
        cases h
        exact readExponent_none (hnone _)

/-- A number is put together from the parts that are read one behind the other. -/
theorem readNumber_of_parts {negative : Bool} {cs behind left last whole : List Char}
    {fraction : Option (List Char)} {exponent : Option Exponent} {n : Number}
    (hwhole : readWhole cs = .ok (whole, behind))
    (hfraction : readFraction behind = .ok (fraction, left))
    (hexponent : readExponent left = .ok (exponent, last))
    (hnumber : (Literal.mk negative whole fraction exponent).number? = some n) :
    readNumber negative cs = .ok (n, last) := by
  refine (bind_of_eq_ok hwhole _).trans ?_
  refine (bind_of_eq_ok hfraction _).trans ?_
  refine (bind_of_eq_ok hexponent _).trans ?_
  dsimp only
  rw [hnumber]

/-- What was read as a number was read part by part. -/
theorem readNumber_cases {negative : Bool} {cs last : List Char} {n : Number}
    (h : readNumber negative cs = .ok (n, last)) : ∃ whole behind fraction left exponent,
      readWhole cs = .ok (whole, behind) ∧ readFraction behind = .ok (fraction, left) ∧
      readExponent left = .ok (exponent, last) ∧
      (Literal.mk negative whole fraction exponent).number? = some n := by
  obtain ⟨⟨whole, behind⟩, hwhole, h⟩ := bind_eq_ok h
  obtain ⟨⟨fraction, left⟩, hfraction, h⟩ := bind_eq_ok h
  obtain ⟨⟨exponent, last'⟩, hexponent, h⟩ := bind_eq_ok h
  dsimp only at hfraction hexponent h
  split at h
  · case _ m hnumber =>
    cases h
    exact ⟨whole, behind, fraction, left, exponent, hwhole, hfraction, hexponent, hnumber⟩
  · cases h

/-- What a text on its own is read as it is also read as in front of other characters. -/
theorem readNumber_append (hrest : Detached rest) {negative : Bool} {cs left : List Char}
    {n : Number} (h : readNumber negative cs = .ok (n, left)) :
    readNumber negative (cs ++ rest) = .ok (n, left ++ rest) := by
  obtain ⟨_, _, _, _, _, hwhole, hfraction, hexponent, hnumber⟩ := readNumber_cases h
  exact readNumber_of_parts (readWhole_append hrest hwhole) (readFraction_append hrest hfraction)
    (readExponent_append hrest hexponent) hnumber

/-! ### What reading leaves -/

theorem readWhole_suffix {cs whole left : List Char} (h : readWhole cs = .ok (whole, left)) :
    left <:+ cs := by
  cases cs with
  | nil => cases h
  | cons c cs =>
      unfold readWhole at h
      dsimp only at h
      split at h
      · cases cs with
        | nil => cases h; exact List.nil_suffix
        | cons d ds =>
            dsimp only at h
            split at h
            · cases h
            · cases h; exact List.suffix_cons c _
      · split at h
        · cases h
          exact (List.dropWhile_suffix _).trans (List.suffix_cons c cs)
        · cases h

theorem readFraction_suffix {cs left : List Char} {fraction : Option (List Char)}
    (h : readFraction cs = .ok (fraction, left)) : left <:+ cs := by
  by_cases hpoint : cs.head? = some '.'
  · obtain ⟨ds, rfl⟩ := List.head?_eq_some_iff.mp hpoint
    cases ds with
    | nil => cases h
    | cons d ds =>
        rw [readFraction] at h
        split at h
        · cases h
          exact (List.dropWhile_suffix _).trans
            ((List.suffix_cons d ds).trans (List.suffix_cons _ _))
        · cases h
  · rw [readFraction_none hpoint] at h
    cases h
    exact List.suffix_rfl

theorem exponentDigits_suffix {negative : Bool} {cs left : List Char} {exponent : Option Exponent}
    (h : exponentDigits negative cs = .ok (exponent, left)) : left <:+ cs := by
  cases cs with
  | nil => cases h
  | cons d ds =>
      unfold exponentDigits at h
      dsimp only at h
      split at h
      · cases h
        exact (List.dropWhile_suffix _).trans (List.suffix_cons d ds)
      · cases h

theorem readExponent_suffix {cs left : List Char} {exponent : Option Exponent}
    (h : readExponent cs = .ok (exponent, left)) : left <:+ cs := by
  by_cases hmark : ∀ c ∈ cs.head?, ¬ (c = 'e' ∨ c = 'E')
  · rw [readExponent_none hmark] at h
    cases h
    exact List.suffix_rfl
  · cases cs with
    | nil => exact absurd (fun c hc => by cases hc) hmark
    | cons c cs =>
        have hc : c = 'e' ∨ c = 'E' := Decidable.of_not_not fun hne =>
          hmark fun d hd => by cases hd; exact hne
        cases cs with
        | nil => rcases hc with rfl | rfl <;> cases h
        | cons s cs =>
            have hbehind : cs <:+ c :: s :: cs :=
              (List.suffix_cons s cs).trans (List.suffix_cons c _)
            rw [readExponent_cons hc] at h
            split at h
            · exact (exponentDigits_suffix h).trans hbehind
            · split at h
              · exact (exponentDigits_suffix h).trans hbehind
              · exact (exponentDigits_suffix h).trans (List.suffix_cons c _)

/-- What is left of a text behind a number is its end. -/
theorem readNumber_suffix {negative : Bool} {cs left : List Char} {n : Number}
    (h : readNumber negative cs = .ok (n, left)) : left <:+ cs := by
  obtain ⟨_, _, _, _, _, hwhole, hfraction, hexponent, -⟩ := readNumber_cases h
  exact ((readExponent_suffix hexponent).trans (readFraction_suffix hfraction)).trans
    (readWhole_suffix hwhole)

end Json
end Lookout
