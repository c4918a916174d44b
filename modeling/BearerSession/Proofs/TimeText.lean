import BearerSession.Clock.Rfc3339
import Mathlib

/-!
# Instants read back from their text

An instant written as RFC 3339 text (`Instant.text`) reads back as itself
(`Rfc3339.read_text`), to the nanosecond, whenever it is an instant a clock can give
(`Instant.Valid`): a day of the calendar in range, an hour, a minute, a second up to a leap
second, and fewer than a billion nanoseconds.

The text is read field by field. Each number is written with `padded` as zeros and the decimal
digits of the number, and the reader takes digits while they last (`digits_decimal`), so each
field reads back its number as long as what follows it is not a digit (`NoDigitHead`). The
year carries its sign outside 0 to 9999, the fraction has 3, 6 or 9 digits and scales back to
nanoseconds, and `Z` is the offset zero, by which the reader shifts the instant to itself.
-/

namespace BearerSession.Clock

namespace Instant

/-- An instant a clock can give. -/
structure Valid (t : Instant) : Prop where
  day : validDay t.year t.month t.day = true
  hour : t.hour < 24
  minute : t.minute < 60
  second : t.second ≤ 60
  nano : t.nano < 1000000000

instance (t : Instant) : Decidable t.Valid :=
  decidable_of_iff (validDay t.year t.month t.day = true ∧ t.hour < 24 ∧ t.minute < 60 ∧
      t.second ≤ 60 ∧ t.nano < 1000000000)
    ⟨fun ⟨h₁, h₂, h₃, h₄, h₅⟩ => ⟨h₁, h₂, h₃, h₄, h₅⟩, fun ⟨h₁, h₂, h₃, h₄, h₅⟩ => ⟨h₁, h₂, h₃, h₄, h₅⟩⟩

/-! ## Numbers in decimal -/

theorem padded_toList (w n : Nat) :
    (padded w n).toList =
      List.replicate (w - (Nat.toDigits 10 n).length) '0' ++ Nat.toDigits 10 n := by
  simp [padded, ← String.length_toList]

/-- A number fitting in `w` digits is written in exactly `w`. -/
theorem padded_length {w n : Nat} (hw : 0 < w) (h : n < 10 ^ w) : (padded w n).toList.length = w := by
  have hlen := (Nat.length_toDigits_le_iff (by decide : 1 < 10) hw).2 h
  rw [padded_toList]
  simp only [List.length_append, List.length_replicate]
  omega

theorem padded_value (w n : Nat) : Nat.ofDigitChars 10 (padded w n).toList 0 = n := by
  rw [padded_toList, Nat.ofDigitChars_append]
  simp

theorem padded_isDigit (w n : Nat) : ∀ c ∈ (padded w n).toList, c.isDigit = true := by
  intro c hc
  rw [padded_toList] at hc
  rcases List.mem_append.1 hc with hc | hc
  · rw [(List.mem_replicate.1 hc).2]
    rfl
  · exact Nat.isDigit_of_mem_toDigits (by decide) (by decide) hc

theorem padded_ne_nil (w n : Nat) : (padded w n).toList ≠ [] := by
  simp [padded_toList]

end Instant

namespace Rfc3339

open Instant

/-! ## Reading digits -/

/-- What follows a number does not start with a digit. -/
def NoDigitHead (r : List Char) : Prop := ∀ c rest, r = c :: rest → c.isDigit = false

theorem noDigitHead_cons (c : Char) {r : List Char} (h : c.isDigit = false) :
    NoDigitHead (c :: r) := by
  intro c' rest h'
  cases h'
  exact h

theorem NoDigitHead.take {r : List Char} (h : NoDigitHead r) (k : Nat) : NoDigitHead (r.take k) := by
  intro c rest hr
  cases k with
  | zero => cases hr
  | succ k =>
    cases r with
    | nil => cases hr
    | cons c' r' =>
      simp only [List.take_succ_cons, List.cons.injEq] at hr
      rw [← hr.1]
      exact h c' r' rfl

theorem takeWhile_isDigit {ds r : List Char} (hd : ∀ c ∈ ds, c.isDigit = true)
    (hr : NoDigitHead r) : (ds ++ r).takeWhile Char.isDigit = ds := by
  induction ds with
  | nil =>
    cases r with
    | nil => rfl
    | cons c rest => simp [hr c rest rfl]
  | cons c ds ih =>
    simp [hd c (by simp), ih (fun x hx => hd x (by simp [hx]))]

theorem isBlank_of_isDigit {c : Char} (h : c.isDigit = true) : isBlank c = false := by
  obtain ⟨h1, h2⟩ := Char.isDigit_iff_toNat.1 h
  rw [← Char.ofNat_toNat c]
  generalize c.toNat = n at h1 h2
  simp only [Char.reduceToNat] at h1 h2
  interval_cases n <;> decide

/-- Text that starts with a character other than a blank has no blanks to trim. -/
theorem trimBlanks_cons {c : Char} (h : isBlank c = false) (rest : List Char) :
    trimBlanks (c :: rest) = c :: rest := by
  simp [trimBlanks, h]

/-- The digits ahead read as their number, and reading stops where they end. -/
theorem digits_decimal {lo hi : Nat} {ds rest : List Char} (hd : ∀ c ∈ ds, c.isDigit = true)
    (hr : NoDigitHead rest) (hne : ds ≠ []) (hlo : lo ≤ ds.length) (hhi : ds.length ≤ hi)
    (hval : Nat.ofDigitChars 10 ds 0 < Nat.pow 2 63) :
    digits lo hi (ds ++ rest) = .ok (Nat.ofDigitChars 10 ds 0, rest) := by
  have hrun : ((ds ++ rest).take hi).takeWhile Char.isDigit = ds := by
    rw [List.take_append, List.take_of_length_le hhi]
    exact takeWhile_isDigit hd (hr.take _)
  have hfold : ds.foldl (fun acc c => acc * 10 + (c.toNat - 48)) 0 = Nat.ofDigitChars 10 ds 0 := by
    rw [Nat.ofDigitChars_eq_foldl]
    congr 1
    funext acc c
    simp [Nat.mul_comm]
  have hempty : (ds ++ rest).isEmpty = false := by
    cases ds with
    | nil => exact absurd rfl hne
    | cons => rfl
  unfold digits
  simp only [hempty, hrun, hfold, Bool.false_eq_true, if_false, Nat.not_lt.2 hlo,
    Nat.not_le.2 hval, List.drop_left]

/-- A number written in `w` digits and followed by no digit reads back. -/
theorem digits_padded {lo hi w n : Nat} {rest : List Char} (hr : NoDigitHead rest)
    (hw : 0 < w) (hn : n < 10 ^ w) (hlo : lo ≤ w) (hhi : w ≤ hi) (hbig : n < Nat.pow 2 63) :
    digits lo hi ((padded w n).toList ++ rest) = .ok (n, rest) := by
  have hlen := padded_length hw hn
  rw [digits_decimal (padded_isDigit w n) hr (padded_ne_nil w n) (by omega) (by omega)
    (by rwa [padded_value]), padded_value]

/-- A field of two digits in range, followed by no digit, reads back. -/
theorem field_padded {lo hi n : Nat} {rest : List Char} (hr : NoDigitHead rest) (hn : n < 100)
    (hlo : lo ≤ n) (hhi : n ≤ hi) : field 2 lo hi ((padded 2 n).toList ++ rest) = .ok (n, rest) := by
  obtain ⟨c, cs, hcs⟩ := List.exists_cons_of_ne_nil (padded_ne_nil 2 n)
  have hc : c.isDigit = true := padded_isDigit 2 n c (by rw [hcs]; simp)
  have htrim : trimBlanks ((padded 2 n).toList ++ rest) = (padded 2 n).toList ++ rest := by
    rw [hcs, List.cons_append, trimBlanks_cons (isBlank_of_isDigit hc)]
  have hread : digits 1 2 ((padded 2 n).toList ++ rest) = .ok (n, rest) :=
    digits_padded hr (by decide) (by simpa using hn) (by decide) le_rfl
      (lt_of_lt_of_le hn (by decide))
  simp [field, htrim, hread, hlo, hhi, bind, Except.bind, pure, Except.pure]

/-- A separator that is no blank reads as itself. -/
theorem literal_self {c : Char} (h : isBlank c = false) (rest : List Char) :
    literal c (c :: rest) = .ok rest := by
  simp [literal, trimBlanks_cons h]

/-! ## The year and the fraction -/

/-- A magnitude in at least four digits, followed by the dash before the month, reads back
under any bound on its length the reader is given. -/
theorem digits_magnitude (k n : Nat) (hn : n ≤ 2147483648) (rest : List Char)
    (hk : (padded 4 n).toList.length ≤ k) :
    digits 1 k ((padded 4 n).toList ++ '-' :: rest) = .ok (n, '-' :: rest) := by
  rw [digits_decimal (padded_isDigit 4 n) (noDigitHead_cons _ (by decide)) (padded_ne_nil 4 n)
    (List.length_pos_iff.2 (padded_ne_nil 4 n)) hk
    (by rw [padded_value]; exact lt_of_le_of_lt hn (by decide)),
    padded_value]

/-- The check that ends the reading of a year passes a year within `2 ^ 31` of zero. -/
theorem yearCheck_ok {y : Int} (h₁ : -2147483648 ≤ y) (h₂ : y < 2147483648) (rest : List Char) :
    (if (decide (-Int.pow 2 31 ≤ y) && decide (y < Int.pow 2 31)) = true then
      (pure (y, rest) : Reading (Int × List Char)) else throw .outOfRange) = .ok (y, rest) := by
  simp [h₁, h₂, pure, Except.pure]

theorem ok_bind {ε α β : Type} (a : α) (f : α → Except ε β) : (Except.ok a >>= f) = f a := rfl

/-! The reader binds the fields it has read as pairs, so after a step the year it checks is a
projection of a pair. Each lemma below rewrites the step with `ok_bind` and `pure_bind` and
restates the year plainly with `show`, so that the check of the proof never compares two
instances of that range check that differ up to such a projection: the kernel would evaluate
them by unfolding the bound `2 ^ 31` in unary. -/

/-- A year from 0 to 9999 is four digits, read by the branch without a sign. -/
theorem year_unsigned {y : Int} (h₀ : 0 ≤ y) (h₁ : y ≤ 9999) (rest : List Char) :
    year ((padded 4 y.toNat).toList ++ '-' :: rest) = .ok (y, '-' :: rest) := by
  obtain ⟨c, cs, hcs⟩ := List.exists_cons_of_ne_nil (padded_ne_nil 4 y.toNat)
  have hc : c.isDigit = true := padded_isDigit 4 y.toNat c (by rw [hcs]; simp)
  have hread := digits_magnitude 4 y.toNat (by omega) rest (by rw [padded_length] <;> omega)
  rw [hcs, List.cons_append] at hread ⊢
  -- a digit is no sign
  have hminus : c ≠ '-' := fun h => by rw [h] at hc; cases hc
  have hplus : c ≠ '+' := fun h => by rw [h] at hc; cases hc
  unfold year
  simp only [trimBlanks_cons (isBlank_of_isDigit hc)]
  split
  · next heq => exact absurd (List.cons.inj heq).1 hminus
  · next heq => exact absurd (List.cons.inj heq).1 hplus
  · rw [hread, ok_bind, pure_bind, yearCheck_ok]
    · show Except.ok ((y.toNat : Int), '-' :: rest) = _
      rw [Int.toNat_of_nonneg h₀]
    · show -2147483648 ≤ (y.toNat : Int)
      omega
    · show (y.toNat : Int) < 2147483648
      omega

/-- A negative year is a minus and the digits of its magnitude. -/
theorem year_minus {y : Int} (h₀ : y < 0) (h₁ : -2147483648 ≤ y) (rest : List Char) :
    year ('-' :: ((padded 4 y.natAbs).toList ++ '-' :: rest)) = .ok (y, '-' :: rest) := by
  unfold year
  simp only [trimBlanks_cons (by decide : isBlank '-' = false)]
  rw [digits_magnitude _ y.natAbs (by omega) rest (by simp; omega), ok_bind, pure_bind,
    yearCheck_ok]
  · show Except.ok (-(y.natAbs : Int), '-' :: rest) = _
    rw [show -(y.natAbs : Int) = y by omega]
  · show -2147483648 ≤ -(y.natAbs : Int)
    omega
  · show -(y.natAbs : Int) < 2147483648
    omega

/-- A year past 9999 is a plus and its digits. -/
theorem year_plus {y : Int} (h₀ : 0 ≤ y) (h₁ : y < 2147483648) (rest : List Char) :
    year ('+' :: ((padded 4 y.natAbs).toList ++ '-' :: rest)) = .ok (y, '-' :: rest) := by
  unfold year
  simp only [trimBlanks_cons (by decide : isBlank '+' = false)]
  rw [digits_magnitude _ y.natAbs (by omega) rest (by simp; omega), ok_bind, pure_bind,
    yearCheck_ok]
  · show Except.ok ((y.natAbs : Int), '-' :: rest) = _
    rw [show (y.natAbs : Int) = y by omega]
  · show -2147483648 ≤ (y.natAbs : Int)
    omega
  · show (y.natAbs : Int) < 2147483648
    omega

/-- A year in range, followed by the dash before the month, reads back. -/
theorem year_yearText {y : Int} (h₁ : minYear ≤ y) (h₂ : y ≤ maxYear) (rest : List Char) :
    year ((yearText y).toList ++ '-' :: rest) = .ok (y, '-' :: rest) := by
  simp only [minYear, maxYear] at h₁ h₂
  unfold yearText
  by_cases hy : 0 ≤ y ∧ y ≤ 9999
  · simp only [hy, decide_true, Bool.and_self, if_true]
    exact year_unsigned hy.1 hy.2 rest
  · have hy' : (decide (0 ≤ y) && decide (y ≤ 9999)) = false := by simpa using hy
    simp only [hy', Bool.false_eq_true, if_false, String.toList_append]
    by_cases hneg : y < 0
    · simp only [hneg, if_true, show ("-" : String).toList = ['-'] from rfl, List.cons_append,
        List.nil_append]
      exact year_minus hneg (by omega) rest
    · simp only [hneg, if_false, show ("+" : String).toList = ['+'] from rfl, List.cons_append,
        List.nil_append]
      exact year_plus (by omega) (by omega) rest

/-- A fraction written in `w` digits `k`, followed by `Z`, reads as `k` scaled to
nanoseconds. -/
theorem fraction_padded (w k : Nat) (hw : 0 < w) (hw9 : w ≤ 9) (hk : k < 10 ^ w)
    (rest : List Char) :
    fraction (("." ++ padded w k).toList ++ 'Z' :: rest) =
      .ok (k * Nat.pow 10 (9 - w), 'Z' :: rest) := by
  have hlen := padded_length hw hk
  have hbig : k < Nat.pow 2 63 := calc
    k < 10 ^ w := hk
    _ ≤ 10 ^ 9 := Nat.pow_le_pow_right (by decide) hw9
    _ < Nat.pow 2 63 := by decide
  have hread : digits 1 9 ((padded w k).toList ++ 'Z' :: rest) = .ok (k, 'Z' :: rest) :=
    digits_padded (noDigitHead_cons _ (by decide)) hw hk (by omega) hw9 hbig
  -- the digits read are exactly the `w` written, so the scale is `9 - w`
  have hused : ((padded w k).toList ++ 'Z' :: rest).length - ('Z' :: rest).length = w := by
    simp [hlen]
  rw [String.toList_append, show ("." : String).toList = ['.'] from rfl, List.cons_append,
    List.nil_append, List.cons_append]
  simp only [fraction, hread, bind, Except.bind, pure, Except.pure, hused]
  simp

/-- The fraction of a second, followed by `Z`, reads back as its nanoseconds. -/
theorem fraction_text {nano : Nat} (hn : nano < 1000000000) (rest : List Char) :
    fraction ((fractionText nano).toList ++ 'Z' :: rest) = .ok (nano, 'Z' :: rest) := by
  unfold fractionText
  by_cases h0 : nano = 0
  · subst h0
    simp [fraction]
  simp only [h0, beq_iff_eq, if_false]
  by_cases h6 : nano % 1000000 = 0
  · simp only [h6, if_true]
    rw [fraction_padded 3 (nano / 1000000) (by decide) (by decide) (by simp; omega)]
    simp
    omega
  by_cases h3 : nano % 1000 = 0
  · simp only [h6, h3, if_true, if_false]
    rw [fraction_padded 6 (nano / 1000) (by decide) (by decide) (by simp; omega)]
    simp
    omega
  · simp only [h6, h3, if_false]
    rw [fraction_padded 9 nano (by decide) le_rfl (by simp; omega)]
    simp

/-! ## The whole text -/

theorem text_toList (t : Instant) :
    t.text.toList = (yearText t.year).toList ++ '-' :: ((padded 2 t.month).toList ++ '-' ::
      ((padded 2 t.day).toList ++ 'T' :: ((padded 2 t.hour).toList ++ ':' ::
        ((padded 2 t.minute).toList ++ ':' :: ((padded 2 t.second).toList ++
          ((fractionText t.nano).toList ++ ['Z'])))))) := by
  simp [text, dateText, clockText, String.toList_append]

/-- After the seconds comes the fraction, a dot or nothing, and then `Z`: no digit. -/
theorem noDigitHead_fractionText (nano : Nat) (rest : List Char) :
    NoDigitHead ((fractionText nano).toList ++ 'Z' :: rest) := by
  unfold fractionText
  split_ifs <;>
    simp only [String.toList_append, show ("." : String).toList = ['.'] from rfl,
      String.toList_empty, List.nil_append, List.cons_append] <;>
    exact noDigitHead_cons _ (by decide)

/-- The fields of the text of a valid instant are its own, with the offset zero. -/
theorem fields_text {t : Instant} (h : t.Valid) :
    fields t.text.toList =
      .ok (⟨t.year, t.month, t.day, t.hour, t.minute, t.second, t.nano, 0⟩, []) := by
  have hday := h.day
  simp only [validDay, Bool.and_eq_true, decide_eq_true_eq] at hday
  obtain ⟨⟨⟨⟨⟨hy₁, hy₂⟩, hm₁⟩, hm₂⟩, hd₁⟩, hd₂⟩ := hday
  have hdim : daysInMonth t.year t.month ≤ 31 := by
    unfold daysInMonth
    split <;> (try split) <;> omega
  have hh := h.hour
  have hmi := h.minute
  have hs := h.second
  have hz : trimBlanks ['Z'] = ['Z'] := trimBlanks_cons (by decide) []
  -- each field reads back and leaves the text after it, up to the final `Z`
  rw [text_toList]
  unfold fields
  simp only [year_yearText hy₁ hy₂, ok_bind, literal_self (by decide : isBlank '-' = false),
    literal_self (by decide : isBlank ':' = false),
    field_padded (noDigitHead_cons '-' (by decide)) (show t.month < 100 by omega) hm₁ hm₂,
    field_padded (noDigitHead_cons 'T' (by decide)) (show t.day < 100 by omega) hd₁
      (show t.day ≤ 31 by omega),
    field_padded (noDigitHead_cons ':' (by decide)) (show t.hour < 100 by omega) (Nat.zero_le _)
      (show t.hour ≤ 23 by omega),
    field_padded (noDigitHead_cons ':' (by decide)) (show t.minute < 100 by omega)
      (Nat.zero_le _) (show t.minute ≤ 59 by omega),
    field_padded (noDigitHead_fractionText t.nano []) (show t.second < 100 by omega)
      (Nat.zero_le _) hs,
    fraction_text h.nano, pure_bind]
  simp [hz, (by decide : startsUtc ['Z'] = false), offset]

/-- A valid instant shifted by nothing stays where it is. -/
theorem shift_zero {t : Instant} (h : t.Valid) : t.shift 0 = some t := by
  obtain ⟨year, month, day, hour, minute, second, nano⟩ := t
  have hh : hour < 24 := h.hour
  have hm : minute < 60 := h.minute
  have hs : second ≤ 60 := h.second
  unfold shift
  simp only [Int.add_zero]
  -- the clock counts a leap second as the 59th second of its minute
  generalize hk : (if (second == 60) = true then 59 else second) = k
  have hk' : (second = 60 ∧ k = 59) ∨ (second < 60 ∧ k = second) := by
    by_cases h60 : second = 60 <;> simp [h60] at hk <;> omega
  have hk59 : k ≤ 59 := by rcases hk' with ⟨_, hk⟩ | ⟨_, hk⟩ <;> omega
  -- the clock stays within its day
  have hafter : ¬((hour : Int) * 3600 + minute * 60 + k < 0) := by omega
  have hbefore : ¬((hour : Int) * 3600 + minute * 60 + k ≥ 86400) := by omega
  simp only [hafter, hbefore, if_false, Option.map_some, Option.some.injEq, Instant.mk.injEq,
    true_and, and_true]
  rcases hk' with ⟨rfl, rfl⟩ | ⟨hlt, rfl⟩
  · simp
    omega
  · simp [Nat.ne_of_lt hlt]
    omega

/-- **The text of an instant reads back.** A valid instant written as RFC 3339 text reads as
itself, to the nanosecond. -/
theorem read_text {t : Instant} (h : t.Valid) : read t.text = .ok t := by
  unfold read
  rw [fields_text h, ok_bind]
  simp [trimBlanks, h.day, shift_zero h, pure, Except.pure]

end Rfc3339

end BearerSession.Clock
