import Rehearsal.Proofs.CalendarDays

/-!
# Dates as text

Years have four digits in a date's text and months and days two, so texts of dates are in the order
of the dates. Numbers that are written with equally many digits are in the order of their texts,
because their tens decide first and their last digits only then.
-/

namespace Rehearsal

namespace Decimal

/-- Texts whose beginnings are equally long are compared by their beginnings first. -/
lemma append_lt_append_iff {α : Type} [LT α] [Std.Irrefl (· < · : α → α → Prop)]
    {p q r s : List α} (h : p.length = q.length) : p ++ r < q ++ s ↔ p < q ∨ p = q ∧ r < s := by
  induction p generalizing q with
  | nil =>
    obtain rfl := List.length_eq_zero_iff.mp h.symm
    simp
  | cons a p ih =>
    rcases q with _ | ⟨b, q⟩
    · cases h
    · have rest := ih (Nat.succ.inj h)
      simp only [List.cons_append, List.cons_lt_cons_iff, rest, List.cons.injEq, and_or_left,
        or_assoc, and_assoc]

lemma digitChar_lt_iff {m n : Nat} (hm : m < 10) (hn : n < 10) :
    m.digitChar < n.digitChar ↔ m < n := by
  have first := Nat.toNat_digitChar_of_lt_ten hm
  have second := Nat.toNat_digitChar_of_lt_ten hn
  rw [Char.toNat] at first second
  rw [Char.lt_def, UInt32.lt_iff_toNat_lt]
  omega

/-- The last digit stands behind those of the tens. -/
lemma padLeft_concat (width n : Nat) : padLeft (width + 2) (digitChars n) =
    padLeft (width + 1) (digitChars (n / 10)) ++ [(n % 10).digitChar] := by
  simp only [padLeft, digitChars]
  rcases Nat.lt_or_ge n 10 with small | large
  · rw [Nat.toDigits_of_lt_base small, Nat.div_eq_of_lt small, Nat.mod_eq_of_lt small,
      Nat.toDigits_zero]
    simp [← List.replicate_succ']
  · rw [Nat.toDigits_of_base_le (by decide) large]
    simp

lemma padLeft_length {width n : Nat} (h : n < 10 ^ (width + 1)) :
    (padLeft (width + 1) (digitChars n)).length = width + 1 := by
  have short := (Nat.length_toDigits_le_iff (b := 10) (by decide) width.succ_pos).mpr h
  simp only [padLeft, digitChars, List.length_append, List.length_replicate]
  omega

/-- Zeros in front do not change what is read. -/
lemma padLeft_inj {width m n : Nat} :
    padLeft width (digitChars m) = padLeft width (digitChars n) ↔ m = n := by
  have read (k : Nat) : Nat.ofDigitChars 10 (padLeft width (digitChars k)) 0 = k := by
    simp [padLeft, digitChars, Nat.ofDigitChars_append]
  constructor
  · intro same
    rw [← read m, same, read n]
  · rintro rfl
    rfl

lemma padLeft_lt_iff {width m n : Nat} (hm : m < 10 ^ (width + 1)) (hn : n < 10 ^ (width + 1)) :
    padLeft (width + 1) (digitChars m) < padLeft (width + 1) (digitChars n) ↔ m < n := by
  have last (j k : Nat) : [(j % 10).digitChar] < [(k % 10).digitChar] ↔ j % 10 < k % 10 := by
    rw [List.cons_lt_cons_iff,
      digitChar_lt_iff (Nat.mod_lt j (by decide)) (Nat.mod_lt k (by decide))]
    simp
  induction width generalizing m n with
  | zero =>
    have single {k : Nat} (h : k < 10) : padLeft (0 + 1) (digitChars k) = [(k % 10).digitChar] := by
      rw [digitChars, Nat.toDigits_of_lt_base h, Nat.mod_eq_of_lt h]
      rfl
    rw [single hm, single hn, last]
    omega
  | succ width ih =>
    rw [Nat.pow_succ] at hm hn
    have tens {k : Nat} (h : k < 10 ^ (width + 1) * 10) : k / 10 < 10 ^ (width + 1) := by omega
    have even : (padLeft (width + 1) (digitChars (m / 10))).length =
        (padLeft (width + 1) (digitChars (n / 10))).length := by
      rw [padLeft_length (tens hm), padLeft_length (tens hn)]
    have front : padLeft (width + 1) (digitChars (m / 10)) <
        padLeft (width + 1) (digitChars (n / 10)) ↔ m / 10 < n / 10 := ih (tens hm) (tens hn)
    rw [padLeft_concat, padLeft_concat, append_lt_append_iff even, front, padLeft_inj, last]
    omega

end Decimal

namespace Date

open Decimal

lemma iso_toList (d : Date) : d.iso.toList = padLeft 4 (digitChars d.year.toNat) ++
    ('-' :: (padLeft 2 (digitChars d.month) ++ ('-' :: padLeft 2 (digitChars d.day)))) := by
  simp [iso, padded]

lemma iso_ne_empty (d : Date) : d.iso ≠ "" := by
  intro h
  have letters := d.iso_toList
  rw [h] at letters
  simp at letters

lemma iso_lt_iff {a b : Date} (ha : a.OnCalendar) (hb : b.OnCalendar) : a.iso < b.iso ↔ a < b := by
  have yearA := ha.year
  have yearB := hb.year
  have years : a.year.toNat < 10 ^ (3 + 1) ∧ b.year.toNat < 10 ^ (3 + 1) := by omega
  have months : a.month < 10 ^ (1 + 1) ∧ b.month < 10 ^ (1 + 1) := by
    have monthA := ha.month
    have monthB := hb.month
    omega
  have days : a.day < 10 ^ (1 + 1) ∧ b.day < 10 ^ (1 + 1) := by
    have dayA := ha.day.2.trans (daysIn_le _ _)
    have dayB := hb.day.2.trans (daysIn_le _ _)
    omega
  have compared : a.iso < b.iso ↔ a.iso.toList < b.iso.toList := Iff.rfl
  have hyphen (p q : List Char) : '-' :: p < '-' :: q ↔ p < q := by
    rw [List.cons_lt_cons_iff]
    simp
  have evenYears := (padLeft_length years.1).trans (padLeft_length years.2).symm
  have evenMonths := (padLeft_length months.1).trans (padLeft_length months.2).symm
  rw [lt_iff, compared, iso_toList, iso_toList, append_lt_append_iff evenYears, hyphen,
    append_lt_append_iff evenMonths, hyphen, padLeft_lt_iff years.1 years.2,
    padLeft_lt_iff months.1 months.2, padLeft_lt_iff days.1 days.2, padLeft_inj, padLeft_inj]
  omega

/-- Texts of dates are in the order of the dates. -/
theorem iso_le_iff {a b : Date} (ha : a.OnCalendar) (hb : b.OnCalendar) :
    a.iso ≤ b.iso ↔ a ≤ b := by
  rw [← String.not_lt, iso_lt_iff hb ha, not_lt]

/-- Zeros in front keep the years of the first millennium before those of the second. -/
example : iso ⟨999, 12, 31⟩ ≤ iso ⟨1000, 1, 1⟩ := by decide +kernel

end Date
end Rehearsal
