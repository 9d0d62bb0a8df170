import Mathlib.Data.Prod.Lex
import Mathlib.Tactic.IntervalCases
import Mathlib.Tactic.Lemma
import Rehearsal.Time.Date

/-!
# The calendar day by day

Dates are in order by year, then month, then day. Later days have later dates, and the days that
clocks can show are exactly those of the calendar from the year 1 to the year 9999. Both come down
to one fact about years that begin in March: where each of them begins and ends.
-/

namespace Rehearsal.Date

/-- What dates are compared by: the year counts most, then the month. -/
def key (d : Date) : Int ×ₗ Nat ×ₗ Nat := toLex (d.year, toLex (d.month, d.day))

instance : LinearOrder Date := LinearOrder.lift' key (by
  rintro ⟨y, m, d⟩ ⟨y', m', d'⟩ h
  cases h
  rfl)

lemma lt_iff (a b : Date) : a < b ↔ a.year < b.year ∨
    a.year = b.year ∧ (a.month < b.month ∨ a.month = b.month ∧ a.day < b.day) := by
  have compared : a < b ↔ a.key < b.key := Iff.rfl
  rw [compared, key, key, Prod.Lex.toLex_lt_toLex, Prod.Lex.toLex_lt_toLex]

def IsLeap (year : Int) : Prop := 4 ∣ year ∧ (¬ 100 ∣ year ∨ 400 ∣ year)

instance (year : Int) : Decidable (IsLeap year) :=
  inferInstanceAs (Decidable (4 ∣ year ∧ (¬ 100 ∣ year ∨ 400 ∣ year)))

/-- How many days a month has. -/
def daysIn (year : Int) (month : Nat) : Nat :=
  if month = 2 then (if IsLeap year then 29 else 28)
  else if month = 4 ∨ month = 6 ∨ month = 9 ∨ month = 11 then 30
  else 31

/-- A day of the calendar, in a year with at most four digits. -/
structure OnCalendar (d : Date) : Prop where
  year : 1 ≤ d.year ∧ d.year ≤ 9999
  month : 1 ≤ d.month ∧ d.month ≤ 12
  day : 1 ≤ d.day ∧ d.day ≤ daysIn d.year d.month

section Cycle

/-- The days of a cycle that are over when a year of it begins. -/
def daysBefore (y : Nat) : Nat := 365 * y + y / 4 - y / 100 + y / 400

lemma yearOfCycle_mono {d e : Nat} (h : d ≤ e) : yearOfCycle d ≤ yearOfCycle e := by
  have common : d - d / 1460 ≤ e - e / 1460 := by omega
  have leap : d / 36524 - d / 146096 ≤ e / 36524 - e / 146096 := by
    have fourth (n : Nat) : n / 146096 = n / 36524 / 4 := (Nat.div_div_eq_div_mul n 36524 4).symm
    have century : d / 36524 ≤ e / 36524 := Nat.div_le_div_right h
    rw [fourth d, fourth e]
    omega
  apply Nat.div_le_div_right
  omega

/-- The first and the last day of each year. -/
lemma yearOfCycle_ends : ∀ y < 400, yearOfCycle (daysBefore y) = y ∧
    yearOfCycle (daysBefore (y + 1) - 1) = y := by
  decide +kernel

/-- The years of a cycle only grow with its days, so a day outside of the year that is found for
it would be beyond one of that year's ends. -/
lemma yearOfCycle_spans {d : Nat} (h : d < 146097) : yearOfCycle d < 400 ∧
    daysBefore (yearOfCycle d) ≤ d ∧ d < daysBefore (yearOfCycle d + 1) := by
  have inside : yearOfCycle d ≤ 399 := yearOfCycle_mono (Nat.le_of_lt_succ h)
  refine ⟨by omega, ?_, ?_⟩
  · by_contra later
    rcases found : yearOfCycle d with _ | y
    · rw [found] at later
      exact later (Nat.zero_le d)
    · rw [found] at later inside
      have bound : yearOfCycle d ≤ yearOfCycle (daysBefore (y + 1) - 1) := by
        apply yearOfCycle_mono
        omega
      rw [found, (yearOfCycle_ends y (by omega)).2] at bound
      omega
  · by_contra earlier
    by_cases last : yearOfCycle d = 399
    · rw [last] at earlier
      exact earlier h
    · have bound : yearOfCycle (daysBefore (yearOfCycle d + 1)) ≤ yearOfCycle d := by
        apply yearOfCycle_mono
        omega
      rw [(yearOfCycle_ends _ (by omega)).1] at bound
      omega

end Cycle

section March

/-- The first of March of a year, as a day. -/
def firstOfMarch (year : Int) : Int :=
  365 * year + year / 4 - year / 100 + year / 400 - epochOffset

/-- The days from the first of March to the month that is so many months after. -/
def monthStart (m : Nat) : Nat := (153 * m + 2) / 5

/-- The number that the calendar gives to that month. -/
def monthNumber (m : Nat) : Nat := if m < 10 then m + 3 else m - 9

/-- The date in a month counted from March. -/
def ofMarchMonth (year : Int) (m k : Nat) : Date where
  year := year + (if monthNumber m ≤ 2 then 1 else 0)
  month := monthNumber m
  day := k - monthStart m + 1

/-- The date so many days after the first of March. -/
def fromMarch (year : Int) (k : Nat) : Date := ofMarchMonth year ((5 * k + 2) / 153) k

lemma firstOfMarch_cycle (y : Nat) (cycle : Int) :
    firstOfMarch (y + cycle * 400) = daysBefore y + cycle * 146097 - epochOffset := by
  have fourth : (y + cycle * 400) / 4 = (y : Int) / 4 + cycle * 100 := by omega
  have century : (y + cycle * 400) / 100 = (y : Int) / 100 + cycle * 4 := by omega
  have whole : (y + cycle * 400) / 400 = (y : Int) / 400 + cycle := by omega
  rw [firstOfMarch, daysBefore, fourth, century, whole]
  omega

/-- The leap day of a year that begins in March is its last, in February of the next. -/
lemma firstOfMarch_succ (year : Int) : firstOfMarch (year + 1) =
    firstOfMarch year + if IsLeap (year + 1) then 366 else 365 := by
  by_cases leap : IsLeap (year + 1)
  · rw [if_pos leap, firstOfMarch, firstOfMarch]
    rw [IsLeap] at leap
    omega
  · rw [if_neg leap, firstOfMarch, firstOfMarch]
    rw [IsLeap] at leap
    omega

lemma firstOfMarch_mono {year later : Int} (h : year ≤ later) :
    firstOfMarch year ≤ firstOfMarch later := by
  rw [firstOfMarch, firstOfMarch]
  omega

lemma year_le {year later : Int} (h : firstOfMarch year < firstOfMarch (later + 1)) :
    year ≤ later := by
  by_contra after
  have back : firstOfMarch (later + 1) ≤ firstOfMarch year := firstOfMarch_mono (by omega)
  omega

lemma within_year {year : Int} {k : Nat} (h : firstOfMarch year + k < firstOfMarch (year + 1)) :
    k < 366 := by
  rw [firstOfMarch_succ] at h
  split at h <;> omega

/-- Every day lies in a year that begins in March. -/
lemma ofDays_eq (n : Int) : ∃ (year : Int) (k : Nat), n = firstOfMarch year + k ∧
    n < firstOfMarch (year + 1) ∧ ofDays n = fromMarch year k := by
  obtain ⟨cycle, d, inside, split⟩ : ∃ (cycle : Int) (d : Nat), d < 146097 ∧
      n + epochOffset = d + cycle * 146097 :=
    ⟨(n + epochOffset) / 146097, ((n + epochOffset) % 146097).toNat, by omega, by omega⟩
  have floored : (n + epochOffset).fdiv 146097 = cycle := by
    rw [Int.fdiv_eq_ediv_of_nonneg _ (by decide)]
    omega
  have rest : (n + epochOffset - cycle * 146097).toNat = d := by omega
  obtain ⟨small, after, before⟩ := yearOfCycle_spans inside
  have start : daysBefore (yearOfCycle d) =
      365 * yearOfCycle d + yearOfCycle d / 4 - yearOfCycle d / 100 := by
    rw [daysBefore]
    omega
  have begins := firstOfMarch_cycle (yearOfCycle d) cycle
  have ends := firstOfMarch_cycle (yearOfCycle d + 1) cycle
  have next : (yearOfCycle d + cycle * 400 + 1 : Int) =
      (yearOfCycle d + 1 : Nat) + cycle * 400 := by omega
  refine ⟨yearOfCycle d + cycle * 400, d - daysBefore (yearOfCycle d), by omega, ?_, ?_⟩
  · rw [next]
    omega
  · simp only [ofDays]
    rw [floored, rest, start]
    rfl

lemma ofDays_fromMarch {year : Int} {k : Nat}
    (h : firstOfMarch year + k < firstOfMarch (year + 1)) :
    ofDays (firstOfMarch year + k) = fromMarch year k := by
  obtain ⟨other, j, same, ends, dated⟩ := ofDays_eq (firstOfMarch year + k)
  obtain rfl : year = other := le_antisymm (year_le (by omega)) (year_le (by omega))
  obtain rfl : k = j := by omega
  exact dated

lemma fromMarch_lt {year : Int} {k j : Nat} (h : k < j) (inside : j < 366) :
    fromMarch year k < fromMarch year j := by
  rw [lt_iff]
  simp only [fromMarch, ofMarchMonth, monthNumber, monthStart]
  split <;> split <;> split <;> split <;> omega

lemma fromMarch_lt_later {year later : Int} {k : Nat} (h : year < later) (inside : k < 366)
    (j : Nat) : fromMarch year k < fromMarch later j := by
  rw [lt_iff]
  simp only [fromMarch, ofMarchMonth, monthNumber, monthStart]
  split <;> split <;> split <;> split <;> omega

lemma month_eq_iff (k m : Nat) :
    (5 * k + 2) / 153 = m ↔ monthStart m ≤ k ∧ k < monthStart (m + 1) := by
  rw [monthStart, monthStart]
  omega

/-- Only February depends on the year, and it is the last of these months. -/
lemma monthStart_succ (year : Int) {m : Nat} (h : m < 11) :
    monthStart (m + 1) = monthStart m + daysIn year (monthNumber m) := by
  interval_cases m <;> rfl

lemma monthStart_mono {m n : Nat} (h : m ≤ n) : monthStart m ≤ monthStart n := by
  rw [monthStart, monthStart]
  omega

lemma daysIn_le (year : Int) (month : Nat) : daysIn year month ≤ 31 := by
  rw [daysIn]
  split
  · split <;> omega
  · split <;> omega

/-- A day of a month is on the calendar if neither the month nor the year is over by then. -/
lemma day_le_daysIn_iff {year : Int} {m k : Nat} (h : m ≤ 11) (inside : monthStart m ≤ k) :
    (firstOfMarch year + k < firstOfMarch (year + 1) ∧ k < monthStart (m + 1)) ↔
      (ofMarchMonth year m k).day ≤
        daysIn (ofMarchMonth year m k).year (ofMarchMonth year m k).month := by
  simp only [ofMarchMonth]
  rw [firstOfMarch_succ]
  rcases Nat.lt_or_eq_of_le h with early | rfl
  · have ends : monthStart (m + 1) ≤ 337 := monthStart_mono early
    have length := monthStart_succ (year + if monthNumber m ≤ 2 then 1 else 0) early
    split <;> omega
  · have february : daysIn (year + 1) 2 = if IsLeap (year + 1) then 29 else 28 := rfl
    have starts : monthStart 11 = 337 := rfl
    have ends : monthStart (11 + 1) = 367 := rfl
    have second : monthNumber 11 = 2 := rfl
    rw [second, if_pos (Nat.le_refl 2), february, starts, ends]
    split <;> omega

end March

/-- Later days have later dates. -/
theorem ofDays_lt_iff {m n : Int} : ofDays m < ofDays n ↔ m < n := by
  have later {m n : Int} (h : m < n) : ofDays m < ofDays n := by
    obtain ⟨year, k, startM, endM, datedM⟩ := ofDays_eq m
    obtain ⟨later, j, startN, endN, datedN⟩ := ofDays_eq n
    have forward : year ≤ later := year_le (by omega)
    rw [datedM, datedN]
    rcases lt_or_eq_of_le forward with before | rfl
    · exact fromMarch_lt_later before (within_year (startM ▸ endM)) j
    · exact fromMarch_lt (by omega) (within_year (startN ▸ endN))
  constructor
  · intro h
    by_contra back
    rcases Int.lt_or_eq_of_le (Int.not_lt.mp back) with before | rfl
    · exact lt_asymm h (later before)
    · exact lt_irrefl _ h
  · intro h
    exact later h

/-- A day of the calendar, found from the March before it. -/
lemma OnCalendar.exists_day {d : Date} (h : d.OnCalendar) : ∃ n, ofDays n = d := by
  obtain ⟨m, bound, number⟩ : ∃ m ≤ 11, monthNumber m = d.month := by
    have month := h.month
    refine ⟨if d.month ≤ 2 then d.month + 9 else d.month - 3, ?_, ?_⟩
    · split <;> omega
    · rw [monthNumber]
      split <;> split <;> omega
  have day := h.day
  obtain ⟨k, counted⟩ : ∃ k, k + 1 = monthStart m + d.day := ⟨monthStart m + d.day - 1, by omega⟩
  obtain ⟨year, before⟩ : ∃ year, year + (if d.month ≤ 2 then 1 else 0) = d.year :=
    ⟨d.year - (if d.month ≤ 2 then 1 else 0), by omega⟩
  have dated : ofMarchMonth year m k = d := by
    rw [ofMarchMonth, number, before]
    congr
    omega
  have inside : monthStart m ≤ k := by omega
  obtain ⟨ends, late⟩ := (day_le_daysIn_iff bound inside).mpr (by rw [dated]; exact day.2)
  refine ⟨firstOfMarch year + k, ?_⟩
  rw [ofDays_fromMarch ends, fromMarch, (month_eq_iff k m).mpr ⟨inside, late⟩, dated]

lemma ofDays_inside (n : Int) : (1 ≤ (ofDays n).month ∧ (ofDays n).month ≤ 12) ∧
    1 ≤ (ofDays n).day ∧ (ofDays n).day ≤ daysIn (ofDays n).year (ofDays n).month := by
  obtain ⟨year, k, rfl, ends, dated⟩ := ofDays_eq n
  obtain ⟨m, found⟩ : ∃ m, (5 * k + 2) / 153 = m := ⟨_, rfl⟩
  obtain ⟨inside, late⟩ := (month_eq_iff k m).mp found
  have bound : m ≤ 11 := by
    have := within_year ends
    omega
  rw [dated, fromMarch, found]
  refine ⟨?_, Nat.le_add_left 1 _, (day_le_daysIn_iff bound inside).mp ⟨ends, late⟩⟩
  simp only [ofMarchMonth, monthNumber]
  split <;> omega

lemma ofDays_year (n : Int) : (1 ≤ (ofDays n).year ∧ (ofDays n).year ≤ 9999) ↔
    -719162 ≤ n ∧ n ≤ 2932896 := by
  have first : ofDays (-719162) = ⟨1, 1, 1⟩ := by decide
  have last : ofDays 2932896 = ⟨9999, 12, 31⟩ := by decide
  have early : ofDays n < ofDays (-719162) ↔ n < -719162 := ofDays_lt_iff
  have late : ofDays 2932896 < ofDays n ↔ 2932896 < n := ofDays_lt_iff
  obtain ⟨month, day⟩ := ofDays_inside n
  have length := daysIn_le (ofDays n).year (ofDays n).month
  rw [first, lt_iff] at early
  rw [last, lt_iff] at late
  dsimp only at early late
  omega

/-- The days that clocks can show are the days of the calendar. -/
theorem onCalendar_iff (d : Date) :
    d.OnCalendar ↔ ∃ n : Int, -719162 ≤ n ∧ n ≤ 2932896 ∧ ofDays n = d := by
  constructor
  · intro h
    obtain ⟨n, rfl⟩ := h.exists_day
    obtain ⟨low, high⟩ := (ofDays_year n).mp h.year
    exact ⟨n, low, high, rfl⟩
  · rintro ⟨n, low, high, rfl⟩
    obtain ⟨month, day⟩ := ofDays_inside n
    exact ⟨(ofDays_year n).mpr ⟨low, high⟩, month, day⟩

end Rehearsal.Date
