import Mathlib.Data.Nat.Basic
import Mathlib.Tactic.ByContra
import Mathlib.Tactic.Lemma
import Rehearsal.Text.Bytes

/-!
# Characters and their bytes

The bytes of a text are read as that text again. Whatever bytes are read, an ASCII character
comes from a byte below 128 only.
-/

namespace Rehearsal.Text

lemma toList_loop (b : ByteArray) (i : Nat) (read : List UInt8) :
    ByteArray.toList.loop b i read = read.reverse ++ b.data.toList.drop i := by
  fun_induction ByteArray.toList.loop b i read with
  | case1 i read inside ih =>
    have inside' : i < b.data.toList.length := inside
    have here : b.get! i = b.data.toList[i] := by simp [ByteArray.get!, inside]
    rw [ih, List.reverse_cons, List.append_assoc, here, List.singleton_append,
      List.getElem_cons_drop]
  | case2 i read outside =>
    have outside' : b.data.toList.length ≤ i := Nat.le_of_not_lt outside
    rw [List.drop_eq_nil_of_le outside', List.append_nil]

lemma toList_data (b : ByteArray) : b.toList = b.data.toList := by
  rw [ByteArray.toList, toList_loop]
  rfl

/-- The bytes of a character. -/
def charBytes (c : Char) : List Nat := (String.utf8EncodeChar c).map (·.toNat)

lemma bytesOf_ofList (s : List Char) : bytesOf (String.ofList s) = s.flatMap charBytes := by
  have encoded : (String.ofList s).toUTF8.toList = s.flatMap String.utf8EncodeChar := by
    rw [String.toUTF8_eq_toByteArray, String.toByteArray_ofList, toList_data, List.utf8Encode,
      List.toList_data_toByteArray]
  rw [bytesOf, encoded, List.map_flatMap]
  rfl

/-- How many bytes a character has depends on its number alone. -/
inductive Coded (c : Char) : List Nat → Prop
  | one (h : c.toNat < 0x80) : Coded c [c.toNat]
  | two (h : 0x80 ≤ c.toNat) (k : c.toNat < 0x800) :
      Coded c [c.toNat / 64 + 0xC0, c.toNat % 64 + 0x80]
  | three (h : 0x800 ≤ c.toNat) (k : c.toNat < 0x10000) :
      Coded c [c.toNat / 4096 + 0xE0, c.toNat / 64 % 64 + 0x80, c.toNat % 64 + 0x80]
  | four (h : 0x10000 ≤ c.toNat) :
      Coded c [c.toNat / 262144 + 0xF0, c.toNat / 4096 % 64 + 0x80, c.toNat / 64 % 64 + 0x80,
        c.toNat % 64 + 0x80]

lemma scalar (c : Char) : c.toNat < 0xD800 ∨ 0xDFFF < c.toNat ∧ c.toNat < 0x110000 := c.valid

lemma coded (c : Char) : Coded c (charBytes c) := by
  have valid := scalar c
  have byte (n : Nat) (h : n < 256) : (UInt8.ofNat n).toNat = n := Nat.mod_eq_of_lt h
  unfold charBytes
  fun_cases String.utf8EncodeChar c with
  | case1 v low =>
    have low : c.toNat ≤ 127 := low
    have number : v = c.toNat := rfl
    rw [number, List.map_singleton, byte _ (by omega)]
    exact .one (by omega)
  | case2 v high low =>
    have high : ¬ c.toNat ≤ 127 := high
    have low : c.toNat ≤ 2047 := low
    have number : v = c.toNat := rfl
    have lead : c.toNat / 64 % 32 = c.toNat / 64 := Nat.mod_eq_of_lt (by omega)
    rw [number, List.map_cons, List.map_singleton, lead, byte _ (by omega), byte _ (by omega)]
    exact .two (by omega) (by omega)
  | case3 v high high' low =>
    have high : ¬ c.toNat ≤ 2047 := high'
    have low : c.toNat ≤ 65535 := low
    have number : v = c.toNat := rfl
    have lead : c.toNat / 4096 % 16 = c.toNat / 4096 := Nat.mod_eq_of_lt (by omega)
    rw [number, List.map_cons, List.map_cons, List.map_singleton, lead, byte _ (by omega),
      byte _ (by omega), byte _ (by omega)]
    exact .three (by omega) (by omega)
  | case4 v high high' high'' =>
    have high : ¬ c.toNat ≤ 65535 := high''
    have number : v = c.toNat := rfl
    have lead : c.toNat / 262144 % 8 = c.toNat / 262144 := Nat.mod_eq_of_lt (by omega)
    rw [number, List.map_cons, List.map_cons, List.map_cons, List.map_singleton, lead,
      byte _ (by omega), byte _ (by omega), byte _ (by omega), byte _ (by omega)]
    exact .four (by omega)

lemma follow_next {low high value more b : Nat} {rest : List Nat} (h : low ≤ b) (k : b ≤ high) :
    follow low high value (more + 1) (b :: rest) =
      ((follow 0x80 0xBF (64 * value + (b - 0x80)) more rest).1 + 1,
        (follow 0x80 0xBF (64 * value + (b - 0x80)) more rest).2) := by
  rw [follow, if_pos ⟨h, k⟩]

lemma follow_done {low high value : Nat} (rest : List Nat) :
    follow low high value 0 rest = (0, value) := by
  cases rest <;> rfl

lemma characterAt_follow {first more low high v : Nat} {rest : List Nat} (lead : 0x80 ≤ first)
    (sequence : sequenceOf first = some (more, low, high))
    (followed : follow low high (first % Nat.pow 2 (6 - more)) more rest = (more, v)) :
    characterAt first rest = (Char.ofNat v, more) := by
  unfold characterAt
  rw [if_neg (Nat.not_lt.mpr lead), sequence]
  dsimp only
  rw [followed]
  exact if_pos rfl

/-- A character is read from its bytes, whatever follows them. -/
lemma characterAt_coded {c : Char} {bytes : List Nat} (h : Coded c bytes) (rest : List Nat) :
    ∃ b more, bytes = b :: more ∧ characterAt b (more ++ rest) = (c, more.length) := by
  have valid := scalar c
  have same : Char.ofNat c.toNat = c := Char.ofNat_toNat c
  cases h with
  | one h =>
    refine ⟨_, [], rfl, ?_⟩
    unfold characterAt
    rw [if_pos h, same]
    rfl
  | two h k =>
    have sequence : sequenceOf (c.toNat / 64 + 0xC0) = some (1, 0x80, 0xBF) := by
      unfold sequenceOf
      rw [if_neg (by omega), if_pos (by omega)]
    have value : 64 * ((c.toNat / 64 + 0xC0) % Nat.pow 2 (6 - 1)) + (c.toNat % 64 + 0x80 - 0x80) =
        c.toNat := by
      rw [Nat.pow_eq]
      omega
    refine ⟨_, _, rfl, (characterAt_follow (v := c.toNat) (by omega) sequence ?_).trans ?_⟩
    · rw [List.singleton_append, follow_next (by omega) (by omega), follow_done, value]
    · rw [same]
      rfl
  | three h k =>
    obtain ⟨low, high, sequence, above, below⟩ : ∃ low high,
        sequenceOf (c.toNat / 4096 + 0xE0) = some (2, low, high) ∧
          low ≤ c.toNat / 64 % 64 + 0x80 ∧ c.toNat / 64 % 64 + 0x80 ≤ high := by
      unfold sequenceOf
      rw [if_neg (by omega), if_neg (by omega)]
      split
      · exact ⟨_, _, rfl, by omega, by omega⟩
      · split
        · exact ⟨_, _, rfl, by omega, by omega⟩
        · rw [if_pos (by omega)]
          exact ⟨_, _, rfl, by omega, by omega⟩
    have value : 64 * (64 * ((c.toNat / 4096 + 0xE0) % Nat.pow 2 (6 - 2)) +
        (c.toNat / 64 % 64 + 0x80 - 0x80)) + (c.toNat % 64 + 0x80 - 0x80) = c.toNat := by
      rw [Nat.pow_eq]
      omega
    refine ⟨_, _, rfl, (characterAt_follow (v := c.toNat) (by omega) sequence ?_).trans ?_⟩
    · rw [List.cons_append, List.singleton_append, follow_next above below,
        follow_next (by omega) (by omega), follow_done, value]
    · rw [same]
      rfl
  | four h =>
    obtain ⟨low, high, sequence, above, below⟩ : ∃ low high,
        sequenceOf (c.toNat / 262144 + 0xF0) = some (3, low, high) ∧
          low ≤ c.toNat / 4096 % 64 + 0x80 ∧ c.toNat / 4096 % 64 + 0x80 ≤ high := by
      unfold sequenceOf
      rw [if_neg (by omega), if_neg (by omega), if_neg (by omega), if_neg (by omega),
        if_neg (by omega)]
      split
      · exact ⟨_, _, rfl, by omega, by omega⟩
      · split
        · exact ⟨_, _, rfl, by omega, by omega⟩
        · rw [if_pos (by omega)]
          exact ⟨_, _, rfl, by omega, by omega⟩
    have value : 64 * (64 * (64 * ((c.toNat / 262144 + 0xF0) % Nat.pow 2 (6 - 3)) +
        (c.toNat / 4096 % 64 + 0x80 - 0x80)) + (c.toNat / 64 % 64 + 0x80 - 0x80)) +
          (c.toNat % 64 + 0x80 - 0x80) = c.toNat := by
      rw [Nat.pow_eq]
      omega
    refine ⟨_, _, rfl, (characterAt_follow (v := c.toNat) (by omega) sequence ?_).trans ?_⟩
    · rw [List.cons_append, List.cons_append, List.singleton_append, follow_next above below,
        follow_next (by omega) (by omega), follow_next (by omega) (by omega), follow_done, value]
    · rw [same]
      rfl

lemma ofBytesFrom_covered (covered rest : List Nat) :
    ofBytesFrom covered.length (covered ++ rest) = ofBytesFrom 0 rest := by
  induction covered with
  | nil => rfl
  | cons b covered ih => exact ih

lemma ofBytesFrom_charBytes (c : Char) (rest : List Nat) :
    ofBytesFrom 0 (charBytes c ++ rest) = c :: ofBytesFrom 0 rest := by
  obtain ⟨b, more, bytes, read⟩ := characterAt_coded (coded c) rest
  rw [bytes, List.cons_append, ofBytesFrom, read]
  exact congrArg (c :: ·) (ofBytesFrom_covered more rest)

/-- Text is read back from its bytes, whatever follows. -/
lemma ofBytesFrom_append (s : List Char) (rest : List Nat) :
    ofBytesFrom 0 (s.flatMap charBytes ++ rest) = s ++ ofBytesFrom 0 rest := by
  induction s with
  | nil => rfl
  | cons c s ih =>
    rw [List.flatMap_cons, List.append_assoc, ofBytesFrom_charBytes, ih]
    rfl

/-! ASCII characters. -/

/-- Where all bytes follow, the next is within the bounds, and the others follow it. -/
lemma follow_all {low high value more v : Nat} {rest : List Nat}
    (followed : follow low high value (more + 1) rest = (more + 1, v)) :
    ∃ b rest', low ≤ b ∧ b ≤ high ∧
      follow 0x80 0xBF (64 * value + (b - 0x80)) more rest' = (more, v) := by
  cases rest with
  | nil => cases followed
  | cons b rest =>
    by_cases fits : low ≤ b ∧ b ≤ high
    · rw [follow_next fits.1 fits.2] at followed
      obtain ⟨count, value⟩ := Prod.mk.inj followed
      exact ⟨b, rest, fits.1, fits.2, Prod.ext (Nat.succ.inj count) value⟩
    · rw [follow, if_neg fits] at followed
      cases followed

/-- Then the value is a number with so many more digits. -/
lemma follow_bounds {value more v : Nat} {rest : List Nat}
    (followed : follow 0x80 0xBF value more rest = (more, v)) :
    value * Nat.pow 64 more ≤ v ∧ v < (value + 1) * Nat.pow 64 more := by
  induction more generalizing value rest with
  | zero =>
    have one : Nat.pow 64 0 = 1 := rfl
    rw [follow_done] at followed
    cases followed
    rw [one]
    omega
  | succ more ih =>
    obtain ⟨b, rest', above, below, followed⟩ := follow_all followed
    obtain ⟨least, most⟩ := ih followed
    have digit : b - 0x80 + 1 ≤ 64 := by omega
    have power : Nat.pow 64 (more + 1) = 64 * Nat.pow 64 more := Nat.pow_succ'
    rw [power, ← Nat.mul_assoc, ← Nat.mul_assoc, Nat.mul_comm value, Nat.mul_comm _ 64]
    constructor
    · exact Nat.le_trans (Nat.mul_le_mul_right _ (Nat.le_add_right _ _)) least
    · refine Nat.lt_of_lt_of_le most (Nat.mul_le_mul_right _ ?_)
      omega

/-- The bounds of the sequences leave no number that is too small, too large or a surrogate. -/
lemma sequence_bounds {first more low high : Nat}
    (sequence : sequenceOf first = some (more, low, high)) : 0x80 ≤ low ∧ high ≤ 0xBF ∧
      (more = 1 ∧ 0xC2 ≤ first ∧ first < 0xE0 ∨
        more = 2 ∧ 0xE0 ≤ first ∧ first < 0xF0 ∧ (first = 0xE0 → 0xA0 ≤ low) ∧
          (first = 0xED → high ≤ 0x9F) ∨
        more = 3 ∧ 0xF0 ≤ first ∧ first ≤ 0xF4 ∧ (first = 0xF0 → 0x90 ≤ low) ∧
          (first = 0xF4 → high ≤ 0x8F)) := by
  unfold sequenceOf at sequence
  repeat' split at sequence
  all_goals
    cases sequence
    try omega

/-- The value of a sequence is that of a character beyond ASCII. -/
lemma sequence_value {first more low high v : Nat} {rest : List Nat}
    (sequence : sequenceOf first = some (more, low, high))
    (followed : follow low high (first % Nat.pow 2 (6 - more)) more rest = (more, v)) :
    0x80 ≤ v ∧ v.isValidChar := by
  have valid (h : v < 0xD800 ∨ 0xDFFF < v ∧ v < 0x110000) : v.isValidChar := h
  obtain ⟨least, most, lengths⟩ := sequence_bounds sequence
  rcases lengths with ⟨rfl, lengths⟩ | ⟨rfl, lengths⟩ | ⟨rfl, lengths⟩
  all_goals
    obtain ⟨b, rest', above, below, followed⟩ := follow_all followed
    obtain ⟨floor, ceiling⟩ := follow_bounds followed
    simp only [Nat.pow_eq, Nat.reduceSub, Nat.reducePow, Nat.pow_zero, Nat.pow_one] at floor ceiling
    exact ⟨by omega, valid (by omega)⟩

lemma toNat_ofNat {v : Nat} (valid : v.isValidChar) : (Char.ofNat v).toNat = v := by
  unfold Char.ofNat
  rw [dif_pos valid]
  rfl

lemma characterAt_high {first : Nat} (lead : 0x80 ≤ first) (rest : List Nat) :
    0x80 ≤ (characterAt first rest).1.toNat := by
  have replaced : 0x80 ≤ replacement.toNat := by decide
  unfold characterAt
  rw [if_neg (Nat.not_lt.mpr lead)]
  rcases sequence : sequenceOf first with _ | ⟨more, low, high⟩
  · exact replaced
  · dsimp only
    rcases followed : follow low high (first % Nat.pow 2 (6 - more)) more rest with ⟨n, v⟩
    dsimp only
    by_cases all : n = more
    · rw [all] at followed
      obtain ⟨beyond, valid⟩ := sequence_value sequence followed
      rw [if_pos all, toNat_ofNat valid]
      exact beyond
    · rw [if_neg all]
      exact replaced

/-- How many characters are ASCII. -/
def asciis (s : List Char) : Nat := s.countP (·.toNat < 0x80)

/-- How many bytes are those of ASCII characters. -/
def lowBytes (bytes : List Nat) : Nat := bytes.countP (· < 0x80)

/-- An ASCII character is read from a byte of its own. -/
lemma asciis_ofBytesFrom (covered : Nat) (bytes : List Nat) :
    asciis (ofBytesFrom covered bytes) ≤ lowBytes bytes := by
  induction bytes generalizing covered with
  | nil => cases covered <;> exact le_refl _
  | cons b bytes ih =>
    cases covered with
    | succ covered =>
      refine Nat.le_trans (ih covered) ?_
      exact (List.sublist_cons_self b bytes).countP_le
    | zero =>
      have later := ih (characterAt b bytes).2
      unfold asciis lowBytes at *
      rw [ofBytesFrom, List.countP_cons, List.countP_cons]
      have own : (characterAt b bytes).1.toNat < 0x80 → b < 0x80 := by
        intro ascii
        by_contra high
        have beyond := characterAt_high (Nat.le_of_not_lt high) bytes
        omega
      simp only [decide_eq_true_eq]
      split
      · next ascii =>
        rw [if_pos (own ascii)]
        omega
      · omega

end Rehearsal.Text
