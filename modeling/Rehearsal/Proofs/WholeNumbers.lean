import Rehearsal.Proofs.Doubles
import Rehearsal.Validation.Reading

/-!
# Whole numbers as doubles

A whole number above zero is read as a normal double or as infinity, whatever is rounded off, so
only zero is read as zero.
-/

namespace Rehearsal.Decimal

open Float.Model Float.Model.UnpackedFloat

/-- A positive double that is normal or infinite. -/
inductive Ample : UnpackedFloat → Prop
  | normal {m : Nat} {e : Int} (h : 0 < m) (canonical : Canonical m e) (full : 2 ^ 52 ≤ m) :
      Ample (.finite .positive m e h)
  | infinite : Ample (.infinity .positive)

/-- Beyond the greatest exponent there is only infinity. -/
lemma unpack_beyond {s : Sign} {m : Nat} {e : Int} (h : 0 < m) (beyond : 971 < e) :
    (Float.Model.pack (.finite s m e h)).unpack = .infinity s := by
  have field : 2 ^ Format.binary64.exponentBits ≤ (e + Format.binary64.exponentBias +
      Format.binary64.mantissaBitsWithoutImplicit).toNat + 1 := by
    change 2048 ≤ (e + (1023 : Nat) + (52 : Nat)).toNat + 1
    omega
  have overflown : Float.Model.pack (.finite s m e h) = Float.Model.pack (.infinity s) := by
    unfold Float.Model.pack UnpackedFloat.pack
    simp only [if_pos field]
  rw [overflown]
  cases s <;> rfl

namespace Ample

variable {x : Float} {m k : Nat} {e : Int}

/-- A rounded significand with bits enough stays ample, wherever its exponent comes to. -/
lemma rounded (log : m.log2 = 52 + k) (least : -1074 ≤ e + k) :
    Ample (Float.Model.pack
      (roundWithAccuracy Format.binary64 .positive m e .exact)).unpack := by
  obtain ⟨r, n, f, h, -, -, -, rounded, normal, below, low, -⟩ := rounded_normal log least
  rw [rounded]
  rcases Int.lt_or_le 971 f with beyond | within
  · rw [unpack_beyond h beyond]
    exact .infinite
  · have canonical : Canonical n f := ⟨below, by omega, within, .inr normal⟩
    rw [unpack_pack h canonical normal]
    exact .normal h canonical normal

/-- Zeros are put behind a significand that is too short. -/
lemma round_short (log : m.log2 + k = 52) (least : -1074 ≤ e - k) :
    UnpackedFloat.round Format.binary64 .positive m e =
      roundWithAccuracy Format.binary64 .positive (m * 2 ^ k) (e - k) .exact := by
  have target : Format.binary64.targetExponent (totalExponent m e) = e - k := by
    unfold Format.targetExponent totalExponent
    change max ((m.log2 : Int) + 1 + e - 53) (-1074) = e - k
    omega
  have amount : (e - (e - k)).toNat = k := by omega
  unfold UnpackedFloat.round decreaseExponent
  dsimp only
  rw [target, amount, Nat.shiftLeft_eq]

lemma log2_scaled (positive : 0 < m) (k : Nat) : (m * 2 ^ k).log2 = m.log2 + k :=
  log2_shifted (Nat.log2_self_le positive.ne') Nat.lt_log2_self k

/-- A product of a significand with one is the significand again. -/
lemma times_one (h : 0 < m) (full : m.log2 = 52) (least : -1074 ≤ e) :
    Ample (Float.Model.pack (UnpackedFloat.mul Format.binary64 (.finite .positive m e h)
      (.finite .positive (2 ^ 52) (-52) (by decide)))).unpack := by
  have log : (m * 2 ^ 52).log2 = 52 + 52 := by rw [log2_scaled h, full]
  exact rounded (e := e + -52) log (by omega)

/-- Up to `2 ^ 53` a whole number is a double. -/
lemma small_whole {n : Nat} (h : 0 < n) (small : n < 2 ^ 53) :
    Ample (n.toUInt64.toFloat * Float.ofBits 0x3FF0000000000000).toModel.unpack := by
  have log : n.log2 < 53 := (Nat.log2_lt h.ne').mpr small
  obtain ⟨k, short⟩ : ∃ k, n.log2 + k = 52 := ⟨52 - n.log2, by omega⟩
  have long : (n * 2 ^ k).log2 = 52 + 0 := by rw [log2_scaled h, short]
  have least : -1074 ≤ 0 - (k : Int) + (0 : Nat) := by omega
  obtain ⟨r, m, f, positive, -, -, -, rounded, full, below, low, high, -⟩ :=
    rounded_normal long least
  have canonical : Canonical m f := ⟨below, by omega, by omega, .inr full⟩
  have read : n.toUInt64.toFloat.toModel.unpack = .finite .positive m f positive := by
    have fits : n.toUInt64.toNat = n := Nat.mod_eq_of_lt (by omega)
    have whole : n.toUInt64.toFloat.toModel = Float.Model.pack
        (UnpackedFloat.normalize Format.binary64 n.toUInt64.toNat 0 .positive) := rfl
    have above : compare (n : Int) 0 = .gt := Int.compare_eq_gt.mpr (by omega)
    rw [whole, fits, UnpackedFloat.normalize, above]
    dsimp only
    rw [Int.toNat_natCast, round_short short (by omega), rounded,
      unpack_pack positive canonical full]
  have product : (n.toUInt64.toFloat * Float.ofBits 0x3FF0000000000000).toModel = Float.Model.pack
      (UnpackedFloat.mul Format.binary64 n.toUInt64.toFloat.toModel.unpack
        (.finite .positive (2 ^ 52) (-52) (by decide))) := rfl
  rw [product, read]
  exact times_one positive ((Nat.log2_eq_iff positive.ne').mpr ⟨full, below⟩) canonical.least

/-- Above that its leading digits are one. -/
lemma large_whole {n : Nat} (large : 2 ^ 53 ≤ n) :
    Ample (Float.Model.pack (UnpackedFloat.ofScientific Format.binary64 n 0)).unpack := by
  have positive : 0 < n := by omega
  have log : (n * 2 ^ 53).log2 = 52 + (n.log2 + 1) := by
    rw [log2_scaled positive]
    omega
  have product : UnpackedFloat.ofScientific Format.binary64 n 0 =
      roundWithAccuracy Format.binary64 .positive (n * 2 ^ 53) (-53) .exact := by
    unfold UnpackedFloat.ofScientific
    have near : ¬ (0 : Int) < -((2 ^ Format.binary64.exponentBits : Int) + n.log2) := by
      change ¬ (0 : Int) < -(2048 + (n.log2 : Int))
      omega
    rw [dif_neg positive.ne', if_neg (by decide), if_neg near, if_pos (le_refl _)]
    have signs : Sign.positive * Sign.positive = .positive := rfl
    have bits : Format.binary64.mantissaBits = 53 := rfl
    unfold UnpackedFloat.mul
    dsimp only
    rw [signs, bits, Int.toNat_zero, Nat.pow_zero, Nat.mul_one, Nat.shiftLeft_eq, Int.add_zero]
    rfl
  rw [product]
  exact rounded log (by omega)

lemma ofScientific {n : Nat} (h : 0 < n) : Ample (Float.ofScientific n false 0).toModel.unpack := by
  unfold Float.ofScientific
  by_cases small : n < 2 ^ 53
  · rw [dif_pos ⟨small, by decide⟩]
    exact small_whole h small
  · rw [dif_neg fun both => small both.1]
    exact large_whole (Nat.le_of_not_lt small)

lemma nearest {n : Nat} (h : 0 < n) : Ample (nearest n 0).toModel.unpack := by
  have infinite : (1 / 0 : Float).toModel.unpack = .infinity .positive := rfl
  unfold Decimal.nearest
  dsimp only
  rw [if_neg h.ne']
  split
  · rw [infinite]
    exact .infinite
  · rw [if_neg (by omega), if_pos (le_refl _)]
    exact ofScientific h

lemma above {u : UnpackedFloat} (h : Ample u) : ∃ p, place u = some p ∧ 0 < p := by
  cases h with
  | normal h canonical full => exact ⟨_, rfl, canonical.above h⟩
  | infinite => exact ⟨_, rfl, by decide⟩

lemma below_neg {u : UnpackedFloat} (h : Ample u) :
    ∃ p, place (Float.Model.pack u.neg).unpack = some p ∧ p < 0 := by
  cases h with
  | normal h canonical full =>
    refine ⟨_, congrArg place (unpack_pack h canonical full), ?_⟩
    exact Int.neg_neg_of_pos (canonical.above h)
  | infinite => exact ⟨_, rfl, by decide⟩

end Ample

/-- A whole number that is not zero is not read as zero. -/
lemma doubleOf?_pos {n : Int} {x : Float} (read : Validation.doubleOf? n = some x) (h : n ≠ 0)
    (bound : 0 ≤ x) : 0 < x := by
  have ample : Ample (nearest n.natAbs 0).toModel.unpack := .nearest (Int.natAbs_pos.mpr h)
  unfold Validation.doubleOf? at read
  dsimp only at read
  split at read
  · cases read
  · obtain rfl := Option.some.inj read
    split at bound
    · obtain ⟨p, placed, below⟩ := ample.below_neg
      obtain ⟨q, placed', above⟩ := place_of_nonneg bound
      obtain rfl : p = q := Option.some.inj (placed.symm.trans placed')
      omega
    · next positive =>
      obtain ⟨p, placed, above⟩ := ample.above
      rw [if_neg positive]
      exact pos_of_place placed above

end Rehearsal.Decimal
