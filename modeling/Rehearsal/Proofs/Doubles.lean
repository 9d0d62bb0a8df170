import Mathlib
import Rehearsal.Decimal.Binary

/-!
# The order of doubles

A double is infinite, undefined, or a whole significand below `2 ^ 53` times a power of two, and
the significand is at least `2 ^ 52` unless the exponent is the least there is. So doubles are
numbered in their order by whole numbers, their places, and comparing two of them compares
their places.
-/

namespace Rehearsal.Decimal

open Float.Model Float.Model.UnpackedFloat

/-- Significand and exponent of a double. -/
structure Canonical (m : Nat) (e : Int) : Prop where
  small : m < 2 ^ 53
  least : -1074 ≤ e
  most : e ≤ 971
  full : e = -1074 ∨ 2 ^ 52 ≤ m

/-- The place of the positive number with this significand and exponent. -/
def height (m : Nat) (e : Int) : Int := (e + 1074) * 2 ^ 52 + m

lemma Canonical.above {m : Nat} {e : Int} (h : Canonical m e) (positive : 0 < m) :
    0 < height m e := by
  have least := h.least
  unfold height
  omega

lemma Canonical.below {m : Nat} {e : Int} (h : Canonical m e) :
    height m e < 2047 * 2 ^ 52 := by
  have small := h.small
  have most := h.most
  unfold height
  omega

/-- The greater of two exponents decides, and the significand where they are the same. -/
lemma compare_height {m n : Nat} {e f : Int} (h : Canonical m e) (k : Canonical n f) :
    (compare e f).then (compare m n) = compare (height m e) (height n f) := by
  have hm := h.small
  have hn := k.small
  have he := h.least
  have hf := k.least
  unfold height
  rcases Int.lt_trichotomy e f with less | rfl | greater
  · have full : 2 ^ 52 ≤ n := k.full.resolve_left (by omega)
    rw [Int.compare_eq_lt.mpr less, Int.compare_eq_lt.mpr (by omega)]
    rfl
  · rw [Int.compare_eq_eq.mpr rfl, Ordering.eq_then]
    rcases Nat.lt_trichotomy m n with less | rfl | greater
    · rw [Nat.compare_eq_lt.mpr less, Int.compare_eq_lt.mpr (by omega)]
    · rw [Nat.compare_eq_eq.mpr rfl, Int.compare_eq_eq.mpr rfl]
    · rw [Nat.compare_eq_gt.mpr greater, Int.compare_eq_gt.mpr (by omega)]
  · have full : 2 ^ 52 ≤ m := h.full.resolve_left (by omega)
    rw [Int.compare_eq_gt.mpr greater, Int.compare_eq_gt.mpr (by omega)]
    rfl

section Places

/-- The parts of doubles are canonical. -/
def Proper : UnpackedFloat → Prop
  | .finite _ m e _ => Canonical m e
  | _ => True

/-- The place among all doubles; what is undefined has none. -/
def place : UnpackedFloat → Option Int
  | .finite s m e _ => some (s.apply (height m e))
  | .infinity s => some (s.apply (2047 * 2 ^ 52))
  | .zero _ => some 0
  | .notANumber => none

/-- Comparing numbers compares their places. -/
lemma compare_place {a b : UnpackedFloat} (ha : Proper a) (hb : Proper b) :
    UnpackedFloat.compare a b = match place a, place b with
      | some p, some q => some (compare p q)
      | _, _ => none := by
  have less {p q : Int} (h : p < q) : some Ordering.lt = some (compare p q) :=
    congrArg some (Int.compare_eq_lt.mpr h).symm
  have greater {p q : Int} (h : q < p) : some Ordering.gt = some (compare p q) :=
    congrArg some (Int.compare_eq_gt.mpr h).symm
  cases a with
  | notANumber => rfl
  | infinity s =>
    cases b with
    | notANumber => cases s <;> rfl
    | infinity t => cases s <;> cases t <;> rfl
    | zero t => cases s <;> rfl
    | finite t n f hn =>
      have above := Canonical.above hb hn
      have below := Canonical.below hb
      cases s <;> cases t <;> simp only [UnpackedFloat.compare, place, Sign.apply]
      · exact less (by omega)
      · exact less (by omega)
      · exact greater (by omega)
      · exact greater (by omega)
  | zero s =>
    cases b with
    | notANumber => rfl
    | infinity t => cases t <;> rfl
    | zero t => rfl
    | finite t n f hn =>
      have above := Canonical.above hb hn
      cases t <;> simp only [UnpackedFloat.compare, place, Sign.apply]
      · exact greater (by omega)
      · exact less (by omega)
  | finite s m e hm =>
    have above := Canonical.above ha hm
    have below := Canonical.below ha
    cases b with
    | notANumber => cases s <;> rfl
    | infinity t =>
      cases s <;> cases t <;> simp only [UnpackedFloat.compare, place, Sign.apply]
      · exact greater (by omega)
      · exact less (by omega)
      · exact greater (by omega)
      · exact less (by omega)
    | zero t =>
      cases s <;> simp only [UnpackedFloat.compare, place, Sign.apply]
      · exact less (by omega)
      · exact greater (by omega)
    | finite t n f hn =>
      have above' := Canonical.above hb hn
      cases s <;> cases t <;> simp only [UnpackedFloat.compare, place, Sign.apply]
      · rw [compare_height ha hb, Int.compare_swap]
        simp only [Int.compare_eq_ite_lt, Int.neg_lt_neg_iff]
      · exact less (by omega)
      · exact greater (by omega)
      · rw [compare_height ha hb]

end Places

namespace Shape

def signed (negative : Bool) : Sign := if negative then .negative else .positive

/-- What a double is made of. -/
def parts : Shape → UnpackedFloat
  | finite b =>
    if h : b.mantissa = 0 then .zero (signed b.negative)
    else .finite (signed b.negative) b.mantissa b.exponent (Nat.pos_of_ne_zero h)
  | infinite negative => .infinity (signed negative)
  | notANumber => .notANumber

lemma ofFloat_canonical {x : Float} {b : Binary} (h : ofFloat x = finite b) :
    Canonical b.mantissa b.exponent := by
  unfold ofFloat at h
  generalize x.toBits.toNat = bits at h
  have fraction : bits % 2 ^ 52 < 2 ^ 52 := Nat.mod_lt _ (by decide)
  have field : bits / 2 ^ 52 % 2 ^ 11 < 2 ^ 11 := Nat.mod_lt _ (by decide)
  simp only [Nat.pow_eq] at h
  split at h
  · split at h <;> cases h
  · split at h
    · cases h
      dsimp only
      exact ⟨by omega, by omega, by omega, .inl rfl⟩
    · cases h
      dsimp only
      exact ⟨by omega, by omega, by omega, .inr (by omega)⟩

lemma implicit_bit (v : BitVec 52) : (1#1 ++ v).toNat = 2 ^ 52 + v.toNat := by
  rw [BitVec.toNat_append, ← Nat.shiftLeft_add_eq_or_of_lt v.isLt]
  rfl

section Fields

variable (b : BitVec Format.binary64.numBits)

lemma exponent_field : (unpackExponent b).toNat = b.toNat / 2 ^ 52 % 2 ^ 11 := by
  unfold unpackExponent
  rw [BitVec.toNat_cast, BitVec.extractLsb_toNat, Nat.shiftRight_eq_div_pow]
  rfl

lemma mantissa_field : (unpackMantissa b).toNat = b.toNat % 2 ^ 52 := by
  unfold unpackMantissa
  rw [BitVec.toNat_cast, BitVec.extractLsb_toNat]
  rfl

lemma sign_field : Sign.ofBitVec (unpackSign b) = signed (2 ^ 63 ≤ b.toNat) := by
  have small : b.toNat < 2 ^ 64 := b.isLt
  have bit : (unpackSign b).toNat = b.toNat / 2 ^ 63 := by
    unfold unpackSign
    rw [BitVec.toNat_cast, BitVec.extractLsb_toNat, Nat.shiftRight_eq_div_pow]
    exact Nat.mod_eq_of_lt (by change b.toNat / 2 ^ 63 < 2; omega)
  have zero : unpackSign b = 0#1 ↔ b.toNat / 2 ^ 63 = 0 := by
    rw [← bit, ← BitVec.toNat_inj]
    rfl
  unfold Sign.ofBitVec signed
  simp only [decide_eq_true_eq]
  by_cases h : 2 ^ 63 ≤ b.toNat
  · rw [if_neg (mt zero.mp (by omega)), if_pos h]
  · rw [if_pos (zero.mpr (by omega)), if_neg h]

lemma infinite_field : unpackExponent b = -1#_ ↔ b.toNat / 2 ^ 52 % 2 ^ 11 = 2047 := by
  rw [← exponent_field, ← BitVec.toNat_inj]
  rfl

lemma least_field : unpackExponent b = 0#_ ↔ b.toNat / 2 ^ 52 % 2 ^ 11 = 0 := by
  rw [← exponent_field, ← BitVec.toNat_inj]
  rfl

lemma empty_field : unpackMantissa b = 0#_ ↔ b.toNat % 2 ^ 52 = 0 := by
  rw [← mantissa_field, ← BitVec.toNat_inj]
  rfl

end Fields

/-- The parts that comparisons and sums go by. -/
lemma unpack_ofFloat (x : Float) : x.toModel.unpack = (ofFloat x).parts := by
  unfold Float.Model.unpack ofFloat Float.toBits
  rw [← UInt64.toNat_toBitVec]
  generalize x.toModel.toBits.toBitVec = b
  unfold UnpackedFloat.unpack
  dsimp only
  rw [sign_field]
  simp only [Nat.pow_eq]
  by_cases top : b.toNat / 2 ^ 52 % 2 ^ 11 = 2047
  · rw [if_pos ((infinite_field b).mpr top), if_pos top]
    by_cases none : b.toNat % 2 ^ 52 = 0
    · rw [if_pos ((empty_field b).mpr none), if_pos none]
      rfl
    · rw [if_neg (mt (empty_field b).mp none), if_neg none]
      rfl
  · rw [if_neg (mt (infinite_field b).mp top), if_neg top]
    by_cases bottom : b.toNat / 2 ^ 52 % 2 ^ 11 = 0
    · rw [if_pos ((least_field b).mpr bottom), if_pos bottom, parts]
      by_cases none : b.toNat % 2 ^ 52 = 0
      · rw [dif_pos ((empty_field b).mpr none), dif_pos none]
      · rw [dif_neg (mt (empty_field b).mp none), dif_neg none, UnpackedFloat.finite.injEq]
        exact ⟨rfl, mantissa_field b, by rw [exponent_field, bottom]; rfl⟩
    · rw [if_neg (mt (least_field b).mp bottom), if_neg bottom, parts,
        dif_neg (by dsimp only; omega), UnpackedFloat.finite.injEq]
      refine ⟨rfl, ?_, ?_⟩
      · rw [implicit_bit, mantissa_field, Nat.add_comm]
      · rw [exponent_field]
        rfl

end Shape

variable {x y : Float}

lemma proper_unpack (x : Float) : Proper x.toModel.unpack := by
  rw [Shape.unpack_ofFloat]
  rcases h : Shape.ofFloat x with b | n | _
  · unfold Shape.parts
    dsimp only
    split
    · trivial
    · exact Shape.ofFloat_canonical h
  · trivial
  · trivial

/-- Comparing doubles compares their places. -/
lemma lt_iff : x < y ↔ ∃ p q, place x.toModel.unpack = some p ∧
    place y.toModel.unpack = some q ∧ p < q := by
  have compared : x < y ↔
      UnpackedFloat.compare x.toModel.unpack y.toModel.unpack = some .lt :=
    decide_eq_true_iff.trans beq_iff_eq
  rw [compared, compare_place (proper_unpack x) (proper_unpack y)]
  rcases place x.toModel.unpack with _ | p <;> rcases place y.toModel.unpack with _ | q
  · simp
  · simp
  · simp
  · simp [Int.compare_eq_lt]

lemma le_iff : x ≤ y ↔ ∃ p q, place x.toModel.unpack = some p ∧
    place y.toModel.unpack = some q ∧ p ≤ q := by
  have compared : x ≤ y ↔
      (UnpackedFloat.compare x.toModel.unpack y.toModel.unpack).any (·.isLE) = true :=
    decide_eq_true_iff
  rw [compared, compare_place (proper_unpack x) (proper_unpack y)]
  rcases place x.toModel.unpack with _ | p <;> rcases place y.toModel.unpack with _ | q
  · simp
  · simp
  · simp
  · simp [Int.isLE_compare]

/-- Doubles are equal where their places are. -/
lemma beq_iff : (x == y) = true ↔ ∃ p, place x.toModel.unpack = some p ∧
    place y.toModel.unpack = some p := by
  have compared : (x == y) = true ↔
      UnpackedFloat.compare x.toModel.unpack y.toModel.unpack = some .eq :=
    beq_iff_eq (a := UnpackedFloat.compare x.toModel.unpack y.toModel.unpack)
  rw [compared, compare_place (proper_unpack x) (proper_unpack y)]
  rcases place x.toModel.unpack with _ | p <;> rcases place y.toModel.unpack with _ | q
  · simp
  · simp
  · simp
  · rw [Option.some.injEq, Int.compare_eq_eq]
    constructor
    · rintro rfl
      exact ⟨p, rfl, rfl⟩
    · rintro ⟨r, first, second⟩
      exact Option.some.inj (first.trans second.symm)

lemma place_zero : place (0 : Float).toModel.unpack = some 0 := by decide +kernel

lemma place_of_nonneg (h : 0 ≤ x) : ∃ p, place x.toModel.unpack = some p ∧ 0 ≤ p := by
  obtain ⟨z, p, hz, hp, le⟩ := le_iff.mp h
  cases hz.symm.trans place_zero
  exact ⟨p, hp, le⟩

lemma pos_of_place {p : Int} (placed : place x.toModel.unpack = some p) (above : 0 < p) : 0 < x :=
  lt_iff.mpr ⟨0, p, place_zero, placed, above⟩

lemma pos_of_nonneg (bound : 0 ≤ x) (other : (x == 0) = false) : 0 < x := by
  obtain ⟨p, placed, nonnegative⟩ := place_of_nonneg bound
  have nonzero : p ≠ 0 := by
    rintro rfl
    rw [beq_iff.mpr ⟨0, placed, place_zero⟩] at other
    cases other
  exact pos_of_place placed (by omega)

/-! ## Rounding -/

/-- A normal number is read back as it was written. -/
lemma unpack_pack {s : Sign} {m : Nat} {e : Int} (h : 0 < m) (canonical : Canonical m e)
    (full : 2 ^ 52 ≤ m) :
    (Float.Model.pack (.finite s m e h)).unpack = .finite s m e h := by
  have small := canonical.small
  have least := canonical.least
  have most := canonical.most
  have log : m.log2 + 1 = Format.binary64.mantissaBits := by
    rw [(Nat.log2_eq_iff (by omega)).mpr ⟨full, small⟩]
    rfl
  obtain ⟨n, hn⟩ : ∃ n : Nat, e = n - 1075 := ⟨(e + 1075).toNat, by omega⟩
  have field : (e + Format.binary64.exponentBias +
      Format.binary64.mantissaBitsWithoutImplicit).toNat = n := by
    change (e + (1023 : Nat) + (52 : Nat)).toNat = n
    omega
  have written : (BitVec.ofNat 11 n).toNat = n := by
    rw [BitVec.toNat_ofNat]
    exact Nat.mod_eq_of_lt (by omega)
  have fraction : (1#1 ++ BitVec.ofNat 52 m).toNat = m := by
    rw [Shape.implicit_bit, BitVec.toNat_ofNat]
    omega
  have apart (v : BitVec 11) (other : n ≠ v.toNat) : BitVec.ofNat 11 n ≠ v :=
    fun same => other (written.symm.trans (congrArg BitVec.toNat same))
  have finite : BitVec.ofNat 11 n ≠ -1#_ := apart _ (by change n ≠ 2047; omega)
  have normal : BitVec.ofNat 11 n ≠ 0#_ := apart _ (by change n ≠ 0; omega)
  unfold Float.Model.unpack Float.Model.pack UnpackedFloat.pack
  dsimp only
  rw [field, if_neg (by change ¬ 2048 ≤ n + 1; omega), if_pos log]
  unfold UnpackedFloat.unpack
  dsimp only
  rw [unpackExponent_packComponents, if_neg finite, if_neg normal, UnpackedFloat.finite.injEq,
    unpackSign_packComponents, unpackMantissa_packComponents]
  refine ⟨s.ofBitVec_toBitVec, fraction, ?_⟩
  rw [written, hn]
  rfl

lemma shift_mantissa (m : ExtendedMantissa) (k : Nat) :
    (m >>> k).mantissa = m.mantissa / 2 ^ k := by
  induction k with
  | zero => exact (Nat.div_one _).symm
  | succ k ih =>
    have step : (m >>> (k + 1)).mantissa = (m >>> k).mantissa / 2 := rfl
    rw [step, ih, Nat.div_div_eq_div_mul, Nat.pow_succ]

/-- What is exact stays so while it loses only zeros. -/
lemma shift_exact (m k : Nat) :
    (ExtendedMantissa.mk (m * 2 ^ k) false false) >>> k = ⟨m, false, false⟩ := by
  induction k generalizing m with
  | zero => rw [Nat.pow_zero, Nat.mul_one]; rfl
  | succ k ih =>
    have step : (ExtendedMantissa.mk (m * 2 ^ (k + 1)) false false) >>> (k + 1) =
        ((ExtendedMantissa.mk (m * 2 ^ (k + 1)) false false) >>> k).shiftRightOne := rfl
    have split : m * 2 ^ (k + 1) = m * 2 * 2 ^ k := by rw [Nat.pow_succ]; ring
    rw [step, split, ih, ExtendedMantissa.shiftRightOne]
    simp

lemma rounded_bounds (m : ExtendedMantissa) :
    m.mantissa ≤ m.roundedMantissa ∧ m.roundedMantissa ≤ m.mantissa + 1 := by
  obtain ⟨m, half, rest⟩ := m
  cases half <;> cases rest <;> simp only [ExtendedMantissa.roundedMantissa,
    ExtendedMantissa.accuracy, Accuracy.roundToNearestEven] <;> omega

/-- Where a number with this many bits too many is normal when it has lost them. -/
lemma target_normal {m k : Nat} {e : Int} (log : m.log2 = 52 + k) (least : -1074 ≤ e + k) :
    Format.binary64.targetExponent (totalExponent m e) = e + k := by
  unfold Format.targetExponent totalExponent
  change max ((m.log2 : Int) + 1 + e - 53) (-1074) = e + k
  omega

lemma shift_normal {m k : Nat} {e : Int} (log : m.log2 = 52 + k) (least : -1074 ≤ e + k) :
    shiftToTargetExponent Format.binary64 m e .exact =
      (ExtendedMantissa.mk m false false >>> k, e + k) := by
  have amount : (e + k - e).toNat = k := by omega
  unfold shiftToTargetExponent shiftToExponent
  dsimp only
  rw [target_normal log least, amount]
  rfl

/-- A significand that has gone up to the next power of two loses its last bit. -/
lemma shift_carried {r : Nat} {e : Int} (full : 2 ^ 52 ≤ r) (bound : r ≤ 2 ^ 53)
    (least : -1074 ≤ e) : ∃ m f,
      shiftToTargetExponent Format.binary64 r e .exact = (⟨m, false, false⟩, f) ∧
        2 ^ 52 ≤ m ∧ m < 2 ^ 53 ∧ e ≤ f ∧ f ≤ e + 1 ∧ height m f = height r e := by
  rcases Nat.lt_or_eq_of_le bound with below | rfl
  · have log : r.log2 = 52 + 0 := (Nat.log2_eq_iff (by omega)).mpr ⟨full, below⟩
    refine ⟨r, e, ?_, full, below, le_refl _, by omega, rfl⟩
    rw [shift_normal log (by omega), Nat.cast_zero, Int.add_zero]
    rfl
  · have log : (2 ^ 53).log2 = 52 + 1 := Nat.log2_two_pow
    refine ⟨2 ^ 52, e + 1, ?_, le_refl _, by omega, by omega, le_refl _, ?_⟩
    · rw [shift_normal log (by omega)]
      rfl
    · unfold height
      omega

/-- A significand with too many bits is rounded to a full one, cut off or one above that, and
stays where nothing is cut off. -/
lemma rounded_normal {m k : Nat} {e : Int} (log : m.log2 = 52 + k) (least : -1074 ≤ e + k) :
    ∃ (r n : Nat) (f : Int) (h : 0 < n),
      m / 2 ^ k ≤ r ∧ r ≤ m / 2 ^ k + 1 ∧ (∀ n, m = n * 2 ^ k → r = n) ∧
      roundWithAccuracy Format.binary64 .positive m e .exact = .finite .positive n f h ∧
      2 ^ 52 ≤ n ∧ n < 2 ^ 53 ∧ e + k ≤ f ∧ f ≤ e + k + 1 ∧ height n f = height r (e + k) := by
  let cut := ExtendedMantissa.mk m false false >>> k
  have bounds : m / 2 ^ k ≤ cut.roundedMantissa ∧ cut.roundedMantissa ≤ m / 2 ^ k + 1 := by
    rw [← shift_mantissa ⟨m, false, false⟩ k]
    exact rounded_bounds cut
  have exact (n : Nat) (h : m = n * 2 ^ k) : cut.roundedMantissa = n := by
    dsimp only [cut]
    rw [h, shift_exact]
    rfl
  have positive : m ≠ 0 := by
    rintro rfl
    rw [Nat.log2_zero] at log
    omega
  obtain ⟨full, small⟩ := (Nat.log2_eq_iff positive).mp log
  rw [Nat.pow_add, ← Nat.le_div_iff_mul_le (Nat.two_pow_pos k)] at full
  rw [Nat.add_right_comm, Nat.pow_add, ← Nat.div_lt_iff_lt_mul (Nat.two_pow_pos k)] at small
  obtain ⟨n, f, settled, normal, below, low, high, same⟩ := shift_carried
    (r := cut.roundedMantissa) (e := e + k) (by omega) (by omega) least
  refine ⟨cut.roundedMantissa, n, f, by omega, bounds.1, bounds.2, exact, ?_, normal, below,
    low, high, same⟩
  unfold roundWithAccuracy
  rw [shift_normal log least]
  dsimp only
  rw [settled]
  exact dif_neg (by dsimp only; omega)

/-- Nothing is put behind a significand that has bits enough. -/
lemma round_whole {m k : Nat} {e : Int} (log : m.log2 = 52 + k) (least : -1074 ≤ e + k) :
    UnpackedFloat.round Format.binary64 .positive m e =
      roundWithAccuracy Format.binary64 .positive m e .exact := by
  have none : (e - (e + k)).toNat = 0 := by omega
  unfold UnpackedFloat.round decreaseExponent
  dsimp only
  rw [target_normal log least, none, Nat.shiftLeft_zero, Nat.cast_zero, Int.sub_zero]

/-- What is rounded to a normal number is cut off or goes up by one, and stays where nothing is
cut off. -/
lemma place_round {m k : Nat} {e : Int} (log : m.log2 = 52 + k) (least : -1074 ≤ e + k)
    (most : e + k ≤ 970) :
    ∃ r : Nat, m / 2 ^ k ≤ r ∧ r ≤ m / 2 ^ k + 1 ∧ (∀ n, m = n * 2 ^ k → r = n) ∧
      place (Float.Model.pack (UnpackedFloat.round Format.binary64 .positive m e)).unpack =
        some (height r (e + k)) := by
  obtain ⟨r, n, f, h, floor, ceiling, exact, rounded, normal, below, low, high, same⟩ :=
    rounded_normal log least
  have canonical : Canonical n f := ⟨below, by omega, by omega, .inr normal⟩
  refine ⟨r, floor, ceiling, exact, ?_⟩
  rw [round_whole log least, rounded, unpack_pack h canonical normal, ← same]
  rfl

/-! ## Counting up -/

/-- The place of `2 ^ 53`. -/
def top : Int := 1076 * 2 ^ 52

lemma unpack_one : (1 : Float).toModel.unpack = .finite .positive (2 ^ 52) (-52) (by decide) := rfl

/-- The sum is rounded from the least of the exponents. -/
lemma unpack_add_one {m : Nat} {e : Int} {h : 0 < m}
    (hx : x.toModel.unpack = .finite .positive m e h) : (x + 1).toModel.unpack =
      (Float.Model.pack (UnpackedFloat.round Format.binary64 .positive
        (m * 2 ^ (e - min e (-52)).toNat + 2 ^ 52 * 2 ^ (-52 - min e (-52)).toNat)
        (min e (-52)))).unpack := by
  have sum : (x + 1).toModel.unpack = (Float.Model.pack
      (UnpackedFloat.add Format.binary64 x.toModel.unpack (1 : Float).toModel.unpack)).unpack := rfl
  rw [sum, hx, unpack_one]
  unfold UnpackedFloat.add decreaseExponent
  dsimp only
  rw [Nat.shiftLeft_eq, Nat.shiftLeft_eq]
  generalize hs : m * 2 ^ (e - min e (-52)).toNat + 2 ^ 52 * 2 ^ (-52 - min e (-52)).toNat = s
  have total : Sign.positive.apply (m * 2 ^ (e - min e (-52)).toNat : Nat) +
      Sign.positive.apply (2 ^ 52 * 2 ^ (-52 - min e (-52)).toNat : Nat) = s := by
    rw [← hs, Nat.cast_add]
    rfl
  have positive : compare (s : Int) 0 = .gt := by
    have : 0 < 2 ^ (-52 - min e (-52)).toNat := Nat.two_pow_pos _
    exact Int.compare_eq_gt.mpr (by omega)
  rw [total, UnpackedFloat.normalize, positive]
  rfl

variable {m : Nat} {e : Int} {h : 0 < m}

lemma canonical_unpack (hx : x.toModel.unpack = .finite .positive m e h) : Canonical m e := by
  have proper := proper_unpack x
  rwa [hx] at proper

/-- Below one the sum lies between one and two. -/
lemma add_one_small (hx : x.toModel.unpack = .finite .positive m e h) (below : e < -52) :
    ∃ q, place (x + 1).toModel.unpack = some q ∧ height m e < q ∧ q ≤ top := by
  have canonical := canonical_unpack hx
  have small := canonical.small
  have least := canonical.least
  obtain ⟨j, hj⟩ : ∃ j : Nat, -52 - e = j + 1 := ⟨(-53 - e).toNat, by omega⟩
  have none : (e - e).toNat = 0 := by omega
  have shift : (-52 - e).toNat = j + 1 := by omega
  have sum := unpack_add_one hx
  rw [min_eq_left (by omega), none, shift, Nat.pow_zero, Nat.mul_one, ← Nat.pow_add] at sum
  have power : 2 ^ 53 ≤ 2 ^ (52 + (j + 1)) := Nat.pow_le_pow_right (by decide) (by omega)
  have log : (m + 2 ^ (52 + (j + 1))).log2 = 52 + (j + 1) := by
    refine (Nat.log2_eq_iff (by omega)).mpr ⟨by omega, ?_⟩
    rw [Nat.pow_succ]
    omega
  obtain ⟨r, floor, ceiling, -, placed⟩ := place_round log (e := e) (by omega) (by omega)
  have quotient : (m + 2 ^ (52 + (j + 1))) / 2 ^ (j + 1) = m / 2 ^ (j + 1) + 2 ^ 52 := by
    rw [Nat.pow_add, Nat.add_mul_div_right _ _ (Nat.two_pow_pos _)]
  have half : m / 2 ^ (j + 1) < 2 ^ 52 := by
    rw [Nat.div_lt_iff_lt_mul (Nat.two_pow_pos _), ← Nat.pow_add]
    omega
  rw [quotient] at floor ceiling
  generalize m / 2 ^ (j + 1) = c at half floor ceiling
  refine ⟨_, sum ▸ placed, ?_, ?_⟩
  · unfold height
    omega
  · unfold height top
    omega

lemma log2_shifted {m k : Nat} (full : 2 ^ k ≤ m) (small : m < 2 ^ (k + 1)) (j : Nat) :
    (m * 2 ^ j).log2 = k + j := by
  have positive : 0 < m * 2 ^ j :=
    Nat.mul_pos (Nat.lt_of_lt_of_le (Nat.two_pow_pos k) full) (Nat.two_pow_pos j)
  refine (Nat.log2_eq_iff positive.ne').mpr ⟨?_, ?_⟩
  · rw [Nat.pow_add]
    exact Nat.mul_le_mul_right _ full
  · rw [Nat.add_right_comm, Nat.pow_add]
    exact Nat.mul_lt_mul_of_pos_right small (Nat.two_pow_pos j)

/-- From one up to `2 ^ 53` the sum has the same exponent or the next. -/
lemma add_one_large (hx : x.toModel.unpack = .finite .positive m e h) (above : -52 ≤ e)
    (bound : height m e < top) :
    ∃ q, place (x + 1).toModel.unpack = some q ∧ height m e < q ∧ q ≤ top := by
  have canonical := canonical_unpack hx
  have small := canonical.small
  have full : 2 ^ 52 ≤ m := canonical.full.resolve_left (by omega)
  unfold height top at bound
  obtain ⟨j, hj⟩ : ∃ j : Nat, e = j - 52 := ⟨(e + 52).toNat, by omega⟩
  have most : j ≤ 52 := by omega
  obtain ⟨i, hi⟩ := Nat.exists_eq_add_of_le most
  have none : (-52 - -52 : Int).toNat = 0 := rfl
  have shift : (e - -52).toNat = j := by omega
  have sum := unpack_add_one hx
  rw [min_eq_right above, none, shift, Nat.pow_zero, Nat.mul_one] at sum
  have split : m * 2 ^ j + 2 ^ 52 = (m + 2 ^ i) * 2 ^ j := by
    rw [Nat.add_mul, ← Nat.pow_add, Nat.add_comm i j, ← hi]
  rw [split] at sum
  have step : 0 < 2 ^ i := Nat.two_pow_pos i
  rcases Nat.lt_or_ge (m + 2 ^ i) (2 ^ 53) with fits | carries
  · have log : ((m + 2 ^ i) * 2 ^ j).log2 = 52 + j := log2_shifted (by omega) fits j
    obtain ⟨r, -, -, exact, placed⟩ := place_round log (e := -52) (by omega) (by omega)
    obtain rfl := exact _ rfl
    refine ⟨_, sum ▸ placed, ?_, ?_⟩
    · unfold height
      omega
    · unfold height top
      omega
  · have least : 2 ^ i ≤ 2 ^ 52 := Nat.pow_le_pow_right (by decide) (by omega)
    have log : ((m + 2 ^ i) * 2 ^ j).log2 = 52 + (j + 1) := by
      rw [log2_shifted carries (by omega) j]
      omega
    have quotient : (m + 2 ^ i) * 2 ^ j / 2 ^ (j + 1) = (m + 2 ^ i) / 2 := by
      rw [Nat.pow_succ, Nat.mul_comm (2 ^ j), Nat.mul_div_mul_right _ _ (Nat.two_pow_pos j)]
    obtain ⟨r, floor, ceiling, exact, placed⟩ := place_round log (e := -52) (by omega) (by omega)
    rw [quotient] at floor ceiling
    have last (whole : j = 52) : r = 2 ^ 52 := by
      obtain rfl : i = 0 := by omega
      have up : m + 2 ^ 0 = 2 ^ 52 * 2 := by omega
      refine exact _ ?_
      rw [up, Nat.mul_assoc, ← Nat.pow_succ']
    refine ⟨_, sum ▸ placed, ?_, ?_⟩
    · unfold height
      omega
    · unfold height top
      omega

/-- Counting up from zero or more comes to a later place as long as it is before that of `2 ^ 53`,
and stays there. -/
lemma counted_up {p : Int} (hp : place x.toModel.unpack = some p) (least : 0 ≤ p)
    (most : p ≤ top) : ∃ q, place (x + 1).toModel.unpack = some q ∧ min (p + 1) top ≤ q ∧
      q ≤ top := by
  have proper := proper_unpack x
  have sum : (x + 1).toModel.unpack = (Float.Model.pack
    (UnpackedFloat.add Format.binary64 x.toModel.unpack (1 : Float).toModel.unpack)).unpack := rfl
  rcases hx : x.toModel.unpack with s | _ | s | ⟨s, m, e, h⟩ <;> rw [hx] at hp proper sum
  · cases s <;> cases hp
    · exact absurd least (by decide)
    · exact absurd most (by decide)
  · cases hp
  · cases hp
    have one : place (x + 1).toModel.unpack = some (height (2 ^ 52) (-52)) := by
      rw [sum]
      cases s <;> decide +kernel
    exact ⟨_, one, by decide, by decide⟩
  · have above := Canonical.above proper h
    cases s <;> cases hp
    · exact absurd least (not_le.mpr (neg_neg_of_pos above))
    · change height m e ≤ top at most
      have later {q : Int} (h : height m e < q ∧ q ≤ top) :
          min (height m e + 1) top ≤ q ∧ q ≤ top :=
        ⟨min_le_of_left_le h.1, h.2⟩
      rcases lt_or_eq_of_le most with below | last
      · rcases lt_or_ge e (-52) with small | large
        · obtain ⟨q, hq, bounds⟩ := add_one_small hx small
          exact ⟨q, hq, later bounds⟩
        · obtain ⟨q, hq, bounds⟩ := add_one_large hx large below
          exact ⟨q, hq, later bounds⟩
      · have small := proper.small
        have full := proper.full
        unfold height top at last
        obtain rfl : e = 1 := by omega
        obtain rfl : m = 2 ^ 52 := by omega
        have same : place (x + 1).toModel.unpack = some top := by
          rw [sum]
          clear * -
          revert h
          decide +kernel
        exact ⟨top, same, min_le_right _ _, le_refl top⟩

lemma place_of_le_top (h : x ≤ 9007199254740992) :
    ∃ p, place x.toModel.unpack = some p ∧ p ≤ top := by
  obtain ⟨p, t, hp, ht, le⟩ := le_iff.mp h
  have last : place (9007199254740992 : Float).toModel.unpack = some top := by decide +kernel
  obtain rfl : t = top := Option.some.inj (ht.symm.trans last)
  exact ⟨p, hp, le⟩

end Rehearsal.Decimal
