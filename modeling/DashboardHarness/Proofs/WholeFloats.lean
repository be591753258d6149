import Mathlib
/-!
# Whole numbers as doubles

A whole number below `2^53` is a double exactly, and the double operations that the duration
reader uses keep such numbers exact: a product below `2^53` is the product, a quotient that
divides evenly is the quotient, and truncation to a 64-bit word gives the number back. The proofs
follow the logical model of doubles: a positive whole number `n` unpacks to the mantissa
`n * 2^(52 - log2 n)` with the exponent `log2 n - 52`, its canonical form, and each operation
rounds a canonical form with an exact mantissa to the canonical form of its result.

Main results:

- `ofNat_mul_ofNat`: the product of whole doubles below `2^53`.
- `ofNat_div_ofNat`: the quotient of whole doubles that divide evenly.
- `toUInt64_ofNat`: truncation gives a whole double back.
-/

namespace DashboardHarness.WholeFloat

open Float.Model Float.Model.UnpackedFloat

theorem log2_shiftLeft {n : Nat} (hn : 0 < n) (k : Nat) : (n <<< k).log2 = n.log2 + k := by
  have hpos : n <<< k ≠ 0 := by
    rw [Nat.shiftLeft_eq]
    exact Nat.pos_iff_ne_zero.mp (Nat.mul_pos hn (Nat.two_pow_pos k))
  rw [Nat.log2_eq_iff hpos, Nat.shiftLeft_eq]
  have hlow := (Nat.le_log2 (Nat.ne_of_gt hn)).mp (Nat.le_refl _)
  have hhigh := (Nat.log2_lt (Nat.ne_of_gt hn)).mp (Nat.lt_succ_self n.log2)
  constructor
  · rw [Nat.pow_add]
    exact Nat.mul_le_mul_right _ hlow
  · rw [show n.log2 + k + 1 = n.log2 + 1 + k by omega, Nat.pow_add]
    exact Nat.mul_lt_mul_of_pos_right hhigh (Nat.two_pow_pos k)

/-- Shifting out zero bits loses nothing: the mantissa stays exact. -/
theorem shiftRight_exact (m k : Nat) :
    (⟨m * 2 ^ k, false, false⟩ : ExtendedMantissa) >>> k = ⟨m, false, false⟩ := by
  induction k generalizing m with
  | zero => simp [HShiftRight.hShiftRight, Nat.repeat]
  | succ k ih =>
    have h := ih (m * 2)
    rw [Nat.mul_assoc, ← Nat.pow_succ'] at h
    change ExtendedMantissa.shiftRightOne ((⟨m * 2 ^ (k + 1), false, false⟩ : ExtendedMantissa) >>> k) = _
    rw [h]
    simp [ExtendedMantissa.shiftRightOne]

theorem unpackSign_packComponents {sign : Sign} {exponent : BitVec 11} {mantissa : BitVec 52} :
    unpackSign (packComponents Format.binary64 sign exponent mantissa) = sign.toBitVec := by
  ext i hi
  obtain rfl : i = 0 := by omega
  simp [unpackSign, packComponents]
  rw [BitVec.getLsbD_append, BitVec.getLsbD_append]
  cases sign <;> simp [Sign.toBitVec]

/-- The canonical form of a positive whole number below `2^53`: its bits fill the 53 bits of the
mantissa. -/
def canonical (n : Nat) (hn : 0 < n) : UnpackedFloat :=
  .finite .positive (n * 2 ^ (52 - n.log2)) ((n.log2 : Int) - 52) (Nat.mul_pos hn (Nat.two_pow_pos _))

section Canonical

variable {n : Nat} (hn : 0 < n) (hb : n < 2 ^ 53)
include hn hb

theorem log2_lt_53 : n.log2 < 53 := (Nat.log2_lt (Nat.ne_of_gt hn)).mpr hb

/-- A whole number with `j` zero bits below it, `j` at least what the mantissa has room for,
shifts to its canonical mantissa with no bit lost. -/
theorem shiftToTargetExponent_whole {j : Nat} (hj : 52 - n.log2 ≤ j) :
    shiftToTargetExponent Format.binary64 (n * 2 ^ j) (-(j : Int)) .exact =
      (⟨n * 2 ^ (52 - n.log2), false, false⟩, (n.log2 : Int) - 52) := by
  have hL := log2_lt_53 hn hb
  have hlog : (n * 2 ^ j).log2 = n.log2 + j := by
    rw [← Nat.shiftLeft_eq]
    exact log2_shiftLeft hn j
  have htarget : Format.binary64.targetExponent (totalExponent (n * 2 ^ j) (-(j : Int))) =
      (n.log2 : Int) - 52 := by
    simp only [Format.targetExponent, totalExponent, hlog, Format.mantissaBits, Format.minExponent]
    omega
  have hsplit : n * 2 ^ j = n * 2 ^ (52 - n.log2) * 2 ^ (j - (52 - n.log2)) := by
    rw [Nat.mul_assoc, ← Nat.pow_add]
    congr 2
    omega
  have hshift : ((n.log2 : Int) - 52 - -(j : Int)).toNat = j - (52 - n.log2) := by omega
  simp only [shiftToTargetExponent, shiftToExponent, htarget, hshift,
    ExtendedMantissa.ofMantissaAndAccuracy]
  rw [hsplit, shiftRight_exact]
  congr 1
  omega

/-- Rounding a whole number below `2^53` with spare zero bits gives its canonical form. -/
theorem roundWithAccuracy_whole {j : Nat} (hj : 52 - n.log2 ≤ j) :
    roundWithAccuracy Format.binary64 .positive (n * 2 ^ j) (-(j : Int)) .exact =
      canonical n hn := by
  have hL := log2_lt_53 hn hb
  have hagain := shiftToTargetExponent_whole hn hb (Nat.le_refl (52 - n.log2))
  rw [show (-((52 - n.log2 : Nat) : Int)) = (n.log2 : Int) - 52 by omega] at hagain
  simp only [roundWithAccuracy, shiftToTargetExponent_whole hn hb hj,
    ExtendedMantissa.roundedMantissa, ExtendedMantissa.accuracy, Accuracy.roundToNearestEven,
    hagain]
  simp [canonical, Nat.ne_of_gt (Nat.mul_pos hn (Nat.two_pow_pos (52 - n.log2)))]

/-- The canonical form of a whole number is normal, and packing and unpacking keep it. -/
theorem unpack_pack_canonical : (Float.Model.pack (canonical n hn)).unpack = canonical n hn := by
  have hL := log2_lt_53 hn hb
  have hm : (n * 2 ^ (52 - n.log2)).log2 = 52 := by
    rw [← Nat.shiftLeft_eq, log2_shiftLeft hn]
    omega
  have hmb := (Nat.log2_eq_iff (Nat.ne_of_gt (Nat.mul_pos hn (Nat.two_pow_pos (52 - n.log2))))).mp hm
  have hbias : ((n.log2 : Int) - 52 + Format.binary64.exponentBias +
      Format.binary64.mantissaBitsWithoutImplicit).toNat = n.log2 + 1023 := by
    show ((n.log2 : Int) - 52 + (2 ^ (11 - 1) - 1 : Nat) + (52 : Nat)).toNat = _
    omega
  have hones : BitVec.ofNat 11 (n.log2 + 1023) ≠ -1#11 := by
    intro h
    have := congrArg BitVec.toNat h
    simp [BitVec.toNat_ofNat] at this
    omega
  have hzero : BitVec.ofNat 11 (n.log2 + 1023) ≠ 0#11 := by
    intro h
    have := congrArg BitVec.toNat h
    simp [BitVec.toNat_ofNat] at this
    omega
  have hmantissa : (1#1 ++ BitVec.ofNat 52 (n * 2 ^ (52 - n.log2))).toNat = n * 2 ^ (52 - n.log2) := by
    rw [BitVec.toNat_append, ← Nat.shiftLeft_add_eq_or_of_lt (BitVec.isLt _), BitVec.toNat_ofNat,
      Nat.shiftLeft_eq]
    simp only [BitVec.toNat_ofNat]
    omega
  unfold Float.Model.unpack Float.Model.pack canonical
  simp only [UnpackedFloat.pack, hm, hbias]
  rw [if_neg (by omega), if_pos (by simp [Format.mantissaBits])]
  simp only [UnpackedFloat.unpack, unpackMantissa_packComponents, unpackExponent_packComponents,
    unpackSign_packComponents, hones, hzero, hmantissa, if_false]
  have hexp : ((BitVec.ofNat 11 (n.log2 + 1023)).toNat : Int) -
      (Format.binary64.exponentBias + (52 : Nat)) = (n.log2 : Int) - 52 := by
    rw [BitVec.toNat_ofNat, Nat.mod_eq_of_lt (by omega)]
    show ((n.log2 + 1023 : Nat) : Int) - ((2 ^ (11 - 1) - 1 : Nat) + (52 : Nat)) = _
    omega
  simp only [hexp]
  rfl

/-- Converting a whole number rounds it to its canonical form. -/
theorem ofNat_model : Float.Model.ofNat n = Float.Model.pack (canonical n hn) := by
  have hL := log2_lt_53 hn hb
  have htarget : Format.binary64.targetExponent (totalExponent n 0) = (n.log2 : Int) - 52 := by
    simp only [Format.targetExponent, totalExponent, Format.mantissaBits, Format.minExponent]
    omega
  have hshift : (0 - ((n.log2 : Int) - 52)).toNat = 52 - n.log2 := by omega
  have hexp : (0 : Int) - ((52 - n.log2 : Nat) : Int) = -((52 - n.log2 : Nat) : Int) := by omega
  unfold Float.Model.ofNat UnpackedFloat.ofNat UnpackedFloat.ofInt
    UnpackedFloat.normalize
  rw [Int.compare_eq_gt.mpr (by omega)]
  simp only [UnpackedFloat.round, htarget, decreaseExponent, hshift, Int.toNat_natCast, Nat.shiftLeft_eq, hexp]
  rw [roundWithAccuracy_whole hn hb (Nat.le_refl _)]

/-- Truncating the canonical form of a whole number gives the number. -/
theorem toUInt64_canonical : (canonical n hn).toUInt64.toNat = n := by
  have hL := log2_lt_53 hn hb
  have hdown : (((n.log2 : Int) - 52) - 0).toNat = 0 := by omega
  have hup : (0 - ((n.log2 : Int) - 52 - ((0 : Nat) : Int))).toNat = 52 - n.log2 := by omega
  simp only [canonical, UnpackedFloat.toUInt64, toInt, roundToInt, decreaseExponent, hdown,
    shiftToExponent, hup, ExtendedMantissa.ofMantissaAndAccuracy, Nat.shiftLeft_zero,
    shiftRight_exact, Sign.apply, Int.toNat_natCast]
  rw [UInt64.ofNatClamp, dif_pos (by simp only [UInt64.size]; omega)]
  rfl

end Canonical

theorem log2_le_log2_mul {a b : Nat} (ha : 0 < a) (hb : 0 < b) : a.log2 ≤ (a * b).log2 :=
  (Nat.le_log2 (Nat.ne_of_gt (Nat.mul_pos ha hb))).mpr
    (Nat.le_trans ((Nat.le_log2 (Nat.ne_of_gt ha)).mp (Nat.le_refl _)) (Nat.le_mul_of_pos_right a hb))

/-- The product of the canonical forms of two whole numbers whose product is below `2^53` is the
canonical form of the product. -/
theorem mul_canonical {a b : Nat} (ha : 0 < a) (hb : 0 < b) (hab : a * b < 2 ^ 53) :
    UnpackedFloat.mul Format.binary64 (canonical a ha) (canonical b hb) =
      canonical (a * b) (Nat.mul_pos ha hb) := by
  have haL := log2_lt_53 ha (Nat.lt_of_le_of_lt (Nat.le_mul_of_pos_right a hb) hab)
  have hbL := log2_lt_53 hb (Nat.lt_of_le_of_lt (Nat.le_mul_of_pos_left b ha) hab)
  have hle := log2_le_log2_mul ha hb
  have hmant : a * 2 ^ (52 - a.log2) * (b * 2 ^ (52 - b.log2)) =
      a * b * 2 ^ ((52 - a.log2) + (52 - b.log2)) := by
    rw [Nat.pow_add]
    ac_rfl
  have hexp : ((a.log2 : Int) - 52) + ((b.log2 : Int) - 52) =
      -(((52 - a.log2) + (52 - b.log2) : Nat) : Int) := by omega
  simp only [canonical, UnpackedFloat.mul, hmant, hexp]
  exact roundWithAccuracy_whole (Nat.mul_pos ha hb) hab (by omega)

/-- The quotient of the canonical forms of `q * d` and `d`, below `2^53`, is the canonical form
of `q`: the division is exact. -/
theorem div_canonical {q d : Nat} (hq : 0 < q) (hd : 0 < d) (hqd : q * d < 2 ^ 53) :
    UnpackedFloat.div Format.binary64 (canonical (q * d) (Nat.mul_pos hq hd)) (canonical d hd) =
      canonical q hq := by
  have hqL := log2_lt_53 hq (Nat.lt_of_le_of_lt (Nat.le_mul_of_pos_right q hd) hqd)
  have hdL := log2_lt_53 hd (Nat.lt_of_le_of_lt (Nat.le_mul_of_pos_left d hq) hqd)
  have haL := log2_lt_53 (Nat.mul_pos hq hd) hqd
  have hle := log2_le_log2_mul hd hq
  rw [Nat.mul_comm d q] at hle
  have hsum : (q * d).log2 ≤ q.log2 + d.log2 + 1 := by
    have hq' := (Nat.log2_lt (Nat.ne_of_gt hq)).mp (Nat.lt_succ_self q.log2)
    have hd' := (Nat.log2_lt (Nat.ne_of_gt hd)).mp (Nat.lt_succ_self d.log2)
    have : q * d < 2 ^ (q.log2 + d.log2 + 2) := by
      rw [show q.log2 + d.log2 + 2 = (q.log2 + 1) + (d.log2 + 1) by omega, Nat.pow_add]
      exact Nat.mul_lt_mul_of_lt_of_lt hq' hd'
    have := (Nat.log2_lt (Nat.ne_of_gt (Nat.mul_pos hq hd))).mpr this
    omega
  have hlog (n : Nat) (hn : 0 < n) (hL : n.log2 < 53) : (n * 2 ^ (52 - n.log2)).log2 = 52 := by
    rw [← Nat.shiftLeft_eq, log2_shiftLeft hn]
    omega
  have htarget : min (((q * d).log2 : Int) - 52 - ((d.log2 : Int) - 52))
      (Format.binary64.targetExponent
        (totalExponent (q * d * 2 ^ (52 - (q * d).log2)) ((q * d).log2 - 52) -
          totalExponent (d * 2 ^ (52 - d.log2)) (d.log2 - 52))) =
      -((53 + d.log2 - (q * d).log2 : Nat) : Int) := by
    simp only [totalExponent, hlog _ (Nat.mul_pos hq hd) haL, hlog _ hd hdL,
      Format.targetExponent, Format.mantissaBits, Format.minExponent]
    omega
  have hshift : (((q * d).log2 : Int) - 52 - ((d.log2 : Int) - 52) -
      -((53 + d.log2 - (q * d).log2 : Nat) : Int)).toNat = 53 := by omega
  have hsplit : q * d * 2 ^ (52 - (q * d).log2) * 2 ^ 53 =
      q * 2 ^ (53 + d.log2 - (q * d).log2) * (d * 2 ^ (52 - d.log2)) := by
    have : 52 - (q * d).log2 + 53 = (53 + d.log2 - (q * d).log2) + (52 - d.log2) := by omega
    rw [Nat.mul_assoc, ← Nat.pow_add, this, Nat.pow_add]
    ac_rfl
  have hm₂ : 0 < d * 2 ^ (52 - d.log2) := Nat.mul_pos hd (Nat.two_pow_pos _)
  simp only [canonical, UnpackedFloat.div, divCore, htarget, hshift, Nat.shiftLeft_eq, hsplit,
    Nat.mul_div_cancel _ hm₂, Nat.mul_mod_left, accuracyOfFraction, if_true]
  exact roundWithAccuracy_whole hq (Nat.lt_of_le_of_lt (Nat.le_mul_of_pos_right q hd) hqd)
    (by omega)

/-! ## Whole doubles -/

theorem ofNat_eq {n : Nat} (hn : 0 < n) (hb : n < 2 ^ 53) :
    Float.ofNat n = ⟨Float.Model.pack (canonical n hn)⟩ := by
  have hone : Float.Model.ofBits 0x3FF0000000000000 = Float.Model.pack (canonical 1 Nat.one_pos) := by
    decide
  show Float.ofScientific n false 0 = _
  rw [Float.ofScientific, dif_pos ⟨hb, by decide⟩]
  simp only [Bool.false_eq_true, if_false]
  have hn64 : n.toUInt64.toNat = n := by
    simp only [Nat.toUInt64_eq, UInt64.toNat_ofNat']
    omega
  show (⟨Float.Model.ofNat n.toUInt64.toNat * Float.Model.ofBits 0x3FF0000000000000⟩ : Float) = _
  rw [hn64, hone, ofNat_model hn hb]
  show (⟨Float.Model.pack (UnpackedFloat.mul Format.binary64
    (Float.Model.pack (canonical n hn)).unpack (Float.Model.pack (canonical 1 Nat.one_pos)).unpack)⟩ : Float) = _
  rw [unpack_pack_canonical hn hb, unpack_pack_canonical Nat.one_pos (by decide),
    mul_canonical hn Nat.one_pos (by omega)]
  simp only [Nat.mul_one]

/-- Doubles multiply whole numbers exactly while the product stays below `2^53`. -/
theorem ofNat_mul_ofNat {a b : Nat} (ha : 0 < a) (hb : 0 < b) (hab : a * b < 2 ^ 53) :
    Float.ofNat a * Float.ofNat b = Float.ofNat (a * b) := by
  have ha' : a < 2 ^ 53 := Nat.lt_of_le_of_lt (Nat.le_mul_of_pos_right a hb) hab
  have hb' : b < 2 ^ 53 := Nat.lt_of_le_of_lt (Nat.le_mul_of_pos_left b ha) hab
  rw [ofNat_eq ha ha', ofNat_eq hb hb', ofNat_eq (Nat.mul_pos ha hb) hab]
  show (⟨Float.Model.pack (UnpackedFloat.mul Format.binary64
    (Float.Model.pack (canonical a ha)).unpack (Float.Model.pack (canonical b hb)).unpack)⟩ : Float) = _
  rw [unpack_pack_canonical ha ha', unpack_pack_canonical hb hb', mul_canonical ha hb hab]

/-- Doubles divide whole numbers exactly when the division leaves no remainder. -/
theorem ofNat_div_ofNat {q d : Nat} (hq : 0 < q) (hd : 0 < d) (hqd : q * d < 2 ^ 53) :
    Float.ofNat (q * d) / Float.ofNat d = Float.ofNat q := by
  have hq' : q < 2 ^ 53 := Nat.lt_of_le_of_lt (Nat.le_mul_of_pos_right q hd) hqd
  have hd' : d < 2 ^ 53 := Nat.lt_of_le_of_lt (Nat.le_mul_of_pos_left d hq) hqd
  rw [ofNat_eq (Nat.mul_pos hq hd) hqd, ofNat_eq hd hd', ofNat_eq hq hq']
  show (⟨Float.Model.pack (UnpackedFloat.div Format.binary64
    (Float.Model.pack (canonical (q * d) (Nat.mul_pos hq hd))).unpack
    (Float.Model.pack (canonical d hd)).unpack)⟩ : Float) = _
  rw [unpack_pack_canonical (Nat.mul_pos hq hd) hqd, unpack_pack_canonical hd hd',
    div_canonical hq hd hqd]

/-- Truncating a whole double below `2^53` to a 64-bit word gives the number back. -/
theorem toUInt64_ofNat {n : Nat} (hb : n < 2 ^ 53) : (Float.ofNat n).toUInt64.toNat = n := by
  rcases Nat.eq_zero_or_pos n with rfl | hn
  · decide
  · rw [ofNat_eq hn hb]
    show ((Float.Model.pack (canonical n hn)).unpack.toUInt64).toNat = n
    rw [unpack_pack_canonical hn hb, toUInt64_canonical hn hb]

end DashboardHarness.WholeFloat
