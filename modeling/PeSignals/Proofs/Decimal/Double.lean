import Mathlib
import PeSignals.Decimal.Fixed
import PeSignals.Decimal.Whole

/-!
# Doubles and their bits

What the bits of a double say of the value it stands for: whether it has a whole part, and whether it lies
below zero. Division and decimal numerals give nothing below zero, and a product that stays small is finite.
-/
namespace PeSignals.Decimal

open Float.Model (Format UnpackedFloat totalExponent)
open Float.Model.UnpackedFloat

abbrev Bits := BitVec Format.binary64.numBits

/-! ## Fields -/

def exponentField (b : Bits) : BitVec 11 := @unpackExponent Format.binary64 b

def fractionField (b : Bits) : BitVec 52 := @unpackMantissa Format.binary64 b

def signField (b : Bits) : BitVec 1 := @unpackSign Format.binary64 b

theorem toNat_exponentField (b : Bits) : (exponentField b).toNat = b.toNat / 2 ^ 52 % 2 ^ 11 := by
  simp [exponentField, unpackExponent, Nat.shiftRight_eq_div_pow]

theorem toNat_signField (b : Bits) : (signField b).toNat = b.toNat / 2 ^ 63 % 2 := by
  simp [signField, unpackSign, Nat.shiftRight_eq_div_pow]

variable (sign : Sign) (e : BitVec 11) (m : BitVec 52)

theorem exponentField_packComponents : exponentField (packComponents Format.binary64 sign e m) = e :=
  unpackExponent_packComponents

theorem fractionField_packComponents : fractionField (packComponents Format.binary64 sign e m) = m :=
  unpackMantissa_packComponents

theorem signField_packComponents : signField (packComponents Format.binary64 sign e m) = sign.toBitVec := by
  apply BitVec.eq_of_getLsbD_eq
  intro i hi
  have hi0 : i = 0 := by omega
  subst hi0
  simp only [signField, unpackSign, packComponents, BitVec.getLsbD_cast, BitVec.getLsbD_extractLsb,
    BitVec.getLsbD_append]
  simp

/-- What bits stand for, by their exponent. -/
theorem unpack_cases (b : Bits) :
    (exponentField b = -1#_ ∧ fractionField b = 0#_ ∧
        unpack Format.binary64 b = .infinity (Sign.ofBitVec (signField b))) ∨
      (exponentField b = -1#_ ∧ fractionField b ≠ 0#_ ∧ unpack Format.binary64 b = .notANumber) ∨
      (exponentField b ≠ -1#_ ∧
        (unpack Format.binary64 b = .zero (Sign.ofBitVec (signField b)) ∨
          ∃ m e, ∃ hm : 0 < m, m < 2 ^ 53 ∧
            unpack Format.binary64 b = .finite (Sign.ofBitVec (signField b)) m e hm)) := by
  have hfraction := (fractionField b).isLt
  by_cases hall : exponentField b = -1#_
  · by_cases hzero : fractionField b = 0#_
    · exact .inl ⟨hall, hzero, (if_pos hall).trans (if_pos hzero)⟩
    · exact .inr (.inl ⟨hall, hzero, (if_pos hall).trans (if_neg hzero)⟩)
  · refine .inr (.inr ⟨hall, ?_⟩)
    by_cases hnone : exponentField b = 0#_
    · by_cases hzero : fractionField b = 0#_
      · exact .inl ((if_neg hall).trans ((if_pos hnone).trans (dif_pos hzero)))
      · refine .inr ⟨_, _, _, ?_, (if_neg hall).trans ((if_pos hnone).trans (dif_neg hzero))⟩
        exact hfraction.trans (by decide)
    · refine .inr ⟨_, _, _, ?_, (if_neg hall).trans (if_neg hnone)⟩
      exact (1#1 ++ fractionField b).isLt

/-! ## Finite doubles -/

/-- The exponent of all ones is kept for the doubles that are not finite. -/
theorem isFinite_unpack_iff (b : Bits) :
    (unpack Format.binary64 b).isFinite = true ↔ exponentField b ≠ -1#_ := by
  rcases unpack_cases b with ⟨hall, -, h⟩ | ⟨hall, -, h⟩ | ⟨hall, h | ⟨m, e, hm, -, h⟩⟩
  · exact iff_of_false (by rw [h]; exact Bool.false_ne_true) (not_not.mpr hall)
  · exact iff_of_false (by rw [h]; exact Bool.false_ne_true) (not_not.mpr hall)
  · exact iff_of_true (by rw [h]; rfl) hall
  · exact iff_of_true (by rw [h]; rfl) hall

theorem exponent_toBits_eq_iff (x : Float) :
    x.toBits.toNat / Nat.pow 2 52 % Nat.pow 2 11 = 2047 ↔ x.isFinite = false := by
  have hfinite := isFinite_unpack_iff x.toModel.toBits.toBitVec
  change x.isFinite = true ↔ _ at hfinite
  rw [← Bool.not_eq_true, hfinite, not_not, ← BitVec.toNat_inj, toNat_exponentField]
  rfl

theorem sign_toBits_eq_iff (x : Float) :
    x.toBits.toNat / Nat.pow 2 63 = 1 ↔ signField x.toModel.toBits.toBitVec = 1#1 := by
  have hlt : x.toBits.toNat < 2 ^ 64 := x.toBits.toNat_lt
  rw [← BitVec.toNat_inj, toNat_signField]
  change _ ↔ x.toBits.toNat / 2 ^ 63 % 2 = 1
  change x.toBits.toNat / 2 ^ 63 = 1 ↔ _
  omega

/-- A finite double is read as one. -/
theorem ofFloat_of_isFinite {x : Float} (h : x.isFinite = true) :
    ∃ d, Binary64.ofFloat x = .finite (decide (signField x.toModel.toBits.toBitVec = 1#1)) d := by
  have hexponent : ¬ x.toBits.toNat / Nat.pow 2 52 % Nat.pow 2 11 = 2047 := by
    rw [exponent_toBits_eq_iff, h]
    decide
  simp only [Binary64.ofFloat, if_neg hexponent, sign_toBits_eq_iff]
  split_ifs
  · exact ⟨_, rfl⟩
  · exact ⟨_, rfl⟩

theorem ofFloat_of_not_isFinite {x : Float} (h : x.isFinite = false) (negative : Bool) (d : Dyadic) :
    Binary64.ofFloat x ≠ .finite negative d := by
  simp only [Binary64.ofFloat, if_pos ((exponent_toBits_eq_iff x).mpr h)]
  split_ifs <;> exact nofun

theorem wholePart_of_isFinite {x : Float} (h : x.isFinite = true) : ∃ n, wholePart x = .ok n := by
  obtain ⟨d, hd⟩ := ofFloat_of_isFinite h
  rw [wholePart, hd]
  exact ⟨_, rfl⟩

/-- Whether the exponent of a value fits into its field. -/
def Fits : UnpackedFloat → Prop
  | .zero _ => True
  | .finite _ _ exponent _ => exponent ≤ 971
  | .infinity _ | .notANumber => False

theorem exponentField_pack {u : UnpackedFloat} (h : Fits u) : exponentField (pack Format.binary64 u) ≠ -1#_ := by
  cases u with
  | infinity => exact h.elim
  | notANumber => exact h.elim
  | zero s =>
    rw [pack, packedZero, exponentField_packComponents]
    decide
  | finite s m e hm =>
    have hexponent : ¬ 2 ^ 11 ≤ (e + 1023 + 52).toNat + 1 := by
      have he : e ≤ 971 := h
      omega
    have hne : BitVec.ofNat 11 (e + 1023 + 52).toNat ≠ -1#11 := by
      intro heq
      have hval := congrArg BitVec.toNat heq
      rw [BitVec.toNat_ofNat, Nat.mod_eq_of_lt (by omega)] at hval
      change _ = 2047 at hval
      omega
    change exponentField (if 2 ^ 11 ≤ (e + 1023 + 52).toNat + 1 then _ else _) ≠ _
    rw [if_neg hexponent]
    split_ifs
    · rw [exponentField_packComponents]
      exact hne
    · rw [exponentField_packComponents]
      decide

theorem isFinite_ofModel_pack {u : UnpackedFloat} (h : Fits u) :
    (Float.ofModel (.pack u)).isFinite = true :=
  (isFinite_unpack_iff _).mpr (exponentField_pack h)

/-! ## Doubles that are not below zero -/

/-- Whether a value is a number, or infinity, without a minus sign. -/
def IsUnsigned : UnpackedFloat → Prop
  | .infinity s | .zero s | .finite s _ _ _ => s = .positive
  | .notANumber => False

theorem isUnsigned_unpack {b : Bits} (hsign : signField b = 0#1)
    (hnan : exponentField b = -1#_ → fractionField b = 0#_) : IsUnsigned (unpack Format.binary64 b) := by
  have hpositive : Sign.ofBitVec (signField b) = .positive := by
    rw [hsign]
    rfl
  rcases unpack_cases b with ⟨-, -, h⟩ | ⟨hall, hfraction, -⟩ | ⟨-, h | ⟨m, e, hm, -, h⟩⟩
  · rw [h]
    exact hpositive
  · exact absurd (hnan hall) hfraction
  · rw [h]
    exact hpositive
  · rw [h]
    exact hpositive

theorem isUnsigned_unpack_packComponents {e : BitVec 11} {m : BitVec 52} (h : e = -1#_ → m = 0#_) :
    IsUnsigned (unpack Format.binary64 (packComponents Format.binary64 .positive e m)) := by
  refine isUnsigned_unpack (signField_packComponents _ _ _) ?_
  rw [exponentField_packComponents, fractionField_packComponents]
  exact h

/-- Packing keeps values from falling below zero, whatever has to be cut off. -/
theorem isUnsigned_unpack_pack {u : UnpackedFloat} (h : IsUnsigned u) :
    IsUnsigned (Float.Model.pack u).unpack := by
  change IsUnsigned (unpack Format.binary64 (pack Format.binary64 u))
  cases u with
  | notANumber => exact h.elim
  | infinity s =>
    obtain rfl : s = .positive := h
    exact isUnsigned_unpack_packComponents fun _ => rfl
  | zero s =>
    obtain rfl : s = .positive := h
    exact isUnsigned_unpack_packComponents fun _ => rfl
  | finite s m e hm =>
    obtain rfl : s = .positive := h
    rw [pack]
    split_ifs with hlarge
    · exact isUnsigned_unpack_packComponents fun _ => rfl
    · refine isUnsigned_unpack_packComponents fun heq => ?_
      have hval := congrArg BitVec.toNat heq
      rw [BitVec.toNat_ofNat, Nat.mod_eq_of_lt (by omega)] at hval
      change _ = 2047 at hval
      change ¬ 2048 ≤ _ at hlarge
      omega
    · exact isUnsigned_unpack_packComponents fun heq => absurd heq (by decide)

theorem isUnsigned_roundWithAccuracy (m : Nat) (e : Int) (accuracy : Accuracy) :
    IsUnsigned (roundWithAccuracy Format.binary64 .positive m e accuracy) := by
  simp only [roundWithAccuracy]
  split_ifs
  · rfl
  · rfl

/-- Whether a value is a number above zero. -/
def isPositive : UnpackedFloat → Bool
  | .finite .positive _ _ _ => true
  | _ => false

theorem isUnsigned_div {u v : UnpackedFloat} (hu : IsUnsigned u) (hv : isPositive v = true) :
    IsUnsigned (div Format.binary64 u v) := by
  obtain ⟨m, e, hm, rfl⟩ : ∃ m e, ∃ hm : 0 < m, v = .finite .positive m e hm := by
    cases v with
    | finite s m e hm => cases s with
      | negative => cases hv
      | positive => exact ⟨m, e, hm, rfl⟩
    | _ => cases hv
  cases u with
  | notANumber => exact hu.elim
  | infinity s =>
    obtain rfl : s = .positive := hu
    rfl
  | zero s =>
    obtain rfl : s = .positive := hu
    rfl
  | finite s m' e' hm' =>
    obtain rfl : s = .positive := hu
    exact isUnsigned_roundWithAccuracy _ _ _

theorem isUnsigned_ofScientific (m : Nat) (e : Int) : IsUnsigned (ofScientific Format.binary64 m e) := by
  rw [ofScientific]
  split_ifs
  · rfl
  · rfl
  · rfl
  · exact isUnsigned_roundWithAccuracy _ _ _
  · refine isUnsigned_div ?_ rfl
    rfl

theorem isUnsigned_ofNat (n : Nat) : IsUnsigned (ofNat Format.binary64 n) := by
  rw [ofNat, ofInt, UnpackedFloat.normalize]
  cases hcompare : compare (n : Int) 0 with
  | lt => exact absurd (compare_lt_iff_lt.mp hcompare) (by omega)
  | eq => rfl
  | gt => exact isUnsigned_roundWithAccuracy _ _ _

/-- Whether a double is a number, or infinity, without a minus sign. -/
def NonNegative (x : Float) : Prop := IsUnsigned x.toModel.unpack

theorem nonNegative_zero : NonNegative 0 := rfl

theorem nonNegative_of_pos {x : Float} (h : 0 < x) : NonNegative x := by
  have hlt : (UnpackedFloat.zero .positive).lt x.toModel.unpack = true := of_decide_eq_true h
  rw [NonNegative]
  generalize x.toModel.unpack = u at hlt
  cases u with
  | notANumber => cases hlt
  | infinity s => cases s with
    | negative => cases hlt
    | positive => rfl
  | zero s => cases hlt
  | finite s m e hm => cases s with
    | negative => cases hlt
    | positive => rfl

theorem NonNegative.div {x y : Float} (hx : NonNegative x) (hy : isPositive y.toModel.unpack = true) :
    NonNegative (x / y) :=
  isUnsigned_unpack_pack (isUnsigned_div hx hy)

/-- Reading a decimal with a fraction divides by one of these. -/
theorem isPositive_powersOfTen :
    ∀ x ∈ Float.exactlyRepresentablePowersOfTen.toList, isPositive x.toModel.unpack = true := by
  decide

theorem nonNegative_ofScientific (m places : Nat) : NonNegative (Float.ofScientific m true places) := by
  rw [Float.ofScientific]
  simp only [if_true]
  split_ifs with hexact
  · have hwhole : NonNegative m.toUInt64.toFloat := isUnsigned_unpack_pack (isUnsigned_ofNat _)
    exact hwhole.div (isPositive_powersOfTen _ (Array.getElem_mem_toList _))
  · exact isUnsigned_unpack_pack (isUnsigned_ofScientific _ _)

theorem NonNegative.signField_eq {x : Float} (h : NonNegative x) : signField x.toModel.toBits.toBitVec = 0#1 := by
  have hpositive : Sign.ofBitVec (signField x.toModel.toBits.toBitVec) = .positive := by
    rw [NonNegative, Float.Model.unpack] at h
    rcases unpack_cases x.toModel.toBits.toBitVec with
      ⟨-, -, hu⟩ | ⟨-, -, hu⟩ | ⟨-, hu | ⟨m, e, hm, -, hu⟩⟩
    · rw [hu] at h
      exact h
    · rw [hu] at h
      exact h.elim
    · rw [hu] at h
      exact h
    · rw [hu] at h
      exact h
  by_contra hsign
  rw [Sign.ofBitVec, if_neg hsign] at hpositive
  exact Sign.noConfusion hpositive

/-- Rounding to places never brings in a sign. -/
theorem nonNegative_roundPlaces {x : Float} (h : NonNegative x) (places : Nat) :
    NonNegative (roundPlaces x places) := by
  rw [roundPlaces]
  cases hfinite : x.isFinite with
  | true =>
    obtain ⟨d, hd⟩ := ofFloat_of_isFinite hfinite
    rw [h.signField_eq] at hd
    rw [hd]
    exact nonNegative_ofScientific _ _
  | false =>
    have hnot := ofFloat_of_not_isFinite hfinite
    cases hx : Binary64.ofFloat x with
    | finite negative d => exact absurd hx (hnot negative d)
    | nan => exact h
    | infinite negative => exact h

/-! ## Products -/

theorem targetExponent_eq (total : Int) : Format.binary64.targetExponent total = max (total - 53) (-1074) := rfl

theorem mantissa_shiftRight (em : ExtendedMantissa) (n : Nat) :
    (em >>> n).mantissa = em.mantissa / 2 ^ n := by
  induction n with
  | zero => simp [HShiftRight.hShiftRight, Nat.repeat]
  | succ n ih =>
    change (ExtendedMantissa.shiftRightOne (em >>> n)).mantissa = _
    rw [ExtendedMantissa.shiftRightOne, ih, Nat.div_div_eq_div_mul, Nat.pow_succ]

theorem mantissa_ofMantissaAndAccuracy (m : Nat) (accuracy : Accuracy) :
    (ExtendedMantissa.ofMantissaAndAccuracy m accuracy).mantissa = m := by
  cases accuracy with
  | exact => rfl
  | inexact relative => cases relative <;> rfl

/-- Rounding moves a mantissa up by one at most. -/
theorem roundToNearestEven_le (m : Nat) (accuracy : Accuracy) : accuracy.roundToNearestEven m ≤ m + 1 := by
  cases accuracy with
  | exact => exact Nat.le_succ m
  | inexact relative =>
    cases relative with
    | lt => exact Nat.le_succ m
    | eq =>
      change m + m % 2 ≤ m + 1
      omega
    | gt => exact le_rfl

theorem roundedMantissa_shift_le (m : Nat) (e : Int) (accuracy : Accuracy) :
    (shiftToTargetExponent Format.binary64 m e accuracy).1.roundedMantissa ≤ m + 1 := by
  refine (roundToNearestEven_le _ _).trans (Nat.succ_le_succ ?_)
  rw [shiftToTargetExponent, shiftToExponent, mantissa_shiftRight, mantissa_ofMantissaAndAccuracy]
  exact Nat.div_le_self _ _

/-- A shift leaves an exponent that is near where the mantissa ends, or the least there is. -/
theorem exponent_shift_le {m k : Nat} (hm : m ≤ 2 ^ k) (hk : 52 ≤ k) (e : Int) (accuracy : Accuracy) :
    (shiftToTargetExponent Format.binary64 m e accuracy).2 ≤ max (e + k - 52) (-1074) := by
  have hlog : m.log2 ≤ k := by
    by_cases hzero : m = 0
    · rw [hzero]
      exact Nat.zero_le k
    · exact (Nat.pow_le_pow_iff_right (by decide)).mp ((Nat.log2_self_le hzero).trans hm)
  rw [shiftToTargetExponent, shiftToExponent, targetExponent_eq, totalExponent]
  dsimp only
  omega

/-- A mantissa of at most 106 bits is that of a product; with an exponent that is not positive it rounds to
a finite double. -/
theorem fits_roundWithAccuracy (sign : Sign) {m : Nat} (hm : m < 2 ^ 106) {e : Int} (he : e ≤ 0)
    (accuracy : Accuracy) : Fits (roundWithAccuracy Format.binary64 sign m e accuracy) := by
  have hfirst := exponent_shift_le hm.le (by decide) e accuracy
  have hrounded : (shiftToTargetExponent Format.binary64 m e accuracy).1.roundedMantissa ≤ 2 ^ 106 :=
    (roundedMantissa_shift_le m e accuracy).trans hm
  -- rounding may carry into a further bit, so there is a second shift
  have hsecond := exponent_shift_le hrounded (by decide)
    (shiftToTargetExponent Format.binary64 m e accuracy).2 .exact
  simp only [roundWithAccuracy]
  split_ifs
  · exact trivial
  · change (shiftToTargetExponent Format.binary64 _ _ .exact).2 ≤ 971
    omega

/-- What bits stand for is no larger than its parts allow. -/
theorem lt_of_unpack_eq {b : Bits} {s : Sign} {m : Nat} {e : Int} {hm : 0 < m}
    (h : unpack Format.binary64 b = .finite s m e hm) : m < 2 ^ 53 := by
  rcases unpack_cases b with ⟨-, -, hu⟩ | ⟨-, -, hu⟩ | ⟨-, hu | ⟨m', e', hm', hlt, hu⟩⟩
  · rw [hu] at h
    cases h
  · rw [hu] at h
    cases h
  · rw [hu] at h
    cases h
  · rw [hu] at h
    cases h
    exact hlt

theorem exponent_le_of_not_lt {m m' : Nat} {e e' : Int} {hm : 0 < m} {hm' : 0 < m'}
    (h : UnpackedFloat.lt (.finite .positive m e hm) (.finite .positive m' e' hm') = false) : e' ≤ e := by
  by_contra hlt
  have hcompare : compare e e' = .lt := compare_lt_iff_lt.mpr (not_le.mp hlt)
  have htrue : UnpackedFloat.lt (.finite .positive m e hm) (.finite .positive m' e' hm') = true := by
    simp [UnpackedFloat.lt, UnpackedFloat.compare, hcompare]
  rw [h] at htrue
  exact Bool.noConfusion htrue

/-- A share of one, times a number that is not large, is finite. -/
theorem isFinite_mul {x y : Float} (hx : NonNegative x) (hle : ¬ 1 < x) {m : Nat} {e : Int} {hm : 0 < m}
    (hy : y.toModel.unpack = .finite .positive m e hm) (he : e ≤ 52) : (x * y).isFinite = true := by
  have hm53 : m < 2 ^ 53 := lt_of_unpack_eq hy
  have hone : (1 : Float).toModel.unpack = .finite .positive (2 ^ 52) (-52) (by decide) := rfl
  have hnot : UnpackedFloat.lt (1 : Float).toModel.unpack x.toModel.unpack = false :=
    eq_false_of_ne_true fun h => hle (decide_eq_true h)
  have hproduct : Fits (mul Format.binary64 x.toModel.unpack y.toModel.unpack) := by
    rw [hone] at hnot
    rw [NonNegative] at hx
    rw [hy]
    cases hu : x.toModel.unpack with
    | notANumber =>
      rw [hu] at hx
      exact hx.elim
    | infinity s =>
      rw [hu] at hx hnot
      obtain rfl : s = .positive := hx
      cases hnot
    | zero s => exact trivial
    | finite s m' e' hm' =>
      have hm53' : m' < 2 ^ 53 := lt_of_unpack_eq hu
      rw [hu] at hx hnot
      obtain rfl : s = .positive := hx
      have he' := exponent_le_of_not_lt hnot
      -- two mantissas of 53 bits; the exponents add up to one that is not above zero
      have hm106 : m' * m < 2 ^ 106 := by
        calc m' * m < 2 ^ 53 * 2 ^ 53 := Nat.mul_lt_mul'' hm53' hm53
          _ = 2 ^ 106 := by norm_num
      exact fits_roundWithAccuracy _ hm106 (by omega) _
  exact isFinite_ofModel_pack hproduct

end PeSignals.Decimal
