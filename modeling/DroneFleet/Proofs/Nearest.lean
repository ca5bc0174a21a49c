import DroneFleet.Proofs.Rounding
import DroneFleet.Proofs.Coordinates
import DroneFleet.Numeral.Number

/-!
# The nearest number

A decimal is an integer times or over a power of ten. Short ones are a product or a quotient of two
numbers that are exact, long ones of two mantissas: either way there is one rounding. So what is
read is the number nearest to what was written, and infinite when that is too large.

* `Binary64.rounded_ofScientific_mul`, `Binary64.rounded_ofScientific_div`   decimals are rounded
* `Binary64.rounded_nearest`       what is read is rounded
* `Binary64.ofFloat_neg`           the other sign
* `Binary64.Nearest`               no number is nearer, and the even one of two
* `Binary64.nearest_of_rounded`    rounding finds the nearest
* `Binary64.Nearest.unique`        and there is only one
-/

namespace DroneFleet.Binary64

open Float.Model (UnpackedFloat Format totalExponent)
open Float.Model.UnpackedFloat (ExtendedMantissa Accuracy Sign)
open Decimal (Span)

/-! ## powers of ten -/

section
variable {n m : Nat} {e : Int}

open Float.Model.UnpackedFloat in
theorem unpackSign_packComponents (s : Sign) (e : BitVec 11) (m : BitVec 52) :
    unpackSign (packComponents .binary64 s e m) = s.toBitVec := by
  show BitVec.extractLsb' 63 1 (s.toBitVec ++ e ++ m) = _
  have sign := s.toBitVec.isLt
  have exponent := e.isLt
  have fraction := m.isLt
  apply BitVec.eq_of_toNat_eq
  rw [BitVec.extractLsb'_toNat, BitVec.toNat_append, BitVec.toNat_append,
    ← Nat.shiftLeft_add_eq_or_of_lt exponent, ← Nat.shiftLeft_add_eq_or_of_lt fraction]
  omega

theorem finite_congr {s s' : Sign} {m' : Nat} {e' : Int} {hm : 0 < m} {hm' : 0 < m'} (sign : s = s')
    (mantissa : m = m') (power : e = e') :
    UnpackedFloat.finite s m e hm = .finite s' m' e' hm' := by
  subst sign mantissa power
  rfl

open Float.Model.UnpackedFloat in
theorem unpack_pack_full (hm : 0 < m) (log : m.log2 = 52) (least : -1074 ≤ e) (greatest : e ≤ 971) :
    (Float.Model.pack (.finite .positive m e hm)).unpack = .finite .positive m e hm := by
  have bounds := (Nat.log2_eq_iff (Nat.ne_of_gt hm)).mp log
  obtain ⟨k, rfl⟩ : ∃ k : Nat, e = (k : Int) - 1075 := ⟨(e + 1075).toNat, by omega⟩
  have exponent : (BitVec.ofNat 11 k).toNat = k := by
    rw [BitVec.toNat_ofNat]
    omega
  have special : BitVec.ofNat 11 k ≠ -1#11 := by
    intro same
    rw [same] at exponent
    have ones : (-1#11).toNat = 2047 := rfl
    omega
  have zero : BitVec.ofNat 11 k ≠ 0#11 := by
    intro same
    rw [same, BitVec.toNat_zero] at exponent
    omega
  have mantissa : (1#1 ++ BitVec.ofNat 52 m).toNat = m := by
    rw [Coordinate.toNat_hidden, BitVec.toNat_ofNat]
    omega
  have taken : unpackExponent (packComponents .binary64 .positive (.ofNat 11 k) (.ofNat 52 m)) =
      BitVec.ofNat 11 k := unpackExponent_packComponents
  show UnpackedFloat.unpack .binary64 (UnpackedFloat.pack .binary64 _) = _
  rw [Coordinate.pack_normal .positive hm log (by omega)]
  unfold UnpackedFloat.unpack
  rw [if_neg (by rw [taken]; exact special), if_neg (by rw [taken]; exact zero)]
  refine finite_congr ?_ ?_ ?_
  · rw [unpackSign_packComponents]
    rfl
  · rw [unpackMantissa_packComponents]
    exact mantissa
  · rw [taken]
    exact congrArg (fun n : Nat => (n : Int) - 1075) exponent

/-- an integer brought to fifty-three digits -/
def full (n : Nat) : Nat := n * 0x10000000000000 / 2 ^ n.log2

theorem full_bounds (hn : 0 < n) : 0x10000000000000 ≤ full n ∧ full n < 0x20000000000000 := by
  have low : 2 ^ n.log2 ≤ n := Nat.log2_self_le (Nat.ne_of_gt hn)
  have high : n < 2 ^ (n.log2 + 1) := Nat.lt_log2_self
  rw [Nat.pow_succ] at high
  unfold full
  rw [Nat.le_div_iff_mul_le (Nat.two_pow_pos _), Nat.div_lt_iff_lt_mul (Nat.two_pow_pos _)]
  omega

theorem log2_full (hn : 0 < n) : (full n).log2 = 52 := by
  obtain ⟨low, high⟩ := full_bounds hn
  exact (Nat.log2_eq_iff (by omega)).mpr ⟨low, high⟩

theorem full_pos (hn : 0 < n) : 0 < full n := by
  have low := (full_bounds hn).1
  omega

/-- an integer that fits in fifty-three digits does not lose any -/
theorem full_exact (h : n < 0x20000000000000) : full n * 2 ^ n.log2 = n * 0x10000000000000 := by
  have log : n.log2 ≤ 52 := by
    by_cases zero : n = 0
    · rw [zero]
      decide
    · exact Nat.le_of_lt_succ ((Nat.log2_lt zero).mpr h)
  have divides : 2 ^ n.log2 ∣ 0x10000000000000 := pow_dvd_pow (n := 52) 2 log
  exact Nat.div_mul_cancel (Dvd.dvd.mul_left divides n)

theorem value_full (h : full n * 2 ^ n.log2 = n * 0x10000000000000) :
    (full n : ℚ) * 2 ^ ((n.log2 : Int) - 52) = n := by
  have exact : (full n : ℚ) * 2 ^ n.log2 = n * 0x10000000000000 := by exact_mod_cast h
  rw [zpow_sub₀ two_ne_zero, zpow_natCast, ← mul_div_assoc, exact]
  norm_num

theorem powers_of_ten : ∀ k : Fin 23, Float.exactlyRepresentablePowersOfTen[k] =
      .ofModel (.pack (.finite .positive (full (10 ^ k.val)) ((Nat.log2 (10 ^ k.val) : Int) - 52)
        (full_pos (Nat.pow_pos (by decide))))) ∧
    full (10 ^ k.val) * 2 ^ Nat.log2 (10 ^ k.val) = 10 ^ k.val * 0x10000000000000 := by
  decide +kernel

theorem unpack_toFloat (hn : 0 < n) (h : n < 0x20000000000000) :
    n.toUInt64.toFloat.toModel.unpack =
      .finite .positive (full n) ((n.log2 : Int) - 52) (full_pos hn) := by
  have log : n.log2 ≤ 52 := Nat.le_of_lt_succ ((Nat.log2_lt (Nat.ne_of_gt hn)).mpr h)
  have size : n.toUInt64.toNat = n := by
    show n % 2 ^ 64 = n
    omega
  have aim : Format.binary64.targetExponent (totalExponent n 0) = (n.log2 : Int) - 52 := by
    rw [targetExponent_eq]
    unfold target
    omega
  have long : n <<< (52 - n.log2) = full n := by
    have digits : 0x10000000000000 = 2 ^ (52 - n.log2) * 2 ^ n.log2 := by
      rw [← Nat.pow_add, Nat.sub_add_cancel log]
    have exact := full_exact h
    rw [digits, ← Nat.mul_assoc] at exact
    rw [Nat.shiftLeft_eq]
    exact (Nat.eq_of_mul_eq_mul_right (Nat.two_pow_pos _) exact).symm
  have shift : (0 - ((n.log2 : Int) - 52)).toNat = 52 - n.log2 := by omega
  have power : (0 : Int) - (52 - n.log2 : Nat) = (n.log2 : Int) - 52 := by omega
  have stays : target (full n) ((n.log2 : Int) - 52) = (n.log2 : Int) - 52 := by
    unfold target
    rw [log2_full hn]
    omega
  have uncut : (cut (full n) ((n.log2 : Int) - 52) .exact).roundedMantissa = full n := by
    have none : ((n.log2 : Int) - 52 - ((n.log2 : Int) - 52)).toNat = 0 := by omega
    unfold cut
    rw [stays, none]
    rfl
  have rounded : UnpackedFloat.round .binary64 .positive n 0 =
      .finite .positive (full n) ((n.log2 : Int) - 52) (full_pos hn) := by
    show UnpackedFloat.roundWithAccuracy .binary64 .positive
      (n <<< (0 - Format.binary64.targetExponent (totalExponent n 0)).toNat)
      (0 - ((0 - Format.binary64.targetExponent (totalExponent n 0)).toNat : Nat)) .exact = _
    rw [aim, shift, power, long, roundWithAccuracy_eq .positive (full n) .exact (le_of_eq stays.symm)
      (by rw [uncut]; exact Nat.le_of_lt (full_bounds hn).2), uncut, stays]
    unfold carried
    rw [if_pos (full_bounds hn).2, orZero_of_pos .positive (full_pos hn)]
  have normal : UnpackedFloat.ofUInt64 .binary64 n.toUInt64 =
      UnpackedFloat.round .binary64 .positive n 0 := by
    show UnpackedFloat.normalize .binary64 ((n.toUInt64.toNat : Nat) : Int) 0 .positive = _
    rw [size]
    unfold UnpackedFloat.normalize
    rw [Int.compare_eq_gt.mpr (by omega)]
    rfl
  show (Float.Model.pack (UnpackedFloat.ofUInt64 .binary64 n.toUInt64)).unpack = _
  rw [normal, rounded]
  exact unpack_pack_full (full_pos hn) (log2_full hn) (by omega) (by omega)
end

/-! ## decimals -/

section
variable {n k : Nat}

theorem pow_ten_pos (k : Nat) : 0 < 10 ^ k := Nat.pow_pos (by decide)

theorem mul_eq {x y : Float} {u w : UnpackedFloat} (hx : x.toModel.unpack = u)
    (hy : y.toModel.unpack = w) : x * y = .ofModel (.pack (u.mul .binary64 w)) := by
  subst hx hy
  rfl

theorem div_eq {x y : Float} {u w : UnpackedFloat} (hx : x.toModel.unpack = u)
    (hy : y.toModel.unpack = w) : x / y = .ofModel (.pack (u.div .binary64 w)) := by
  subst hx hy
  rfl

def power (k : Fin 23) : Float := Float.exactlyRepresentablePowersOfTen[k]

theorem unpack_power (k : Fin 23) : (power k).toModel.unpack =
    .finite .positive (full (10 ^ k.val)) ((Nat.log2 (10 ^ k.val) : Int) - 52)
      (full_pos (pow_ten_pos k)) := by
  have large : Nat.log2 (10 ^ k.val) < 100 := by
    have most : 10 ^ k.val ≤ 10 ^ 22 := Nat.pow_le_pow_right (by decide) (by omega)
    have less : 10 ^ k.val < 2 ^ 100 := Nat.lt_of_le_of_lt most (by decide)
    exact (Nat.log2_lt (Nat.ne_of_gt (pow_ten_pos k))).mpr less
  have kept : power k = _ := (powers_of_ten k).1
  rw [kept]
  exact unpack_pack_full (full_pos (pow_ten_pos k)) (log2_full (pow_ten_pos k)) (by omega) (by omega)

theorem value_power (k : Fin 23) :
    (full (10 ^ k.val) : ℚ) * 2 ^ ((Nat.log2 (10 ^ k.val) : Int) - 52) = 10 ^ k.val := by
  have value := value_full (powers_of_ten k).2
  push_cast at value
  exact value

theorem ofScientific_short (negative : Bool) (h : n < 2 ^ 53) (k : Fin 23) :
    Float.ofScientific n negative k =
      if negative then n.toUInt64.toFloat / power k else n.toUInt64.toFloat * power k := by
  have short : n < 2 ^ 53 ∧ k.val ≤ 22 := ⟨h, by omega⟩
  unfold Float.ofScientific
  rw [dif_pos short]
  rfl

theorem ofScientific_long (negative : Bool) (h : ¬ (n < 2 ^ 53 ∧ k ≤ 22)) :
    Float.ofScientific n negative k = .ofModel (.pack (UnpackedFloat.ofScientific .binary64 n
      (if negative then -k else k))) := by
  have exponent : Int.negOfNat k = -(k : Int) := Int.negOfNat_eq
  unfold Float.ofScientific
  rw [dif_neg h, exponent]
  rfl

theorem shift_pos (hn : 0 < n) : 0 < n <<< 53 := by
  rw [Nat.shiftLeft_eq]
  omega

theorem ofScientific_mul (hn : 0 < n) (hk : k ≤ 2048) :
    UnpackedFloat.ofScientific .binary64 n k = UnpackedFloat.mul .binary64
      (.finite .positive (n <<< 53) (-53) (shift_pos hn))
      (.finite .positive (10 ^ k) 0 (pow_ten_pos k)) := by
  have limit : (2 : Int) ^ Format.binary64.exponentBits = 2048 := rfl
  unfold UnpackedFloat.ofScientific
  rw [dif_neg (Nat.ne_of_gt hn), limit, if_neg (by omega), if_neg (by omega), if_pos (by omega)]
  rfl

theorem ofScientific_div (hn : 0 < n) (some : 0 < k) (hk : k ≤ 2048 + n.log2) :
    UnpackedFloat.ofScientific .binary64 n (-k) = UnpackedFloat.div .binary64
      (.finite .positive n 0 hn) (.finite .positive (10 ^ k) 0 (pow_ten_pos k)) := by
  have limit : (2 : Int) ^ Format.binary64.exponentBits = 2048 := rfl
  unfold UnpackedFloat.ofScientific
  rw [dif_neg (Nat.ne_of_gt hn), limit, if_neg (by omega), if_neg (by omega), if_neg (by omega)]
  exact congrArg (UnpackedFloat.div .binary64 _)
    (finite_congr rfl (by rw [Int.neg_neg, Int.toNat_natCast]) rfl)

theorem rounded_ofScientific_mul (hn : 0 < n) (hk : k ≤ 2048) :
    Rounded false (n * 10 ^ k) (ofFloat (.ofScientific n false k)) := by
  by_cases short : n < 2 ^ 53 ∧ k ≤ 22
  · obtain ⟨j, rfl⟩ : ∃ j : Fin 23, k = j := ⟨⟨k, by omega⟩, rfl⟩
    have long : 52 ≤ (full n * full (10 ^ j.val)).log2 := by
      have low := Nat.mul_le_mul (full_bounds hn).1 (full_bounds (pow_ten_pos j)).1
      exact (Nat.le_log2 (by omega)).mpr (by omega)
    have rounded := rounded_mul (full_pos hn) (full_pos (pow_ten_pos j))
      (e := (n.log2 : Int) - 52) (k := (Nat.log2 (10 ^ j.val) : Int) - 52) long
    rw [value_full (full_exact short.1), value_power] at rounded
    rw [ofScientific_short false short.1, if_neg Bool.false_ne_true,
      mul_eq (unpack_toFloat hn short.1) (unpack_power j)]
    exact rounded
  · have long : 52 ≤ ((n <<< 53) * 10 ^ k).log2 := by
      have low := Nat.mul_le_mul (Nat.mul_le_mul_right (2 ^ 53) hn) (pow_ten_pos k)
      rw [Nat.shiftLeft_eq]
      exact (Nat.le_log2 (by omega)).mpr (by omega)
    have rounded := rounded_mul (e := -53) (k := 0) (shift_pos hn) (pow_ten_pos k) long
    have value : ((n <<< 53 : Nat) : ℚ) * 2 ^ (-53 : Int) * ((10 ^ k : Nat) * 2 ^ (0 : Int)) =
        n * 10 ^ k := by
      have cancel : (0x20000000000000 : ℚ) * 2 ^ (-53 : Int) = 1 := by norm_num
      rw [Nat.shiftLeft_eq, zpow_zero, mul_one]
      push_cast
      rw [mul_assoc (n : ℚ), cancel, mul_one]
    rw [value] at rounded
    rw [ofScientific_long false short, if_neg Bool.false_ne_true, ofScientific_mul hn hk]
    exact rounded

theorem rounded_ofScientific_div (hn : 0 < n) (some : 0 < k) (hk : k ≤ 2048 + n.log2) :
    Rounded false (n / 10 ^ k) (ofFloat (.ofScientific n true k)) := by
  by_cases short : n < 2 ^ 53 ∧ k ≤ 22
  · obtain ⟨j, rfl⟩ : ∃ j : Fin 23, k = j := ⟨⟨k, by omega⟩, rfl⟩
    have rounded := rounded_div (full_pos hn) (full_pos (pow_ten_pos j))
      (e := (n.log2 : Int) - 52) (k := (Nat.log2 (10 ^ j.val) : Int) - 52)
    rw [value_full (full_exact short.1), value_power] at rounded
    rw [ofScientific_short true short.1, if_pos rfl,
      div_eq (unpack_toFloat hn short.1) (unpack_power j)]
    exact rounded
  · have rounded := rounded_div (e := 0) (k := 0) hn (pow_ten_pos k)
    have value : (n : ℚ) * 2 ^ (0 : Int) / ((10 ^ k : Nat) * 2 ^ (0 : Int)) = n / 10 ^ k := by
      rw [zpow_zero, mul_one, mul_one]
      push_cast
      rfl
    rw [value] at rounded
    rw [ofScientific_long true short, if_pos rfl, ofScientific_div hn some hk]
    exact rounded

end

/-! ## readings -/

open Numeral (decimalLength nearest negateIf)

section
variable {n : Nat}

theorem lt_pow_decimalLength (n : Nat) : n < 10 ^ decimalLength n :=
  (Nat.length_toDigits_le_iff (by decide) Nat.length_toDigits_pos).mp (Nat.le_refl _)

theorem pow_decimalLength_le (hn : 0 < n) : 10 ^ (decimalLength n - 1) ≤ n := by
  rcases Nat.eq_zero_or_pos (decimalLength n - 1) with one | more
  · rw [one]
    exact hn
  · have long : ¬ decimalLength n ≤ decimalLength n - 1 := by omega
    exact Nat.le_of_not_lt fun less =>
      long ((Nat.length_toDigits_le_iff (by decide) more).mpr less)

theorem decimalLength_le (n : Nat) : decimalLength n ≤ n.log2 + 1 := by
  refine (Nat.length_toDigits_le_iff (by decide) (Nat.succ_pos _)).mpr ?_
  calc n < 2 ^ (n.log2 + 1) := Nat.lt_log2_self
    _ ≤ 10 ^ (n.log2 + 1) := Nat.pow_le_pow_left (by decide) _

theorem overflow_le : overflow ≤ 10 ^ (400 : Int) := by
  have positive : (0 : ℚ) < 2 ^ (971 : Int) := by positivity
  calc overflow ≤ 0x20000000000000 * 2 ^ (971 : Int) := by
        unfold overflow
        exact mul_le_mul_of_nonneg_right (by norm_num) positive.le
    _ = 2 ^ (53 + 971 : Int) := by
        rw [zpow_add₀ two_ne_zero, show (2 : ℚ) ^ (53 : Int) = 0x20000000000000 by norm_num]
    _ ≤ 10 ^ (400 : Int) := Span.two_zpow_le (by decide) (by decide)

theorem rounded_zero {v : ℚ} (h : v ≤ 2 ^ (-1075 : Int)) : Rounded false v (ofFloat 0.0) := by
  have zero : ofFloat 0.0 = .finite false 0 (-1074) := by decide +kernel
  rw [zero]
  exact .finite ⟨⟨by decide, le_refl _, fun _ => rfl⟩, by rw [if_pos rfl]; exact h⟩ (by decide)

/-- **What is read is rounded to the nearest binary number.** -/
theorem rounded_nearest (n : Nat) (e : Int) :
    Rounded false (n * 10 ^ e) (ofFloat (nearest n e)) := by
  have ten : (0 : ℚ) < 10 ^ e := by positivity
  have length : 0 < decimalLength n := Nat.length_toDigits_pos
  have digits := decimalLength_le n
  unfold nearest
  by_cases zero : n = 0
  · rw [if_pos zero, zero, Nat.cast_zero, zero_mul]
    exact rounded_zero (by positivity)
  have some : 0 < n := Nat.pos_of_ne_zero zero
  rw [if_neg zero]
  dsimp only
  split
  · rename_i large
    have least : (10 : ℚ) ^ (decimalLength n - 1) ≤ n := by
      exact_mod_cast pow_decimalLength_le some
    refine .infinite ?_
    calc overflow ≤ 10 ^ (400 : Int) := overflow_le
      _ ≤ 10 ^ (((decimalLength n - 1 : Nat) : Int) + e) :=
          zpow_le_zpow_right₀ (by norm_num) (by omega)
      _ = 10 ^ (decimalLength n - 1) * 10 ^ e := by
          rw [zpow_add₀ (by norm_num), zpow_natCast]
      _ ≤ n * 10 ^ e := mul_le_mul_of_nonneg_right least ten.le
  split
  · rename_i small
    have most : (n : ℚ) ≤ 10 ^ decimalLength n := by
      exact_mod_cast Nat.le_of_lt (lt_pow_decimalLength n)
    refine rounded_zero ?_
    calc (n : ℚ) * 10 ^ e ≤ 10 ^ decimalLength n * 10 ^ e := mul_le_mul_of_nonneg_right most ten.le
      _ = 10 ^ ((decimalLength n : Int) + e) := by
          rw [zpow_add₀ (by norm_num), zpow_natCast]
      _ ≤ 10 ^ (-400 : Int) := zpow_le_zpow_right₀ (by norm_num) (by omega)
      _ ≤ 2 ^ (-1075 : Int) := Span.zpow_neg_le (Span.two_zpow_le (by decide) (by decide))
  split
  · obtain ⟨k, rfl⟩ : ∃ k : Nat, e = -k := ⟨e.natAbs, by omega⟩
    have rounded := rounded_ofScientific_div some (k := k) (by omega) (by omega)
    rw [zpow_neg, zpow_natCast, ← div_eq_mul_inv, Int.natAbs_neg, Int.natAbs_natCast]
    exact rounded
  · obtain ⟨k, rfl⟩ : ∃ k : Nat, e = k := ⟨e.natAbs, by omega⟩
    rw [zpow_natCast, Int.natAbs_natCast]
    exact rounded_ofScientific_mul some (by omega)

end

/-! ## signs -/

def negated : Binary64 → Binary64
  | .notANumber => .notANumber
  | .infinite negative => .infinite (!negative)
  | .finite negative m e => .finite (!negative) m e

theorem ofFields_not (negative : Bool) (e m : Nat) :
    ofFields (!negative) e m = (ofFields negative e m).negated := by
  unfold ofFields
  split
  · split <;> rfl
  · split <;> rfl

theorem isNegative_neg (s : Sign) : isNegative (-s) = !isNegative s := by
  cases s <;> rfl

/-- numbers that differ in the sign differ in the bit of the sign -/
theorem exists_packComponents {u : UnpackedFloat} (h : u ≠ .notANumber) : ∃ s e m,
    u.pack .binary64 = UnpackedFloat.packComponents .binary64 s e m ∧
      u.neg.pack .binary64 = UnpackedFloat.packComponents .binary64 (-s) e m := by
  cases u with
  | notANumber => exact absurd rfl h
  | infinity s => exact ⟨s, _, _, rfl, rfl⟩
  | zero s => exact ⟨s, _, _, rfl, rfl⟩
  | finite s m e hm =>
    by_cases large : 2048 ≤ (e + 1023 + 52).toNat + 1
    · exact ⟨s, -1#11, 0, if_pos large, if_pos large⟩
    by_cases full : m.log2 + 1 = 53
    · exact ⟨s, .ofNat 11 (e + 1023 + 52).toNat, .ofNat 52 m, (if_neg large).trans (if_pos full),
        (if_neg large).trans (if_pos full)⟩
    · exact ⟨s, 0, .ofNat 52 m, (if_neg large).trans (if_neg full),
        (if_neg large).trans (if_neg full)⟩

theorem ofFloat_neg (x : Float) : ofFloat (-x) = (ofFloat x).negated := by
  have negative : -x = .ofModel (.pack x.toModel.unpack.neg) := rfl
  have positive : x = .ofModel (.pack x.toModel.unpack) := by rw [Coordinate.pack_unpack]
  rw [negative, ofFloat_pack]
  conv => rhs; rw [positive, ofFloat_pack]
  generalize x.toModel.unpack = u
  by_cases none : u = .notANumber
  · rw [none]
    decide +kernel
  · obtain ⟨s, e, m, packed, flipped⟩ := exists_packComponents none
    rw [packed, flipped, ofBits_packComponents, ofBits_packComponents, isNegative_neg, ofFields_not]

theorem rounded_negateIf {v : ℚ} {x : Float} (negative : Bool) (h : Rounded false v (ofFloat x)) :
    Rounded negative v (ofFloat (negateIf negative x)) := by
  unfold negateIf
  cases negative with
  | false => exact h
  | true =>
    rw [if_pos rfl, ofFloat_neg]
    generalize ofFloat x = b at *
    cases h with
    | finite settled he => exact .finite settled he
    | infinite large => exact .infinite large

/-! ## the nearest number -/

/-- a mantissa and a power that a number has -/
structure Proper (m : Nat) (e : Int) : Prop extends Canonical m e where
  greatest : e ≤ 971

/-- the number nearest to an amount with a sign: no number is nearer, and of two that are equally
near it is the even one; from `overflow` on the infinite one -/
inductive Nearest (negative : Bool) (v : ℚ) : Binary64 → Prop where
  | finite {m : Nat} {e : Int} (proper : Proper m e) (below : v < overflow)
      (near : ∀ {m' : Nat} {e' : Int}, Proper m' e' → |m * 2 ^ e - v| ≤ |m' * 2 ^ e' - v|)
      (even : ∀ {m' : Nat} {e' : Int}, Proper m' e' → |m * 2 ^ e - v| = |m' * 2 ^ e' - v| →
        m = m' ∧ e = e' ∨ m % 2 = 0) :
    Nearest negative v (.finite negative m e)
  | infinite (above : overflow ≤ v) : Nearest negative v (.infinite negative)

section
variable {m m' : Nat} {e e' : Int} {v : ℚ}

/-- a number with a greater power is a whole number of steps -/
theorem exists_steps (m' : Nat) (h : e ≤ e') : ∃ n : Nat, (m' : ℚ) * 2 ^ e' = n * 2 ^ e ∧
    (e < e' → 2 * m' ≤ n) := by
  obtain ⟨k, rfl⟩ : ∃ k : Nat, e' = e + k := ⟨(e' - e).toNat, by omega⟩
  refine ⟨m' * 2 ^ k, ?_, ?_⟩
  · rw [zpow_add₀ two_ne_zero, zpow_natCast]
    push_cast
    ring
  · intro more
    have even : 2 ^ 1 ≤ 2 ^ k := Nat.pow_le_pow_right (by decide) (by omega)
    have scaled := Nat.mul_le_mul_left m' even
    omega

theorem lt_of_power_lt (h : Canonical m e) (h' : Canonical m' e') (he : e < e') :
    (m : ℚ) * 2 ^ e + 2 ^ e ≤ m' * 2 ^ e' := by
  have step : (0 : ℚ) < 2 ^ e := by positivity
  have full : 0x10000000000000 ≤ m' := h'.full (lt_of_le_of_lt h.least he)
  have bound := h.lt
  obtain ⟨n, same, large⟩ := exists_steps m' he.le
  have more : m + 1 ≤ n := by
    have twice := large he
    omega
  rw [same, ← add_one_mul]
  exact mul_le_mul_of_nonneg_right (by exact_mod_cast more) step.le

theorem step_above (h : Canonical m e) (h' : Canonical m' e')
    (less : (m : ℚ) * 2 ^ e < m' * 2 ^ e') : (m : ℚ) * 2 ^ e + 2 ^ e ≤ m' * 2 ^ e' := by
  have step : (0 : ℚ) < 2 ^ e := by positivity
  rcases lt_or_ge e' e with he | he
  · have more := lt_of_power_lt h' h he
    have step' : (0 : ℚ) < 2 ^ e' := by positivity
    linarith
  · obtain ⟨n, same, -⟩ := exists_steps m' he
    rw [same] at less ⊢
    have more : (m : ℚ) < n := lt_of_mul_lt_mul_right less step.le
    rw [← add_one_mul]
    exact mul_le_mul_of_nonneg_right (by exact_mod_cast more) step.le

/-- a smaller number is a step smaller, or half a step where the steps get wider -/
theorem step_below (h : Canonical m e) (h' : Canonical m' e') (hm : 0 < m)
    (less : (m' : ℚ) * 2 ^ e' < m * 2 ^ e) :
    (m' : ℚ) * 2 ^ e' ≤ 2 * (Span.ofParts m e).low.value - m * 2 ^ e := by
  have step : (0 : ℚ) < 2 ^ e := by positivity
  have wide : (Span.ofParts m e).low.value ≥ m * 2 ^ e - 2 ^ e / 2 := by
    rw [Span.value_low hm]
    split <;> linarith
  rcases lt_or_ge e' e with he | he
  · have narrow : (2 : ℚ) ^ e' * 2 ≤ 2 ^ e := by
      rw [← zpow_add_one₀ two_ne_zero]
      exact zpow_le_zpow_right₀ one_le_two (by omega)
    have least := h'.least
    have full : 0x10000000000000 ≤ m := h.full (by omega)
    have most : (m' : ℚ) ≤ 0x20000000000000 - 1 := by
      have most : (m' : ℚ) + 1 ≤ 0x20000000000000 := by exact_mod_cast h'.lt
      linarith
    have below : (m' : ℚ) * 2 ^ e' ≤ (0x20000000000000 - 1) * (2 ^ e / 2) :=
      mul_le_mul most (by linarith) (by positivity) (by norm_num)
    rcases Nat.eq_or_lt_of_le full with rfl | more
    · rw [Span.value_low hm, if_pos ⟨rfl, by omega⟩]
      push_cast
      linarith
    · have scaled : ((0x10000000000000 : ℚ) + 1) * 2 ^ e ≤ m * 2 ^ e :=
        mul_le_mul_of_nonneg_right (by exact_mod_cast more) step.le
      linarith
  · obtain ⟨n, same, -⟩ := exists_steps m' he
    rw [same] at less ⊢
    have fewer : (n : ℚ) < m := lt_of_mul_lt_mul_right less step.le
    have scaled : ((n : ℚ) + 1) * 2 ^ e ≤ m * 2 ^ e :=
      mul_le_mul_of_nonneg_right (by exact_mod_cast fewer) step.le
    linarith

theorem eq_of_value_eq (h : Canonical m e) (h' : Canonical m' e')
    (same : (m : ℚ) * 2 ^ e = m' * 2 ^ e') : m = m' ∧ e = e' := by
  have step : (0 : ℚ) < 2 ^ e := by positivity
  have step' : (0 : ℚ) < 2 ^ e' := by positivity
  rcases lt_trichotomy e e' with less | rfl | more
  · have above := lt_of_power_lt h h' less
    linarith
  · exact ⟨by exact_mod_cast mul_right_cancel₀ step.ne' same, rfl⟩
  · have above := lt_of_power_lt h' h more
    linarith

theorem Settles.high (h : Settles v m e) :
    v ≤ m * 2 ^ e + 2 ^ e / 2 ∧ (v = m * 2 ^ e + 2 ^ e / 2 → m % 2 = 0) := by
  have has := h.has
  split at has
  · rename_i zero
    have power := h.small (by omega)
    have half : (2 : ℚ) ^ (-1075 : Int) = 2 ^ (-1074 : Int) / 2 := by
      rw [show (-1075 : Int) = -1074 - 1 from rfl, zpow_sub_one₀ two_ne_zero, div_eq_mul_inv]
    rw [power, zero, Nat.cast_zero, zero_mul, zero_add, ← half]
    exact ⟨has, fun _ => rfl⟩
  · have high := has.le_high
    rw [Span.value_high] at high
    exact ⟨high, fun same => has.even_of_high (by rw [Span.value_high, same])⟩

theorem Settles.near (h : Settles v m e) (h' : Canonical m' e') :
    |m * 2 ^ e - v| ≤ |m' * 2 ^ e' - v| ∧
      (|m * 2 ^ e - v| = |m' * 2 ^ e' - v| → m = m' ∧ e = e' ∨ m % 2 = 0) := by
  have step : (0 : ℚ) < 2 ^ e := by positivity
  obtain ⟨high, evenHigh⟩ := h.high
  rcases lt_trichotomy ((m : ℚ) * 2 ^ e) (m' * 2 ^ e') with less | same | more
  · have above := step_above h.toCanonical h' less
    rw [abs_of_nonneg (by linarith : 0 ≤ (m' : ℚ) * 2 ^ e' - v)]
    refine ⟨abs_le.mpr ⟨by linarith, by linarith⟩, fun equal => Or.inr (evenHigh ?_)⟩
    rcases abs_cases ((m : ℚ) * 2 ^ e - v) with ⟨is, _⟩ | ⟨is, _⟩ <;> linarith
  · rw [same]
    exact ⟨le_refl _, fun _ => Or.inl (eq_of_value_eq h.toCanonical h' same)⟩
  · have some : 0 < m := by
      by_contra none
      have zero : m = 0 := by omega
      rw [zero, Nat.cast_zero, zero_mul] at more
      have positive : (0 : ℚ) ≤ m' * 2 ^ e' := by positivity
      linarith
    have has := h.has
    rw [if_neg (by omega)] at has
    have low := has.low_le
    have below := step_below h.toCanonical h' some more
    rw [abs_of_nonpos (by linarith : (m' : ℚ) * 2 ^ e' - v ≤ 0)]
    refine ⟨abs_le.mpr ⟨by linarith, by linarith⟩, fun equal => Or.inr (has.even_of_low ?_)⟩
    rcases abs_cases ((m : ℚ) * 2 ^ e - v) with ⟨is, _⟩ | ⟨is, _⟩ <;> linarith

theorem Settles.below (h : Settles v m e) (he : e < 972) : v < Binary64.overflow := by
  obtain ⟨high, evenHigh⟩ := h.high
  have step : (2 : ℚ) ^ e ≤ 2 ^ (971 : Int) := zpow_le_zpow_right₀ one_le_two (by omega)
  have positive : (0 : ℚ) < 2 ^ e := by positivity
  have most : (m : ℚ) + 1 ≤ 0x20000000000000 := by exact_mod_cast h.lt
  have scaled : ((m : ℚ) + 1 / 2) * 2 ^ e ≤ (m + 1 / 2) * 2 ^ (971 : Int) :=
    mul_le_mul_of_nonneg_left step (add_nonneg (Nat.cast_nonneg m) one_half_pos.le)
  unfold Binary64.overflow
  generalize (2 : ℚ) ^ (971 : Int) = widest at *
  rcases high.eq_or_lt with middle | less
  · -- in the middle the mantissa is even, so it is not the greatest
    have even := evenHigh middle
    have bound := h.lt
    have fewer : (m : ℚ) + 2 ≤ 0x20000000000000 := by exact_mod_cast (by omega : m + 2 ≤ _)
    have top : ((m : ℚ) + 1 / 2) * widest < (0x20000000000000 - 1 / 2) * widest :=
      mul_lt_mul_of_pos_right (by linarith) (by linarith)
    linarith
  · have top : ((m : ℚ) + 1 / 2) * widest ≤ (0x20000000000000 - 1 / 2) * widest :=
      mul_le_mul_of_nonneg_right (by linarith) (by linarith)
    linarith

/-- **An amount is rounded to the number nearest to it.** -/
theorem nearest_of_rounded {negative : Bool} {b : Binary64} (h : Rounded negative v b) :
    Nearest negative v b := by
  cases h with
  | finite settled he =>
    exact .finite ⟨settled.toCanonical, by omega⟩ (settled.below he)
      (fun proper => (settled.near proper.toCanonical).1)
      (fun proper => (settled.near proper.toCanonical).2)
  | infinite large => exact .infinite large

/-- of two numbers that are equally near, one is odd, or there is a nearer one -/
theorem not_even_of_lt (h : Proper m e) (h' : Proper m' e') (hm : m % 2 = 0) (hm' : m' % 2 = 0)
    (less : (m : ℚ) * 2 ^ e < m' * 2 ^ e') (same : |m * 2 ^ e - v| = |m' * 2 ^ e' - v|) :
    ∃ m'' e'', Proper m'' e'' ∧ |m'' * 2 ^ e'' - v| < |m * 2 ^ e - v| := by
  have step : (0 : ℚ) < 2 ^ e := by positivity
  have bound := h.lt
  have next : Proper (m + 1) e :=
    ⟨⟨by omega, h.least, fun short => h.small (by omega)⟩, h.greatest⟩
  have above := step_above h.toCanonical h'.toCanonical less
  have other : ((m + 1 : Nat) : ℚ) * 2 ^ e ≠ m' * 2 ^ e' := by
    intro same
    have parts := eq_of_value_eq next.toCanonical h'.toCanonical same
    omega
  have value : ((m + 1 : Nat) : ℚ) * 2 ^ e = m * 2 ^ e + 2 ^ e := by
    push_cast
    ring
  rw [value] at other
  have inner : (m : ℚ) * 2 ^ e + 2 ^ e < m' * 2 ^ e' := lt_of_le_of_ne above other
  have middle : v = (m * 2 ^ e + m' * 2 ^ e') / 2 := by
    rcases abs_eq_abs.mp same with equal | opposite <;> linarith
  refine ⟨m + 1, e, next, ?_⟩
  rw [value, middle, abs_of_nonpos (by linarith : (m : ℚ) * 2 ^ e - _ ≤ 0)]
  exact abs_lt.mpr ⟨by linarith, by linarith⟩

/-- **One number is the nearest to an amount.** -/
theorem Nearest.unique {negative : Bool} {b b' : Binary64} (h : Nearest negative v b)
    (h' : Nearest negative v b') : b = b' := by
  cases h with
  | infinite above =>
    cases h' with
    | infinite _ => rfl
    | finite _ below _ _ => linarith
  | @finite m e proper below near even =>
    cases h' with
    | infinite above => linarith
    | @finite m' e' proper' _ near' even' =>
      have same := le_antisymm (near proper') (near' proper)
      rcases even proper' same with ⟨rfl, rfl⟩ | hm
      · rfl
      rcases even' proper same.symm with ⟨rfl, rfl⟩ | hm'
      · rfl
      rcases lt_trichotomy ((m : ℚ) * 2 ^ e) (m' * 2 ^ e') with less | equal | more
      · obtain ⟨_, _, between, nearer⟩ := not_even_of_lt proper proper' hm hm' less same
        exact absurd (near between) (not_le_of_gt nearer)
      · obtain ⟨rfl, rfl⟩ := eq_of_value_eq proper.toCanonical proper'.toCanonical equal
        rfl
      · obtain ⟨_, _, between, nearer⟩ := not_even_of_lt proper' proper hm' hm more same.symm
        exact absurd (near' between) (not_le_of_gt nearer)

end

end DroneFleet.Binary64
