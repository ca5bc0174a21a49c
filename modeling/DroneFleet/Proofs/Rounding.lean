import DroneFleet.Proofs.Figures

/-!
# Rounding

A result has more digits than a number keeps. It is cut down to an integer of steps and two more
bits: is the rest half a step or more, and is there anything below that? These bits stay right when
more digits are cut, and they are enough to round to the nearest, halves to the even one.

* `Binary64.Encloses`      where an amount lies that is cut down
* `Binary64.ofFloat_finite`   the parts of a number that was put together from parts
* `Binary64.Rounded`       what an amount with a sign is rounded to
* `Binary64.rounded_roundWithAccuracy`   a cut amount is rounded to the nearest
* `Binary64.rounded_mul`, `Binary64.rounded_div`   products and quotients
-/

namespace DroneFleet.Binary64

open Float.Model (UnpackedFloat Format totalExponent)
open Float.Model.UnpackedFloat (ExtendedMantissa Accuracy Sign)

/-! ## integers with two more bits -/

/-- where a number lies that is cut down to an integer and two more bits: at the integer, below the
middle between it and the next, at the middle, or above it -/
inductive Encloses : ExtendedMantissa → ℚ → Prop where
  | whole (m : Nat) : Encloses ⟨m, false, false⟩ m
  | below {m : Nat} {x : ℚ} (low : m < x) (high : x < m + 1 / 2) : Encloses ⟨m, false, true⟩ x
  | middle (m : Nat) : Encloses ⟨m, true, false⟩ (m + 1 / 2)
  | above {m : Nat} {x : ℚ} (low : m + 1 / 2 < x) (high : x < m + 1) : Encloses ⟨m, true, true⟩ x

/-- an integer next to a number, and no other nearer; in the middle between two the even one -/
structure Closest (r : Nat) (x : ℚ) : Prop where
  low : (r : ℚ) - 1 / 2 ≤ x
  high : x ≤ r + 1 / 2
  even : x = r - 1 / 2 ∨ x = r + 1 / 2 → r % 2 = 0

section
variable {g : ExtendedMantissa} {x : ℚ}

theorem encloses_quotient (a : Nat) {b : Nat} (hb : 0 < b) :
    Encloses (.ofMantissaAndAccuracy (a / b) (UnpackedFloat.accuracyOfFraction (a % b) b))
      (a / b) := by
  have positive : (0 : ℚ) < b := by exact_mod_cast hb
  have split : (a : ℚ) = b * (a / b : Nat) + (a % b : Nat) := by
    exact_mod_cast (Nat.div_add_mod a b).symm
  have value : (a : ℚ) / b = (a / b : Nat) + ((a % b : Nat) : ℚ) / b := by
    rw [split, add_div, mul_div_cancel_left₀ _ positive.ne']
  have less : ((a % b : Nat) : ℚ) / b < 1 := by
    rw [div_lt_one positive]
    exact_mod_cast Nat.mod_lt a hb
  rw [value]
  unfold UnpackedFloat.accuracyOfFraction
  generalize a / b = q
  generalize a % b = r at *
  by_cases zero : r = 0
  · rw [if_pos zero, zero, Nat.cast_zero, zero_div, add_zero]
    exact .whole q
  · have some : 0 < (r : ℚ) / b := div_pos (by exact_mod_cast Nat.pos_of_ne_zero zero) positive
    rw [if_neg zero]
    rcases lt_trichotomy (2 * r) b with h | h | h
    · have half : (r : ℚ) / b < 1 / 2 := by
        rw [div_lt_div_iff₀ positive two_pos]
        exact_mod_cast (by omega : r * 2 < 1 * b)
      rw [Nat.compare_eq_lt.mpr h]
      exact .below (by linarith) (by linarith)
    · have half : (r : ℚ) / b = 1 / 2 := by
        rw [div_eq_div_iff positive.ne' two_ne_zero]
        exact_mod_cast (by omega : r * 2 = 1 * b)
      rw [Nat.compare_eq_eq.mpr h, half]
      exact .middle q
    · have half : 1 / 2 < (r : ℚ) / b := by
        rw [div_lt_div_iff₀ two_pos positive]
        exact_mod_cast (by omega : 1 * b < r * 2)
      rw [Nat.compare_eq_gt.mpr h]
      exact .above (by linarith) (by linarith)

theorem Encloses.bounds (h : Encloses g x) : (g.mantissa : ℚ) ≤ x ∧ x < g.mantissa + 1 := by
  cases h with
  | whole m => exact ⟨le_refl _, by linarith⟩
  | below low high => exact ⟨low.le, by linarith⟩
  | middle m => exact ⟨by linarith, by linarith⟩
  | above low high => exact ⟨by linarith, high⟩

theorem shiftRightOne_even (k : Nat) (round sticky : Bool) :
    ExtendedMantissa.shiftRightOne ⟨2 * k, round, sticky⟩ = ⟨k, false, round || sticky⟩ := by
  unfold ExtendedMantissa.shiftRightOne
  simp

theorem shiftRightOne_odd (k : Nat) (round sticky : Bool) :
    ExtendedMantissa.shiftRightOne ⟨2 * k + 1, round, sticky⟩ = ⟨k, true, round || sticky⟩ := by
  unfold ExtendedMantissa.shiftRightOne
  have half : (2 * k + 1) / 2 = k := by omega
  simp [half]

theorem Encloses.shiftRightOne (h : Encloses g x) : Encloses g.shiftRightOne (x / 2) := by
  obtain ⟨m, round, sticky⟩ := g
  rcases Nat.even_or_odd' m with ⟨k, rfl | rfl⟩
  · rw [shiftRightOne_even]
    cases h with
    | whole =>
      have half : ((2 * k : Nat) : ℚ) / 2 = k := by push_cast; ring
      rw [half]
      exact .whole k
    | below low high =>
      push_cast at low high
      exact .below (by linarith) (by linarith)
    | middle =>
      push_cast
      exact .below (by linarith) (by linarith)
    | above low high =>
      push_cast at low high
      exact .below (by linarith) (by linarith)
  · rw [shiftRightOne_odd]
    cases h with
    | whole =>
      have half : ((2 * k + 1 : Nat) : ℚ) / 2 = k + 1 / 2 := by push_cast; ring
      rw [half]
      exact .middle k
    | below low high =>
      push_cast at low high
      exact .above (by linarith) (by linarith)
    | middle =>
      push_cast
      exact .above (by linarith) (by linarith)
    | above low high =>
      push_cast at low high
      exact .above (by linarith) (by linarith)

theorem Encloses.shiftRight (h : Encloses g x) (n : Nat) : Encloses (g >>> n) (x / 2 ^ n) := by
  show Encloses (n.repeat ExtendedMantissa.shiftRightOne g) (x / 2 ^ n)
  induction n with
  | zero =>
    rw [pow_zero, div_one]
    exact h
  | succ n ih =>
    rw [pow_succ, ← div_div]
    exact ih.shiftRightOne

theorem Encloses.closest (h : Encloses g x) : Closest g.roundedMantissa x := by
  cases h with
  | whole m =>
    show Closest m m
    exact ⟨by linarith, by linarith, by rintro (h | h) <;> linarith⟩
  | @below m x low high =>
    show Closest m x
    exact ⟨by linarith, by linarith, by rintro (h | h) <;> linarith⟩
  | middle m =>
    show Closest (m + m % 2) _
    rcases Nat.mod_two_eq_zero_or_one m with even | odd
    · rw [even]
      exact ⟨by push_cast; linarith, by push_cast; linarith, fun _ => even⟩
    · rw [odd]
      exact ⟨by push_cast; linarith, by push_cast; linarith, fun _ => by omega⟩
  | @above m x low high =>
    show Closest (m + 1) x
    refine ⟨by push_cast; linarith, by push_cast; linarith, ?_⟩
    push_cast
    rintro (h | h) <;> linarith

end

/-! ## numbers put into bits -/

/-- what a sign, an exponent and a fraction say -/
def ofFields (negative : Bool) (exponent fraction : Nat) : Binary64 :=
  if exponent = 0x7FF then if fraction = 0 then .infinite negative else .notANumber
  else if exponent = 0 then .finite negative fraction (-1074)
  else .finite negative (0x10000000000000 + fraction) ((exponent : Int) - 1075)

def isNegative : Sign → Bool
  | .negative => true
  | .positive => false

open Float.Model.UnpackedFloat in
theorem toNat_packComponents (s : Sign) (e : BitVec 11) (m : BitVec 52) :
    (packComponents .binary64 s e m).toNat =
      (if isNegative s then 0x8000000000000000 else 0) + e.toNat * 0x10000000000000 + m.toNat := by
  show (s.toBitVec ++ e ++ m).toNat = _
  rw [BitVec.toNat_append, ← Nat.shiftLeft_add_eq_or_of_lt m.isLt, BitVec.toNat_append,
    ← Nat.shiftLeft_add_eq_or_of_lt e.isLt]
  cases s with
  | negative =>
    show ((1 <<< 11 + e.toNat) <<< 52) + m.toNat =
      0x8000000000000000 + e.toNat * 0x10000000000000 + m.toNat
    omega
  | positive =>
    show ((0 <<< 11 + e.toNat) <<< 52) + m.toNat = 0 + e.toNat * 0x10000000000000 + m.toNat
    omega

open Float.Model.UnpackedFloat in
theorem ofBits_packComponents (s : Sign) (e : BitVec 11) (m : BitVec 52) :
    ofBits ⟨packComponents .binary64 s e m⟩ = ofFields (isNegative s) e.toNat m.toNat := by
  have exponent := e.isLt
  have fraction := m.isLt
  have bits : (⟨packComponents .binary64 s e m⟩ : UInt64).toNat = _ := toNat_packComponents s e m
  unfold ofBits ofFields
  rw [bits]
  have sign : decide (0x8000000000000000 ≤ (if isNegative s then 0x8000000000000000 else 0) +
      e.toNat * 0x10000000000000 + m.toNat) = isNegative s := by
    cases isNegative s with
    | true => exact decide_eq_true (by rw [if_pos rfl]; omega)
    | false => exact decide_eq_false (by rw [if_neg Bool.false_ne_true]; omega)
  have middle : ((if isNegative s then 0x8000000000000000 else 0) +
      e.toNat * 0x10000000000000 + m.toNat) / 0x10000000000000 % 0x800 = e.toNat := by
    split <;> omega
  have last : ((if isNegative s then 0x8000000000000000 else 0) +
      e.toNat * 0x10000000000000 + m.toNat) % 0x10000000000000 = m.toNat := by
    split <;> omega
  dsimp only
  rw [sign, middle, last]

theorem ofFloat_pack (u : UnpackedFloat) :
    ofFloat (.ofModel (.pack u)) = ofBits ⟨u.pack .binary64⟩ := rfl

theorem ofFloat_zero (s : Sign) :
    ofFloat (.ofModel (.pack (.zero s))) = .finite (isNegative s) 0 (-1074) := by
  rw [ofFloat_pack]
  exact ofBits_packComponents s 0 0

/-- a mantissa and a power of two, of which only the least goes with short mantissas; powers have no
upper end here -/
structure Canonical (m : Nat) (e : Int) : Prop where
  lt : m < 0x20000000000000
  least : -1074 ≤ e
  small : m < 0x10000000000000 → e = -1074

theorem Canonical.full {m : Nat} {e : Int} (h : Canonical m e) (he : -1074 < e) :
    0x10000000000000 ≤ m := by
  by_contra short
  have power := h.small (by omega)
  omega

theorem ofFloat_finite (s : Sign) {m : Nat} (hm : 0 < m) {e : Int} (h : Canonical m e) :
    ofFloat (.ofModel (.pack (.finite s m e hm))) =
      if e < 972 then .finite (isNegative s) m e else .infinite (isNegative s) := by
  have bound := h.lt
  have least := h.least
  rw [ofFloat_pack]
  show ofBits ⟨if 2048 ≤ (e + 1023 + 52).toNat + 1 then UnpackedFloat.packedInfinity .binary64 s else
    if m.log2 + 1 = 53 then UnpackedFloat.packComponents .binary64 s
      (.ofNat 11 (e + 1023 + 52).toNat) (.ofNat 52 m)
    else UnpackedFloat.packComponents .binary64 s 0#11 (.ofNat 52 m)⟩ = _
  by_cases large : e < 972
  · rw [if_neg (by omega), if_pos large]
    by_cases full : m < 0x10000000000000
    · have log : m.log2 < 52 := (Nat.log2_lt (Nat.ne_of_gt hm)).mpr full
      rw [if_neg (by omega), ofBits_packComponents, h.small full]
      unfold ofFields
      rw [if_neg (by decide), if_pos BitVec.toNat_zero, BitVec.toNat_ofNat, Nat.mod_eq_of_lt full]
    · have log : m.log2 = 52 :=
        (Nat.log2_eq_iff (Nat.ne_of_gt hm)).mpr ⟨Nat.le_of_not_lt full, bound⟩
      have exponent : (BitVec.ofNat 11 (e + 1023 + 52).toNat).toNat = (e + 1075).toNat := by
        rw [BitVec.toNat_ofNat]
        omega
      have fraction : (BitVec.ofNat 52 m).toNat = m - 0x10000000000000 := by
        rw [BitVec.toNat_ofNat]
        omega
      rw [if_pos (by omega), ofBits_packComponents, exponent, fraction]
      have mantissa : 0x10000000000000 + (m - 0x10000000000000) = m := by omega
      have power : (((e + 1075).toNat : Nat) : Int) - 1075 = e := by omega
      unfold ofFields
      rw [if_neg (by omega), if_neg (by omega), mantissa, power]
  · rw [if_pos (by omega), if_neg large]
    exact ofBits_packComponents s (-1#11) 0

/-! ## rounding -/

/-- the power of two that a mantissa and a power are brought to: fifty-three digits are left, or the
power is the least -/
def target (m : Nat) (e : Int) : Int := max ((m.log2 : Int) + e - 52) (-1074)

theorem targetExponent_eq (m : Nat) (e : Int) :
    Format.binary64.targetExponent (totalExponent m e) = target m e := by
  show max ((m.log2 : Int) + 1 + e - 53) (-1074) = max ((m.log2 : Int) + e - 52) (-1074)
  omega

def orZero (s : Sign) (m : Nat) (e : Int) : UnpackedFloat :=
  if h : m = 0 then .zero s else .finite s m e (Nat.pos_of_ne_zero h)

/-- a rounded mantissa that has one digit too many gives it up -/
def carried (s : Sign) (r : Nat) (t : Int) : UnpackedFloat :=
  if r < 0x20000000000000 then orZero s r t else orZero s 0x10000000000000 (t + 1)

theorem orZero_of_pos (s : Sign) {m : Nat} (hm : 0 < m) (e : Int) :
    orZero s m e = .finite s m e hm := dif_neg (Nat.ne_of_gt hm)

theorem mantissa_shiftRight (g : ExtendedMantissa) (n : Nat) :
    (g >>> n).mantissa = g.mantissa / 2 ^ n := by
  show (n.repeat ExtendedMantissa.shiftRightOne g).mantissa = _
  induction n with
  | zero => exact (Nat.div_one _).symm
  | succ n ih =>
    rw [Nat.pow_succ, ← Nat.div_div_eq_div_mul, ← ih]
    rfl

theorem mantissa_ofAccuracy (m : Nat) (a : Accuracy) :
    (ExtendedMantissa.ofMantissaAndAccuracy m a).mantissa = m := by
  cases a with
  | exact => rfl
  | inexact o => cases o <;> rfl

/-- what a mantissa is brought to when it has too many digits -/
def cut (m : Nat) (e : Int) (a : Accuracy) : ExtendedMantissa :=
  ExtendedMantissa.ofMantissaAndAccuracy m a >>> (target m e - e).toNat

theorem shiftToTargetExponent_eq (m : Nat) {e : Int} (a : Accuracy) (h : e ≤ target m e) :
    UnpackedFloat.shiftToTargetExponent .binary64 m e a = (cut m e a, target m e) := by
  show (_, e + ((Format.binary64.targetExponent (totalExponent m e) - e).toNat : Int)) = _
  have power : e + (target m e - e) = target m e := by omega
  rw [targetExponent_eq, Int.toNat_of_nonneg (by omega), power]
  rfl

theorem shiftToTargetExponent_of_lt {r : Nat} {t : Int} (hr : r < 0x20000000000000)
    (ht : -1074 ≤ t) :
    (UnpackedFloat.shiftToTargetExponent .binary64 r t .exact).1.mantissa = r ∧
      (UnpackedFloat.shiftToTargetExponent .binary64 r t .exact).2 = t := by
  have log : r.log2 ≤ 52 := by
    by_cases zero : r = 0
    · rw [zero]
      decide
    · exact Nat.le_of_lt_succ ((Nat.log2_lt zero).mpr hr)
  have stays : (Format.binary64.targetExponent (totalExponent r t) - t).toNat = 0 := by
    rw [targetExponent_eq]
    unfold target
    omega
  show (ExtendedMantissa.ofMantissaAndAccuracy r .exact >>>
      (Format.binary64.targetExponent (totalExponent r t) - t).toNat).mantissa = r ∧
    t + ((Format.binary64.targetExponent (totalExponent r t) - t).toNat : Int) = t
  rw [stays]
  exact ⟨rfl, by omega⟩

theorem shiftToTargetExponent_of_full {t : Int} (ht : -1074 ≤ t) :
    (UnpackedFloat.shiftToTargetExponent .binary64 0x20000000000000 t .exact).1.mantissa =
        0x10000000000000 ∧
      (UnpackedFloat.shiftToTargetExponent .binary64 0x20000000000000 t .exact).2 = t + 1 := by
  have log : Nat.log2 0x20000000000000 = 53 := by decide
  have goes : (Format.binary64.targetExponent (totalExponent 0x20000000000000 t) - t).toNat = 1 := by
    rw [targetExponent_eq]
    unfold target
    omega
  show (ExtendedMantissa.ofMantissaAndAccuracy 0x20000000000000 .exact >>>
      (Format.binary64.targetExponent (totalExponent 0x20000000000000 t) - t).toNat).mantissa = _ ∧
    t + ((Format.binary64.targetExponent (totalExponent 0x20000000000000 t) - t).toNat : Int) = _
  rw [goes, mantissa_shiftRight]
  exact ⟨by decide, rfl⟩

/-- a mantissa is rounded once, and a digit too many is given up -/
theorem roundWithAccuracy_eq (s : Sign) (m : Nat) {e : Int} (a : Accuracy) (h : e ≤ target m e)
    (hr : (cut m e a).roundedMantissa ≤ 0x20000000000000) :
    UnpackedFloat.roundWithAccuracy .binary64 s m e a =
      carried s (cut m e a).roundedMantissa (target m e) := by
  have least : -1074 ≤ target m e := le_max_right _ _
  have rounded : UnpackedFloat.roundWithAccuracy .binary64 s m e a =
      orZero s (UnpackedFloat.shiftToTargetExponent .binary64 (cut m e a).roundedMantissa
        (target m e) .exact).1.mantissa (UnpackedFloat.shiftToTargetExponent .binary64
        (cut m e a).roundedMantissa (target m e) .exact).2 := by
    unfold UnpackedFloat.roundWithAccuracy
    rw [shiftToTargetExponent_eq m a h]
    rfl
  rw [rounded]
  unfold carried
  generalize (cut m e a).roundedMantissa = r at *
  generalize target m e = t at *
  rcases Nat.lt_or_eq_of_le hr with less | rfl
  · obtain ⟨mantissa, power⟩ := shiftToTargetExponent_of_lt less least
    rw [mantissa, power, if_pos less]
  · obtain ⟨mantissa, power⟩ := shiftToTargetExponent_of_full least
    rw [mantissa, power, if_neg (Nat.lt_irrefl _)]

/-! ## what is rounded to -/

open Decimal (Span)

/-- an amount is rounded to a mantissa and a power of two, if powers have no upper end: it lies among
the reals that round to them, or less than half a step above zero -/
structure Settles (v : ℚ) (m : Nat) (e : Int) : Prop extends Canonical m e where
  has : if m = 0 then v ≤ 2 ^ (-1075 : Int) else (Span.ofParts m e).Has v

/-- half a step above the greatest number: amounts from here on are infinite -/
def overflow : ℚ := (0x20000000000000 - 1 / 2) * 2 ^ (971 : Int)

/-- what an amount with a sign is rounded to -/
inductive Rounded (negative : Bool) (v : ℚ) : Binary64 → Prop where
  | finite {m : Nat} {e : Int} (h : Settles v m e) (he : e < 972) :
    Rounded negative v (.finite negative m e)
  | infinite (h : overflow ≤ v) : Rounded negative v (.infinite negative)

theorem Settles.overflow {v : ℚ} {m : Nat} {e : Int} (h : Settles v m e) (he : 972 ≤ e) :
    Binary64.overflow ≤ v := by
  have full : 0x10000000000000 ≤ m := h.full (by omega)
  have has := h.has
  rw [if_neg (by omega)] at has
  have low : (Span.ofParts m e).low.value ≤ v := by
    rcases has with ⟨low, -⟩ | ⟨-, low, -⟩
    · exact low.le
    · exact low
  have positive : (0 : ℚ) < 2 ^ e := by positivity
  have step : (2 : ℚ) ^ (971 : Int) * 2 ≤ 2 ^ e := by
    rw [← zpow_add_one₀ two_ne_zero]
    exact zpow_le_zpow_right₀ one_le_two he
  rw [Span.value_low (by omega)] at low
  unfold Binary64.overflow
  generalize (2 : ℚ) ^ (971 : Int) = half at *
  generalize (2 : ℚ) ^ e = whole at *
  by_cases least : m = 0x10000000000000
  · rw [if_pos ⟨least, by omega⟩, least] at low
    push_cast at low
    linarith
  · have more : (0x10000000000000 : ℚ) + 1 ≤ m := by
      exact_mod_cast (by omega : 0x10000000000000 + 1 ≤ m)
    rw [if_neg fun edge => least edge.1] at low
    have scaled : (0x10000000000000 + 1) * whole ≤ m * whole :=
      mul_le_mul_of_nonneg_right more positive.le
    linarith

section
variable {v : ℚ} {r f : Nat} {t : Int}

/-- the integer closest to an amount in steps has no other number nearer to the amount -/
theorem has_of_closest (hr : 0 < r) (h : Closest r (v / 2 ^ t))
    (edge : r = 0x10000000000000 → -1074 < t → r * 2 ^ t ≤ v) : (Span.ofParts r t).Has v := by
  have step : (0 : ℚ) < 2 ^ t := by positivity
  have low : r * 2 ^ t - 2 ^ t / 2 ≤ v := by
    have scaled := (le_div_iff₀ step).mp h.low
    linarith
  have high : v ≤ r * 2 ^ t + 2 ^ t / 2 := by
    have scaled := (div_le_iff₀ step).mp h.high
    linarith
  have tie (tie : v = r * 2 ^ t - 2 ^ t / 2 ∨ v = r * 2 ^ t + 2 ^ t / 2) : r % 2 = 0 := by
    apply h.even
    rw [div_eq_iff step.ne', div_eq_iff step.ne']
    rcases tie with tie | tie
    · exact Or.inl (by rw [tie]; ring)
    · exact Or.inr (by rw [tie]; ring)
  have lowest : (Span.ofParts r t).low.value ≤ v := by
    rw [Span.value_low hr]
    split
    · rename_i h
      have above := edge h.1 h.2
      linarith
    · exact low
  rcases Nat.mod_two_eq_zero_or_one r with even | odd
  · refine Or.inr ⟨decide_eq_true even, lowest, ?_⟩
    rw [Span.value_high]
    exact high
  · have inner : ¬ (r = 0x10000000000000 ∧ -1074 < t) := by
      rintro ⟨rfl, -⟩
      cases odd
    refine Or.inl ⟨?_, ?_⟩
    · rw [Span.value_low hr, if_neg inner]
      refine lt_of_le_of_ne low fun same => ?_
      have even := tie (Or.inl same.symm)
      omega
    · rw [Span.value_high]
      refine lt_of_le_of_ne high fun same => ?_
      have even := tie (Or.inr same)
      omega

/-- an integer that is one more than fits is the least of the next power -/
theorem has_of_full (low : (0x20000000000000 : ℚ) * 2 ^ t - 2 ^ t / 2 ≤ v)
    (high : v ≤ 0x20000000000000 * 2 ^ t) (least : -1074 ≤ t) :
    (Span.ofParts 0x10000000000000 (t + 1)).Has v := by
  have step : (0 : ℚ) < 2 ^ t := by positivity
  have next : (2 : ℚ) ^ (t + 1) = 2 * 2 ^ t := by
    rw [zpow_add_one₀ two_ne_zero, mul_comm]
  refine Or.inr ⟨show decide (0x10000000000000 % 2 = 0) = true by decide, ?_, ?_⟩
  · rw [Span.value_low (by decide), if_pos ⟨rfl, by omega⟩, next]
    push_cast
    linarith
  · rw [Span.value_high, next]
    push_cast
    linarith

theorem rounded_carried (s : Sign) (least : -1074 ≤ t) (hf : f < 0x20000000000000)
    (full : f < 0x10000000000000 → t = -1074) (floor : f ≤ v / 2 ^ t) (ceil : v / 2 ^ t < f + 1)
    (h : Closest r (v / 2 ^ t)) :
    r ≤ 0x20000000000000 ∧
      Rounded (isNegative s) v (ofFloat (.ofModel (.pack (carried s r t)))) := by
  have step : (0 : ℚ) < 2 ^ t := by positivity
  have above : f ≤ r := by
    have below : (f : ℚ) < r + 1 := by linarith [h.high]
    exact Nat.le_of_lt_succ (by exact_mod_cast below)
  have below : r ≤ f + 1 := by
    have below : (r : ℚ) < f + 1 + 1 := by linarith [h.low]
    exact Nat.le_of_lt_succ (by exact_mod_cast below)
  have floor := (le_div_iff₀ step).mp floor
  have ceil := (div_lt_iff₀ step).mp ceil
  refine ⟨by omega, ?_⟩
  unfold carried
  by_cases zero : r = 0
  · have none : orZero s r t = .zero s := dif_pos zero
    rw [if_pos (by omega), none, ofFloat_zero]
    have power : t = -1074 := full (by omega)
    have half : (2 : ℚ) ^ (-1075 : Int) = 2 ^ (-1074 : Int) / 2 := by
      rw [show (-1075 : Int) = -1074 - 1 from rfl, zpow_sub_one₀ two_ne_zero, div_eq_mul_inv]
    have small := (div_le_iff₀ step).mp h.high
    rw [zero, Nat.cast_zero, power] at small
    refine .finite ⟨⟨by decide, le_refl _, fun _ => rfl⟩, ?_⟩ (by decide)
    rw [if_pos rfl, half]
    linarith
  · by_cases less : r < 0x20000000000000
    · have canonical : Canonical r t := ⟨less, least, fun short => full (by omega)⟩
      have edge (hr : r = 0x10000000000000) (ht : -1074 < t) : r * 2 ^ t ≤ v := by
        have same : f = r := by
          by_contra other
          have power := full (by omega)
          omega
        rw [← same]
        exact floor
      have settled : Settles v r t :=
        ⟨canonical, by rw [if_neg zero]; exact has_of_closest (Nat.pos_of_ne_zero zero) h edge⟩
      rw [if_pos less, orZero_of_pos s (Nat.pos_of_ne_zero zero), ofFloat_finite s _ canonical]
      split
      · rename_i he
        exact .finite settled he
      · rename_i he
        exact .infinite (settled.overflow (Int.not_lt.mp he))
    · have most : r = 0x20000000000000 := by omega
      have last : f = 0x1FFFFFFFFFFFFF := by omega
      have canonical : Canonical 0x10000000000000 (t + 1) :=
        ⟨by decide, by omega, fun short => absurd short (by decide)⟩
      have low := (le_div_iff₀ step).mp h.low
      have settled : Settles v 0x10000000000000 (t + 1) := by
        refine ⟨canonical, ?_⟩
        rw [if_neg (by decide)]
        refine has_of_full ?_ ?_ least
        · rw [most] at low
          push_cast at low
          linarith
        · rw [last] at ceil
          push_cast at ceil
          linarith
      rw [if_neg less, orZero_of_pos s (by decide), ofFloat_finite s _ canonical]
      split
      · rename_i he
        exact .finite settled he
      · rename_i he
        exact .infinite (settled.overflow (Int.not_lt.mp he))

end

section
variable {s : Sign} {m : Nat} {e : Int} {a : Accuracy} {v : ℚ}

/-- **A mantissa that has digits enough, or the least power, is rounded to the nearest.** -/
theorem rounded_roundWithAccuracy (s : Sign) (enough : 52 ≤ m.log2 ∨ e ≤ -1074)
    (h : Encloses (.ofMantissaAndAccuracy m a) (v / 2 ^ e)) :
    Rounded (isNegative s) v
      (ofFloat (.ofModel (.pack (UnpackedFloat.roundWithAccuracy .binary64 s m e a)))) := by
  have least : -1074 ≤ target m e := le_max_right _ _
  have le : e ≤ target m e := by
    unfold target
    omega
  obtain ⟨k, hk⟩ : ∃ k : Nat, target m e = e + k := ⟨(target m e - e).toNat, by omega⟩
  have short : m.log2 ≤ 52 + k := by
    unfold target at hk
    omega
  have long : -1074 < target m e → m.log2 = 52 + k := by
    unfold target at hk ⊢
    omega
  have mantissa : (cut m e a).mantissa = m / 2 ^ k := by
    unfold cut
    rw [mantissa_shiftRight, mantissa_ofAccuracy, hk]
    congr 2
    omega
  have lies : Encloses (cut m e a) (v / 2 ^ target m e) := by
    have shifted := h.shiftRight k
    unfold cut
    rw [div_div, ← zpow_natCast, ← zpow_add₀ two_ne_zero, ← hk] at shifted
    have same : (target m e - e).toNat = k := by omega
    rw [same]
    exact shifted
  have less : m / 2 ^ k < 0x20000000000000 := by
    rw [Nat.div_lt_iff_lt_mul (Nat.two_pow_pos k)]
    have digits : 2 ^ (m.log2 + 1) ≤ 0x20000000000000 * 2 ^ k := by
      rw [show 0x20000000000000 = 2 ^ 53 from rfl, ← Nat.pow_add]
      exact Nat.pow_le_pow_right (by decide) (by omega)
    exact Nat.lt_of_lt_of_le Nat.lt_log2_self digits
  have full : m / 2 ^ k < 0x10000000000000 → target m e = -1074 := by
    intro small
    by_contra other
    have log := long (by omega)
    have some : m ≠ 0 := by
      rintro rfl
      rw [Nat.log2_zero] at log
      omega
    have digits : 2 ^ m.log2 ≤ m := Nat.log2_self_le some
    rw [log, Nat.pow_add] at digits
    exact absurd ((Nat.le_div_iff_mul_le (Nat.two_pow_pos k)).mpr digits) (Nat.not_le_of_lt small)
  obtain ⟨floor, ceil⟩ := lies.bounds
  rw [mantissa] at floor ceil
  obtain ⟨bound, rounded⟩ := rounded_carried s least less full floor ceil lies.closest
  rw [roundWithAccuracy_eq s m a le bound]
  exact rounded

end

/-! ## products and quotients -/

section
variable {m n : Nat} {e k : Int}

theorem rounded_mul (hm : 0 < m) (hn : 0 < n) (enough : 52 ≤ (m * n).log2) :
    Rounded false (m * 2 ^ e * (n * 2 ^ k)) (ofFloat (.ofModel (.pack
      (UnpackedFloat.mul .binary64 (.finite .positive m e hm) (.finite .positive n k hn))))) := by
  refine rounded_roundWithAccuracy .positive (Or.inl enough) ?_
  have step : (2 : ℚ) ^ (e + k) ≠ 0 := by positivity
  have exact : (m * 2 ^ e * (n * 2 ^ k) : ℚ) / 2 ^ (e + k) = (m * n : Nat) := by
    rw [div_eq_iff step, zpow_add₀ two_ne_zero]
    push_cast
    ring
  rw [exact]
  exact .whole _

theorem rounded_div (hm : 0 < m) (hn : 0 < n) :
    Rounded false (m * 2 ^ e / (n * 2 ^ k)) (ofFloat (.ofModel (.pack
      (UnpackedFloat.div .binary64 (.finite .positive m e hm) (.finite .positive n k hn))))) := by
  obtain ⟨t, ht⟩ : ∃ t : Int, t = min (e - k)
      (Format.binary64.targetExponent (totalExponent m e - totalExponent n k)) := ⟨_, rfl⟩
  obtain ⟨j, hj⟩ : ∃ j : Nat, e - k = t + j := ⟨(e - k - t).toNat, by omega⟩
  have shift : (e - k - t).toNat = j := by omega
  have power : t ≤ max ((m.log2 : Int) + e - (n.log2 + k) - 53) (-1074) := by
    have le : t ≤ Format.binary64.targetExponent (totalExponent m e - totalExponent n k) := by omega
    have target : Format.binary64.targetExponent (totalExponent m e - totalExponent n k) =
        max ((m.log2 : Int) + 1 + e - (n.log2 + 1 + k) - 53) (-1074) := rfl
    omega
  show Rounded false _ (ofFloat (.ofModel (.pack (UnpackedFloat.roundWithAccuracy .binary64 .positive
    (m <<< (e - k - min (e - k) _).toNat / n) (min (e - k) _)
    (UnpackedFloat.accuracyOfFraction (m <<< (e - k - min (e - k) _).toNat % n) n)))))
  rw [← ht, shift, Nat.shiftLeft_eq]
  refine rounded_roundWithAccuracy .positive ?_ ?_
  · -- the quotient of a mantissa that was made long enough has digits enough
    by_cases least : t ≤ -1074
    · exact Or.inr least
    · refine Or.inl ?_
      have long : n.log2 + 1 + 52 ≤ m.log2 + j := by omega
      have above : 2 ^ (m.log2 + j) ≤ m * 2 ^ j := by
        rw [Nat.pow_add]
        exact Nat.mul_le_mul_right _ (Nat.log2_self_le (Nat.ne_of_gt hm))
      have below : n ≤ 2 ^ (n.log2 + 1) := Nat.le_of_lt Nat.lt_log2_self
      have large : 2 ^ 52 ≤ m * 2 ^ j / n := by
        rw [Nat.le_div_iff_mul_le hn]
        calc 2 ^ 52 * n ≤ 2 ^ 52 * 2 ^ (n.log2 + 1) := Nat.mul_le_mul_left _ below
          _ = 2 ^ (n.log2 + 1 + 52) := by rw [Nat.mul_comm, ← Nat.pow_add]
          _ ≤ 2 ^ (m.log2 + j) := Nat.pow_le_pow_right (by decide) long
          _ ≤ m * 2 ^ j := above
      exact (Nat.le_log2 (by omega)).mpr large
  · have nonzero : (n : ℚ) ≠ 0 := by exact_mod_cast Nat.ne_of_gt hn
    have steps : (2 : ℚ) ^ e = 2 ^ k * 2 ^ t * 2 ^ j := by
      rw [← zpow_natCast, ← zpow_add₀ two_ne_zero, ← zpow_add₀ two_ne_zero]
      congr 1
      omega
    have exact : (m * 2 ^ e / (n * 2 ^ k) : ℚ) / 2 ^ t = (m * 2 ^ j : Nat) / n := by
      rw [steps]
      push_cast
      field_simp
    rw [exact]
    exact encloses_quotient _ hn

end

end DroneFleet.Binary64
