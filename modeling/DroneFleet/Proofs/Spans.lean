import DroneFleet.Decimal.Shortest
import Mathlib.Algebra.Order.Field.Power
import Mathlib.Algebra.Order.Ring.Unbundled.Rat
import Mathlib.Data.Nat.Log
import Mathlib.Tactic.FieldSimp
import Mathlib.Tactic.Linarith
import Mathlib.Tactic.NormNum
import Mathlib.Tactic.Positivity
import Mathlib.Tactic.Ring

/-!
# The reals that round to a binary number

Quotients become rational numbers here. The shortest decimal of a binary number is one of the numbers
that round to it, and no number rounds to two of them: different binary numbers have different
decimals.

* `Ratio.value`               a quotient as a rational number
* `Span.Has`                  does a number round to the middle of a span?
* `Span.onGrid?_isSome`       a grid that is fine enough has a hit
* `Span.search_has`           what the search finds rounds to the middle
* `Span.top_fine`, `Span.top_coarse`   the grids that are searched are fine enough, but not finer
* `shortest_has`              the shortest decimal rounds to its binary number
* `Span.eq_of_has`            no number rounds to two binary numbers
-/

namespace DroneFleet.Decimal

/-! ## quotients -/

namespace Ratio

def value (r : Ratio) : ℚ := r.num / r.den

theorem value_ofBinary (n : Nat) (e : Int) :
    (ofBinary n e).value = n * 2 ^ e ∧ 0 < (ofBinary n e).den := by
  unfold ofBinary value
  split
  · rename_i h
    obtain ⟨k, rfl⟩ := Int.eq_ofNat_of_zero_le h
    refine ⟨?_, Nat.one_pos⟩
    show ((n * 2 ^ k : Nat) : ℚ) / (1 : Nat) = n * 2 ^ (k : Int)
    push_cast
    rw [zpow_natCast, div_one]
  · rename_i h
    obtain ⟨k, rfl⟩ := Int.eq_negSucc_of_lt_zero (Int.not_le.mp h)
    refine ⟨?_, Nat.two_pow_pos _⟩
    show (n : ℚ) / (2 ^ (k + 1) : Nat) = n * 2 ^ Int.negSucc k
    push_cast
    rw [zpow_negSucc, div_eq_mul_inv]

theorem value_divTen {r : Ratio} (h : 0 < r.den) (k : Int) :
    (r.divTen k).value = r.value / 10 ^ k ∧ 0 < (r.divTen k).den := by
  unfold divTen value
  split
  · rename_i hk
    obtain ⟨k, rfl⟩ := Int.eq_ofNat_of_zero_le hk
    refine ⟨?_, Nat.mul_pos h (Nat.pow_pos (by decide))⟩
    show (r.num : ℚ) / (r.den * 10 ^ k : Nat) = r.num / r.den / 10 ^ (k : Int)
    push_cast
    rw [zpow_natCast, div_div]
  · rename_i hk
    obtain ⟨k, rfl⟩ := Int.eq_negSucc_of_lt_zero (Int.not_le.mp hk)
    refine ⟨?_, h⟩
    show ((r.num * 10 ^ (k + 1) : Nat) : ℚ) / r.den = r.num / r.den / 10 ^ Int.negSucc k
    push_cast
    rw [zpow_negSucc, div_inv_eq_mul, div_mul_eq_mul_div]

theorem lt_iff {a b : Ratio} (ha : 0 < a.den) (hb : 0 < b.den) : a.lt b = true ↔ a.value < b.value := by
  have ha' : (0 : ℚ) < a.den := by exact_mod_cast ha
  have hb' : (0 : ℚ) < b.den := by exact_mod_cast hb
  unfold lt value
  rw [decide_eq_true_iff, div_lt_div_iff₀ ha' hb']
  exact_mod_cast Iff.rfl

end Ratio

/-! ## spans -/

namespace Span

/-- does a number round to the middle of a span? -/
def Has (s : Span) (v : ℚ) : Prop :=
  (s.low.value < v ∧ v < s.high.value) ∨ (s.closed = true ∧ s.low.value ≤ v ∧ v ≤ s.high.value)

/-- no quotient of a span is by zero -/
structure Proper (s : Span) : Prop where
  low : 0 < s.low.den
  mid : 0 < s.mid.den
  high : 0 < s.high.den

theorem proper_ofParts (m : Nat) (e : Int) : (ofParts m e).Proper where
  low := (Ratio.value_ofBinary _ _).2
  mid := (Ratio.value_ofBinary _ _).2
  high := (Ratio.value_ofBinary _ _).2

section
variable {s : Span}

theorem Proper.divTen (h : s.Proper) (k : Int) : (s.divTen k).Proper where
  low := (Ratio.value_divTen h.low k).2
  mid := (Ratio.value_divTen h.mid k).2
  high := (Ratio.value_divTen h.high k).2

theorem holds_iff (h : s.Proper) (n : Nat) : s.holds n = true ↔ s.Has n := by
  have one : (Ratio.mk n 1).value = n := by
    unfold Ratio.value
    rw [Nat.cast_one, div_one]
  have low := Ratio.lt_iff h.low (b := ⟨n, 1⟩) Nat.one_pos
  have low' := Ratio.lt_iff (a := ⟨n, 1⟩) Nat.one_pos h.low
  have high := Ratio.lt_iff (a := ⟨n, 1⟩) Nat.one_pos h.high
  have high' := Ratio.lt_iff h.high (b := ⟨n, 1⟩) Nat.one_pos
  rw [one] at low low' high high'
  unfold holds Has
  simp only [Bool.or_eq_true, Bool.and_eq_true, Bool.not_eq_true', ← Bool.not_eq_true, low, low',
    high, high', not_lt, and_assoc]

theorem has_divTen (h : s.Proper) (k : Int) (v : ℚ) : (s.divTen k).Has v ↔ s.Has (v * 10 ^ k) := by
  have ten : (0 : ℚ) < 10 ^ k := by positivity
  have low : (s.divTen k).low.value = s.low.value / 10 ^ k := (Ratio.value_divTen h.low k).1
  have high : (s.divTen k).high.value = s.high.value / 10 ^ k := (Ratio.value_divTen h.high k).1
  unfold Has
  rw [low, high, div_lt_iff₀ ten, lt_div_iff₀ ten, div_le_iff₀ ten, le_div_iff₀ ten]
  exact Iff.rfl

theorem holds_of_integer? {n : Nat} (h : s.integer? = some n) : s.holds n = true := by
  unfold integer? at h
  dsimp only at h
  split at h
  · rename_i h1 h2
    split at h
    · cases h
      exact h1
    · split at h
      · cases h
        exact h2
      · cases h
        split
        · exact h1
        · exact h2
  · rename_i h1 _
    cases h
    exact h1
  · rename_i _ h2
    cases h
    exact h2
  · cases h

theorem integer?_of_holds (h : s.holds (s.mid.num / s.mid.den) = true) :
    s.integer? = some (s.mid.num / s.mid.den) ∨ s.integer? = some (s.mid.num / s.mid.den + 1) := by
  unfold integer?
  dsimp only
  rw [h]
  cases s.holds (s.mid.num / s.mid.den + 1) with
  | false => exact Or.inl rfl
  | true =>
    dsimp only
    split
    · exact Or.inl rfl
    · split
      · exact Or.inr rfl
      · split
        · exact Or.inl rfl
        · exact Or.inr rfl

/-- what is found on a grid rounds to the middle -/
theorem has_of_onGrid? (h : s.Proper) {k : Int} {n : Nat} (hn : s.onGrid? k = some n) :
    n ≠ 0 ∧ s.Has (n * 10 ^ k) := by
  unfold onGrid? at hn
  split at hn
  · cases hn
  · rename_i nonzero
    refine ⟨?_, ?_⟩
    · rintro rfl
      exact nonzero hn
    · rw [← has_divTen h, ← holds_iff (h.divTen k)]
      exact holds_of_integer? hn

end

/-! ## hits -/

theorem two_zpow_sub_two (e : Int) : (2 : ℚ) ^ (e - 2) = 2 ^ e / 4 := by
  rw [zpow_sub₀ (by norm_num)]
  norm_num

theorem value_mid (m : Nat) (e : Int) : (ofParts m e).mid.value = m * 2 ^ e := by
  have mid : (ofParts m e).mid.value = (4 * m : Nat) * 2 ^ (e - 2) :=
    (Ratio.value_ofBinary _ _).1
  rw [mid, two_zpow_sub_two]
  push_cast
  ring

theorem value_high (m : Nat) (e : Int) : (ofParts m e).high.value = m * 2 ^ e + 2 ^ e / 2 := by
  have high : (ofParts m e).high.value = (4 * m + 2 : Nat) * 2 ^ (e - 2) :=
    (Ratio.value_ofBinary _ _).1
  rw [high, two_zpow_sub_two]
  push_cast
  ring

theorem value_low {m : Nat} (hm : 0 < m) (e : Int) :
    (ofParts m e).low.value =
      m * 2 ^ e - if m = 0x10000000000000 ∧ -1074 < e then 2 ^ e / 4 else 2 ^ e / 2 := by
  have low : (ofParts m e).low.value =
      (4 * m - (if m = 0x10000000000000 ∧ -1074 < e then 1 else 2) : Nat) * 2 ^ (e - 2) :=
    (Ratio.value_ofBinary _ _).1
  rw [low, two_zpow_sub_two]
  split
  · rw [Nat.cast_sub (by omega)]
    push_cast
    ring
  · rw [Nat.cast_sub (by omega)]
    push_cast
    ring

theorem onGrid?_isSome {m : Nat} (hm : 0 < m) {e k : Int} (fine : (4 * 10 ^ k : ℚ) ≤ 2 ^ e) :
    ∃ n, (ofParts m e).onGrid? k = some n := by
  have proper := (proper_ofParts m e).divTen k
  have ten : (0 : ℚ) < 10 ^ k := by positivity
  have one : (1 : ℚ) ≤ m := by exact_mod_cast hm
  let d := ((ofParts m e).divTen k).mid.num / ((ofParts m e).divTen k).mid.den
  have mid : ((ofParts m e).divTen k).mid.value * 10 ^ k = m * 2 ^ e := by
    have value : ((ofParts m e).divTen k).mid.value = (ofParts m e).mid.value / 10 ^ k :=
      (Ratio.value_divTen (proper_ofParts m e).mid k).1
    rw [value, value_mid, div_mul_cancel₀ _ ten.ne']
  have den : (0 : ℚ) < ((ofParts m e).divTen k).mid.den := by exact_mod_cast proper.mid
  have below : (d : ℚ) ≤ ((ofParts m e).divTen k).mid.value := by
    unfold Ratio.value
    rw [le_div_iff₀ den]
    exact_mod_cast Nat.div_mul_le_self _ _
  have above : ((ofParts m e).divTen k).mid.value < d + 1 := by
    unfold Ratio.value
    rw [div_lt_iff₀ den]
    exact_mod_cast Nat.lt_mul_of_div_lt (Nat.lt_succ_self d) proper.mid
  have below' : (d : ℚ) * 10 ^ k ≤ m * 2 ^ e := by
    rw [← mid]
    exact mul_le_mul_of_nonneg_right below ten.le
  have above' : (m : ℚ) * 2 ^ e < d * 10 ^ k + 10 ^ k := by
    have product := mul_lt_mul_of_pos_right above ten
    rw [mid] at product
    linarith
  have step : (0 : ℚ) < 2 ^ e := by positivity
  have has : (ofParts m e).Has (d * 10 ^ k) := by
    refine Or.inl ⟨?_, ?_⟩
    · rw [value_low hm]
      split <;> linarith
    · rw [value_high]
      linarith
  have holds : ((ofParts m e).divTen k).holds d = true := by
    rw [holds_iff proper, has_divTen (proper_ofParts m e)]
    exact has
  have nonzero : d ≠ 0 := by
    intro h0
    rw [h0] at above'
    have least : (2 : ℚ) ^ e ≤ m * 2 ^ e := le_mul_of_one_le_left step.le one
    norm_num at above'
    linarith
  unfold onGrid?
  rcases integer?_of_holds holds with h | h
  · rw [h]
    obtain ⟨n, hn⟩ := Nat.exists_eq_add_one_of_ne_zero nonzero
    have hd : ((ofParts m e).divTen k).mid.num / ((ofParts m e).divTen k).mid.den = n + 1 := hn
    rw [hd]
    exact ⟨n + 1, rfl⟩
  · rw [h]
    exact ⟨_, rfl⟩

/-- the search stops at the first grid with a hit -/
theorem search_spec {s : Span} {fuel : Nat} {k : Int}
    (hit : ∃ j < fuel, ∃ n, s.onGrid? (k - (j : Nat)) = some n) :
    ∃ i < fuel, s.onGrid? (k - (i : Nat)) = some (s.search fuel k).digits ∧
      (s.search fuel k).exponent = k - i ∧ ∀ j < i, s.onGrid? (k - (j : Nat)) = none := by
  induction fuel generalizing k with
  | zero =>
    obtain ⟨j, hj, -⟩ := hit
    exact absurd hj (Nat.not_lt_zero j)
  | succ fuel ih =>
    cases here : s.onGrid? k with
    | some d =>
      have found : s.search (fuel + 1) k = ⟨d, k⟩ := by simp only [search, here]
      rw [found]
      refine ⟨0, Nat.succ_pos fuel, ?_, (Int.sub_zero k).symm, fun j hj => absurd hj (Nat.not_lt_zero j)⟩
      rw [Int.natCast_zero, Int.sub_zero]
      exact here
    | none =>
      have next : s.search (fuel + 1) k = s.search fuel (k - 1) := by simp only [search, here]
      have hit' : ∃ j < fuel, ∃ n, s.onGrid? (k - 1 - (j : Nat)) = some n := by
        obtain ⟨j, hj, n, hn⟩ := hit
        cases j with
        | zero =>
          rw [Int.natCast_zero, Int.sub_zero, here] at hn
          cases hn
        | succ j =>
          refine ⟨j, Nat.lt_of_succ_lt_succ hj, n, ?_⟩
          rw [← hn]
          congr 1
          omega
      obtain ⟨i, hi, found, place, before⟩ := ih hit'
      rw [next]
      refine ⟨i + 1, Nat.succ_lt_succ hi, ?_, ?_, ?_⟩
      · rw [← found]
        congr 1
        omega
      · rw [place]
        omega
      · intro j hj
        cases j with
        | zero =>
          rw [Int.natCast_zero, Int.sub_zero]
          exact here
        | succ j =>
          rw [← before j (Nat.lt_of_succ_lt_succ hj)]
          congr 1
          omega

/-! ## where the search begins and ends -/

theorem ten_zpow_le {a b : Int} (hb : 0 ≤ b) (h : 10 * a ≤ 3 * b) : (10 : ℚ) ^ a ≤ 2 ^ b := by
  rw [← pow_le_pow_iff_left₀ (n := 10) (by positivity) (by positivity) (by decide)]
  calc ((10 : ℚ) ^ a) ^ 10 = 10 ^ (10 * a) := by
        rw [← zpow_natCast, ← zpow_mul, mul_comm]
        rfl
    _ ≤ 10 ^ (3 * b) := zpow_le_zpow_right₀ (by norm_num) h
    _ = ((10 : ℚ) ^ (3 : Int)) ^ b := zpow_mul 10 3 b
    _ ≤ ((2 : ℚ) ^ (10 : Int)) ^ b := zpow_le_zpow_left₀ hb (by norm_num) (by norm_num)
    _ = (2 ^ b) ^ 10 := by
        rw [← zpow_mul, ← zpow_natCast, ← zpow_mul, mul_comm]
        rfl

theorem two_zpow_le {a b : Int} (ha : 0 ≤ a) (h : 28 * a ≤ 93 * b) : (2 : ℚ) ^ a ≤ 10 ^ b := by
  rw [← pow_le_pow_iff_left₀ (n := 93) (by positivity) (by positivity) (by decide)]
  calc ((2 : ℚ) ^ a) ^ 93 = ((2 : ℚ) ^ (93 : Int)) ^ a := by
        rw [← zpow_natCast, ← zpow_mul, ← zpow_mul, mul_comm]
        rfl
    _ ≤ ((10 : ℚ) ^ (28 : Int)) ^ a := zpow_le_zpow_left₀ ha (by norm_num) (by norm_num)
    _ = 10 ^ (28 * a) := (zpow_mul 10 28 a).symm
    _ ≤ 10 ^ (93 * b) := zpow_le_zpow_right₀ (by norm_num) h
    _ = (10 ^ b) ^ 93 := by
        rw [← zpow_natCast, ← zpow_mul, mul_comm]
        rfl

theorem zpow_neg_le {a b : Int} (h : (2 : ℚ) ^ a ≤ 10 ^ b) : (10 : ℚ) ^ (-b) ≤ 2 ^ (-a) := by
  rw [zpow_neg, zpow_neg]
  exact inv_anti₀ (by positivity) h

theorem zpow_neg_le' {a b : Int} (h : (10 : ℚ) ^ a ≤ 2 ^ b) : (2 : ℚ) ^ (-b) ≤ 10 ^ (-a) := by
  rw [zpow_neg, zpow_neg]
  exact inv_anti₀ (by positivity) h

/-- mantissa and power of a positive binary number of 64 bits -/
structure Normal (m : Nat) (e : Int) : Prop where
  pos : 0 < m
  lt : m < 0x20000000000000
  least : -1074 ≤ e
  greatest : e ≤ 971
  small : m < 0x10000000000000 → e = -1074

section
variable {m : Nat} {e : Int}

theorem log2_lt (h : Normal m e) : Nat.log2 m < 53 :=
  (Nat.log2_lt (Nat.ne_of_gt h.pos)).mpr h.lt

theorem top_fine (h : Normal m e) : (4 * 10 ^ (top m e - 23) : ℚ) ≤ 2 ^ e := by
  have log := log2_lt h
  have least := h.least
  have greatest := h.greatest
  have key : (10 : ℚ) ^ (top m e - 6) ≤ 2 ^ ((Nat.log2 m : Int) + 1 + e) := by
    unfold top
    dsimp only
    split
    · exact ten_zpow_le (by assumption) (by omega)
    · rename_i negative
      have inverse := zpow_neg_le (a := -((Nat.log2 m : Int) + 1 + e))
        (b := -(-(-((Nat.log2 m : Int) + 1 + e) * 30102 / 100000) + 2 - 6))
        (two_zpow_le (by omega) (by omega))
      rwa [neg_neg, neg_neg] at inverse
  have bits : (2 : ℚ) ^ ((Nat.log2 m : Int) + 1 + e) ≤ 2 ^ (e + 53) :=
    zpow_le_zpow_right₀ (by norm_num) (by omega)
  have ten : (10 : ℚ) ^ (top m e - 23) = 10 ^ (top m e - 6) / 10 ^ (17 : Nat) := by
    rw [← zpow_natCast, ← zpow_sub₀ (by norm_num)]
    congr 1
    omega
  have two : (2 : ℚ) ^ (e + 53) = 2 ^ e * 2 ^ (53 : Nat) := by
    rw [zpow_add₀ (by norm_num), ← zpow_natCast]
    rfl
  have positive : (0 : ℚ) < 2 ^ e := by positivity
  rw [two] at bits
  rw [ten]
  norm_num at bits ⊢
  linarith

theorem top_coarse (h : Normal m e) : (2 : ℚ) ^ e ≤ 10 ^ top m e := by
  have log := log2_lt h
  have least := h.least
  have greatest := h.greatest
  have bits : (2 : ℚ) ^ e ≤ 2 ^ ((Nat.log2 m : Int) + 1 + e) :=
    zpow_le_zpow_right₀ (by norm_num) (by omega)
  refine bits.trans ?_
  unfold top
  dsimp only
  split
  · exact two_zpow_le (by assumption) (by omega)
  · rename_i negative
    have inverse := zpow_neg_le' (b := -((Nat.log2 m : Int) + 1 + e))
      (a := -(-(-((Nat.log2 m : Int) + 1 + e) * 30102 / 100000) + 2))
      (ten_zpow_le (by omega) (by omega))
    rwa [neg_neg, neg_neg] at inverse

theorem Has.low_le {s : Span} {v : ℚ} (h : s.Has v) : s.low.value ≤ v := by
  rcases h with ⟨low, -⟩ | ⟨-, low, -⟩
  · exact low.le
  · exact low

theorem Has.le_high {s : Span} {v : ℚ} (h : s.Has v) : v ≤ s.high.value := by
  rcases h with ⟨-, high⟩ | ⟨-, -, high⟩
  · exact high.le
  · exact high

/-- a number at an end of a span rounds to an even mantissa -/
theorem Has.even_of_high {v : ℚ} (h : (ofParts m e).Has v) (hv : (ofParts m e).high.value ≤ v) :
    m % 2 = 0 := by
  rcases h with ⟨-, high⟩ | ⟨closed, -, -⟩
  · exact absurd hv (not_le.mpr high)
  · exact of_decide_eq_true closed

theorem Has.even_of_low {v : ℚ} (h : (ofParts m e).Has v) (hv : v ≤ (ofParts m e).low.value) :
    m % 2 = 0 := by
  rcases h with ⟨low, -⟩ | ⟨closed, -, -⟩
  · exact absurd hv (not_le.mpr low)
  · exact of_decide_eq_true closed

theorem low_ge (hm : 0 < m) : m * 2 ^ e - 2 ^ e / 2 ≤ (ofParts m e).low.value := by
  have step : (0 : ℚ) < 2 ^ e := by positivity
  rw [value_low hm]
  split <;> linarith

theorem search_has (h : Normal m e) :
    ((ofParts m e).search 24 (top m e)).digits ≠ 0 ∧
      ((ofParts m e).search 24 (top m e)).digits < 40 * 0x20000000000000 ∧
      (ofParts m e).Has (((ofParts m e).search 24 (top m e)).digits *
        10 ^ ((ofParts m e).search 24 (top m e)).exponent) := by
  have hit : ∃ j < 24, ∃ n, (ofParts m e).onGrid? (top m e - (j : Nat)) = some n :=
    ⟨23, by decide, onGrid?_isSome h.pos (top_fine h)⟩
  obtain ⟨i, hi, found, place, before⟩ := search_spec hit
  rw [place]
  obtain ⟨nonzero, has⟩ := has_of_onGrid? (proper_ofParts m e) found
  refine ⟨nonzero, ?_, has⟩
  have step : (0 : ℚ) < 2 ^ e := by positivity
  have ten : (0 : ℚ) < 10 ^ (top m e - i) := by positivity
  have fine : (2 : ℚ) ^ e < 40 * 10 ^ (top m e - i) := by
    cases i with
    | zero =>
      have coarse := top_coarse h
      rw [Int.natCast_zero, Int.sub_zero] at ten ⊢
      linarith
    | succ i =>
      -- the grid before this one had no hit
      have none := before i (Nat.lt_succ_self i)
      have coarse : ¬ (4 * 10 ^ (top m e - (i : Nat)) : ℚ) ≤ 2 ^ e := by
        intro fine
        obtain ⟨n, hn⟩ := onGrid?_isSome h.pos fine
        cases none.symm.trans hn
      have next : (10 : ℚ) ^ (top m e - (i : Nat)) = 10 ^ (top m e - (i + 1 : Nat)) * 10 := by
        rw [← zpow_add_one₀ (by norm_num)]
        congr 1
        omega
      rw [next] at coarse
      linarith
  have high := has.le_high
  rw [value_high] at high
  have bound : (m : ℚ) + 1 ≤ 0x20000000000000 := by exact_mod_cast h.lt
  have product : (m : ℚ) * 2 ^ e + 2 ^ e ≤ 0x20000000000000 * 2 ^ e := by
    have scaled := mul_le_mul_of_nonneg_right bound step.le
    linarith
  have digits : (((ofParts m e).search 24 (top m e)).digits : ℚ) * 10 ^ (top m e - i) <
      (40 * 0x20000000000000) * 10 ^ (top m e - i) := by
    linarith
  exact_mod_cast lt_of_mul_lt_mul_right digits ten.le

/-! ## no number rounds to two -/

theorem lt_of_lt_parts {m' : Nat} {e' : Int} (h : Normal m e) (h' : Normal m' e')
    (order : e < e' ∨ e = e' ∧ m < m') {v : ℚ} (hv : (ofParts m e).Has v) :
    ¬ (ofParts m' e').Has v := by
  intro hv'
  have step : (0 : ℚ) < 2 ^ e := by positivity
  have high := value_high m e
  have low := low_ge (e := e') h'.pos
  have between := hv.le_high
  have between' := hv'.low_le
  rcases order with he | ⟨rfl, hm⟩
  · have wide : (2 : ℚ) * 2 ^ e ≤ 2 ^ e' := by
      rw [← zpow_one_add₀ (by norm_num)]
      exact zpow_le_zpow_right₀ (by norm_num) (by omega)
    have large : 0x10000000000000 ≤ m' := by
      by_contra small
      have first := h'.small (by omega)
      have least := h.least
      omega
    have edge : (0x10000000000000 : ℚ) * 2 ^ e' - 2 ^ e' / 4 ≤ (ofParts m' e').low.value := by
      rcases Nat.eq_or_lt_of_le large with rfl | more
      · rw [value_low h'.pos, if_pos ⟨rfl, by have least := h.least; omega⟩]
        norm_num
      · have more' : (0x10000000000000 : ℚ) + 1 ≤ m' := by exact_mod_cast more
        have scaled := mul_le_mul_of_nonneg_right more' (show (0 : ℚ) ≤ 2 ^ e' by positivity)
        linarith
    have ends : (0x20000000000000 : ℚ) * 2 ^ e - 2 ^ e / 2 ≤ v := by linarith
    have odd : m = 0x1FFFFFFFFFFFFF := by
      have bound := h.lt
      by_contra other
      have less : (m : ℚ) + 2 ≤ 0x20000000000000 := by exact_mod_cast (by omega : m + 2 ≤ _)
      have scaled := mul_le_mul_of_nonneg_right less step.le
      linarith
    have even := hv.even_of_high (by
      rw [high, odd]
      norm_num at ends ⊢
      linarith)
    omega
  · have next : m' = m + 1 := by
      by_contra other
      have more : (m : ℚ) + 2 ≤ m' := by exact_mod_cast (by omega : m + 2 ≤ m')
      have scaled := mul_le_mul_of_nonneg_right more step.le
      linarith
    subst next
    push_cast at low
    have even := hv.even_of_high (by linarith)
    have even' := hv'.even_of_low (by linarith)
    omega

/-- **No number rounds to two binary numbers.** -/
theorem eq_of_has {m' : Nat} {e' : Int} (h : Normal m e) (h' : Normal m' e') {v : ℚ}
    (hv : (ofParts m e).Has v) (hv' : (ofParts m' e').Has v) : m = m' ∧ e = e' := by
  rcases lt_trichotomy e e' with he | rfl | he
  · exact absurd hv' (lt_of_lt_parts h h' (Or.inl he) hv)
  · rcases lt_trichotomy m m' with hm | rfl | hm
    · exact absurd hv' (lt_of_lt_parts h h' (Or.inr ⟨rfl, hm⟩) hv)
    · exact ⟨rfl, rfl⟩
    · exact absurd hv (lt_of_lt_parts h' h (Or.inr ⟨rfl, hm⟩) hv')
  · exact absurd hv (lt_of_lt_parts h' h (Or.inl he) hv')

end

end Span

/-! ## shortest decimals -/

namespace Shortest

def value (s : Shortest) : ℚ := s.digits * 10 ^ s.exponent

theorem trim_spec (fuel : Nat) (s : Shortest) :
    (s.trim fuel).value = s.value ∧ (s.trim fuel).digits ≤ s.digits ∧
      (s.digits ≠ 0 → (s.trim fuel).digits ≠ 0) := by
  induction fuel generalizing s with
  | zero => exact ⟨rfl, Nat.le_refl _, fun h => h⟩
  | succ fuel ih =>
    unfold trim
    split
    · rename_i h
      obtain ⟨same, le, nonzero⟩ := ih ⟨s.digits / 10, s.exponent + 1⟩
      have whole : s.digits / 10 * 10 = s.digits := by omega
      refine ⟨same.trans ?_, le.trans (Nat.div_le_self _ _), fun _ => nonzero ?_⟩
      · unfold value
        dsimp only
        rw [zpow_add_one₀ (by norm_num)]
        have whole' : ((s.digits / 10 : Nat) : ℚ) * 10 = s.digits := by exact_mod_cast whole
        rw [mul_comm ((10 : ℚ) ^ s.exponent) 10, ← mul_assoc, whole']
      · show s.digits / 10 ≠ 0
        omega
    · exact ⟨rfl, Nat.le_refl _, fun h => h⟩

end Shortest

/-- **The shortest decimal rounds to its binary number**, and it has a limited number of digits. -/
theorem shortest_has {m : Nat} {e : Int} (h : Span.Normal m e) :
    (shortest m e).digits ≠ 0 ∧ (shortest m e).digits < 40 * 0x20000000000000 ∧
      (Span.ofParts m e).Has (shortest m e).value := by
  obtain ⟨nonzero, less, has⟩ := Span.search_has h
  obtain ⟨same, le, keeps⟩ :=
    ((Span.ofParts m e).search 24 (Span.top m e)).trim_spec 24
  refine ⟨keeps nonzero, le.trans_lt less, ?_⟩
  have same : (shortest m e).value = _ := same
  rw [same]
  exact has

end DroneFleet.Decimal
