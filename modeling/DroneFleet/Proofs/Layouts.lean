import DroneFleet.Proofs.Literals
import DroneFleet.Proofs.Spans

/-!
# Decimals on the wire

Whatever layout it is written in, a shortest decimal is read back as the number that it is: positional
or with a power of ten, filled with zeros on either side, with a point or without.

* `Decimal.Shortest.parts`      the parts of a decimal on the wire
* `Decimal.write_wire`          it is written with these parts
* `Decimal.Shortest.value_parts`   which say what it is
* `Decimal.fits_parts`          and fit into 64 bits
-/

namespace DroneFleet

namespace Decimal

open Numeral (Parts natOfDigits)

def value (p : Parts) : ℚ := p.digits * 10 ^ p.exponent

namespace Shortest

/-- the power of ten of the first digit -/
def magnitude (s : Shortest) : Int := s.exponent + (digitText s.digits).length - 1

def parts (s : Shortest) : Parts :=
  let ds := digitText s.digits
  let n : Int := s.magnitude + 1
  if -5 ≤ s.magnitude ∧ s.magnitude ≤ 15 then
    if n ≤ 0 then ⟨['0'], List.replicate (-n).toNat '0' ++ ds, none⟩
    else if ds.length ≤ n.toNat then ⟨ds ++ List.replicate (n.toNat - ds.length) '0', ['0'], none⟩
    else ⟨ds.take n.toNat, ds.drop n.toNat, none⟩
  else ⟨ds.take 1, ds.drop 1, some s.magnitude⟩

end Shortest

theorem scientific_eq {ds : List Char} (h : ds ≠ []) (e : Int) :
    scientific ds e = (⟨ds.take 1, ds.drop 1, some e⟩ : Parts).text := by
  cases ds with
  | nil => exact absurd rfl h
  | cons d ds =>
    cases ds with
    | nil => rfl
    | cons c ds => rfl

theorem text_of_part (whole : List Char) {part : List Char} (h : part ≠ []) :
    (⟨whole, part, none⟩ : Parts).text = whole ++ '.' :: part := by
  cases part with
  | nil => exact absurd rfl h
  | cons d ds =>
    show whole ++ ('.' :: d :: ds ++ []) = _
    rw [List.append_nil]

theorem write_wire (s : Shortest) : write .wire s = s.parts.text := by
  have some := digitText_ne_nil s.digits
  unfold write Shortest.parts
  dsimp only
  change (if -5 ≤ s.magnitude ∧ s.magnitude ≤ 15 then
    positional .wire (digitText s.digits) (s.magnitude + 1)
    else scientific (digitText s.digits) s.magnitude) = _
  split
  · unfold positional
    split
    · have part : List.replicate (-(s.magnitude + 1)).toNat '0' ++ digitText s.digits ≠ [] :=
        List.append_ne_nil_of_right_ne_nil _ some
      rw [text_of_part _ part]
      rfl
    · split
      · rfl
      · rename_i _ long
        have part : (digitText s.digits).drop (s.magnitude + 1).toNat ≠ [] := by
          rw [Ne, List.drop_eq_nil_iff]
          omega
        rw [text_of_part _ part]
  · exact scientific_eq some _

/-! ## what the parts say -/

section
variable {s : Shortest}

theorem natOfDigits_replicate (n : Nat) : natOfDigits (List.replicate n '0') = 0 := by
  rw [Numeral.natOfDigits_eq, Nat.ofDigitChars_replicate_zero, Nat.mul_zero]

theorem isDigit_replicate {n : Nat} {c : Char} (h : c ∈ List.replicate n '0') :
    c.isDigit = true := by
  rw [(List.mem_replicate.mp h).2]
  decide

theorem isDigit_zero : ∀ c ∈ ['0'], c.isDigit = true :=
  List.forall_mem_singleton.mpr rfl

theorem isDigit_of_mem_take {n d : Nat} {c : Char} (h : c ∈ (digitText d).take n) :
    c.isDigit = true := isDigit_of_mem_digitText (List.mem_of_mem_take h)

theorem isDigit_of_mem_drop {n d : Nat} {c : Char} (h : c ∈ (digitText d).drop n) :
    c.isDigit = true := isDigit_of_mem_digitText (List.mem_of_mem_drop h)

theorem head_take {ds : List Char} {n : Nat} (hn : 0 < n) : (ds.take n).head? = ds.head? := by
  cases ds with
  | nil => rw [List.take_nil]
  | cons d ds =>
    obtain ⟨n, rfl⟩ := Nat.exists_eq_add_one_of_ne_zero (Nat.ne_of_gt hn)
    rfl

theorem take_ne_nil {d n : Nat} (hn : 0 < n) : (digitText d).take n ≠ [] := by
  have some := List.length_pos_iff.mpr (digitText_ne_nil d)
  rw [Ne, List.take_eq_nil_iff, not_or]
  exact ⟨by omega, digitText_ne_nil d⟩

theorem proper_parts (h : s.digits ≠ 0) : s.parts.Proper := by
  have positive := Nat.pos_of_ne_zero h
  have head := head_digitText positive
  unfold Shortest.parts
  dsimp only
  split
  · split
    · refine ⟨isDigit_zero, ?_, List.cons_ne_nil _ _, Or.inl rfl⟩
      intro c hc
      rcases List.mem_append.mp hc with hc | hc
      · exact isDigit_replicate hc
      · exact isDigit_of_mem_digitText hc
    · split
      · refine ⟨?_, isDigit_zero, List.append_ne_nil_of_left_ne_nil (digitText_ne_nil _) _, Or.inr ?_⟩
        · intro c hc
          rcases List.mem_append.mp hc with hc | hc
          · exact isDigit_of_mem_digitText hc
          · exact isDigit_replicate hc
        · cases hd : digitText s.digits with
          | nil => exact absurd hd (digitText_ne_nil _)
          | cons d ds =>
            rw [hd] at head
            exact head
      · have front : 0 < (s.magnitude + 1).toNat := by omega
        refine ⟨fun c hc => isDigit_of_mem_take hc, fun c hc => isDigit_of_mem_drop hc,
          take_ne_nil front, Or.inr ?_⟩
        rw [head_take front]
        exact head
  · refine ⟨fun c hc => isDigit_of_mem_take hc, fun c hc => isDigit_of_mem_drop hc,
      take_ne_nil Nat.one_pos, Or.inr ?_⟩
    rw [head_take Nat.one_pos]
    exact head

/-- the digits and the power of ten of the parts: those of the decimal, or an integer with a zero
behind the point -/
theorem parts_eq (s : Shortest) :
    (s.parts.digits = s.digits ∧ s.parts.exponent = s.exponent) ∨
    ∃ k : Nat, s.exponent = k ∧ (digitText s.digits).length + k ≤ 16 ∧
      s.parts.digits = s.digits * 10 ^ k * 10 ∧ s.parts.exponent = -1 := by
  have positive := List.length_pos_iff.mpr (digitText_ne_nil s.digits)
  have denotes := Numeral.natOfDigits_digitText s.digits
  have place : s.magnitude = s.exponent + (digitText s.digits).length - 1 := rfl
  have plain : s.parts = (if -5 ≤ s.magnitude ∧ s.magnitude ≤ 15 then
      if s.magnitude + 1 ≤ 0 then
        ⟨['0'], List.replicate (-(s.magnitude + 1)).toNat '0' ++ digitText s.digits, none⟩
      else if (digitText s.digits).length ≤ (s.magnitude + 1).toNat then
        ⟨digitText s.digits ++
          List.replicate ((s.magnitude + 1).toNat - (digitText s.digits).length) '0', ['0'], none⟩
      else ⟨(digitText s.digits).take (s.magnitude + 1).toNat,
        (digitText s.digits).drop (s.magnitude + 1).toNat, none⟩
    else ⟨(digitText s.digits).take 1, (digitText s.digits).drop 1, some s.magnitude⟩) := rfl
  rw [plain]
  unfold Parts.digits Parts.exponent
  split
  · split
    · refine Or.inl ⟨?_, ?_⟩
      · dsimp only
        rw [Numeral.natOfDigits_append, Numeral.natOfDigits_append, natOfDigits_replicate, denotes]
        show 0 * _ + (0 * _ + _) = _
        omega
      · show (0 : Int) - (List.length _ : Nat) = _
        rw [List.length_append, List.length_replicate]
        omega
    · split
      · obtain ⟨k, hk⟩ : ∃ k : Nat, s.exponent = k := ⟨s.exponent.toNat, by omega⟩
        have zeros : (s.magnitude + 1).toNat - (digitText s.digits).length = k := by omega
        refine Or.inr ⟨k, hk, by omega, ?_, rfl⟩
        dsimp only
        rw [zeros, Numeral.natOfDigits_append, Numeral.natOfDigits_append, natOfDigits_replicate,
          denotes, List.length_replicate]
        show (_ + 0) * 10 ^ 1 + 0 = _
        rw [Nat.add_zero, Nat.add_zero, Nat.pow_one]
      · refine Or.inl ⟨?_, ?_⟩
        · dsimp only
          rw [List.take_append_drop, denotes]
        · show (0 : Int) - (List.length _ : Nat) = _
          rw [List.length_drop]
          omega
  · refine Or.inl ⟨?_, ?_⟩
    · dsimp only
      rw [List.take_append_drop, denotes]
    · show s.magnitude - (List.length _ : Nat) = _
      rw [List.length_drop]
      omega

theorem power_parts (s : Shortest) : s.parts.power = none ∨ s.parts.power = some s.magnitude := by
  unfold Shortest.parts
  dsimp only
  split
  · split
    · exact Or.inl rfl
    · split
      · exact Or.inl rfl
      · exact Or.inl rfl
  · exact Or.inr rfl

theorem value_parts (s : Shortest) : value s.parts = s.value := by
  unfold value Shortest.value
  rcases parts_eq s with ⟨digits, exponent⟩ | ⟨k, hk, -, digits, exponent⟩
  · rw [digits, exponent]
  · rw [digits, exponent, hk]
    push_cast
    rw [zpow_neg_one, mul_inv_cancel_right₀ (by norm_num), zpow_natCast]

end

/-! ## the range -/

open Json (Amount roundBits roundBits_le overflow)

section
variable {m : Nat} {e : Int}

theorem value_shortest_le (h : Span.Normal m e) :
    (shortest m e).value ≤ m * 2 ^ e + 2 ^ e / 2 := by
  have high := (shortest_has h).2.2.le_high
  rwa [Span.value_high] at high

theorem exponent_shortest_le (h : Span.Normal m e) : (shortest m e).exponent ≤ 308 := by
  obtain ⟨nonzero, -, -⟩ := shortest_has h
  have high := value_shortest_le h
  have one : (1 : ℚ) ≤ (shortest m e).digits := by
    exact_mod_cast Nat.one_le_iff_ne_zero.mpr nonzero
  have ten : (0 : ℚ) < 10 ^ (shortest m e).exponent := by positivity
  have least : (10 : ℚ) ^ (shortest m e).exponent ≤ (shortest m e).value :=
    le_mul_of_one_le_left ten.le one
  have step : (0 : ℚ) < 2 ^ e := by positivity
  have bound : (m : ℚ) + 1 ≤ 2 ^ (53 : Int) := by
    have whole : m + 1 ≤ 2 ^ 53 := h.lt
    exact_mod_cast whole
  have scaled := mul_le_mul_of_nonneg_right bound step.le
  have power : (2 : ℚ) ^ (53 : Int) * 2 ^ e ≤ 10 ^ (309 : Int) := by
    rw [← zpow_add₀ (by norm_num)]
    calc (2 : ℚ) ^ (53 + e) ≤ 2 ^ (1024 : Int) :=
          zpow_le_zpow_right₀ (by norm_num) (by have greatest := h.greatest; omega)
      _ ≤ 10 ^ (309 : Int) := Span.two_zpow_le (by decide) (by decide)
  have between : (m : ℚ) * 2 ^ e + 2 ^ e / 2 < (m + 1) * 2 ^ e := by linarith
  have less : (10 : ℚ) ^ (shortest m e).exponent < 10 ^ (309 : Int) :=
    (least.trans high).trans_lt (between.trans_le (scaled.trans power))
  have exponent := (zpow_lt_zpow_iff_right₀ (by norm_num)).mp less
  omega

theorem le_exponent_shortest (h : Span.Normal m e) : -342 ≤ (shortest m e).exponent := by
  obtain ⟨-, less, has⟩ := shortest_has h
  have low := has.low_le
  have low' := Span.low_ge (e := e) h.pos
  have step : (0 : ℚ) < 2 ^ e := by positivity
  have one : (1 : ℚ) ≤ m := by exact_mod_cast h.pos
  have scaled := mul_le_mul_of_nonneg_right one step.le
  have half : (10 : ℚ) ^ (-324 : Int) ≤ 2 ^ e / 2 := by
    calc (10 : ℚ) ^ (-324 : Int) ≤ 2 ^ (-1075 : Int) :=
          Span.zpow_neg_le (Span.two_zpow_le (by decide) (by decide))
      _ ≤ 2 ^ (e - 1) := zpow_le_zpow_right₀ (by norm_num) (by have least := h.least; omega)
      _ = 2 ^ e / 2 := by rw [zpow_sub_one₀ (by norm_num), div_eq_mul_inv]
  have digits : ((shortest m e).digits : ℚ) ≤ 10 ^ (18 : Int) := by
    have whole : (shortest m e).digits ≤ 10 ^ 18 := by omega
    exact_mod_cast whole
  have ten : (0 : ℚ) < 10 ^ (shortest m e).exponent := by positivity
  have value : (shortest m e).value ≤ 10 ^ (18 + (shortest m e).exponent) := by
    rw [zpow_add₀ (by norm_num)]
    exact mul_le_mul_of_nonneg_right digits ten.le
  have least : (10 : ℚ) ^ (-324 : Int) ≤ 10 ^ (18 + (shortest m e).exponent) := by linarith
  have exponent := (zpow_le_zpow_iff_right₀ (by norm_num)).mp least
  omega

theorem length_digitText_le {n k : Nat} (hk : 0 < k) (h : n < 10 ^ k) : (digitText n).length ≤ k :=
  (Nat.length_toDigits_le_iff (by decide) hk).mpr h

theorem lt_pow_length_digitText (n : Nat) : n < 10 ^ (digitText n).length :=
  (Nat.length_toDigits_le_iff (by decide) (List.length_pos_iff.mpr (digitText_ne_nil n))).mp
    (Nat.le_refl _)

theorem overflow_eq : overflow = 0x3FFFFFFFFFFFFF * 2 ^ 970 := by decide +kernel

/-- what is well below the end of the range is not rounded beyond it -/
theorem rounds_of_le {n k : Nat} (h : n * 10 ^ k ≤ 0x3FFFFFFFFFFFF9 * 2 ^ 970) :
    roundBits 53 n * roundBits 53 (10 ^ k) < overflow := by
  have product := Nat.mul_le_mul (roundBits_le n) (roundBits_le (10 ^ k))
  have left : 0x20000000000000 * roundBits 53 n * (0x20000000000000 * roundBits 53 (10 ^ k)) =
      0x20000000000000 * 0x20000000000000 * (roundBits 53 n * roundBits 53 (10 ^ k)) :=
    Nat.mul_mul_mul_comm _ _ _ _
  have right : 0x20000000000001 * n * (0x20000000000001 * 10 ^ k) =
      0x20000000000001 * 0x20000000000001 * (n * 10 ^ k) := Nat.mul_mul_mul_comm _ _ _ _
  rw [left, right] at product
  rw [overflow_eq]
  have positive : 0 < 2 ^ 970 := by positivity
  generalize 2 ^ 970 = unit at *
  generalize roundBits 53 n * roundBits 53 (10 ^ k) = rounded at *
  generalize n * 10 ^ k = exact at *
  omega

theorem fits_greatest :
    (⟨(shortest 0x1FFFFFFFFFFFFD 971).digits, (shortest 0x1FFFFFFFFFFFFD 971).exponent⟩ :
        Amount).fits = true ∧
      (⟨(shortest 0x1FFFFFFFFFFFFE 971).digits, (shortest 0x1FFFFFFFFFFFFE 971).exponent⟩ :
        Amount).fits = true ∧
      (⟨(shortest 0x1FFFFFFFFFFFFF 971).digits, (shortest 0x1FFFFFFFFFFFFF 971).exponent⟩ :
        Amount).fits = true := by
  decide +kernel

theorem value_shortest_le_of_far (h : Span.Normal m e) (far : ¬ (e = 971 ∧ 0x1FFFFFFFFFFFFD ≤ m)) :
    (shortest m e).value ≤ 0x3FFFFFFFFFFFF9 * 2 ^ (970 : Int) := by
  refine (value_shortest_le h).trans ?_
  have step : (0 : ℚ) < 2 ^ e := by positivity
  have unit : (0 : ℚ) < 2 ^ (970 : Int) := by positivity
  by_cases he : e = 971
  · subst he
    have less : m + 1 ≤ 0x1FFFFFFFFFFFFD := by
      by_contra large
      exact far ⟨rfl, by omega⟩
    have less' : (m : ℚ) + 1 ≤ 0x1FFFFFFFFFFFFD := by exact_mod_cast less
    have double : (2 : ℚ) ^ (971 : Int) = 2 ^ (970 : Int) * 2 := zpow_add_one₀ (by norm_num) 970
    have scaled := mul_le_mul_of_nonneg_right less' unit.le
    rw [double]
    generalize (2 : ℚ) ^ (970 : Int) = u at *
    linarith
  · have smaller : (2 : ℚ) ^ e ≤ 2 ^ (970 : Int) :=
      zpow_le_zpow_right₀ (by norm_num) (by have greatest := h.greatest; omega)
    have bound : (m : ℚ) + 1 ≤ 0x20000000000000 := by exact_mod_cast h.lt
    have scaled := mul_le_mul_of_nonneg_right bound step.le
    generalize (2 : ℚ) ^ (970 : Int) = u at *
    linarith

theorem fits_shortest (h : Span.Normal m e) (whole : 0 ≤ (shortest m e).exponent) :
    (⟨(shortest m e).digits, (shortest m e).exponent⟩ : Amount).fits = true := by
  by_cases far : e = 971 ∧ 0x1FFFFFFFFFFFFD ≤ m
  · obtain ⟨rfl, large⟩ := far
    have less := h.lt
    obtain rfl | rfl | rfl : m = 0x1FFFFFFFFFFFFD ∨ m = 0x1FFFFFFFFFFFFE ∨ m = 0x1FFFFFFFFFFFFF := by
      omega
    · exact fits_greatest.1
    · exact fits_greatest.2.1
    · exact fits_greatest.2.2
  · have le := exponent_shortest_le h
    obtain ⟨k, hk⟩ := Int.eq_ofNat_of_zero_le whole
    have value : (shortest m e).value = ((shortest m e).digits * 10 ^ k : Nat) := by
      unfold Shortest.value
      rw [hk, zpow_natCast]
      push_cast
      rfl
    have bound := value_shortest_le_of_far h far
    rw [value] at bound
    have bound' : (shortest m e).digits * 10 ^ k ≤ 0x3FFFFFFFFFFFF9 * 2 ^ 970 := by
      rw [show (970 : Int) = ((970 : Nat) : Int) from rfl, zpow_natCast] at bound
      exact_mod_cast bound
    have less := rounds_of_le bound'
    rw [hk] at le ⊢
    unfold Amount.fits
    have less' : roundBits 53 (shortest m e).digits *
        roundBits 53 (Nat.pow 10 ((k : Int)).toNat) < overflow := less
    rw [decide_eq_true le, decide_eq_true less']
    exact Bool.or_true _

theorem fits_parts (h : Span.Normal m e) :
    (Amount.ofText (shortest m e).parts.text).fits = true := by
  obtain ⟨nonzero, less, -⟩ := shortest_has h
  have proper := proper_parts nonzero
  have le := exponent_shortest_le h
  have le' := le_exponent_shortest h
  have short : (digitText (shortest m e).digits).length ≤ 18 :=
    length_digitText_le (by decide) (by omega)
  have magnitude : (shortest m e).magnitude =
      (shortest m e).exponent + (digitText (shortest m e).digits).length - 1 := rfl
  have power : ((shortest m e).parts.power.getD 0).natAbs ≤ Json.remote := by
    have remote : Json.remote = 10000000000 := rfl
    rcases power_parts (shortest m e) with none | some
    · rw [none]
      exact Nat.zero_le _
    · rw [some]
      show (shortest m e).magnitude.natAbs ≤ _
      omega
  have digits : (shortest m e).parts.digits ≤ 0xFFFFFFFFFFFFFFFF := by
    rcases parts_eq (shortest m e) with ⟨same, -⟩ | ⟨k, -, room, same, -⟩
    · omega
    · have bound := Nat.mul_lt_mul_of_pos_right (lt_pow_length_digitText (shortest m e).digits)
        (show 0 < 10 ^ k by positivity)
      rw [← Nat.pow_add] at bound
      have limit : 10 ^ ((digitText (shortest m e).digits).length + k) ≤ 10 ^ 16 :=
        Nat.pow_le_pow_right (by decide) room
      omega
  rw [Parts.ofText_text proper digits power]
  by_cases negative : (shortest m e).parts.exponent < 0
  · unfold Amount.fits
    rw [decide_eq_true negative, Bool.or_true]
    rfl
  · rcases parts_eq (shortest m e) with ⟨digits', exponent⟩ | ⟨k, -, -, -, exponent⟩
    · rw [digits', exponent]
      exact fits_shortest h (by omega)
    · exact absurd (by omega) negative

end

end Decimal

end DroneFleet
