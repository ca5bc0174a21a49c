import DroneFleet.Proofs.Layouts

/-!
# Binary numbers in print

What is printed for a finite number says its sign and a decimal that rounds to it and to no other
number. So the text of a number is the text of this number only; what is not finite has no text.

* `Binary64.parts_of_finite`, `Binary64.eq_of_ofBits`   the parts of a number, and the number of parts
* `Binary64.exists_finite_iff`      the numbers that are finite
* `Decimal.Rounds`                  does a decimal round to a binary number?
* `Decimal.read_text?`              what a printed number says
* `Decimal.eq_of_text?`             different numbers have different texts
* `Json.printable_ofFloat`, `Json.ofFloat_eq_iff`   the same for values on the wire
-/

namespace DroneFleet

/-! ## parts -/

namespace Binary64

theorem parts_of_finite {b : UInt64} {negative : Bool} {m : Nat} {e : Int}
    (h : ofBits b = .finite negative m e) : m = 0 ∧ e = -1074 ∨ Decimal.Span.Normal m e := by
  unfold ofBits at h
  dsimp only at h
  split at h
  · split at h <;> cases h
  · rename_i special
    split at h
    · cases h
      rcases Nat.eq_zero_or_pos (b.toNat % 0x10000000000000) with zero | positive
      · exact Or.inl ⟨zero, rfl⟩
      · exact Or.inr ⟨positive, by omega, by decide, by decide, fun _ => rfl⟩
    · cases h
      exact Or.inr ⟨by omega, by omega, by omega, by omega, fun h => absurd h (by omega)⟩

theorem eq_of_ofBits {b c : UInt64} {negative : Bool} {m : Nat} {e : Int}
    (hb : ofBits b = .finite negative m e) (hc : ofBits c = .finite negative m e) : b = c := by
  have bits (b : UInt64) (h : ofBits b = .finite negative m e) :
      b.toNat = (if negative then 0x8000000000000000 else 0) +
        (if m < 0x10000000000000 then m
          else (e + 1075).toNat * 0x10000000000000 + (m - 0x10000000000000)) := by
    have bound : b.toNat < 0x10000000000000000 := b.toNat_lt
    unfold ofBits at h
    dsimp only at h
    split at h
    · split at h <;> cases h
    · split at h
      · cases h
        have small : b.toNat % 0x10000000000000 < 0x10000000000000 := Nat.mod_lt _ (by decide)
        by_cases sign : 0x8000000000000000 ≤ b.toNat
        · rw [decide_eq_true sign, if_pos rfl, if_pos small]
          omega
        · rw [decide_eq_false sign, if_neg Bool.false_ne_true, if_pos small]
          omega
      · cases h
        have large : ¬ 0x10000000000000 + b.toNat % 0x10000000000000 < 0x10000000000000 := by omega
        by_cases sign : 0x8000000000000000 ≤ b.toNat
        · rw [decide_eq_true sign, if_pos rfl, if_neg large]
          omega
        · rw [decide_eq_false sign, if_neg Bool.false_ne_true, if_neg large]
          omega
  apply UInt64.toNat_inj.mp
  rw [bits b hb, bits c hc]

theorem eq_of_ofFloat {x y : Float} {negative : Bool} {m : Nat} {e : Int}
    (hx : ofFloat x = .finite negative m e) (hy : ofFloat y = .finite negative m e) : x = y := by
  have same : x.toModel.toBits = y.toModel.toBits := eq_of_ofBits hx hy
  obtain ⟨⟨bits, valid⟩⟩ := x
  obtain ⟨⟨bits', valid'⟩⟩ := y
  have same : bits = bits' := same
  subst same
  rfl

/-! ## finite numbers -/

open Float.Model Float.Model.UnpackedFloat in
theorem toNat_unpackExponent (b : UInt64) :
    (@unpackExponent .binary64 b.toBitVec).toNat = b.toNat / 0x10000000000000 % 0x800 := by
  show (BitVec.extractLsb 62 52 b.toBitVec).toNat = _
  rw [BitVec.extractLsb_toNat, Nat.shiftRight_eq_div_pow]
  rfl

open Float.Model Float.Model.UnpackedFloat in
theorem exists_finite_iff (x : Float) :
    x.isFinite = true ↔ ∃ negative m e, ofFloat x = .finite negative m e := by
  have exponent := toNat_unpackExponent x.toModel.toBits
  have unpacked : x.isFinite = (unpack .binary64 x.toModel.toBits.toBitVec).isFinite := rfl
  have bits : ofFloat x = ofBits x.toModel.toBits := rfl
  rw [unpacked, bits]
  generalize x.toModel.toBits = b at *
  unfold UnpackedFloat.unpack ofBits
  dsimp only
  by_cases special : b.toNat / 0x10000000000000 % 0x800 = 0x7FF
  · have ones : @unpackExponent .binary64 b.toBitVec = -1#11 :=
      BitVec.eq_of_toNat_eq (exponent.trans special)
    rw [if_pos ones, if_pos special]
    constructor
    · intro h
      split at h <;> cases h
    · rintro ⟨negative, m, e, h⟩
      split at h <;> cases h
  · have other : @unpackExponent .binary64 b.toBitVec ≠ -1#11 := by
      intro ones
      rw [ones] at exponent
      exact special exponent.symm
    rw [if_neg other, if_neg special]
    constructor
    · intro _
      split
      · exact ⟨_, _, _, rfl⟩
      · exact ⟨_, _, _, rfl⟩
    · intro _
      by_cases zero : @unpackExponent .binary64 b.toBitVec = 0#11
      · rw [if_pos zero]
        by_cases none : @unpackMantissa .binary64 b.toBitVec = 0#52
        · rw [dif_pos none]
          rfl
        · rw [dif_neg none]
          rfl
      · rw [if_neg zero]
        rfl

end Binary64

/-! ## texts -/

namespace Decimal

open Numeral (Parts)

/-- does a decimal round to a binary number? -/
def Rounds (v : ℚ) (m : Nat) (e : Int) : Prop := if m = 0 then v = 0 else (Span.ofParts m e).Has v

/-- the parts of a printed number, without its sign -/
def wireParts (m : Nat) (e : Int) : Parts :=
  if m = 0 then ⟨['0'], ['0'], none⟩ else (shortest m e).parts

theorem text?_wire (negative : Bool) (m : Nat) (e : Int) :
    text? .wire (.finite negative m e) =
      some (if negative then '-' :: (wireParts m e).text else (wireParts m e).text) := by
  have body : (if m = 0 then '0' :: Layout.wire.integerEnd else write .wire (shortest m e)) =
      (wireParts m e).text := by
    unfold wireParts
    split
    · rfl
    · exact write_wire _
  unfold text?
  dsimp only
  rw [body]

section
variable {m : Nat} {e : Int}

theorem rounds_wireParts (h : m = 0 ∧ e = -1074 ∨ Span.Normal m e) :
    Rounds (value (wireParts m e)) m e := by
  unfold Rounds wireParts
  split
  · unfold value
    rw [show (⟨['0'], ['0'], none⟩ : Parts).digits = 0 by decide, Nat.cast_zero, zero_mul]
  · rename_i nonzero
    rcases h with ⟨zero, -⟩ | normal
    · exact absurd zero nonzero
    · rw [value_parts]
      exact (shortest_has normal).2.2

theorem proper_wireParts (h : m = 0 ∧ e = -1074 ∨ Span.Normal m e) : (wireParts m e).Proper := by
  unfold wireParts
  split
  · exact ⟨isDigit_zero, isDigit_zero, List.cons_ne_nil _ _, Or.inl rfl⟩
  · rename_i nonzero
    rcases h with ⟨zero, -⟩ | normal
    · exact absurd zero nonzero
    · exact proper_parts (shortest_has normal).1

theorem fits_wireParts (h : m = 0 ∧ e = -1074 ∨ Span.Normal m e) :
    (Json.Amount.ofText (wireParts m e).text).fits = true := by
  unfold wireParts
  split
  · decide
  · rename_i nonzero
    rcases h with ⟨zero, -⟩ | normal
    · exact absurd zero nonzero
    · exact fits_parts normal

theorem eq_of_rounds {m' : Nat} {e' : Int} (h : m = 0 ∧ e = -1074 ∨ Span.Normal m e)
    (h' : m' = 0 ∧ e' = -1074 ∨ Span.Normal m' e') {v : ℚ} (hv : Rounds v m e)
    (hv' : Rounds v m' e') : m = m' ∧ e = e' := by
  have positive {m : Nat} {e : Int} (normal : Span.Normal m e) {v : ℚ} (hv : Rounds v m e) :
      0 < v ∧ (Span.ofParts m e).Has v := by
    unfold Rounds at hv
    rw [if_neg (Nat.ne_of_gt normal.pos)] at hv
    refine ⟨lt_of_lt_of_le ?_ hv.low_le, hv⟩
    have low := Span.low_ge (e := e) normal.pos
    have one : (1 : ℚ) ≤ m := by exact_mod_cast normal.pos
    have step : (0 : ℚ) < 2 ^ e := by positivity
    have scaled := mul_le_mul_of_nonneg_right one step.le
    linarith
  rcases h with ⟨rfl, rfl⟩ | normal
  · rcases h' with ⟨rfl, rfl⟩ | normal'
    · exact ⟨rfl, rfl⟩
    · have zero : v = 0 := hv
      exact absurd zero (positive normal' hv').1.ne'
  · rcases h' with ⟨rfl, rfl⟩ | normal'
    · have zero : v = 0 := hv'
      exact absurd zero (positive normal hv).1.ne'
    · exact Span.eq_of_has normal normal' (positive normal hv).2 (positive normal' hv').2

end

/-! ## what a text says -/

theorem unblank_of_mem_text {p : Parts} (h : p.Proper) {c : Char} (hc : c ∈ p.text) :
    Text.isBlank c = false := by
  unfold Parts.text at hc
  rcases List.mem_append.mp hc with hc | hc
  · exact Text.isBlank_of_isDigit (h.whole c hc)
  rcases List.mem_append.mp hc with hc | hc
  · have part := h.part
    generalize p.part = ds at *
    cases ds with
    | nil => cases hc
    | cons d ds =>
      rcases List.mem_cons.mp hc with rfl | hc
      · decide
      · exact Text.isBlank_of_isDigit (part c hc)
  · cases hp : p.power with
    | none =>
      rw [hp] at hc
      cases hc
    | some e =>
      rw [hp] at hc
      rcases List.mem_cons.mp hc with rfl | hc
      · decide
      · rcases List.mem_cons.mp hc with rfl | hc
        · split <;> decide
        · exact Text.isBlank_of_isDigit (isDigit_of_mem_digitText hc)

theorem read_parts {p : Parts} (h : p.Proper) (negative : Bool) :
    Numeral.read (if negative then '-' :: p.text else p.text) =
      .decimal negative p.digits p.exponent := by
  obtain ⟨d, r, ht, hd⟩ := Parts.exists_digit_text h
  cases negative with
  | true =>
    refine Numeral.read_of_decimal (List.cons_ne_nil _ _) ?_ rfl (Parts.unsignedDecimal?_text h)
    intro c hc
    rcases List.mem_cons.mp hc with rfl | hc
    · decide
    · exact unblank_of_mem_text h hc
  | false =>
    refine Numeral.read_of_decimal ?_ (fun c hc => unblank_of_mem_text h hc) ?_
      (Parts.unsignedDecimal?_text h)
    · show p.text ≠ []
      rw [ht]
      exact List.cons_ne_nil _ _
    · show Numeral.signed p.text = _
      rw [ht]
      exact Numeral.signed_cons_digit hd r

end Decimal

namespace Json

/-- does a value tell a coordinate? What is not finite is null; else the value is a numeral, and what
it says rounds to the coordinate. -/
inductive Tells (x : Float) : Json → Prop where
  | nothing (h : x.isFinite = false) : Tells x .null
  | number {literal : String} {negative : Bool} {m n : Nat} {e k : Int}
      (parts : Binary64.ofFloat x = .finite negative m e)
      (reading : Numeral.read literal.toList = .decimal negative n k)
      (rounds : Decimal.Rounds (n * 10 ^ k) m e) : Tells x (.number literal)

theorem ofFloat_of_finite {x : Float} {negative : Bool} {m : Nat} {e : Int}
    (h : Binary64.ofFloat x = .finite negative m e) :
    ofFloat x = .number (String.ofList (if negative then '-' :: (Decimal.wireParts m e).text
      else (Decimal.wireParts m e).text)) := by
  unfold ofFloat
  rw [h, Decimal.text?_wire]

theorem ofFloat_of_not_finite {x : Float} (h : x.isFinite = false) : ofFloat x = .null := by
  have none (b : Binary64) (hb : ∀ negative m e, b ≠ .finite negative m e) :
      Decimal.text? .wire b = none := by
    cases b with
    | finite negative m e => exact absurd rfl (hb negative m e)
    | _ => rfl
  unfold ofFloat
  rw [none]
  intro negative m e hx
  rw [(Binary64.exists_finite_iff x).mpr ⟨negative, m, e, hx⟩] at h
  cases h

theorem tells_ofFloat (x : Float) : Tells x (ofFloat x) ∧ Printable (ofFloat x) := by
  cases hx : x.isFinite with
  | false =>
    rw [ofFloat_of_not_finite hx]
    exact ⟨.nothing hx, .null⟩
  | true =>
    obtain ⟨negative, m, e, parts⟩ := (Binary64.exists_finite_iff x).mp hx
    have normal := Binary64.parts_of_finite parts
    have proper := Decimal.proper_wireParts normal
    rw [ofFloat_of_finite parts]
    refine ⟨.number parts ?_ (Decimal.rounds_wireParts normal), .number ?_⟩
    · rw [String.toList_ofList]
      exact Decimal.read_parts proper negative
    · rw [String.toList_ofList]
      exact numeric_of_parts proper (Decimal.fits_wireParts normal) negative

/-- a value tells one finite coordinate, or that it is not finite -/
theorem Tells.unique {x y : Float} {v : Json} (hx : Tells x v) (hy : Tells y v) :
    x.isFinite = y.isFinite ∧ (x.isFinite = true → x = y) := by
  cases hx with
  | nothing h =>
    cases hy with
    | nothing h' => exact ⟨h.trans h'.symm, fun hf => by rw [h] at hf; cases hf⟩
  | number parts reading rounds =>
    cases hy with
    | number parts' reading' rounds' =>
      have finite := (Binary64.exists_finite_iff x).mpr ⟨_, _, _, parts⟩
      have finite' := (Binary64.exists_finite_iff y).mpr ⟨_, _, _, parts'⟩
      refine ⟨finite.trans finite'.symm, fun _ => ?_⟩
      cases reading.symm.trans reading'
      obtain ⟨rfl, rfl⟩ := Decimal.eq_of_rounds (Binary64.parts_of_finite parts)
        (Binary64.parts_of_finite parts') rounds rounds'
      exact Binary64.eq_of_ofFloat parts parts'

/-- **The text of a number is the text of this number only.** -/
theorem ofFloat_eq_iff (x y : Float) :
    ofFloat x = ofFloat y ↔ x.isFinite = y.isFinite ∧ (x.isFinite = true → x = y) := by
  constructor
  · intro same
    have told := (tells_ofFloat y).1
    rw [← same] at told
    exact (tells_ofFloat x).1.unique told
  · rintro ⟨kind, same⟩
    cases hx : x.isFinite with
    | true => rw [same hx]
    | false => rw [ofFloat_of_not_finite hx, ofFloat_of_not_finite (kind.symm.trans hx)]

end Json

end DroneFleet
