import DroneFleet.Point
import Mathlib.Algebra.Group.Nat.Defs

/-!
# Coordinates that stay where they are

A coordinate is a binary number of 64 bits: its parts are taken out of the bits, an operation works
on the parts, and the result is put into bits again. Taking out and putting in change nothing, so a
displacement of zero leaves every coordinate as a number: only the sign of a zero can get lost.

* `Coordinate.Same`          one number, or no number on either side
* `Coordinate.pack_unpack`   the parts of a number make this number
* `Coordinate.same_add_zero`   a coordinate after a displacement of zero
* `Point.Same`, `Point.same_translate_origin`   the same for points
-/

namespace DroneFleet

namespace Coordinate

open Float.Model Float.Model.UnpackedFloat

/-- are two coordinates the same number, or both not a number? -/
def Same (x y : Float) : Prop := (x == y) = true ∨ x.isNaN = true ∧ y.isNaN = true

/-! ## the parts of a number -/

section
variable {b : BitVec Format.binary64.numBits}

theorem packComponents_unpack (b : BitVec Format.binary64.numBits) :
    packComponents .binary64 (.ofBitVec (unpackSign b)) (unpackExponent b) (unpackMantissa b) =
      b := by
  have sign : Sign.toBitVec (.ofBitVec (unpackSign b)) = unpackSign b := by
    generalize unpackSign b = s
    revert s
    decide
  unfold packComponents
  rw [sign]
  show BitVec.extractLsb' 63 1 b ++ BitVec.extractLsb' 52 11 b ++ BitVec.extractLsb' 0 52 b = b
  rw [BitVec.extractLsb'_append_extractLsb'_eq_extractLsb' (show 63 = 52 + 11 from rfl),
    BitVec.extractLsb'_append_extractLsb'_eq_extractLsb' (show 52 = 0 + 52 from rfl)]
  exact BitVec.extractLsb'_eq_self

theorem packComponents_of_parts {e : BitVec 11} {m : BitVec 52} (he : unpackExponent b = e)
    (hm : unpackMantissa b = m) :
    packComponents .binary64 (.ofBitVec (unpackSign b)) e m = b := by
  rw [← he, ← hm]
  exact packComponents_unpack b

theorem log2_lt_of_fraction {m : BitVec 52} (h : m ≠ 0#52) : m.toNat.log2 < 52 := by
  have hm : m.toNat ≠ 0 := fun h0 => h (BitVec.eq_of_toNat_eq h0)
  exact (Nat.log2_lt hm).mpr m.isLt

theorem toNat_hidden (m : BitVec 52) : (1#1 ++ m).toNat = 2 ^ 52 + m.toNat := by
  rw [BitVec.toNat_append, ← Nat.shiftLeft_add_eq_or_of_lt m.isLt]
  rfl

theorem log2_of_hidden (m : BitVec 52) : (1#1 ++ m).toNat.log2 = 52 := by
  have hm := m.isLt
  have hidden := toNat_hidden m
  have h1 : 52 ≤ (1#1 ++ m).toNat.log2 := (Nat.le_log2 (by omega)).mpr (by omega)
  have h2 : (1#1 ++ m).toNat.log2 < 53 := (Nat.log2_lt (by omega)).mpr (by omega)
  omega

theorem pack_subnormal (s : Sign) {m : Nat} (hm : 0 < m) (hlog : m.log2 < 52) :
    UnpackedFloat.pack .binary64 (.finite s m (-1074) hm) =
      packComponents .binary64 s 0#11 (.ofNat 52 m) := by
  have short : ¬ m.log2 + 1 = 53 := by omega
  show (if 2048 ≤ 1 + 1 then packedInfinity .binary64 s else
    if m.log2 + 1 = 53 then packComponents .binary64 s (.ofNat 11 1) (.ofNat 52 m)
    else packComponents .binary64 s 0#11 (.ofNat 52 m)) = _
  rw [if_neg (by decide), if_neg short]

theorem pack_normal (s : Sign) {m : Nat} (hm : 0 < m) (hlog : m.log2 = 52) {e : Nat}
    (he : e < 2047) :
    UnpackedFloat.pack .binary64 (.finite s m ((e : Int) - 1075) hm) =
      packComponents .binary64 s (.ofNat 11 e) (.ofNat 52 m) := by
  have biased : ((e : Int) - 1075 + 1023 + 52).toNat = e := by omega
  show (if 2048 ≤ ((e : Int) - 1075 + 1023 + 52).toNat + 1 then packedInfinity .binary64 s else
    if m.log2 + 1 = 53 then
      packComponents .binary64 s (.ofNat 11 ((e : Int) - 1075 + 1023 + 52).toNat) (.ofNat 52 m)
    else packComponents .binary64 s 0#11 (.ofNat 52 m)) = _
  rw [biased, if_neg (by omega), if_pos (by omega)]

theorem pack_unpack_of_valid (h : Format.binary64.Valid b) :
    UnpackedFloat.pack .binary64 (UnpackedFloat.unpack .binary64 b) = b := by
  unfold UnpackedFloat.unpack
  by_cases he : unpackExponent b = -1#11
  · rw [if_pos he]
    by_cases hm : unpackMantissa b = 0#52
    · rw [if_pos hm]
      exact packComponents_of_parts he hm
    · rw [if_neg hm]
      exact (h.eq_packedNaN he hm).symm
  · rw [if_neg he]
    by_cases hz : unpackExponent b = 0#11
    · rw [if_pos hz]
      by_cases hm : unpackMantissa b = 0#52
      · rw [dif_pos hm]
        exact packComponents_of_parts hz hm
      · rw [dif_neg hm]
        have positive : 0 < (unpackMantissa b).toNat :=
          Nat.pos_of_ne_zero fun h0 => hm (BitVec.eq_of_toNat_eq h0)
        have least : ((unpackExponent b).toNat : Int) - (1023 + 52) + 1 = -1074 := by
          rw [hz]
          rfl
        have packed := pack_subnormal (.ofBitVec (unpackSign b)) positive (log2_lt_of_fraction hm)
        rw [← least, BitVec.ofNat_toNat, BitVec.setWidth_eq] at packed
        exact packed.trans (packComponents_of_parts hz rfl)
    · rw [if_neg hz]
      have finite : (unpackExponent b).toNat ≠ 2047 := fun h => he (BitVec.eq_of_toNat_eq h)
      have bound : (unpackExponent b).toNat < 2048 := (unpackExponent b).isLt
      have fraction : BitVec.ofNat 52 (1#1 ++ unpackMantissa b).toNat = unpackMantissa b := by
        apply BitVec.eq_of_toNat_eq
        rw [BitVec.toNat_ofNat, toNat_hidden, Nat.add_mod_left]
        exact Nat.mod_eq_of_lt (unpackMantissa b).isLt
      have packed := pack_normal (.ofBitVec (unpackSign b)) (m := (1#1 ++ unpackMantissa b).toNat)
        (by rw [toNat_hidden]; omega) (log2_of_hidden _) (e := (unpackExponent b).toNat) (by omega)
      rw [fraction, BitVec.ofNat_toNat, BitVec.setWidth_eq] at packed
      exact packed.trans (packComponents_of_parts rfl rfl)

theorem pack_unpack (m : Float.Model) : Float.Model.pack m.unpack = m := by
  obtain ⟨bits, valid⟩ := m
  have h : (Float.Model.pack (Float.Model.unpack ⟨bits, valid⟩)).toBits = bits :=
    congrArg UInt64.ofBitVec (pack_unpack_of_valid valid)
  generalize Float.Model.pack (Float.Model.unpack ⟨bits, valid⟩) = packed at h ⊢
  cases packed
  subst h
  rfl

end

/-! ## a displacement of zero -/

theorem unpack_zero : (0.0 : Float).toModel.unpack = .zero .positive := by
  have zero : (0.0 : Float) = .ofModel (.pack (.zero .positive)) := by decide +kernel
  rw [zero]
  rfl

theorem compare_self {u : UnpackedFloat} (h : u.isNaN = false) : u.compare u = some .eq := by
  cases u with
  | notANumber => cases h
  | infinity s => cases s <;> rfl
  | zero s => rfl
  | finite s m e hm =>
    have same : (compare e e).then (compare m m) = .eq := by
      rw [Std.compare_self, Std.compare_self]
      rfl
    cases s with
    | negative =>
      show some ((compare e e).then (compare m m)).swap = _
      rw [same]
      rfl
    | positive =>
      show some ((compare e e).then (compare m m)) = _
      rw [same]

theorem same_self (x : Float) : Same x x := by
  cases h : x.isNaN with
  | true => exact Or.inr ⟨h, h⟩
  | false =>
    refine Or.inl ?_
    show (x.toModel.unpack.compare x.toModel.unpack == some .eq) = true
    rw [compare_self h]
    rfl

/-- a coordinate stays where it is if nothing is added; a negative zero becomes a positive one -/
theorem same_add_zero (x : Float) : Same (x + 0.0) x := by
  have sum : x + 0.0 =
      .ofModel (.pack (x.toModel.unpack.add .binary64 (0.0 : Float).toModel.unpack)) := rfl
  rw [unpack_zero] at sum
  have back : Float.ofModel (.pack x.toModel.unpack) = x := by rw [pack_unpack]
  cases hx : x.toModel.unpack with
  | zero s =>
    have zero : Float.ofModel (.pack (.zero s)) = x := by rw [← hx, back]
    rw [hx] at sum
    rw [sum, ← zero]
    cases s <;> exact Or.inl (by decide +kernel)
  | notANumber =>
    have nan : Float.ofModel (.pack .notANumber) = x := by rw [← hx, back]
    rw [hx] at sum
    rw [sum, ← nan]
    exact same_self _
  | infinity s =>
    have same : x + 0.0 = x := by
      rw [sum, hx]
      show Float.ofModel (.pack (.infinity s)) = x
      rw [← hx, back]
    rw [same]
    exact same_self x
  | finite s m e hm =>
    have same : x + 0.0 = x := by
      rw [sum, hx]
      show Float.ofModel (.pack (.finite s m e hm)) = x
      rw [← hx, back]
    rw [same]
    exact same_self x

end Coordinate

namespace Point

structure Same (p q : Point Float) : Prop where
  x : Coordinate.Same p.x q.x
  y : Coordinate.Same p.y q.y
  z : Coordinate.Same p.z q.z

theorem same_translate_origin (p : Point Float) : (p.translate .origin).Same p where
  x := Coordinate.same_add_zero p.x
  y := Coordinate.same_add_zero p.y
  z := Coordinate.same_add_zero p.z

end Point

end DroneFleet
