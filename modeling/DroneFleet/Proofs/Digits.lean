import DroneFleet.Command.Parser
import DroneFleet.Decimal.Layout
import Mathlib.Algebra.Group.Nat.Defs

/-!
# Numerals that were printed

An integer is printed without blanks, as an optional sign and its decimal digits. Whoever reads the
text finds this integer again: as a word of a command, as the integer a text begins with, and as a
number that fills a text.

* `Text.words_of_unblank`, `Text.trim_of_unblank`   a text without blanks
* `Decimal.isDigit_of_mem_digitText`      what an integer is printed with
* `Numeral.natOfDigits_append`            the number that two runs of digits denote
* `Numeral.natOfDigits_digitText`         printed digits denote their number
* `Numeral.leadingInteger?_integerText`   an integer in front of a text
* `Numeral.read_digitText`                a natural number that fills a text
-/

namespace DroneFleet

/-! ## texts without blanks -/

namespace Text

theorem isBlank_of_isDigit {c : Char} (h : c.isDigit = true) : isBlank c = false := by
  have hc : 48 ≤ c.toNat ∧ c.toNat ≤ 57 := by
    simp only [Char.isDigit, Bool.and_eq_true, decide_eq_true_eq] at h
    exact ⟨UInt32.le_iff_toNat_le.mp h.1, UInt32.le_iff_toNat_le.mp h.2⟩
  simp only [isBlank, blankRanges, List.any_cons, List.any_nil, Bool.or_false, Bool.or_eq_false_iff,
    Bool.and_eq_false_iff, decide_eq_false_iff_not]
  omega

theorem words_of_unblank {s : List Char} (hne : s ≠ []) (h : ∀ c ∈ s, isBlank c = false) :
    words s = [s] := by
  induction s with
  | nil => exact absurd rfl hne
  | cons c r ih =>
    rw [words_cons_word (h c List.mem_cons_self)]
    cases r with
    | nil => rfl
    | cons d r =>
      have hd : isBlank d = false := h d (by simp)
      rw [ih (List.cons_ne_nil d r) fun x hx => h x (List.mem_cons_of_mem _ hx)]
      show (if !isBlank d then _ else _) = _
      rw [hd]
      rfl

theorem trimStart_of_unblank {s : List Char} (h : ∀ c ∈ s, isBlank c = false) :
    trimStart s = s := by
  cases s with
  | nil => rfl
  | cons c r => exact trimStart_cons_word (h c List.mem_cons_self) r

theorem trim_of_unblank {s : List Char} (h : ∀ c ∈ s, isBlank c = false) : trim s = s := by
  have back : s.reverse.dropWhile isBlank = s.reverse :=
    trimStart_of_unblank fun c hc => h c (List.mem_reverse.mp hc)
  unfold trim trimEnd
  rw [trimStart_of_unblank h, back, List.reverse_reverse]

end Text

/-! ## digits -/

namespace Decimal

theorem digitText_ne_nil (n : Nat) : digitText n ≠ [] := Nat.toDigits_ne_nil

theorem isDigit_of_mem_digitText {n : Nat} {c : Char} (h : c ∈ digitText n) : c.isDigit = true :=
  Nat.isDigit_of_mem_toDigits (by decide) (by decide) h

theorem unblank_of_mem_integerText {n : Int} {c : Char} (h : c ∈ integerText n) :
    Text.isBlank c = false := by
  unfold integerText at h
  split at h
  · rcases List.mem_cons.mp h with rfl | h
    · decide
    · exact Text.isBlank_of_isDigit (isDigit_of_mem_digitText h)
  · exact Text.isBlank_of_isDigit (isDigit_of_mem_digitText h)

theorem integerText_ne_nil (n : Int) : integerText n ≠ [] := by
  unfold integerText
  split
  · exact List.cons_ne_nil _ _
  · exact digitText_ne_nil _

theorem integerText_natCast (n : Nat) : integerText n = digitText n := by
  unfold integerText
  rw [if_neg (by omega), Int.natAbs_natCast]

end Decimal

namespace Numeral

theorem natOfDigits_eq (ds : List Char) : natOfDigits ds = Nat.ofDigitChars 10 ds 0 := rfl

theorem natOfDigits_append (as bs : List Char) :
    natOfDigits (as ++ bs) = natOfDigits as * 10 ^ bs.length + natOfDigits bs := by
  rw [natOfDigits_eq, Nat.ofDigitChars_append, Nat.ofDigitChars_eq_ofDigitChars_zero,
    Nat.mul_comm]
  rfl

theorem natOfDigits_digitText (n : Nat) : natOfDigits (Decimal.digitText n) = n :=
  Nat.ofDigitChars_ten_toDigits

theorem signed_cons_digit {d : Char} (h : d.isDigit = true) (r : List Char) :
    signed (d :: r) = (false, d :: r) := by
  unfold signed
  split
  · rename_i h'
    rw [(List.cons.inj h').1] at h
    cases h
  · rename_i h'
    rw [(List.cons.inj h').1] at h
    cases h
  · rfl

/-- does a text go on with something else than a digit, or end? -/
def NoDigitAhead (r : List Char) : Prop := ∀ c ∈ r.head?, c.isDigit = false

theorem noDigitAhead_nil : NoDigitAhead [] := nofun

theorem noDigitAhead_cons {c : Char} (h : c.isDigit = false) (r : List Char) :
    NoDigitAhead (c :: r) := by
  intro d hd
  cases hd
  exact h

section
variable {ds r : List Char}

theorem takeWhile_digits (hd : ∀ c ∈ ds, c.isDigit = true) (hr : NoDigitAhead r) :
    (ds ++ r).takeWhile Char.isDigit = ds := by
  have rest : r.takeWhile Char.isDigit = [] := by
    cases r with
    | nil => rfl
    | cons c r => rw [List.takeWhile_cons, hr c rfl]; rfl
  rw [List.takeWhile_append_of_pos hd, rest, List.append_nil]

theorem dropWhile_digits (hd : ∀ c ∈ ds, c.isDigit = true) (hr : NoDigitAhead r) :
    (ds ++ r).dropWhile Char.isDigit = r := by
  have rest : r.dropWhile Char.isDigit = r := by
    cases r with
    | nil => rfl
    | cons c r => rw [List.dropWhile_cons, hr c rfl]; rfl
  rw [List.dropWhile_append_of_pos hd, rest]

end

/-! ## what was printed is read -/

theorem signed_integerText (n : Int) (r : List Char) :
    signed (Decimal.integerText n ++ r) = (decide (n < 0), Decimal.digitText n.natAbs ++ r) := by
  unfold Decimal.integerText
  by_cases hn : n < 0
  · rw [if_pos hn, decide_eq_true hn]
    rfl
  · rw [if_neg hn, decide_eq_false hn]
    cases hds : Decimal.digitText n.natAbs with
    | nil => exact absurd hds (Decimal.digitText_ne_nil _)
    | cons d ds =>
      have digit : d.isDigit = true :=
        Decimal.isDigit_of_mem_digitText (n := n.natAbs) (hds ▸ List.mem_cons_self)
      exact signed_cons_digit digit _

theorem withSign_natAbs (n : Int) : withSign (decide (n < 0)) n.natAbs = n := by
  unfold withSign
  by_cases hn : n < 0
  · rw [decide_eq_true hn]
    show -(n.natAbs : Int) = n
    omega
  · rw [decide_eq_false hn]
    show (n.natAbs : Int) = n
    omega

/-- an integer of 64 bits in front of a text is read again, if no digit follows -/
theorem leadingInteger?_integerText {n : Int} (hl : Word64.least ≤ n) (hg : n ≤ Word64.greatest)
    {r : List Char} (hr : NoDigitAhead r) : leadingInteger? (Decimal.integerText n ++ r) = some n := by
  have front : Text.trimStart (Decimal.integerText n ++ r) = Decimal.integerText n ++ r := by
    cases ht : Decimal.integerText n with
    | nil => exact absurd ht (Decimal.integerText_ne_nil n)
    | cons c t =>
      exact Text.trimStart_cons_word
        (Decimal.unblank_of_mem_integerText (n := n) (ht ▸ List.mem_cons_self)) _
  have digits : (Decimal.digitText n.natAbs ++ r).takeWhile Char.isDigit =
      Decimal.digitText n.natAbs :=
    takeWhile_digits (fun c hc => Decimal.isDigit_of_mem_digitText hc) hr
  unfold leadingInteger?
  rw [front, signed_integerText]
  dsimp only
  rw [digits]
  cases hds : Decimal.digitText n.natAbs with
  | nil => exact absurd hds (Decimal.digitText_ne_nil _)
  | cons d ds =>
    show some (Word64.clamp (withSign (decide (n < 0)) (natOfDigits (d :: ds)))) = some n
    rw [← hds, natOfDigits_digitText, withSign_natAbs, Word64.clamp_of_mem hl hg]

theorem read_of_decimal {t r : List Char} {negative : Bool} {n : Nat} {e : Int} (hne : t ≠ [])
    (unblank : ∀ c ∈ t, Text.isBlank c = false) (hs : signed t = (negative, r))
    (hd : unsignedDecimal? r = some (n, e)) : read t = .decimal negative n e := by
  have finite : r ≠ infinity := by
    intro h
    have none : unsignedDecimal? infinity = .none := by decide
    rw [h, none] at hd
    cases hd
  unfold read
  rw [Text.trim_of_unblank unblank]
  cases t with
  | nil => exact absurd rfl hne
  | cons c t =>
    simp only [hs, if_neg finite, hd]

/-- a natural number that fills a text is read again -/
theorem read_digitText (n : Nat) : read (Decimal.digitText n) = .decimal false n 0 := by
  have digits : ∀ c ∈ Decimal.digitText n, c.isDigit = true := fun c hc =>
    Decimal.isDigit_of_mem_digitText hc
  have whole := takeWhile_digits digits noDigitAhead_nil
  have behind := dropWhile_digits digits noDigitAhead_nil
  rw [List.append_nil] at whole behind
  have plain := signed_integerText n []
  rw [Decimal.integerText_natCast, Int.natAbs_natCast, decide_eq_false (by omega),
    List.append_nil] at plain
  refine read_of_decimal (Decimal.digitText_ne_nil n)
    (fun c hc => Text.isBlank_of_isDigit (digits c hc)) plain ?_
  unfold unsignedDecimal?
  rw [whole, behind]
  show (if Decimal.digitText n = [] ∧ ([] : List Char) = [] then none else
    some (natOfDigits (Decimal.digitText n ++ []), (0 : Int))) = _
  rw [if_neg fun h => Decimal.digitText_ne_nil n h.1, List.append_nil, natOfDigits_digitText]

end Numeral

end DroneFleet
