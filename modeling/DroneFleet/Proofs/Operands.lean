import DroneFleet.Proofs.Machine
import DroneFleet.Proofs.Nearest
import DroneFleet.Proofs.Numerals
import DroneFleet.Settings.Conversion
import Mathlib.Data.Nat.Digits.Defs

/-!
# What an operand is read as

An operand is read for the integer in front of it, or whole for a number. Both are said here for
every text: where the blanks end, which texts are numerals, and which number a numeral stands for.
Digits stand for a number by their places, and a decimal for the binary number nearest to it.

A number can also be read by a wider reader, which knows words for infinity in any case: texts with
letters are kept from it, and the one spelling of infinity that counts is rewritten for it.

* `Text.Trims`               a text without the blanks around it
* `Numeral.denoted`          the number that digits stand for by their places
* `Numeral.leadingInteger_iff`   which integer is read in front of a text, and when there is none
* `Numeral.Reads`            what a text without blanks around it is read as
* `Numeral.delegate`         the wider reader behind a filter
* `Numeral.number_of_text`   which number is read from a text
-/

namespace DroneFleet

/-! ## blanks around a text -/

namespace Text

/-- does a text begin with something else than a blank, or not at all? -/
def NoBlankAhead (t : List Char) : Prop := ∀ c ∈ t.head?, isBlank c = false

/-- is a text another one without the blanks at its start? -/
structure TrimsStart (s t : List Char) : Prop where
  split : ∃ b, (∀ c ∈ b, isBlank c = true) ∧ s = b ++ t
  front : NoBlankAhead t

/-- is a text another one without the blanks around it? -/
structure Trims (s t : List Char) : Prop where
  split : ∃ b b', (∀ c ∈ b, isBlank c = true) ∧ (∀ c ∈ b', isBlank c = true) ∧ s = b ++ (t ++ b')
  front : NoBlankAhead t
  back : NoBlankAhead t.reverse

section
variable {s : List Char}

theorem trimsStart_trimStart (s : List Char) : TrimsStart s (trimStart s) := by
  refine ⟨⟨s.takeWhile isBlank, List.all_eq_true.mp List.all_takeWhile, ?_⟩, ?_⟩
  · exact List.takeWhile_append_dropWhile.symm
  · intro c hc
    have head := List.head?_dropWhile_not isBlank s
    unfold trimStart at hc
    rw [hc] at head
    simpa using head

theorem trims_trim (s : List Char) : Trims s (trim s) := by
  obtain ⟨⟨b, hb, hs⟩, front⟩ := trimsStart_trimStart s
  obtain ⟨⟨b', hb', ht⟩, back⟩ := trimsStart_trimStart (trimStart s).reverse
  have split : trimStart s = trim s ++ b'.reverse := by
    have both := congrArg List.reverse ht
    rw [List.reverse_reverse, List.reverse_append] at both
    exact both
  refine ⟨⟨b, b'.reverse, hb, fun c hc => hb' c (List.mem_reverse.mp hc), split ▸ hs⟩, ?_, ?_⟩
  · intro c hc
    refine front c ?_
    rw [split]
    exact List.mem_head?_append_of_mem_head? hc
  · unfold trim trimEnd
    rw [List.reverse_reverse]
    exact back

end

end Text

namespace Numeral

/-! ## digits by their places -/

/-- the number that digits stand for by their places, the last one for ones -/
def denoted (ds : List Char) : Nat := Nat.ofDigits 10 (ds.reverse.map digitValue)

theorem natOfDigits_eq_denoted (ds : List Char) : natOfDigits ds = denoted ds := by
  induction ds using List.reverseRecOn with
  | nil => rfl
  | append_singleton ds c ih =>
    have last : natOfDigits [c] = digitValue c := by simp [natOfDigits]
    rw [natOfDigits_append, ih, last]
    simp only [denoted, List.reverse_append, List.reverse_cons, List.reverse_nil, List.nil_append,
      List.singleton_append, List.map_cons, Nat.ofDigits_cons, List.length_singleton, pow_one]
    omega

/-! ## the integer in front of a text -/

section
variable {s t : List Char} {n m : Int}

theorem begins_iff : Begins t n ↔ ∃ sign negative ds r, IsSign sign negative ∧ IsDigits ds ∧
    NoDigitAhead r ∧ t = sign ++ (ds ++ r) ∧ n = withSign negative (denoted ds) := by
  constructor
  · rintro ⟨hs, hd, hr⟩
    exact ⟨_, _, _, _, hs, hd, hr, rfl, by rw [natOfDigits_eq_denoted]⟩
  · rintro ⟨sign, negative, ds, r, hs, hd, hr, rfl, rfl⟩
    rw [← natOfDigits_eq_denoted]
    exact .intro hs hd hr

theorem exists_begins_iff : (∃ n, Begins t n) ↔
    ∃ sign negative d r, IsSign sign negative ∧ d.isDigit = true ∧ t = sign ++ d :: r := by
  constructor
  · rintro ⟨_, @⟨sign, ds, r, negative, hs, hd, -⟩⟩
    cases ds with
    | nil => exact absurd rfl hd.ne_nil
    | cons d ds => exact ⟨sign, negative, d, ds ++ r, hs, hd.digits d List.mem_cons_self, rfl⟩
  · rintro ⟨sign, negative, d, r, hs, hd, rfl⟩
    have digits : IsDigits ((d :: r).takeWhile Char.isDigit) := by
      refine ⟨?_, digits_takeWhile _⟩
      rw [List.takeWhile_cons, if_pos hd]
      exact List.cons_ne_nil _ _
    have begins := Begins.intro hs digits (noDigitAhead_dropWhile (d :: r))
    rw [List.takeWhile_append_dropWhile] at begins
    exact ⟨_, begins⟩

/-- **The integer in front of a text**: none is read if no digit stands behind blanks and a sign;
otherwise it is the one that all the digits there stand for, or the nearest of 64 bits. No cut goes
through a character, and an integer that is printed in front of a text is read again. -/
theorem leadingInteger_iff :
    (∀ s : List Char, Machine.leadingInteger s = .ok (leadingInteger? s) ∧
      Text.TrimsStart s (Text.trimStart s) ∧
      (leadingInteger? s = none ↔ ¬ ∃ sign negative d r, IsSign sign negative ∧
        d.isDigit = true ∧ Text.trimStart s = sign ++ d :: r) ∧
      ∀ m, leadingInteger? s = some m ↔ ∃ sign negative ds r, IsSign sign negative ∧
        IsDigits ds ∧ NoDigitAhead r ∧ Text.trimStart s = sign ++ (ds ++ r) ∧
        m = Word64.clamp (withSign negative (denoted ds))) ∧
    ∀ (n : Int) (r : List Char), Word64.least ≤ n → n ≤ Word64.greatest → NoDigitAhead r →
      leadingInteger? (Decimal.integerText n ++ r) = some n := by
  refine ⟨fun s => ⟨Machine.leadingInteger_eq s, Text.trimsStart_trimStart s, ?_, fun m => ?_⟩,
    fun n r hl hg hr => leadingInteger?_integerText hl hg hr⟩
  · rw [← exists_begins_iff, leadingInteger?_eq_none_iff]
    exact not_exists.symm
  · rw [leadingInteger?_eq_some_iff]
    constructor
    · rintro ⟨n, h, rfl⟩
      obtain ⟨sign, negative, ds, r, hs, hd, hr, ht, rfl⟩ := begins_iff.mp h
      exact ⟨sign, negative, ds, r, hs, hd, hr, ht, rfl⟩
    · rintro ⟨sign, negative, ds, r, hs, hd, hr, ht, rfl⟩
      exact ⟨_, begins_iff.mpr ⟨sign, negative, ds, r, hs, hd, hr, ht, rfl⟩, rfl⟩

end

/-- the least integer, with a digit of another script behind it -/
theorem leadingInteger_least : Word64.least ≤ Word64.least ∧ Word64.least ≤ Word64.greatest ∧
    NoDigitAhead "٣cm".toList ∧
    leadingInteger? (Decimal.integerText Word64.least ++ "٣cm".toList) = some Word64.least := by
  have least : Word64.least ≤ Word64.least := by decide
  have greatest : Word64.least ≤ Word64.greatest := by decide
  have ahead : NoDigitAhead "٣cm".toList := noDigitAhead_cons (c := '٣') (by decide) _
  exact ⟨least, greatest, ahead, leadingInteger_iff.2 _ _ least greatest ahead⟩

/-- zeros in front do not count, however many there are -/
example : leadingInteger? "\u3000-00000000000000000000000000000000000017deg".toList = some (-17) := by
  decide

/-! ## the number that a whole text is read as -/

/-- the amount of a decimal: the digits before its point, those behind it, and its power of ten -/
def amount (whole part : List Char) (e : Int) : ℚ :=
  (denoted whole + denoted part / 10 ^ part.length) * 10 ^ e

/-- what a text without blanks around it is read as: nothing is zero, a numeral the number nearest
to its amount, and all that is none is not a number -/
inductive Reads : List Char → Binary64 → Prop where
  | nothing : Reads [] (.finite false 0 (-1074))
  | infinite {sign : List Char} {negative : Bool} (hs : IsSign sign negative) :
    Reads (sign ++ infinity) (.infinite negative)
  | decimal {sign t x whole part : List Char} {negative : Bool} {e : Int} {b : Binary64}
      (hs : IsSign sign negative) (ht : IsPointed t whole part) (hx : IsPower x e)
      (hb : Binary64.Nearest negative (amount whole part e) b) :
    Reads (sign ++ (t ++ x)) b
  | other {t : List Char} (some : t ≠ []) (none : ∀ a, ¬ Fills t a) : Reads t .notANumber

section
variable {s : List Char}

theorem amount_eq (whole part : List Char) (e : Int) :
    (natOfDigits (whole ++ part) : ℚ) * 10 ^ (e - part.length) = amount whole part e := by
  have ten : (10 : ℚ) ^ part.length ≠ 0 := by positivity
  unfold amount
  rw [natOfDigits_append, natOfDigits_eq_denoted, natOfDigits_eq_denoted,
    zpow_sub₀ (by norm_num), zpow_natCast]
  push_cast
  field_simp

theorem ofFloat_toFloat_zero : Binary64.ofFloat (Reading.decimal false 0 0).toFloat =
    .finite false 0 (-1074) := by
  decide +kernel

theorem ofFloat_toFloat_notANumber : Binary64.ofFloat Reading.notANumber.toFloat = .notANumber := by
  decide +kernel

theorem ofFloat_toFloat_infinite (negative : Bool) :
    Binary64.ofFloat (Reading.infinite negative).toFloat = .infinite negative := by
  cases negative <;> decide +kernel

/-- the number of a decimal is the one nearest to its amount -/
theorem nearest_toFloat (negative : Bool) (whole part : List Char) (e : Int) :
    Binary64.Nearest negative (amount whole part e) (Binary64.ofFloat
      (Reading.decimal negative (natOfDigits (whole ++ part)) (e - part.length)).toFloat) := by
  have rounded := Binary64.rounded_nearest (natOfDigits (whole ++ part)) (e - part.length)
  rw [amount_eq] at rounded
  exact Binary64.nearest_of_rounded (Binary64.rounded_negateIf negative rounded)

theorem read_of_blank (h : Text.trim s = []) : read s = .decimal false 0 0 := by
  unfold read
  rw [h]

theorem reads_trim (s : List Char) : Reads (Text.trim s) (Binary64.ofFloat (toFloat s)) := by
  unfold toFloat
  by_cases blank : Text.trim s = []
  · rw [blank, read_of_blank blank, ofFloat_toFloat_zero]
    exact .nothing
  by_cases none : read s = .notANumber
  · rw [none, ofFloat_toFloat_notANumber]
    exact .other blank fun a fills => fills.ne_notANumber ((read_of_fills fills).symm.trans none)
  · have fills := fills_of_read blank none
    generalize read s = a at fills
    generalize Text.trim s = t at fills
    cases fills with
    | infinite hs =>
      rw [ofFloat_toFloat_infinite]
      exact .infinite hs
    | decimal hs ht hx => exact .decimal hs ht hx (nearest_toFloat _ _ _ _)

theorem eq_of_reads {b : Binary64} (h : Reads (Text.trim s) b) :
    b = Binary64.ofFloat (toFloat s) := by
  generalize ht : Text.trim s = t at h
  unfold toFloat
  cases h with
  | nothing => rw [read_of_blank ht, ofFloat_toFloat_zero]
  | infinite hs =>
    have fills := Fills.infinite hs
    rw [← ht] at fills
    rw [read_of_fills fills, ofFloat_toFloat_infinite]
  | decimal hs hp hx hb =>
    have fills := Fills.decimal hs hp hx
    rw [← ht] at fills
    rw [read_of_fills fills]
    exact hb.unique (nearest_toFloat _ _ _ _)
  | other some none =>
    rw [read_eq_notANumber (ht ▸ some) (ht ▸ none), ofFloat_toFloat_notANumber]

end

/-! ## what is no number -/

section
variable {t x whole part : List Char} {e : Int} {a : Reading}

def isMark (c : Char) : Bool := c.isDigit || ['+', '-', '.', 'e', 'E'].contains c

theorem IsSign.marks {sign : List Char} {negative : Bool} (h : IsSign sign negative) :
    ∀ c ∈ sign, isMark c = true := by
  cases h with
  | nothing => exact List.forall_mem_nil _
  | plus => exact List.forall_mem_singleton.mpr rfl
  | minus => exact List.forall_mem_singleton.mpr rfl

theorem isMark_of_isDigit {c : Char} (h : c.isDigit = true) : isMark c = true := by
  unfold isMark
  rw [h, Bool.true_or]

theorem IsPower.marks (h : IsPower x e) : ∀ c ∈ x, isMark c = true := by
  cases h with
  | nothing => exact List.forall_mem_nil _
  | written hm hs hd =>
    intro c hc
    rcases List.mem_cons.mp hc with rfl | hc
    · rcases hm with rfl | rfl <;> rfl
    rcases List.mem_append.mp hc with hc | hc
    · exact hs.marks c hc
    · exact isMark_of_isDigit (hd.digits c hc)

theorem IsPointed.marks (h : IsPointed t whole part) :
    (∀ c ∈ t, isMark c = true) ∧ ∃ c ∈ t, c.isDigit = true := by
  cases h with
  | whole hd =>
    obtain ⟨d, ds, rfl⟩ := List.exists_cons_of_ne_nil hd.ne_nil
    exact ⟨fun c hc => isMark_of_isDigit (hd.digits c hc), d, List.mem_cons_self,
      hd.digits d List.mem_cons_self⟩
  | point hw hp hne =>
    constructor
    · intro c hc
      rcases List.mem_append.mp hc with hc | hc
      · exact isMark_of_isDigit (hw c hc)
      rcases List.mem_cons.mp hc with rfl | hc
      · rfl
      · exact isMark_of_isDigit (hp c hc)
    · cases whole with
      | cons d whole => exact ⟨d, by simp, hw d List.mem_cons_self⟩
      | nil =>
        obtain ⟨d, part, rfl⟩ := List.exists_cons_of_ne_nil fun h => hne ⟨rfl, h⟩
        exact ⟨d, by simp, hp d List.mem_cons_self⟩

/-- a numeral that is not infinite consists of the characters of decimals, one of them a digit -/
theorem Fills.marks (h : Fills t a) :
    (∃ sign negative, IsSign sign negative ∧ t = sign ++ infinity) ∨
      (∀ c ∈ t, isMark c = true) ∧ ∃ c ∈ t, c.isDigit = true := by
  cases h with
  | infinite hs => exact Or.inl ⟨_, _, hs, rfl⟩
  | decimal hs ht hx =>
    obtain ⟨marks, d, hd, digit⟩ := ht.marks
    refine Or.inr ⟨fun c hc => ?_, d, by simp [hd], digit⟩
    rcases List.mem_append.mp hc with hc | hc
    · exact hs.marks c hc
    rcases List.mem_append.mp hc with hc | hc
    · exact marks c hc
    · exact hx.marks c hc

end

/-- a sign is not followed by another one -/
theorem Fills.one_sign {c d : Char} {r : List Char} {a : Reading} (h : Fills (c :: d :: r) a)
    (hc : c = '-' ∨ c = '+') : d ≠ '-' ∧ d ≠ '+' := by
  have behind {sign u : List Char} {negative : Bool} (hs : IsSign sign negative)
      (hu : NoSignAhead u) (split : c :: d :: r = sign ++ u) : d ≠ '-' ∧ d ≠ '+' := by
    cases hs with
    | nothing =>
      have first := hu c (by rw [← show c :: d :: r = u from split]; rfl)
      rcases hc with rfl | rfl
      · exact absurd rfl first.1
      · exact absurd rfl first.2
    | plus => exact hu d (by rw [← show d :: r = u from (List.cons.inj split).2]; rfl)
    | minus => exact hu d (by rw [← show d :: r = u from (List.cons.inj split).2]; rfl)
  generalize whole : c :: d :: r = t at h
  cases h with
  | infinite hs => exact behind hs (noSignAhead_cons (c := 'I') ⟨by decide, by decide⟩ _) whole
  | decimal hs ht hx => exact behind hs (ht.noSignAhead _) whole

/-! ## the wider reader -/

/-- the wider reader behind a filter: texts with letters are kept from it, but for the marks of
powers, and infinity is spelled as it knows it -/
def delegate (alphabetic : Char → Bool) (s : List Char) : Float :=
  let t := Text.trim s
  let r := (signed t).2
  if t = [] then 0.0
  else if r = infinity then
    (Setting.realOfText? (String.ofList (t.take (t.length - r.length) ++ "inf".toList))).getD
      Reading.notANumber.toFloat
  else if r.any fun c => alphabetic c && (c != 'e' && c != 'E') then Reading.notANumber.toFloat
  else (Setting.realOfText? (String.ofList t)).getD Reading.notANumber.toFloat

theorem eq_of_lowerChar {c d : Char} (h : Setting.lowerChar c = d) (hd : d ≠ 'k') :
    c = d ∨ c.toNat + 32 = d.toNat := by
  unfold Setting.lowerChar at h
  split at h
  · exact absurd h.symm hd
  · unfold Char.toLower at h
    split at h
    · rename_i upper
      have bound : c.val.toNat ≤ 90 := UInt32.le_iff_toNat_le.mp upper.2
      refine Or.inr ?_
      rw [← h]
      show c.val.toNat + 32 = (c.val + 32).toNat
      rw [UInt32.toNat_add]
      show c.val.toNat + 32 = (c.val.toNat + 32) % 2 ^ 32
      omega
    · exact Or.inl h

theorem isAlpha_of_lowerChar {c d : Char} (h : Setting.lowerChar c = d) (hd : d = 'i' ∨ d = 'n') :
    c.toNat < 128 ∧ c.isAlpha = true ∧ c ≠ 'e' ∧ c ≠ 'E' := by
  have cases : c = 'i' ∨ c = 'I' ∨ c = 'n' ∨ c = 'N' := by
    simp only [← Char.toNat_inj]
    rcases hd with rfl | rfl
    · rcases eq_of_lowerChar h (by decide) with rfl | upper
      · exact Or.inl rfl
      · exact Or.inr (Or.inl (Nat.add_right_cancel (m := 32) upper))
    · rcases eq_of_lowerChar h (by decide) with rfl | upper
      · exact Or.inr (Or.inr (Or.inl rfl))
      · exact Or.inr (Or.inr (Or.inr (Nat.add_right_cancel (m := 32) upper)))
  rcases cases with rfl | rfl | rfl | rfl <;> decide

theorem isAlpha_of_isMark {c : Char} (h : isMark c = true) :
    c.toNat < 128 ∧ (c.isAlpha = true → c = 'e' ∨ c = 'E') := by
  rcases Bool.or_eq_true _ _ ▸ h with digit | mark
  · have range := Char.isDigit_iff_toNat.mp digit
    have zero : '0'.toNat = 48 := rfl
    have nine : '9'.toNat = 57 := rfl
    refine ⟨by omega, fun alpha => ?_⟩
    have value : c.val.toNat = c.toNat := rfl
    rcases Bool.or_eq_true _ _ ▸ alpha with upper | lower
    · have least : 65 ≤ c.val.toNat := UInt32.le_iff_toNat_le.mp (of_decide_eq_true upper).1
      omega
    · have lower : decide ('a'.val ≤ c.val) = true := (Bool.and_eq_true _ _ ▸ lower : _ ∧ _).1
      have least : 97 ≤ c.val.toNat := UInt32.le_iff_toNat_le.mp (of_decide_eq_true lower)
      omega
  · simp only [List.contains_eq_mem, List.mem_cons, List.not_mem_nil, or_false,
      decide_eq_true_eq] at mark
    rcases mark with rfl | rfl | rfl | rfl | rfl <;> decide

section
variable {alphabetic : Char → Bool} {s r : List Char}

/-- a text that is kept from the wider reader is no decimal -/
theorem unsignedDecimal?_of_letters (agrees : ∀ c, c.toNat < 128 → alphabetic c = c.isAlpha)
    (letters : r.any fun c => alphabetic c && (c != 'e' && c != 'E')) : unsignedDecimal? r = none := by
  obtain ⟨c, hc, letter⟩ := List.any_eq_true.mp letters
  simp only [Bool.and_eq_true, bne_iff_ne] at letter
  by_contra some
  obtain ⟨⟨n, e⟩, hd⟩ := Option.ne_none_iff_exists'.mp some
  obtain ⟨t, x, whole, part, p, rfl, pointed, power, -, -⟩ := exists_isPointed hd
  have mark : isMark c = true := by
    rcases List.mem_append.mp hc with hc | hc
    · exact pointed.marks.1 c hc
    · exact power.marks c hc
  obtain ⟨ascii, only⟩ := isAlpha_of_isMark mark
  rw [agrees c ascii] at letter
  rcases only letter.1 with rfl | rfl
  · exact letter.2.1 rfl
  · exact letter.2.2 rfl

theorem fold_ne_of_no_letters (agrees : ∀ c, c.toNat < 128 → alphabetic c = c.isAlpha)
    (letters : ¬ r.any fun c => alphabetic c && (c != 'e' && c != 'E')) {word : String} {d : Char}
    (hw : word.toList.head? = some d) (hd : d = 'i' ∨ d = 'n') :
    Setting.fold (String.ofList r) ≠ word := by
  intro same
  have chars : r.map Setting.lowerChar = word.toList := by
    rw [← same]
    simp [Setting.fold]
  cases r with
  | nil =>
    rw [← chars] at hw
    cases hw
  | cons c r =>
    rw [← chars] at hw
    have first : Setting.lowerChar c = d := Option.some.inj hw
    obtain ⟨ascii, alpha, e, E⟩ := isAlpha_of_lowerChar first hd
    refine letters (List.any_eq_true.mpr ⟨c, List.mem_cons_self, ?_⟩)
    simp only [Bool.and_eq_true, bne_iff_ne]
    exact ⟨(agrees c ascii).trans alpha, e, E⟩

/-- the wider reader behind the filter reads what is read without it -/
theorem delegate_eq (agrees : ∀ c, c.toNat < 128 → alphabetic c = c.isAlpha) (s : List Char) :
    delegate alphabetic s = toFloat s := by
  unfold delegate toFloat
  by_cases blank : Text.trim s = []
  · rw [read_of_blank blank, blank]
    rfl
  obtain ⟨sign, negative, r, hs, ht, hr⟩ := exists_sign (Text.trim s)
  rw [read_of_signed blank hr]
  dsimp only
  rw [hr, if_neg blank]
  dsimp only
  by_cases infinite : r = infinity
  · have front : (Text.trim s).take ((Text.trim s).length - r.length) = sign := by
      rw [ht, List.length_append, Nat.add_sub_cancel, List.take_left]
    have word : Setting.realOfText? (String.ofList (sign ++ "inf".toList)) =
        some (Reading.infinite negative).toFloat := by
      have ahead : NoSignAhead "inf".toList := noSignAhead_cons (c := 'i') ⟨by decide, by decide⟩ _
      unfold Setting.realOfText?
      rw [String.toList_ofList, signed_append hs ahead]
      exact if_pos (Or.inl (by decide))
    rw [if_pos infinite, if_pos infinite, front, word, Option.getD_some]
  rw [if_neg infinite, if_neg infinite]
  by_cases letters : r.any fun c => alphabetic c && (c != 'e' && c != 'E')
  · rw [if_pos letters, unsignedDecimal?_of_letters agrees letters]
  · have other {word : String} {d : Char} (hw : word.toList.head? = some d)
        (hd : d = 'i' ∨ d = 'n') : Setting.fold (String.ofList r) ≠ word :=
      fold_ne_of_no_letters agrees letters hw hd
    have none : ¬ (Setting.fold (String.ofList r) = "inf" ∨
        Setting.fold (String.ofList r) = "infinity") :=
      not_or.mpr ⟨other (d := 'i') rfl (Or.inl rfl), other (d := 'i') rfl (Or.inl rfl)⟩
    rw [if_neg letters]
    unfold Setting.realOfText?
    rw [String.toList_ofList, hr]
    dsimp only
    rw [if_neg none, if_neg (other (d := 'n') rfl (Or.inr rfl))]
    cases unsignedDecimal? r with
    | none => rfl
    | some p => rfl

end

/-! ## every text -/

/-- does a text have what no numeral has: a character that no decimal has, no digit at all, or two
signs in front? -/
inductive Spoilt : List Char → Prop where
  | character {t : List Char} {c : Char} (hc : c ∈ t) (h : isMark c = false) : Spoilt t
  | digits {t : List Char} (h : ∀ c ∈ t, c.isDigit = false) : Spoilt t
  | signs {c d : Char} {r : List Char} (hc : c = '-' ∨ c = '+') (hd : d = '-' ∨ d = '+') :
    Spoilt (c :: d :: r)

theorem Fills.not_spoilt {t : List Char} {a : Reading} (h : Fills t a)
    (finite : ∀ sign negative, IsSign sign negative → t ≠ sign ++ infinity) : ¬ Spoilt t := by
  intro spoilt
  cases spoilt with
  | character hc none =>
    rcases h.marks with ⟨sign, negative, hs, same⟩ | ⟨marks, -⟩
    · exact finite sign negative hs same
    · rw [marks _ hc] at none
      cases none
  | digits none =>
    rcases h.marks with ⟨sign, negative, hs, same⟩ | ⟨-, d, hd, digit⟩
    · exact finite sign negative hs same
    · rw [none d hd] at digit
      cases digit
  | signs hc hd =>
    obtain ⟨minus, plus⟩ := h.one_sign hc
    exact hd.elim minus plus

theorem Reads.eq_of_spoilt {t : List Char} {b : Binary64} (h : Reads t b) (some : t ≠ [])
    (finite : ∀ sign negative, IsSign sign negative → t ≠ sign ++ infinity) (spoilt : Spoilt t) :
    b = .notANumber := by
  cases h with
  | nothing => exact absurd rfl some
  | infinite hs => exact absurd rfl (finite _ _ hs)
  | decimal hs ht hx hb => exact absurd spoilt ((Fills.decimal hs ht hx).not_spoilt finite)
  | other some none => rfl

/-- **The number that a text is read as**: without the blanks around it nothing is zero, a numeral is
the number nearest to its amount, with its sign, and everything else is not a number; so is what has
a character that no decimal has, no digit, or two signs, unless it is infinity as it is spelled here.
The wider reader behind its filter reads the same. -/
theorem number_of_text (s : List Char) :
    Text.Trims s (Text.trim s) ∧
    (∀ b, Reads (Text.trim s) b ↔ b = Binary64.ofFloat (toFloat s)) ∧
    (Text.trim s ≠ [] → (∀ sign negative, IsSign sign negative → Text.trim s ≠ sign ++ infinity) →
      Spoilt (Text.trim s) → Binary64.ofFloat (toFloat s) = .notANumber) ∧
    ∀ alphabetic : Char → Bool, (∀ c, c.toNat < 128 → alphabetic c = c.isAlpha) →
      delegate alphabetic s = toFloat s := by
  have reads := reads_trim s
  refine ⟨Text.trims_trim s, fun b => ⟨eq_of_reads, ?_⟩, reads.eq_of_spoilt,
    fun _ agrees => delegate_eq agrees s⟩
  rintro rfl
  exact reads

/-- a word for infinity in another case is kept from the wider reader, and is not a number -/
theorem number_of_word : Text.trim "\u3000-iNF\n".toList ≠ [] ∧
    (∀ sign negative, IsSign sign negative →
      Text.trim "\u3000-iNF\n".toList ≠ sign ++ infinity) ∧
    Spoilt (Text.trim "\u3000-iNF\n".toList) ∧
    (∀ c : Char, c.toNat < 128 → c.isAlpha = c.isAlpha) ∧
    Binary64.ofFloat (toFloat "\u3000-iNF\n".toList) = .notANumber ∧
    delegate Char.isAlpha "\u3000-iNF\n".toList = toFloat "\u3000-iNF\n".toList := by
  have some : Text.trim "\u3000-iNF\n".toList ≠ [] := by decide
  have finite : ∀ sign negative, IsSign sign negative →
      Text.trim "\u3000-iNF\n".toList ≠ sign ++ infinity := by
    intro sign negative hs
    cases hs <;> decide
  have spoilt : Spoilt (Text.trim "\u3000-iNF\n".toList) := .character (c := 'i') (by decide) rfl
  have agrees : ∀ c : Char, c.toNat < 128 → c.isAlpha = c.isAlpha := fun _ _ => rfl
  obtain ⟨-, -, word, filter⟩ := number_of_text "\u3000-iNF\n".toList
  exact ⟨some, finite, spoilt, agrees, word some finite spoilt, filter _ agrees⟩

/-- half of the least number is zero, and what is half a step above the greatest is infinite -/
example : Binary64.ofFloat (toFloat "-2.4703282292062327e-324".toList) = .finite true 0 (-1074) ∧
    Binary64.ofFloat (toFloat "1.7976931348623159e308".toList) = .infinite false := by
  decide +kernel

end Numeral

end DroneFleet
