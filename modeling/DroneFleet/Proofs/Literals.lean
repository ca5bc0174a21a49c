import DroneFleet.Proofs.Digits
import DroneFleet.Proofs.Roundtrip

/-!
# Numerals taken apart

A numeral has digits, digits after a point, and a power of ten, and every reader takes it apart in this
way: the one of JSON, the one that looks whether a number fits, and the one of a number that fills a
text.

* `Numeral.Parts`                  the parts of a numeral without sign
* `Numeral.Parts.unsigned?_text`   it is a number of JSON
* `Numeral.Parts.ofText_text`      the amount that it stands for
* `Numeral.Parts.unsignedDecimal?_text`   its digits and its power of ten
* `Decimal.head_digitText`         a printed number begins with no zero
* `Json.numeric_integerText`       a printed integer is a number of JSON
-/

namespace DroneFleet

namespace Numeral

/-- the parts of a numeral without sign -/
structure Parts where
  whole : List Char
  part : List Char
  power : Option Int

namespace Parts

open Decimal (exponentText digitText)

def pointText : List Char → List Char
  | [] => []
  | d :: ds => '.' :: d :: ds

def powerText : Option Int → List Char
  | none => []
  | some e => exponentText e

def text (p : Parts) : List Char := p.whole ++ (pointText p.part ++ powerText p.power)

def digits (p : Parts) : Nat := natOfDigits (p.whole ++ p.part)

def exponent (p : Parts) : Int := p.power.getD 0 - p.part.length

/-- digits on both sides of the point, and no zero in front of others -/
structure Proper (p : Parts) : Prop where
  whole : ∀ c ∈ p.whole, c.isDigit = true
  part : ∀ c ∈ p.part, c.isDigit = true
  nonempty : p.whole ≠ []
  front : p.whole = ['0'] ∨ p.whole.head? ≠ some '0'

section
variable {p : Parts}

theorem noDigitAhead_power (x : Option Int) {r : List Char} (hr : NoDigitAhead r) :
    NoDigitAhead (powerText x ++ r) := by
  cases x with
  | none => exact hr
  | some e => exact noDigitAhead_cons (by decide) _

theorem noDigitAhead_point (ds : List Char) (x : Option Int) {r : List Char} (hr : NoDigitAhead r) :
    NoDigitAhead (pointText ds ++ (powerText x ++ r)) := by
  cases ds with
  | nil => exact noDigitAhead_power x hr
  | cons d ds => exact noDigitAhead_cons (by decide) _

theorem text_append (p : Parts) (r : List Char) :
    p.text ++ r = p.whole ++ (pointText p.part ++ (powerText p.power ++ r)) := by
  unfold text
  rw [List.append_assoc, List.append_assoc]

theorem exists_digit_text (h : p.Proper) : ∃ d r, p.text = d :: r ∧ d.isDigit = true := by
  unfold text
  cases hw : p.whole with
  | nil => exact absurd hw h.nonempty
  | cons d ds => exact ⟨d, _, rfl, h.whole d (hw ▸ List.mem_cons_self)⟩

/-! ## a number that fills a text -/

theorem exponent?_powerText (x : Option Int) : exponent? (powerText x) = some (x.getD 0) := by
  cases x with
  | none => rfl
  | some e =>
    have sign : signed ((if e < 0 then '-' else '+') :: digitText e.natAbs) =
        (decide (e < 0), digitText e.natAbs) := by
      by_cases he : e < 0
      · rw [if_pos he, decide_eq_true he]
        rfl
      · rw [if_neg he, decide_eq_false he]
        rfl
    have all : (digitText e.natAbs).all Char.isDigit = true :=
      List.all_eq_true.mpr fun c hc => Decimal.isDigit_of_mem_digitText hc
    show exponent? ('e' :: (if e < 0 then '-' else '+') :: digitText e.natAbs) = some e
    simp only [exponent?, true_or, if_true, sign, all, and_true, ne_eq, Decimal.digitText_ne_nil,
      not_false_eq_true, natOfDigits_digitText, withSign_natAbs]

theorem fraction_text (h : p.Proper) :
    fraction (pointText p.part ++ powerText p.power) = (p.part, powerText p.power) := by
  have behind := noDigitAhead_power p.power noDigitAhead_nil
  rw [List.append_nil] at behind
  cases hp : p.part with
  | nil =>
    cases p.power with
    | none => rfl
    | some e => rfl
  | cons d ds =>
    have digits : ∀ c ∈ d :: ds, c.isDigit = true := hp ▸ h.part
    show ((d :: ds ++ powerText p.power).takeWhile Char.isDigit,
      (d :: ds ++ powerText p.power).dropWhile Char.isDigit) = _
    rw [takeWhile_digits digits behind, dropWhile_digits digits behind]

theorem unsignedDecimal?_text (h : p.Proper) :
    unsignedDecimal? p.text = some (p.digits, p.exponent) := by
  have behind := noDigitAhead_point p.part p.power noDigitAhead_nil
  rw [List.append_nil] at behind
  unfold unsignedDecimal? text
  rw [takeWhile_digits h.whole behind, dropWhile_digits h.whole behind, fraction_text h]
  dsimp only
  rw [if_neg fun hn => h.nonempty hn.1, exponent?_powerText]
  rfl

/-! ## a number of JSON -/

theorem digits?_append {ds r : List Char} (hne : ds ≠ []) (hd : ∀ c ∈ ds, c.isDigit = true)
    (hr : NoDigitAhead r) : Json.digits? (ds ++ r) = some (ds, r) := by
  unfold Json.digits?
  rw [takeWhile_digits hd hr, dropWhile_digits hd hr]
  cases ds with
  | nil => exact absurd rfl hne
  | cons d ds => rfl

theorem whole?_append (h : p.Proper) {r : List Char} (hr : NoDigitAhead r) :
    Json.whole? (p.whole ++ r) = some (p.whole, r) := by
  rcases h.front with front | front
  · rw [front]
    cases r with
    | nil => rfl
    | cons c r =>
      have hc : c.isDigit = false := hr c rfl
      show (if c.isDigit = true then none else some (['0'], c :: r)) = _
      rw [hc]
      rfl
  · rw [← digits?_append h.nonempty h.whole hr]
    cases hw : p.whole with
    | nil => exact absurd hw h.nonempty
    | cons d ds =>
      rw [hw] at front
      have other : d ≠ '0' := fun hd => front (by rw [hd]; rfl)
      rw [List.cons_append]
      unfold Json.whole?
      split
      · rename_i heq
        exact absurd (List.cons.inj heq).1 other
      · rfl

theorem noDigitAhead_of_ends {r : List Char} (hr : Json.Ends r) : NoDigitAhead r := by
  intro c hc
  rcases hr c hc with rfl | rfl | rfl <;> decide

theorem power?_append (x : Option Int) {r : List Char} (hr : Json.Ends r) :
    Json.power? (powerText x ++ r) = some (powerText x, r) := by
  cases x with
  | none =>
    cases r with
    | nil => rfl
    | cons c r =>
      have other : ¬ (c = 'e' ∨ c = 'E') := by
        rcases hr c rfl with rfl | rfl | rfl <;> decide
      exact if_neg other
  | some e =>
    have digits := digits?_append (Decimal.digitText_ne_nil e.natAbs)
      (fun c hc => Decimal.isDigit_of_mem_digitText hc) (noDigitAhead_of_ends hr)
    by_cases he : e < 0
    · simp only [powerText, exponentText, if_pos he, List.cons_append, Json.power?, true_or, if_true,
        or_true, digits, Option.map_some]
    · simp only [powerText, exponentText, if_neg he, List.cons_append, Json.power?, true_or, if_true,
        digits, Option.map_some]

theorem point?_append (h : p.Proper) {r : List Char} (hr : Json.Ends r) :
    Json.point? (pointText p.part ++ (powerText p.power ++ r)) =
      some (pointText p.part, powerText p.power ++ r) := by
  have behind := noDigitAhead_power p.power (noDigitAhead_of_ends hr)
  cases hp : p.part with
  | nil =>
    cases p.power with
    | some e => rfl
    | none =>
      cases r with
      | nil => rfl
      | cons c r =>
        have other : c ≠ '.' := by
          rcases hr c rfl with rfl | rfl | rfl <;> decide
        show Json.point? (c :: r) = some ([], c :: r)
        unfold Json.point?
        split
        · rename_i heq
          exact absurd (List.cons.inj heq).1 other
        · rfl
  | cons d ds =>
    have digits := digits?_append (List.cons_ne_nil d ds) (hp ▸ h.part) behind
    show (Json.digits? (d :: ds ++ (powerText p.power ++ r))).map _ = _
    rw [digits]
    rfl

theorem unsigned?_text (h : p.Proper) {r : List Char} (hr : Json.Ends r) :
    Json.unsigned? (p.text ++ r) = some (p.text, r) := by
  have whole := whole?_append h (noDigitAhead_point p.part p.power (noDigitAhead_of_ends hr))
  unfold Json.unsigned?
  rw [text_append, whole]
  show ((Json.point? (pointText p.part ++ (powerText p.power ++ r))).bind fun x => _) = _
  rw [point?_append h hr]
  show ((Json.power? (powerText p.power ++ r)).bind fun x => _) = _
  rw [power?_append p.power hr]
  rfl

/-! ## its amount -/

theorem le_foldl_digits (ds : List Char) (n : Nat) :
    n ≤ ds.foldl (fun n c => 10 * n + digitValue c) n := by
  induction ds generalizing n with
  | nil => exact Nat.le_refl n
  | cons d ds ih => exact Nat.le_trans (by omega) (ih (10 * n + digitValue d))

theorem takeDigits_of_le {ds : List Char} {n : Nat}
    (h : ds.foldl (fun n c => 10 * n + digitValue c) n ≤ 0xFFFFFFFFFFFFFFFF) :
    Json.takeDigits n ds = (ds.foldl (fun n c => 10 * n + digitValue c) n, []) := by
  induction ds generalizing n with
  | nil => rfl
  | cons d ds ih =>
    have first : 10 * n + digitValue d ≤ 0xFFFFFFFFFFFFFFFF :=
      Nat.le_trans (le_foldl_digits ds _) h
    unfold Json.takeDigits
    dsimp only
    rw [if_pos first]
    exact ih h

theorem foldl_bounded {ds : List Char} {n : Nat}
    (h : ds.foldl (fun n c => 10 * n + digitValue c) n ≤ Json.remote) :
    ds.foldl (fun n c => min Json.remote (10 * n + digitValue c)) n =
      ds.foldl (fun n c => 10 * n + digitValue c) n := by
  induction ds generalizing n with
  | nil => rfl
  | cons d ds ih =>
    have first : 10 * n + digitValue d ≤ Json.remote := Nat.le_trans (le_foldl_digits ds _) h
    rw [List.foldl_cons, List.foldl_cons, Nat.min_eq_right first]
    exact ih h

theorem powerOf_powerText {x : Option Int} (h : (x.getD 0).natAbs ≤ Json.remote) :
    Json.powerOf (powerText x) = x.getD 0 := by
  cases x with
  | none => rfl
  | some e =>
    have bounded : Json.boundedNat (digitText e.natAbs) = e.natAbs := by
      have denotes : natOfDigits (digitText e.natAbs) = e.natAbs := natOfDigits_digitText _
      unfold natOfDigits at denotes
      unfold Json.boundedNat
      rw [foldl_bounded (by rw [denotes]; exact h), denotes]
    show Json.powerOf ('e' :: (if e < 0 then '-' else '+') :: digitText e.natAbs) = e
    by_cases he : e < 0
    · rw [if_pos he]
      show -(Json.boundedNat (digitText e.natAbs) : Int) = e
      rw [bounded]
      omega
    · rw [if_neg he]
      show (Json.boundedNat (digitText e.natAbs) : Int) = e
      rw [bounded]
      omega

theorem ofText_text (h : p.Proper) (hd : p.digits ≤ 0xFFFFFFFFFFFFFFFF)
    (hp : (p.power.getD 0).natAbs ≤ Json.remote) :
    Json.Amount.ofText p.text = ⟨p.digits, p.exponent⟩ := by
  have behind := noDigitAhead_point p.part p.power noDigitAhead_nil
  rw [List.append_nil] at behind
  have digits : p.digits =
      p.part.foldl (fun n c => 10 * n + digitValue c) (natOfDigits p.whole) := List.foldl_append
  have whole : Json.takeDigits 0 p.whole = (natOfDigits p.whole, []) := by
    refine takeDigits_of_le (Nat.le_trans ?_ hd)
    rw [digits]
    exact le_foldl_digits p.part _
  have part : Json.takeDigits (natOfDigits p.whole) p.part = (p.digits, []) := by
    rw [digits]
    rw [digits] at hd
    exact takeDigits_of_le hd
  have power := powerOf_powerText hp
  have behind' := noDigitAhead_power p.power noDigitAhead_nil
  rw [List.append_nil] at behind'
  unfold Json.Amount.ofText text
  dsimp only
  rw [takeWhile_digits h.whole behind, dropWhile_digits h.whole behind, whole]
  cases hpart : p.part with
  | nil =>
    rw [hpart] at digits
    have same : p.digits = natOfDigits p.whole := digits
    have exponent : p.exponent = p.power.getD 0 := by
      unfold exponent
      rw [hpart]
      exact Int.sub_zero _
    rw [same, exponent, ← power]
    cases p.power with
    | none => rfl
    | some e =>
      show (⟨natOfDigits p.whole, (0 : Nat) + Json.powerOf (powerText (some e))⟩ : Json.Amount) = _
      rw [Int.natCast_zero, Int.zero_add]
  | cons d ds =>
    have digit : ∀ c ∈ d :: ds, c.isDigit = true := hpart ▸ h.part
    have taken := takeWhile_digits digit behind'
    have dropped := dropWhile_digits digit behind'
    rw [hpart] at part
    have exponent : p.exponent = p.power.getD 0 - (d :: ds).length := by
      unfold exponent
      rw [hpart]
    rw [exponent, ← power]
    show (⟨(Json.takeDigits (natOfDigits p.whole)
        ((d :: ds ++ powerText p.power).takeWhile Char.isDigit)).1,
      (([] : List Char).length : Int) -
        (((d :: ds ++ powerText p.power).takeWhile Char.isDigit).length -
          (Json.takeDigits (natOfDigits p.whole)
            ((d :: ds ++ powerText p.power).takeWhile Char.isDigit)).2.length : Nat) +
        Json.powerOf ((d :: ds ++ powerText p.power).dropWhile Char.isDigit)⟩ : Json.Amount) = _
    rw [taken, dropped, part]
    congr 1
    show (0 : Int) - (((d :: ds).length - 0 : Nat) : Int) + _ = _
    omega

end

end Parts

end Numeral

/-! ## printed integers -/

namespace Decimal

theorem head_digitText {n : Nat} (h : 0 < n) : (digitText n).head? ≠ some '0' := by
  induction n using Nat.strongRecOn with
  | ind n ih =>
    unfold digitText at ih ⊢
    rw [Nat.toDigits_eq_if (by decide)]
    split
    · rename_i small
      have nonzero : ∀ d < 10, 0 < d → [Nat.digitChar d].head? ≠ some '0' := by decide
      exact nonzero n small h
    · have front : (Nat.toDigits 10 (n / 10) ++ [(n % 10).digitChar]).head? =
          (Nat.toDigits 10 (n / 10)).head? := by
        cases hd : Nat.toDigits 10 (n / 10) with
        | nil => exact absurd hd Nat.toDigits_ne_nil
        | cons d ds => rfl
      rw [front]
      exact ih (n / 10) (by omega) (by omega)

end Decimal

namespace Json

open Numeral

theorem proper_digitText (n : Nat) : (⟨Decimal.digitText n, [], none⟩ : Parts).Proper where
  whole := fun c hc => Decimal.isDigit_of_mem_digitText hc
  part := nofun
  nonempty := Decimal.digitText_ne_nil n
  front := by
    rcases Nat.eq_zero_or_pos n with rfl | h
    · exact Or.inl (by decide)
    · exact Or.inr (Decimal.head_digitText h)

theorem text_digitText (n : Nat) :
    (⟨Decimal.digitText n, [], none⟩ : Parts).text = Decimal.digitText n := List.append_nil _

/-- rounding to 53 binary digits adds no more than the last of them is worth -/
theorem roundBits_le (n : Nat) : 0x20000000000000 * roundBits 53 n ≤ 0x20000000000001 * n := by
  by_cases h : n.log2 + 1 ≤ 53
  · rw [roundBits_of_short h]
    omega
  · have nonzero : n ≠ 0 := by
      rintro rfl
      exact h (by decide)
    obtain ⟨k, hk⟩ : ∃ k, n.log2 = k + 53 := ⟨n.log2 - 53, by omega⟩
    have shift : n.log2 + 1 - 53 = k + 1 := by omega
    have large : 2 ^ (k + 1) * 0x10000000000000 ≤ n := by
      have whole := Nat.log2_self_le nonzero
      rw [hk] at whole
      have power : 2 ^ (k + 53) = 2 ^ (k + 1) * 0x10000000000000 := by
        rw [show k + 53 = k + 1 + 52 from rfl, Nat.pow_add]
      omega
    have unit : 0 < 2 ^ (k + 1) := Nat.two_pow_pos _
    have whole := Nat.div_add_mod n (2 ^ (k + 1))
    have rest := Nat.mod_lt n unit
    have twice : 2 * roundBits 53 n ≤ 2 * n + 2 ^ (k + 1) := by
      unfold roundBits
      rw [shift]
      dsimp only
      change (2 * if 2 * (n % 2 ^ (k + 1)) < 2 ^ (k + 1) then n / 2 ^ (k + 1) * 2 ^ (k + 1)
        else if 2 ^ (k + 1) < 2 * (n % 2 ^ (k + 1)) then (n / 2 ^ (k + 1) + 1) * 2 ^ (k + 1)
        else (n / 2 ^ (k + 1) + n / 2 ^ (k + 1) % 2) * 2 ^ (k + 1)) ≤ _
      rw [Nat.mul_comm (2 ^ (k + 1))] at whole
      split
      · omega
      · split
        · rw [Nat.add_mul, Nat.one_mul]
          omega
        · have even : n / 2 ^ (k + 1) % 2 * 2 ^ (k + 1) ≤ 1 * 2 ^ (k + 1) :=
            Nat.mul_le_mul_right _ (by omega)
          rw [Nat.add_mul]
          omega
    omega

theorem fits_of_word {n : Nat} (h : n ≤ 0xFFFFFFFFFFFFFFFF) : (⟨n, 0⟩ : Amount).fits = true := by
  have round := roundBits_le n
  have one : roundBits 53 (Nat.pow 10 (0 : Int).toNat) = 1 := by decide
  have less : roundBits 53 n * roundBits 53 (Nat.pow 10 (0 : Int).toNat) < overflow := by
    have bound : 0x1000000000000000000 < overflow := by decide +kernel
    rw [one]
    omega
  unfold Amount.fits
  rw [decide_eq_true less]
  simp

theorem inRange_of_sign {s : List Char} (h : (Amount.ofText s).fits = true)
    (hs : s.head? ≠ some '-') : inRange s = true := by
  unfold inRange
  split
  · exact absurd rfl hs
  · exact h

theorem numeral?_of_sign {s : List Char} (hs : s.head? ≠ some '-') : numeral? s = unsigned? s := by
  unfold numeral?
  split
  · exact absurd rfl hs
  · rfl

theorem numeric_of_parts {p : Parts} (h : p.Proper) (fits : (Amount.ofText p.text).fits = true)
    (negative : Bool) : Numeric (if negative then '-' :: p.text else p.text) := by
  obtain ⟨d, r, ht, hd⟩ := Parts.exists_digit_text h
  have plain (s : List Char) : (p.text ++ s).head? ≠ some '-' := by
    rw [ht]
    intro heq
    have same : d = '-' := Option.some.inj heq
    rw [same] at hd
    exact absurd hd (by decide)
  cases negative with
  | true =>
    refine ⟨⟨'-', p.text, rfl, Or.inl rfl⟩, fun s hs => ?_, fits⟩
    show (unsigned? (p.text ++ s)).map _ = _
    rw [Parts.unsigned?_text h hs]
    rfl
  | false =>
    refine ⟨⟨d, r, ht, Or.inr hd⟩, fun s hs => ?_, ?_⟩
    · show numeral? (p.text ++ s) = some (p.text, s)
      rw [numeral?_of_sign (plain s), Parts.unsigned?_text h hs]
    · have bare := plain []
      rw [List.append_nil] at bare
      exact inRange_of_sign fits bare

theorem numeric_integerText {n : Int} (h : n.natAbs ≤ 0xFFFFFFFFFFFFFFFF) :
    Numeric (Decimal.integerText n) := by
  have amount : Amount.ofText (Decimal.digitText n.natAbs) = ⟨n.natAbs, 0⟩ := by
    have digits : (⟨Decimal.digitText n.natAbs, [], none⟩ : Parts).digits = n.natAbs := by
      unfold Parts.digits
      rw [List.append_nil, natOfDigits_digitText]
    have ofText := Parts.ofText_text (proper_digitText n.natAbs) (by rwa [digits]) (Nat.zero_le _)
    rw [text_digitText, digits] at ofText
    exact ofText
  have numeric := numeric_of_parts (proper_digitText n.natAbs)
    (by rw [text_digitText, amount]; exact fits_of_word h) (decide (n < 0))
  rw [text_digitText] at numeric
  unfold Decimal.integerText
  by_cases hn : n < 0
  · rw [if_pos hn]
    rw [decide_eq_true hn] at numeric
    exact numeric
  · rw [if_neg hn]
    rw [decide_eq_false hn] at numeric
    exact numeric

end Json

end DroneFleet
