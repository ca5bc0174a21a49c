import DroneFleet.Proofs.Digits

/-!
# Which texts are numerals

Operands are read in two ways: by the integer that they begin with, and by the number that fills them.
Here both are said without a reader, by how the text is put together, and the readers find just this.

* `Numeral.IsSign`, `Numeral.IsDigits`   what numerals are put together from
* `Numeral.Begins`       the integer that a text begins with
* `Numeral.leadingInteger?_eq_some_iff`, `Numeral.leadingInteger?_eq_none_iff`   it is the one that
                         is read, or the nearest of 64 bits
* `Numeral.IsPointed`, `Numeral.IsPower`   digits with a point, and a power of ten
* `Numeral.Fills`        the number that fills a text
* `Numeral.read_of_fills`, `Numeral.read_eq_notANumber`   it is the one that is read
-/

namespace DroneFleet

namespace Numeral

/-! ## signs and digits -/

/-- the signs in front of a numeral, and whether they make it negative -/
inductive IsSign : List Char → Bool → Prop where
  | nothing : IsSign [] false
  | plus : IsSign ['+'] false
  | minus : IsSign ['-'] true

/-- a run of digits, one at least -/
structure IsDigits (ds : List Char) : Prop where
  ne_nil : ds ≠ []
  digits : ∀ c ∈ ds, c.isDigit = true

/-- does a text go on with something else than a sign, or end? -/
def NoSignAhead (r : List Char) : Prop := ∀ c ∈ r.head?, c ≠ '-' ∧ c ≠ '+'

section
variable {sign ds r s : List Char} {negative : Bool} {n m : Int}

theorem noSignAhead_cons {c : Char} (h : c ≠ '-' ∧ c ≠ '+') (r : List Char) :
    NoSignAhead (c :: r) := by
  intro d hd
  cases hd
  exact h

theorem ne_sign_of_isDigit {c : Char} (h : c.isDigit = true) : c ≠ '-' ∧ c ≠ '+' := by
  constructor
  · rintro rfl
    cases h
  · rintro rfl
    cases h

theorem IsDigits.noSignAhead (hd : IsDigits ds) (r : List Char) : NoSignAhead (ds ++ r) := by
  cases ds with
  | nil => exact absurd rfl hd.ne_nil
  | cons d ds => exact noSignAhead_cons (ne_sign_of_isDigit (hd.digits d List.mem_cons_self)) _

theorem signed_of_noSignAhead (h : NoSignAhead r) : signed r = (false, r) := by
  cases r with
  | nil => rfl
  | cons c r =>
    obtain ⟨minus, plus⟩ := h c rfl
    unfold signed
    split
    · rename_i h
      exact absurd (List.cons.inj h).1 minus
    · rename_i h
      exact absurd (List.cons.inj h).1 plus
    · rfl

theorem signed_append (hs : IsSign sign negative) (hr : NoSignAhead r) :
    signed (sign ++ r) = (negative, r) := by
  cases hs with
  | nothing => exact signed_of_noSignAhead hr
  | plus => rfl
  | minus => rfl

theorem exists_sign (s : List Char) :
    ∃ sign negative r, IsSign sign negative ∧ s = sign ++ r ∧ signed s = (negative, r) := by
  unfold signed
  split
  · exact ⟨_, _, _, .minus, rfl, rfl⟩
  · exact ⟨_, _, _, .plus, rfl, rfl⟩
  · exact ⟨_, _, _, .nothing, rfl, rfl⟩

theorem noDigitAhead_dropWhile (s : List Char) : NoDigitAhead (s.dropWhile Char.isDigit) := by
  intro c hc
  have head : ¬ c.isDigit = true := by
    rcases List.head?_eq_some_iff.mp hc with ⟨r, hr⟩
    have ne : s.dropWhile Char.isDigit ≠ [] := by
      rw [hr]
      exact List.cons_ne_nil c r
    have first := List.head_dropWhile_not Char.isDigit ne
    simpa [hr] using first
  exact Bool.eq_false_iff.mpr head

theorem digits_takeWhile (s : List Char) : ∀ c ∈ s.takeWhile Char.isDigit, c.isDigit = true :=
  List.all_eq_true.mp List.all_takeWhile

/-! ## the integer that a text begins with -/

/-- the integer that a text begins with, of any size: a sign, and digits up to the first character
that is none -/
inductive Begins : List Char → Int → Prop where
  | intro {sign ds r : List Char} {negative : Bool} (hs : IsSign sign negative) (hd : IsDigits ds)
      (hr : NoDigitAhead r) : Begins (sign ++ (ds ++ r)) (withSign negative (natOfDigits ds))

theorem leadingInteger?_of_begins (h : Begins (Text.trimStart s) n) :
    leadingInteger? s = some (Word64.clamp n) := by
  obtain ⟨t, ht⟩ : ∃ t, t = Text.trimStart s := ⟨_, rfl⟩
  rw [← ht] at h
  cases h with
  | @intro sign ds r negative hs hd hr =>
    unfold leadingInteger?
    rw [← ht, signed_append hs (hd.noSignAhead r)]
    dsimp only
    rw [takeWhile_digits hd.digits hr]
    cases hds : ds with
    | nil => exact absurd hds hd.ne_nil
    | cons d ds => rfl

theorem exists_begins_of_leadingInteger? (h : leadingInteger? s = some m) :
    ∃ n, Begins (Text.trimStart s) n ∧ m = Word64.clamp n := by
  obtain ⟨sign, negative, r, hs, ht, hr⟩ := exists_sign (Text.trimStart s)
  unfold leadingInteger? at h
  rw [hr] at h
  dsimp only at h
  cases hds : r.takeWhile Char.isDigit with
  | nil =>
    rw [hds] at h
    cases h
  | cons d ds =>
    rw [hds] at h
    have digits : IsDigits (d :: ds) := ⟨List.cons_ne_nil d ds, hds ▸ digits_takeWhile r⟩
    refine ⟨withSign negative (natOfDigits (d :: ds)), ?_, (Option.some.inj h).symm⟩
    rw [ht, ← List.takeWhile_append_dropWhile (p := Char.isDigit) (l := r), hds]
    exact .intro hs digits (noDigitAhead_dropWhile r)

/-- the integer that is read is the one that the text begins with, or the nearest of 64 bits -/
theorem leadingInteger?_eq_some_iff :
    leadingInteger? s = some m ↔ ∃ n, Begins (Text.trimStart s) n ∧ m = Word64.clamp n := by
  refine ⟨exists_begins_of_leadingInteger?, ?_⟩
  rintro ⟨n, h, rfl⟩
  exact leadingInteger?_of_begins h

theorem leadingInteger?_eq_none_iff :
    leadingInteger? s = none ↔ ∀ n, ¬ Begins (Text.trimStart s) n := by
  constructor
  · intro h n hn
    rw [leadingInteger?_of_begins hn] at h
    cases h
  · intro h
    cases hm : leadingInteger? s with
    | none => rfl
    | some m =>
      obtain ⟨n, hn, -⟩ := exists_begins_of_leadingInteger? hm
      exact absurd hn (h n)

end

/-! ## the number that fills a text -/

/-- the power of ten at the end of a numeral: nothing, or a mark, a sign and digits -/
inductive IsPower : List Char → Int → Prop where
  | nothing : IsPower [] 0
  | written {mark : Char} {sign ds : List Char} {negative : Bool} (hm : mark = 'e' ∨ mark = 'E')
      (hs : IsSign sign negative) (hd : IsDigits ds) :
    IsPower (mark :: (sign ++ ds)) (withSign negative (natOfDigits ds))

/-- digits without a point, or with digits on one side of it at least; the digits before it and the
digits behind it -/
inductive IsPointed : List Char → List Char → List Char → Prop where
  | whole {ds : List Char} (hd : IsDigits ds) : IsPointed ds ds []
  | point {whole part : List Char} (hw : ∀ c ∈ whole, c.isDigit = true)
      (hp : ∀ c ∈ part, c.isDigit = true) (hne : ¬ (whole = [] ∧ part = [])) :
    IsPointed (whole ++ '.' :: part) whole part

/-- the number that fills a text: infinity, or digits with a power of ten, and a sign in front -/
inductive Fills : List Char → Reading → Prop where
  | infinite {sign : List Char} {negative : Bool} (hs : IsSign sign negative) :
    Fills (sign ++ infinity) (.infinite negative)
  | decimal {sign t x whole part : List Char} {negative : Bool} {e : Int}
      (hs : IsSign sign negative) (ht : IsPointed t whole part) (hx : IsPower x e) :
    Fills (sign ++ (t ++ x)) (.decimal negative (natOfDigits (whole ++ part)) (e - part.length))

section
variable {s t x whole part : List Char} {e : Int} {n : Nat} {a : Reading}

theorem IsPower.noDigitAhead (h : IsPower x e) : NoDigitAhead x := by
  cases h with
  | nothing => exact noDigitAhead_nil
  | written hm hs hd =>
    refine noDigitAhead_cons ?_ _
    rcases hm with rfl | rfl <;> decide

theorem IsPower.fraction_eq (h : IsPower x e) : fraction x = ([], x) := by
  cases h with
  | nothing => rfl
  | written hm hs hd => rcases hm with rfl | rfl <;> rfl

theorem exponent?_cons (mark : Char) (r : List Char) :
    exponent? (mark :: r) =
      if mark = 'e' ∨ mark = 'E' then
        if (signed r).2 ≠ [] ∧ (signed r).2.all Char.isDigit then
          some (withSign (signed r).1 (natOfDigits (signed r).2))
        else none
      else none := rfl

theorem exponent?_of_isPower (h : IsPower x e) : exponent? x = some e := by
  cases h with
  | nothing => rfl
  | @written mark sign ds negative hm hs hd =>
    have sign : signed (sign ++ ds) = (negative, ds) := by
      have ahead := hd.noSignAhead []
      rw [List.append_nil] at ahead
      exact signed_append hs ahead
    have all : ds.all Char.isDigit = true := List.all_eq_true.mpr hd.digits
    rw [exponent?_cons, if_pos hm, sign]
    exact if_pos ⟨hd.ne_nil, all⟩

theorem isPower_of_exponent? (h : exponent? x = some e) : IsPower x e := by
  cases x with
  | nil =>
    cases h
    exact .nothing
  | cons mark r =>
    obtain ⟨sign, negative, ds, hs, rfl, hsigned⟩ := exists_sign r
    rw [exponent?_cons, hsigned] at h
    split at h
    · rename_i hm
      split at h
      · rename_i hd
        cases h
        exact .written hm hs ⟨hd.1, List.all_eq_true.mp hd.2⟩
      · cases h
    · cases h

theorem unsignedDecimal?_of_isPointed (ht : IsPointed t whole part) (hx : IsPower x e) :
    unsignedDecimal? (t ++ x) = some (natOfDigits (whole ++ part), e - part.length) := by
  unfold unsignedDecimal?
  cases ht with
  | whole hd =>
    rw [takeWhile_digits hd.digits hx.noDigitAhead, dropWhile_digits hd.digits hx.noDigitAhead,
      hx.fraction_eq]
    dsimp only
    rw [if_neg fun h => hd.ne_nil h.1, exponent?_of_isPower hx]
    rfl
  | point hw hp hne =>
    have behind : NoDigitAhead ('.' :: (part ++ x)) := noDigitAhead_cons (by decide) _
    have parts : fraction ('.' :: (part ++ x)) = (part, x) := by
      show ((part ++ x).takeWhile Char.isDigit, (part ++ x).dropWhile Char.isDigit) = _
      rw [takeWhile_digits hp hx.noDigitAhead, dropWhile_digits hp hx.noDigitAhead]
    rw [List.append_assoc, List.cons_append, takeWhile_digits hw behind, dropWhile_digits hw behind,
      parts]
    dsimp only
    rw [if_neg hne, exponent?_of_isPower hx]
    rfl

theorem fraction_cases (r : List Char) :
    fraction r = ([], r) ∨
      ∃ part x, r = '.' :: (part ++ x) ∧ fraction r = (part, x) ∧ ∀ c ∈ part, c.isDigit = true := by
  unfold fraction
  split
  · rename_i r
    refine Or.inr ⟨_, _, ?_, rfl, digits_takeWhile r⟩
    rw [List.takeWhile_append_dropWhile]
  · exact Or.inl rfl

theorem exists_isPointed (h : unsignedDecimal? s = some (n, e)) :
    ∃ t x whole part p, s = t ++ x ∧ IsPointed t whole part ∧ IsPower x p ∧
      n = natOfDigits (whole ++ part) ∧ e = p - part.length := by
  have split : s = s.takeWhile Char.isDigit ++ s.dropWhile Char.isDigit :=
    List.takeWhile_append_dropWhile.symm
  unfold unsignedDecimal? at h
  rcases fraction_cases (s.dropWhile Char.isDigit) with plain | ⟨part, x, hr, hf, hp⟩
  · rw [plain] at h
    dsimp only at h
    split at h
    · cases h
    · rename_i hne
      obtain ⟨p, hx, hpair⟩ := Option.map_eq_some_iff.mp h
      obtain ⟨rfl, rfl⟩ := Prod.mk.inj hpair
      have some : s.takeWhile Char.isDigit ≠ [] := fun h => hne ⟨h, rfl⟩
      exact ⟨_, _, _, _, p, split, .whole ⟨some, digits_takeWhile s⟩, isPower_of_exponent? hx, rfl,
        rfl⟩
  · rw [hf] at h
    dsimp only at h
    split at h
    · cases h
    · rename_i hne
      obtain ⟨p, hx, hpair⟩ := Option.map_eq_some_iff.mp h
      obtain ⟨rfl, rfl⟩ := Prod.mk.inj hpair
      refine ⟨_, x, _, part, p, ?_, .point (digits_takeWhile s) hp hne, isPower_of_exponent? hx, rfl,
        rfl⟩
      rw [List.append_assoc, List.cons_append, ← hr]
      exact split

theorem IsPointed.noSignAhead (h : IsPointed t whole part) (x : List Char) :
    NoSignAhead (t ++ x) := by
  cases h with
  | whole hd => exact hd.noSignAhead x
  | point hw hp hne =>
    cases whole with
    | nil => exact noSignAhead_cons ⟨by decide, by decide⟩ _
    | cons c whole => exact noSignAhead_cons (ne_sign_of_isDigit (hw c List.mem_cons_self)) _

theorem Fills.ne_nil (h : Fills t a) : t ≠ [] := by
  cases h with
  | infinite hs => exact List.append_ne_nil_of_right_ne_nil _ (by decide)
  | decimal hs ht hx =>
    refine List.append_ne_nil_of_right_ne_nil _ (List.append_ne_nil_of_left_ne_nil ?_ _)
    cases ht with
    | whole hd => exact hd.ne_nil
    | point hw hp hne => exact List.append_ne_nil_of_right_ne_nil _ (List.cons_ne_nil _ _)

theorem Fills.ne_notANumber (h : Fills t a) : a ≠ .notANumber := by
  cases h <;> nofun

theorem read_of_signed {negative : Bool} {r : List Char} (hne : Text.trim s ≠ [])
    (h : signed (Text.trim s) = (negative, r)) :
    read s = if r = infinity then .infinite negative else
      match unsignedDecimal? r with
      | some (n, e) => .decimal negative n e
      | none => .notANumber := by
  unfold read
  cases ht : Text.trim s with
  | nil => exact absurd ht hne
  | cons c t =>
    rw [ht] at h
    dsimp only
    generalize signed (c :: t) = p at h ⊢
    subst h
    rfl

theorem read_of_fills (h : Fills (Text.trim s) a) : read s = a := by
  have some := h.ne_nil
  obtain ⟨t, ht⟩ : ∃ t, t = Text.trim s := ⟨_, rfl⟩
  rw [← ht] at h
  cases h with
  | infinite hs =>
    have ahead : NoSignAhead infinity := noSignAhead_cons (c := 'I') ⟨by decide, by decide⟩ _
    have sign := signed_append hs ahead
    rw [read_of_signed some (ht ▸ sign)]
    exact if_pos rfl
  | @decimal sign t x whole part negative e hs hp hx =>
    have number := unsignedDecimal?_of_isPointed hp hx
    have finite : t ++ x ≠ infinity := by
      intro h
      have none : unsignedDecimal? infinity = .none := by decide
      rw [h, none] at number
      cases number
    rw [read_of_signed some (ht ▸ signed_append hs (hp.noSignAhead x)), if_neg finite, number]

theorem fills_of_read (hne : Text.trim s ≠ []) (ha : read s ≠ .notANumber) :
    Fills (Text.trim s) (read s) := by
  obtain ⟨sign, negative, r, hs, ht, hr⟩ := exists_sign (Text.trim s)
  rw [read_of_signed hne hr] at ha ⊢
  rw [ht]
  by_cases hi : r = infinity
  · rw [if_pos hi, hi]
    exact .infinite hs
  · rw [if_neg hi] at ha ⊢
    cases hd : unsignedDecimal? r with
    | none =>
      rw [hd] at ha
      exact absurd rfl ha
    | some p =>
      obtain ⟨t, x, whole, part, e, rfl, pointed, power, digits, exponent⟩ := exists_isPointed hd
      have number : Fills (sign ++ (t ++ x))
          (.decimal negative (natOfDigits (whole ++ part)) (e - part.length)) :=
        .decimal hs pointed power
      rw [← digits, ← exponent] at number
      exact number

theorem read_eq_notANumber (hne : Text.trim s ≠ []) (h : ∀ a, ¬ Fills (Text.trim s) a) :
    read s = .notANumber :=
  Decidable.byContradiction fun hs => h _ (fills_of_read hne hs)

end

end Numeral

end DroneFleet
