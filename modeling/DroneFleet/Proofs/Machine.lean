import DroneFleet.Proofs.Digits

/-!
# Reading commands on a machine

A machine has integers of 64 bits, and it cuts texts by bytes. An operation on it can fail: the
result does not fit, a divisor is zero, an item is not there, a cut lies inside of a character or
behind the end. Here commands are read with operations that tell so, and none of them ever does.

* `Machine.Fault`, `Machine.Checked`   what can fail, and a result that may be a fault
* `Machine.signed`, `Machine.unsigned`   an integer that must fit in 64 bits
* `Machine.add`, `sub`, `neg`, `emod`, `tmod`   arithmetic
* `Machine.item`, `Machine.behind`, `Machine.before`   an item of a list, and the parts of a text
* `Machine.leadingInteger_eq`   a numeral is read with them, and is what the text begins with
* `Machine.parse_eq`         every text is read, as the command that it denotes
* `Machine.mem_of_integerOf_parse`   the operands of a command that was read fit in 64 bits
-/

namespace DroneFleet

namespace Machine

/-- what an operation of a machine can fail for -/
inductive Fault where
  | overflow
  | divisor
  /-- an item that is not there -/
  | index
  /-- a cut inside of a character, or behind the end of a text -/
  | cut
deriving DecidableEq, Repr

abbrev Checked := Except Fault

theorem ok_bind {α β : Type} (a : α) (next : α → Checked β) :
    ((Except.ok a : Checked α) >>= next) = next a := rfl

/-! ## integers of 64 bits -/

def signed (n : Int) : Checked Int :=
  if Word64.least ≤ n ∧ n ≤ Word64.greatest then .ok n else .error .overflow

def unsigned (n : Int) : Checked Nat :=
  if 0 ≤ n ∧ n < 0x10000000000000000 then .ok n.toNat else .error .overflow

def add (a b : Int) : Checked Int := signed (a + b)
def sub (a b : Int) : Checked Int := signed (a - b)
def neg (a : Int) : Checked Int := signed (-a)

/-- the remainder that is not negative; the quotient has to fit as well -/
def emod (a b : Int) : Checked Int :=
  if b = 0 then .error .divisor
  else if a = Word64.least ∧ b = -1 then .error .overflow
  else signed (a % b)

/-- the remainder with the sign of the dividend; the quotient has to fit as well -/
def tmod (a b : Int) : Checked Int :=
  if b = 0 then .error .divisor
  else if a = Word64.least ∧ b = -1 then .error .overflow
  else signed (a.tmod b)

theorem signed_of_mem {n : Int} (hl : Word64.least ≤ n) (hg : n ≤ Word64.greatest) :
    signed n = .ok n := by
  unfold signed
  rw [if_pos ⟨hl, hg⟩]

theorem signed_of_small {n : Int} (hl : -1000 ≤ n) (hg : n ≤ 1000) : signed n = .ok n := by
  refine signed_of_mem ?_ ?_
  · unfold Word64.least
    omega
  · unfold Word64.greatest
    omega

theorem emod_360 (a : Int) : emod a 360 = .ok (a % 360) := by
  have small : signed (a % 360) = .ok (a % 360) := signed_of_small (by omega) (by omega)
  unfold emod
  rw [if_neg (by omega), if_neg (by omega), small]

/-! ## texts and lists -/

/-- the item of a list at a place -/
def item {α : Type} (xs : List α) (i : Nat) : Checked α :=
  match xs[i]? with
  | some x => .ok x
  | none => .error .index

/-- the text behind a number of bytes -/
def behind : Nat → List Char → Checked (List Char)
  | 0, s => .ok s
  | _ + 1, [] => .error .cut
  | n + 1, c :: s => if c.utf8Size ≤ n + 1 then behind (n + 1 - c.utf8Size) s else .error .cut

/-- the text before it -/
def before : Nat → List Char → Checked (List Char)
  | 0, _ => .ok []
  | _ + 1, [] => .error .cut
  | n + 1, c :: s =>
    if c.utf8Size ≤ n + 1 then (before (n + 1 - c.utf8Size) s).map (c :: ·) else .error .cut

theorem item_of_some {α : Type} {xs : List α} {i : Nat} {x : α} (h : xs[i]? = some x) :
    item xs i = .ok x := by
  unfold item
  rw [h]

theorem behind_cons {c : Char} (h : c.utf8Size = 1) (n : Nat) (s : List Char) :
    behind (n + 1) (c :: s) = behind n s := by
  rw [behind, h, if_pos (Nat.le_add_left 1 n), Nat.add_sub_cancel]

theorem before_cons {c : Char} (h : c.utf8Size = 1) (n : Nat) (s : List Char) :
    before (n + 1) (c :: s) = (before n s).map (c :: ·) := by
  rw [before, h, if_pos (Nat.le_add_left 1 n), Nat.add_sub_cancel]

/-- a text may be cut behind characters of one byte each -/
theorem before_append {ds : List Char} (h : ∀ c ∈ ds, c.utf8Size = 1) (r : List Char) :
    before ds.length (ds ++ r) = .ok ds := by
  induction ds with
  | nil => cases r <;> rfl
  | cons d ds ih =>
    rw [List.length_cons, List.cons_append, before_cons (h d List.mem_cons_self),
      ih fun c hc => h c (List.mem_cons_of_mem _ hc)]
    rfl

theorem utf8Size_of_lt {c : Char} (h : c.toNat < 128) : c.utf8Size = 1 := by
  have small : c.val ≤ 127 := UInt32.le_iff_toNat_le.mpr (Nat.le_of_lt_succ h)
  exact Char.utf8Size_eq_one_iff.mpr small

theorem utf8Size_of_isDigit {c : Char} (h : c.isDigit = true) : c.utf8Size = 1 := by
  refine utf8Size_of_lt ?_
  have digit := Char.isDigit_iff_toNat.mp h
  have nine : '9'.toNat = 57 := rfl
  omega

/-! ## numerals -/

/-- the integer that a whole text denotes, if it is one and fits -/
def word? (s : List Char) : Option Int :=
  let (negative, ds) := Numeral.signed s
  let n := Numeral.withSign negative (Numeral.natOfDigits ds)
  if ds ≠ [] ∧ ds.all Char.isDigit ∧ Word64.least ≤ n ∧ n ≤ Word64.greatest then some n else none

/-- the integer that a text denotes up to the last digit behind its sign, which has `start` bytes;
one that does not fit is the nearest that does -/
def numeralAt (start : Nat) (negative : Bool) (t : List Char) : Checked (Option Int) := do
  let rest ← behind start t
  let digits := (rest.takeWhile Char.isDigit).length
  if digits = 0 then return none
  let numeral ← before (start + digits) t
  return some ((word? numeral).getD (if negative then Word64.least else Word64.greatest))

/-- the integer that a text begins with after blanks -/
def leadingInteger (s : List Char) : Checked (Option Int) :=
  let t := Text.trimStart s
  numeralAt (if t.head? = some '-' ∨ t.head? = some '+' then 1 else 0) (t.head? = some '-') t

section
variable {sign ds : List Char} {negative : Bool}

theorem behind_append (h : ∀ c ∈ sign, c.utf8Size = 1) (r : List Char) :
    behind sign.length (sign ++ r) = .ok r := by
  induction sign with
  | nil => cases r <;> rfl
  | cons c sign ih =>
    rw [List.length_cons, List.cons_append, behind_cons (h c List.mem_cons_self)]
    exact ih fun c hc => h c (List.mem_cons_of_mem _ hc)

theorem word?_getD {s : List Char} (h : Numeral.signed s = (negative, ds)) (hne : ds ≠ [])
    (hd : ds.all Char.isDigit) :
    (word? s).getD (if negative then Word64.least else Word64.greatest) =
      Word64.clamp (Numeral.withSign negative (Numeral.natOfDigits ds)) := by
  unfold word?
  simp only [h]
  by_cases fits : Word64.least ≤ Numeral.withSign negative (Numeral.natOfDigits ds) ∧
      Numeral.withSign negative (Numeral.natOfDigits ds) ≤ Word64.greatest
  · rw [if_pos ⟨hne, hd, fits⟩, Word64.clamp_of_mem fits.1 fits.2]
    rfl
  · rw [if_neg fun h => fits h.2.2]
    unfold Numeral.withSign Word64.clamp Word64.least Word64.greatest at *
    cases negative <;> simp at * <;> omega

theorem numeralAt_append (hb : ∀ c ∈ sign, c.utf8Size = 1)
    (hs : ∀ ds : List Char, ds ≠ [] → ds.all Char.isDigit →
      Numeral.signed (sign ++ ds) = (negative, ds)) (r : List Char) :
    numeralAt sign.length negative (sign ++ r) =
      .ok (match r.takeWhile Char.isDigit with
        | [] => none
        | ds => some (Word64.clamp (Numeral.withSign negative (Numeral.natOfDigits ds)))) := by
  have split : sign ++ r =
      (sign ++ r.takeWhile Char.isDigit) ++ r.dropWhile Char.isDigit := by
    rw [List.append_assoc, List.takeWhile_append_dropWhile]
  have digits : (r.takeWhile Char.isDigit).all Char.isDigit := List.all_takeWhile
  have bytes : ∀ c ∈ sign ++ r.takeWhile Char.isDigit, c.utf8Size = 1 := by
    intro c hc
    rcases List.mem_append.mp hc with hc | hc
    · exact hb c hc
    · exact utf8Size_of_isDigit (List.all_eq_true.mp digits c hc)
  have cut := before_append bytes (r.dropWhile Char.isDigit)
  rw [← split, List.length_append] at cut
  unfold numeralAt
  rw [behind_append hb]
  cases hds : r.takeWhile Char.isDigit with
  | nil =>
    show (if (r.takeWhile Char.isDigit).length = 0 then _ else _) = _
    rw [hds]
    rfl
  | cons d ds =>
    rw [hds] at cut digits
    have some : (d :: ds).length ≠ 0 := Nat.succ_ne_zero _
    show (if (r.takeWhile Char.isDigit).length = 0 then _ else _) = _
    rw [hds, if_neg some, cut]
    show Except.ok (Option.some _) = _
    rw [word?_getD (hs (d :: ds) (List.cons_ne_nil d ds) digits) (List.cons_ne_nil d ds) digits]

theorem signed_of_digits {ds : List Char} (hne : ds ≠ []) (hd : ds.all Char.isDigit) :
    Numeral.signed ds = (false, ds) := by
  cases ds with
  | nil => exact absurd rfl hne
  | cons d ds =>
    exact Numeral.signed_cons_digit (List.all_eq_true.mp hd d List.mem_cons_self) ds

/-- **Every text is read for the integer that it begins with**: no cut goes through a character, and
a numeral that does not fit is the nearest integer that does. -/
theorem leadingInteger_eq (s : List Char) :
    leadingInteger s = .ok (Numeral.leadingInteger? s) := by
  unfold leadingInteger Numeral.leadingInteger?
  generalize Text.trimStart s = t
  by_cases hm : t.head? = some '-'
  · obtain ⟨r, rfl⟩ := List.head?_eq_some_iff.mp hm
    have sign : ∀ c ∈ ['-'], Char.utf8Size c = 1 := List.forall_mem_singleton.mpr rfl
    exact numeralAt_append sign (fun ds _ _ => rfl) r
  · by_cases hp : t.head? = some '+'
    · obtain ⟨r, rfl⟩ := List.head?_eq_some_iff.mp hp
      have sign : ∀ c ∈ ['+'], Char.utf8Size c = 1 := List.forall_mem_singleton.mpr rfl
      exact numeralAt_append sign (fun ds _ _ => rfl) r
    · have plain : Numeral.signed t = (false, t) := by
        unfold Numeral.signed
        split
        · exact absurd rfl hm
        · exact absurd rfl hp
        · rfl
      have sign : ∀ c ∈ ([] : List Char), Char.utf8Size c = 1 := List.forall_mem_nil _
      show numeralAt (if t.head? = some '-' ∨ t.head? = some '+' then 1 else 0)
        (decide (t.head? = some '-')) t = _
      rw [plain, if_neg (not_or.mpr ⟨hm, hp⟩), decide_eq_false hm]
      exact numeralAt_append sign (fun ds hne hd => signed_of_digits hne hd) t

end

/-! ## commands -/

/-- the operand at a place, by the integer it begins with; it may be missing -/
def operand (parts : List String) (i : Nat) : Checked (Option Int) :=
  match parts[i]? with
  | some w => leadingInteger w.toList
  | none => .ok none

/-- the operand at a place, read whole; it has to be there -/
def number (parts : List String) (i : Nat) : Checked Float := do
  return Numeral.toFloat (← item parts i).toList

def point (parts : List String) (i : Nat) : Checked (Point Float) := do
  return ⟨← number parts i, ← number parts (i + 1), ← number parts (i + 2)⟩

/-- the command of an operator; the parts are the operator and its operands -/
def ofOperator (parts : List String) (operator : String) : Checked Command :=
  match operator with
  | "takeoff" => return .takeoff
  | "land" => return .land
  | "cw" => return .rotate true (← operand parts 1)
  | "ccw" => return .rotate false (← operand parts 1)
  | "go" =>
    if 5 ≤ parts.length then return .go (← point parts 1) (← number parts 4)
    else return .incomplete operator
  | "curve" =>
    if 8 ≤ parts.length then return .curve (← point parts 1) (← point parts 4) (← number parts 7)
    else return .incomplete operator
  | "streamon" => return .streamOn
  | "streamoff" => return .streamOff
  | "record" => return .record (← operand parts 1)
  | "clear" => return .clear
  | "reset-dir" => return .resetDirection
  | "action" => return .action parts[1]?
  | "wait" => return .wait (← operand parts 1)
  | _ => return .unknown operator

def ofWords (parts : List String) : Checked Command :=
  match parts.head? with
  | none => return .unknown ""
  | some operator =>
    match Direction.ofWord? operator with
    | some direction => do
      let n ← operand parts 1
      return .move direction (n.elim Numeral.Reading.notANumber.toFloat Float.ofInt)
    | none => ofOperator parts operator

def parse (raw : String) : Checked Command := ofWords (wordsOf raw)

section
variable {operator : String} {operands : List String}

theorem operand_cons (operator : String) (operands : List String) (i : Nat) :
    operand (operator :: operands) (i + 1) = .ok (Command.integer? operands i) := by
  unfold operand Command.integer?
  rw [List.getElem?_cons_succ]
  cases operands[i]? with
  | none => rfl
  | some w => exact leadingInteger_eq w.toList

theorem number_cons (operator : String) {i : Nat} (h : i < operands.length) :
    number (operator :: operands) (i + 1) = .ok (Command.coordinate operands i) := by
  have there : (operator :: operands)[i + 1]? = some operands[i] := by
    rw [List.getElem?_cons_succ, List.getElem?_eq_getElem h]
  unfold number Command.coordinate
  rw [item_of_some there, List.getElem?_eq_getElem h]
  rfl

theorem point_cons (operator : String) {i : Nat} (h : i + 2 < operands.length) :
    point (operator :: operands) (i + 1) = .ok (Command.point operands i) := by
  have one : i < operands.length := by omega
  have two : i + 1 < operands.length := by omega
  unfold point Command.point
  rw [number_cons operator one, number_cons operator two, number_cons operator h]
  rfl

theorem ofOperator_eq (operator : String) (operands : List String) :
    ofOperator (operator :: operands) operator = .ok (Command.ofOperator operator operands) := by
  have integer := operand_cons operator operands 0
  unfold ofOperator
  split
  case h_5 =>
    show _ = Except.ok (if 4 ≤ operands.length then _ else _)
    by_cases h : 4 ≤ operands.length
    · have long : 5 ≤ ("go" :: operands).length := by rw [List.length_cons]; omega
      rw [if_pos long, if_pos h, point_cons "go" (by omega), number_cons "go" (by omega)]
      rfl
    · have short : ¬ 5 ≤ ("go" :: operands).length := by rw [List.length_cons]; omega
      rw [if_neg short, if_neg h]
      rfl
  case h_6 =>
    show _ = Except.ok (if 7 ≤ operands.length then _ else _)
    by_cases h : 7 ≤ operands.length
    · have long : 8 ≤ ("curve" :: operands).length := by rw [List.length_cons]; omega
      rw [if_pos long, if_pos h, point_cons "curve" (by omega), point_cons "curve" (by omega),
        number_cons "curve" (by omega)]
      rfl
    · have short : ¬ 8 ≤ ("curve" :: operands).length := by rw [List.length_cons]; omega
      rw [if_neg short, if_neg h]
      rfl
  case h_14 =>
    unfold Command.ofOperator
    split
    case h_14 => rfl
    all_goals contradiction
  all_goals first
    | rfl
    | rw [integer]; rfl

/-- **Every text is a command**, and the machine reads the one that it denotes. -/
theorem parse_eq (raw : String) : parse raw = .ok (Command.parse raw) := by
  unfold parse Command.parse
  cases wordsOf raw with
  | nil => rfl
  | cons operator operands =>
    cases hd : Direction.ofWord? operator with
    | none =>
      simp only [ofWords, Command.ofWords, List.head?_cons, hd]
      exact ofOperator_eq operator operands
    | some direction =>
      simp only [ofWords, Command.ofWords, List.head?_cons, hd]
      rw [operand_cons operator operands 0]
      unfold Command.distance
      cases Command.integer? operands 0 <;> rfl

/-! ## operands -/

def integerOf : Command → Option Int
  | .rotate _ degrees => degrees
  | .record seconds => seconds
  | .wait millis => millis
  | _ => none

theorem mem_of_leadingInteger? {s : List Char} {n : Int}
    (h : Numeral.leadingInteger? s = some n) : Word64.least ≤ n ∧ n ≤ Word64.greatest := by
  obtain ⟨⟨negative, r⟩, hs⟩ : ∃ p, Numeral.signed (Text.trimStart s) = p := ⟨_, rfl⟩
  unfold Numeral.leadingInteger? at h
  cases hd : r.takeWhile Char.isDigit with
  | nil =>
    simp only [hs, hd] at h
    cases h
  | cons d ds =>
    simp only [hs, hd] at h
    rw [← Option.some.inj h]
    exact ⟨Word64.least_le_clamp _, Word64.clamp_le_greatest _⟩

theorem mem_of_integer? {i : Nat} {n : Int} (h : Command.integer? operands i = some n) :
    Word64.least ≤ n ∧ n ≤ Word64.greatest := by
  obtain ⟨w, -, read⟩ := Option.bind_eq_some_iff.mp h
  exact mem_of_leadingInteger? read

theorem integerOf_ofOperator {n : Int}
    (h : integerOf (Command.ofOperator operator operands) = some n) :
    Command.integer? operands 0 = some n := by
  unfold Command.ofOperator at h
  split at h
  case h_5 => split at h <;> cases h
  case h_6 => split at h <;> cases h
  all_goals first
    | exact h
    | cases h

theorem mem_of_integerOf_parse {raw : String} {n : Int}
    (h : integerOf (Command.parse raw) = some n) : Word64.least ≤ n ∧ n ≤ Word64.greatest := by
  unfold Command.parse at h
  cases hw : wordsOf raw with
  | nil =>
    rw [hw] at h
    cases h
  | cons operator operands =>
    rw [hw] at h
    cases hd : Direction.ofWord? operator with
    | some direction =>
      simp only [Command.ofWords, hd] at h
      cases h
    | none =>
      simp only [Command.ofWords, hd] at h
      exact mem_of_integer? (integerOf_ofOperator h)

end

end Machine

end DroneFleet
