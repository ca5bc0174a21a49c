import DroneFleet.Proofs.Machine
import DroneFleet.Proofs.Numerals
import DroneFleet.Proofs.Words

/-!
# The grammar of commands

Which command a text denotes is said here by its words, one rule for each operator, and without a
reader: operands by the numerals that they begin with or that fill them. Every text is a command, and
it is the one that is read.

* `Command.arities`        the operators, with the number of operands that each takes
* `Command.SaysInteger`, `Command.SaysNumber`   what operands say
* `Command.Denotes`        the grammar
* `Command.denotes_iff`    the command that is read is the one that the words denote
* `Command.Verdict`        a command of the operator, an incomplete one, or an unknown one
* `Command.Denotes.take`   words behind the operands of an operator are ignored
* `Command.words_decide_command`   all together
-/

namespace DroneFleet

namespace Command

/-! ## operators -/

/-- the operators, with the number of operands that each takes -/
def arities : List (String × Nat) :=
  [("takeoff", 0), ("land", 0), ("cw", 1), ("ccw", 1)] ++
    Direction.all.map (fun d => (d.word, 1)) ++
    [("go", 4), ("curve", 7), ("streamon", 0), ("streamoff", 0), ("record", 1), ("clear", 0),
      ("reset-dir", 0), ("action", 1), ("wait", 1)]

def operators : List String := arities.map Prod.fst

def arity (operator : String) : Nat := (arities.lookup operator).getD 0

/-- how many operands an operator cannot do without -/
def needed (operator : String) : Nat :=
  if operator = "go" ∨ operator = "curve" then arity operator else 0

def operator? : Command → Option String
  | .takeoff => some "takeoff"
  | .land => some "land"
  | .rotate true _ => some "cw"
  | .rotate false _ => some "ccw"
  | .move direction _ => some direction.word
  | .go _ _ => some "go"
  | .curve _ _ _ => some "curve"
  | .streamOn => some "streamon"
  | .streamOff => some "streamoff"
  | .record _ => some "record"
  | .clear => some "clear"
  | .resetDirection => some "reset-dir"
  | .action _ => some "action"
  | .wait _ => some "wait"
  | .incomplete _ => none
  | .unknown _ => none

/-! ## operands -/

/-- what an operand says as an integer: the one that it begins with, or the nearest of 64 bits. One
that begins with none says none, and neither does one that is missing. -/
inductive SaysInteger : Option String → Option Int → Prop where
  | missing : SaysInteger none none
  | unreadable {w : String} (h : ∀ n, ¬ Numeral.Begins w.toList n) : SaysInteger (some w) none
  | read {w : String} {n : Int} (h : Numeral.Begins w.toList n) :
    SaysInteger (some w) (some (Word64.clamp n))

/-- what an operand says as a coordinate: the number that fills it, rounded. One that no number fills
says that it is not a number. -/
inductive SaysNumber (w : String) : Float → Prop where
  | unreadable (h : ∀ a, ¬ Numeral.Fills w.toList a) :
    SaysNumber w Numeral.Reading.notANumber.toFloat
  | read {a : Numeral.Reading} (h : Numeral.Fills w.toList a) : SaysNumber w a.toFloat

section
variable {w : String} {n : Option Int} {x : Float}

theorem saysInteger_iff {o : Option String} (hw : ∀ w ∈ o, Text.IsWord w.toList) :
    SaysInteger o n ↔ (o.bind fun w => Numeral.leadingInteger? w.toList) = n := by
  cases o with
  | none =>
    constructor
    · intro h
      cases h
      rfl
    · rintro rfl
      exact .missing
  | some w =>
    have front : Text.trimStart w.toList = w.toList :=
      Text.trimStart_of_unblank (hw w rfl).unblank
    show _ ↔ Numeral.leadingInteger? w.toList = n
    constructor
    · intro h
      cases h with
      | unreadable h => exact Numeral.leadingInteger?_eq_none_iff.mpr (front.symm ▸ h)
      | read h => exact Numeral.leadingInteger?_of_begins (front.symm ▸ h)
    · rintro rfl
      cases hm : Numeral.leadingInteger? w.toList with
      | none => exact .unreadable (front ▸ Numeral.leadingInteger?_eq_none_iff.mp hm)
      | some m =>
        obtain ⟨n, hn, rfl⟩ := Numeral.leadingInteger?_eq_some_iff.mp hm
        exact .read (front ▸ hn)

theorem saysNumber_iff (hw : Text.IsWord w.toList) :
    SaysNumber w x ↔ Numeral.toFloat w.toList = x := by
  have whole : Text.trim w.toList = w.toList := Text.trim_of_unblank hw.unblank
  have some : Text.trim w.toList ≠ [] := whole.symm ▸ hw.ne_nil
  unfold Numeral.toFloat
  constructor
  · intro h
    cases h with
    | unreadable h => rw [Numeral.read_eq_notANumber some (whole.symm ▸ h)]
    | read h => rw [Numeral.read_of_fills (whole.symm ▸ h)]
  · rintro rfl
    by_cases h : Numeral.read w.toList = .notANumber
    · rw [h]
      refine .unreadable fun a ha => ha.ne_notANumber ?_
      have read : Numeral.read w.toList = a := Numeral.read_of_fills (whole.symm ▸ ha)
      rw [← read, h]
    · have filled := Numeral.fills_of_read some h
      rw [whole] at filled
      exact .read filled

end

/-! ## the grammar -/

/-- the command that words denote; the first is the operator -/
inductive Denotes : List String → Command → Prop where
  | blank : Denotes [] (.unknown "")
  | unknown {operator : String} (h : operator ∉ operators) (r : List String) :
    Denotes (operator :: r) (.unknown operator)
  | takeoff (r : List String) : Denotes ("takeoff" :: r) .takeoff
  | land (r : List String) : Denotes ("land" :: r) .land
  | cw {r : List String} {n : Option Int} (hn : SaysInteger r.head? n) :
    Denotes ("cw" :: r) (.rotate true n)
  | ccw {r : List String} {n : Option Int} (hn : SaysInteger r.head? n) :
    Denotes ("ccw" :: r) (.rotate false n)
  | move (d : Direction) {r : List String} {n : Option Int} (hn : SaysInteger r.head? n) :
    Denotes (d.word :: r) (.move d (n.elim Numeral.Reading.notANumber.toFloat Float.ofInt))
  | go {x y z v : String} {p : Point Float} {speed : Float} (r : List String)
      (hx : SaysNumber x p.x) (hy : SaysNumber y p.y) (hz : SaysNumber z p.z)
      (hv : SaysNumber v speed) :
    Denotes ("go" :: x :: y :: z :: v :: r) (.go p speed)
  | goShort {r : List String} (h : r.length < 4) : Denotes ("go" :: r) (.incomplete "go")
  | curve {a b c x y z v : String} {p q : Point Float} {speed : Float} (r : List String)
      (ha : SaysNumber a p.x) (hb : SaysNumber b p.y) (hc : SaysNumber c p.z)
      (hx : SaysNumber x q.x) (hy : SaysNumber y q.y) (hz : SaysNumber z q.z)
      (hv : SaysNumber v speed) :
    Denotes ("curve" :: a :: b :: c :: x :: y :: z :: v :: r) (.curve p q speed)
  | curveShort {r : List String} (h : r.length < 7) : Denotes ("curve" :: r) (.incomplete "curve")
  | streamOn (r : List String) : Denotes ("streamon" :: r) .streamOn
  | streamOff (r : List String) : Denotes ("streamoff" :: r) .streamOff
  | record {r : List String} {n : Option Int} (hn : SaysInteger r.head? n) :
    Denotes ("record" :: r) (.record n)
  | clear (r : List String) : Denotes ("clear" :: r) .clear
  | resetDirection (r : List String) : Denotes ("reset-dir" :: r) .resetDirection
  | action (r : List String) : Denotes ("action" :: r) (.action r.head?)
  | wait {r : List String} {n : Option Int} (hn : SaysInteger r.head? n) :
    Denotes ("wait" :: r) (.wait n)

/-! ## what is read is what the words denote -/

section
variable {operator : String} {r ws : List String} {n : Option Int} {c : Command}

theorem ofWord?_of_not_mem (h : operator ∉ operators) : Direction.ofWord? operator = none := by
  cases hd : Direction.ofWord? operator with
  | none => rfl
  | some d =>
    refine absurd ?_ h
    rw [← Direction.word_of_ofWord? hd]
    cases d <;> decide

theorem ofOperator_of_not_mem (h : operator ∉ operators) (r : List String) :
    ofOperator operator r = .unknown operator := by
  unfold ofOperator
  split
  case h_14 => rfl
  all_goals exact absurd (by decide) h

theorem integer?_of_says (hw : ∀ w ∈ operator :: r, Text.IsWord w.toList)
    (hn : SaysInteger r.head? n) : integer? r 0 = n := by
  unfold integer?
  rw [← List.head?_eq_getElem?]
  exact (saysInteger_iff fun w hm =>
    hw w (List.mem_cons_of_mem _ (List.mem_of_mem_head? hm))).mp hn

theorem says_integer? (hw : ∀ w ∈ operator :: r, Text.IsWord w.toList) :
    SaysInteger r.head? (integer? r 0) := by
  unfold integer?
  rw [← List.head?_eq_getElem?]
  exact (saysInteger_iff fun w hm =>
    hw w (List.mem_cons_of_mem _ (List.mem_of_mem_head? hm))).mpr rfl

theorem distance_eq (r : List String) :
    distance r = (integer? r 0).elim Numeral.Reading.notANumber.toFloat Float.ofInt := by
  unfold distance
  cases integer? r 0 <;> rfl

theorem ofWords_go (x y z v : String) (r : List String) :
    ofWords ("go" :: x :: y :: z :: v :: r) =
      .go ⟨Numeral.toFloat x.toList, Numeral.toFloat y.toList, Numeral.toFloat z.toList⟩
        (Numeral.toFloat v.toList) := rfl

theorem ofWords_curve (a b c x y z v : String) (r : List String) :
    ofWords ("curve" :: a :: b :: c :: x :: y :: z :: v :: r) =
      .curve ⟨Numeral.toFloat a.toList, Numeral.toFloat b.toList, Numeral.toFloat c.toList⟩
        ⟨Numeral.toFloat x.toList, Numeral.toFloat y.toList, Numeral.toFloat z.toList⟩
        (Numeral.toFloat v.toList) := rfl

theorem ofWords_goShort (h : r.length < 4) : ofWords ("go" :: r) = .incomplete "go" :=
  if_neg (Nat.not_le_of_lt h)

theorem ofWords_curveShort (h : r.length < 7) : ofWords ("curve" :: r) = .incomplete "curve" :=
  if_neg (Nat.not_le_of_lt h)

theorem Denotes.ofWords_eq (h : Denotes ws c) (hw : ∀ w ∈ ws, Text.IsWord w.toList) :
    ofWords ws = c := by
  have number : ∀ {w x}, w ∈ ws → SaysNumber w x → Numeral.toFloat w.toList = x :=
    fun hm hx => (saysNumber_iff (hw _ hm)).mp hx
  cases h with
  | unknown h r =>
    simp only [ofWords, ofWord?_of_not_mem h]
    exact ofOperator_of_not_mem h r
  | cw hn =>
    rw [← integer?_of_says hw hn]
    rfl
  | ccw hn =>
    rw [← integer?_of_says hw hn]
    rfl
  | move d hn => simp only [ofWords, Direction.ofWord?_word, distance_eq, integer?_of_says hw hn]
  | go r hx hy hz hv =>
    rw [ofWords_go, number (by simp) hx, number (by simp) hy, number (by simp) hz,
      number (by simp) hv]
  | goShort h => exact ofWords_goShort h
  | curve r ha hb hc hx hy hz hv =>
    rw [ofWords_curve, number (by simp) ha, number (by simp) hb, number (by simp) hc,
      number (by simp) hx, number (by simp) hy, number (by simp) hz, number (by simp) hv]
  | curveShort h => exact ofWords_curveShort h
  | record hn =>
    rw [← integer?_of_says hw hn]
    rfl
  | action r =>
    rw [List.head?_eq_getElem?]
    rfl
  | wait hn =>
    rw [← integer?_of_says hw hn]
    rfl
  | _ => rfl

theorem parse_of_denotes {raw : String} (h : HasWords raw ws) (hc : Denotes ws c) :
    parse raw = c := by
  unfold parse
  rw [hasWords_iff.mp h]
  exact hc.ofWords_eq h.isWord

theorem says_toFloat (hw : ∀ w ∈ ws, Text.IsWord w.toList) :
    ∀ w ∈ ws, SaysNumber w (Numeral.toFloat w.toList) :=
  fun w hm => (saysNumber_iff (hw w hm)).mpr rfl

theorem exists_of_four {r : List String} (h : 4 ≤ r.length) :
    ∃ x y z v rest, r = x :: y :: z :: v :: rest := by
  match r, h with
  | x :: y :: z :: v :: rest, _ => exact ⟨x, y, z, v, rest, rfl⟩

theorem exists_of_seven {r : List String} (h : 7 ≤ r.length) :
    ∃ a b c x y z v rest, r = a :: b :: c :: x :: y :: z :: v :: rest := by
  match r, h with
  | a :: b :: c :: x :: y :: z :: v :: rest, _ => exact ⟨a, b, c, x, y, z, v, rest, rfl⟩

theorem exists_denotes (hw : ∀ w ∈ ws, Text.IsWord w.toList) : ∃ c, Denotes ws c := by
  cases ws with
  | nil => exact ⟨_, .blank⟩
  | cons operator r =>
    have integer := says_integer? hw
    have number := says_toFloat hw
    by_cases ho : operator ∈ operators
    · simp only [operators, arities, Direction.all, Direction.word, List.map_cons, List.map_nil,
        List.cons_append, List.nil_append, List.mem_cons, List.not_mem_nil, or_false] at ho
      rcases ho with rfl | rfl | rfl | rfl | rfl | rfl | rfl | rfl | rfl | rfl | rfl | rfl | rfl |
        rfl | rfl | rfl | rfl | rfl | rfl
      · exact ⟨_, .takeoff r⟩
      · exact ⟨_, .land r⟩
      · exact ⟨_, .cw integer⟩
      · exact ⟨_, .ccw integer⟩
      · exact ⟨_, .move .forward integer⟩
      · exact ⟨_, .move .back integer⟩
      · exact ⟨_, .move .left integer⟩
      · exact ⟨_, .move .right integer⟩
      · exact ⟨_, .move .up integer⟩
      · exact ⟨_, .move .down integer⟩
      · by_cases enough : 4 ≤ r.length
        · obtain ⟨x, y, z, v, rest, rfl⟩ := exists_of_four enough
          exact ⟨.go ⟨_, _, _⟩ _, .go rest (number x (by simp)) (number y (by simp))
            (number z (by simp)) (number v (by simp))⟩
        · exact ⟨_, .goShort (Nat.lt_of_not_le enough)⟩
      · by_cases enough : 7 ≤ r.length
        · obtain ⟨a, b, c, x, y, z, v, rest, rfl⟩ := exists_of_seven enough
          exact ⟨.curve ⟨_, _, _⟩ ⟨_, _, _⟩ _, .curve rest (number a (by simp))
            (number b (by simp)) (number c (by simp)) (number x (by simp)) (number y (by simp))
            (number z (by simp)) (number v (by simp))⟩
        · exact ⟨_, .curveShort (Nat.lt_of_not_le enough)⟩
      · exact ⟨_, .streamOn r⟩
      · exact ⟨_, .streamOff r⟩
      · exact ⟨_, .record integer⟩
      · exact ⟨_, .clear r⟩
      · exact ⟨_, .resetDirection r⟩
      · exact ⟨_, .action r⟩
      · exact ⟨_, .wait integer⟩
    · exact ⟨_, .unknown ho r⟩

/-- the command that is read is the one that the words denote -/
theorem denotes_iff (hw : ∀ w ∈ ws, Text.IsWord w.toList) : Denotes ws c ↔ ofWords ws = c := by
  refine ⟨fun h => h.ofWords_eq hw, ?_⟩
  rintro rfl
  obtain ⟨c, h⟩ := exists_denotes hw
  rw [h.ofWords_eq hw]
  exact h

end

/-! ## what the operator decides -/

/-- what becomes of a text by its words: a command of its operator, an incomplete one if the operator
lacks operands, or an unknown one if there is no such operator -/
inductive Verdict : List String → Command → Prop where
  | blank : Verdict [] (.unknown "")
  | unknown {operator : String} {r : List String} (h : operator ∉ operators) :
    Verdict (operator :: r) (.unknown operator)
  | incomplete {operator : String} {r : List String} (h : r.length < needed operator) :
    Verdict (operator :: r) (.incomplete operator)
  | known {operator : String} {r : List String} {c : Command} (h : operator ∈ operators)
      (hr : needed operator ≤ r.length) (hc : c.operator? = some operator) :
    Verdict (operator :: r) c

theorem operator_mem (d : Direction) : d.word ∈ operators := by
  cases d <;> decide

theorem needed_word (d : Direction) : needed d.word = 0 := by
  cases d <;> rfl

theorem arity_word (d : Direction) : arity d.word = 1 := by
  cases d <;> rfl

section
variable {operator : String} {r more ws : List String} {n : Option Int} {c : Command}

theorem Denotes.verdict (h : Denotes ws c) : Verdict ws c := by
  cases h with
  | blank => exact .blank
  | unknown h r => exact .unknown h
  | goShort h => exact .incomplete h
  | curveShort h => exact .incomplete h
  | move d hn => exact .known (operator_mem d) ((needed_word d).symm ▸ Nat.zero_le _) rfl
  | go r hx hy hz hv =>
    refine .known (by decide) ?_ rfl
    show 4 ≤ _
    simp
  | curve r ha hb hc hx hy hz hv =>
    refine .known (by decide) ?_ rfl
    show 7 ≤ _
    simp
  | _ => exact .known (by decide) (Nat.zero_le _) rfl

theorem head?_of_take (h : r.take 1 = more.take 1) : r.head? = more.head? := by
  cases r with
  | nil =>
    cases more with
    | nil => rfl
    | cons w more => cases h
  | cons v r =>
    cases more with
    | nil => cases h
    | cons w more => exact congrArg some (List.cons.inj h).1

theorem length_lt_of_take {k : Nat} (h : r.take k = more.take k) (hr : r.length < k) :
    more.length < k := by
  have same := congrArg List.length h
  rw [List.length_take, List.length_take] at same
  omega

theorem append_drop_of_take (front : List String)
    (h : (front ++ r).take front.length = more.take front.length) :
    front ++ more.drop front.length = more := by
  rw [List.take_left] at h
  have parts := List.take_append_drop front.length more
  rw [← h] at parts
  exact parts

/-- words behind the operands of an operator are ignored -/
theorem Denotes.take (h : Denotes (operator :: r) c)
    (hm : r.take (arity operator) = more.take (arity operator)) : Denotes (operator :: more) c := by
  cases h with
  | unknown h r => exact .unknown h more
  | takeoff r => exact .takeoff more
  | land r => exact .land more
  | cw hn => exact .cw (head?_of_take hm ▸ hn)
  | ccw hn => exact .ccw (head?_of_take hm ▸ hn)
  | move d hn =>
    rw [arity_word] at hm
    exact .move d (head?_of_take hm ▸ hn)
  | @go x y z v p speed r hx hy hz hv =>
    rw [← append_drop_of_take [x, y, z, v] hm]
    exact .go _ hx hy hz hv
  | goShort h => exact .goShort (length_lt_of_take hm h)
  | @curve a b c x y z v p q speed r ha hb hc hx hy hz hv =>
    rw [← append_drop_of_take [a, b, c, x, y, z, v] hm]
    exact .curve _ ha hb hc hx hy hz hv
  | curveShort h => exact .curveShort (length_lt_of_take hm h)
  | streamOn r => exact .streamOn more
  | streamOff r => exact .streamOff more
  | record hn => exact .record (head?_of_take hm ▸ hn)
  | clear r => exact .clear more
  | resetDirection r => exact .resetDirection more
  | action r =>
    rw [head?_of_take hm]
    exact .action more
  | wait hn => exact .wait (head?_of_take hm ▸ hn)

end

/-- **The words of a text decide which command it denotes.** Every text falls into words in one way,
and the command that is read is the one that the grammar gives to them: an unknown one without
operator if there are no words, an unknown one of the first word if that is none of the operators, an
incomplete one if `go` or `curve` lacks operands, and a command of the operator in every other case,
whatever the operands are. No operand is looked for that is not there, and no word behind the operands
is looked at. -/
theorem words_decide_command (raw : String) :
    ∃ ws, (∀ vs, HasWords raw vs ↔ vs = ws) ∧ (∀ c, Denotes ws c ↔ parse raw = c) ∧
      Verdict ws (parse raw) ∧ Machine.parse raw = .ok (parse raw) ∧
      ∀ other operator operands more, ws = operator :: operands →
        HasWords other (operator :: more) →
        operands.take (arity operator) = more.take (arity operator) → parse other = parse raw := by
  have words : ∀ w ∈ wordsOf raw, Text.IsWord w.toList := (hasWords_wordsOf raw).isWord
  have denoted : Denotes (wordsOf raw) (parse raw) := (denotes_iff words).mpr rfl
  refine ⟨wordsOf raw, fun vs => ?_, fun c => denotes_iff words, denoted.verdict,
    Machine.parse_eq raw, ?_⟩
  · rw [hasWords_iff]
    exact eq_comm
  · intro other operator operands more hw ho hm
    rw [hw] at denoted
    have same := (denoted.take hm).ofWords_eq ho.isWord
    rw [← hasWords_iff.mp ho] at same
    exact same

/-- a coordinate with a letter behind it, an infinite speed, and more words than operands -/
theorem words_decide_go :
    HasWords " go\t1 2x .5e1 -Infinity" ["go", "1", "2x", ".5e1", "-Infinity"] ∧
      HasWords "go 1 2x .5e1 -Infinity up 7" ["go", "1", "2x", ".5e1", "-Infinity", "up", "7"] ∧
      (∃ x z, parse " go\t1 2x .5e1 -Infinity" = .go ⟨x, Numeral.Reading.notANumber.toFloat, z⟩
        (Numeral.Reading.infinite true).toFloat) ∧
      parse "go 1 2x .5e1 -Infinity up 7" = parse " go\t1 2x .5e1 -Infinity" := by
  obtain ⟨ws, only, denoted, -, -, ignored⟩ := words_decide_command " go\t1 2x .5e1 -Infinity"
  have words : HasWords " go\t1 2x .5e1 -Infinity" ["go", "1", "2x", ".5e1", "-Infinity"] :=
    hasWords_iff.mpr (by decide +kernel)
  have others :
      HasWords "go 1 2x .5e1 -Infinity up 7" ["go", "1", "2x", ".5e1", "-Infinity", "up", "7"] :=
    hasWords_iff.mpr (by decide +kernel)
  have ws_eq := (only _).mp words
  subst ws_eq
  have number : ∀ w ∈ ["go", "1", "2x", ".5e1", "-Infinity"],
      SaysNumber w (Numeral.toFloat w.toList) :=
    fun w hm => (saysNumber_iff (words.isWord w hm)).mpr rfl
  have junk : Numeral.read "2x".toList = .notANumber := by decide +kernel
  have infinite : Numeral.read "-Infinity".toList = .infinite true := by decide +kernel
  have spoilt := number "2x" (by simp)
  have speed := number "-Infinity" (by simp)
  unfold Numeral.toFloat at spoilt speed
  rw [junk] at spoilt
  rw [infinite] at speed
  have go : Denotes ["go", "1", "2x", ".5e1", "-Infinity"]
      (.go ⟨Numeral.toFloat "1".toList, Numeral.Reading.notANumber.toFloat,
        Numeral.toFloat ".5e1".toList⟩ (Numeral.Reading.infinite true).toFloat) :=
    .go [] (number "1" (by simp)) spoilt (number ".5e1" (by simp)) speed
  exact ⟨words, others, ⟨_, _, (denoted _).mp go⟩, ignored _ "go" _ _ rfl others rfl⟩

end Command

end DroneFleet
