import DroneFleet.Proofs.Detours
import DroneFleet.Proofs.Grammar
import DroneFleet.Proofs.Headings
import Mathlib.Algebra.BigOperators.Group.List.Basic
import Mathlib.Algebra.Ring.Int.Defs
import Mathlib.Data.List.Perm.Basic

/-!
# Turns

A drone takes its turns modulo a full turn, one after the other and in 64 bits. What it comes to is the
sum of all of them, without bound, modulo a full turn: nothing is lost on the way, and their order does
not matter. The turn back to north is one of them; it is printed into the queue and read again.

* `Command.TurnsBy`        the degrees that a text turns a drone by
* `Flight.turned`          a flight with the drone turned by any number of degrees
* `Machine.executeAll`     texts carried out one after the other
* `Flight.turns_add_up`    turns add up
* `Flight.correction`, `Flight.leveled`   the turn back to north as a text, and what it leads to
* `Flight.reset_levels_heading`   a drone that resets its heading faces north, and nothing else changes
-/

namespace DroneFleet

namespace Command

/-- do the words of a text ask for a turn? -/
def IsTurn (raw : String) : Prop :=
  ∃ operands, HasWords raw ("cw" :: operands) ∨ HasWords raw ("ccw" :: operands)

/-- the degrees that a text turns a drone by, clockwise: none if its operand is missing or unreadable -/
inductive TurnsBy : String → Int → Prop where
  | right {raw : String} {operands : List String} {n : Option Int}
      (h : HasWords raw ("cw" :: operands)) (hn : SaysInteger operands.head? n) :
    TurnsBy raw (n.getD 0)
  | left {raw : String} {operands : List String} {n : Option Int}
      (h : HasWords raw ("ccw" :: operands)) (hn : SaysInteger operands.head? n) :
    TurnsBy raw (-n.getD 0)

section
variable {raw : String}

theorem IsTurn.exists_turnsBy (h : IsTurn raw) : ∃ degrees, TurnsBy raw degrees := by
  obtain ⟨operands, h | h⟩ := h
  · exact ⟨_, .right h (says_integer? h.isWord)⟩
  · exact ⟨_, .left h (says_integer? h.isWord)⟩

theorem exists_turns {raws : List String} (h : ∀ raw ∈ raws, IsTurn raw) :
    ∃ turns, List.Forall₂ TurnsBy raws turns := by
  induction raws with
  | nil => exact ⟨[], .nil⟩
  | cons raw raws ih =>
    obtain ⟨degrees, first⟩ := (h raw List.mem_cons_self).exists_turnsBy
    obtain ⟨turns, rest⟩ := ih fun raw hr => h raw (List.mem_cons_of_mem _ hr)
    exact ⟨degrees :: turns, .cons first rest⟩

end

end Command

namespace Flight

def turned (degrees : Int) (f : Flight) : Flight :=
  { f with drone := { f.drone with yaw := (f.drone.yaw + degrees) % 360 } }

section
variable {f : Flight} {raw : String} {degrees : Int}

theorem yaw_turned (degrees : Int) (f : Flight) :
    (f.turned degrees).drone.yaw = (f.drone.yaw + degrees) % 360 := rfl

theorem turned_zero (h : Heading.Normal f.drone.yaw) : f.turned 0 = f := by
  have ⟨least, greatest⟩ := h
  unfold Heading.fullTurn at greatest
  have same : (f.drone.yaw + 0) % 360 = f.drone.yaw := by omega
  unfold turned
  rw [same]

theorem turned_turned (m n : Int) (f : Flight) : (f.turned m).turned n = f.turned (m + n) := by
  have sum : ((f.drone.yaw + m) % 360 + n) % 360 = (f.drone.yaw + (m + n)) % 360 := by omega
  unfold turned
  rw [sum]

theorem normal_turned (degrees : Int) (f : Flight) :
    Heading.Normal (f.turned degrees).drone.yaw := by
  unfold Heading.Normal Heading.fullTurn
  rw [yaw_turned]
  omega

theorem apply_rotate (s : FlightSettings) (h : Heading.Normal f.drone.yaw) (right : Bool)
    (n : Option Int) :
    f.apply s (.rotate right n) = f.turned (if right then n.getD 0 else -n.getD 0) := by
  cases n with
  | none =>
    have still : (if right then (none : Option Int).getD 0 else -(none : Option Int).getD 0) = 0 := by
      cases right <;> rfl
    rw [still, turned_zero h]
    rfl
  | some degrees =>
    cases right with
    | true =>
      have sum := Heading.clockwise_eq f.drone.yaw degrees
      show { f with drone := { f.drone with yaw := Heading.clockwise _ _ } } = _
      rw [sum]
      rfl
    | false =>
      have sum := Heading.counterclockwise_eq f.drone.yaw degrees
      show { f with drone := { f.drone with yaw := Heading.counterclockwise _ _ } } = _
      rw [sum]
      rfl

theorem apply_of_turnsBy (s : FlightSettings) (h : Heading.Normal f.drone.yaw)
    (ht : Command.TurnsBy raw degrees) : f.apply s (.parse raw) = f.turned degrees := by
  cases ht with
  | right hw hn =>
    rw [Command.parse_of_denotes hw (.cw hn), apply_rotate s h]
    rfl
  | left hw hn =>
    rw [Command.parse_of_denotes hw (.ccw hn), apply_rotate s h]
    rfl

end

end Flight

/-! ## turns on a machine -/

namespace Machine

/-- texts read and carried out one after the other -/
def executeAll (s : FlightSettings) : List String → Flight → Checked Flight
  | [], f => return f
  | raw :: raws, f => do
    let (g, _) ← execute s raw f
    executeAll s raws g

theorem executeAll_cons (s : FlightSettings) {raw : String} {f g : Flight} {millis : Nat}
    (h : execute s raw f = .ok (g, millis)) (raws : List String) :
    executeAll s (raw :: raws) f = executeAll s raws g := by
  rw [executeAll, h]
  rfl

/-- turns add up on a machine, without a fault -/
theorem executeAll_of_turns (s : FlightSettings) {f : Flight} (h : Heading.Normal f.drone.yaw)
    {raws : List String} {turns : List Int} (ht : List.Forall₂ Command.TurnsBy raws turns) :
    executeAll s raws f = .ok (f.turned turns.sum) := by
  induction ht generalizing f with
  | nil =>
    rw [List.sum_nil, Flight.turned_zero h]
    rfl
  | @cons raw degrees raws turns first rest ih =>
    have done := execute_eq s raw h
    rw [Flight.apply_of_turnsBy s h first] at done
    rw [executeAll_cons s done, ih (Flight.normal_turned degrees f), Flight.turned_turned,
      List.sum_cons]

end Machine

/-! ## turns in a queue -/

namespace Flight

section
variable {f : Flight} {raw : String} {raws rest : List String} {degrees : Int} {turns : List Int}

theorem fly_one {s : FlightSettings} {x : Stride} {g : Flight} (h : f.stride? s = some (x, g)) :
    f.fly s 1 = some ([x], g) :=
  fly_succ_of_some h

theorem fly_two {s : FlightSettings} {x y : Stride} {g k : Flight}
    (h : f.stride? s = some (x, g)) (hg : g.stride? s = some (y, k)) :
    f.fly s 2 = some ([x, y], k) := by
  rw [fly_succ_of_some h, fly_one hg]
  rfl

theorem exists_stride (s : FlightSettings) (hq : f.drone.queue = raw :: rest) :
    ∃ x, x.command = raw ∧ f.stride? s = some (x, (f.pop raw rest).apply s (.parse raw)) :=
  ⟨_, rfl, stride?_of_cons hq⟩

/-- turns at the front of a queue are executed one after the other, and they add up -/
theorem fly_of_turns (s : FlightSettings) (h : Heading.Normal f.drone.yaw)
    (ht : List.Forall₂ Command.TurnsBy raws turns) (hq : f.drone.queue = raws ++ rest) :
    ∃ xs g, f.fly s raws.length = some (xs, g) ∧ xs.map Stride.command = raws ∧
      g.drone.queue = rest ∧ g.drone.yaw = (f.drone.yaw + turns.sum) % 360 := by
  induction ht generalizing f with
  | nil =>
    have level := congrArg (fun f => f.drone.yaw) (turned_zero h)
    exact ⟨[], f, rfl, rfl, hq, level.symm⟩
  | @cons raw degrees raws turns first _ ih =>
    have front : f.drone.queue = raw :: (raws ++ rest) := hq
    obtain ⟨x, command, stride⟩ := exists_stride s front
    rw [apply_of_turnsBy s (show Heading.Normal (f.pop raw _).drone.yaw from h) first] at stride
    obtain ⟨xs, g, run, commands, queue, heading⟩ :=
      ih (f := (f.pop raw (raws ++ rest)).turned degrees) (normal_turned degrees _) rfl
    refine ⟨x :: xs, g, ?_, ?_, queue, ?_⟩
    · rw [List.length_cons, fly_succ_of_some stride, run]
      rfl
    · rw [List.map_cons, command, commands]
    · have sum := congrArg (fun f => f.drone.yaw) (turned_turned degrees turns.sum f)
      rw [heading, List.sum_cons]
      exact sum

end

/-- **Turns add up.** However many texts ask a drone to turn to the right or to the left, by operands
of any size and sign, and with nothing for operands that are missing or unreadable: what the drone
faces after all of them is what it faced before and their sum, modulo a full turn. It gets there in 64
bits and without a fault, and so does a drone that executes them from its queue. Their order does not
matter, and a turn to the left takes back a turn to the right by the same operand. -/
theorem turns_add_up (s : FlightSettings) (f : Flight) (h : Heading.Normal f.drone.yaw)
    (raws : List String) (hr : ∀ raw ∈ raws, Command.IsTurn raw) :
    (∃ turns, List.Forall₂ Command.TurnsBy raws turns) ∧
      (∀ turns, List.Forall₂ Command.TurnsBy raws turns →
        Machine.executeAll s raws f = .ok (f.turned turns.sum) ∧
        (f.turned turns.sum).drone.yaw = (f.drone.yaw + turns.sum) % 360 ∧
        ∀ rest, f.drone.queue = raws ++ rest →
          ∃ xs g, f.fly s raws.length = some (xs, g) ∧ xs.map Stride.command = raws ∧
            g.drone.queue = rest ∧ g.drone.yaw = (f.drone.yaw + turns.sum) % 360) ∧
      (∀ others : List String, others.Perm raws →
        Machine.executeAll s others f = Machine.executeAll s raws f) ∧
      ∀ right left operands more, HasWords right ("cw" :: operands) →
        HasWords left ("ccw" :: more) → operands.head? = more.head? →
        Machine.executeAll s [right, left] f = .ok f := by
  obtain ⟨turns, ht⟩ := Command.exists_turns hr
  refine ⟨⟨turns, ht⟩, fun turns ht => ?_, fun others hp => ?_, ?_⟩
  · exact ⟨Machine.executeAll_of_turns s h ht, rfl, fun rest hq => fly_of_turns s h ht hq⟩
  · obtain ⟨same, hs, permuted⟩ := List.perm_comp_forall₂ hp ht
    rw [Machine.executeAll_of_turns s h hs, Machine.executeAll_of_turns s h ht, permuted.sum_eq]
  · intro right left operands more hright hleft same
    have operand := Command.says_integer? hright.isWord
    have there := Command.TurnsBy.right hright operand
    have back := Command.TurnsBy.left hleft (same ▸ operand)
    have sum : ∀ n : Int, [n, -n].sum = 0 := fun n => by simp
    rw [Machine.executeAll_of_turns s h (.cons there (.cons back .nil)), sum, turned_zero h]

/-- a drone that almost faces north is turned beyond 64 bits on the one side, by a numeral with a letter
behind it, by nothing, and to the end of 64 bits on the other side -/
theorem turns_add_up_beyond_words :
    Heading.Normal 359 ∧
    (∀ raw ∈ ["cw -9223372036854775809", "ccw 1x", "ccw left", "cw 9223372036854775807"],
      Command.IsTurn raw) ∧
    Machine.executeAll {}
        ["cw -9223372036854775809", "ccw 1x", "ccw left", "cw 9223372036854775807"]
        ⟨{ adrift with yaw := 359 }, none⟩ =
      .ok ⟨{ adrift with yaw := 357 }, none⟩ := by
  have least : HasWords "cw -9223372036854775809" ["cw", "-9223372036854775809"] :=
    hasWords_iff.mpr (by decide +kernel)
  have one : HasWords "ccw 1x" ["ccw", "1x"] := hasWords_iff.mpr (by decide +kernel)
  have nothing : HasWords "ccw left" ["ccw", "left"] := hasWords_iff.mpr (by decide +kernel)
  have greatest : HasWords "cw 9223372036854775807" ["cw", "9223372036854775807"] :=
    hasWords_iff.mpr (by decide +kernel)
  have turns : List.Forall₂ Command.TurnsBy
      ["cw -9223372036854775809", "ccw 1x", "ccw left", "cw 9223372036854775807"]
      [-9223372036854775808, -1, 0, 9223372036854775807] := by
    refine .cons ?_ (.cons ?_ (.cons ?_ (.cons ?_ .nil)))
    · exact .right least (Command.says_integer? least.isWord)
    · exact .left one (Command.says_integer? one.isWord)
    · exact .left nothing (Command.says_integer? nothing.isWord)
    · exact .right greatest (Command.says_integer? greatest.isWord)
  have asked : ∀ raw ∈ ["cw -9223372036854775809", "ccw 1x", "ccw left",
      "cw 9223372036854775807"], Command.IsTurn raw := by
    simp only [List.forall_mem_cons]
    exact ⟨⟨_, .inl least⟩, ⟨_, .inr one⟩, ⟨_, .inr nothing⟩, ⟨_, .inl greatest⟩, nofun⟩
  have normal : Heading.Normal 359 := by decide
  have sum : (359 + [-9223372036854775808, -1, 0, 9223372036854775807].sum : Int) % 360 = 357 := by
    decide
  obtain ⟨-, sums, -, -⟩ := turns_add_up {} ⟨{ adrift with yaw := 359 }, none⟩ normal _ asked
  obtain ⟨run, -, -⟩ := sums _ turns
  refine ⟨normal, asked, run.trans ?_⟩
  unfold turned
  rw [sum]

/-! ## back to north -/

/-- the turn back to north, as it is printed into the queue -/
def correction (yaw : Int) : String := "ccw " ++ integerString yaw

def leveled (raw : String) (rest : List String) (f : Flight) : Flight :=
  { f with drone := { f.drone with yaw := 0, queue := rest, status := .executing raw } }

section
variable {f : Flight} {raw : String} {rest operands : List String}

theorem pop_eq_leveled (h : f.drone.yaw = 0) : f.pop raw rest = f.leveled raw rest := by
  unfold leveled
  rw [← h]
  rfl

theorem turned_neg_yaw (raw : String) (rest : List String) (f : Flight) :
    (f.pop raw rest).turned (-f.drone.yaw) = f.leveled raw rest := by
  have north : (f.drone.yaw + -f.drone.yaw) % 360 = 0 := by omega
  show { f with drone := { f.drone with
    yaw := (f.drone.yaw + -f.drone.yaw) % 360, queue := rest, status := .executing raw } } = _
  rw [north]
  rfl

theorem apply_resetDirection_of_zero (s : FlightSettings) (h : f.drone.yaw = 0) :
    f.apply s .resetDirection = f :=
  if_neg (by omega)

theorem apply_resetDirection (s : FlightSettings) (h : 0 < f.drone.yaw) :
    f.apply s .resetDirection =
      { f with drone := { f.drone with queue := correction f.drone.yaw :: f.drone.queue } } :=
  if_pos h

theorem parse_correction {yaw : Int} (h : Heading.Normal yaw) :
    Command.parse (correction yaw) = .rotate false (some yaw) := by
  have ⟨least, greatest⟩ := h
  unfold Heading.fullTurn at greatest
  refine parse_ccw ?_ ?_
  · unfold Word64.least
    omega
  · unfold Word64.greatest
    omega

theorem apply_correction (s : FlightSettings) (h : Heading.Normal f.drone.yaw) :
    (f.pop (correction f.drone.yaw) rest).apply s (.parse (correction f.drone.yaw)) =
      f.leveled (correction f.drone.yaw) rest := by
  rw [parse_correction h, apply_rotate s (show Heading.Normal (f.pop _ rest).drone.yaw from h)]
  exact turned_neg_yaw _ rest f

end

/-- **A drone that resets its heading faces north, and nothing else changes.** If it does already, that
takes one step. If not, the first step prints a turn to the left in front of what is left of the queue,
which is read again as the turn by the whole heading, and the second step leads to north. What was left
of the queue is still left, and all that is different besides the heading is the command shown. -/
theorem reset_levels_heading (s : FlightSettings) (f : Flight) (h : Heading.Normal f.drone.yaw)
    {raw : String} {operands rest : List String} (hr : HasWords raw ("reset-dir" :: operands))
    (hq : f.drone.queue = raw :: rest) :
    (f.drone.yaw = 0 →
      ∃ x, x.command = raw ∧ f.fly s 1 = some ([x], f.leveled raw rest)) ∧
    (f.drone.yaw ≠ 0 →
      ∃ x y, x.command = raw ∧ y.command = correction f.drone.yaw ∧
        f.fly s 1 = some ([x], f.pop raw (correction f.drone.yaw :: rest)) ∧
        Command.parse (correction f.drone.yaw) = .rotate false (some f.drone.yaw) ∧
        f.fly s 2 = some ([x, y], f.leveled (correction f.drone.yaw) rest)) := by
  obtain ⟨x, shown, stride⟩ := exists_stride s hq
  rw [Command.parse_of_denotes hr (.resetDirection operands)] at stride
  refine ⟨fun north => ⟨x, shown, ?_⟩, fun astray => ?_⟩
  · rw [apply_resetDirection_of_zero s (show (f.pop raw rest).drone.yaw = 0 from north),
      pop_eq_leveled north] at stride
    exact fly_one stride
  · have east : 0 < (f.pop raw rest).drone.yaw := by
      have ⟨least, _⟩ := h
      show 0 < f.drone.yaw
      omega
    rw [apply_resetDirection s east] at stride
    have front : (f.pop raw (correction f.drone.yaw :: rest)).drone.queue =
        correction f.drone.yaw :: rest := rfl
    have level : ((f.pop raw (correction f.drone.yaw :: rest)).pop (correction f.drone.yaw)
        rest).apply s (.parse (correction f.drone.yaw)) = f.leveled (correction f.drone.yaw) rest :=
      apply_correction s h
    obtain ⟨y, corrected, back⟩ := exists_stride s front
    rw [level] at back
    exact ⟨x, y, shown, corrected, fly_one stride, parse_correction h, fly_two stride back⟩

/-- a drone that faces west, with a landing behind the reset -/
theorem reset_levels_west :
    Heading.Normal 270 ∧ HasWords "reset-dir now" ["reset-dir", "now"] ∧
    ∃ xs, fly {} 2 ⟨{ adrift with yaw := 270, queue := ["reset-dir now", "land"] }, some "barn"⟩ =
      some (xs, ⟨{ adrift with
        yaw := 0, queue := ["land"], status := .executing "ccw 270" }, some "barn"⟩) := by
  have normal : Heading.Normal 270 := by decide
  have words : HasWords "reset-dir now" ["reset-dir", "now"] := hasWords_iff.mpr (by decide +kernel)
  have printed : correction 270 = "ccw 270" := by decide +kernel
  obtain ⟨-, astray⟩ := reset_levels_heading {}
    ⟨{ adrift with yaw := 270, queue := ["reset-dir now", "land"] }, some "barn"⟩ normal words rfl
  obtain ⟨x, y, -, -, -, -, run⟩ := astray (by decide)
  refine ⟨normal, words, [x, y], run.trans ?_⟩
  rw [printed]
  rfl

end Flight

end DroneFleet
