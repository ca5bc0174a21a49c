import DroneFleet.Proofs.Frames
import DroneFleet.Proofs.Grammar
import DroneFleet.Proofs.Occurrences

/-!
# Which zones can be entered

A submission gives a zone any name it likes. A command that enters a zone says the name in one word,
and a word is not empty and holds no blank. So a zone with another name is registered in vain: no
command of any flight leads there.

* `Command.parse_eq_action_iff`   the texts that ask for a zone
* `Flight.Enters`                 a text that leads into a zone
* `Flight.enters_iff`             it asks for the zone, and the zone is registered
* `Flight.exists_enters_iff`      the zones that a text leads into
* `Flight.names_zone_of_entered`  a text leads into no zone but the one that it names
* `Bay.Outside`, `Bay.outside_life`   a zone that no run is ever in
* `Flight.zones_are_entered_by_words`   all together
-/

namespace DroneFleet

theorem Text.isWord_iff {zone : String} :
    IsWord zone.toList ↔ zone ≠ "" ∧ ∀ c ∈ zone.toList, isBlank c = false := by
  constructor
  · intro h
    refine ⟨?_, h.unblank⟩
    rintro rfl
    exact h.ne_nil rfl
  · rintro ⟨hne, unblank⟩
    exact ⟨fun h => hne (String.toList_eq_nil_iff.mp h), unblank⟩

namespace Command

/-! ## texts that ask for a zone -/

section
variable {raw zone : String} {ws : List String}

theorem zone_of_denotes {c : Command} (h : Denotes ws c) (hc : c = .action (some zone)) :
    ∃ more, ws = "action" :: zone :: more := by
  cases h with
  | action r =>
    obtain ⟨more, rfl⟩ := List.head?_eq_some_iff.mp (action.inj hc)
    exact ⟨more, rfl⟩
  | _ => cases hc

/-- a text asks for a zone if its first word says so and its second one is the name of the zone -/
theorem parse_eq_action_iff :
    parse raw = .action (some zone) ↔ ∃ more, HasWords raw ("action" :: zone :: more) := by
  have words : ∀ w ∈ wordsOf raw, Text.IsWord w.toList := (hasWords_wordsOf raw).isWord
  constructor
  · intro h
    obtain ⟨more, hw⟩ := zone_of_denotes ((denotes_iff words).mpr rfl) h
    exact ⟨more, hasWords_iff.mpr hw⟩
  · rintro ⟨more, hw⟩
    exact parse_of_denotes hw (.action (zone :: more))

theorem isWord_of_parse_eq_action (h : parse raw = .action (some zone)) :
    Text.IsWord zone.toList := by
  obtain ⟨more, hw⟩ := parse_eq_action_iff.mp h
  exact hw.isWord zone (List.mem_cons_of_mem _ List.mem_cons_self)

theorem hasWords_action (h : Text.IsWord zone.toList) :
    HasWords ("action " ++ zone) ["action", zone] := by
  have text : ("action " ++ zone).toList =
      [] ++ ("action".toList ++ ([' '] ++ (zone.toList ++ []))) := by
    rw [String.toList_append, List.append_nil]
    rfl
  have alone : HasWords "action" ["action"] := hasWords_iff.mpr (by decide +kernel)
  have operator := alone.isWord "action" List.mem_cons_self
  have gap : ∀ c ∈ [' '], Text.isBlank c = true := List.forall_mem_singleton.mpr (by decide)
  have name : Text.HasWords ([' '] ++ (zone.toList ++ [])) [zone.toList] :=
    .word gap h Text.endsWord_nil (.blank (List.forall_mem_nil _))
  unfold HasWords
  rw [text]
  exact .word (List.forall_mem_nil _) operator (Text.endsWord_cons (by decide) _) name

theorem parse_action (h : Text.IsWord zone.toList) :
    parse ("action " ++ zone) = .action (some zone) :=
  parse_eq_action_iff.mpr ⟨[], hasWords_action h⟩

end

end Command

namespace Flight

/-! ## texts that lead into a zone -/

/-- does a text, executed when its turn comes, make a zone the one entered last, whichever was
entered before and whatever comes after it? -/
def Enters (s : FlightSettings) (d : Drone) (raw zone : String) : Prop :=
  ∀ (before : Option String) (rest : List String),
    ((pop raw rest ⟨d, before⟩).apply s (.parse raw)).zone = some zone

section
variable {s : FlightSettings} {d : Drone} {f : Flight} {raw zone : String}

theorem entered_of_action {script : List String} (h : f.drone.zones.script? zone = some script)
    (hc : Command.parse raw = .action (some zone)) :
    (f.apply s (.parse raw)).zone = some zone := by
  rw [hc]
  exact zone_enter_of_some f s.returnSpeed h

theorem names_zone_of_entered (h : (f.apply s (.parse raw)).zone ≠ f.zone) :
    ∃ zone, Command.parse raw = .action (some zone) ∧ f.drone.zones.script? zone ≠ none ∧
      (f.apply s (.parse raw)).zone = some zone := by
  rcases zone_apply s (.parse raw) f with ⟨zone, script, hc, hz, entered⟩ | ⟨-, same⟩
  · exact ⟨zone, hc, hz ▸ nofun, entered⟩
  · exact absurd same h

/-- a text leads into a zone if it asks for the zone, and the zone is registered -/
theorem enters_iff : Enters s d raw zone ↔
    d.zones.script? zone ≠ none ∧ Command.parse raw = .action (some zone) := by
  constructor
  · intro h
    have entered := h none []
    have changed : ((pop raw [] ⟨d, none⟩).apply s (.parse raw)).zone ≠ none := by
      rw [entered]
      exact nofun
    obtain ⟨name, hc, hz, same⟩ := names_zone_of_entered changed
    obtain rfl : name = zone := Option.some.inj (same.symm.trans entered)
    exact ⟨hz, hc⟩
  · rintro ⟨hz, hc⟩ before rest
    obtain ⟨script, hs⟩ := Option.ne_none_iff_exists'.mp hz
    exact entered_of_action (f := pop raw rest ⟨d, before⟩) hs hc

theorem exists_enters_iff : (∃ raw, Enters s d raw zone) ↔
    d.zones.script? zone ≠ none ∧ Text.IsWord zone.toList := by
  constructor
  · rintro ⟨raw, h⟩
    obtain ⟨hz, hc⟩ := enters_iff.mp h
    exact ⟨hz, Command.isWord_of_parse_eq_action hc⟩
  · rintro ⟨hz, hw⟩
    exact ⟨_, enters_iff.mpr ⟨hz, Command.parse_action hw⟩⟩

end

end Flight

namespace Bay

/-! ## zones that no run is ever in -/

/-- is no run in the zone? -/
def Outside (zone : String) (b : Bay) : Prop := ∀ r ∈ b.runs, r.zone ≠ some zone

theorem zone_cancel (n : Nat) (r : Run) : (r.cancel n).zone = r.zone := by
  unfold Run.cancel
  split <;> rfl

theorem zone_begin (n : Nat) (r : Run) : (r.begin n).zone = r.zone := by
  unfold Run.begin
  split <;> rfl

section
variable {s : FlightSettings} {now : Nat} {b c : Bay} {rep : Report} {zone : String}

theorem Outside.map (h : b.Outside zone) {g : Run → Run} (hg : ∀ r, (g r).zone = r.zone)
    (hc : c.runs = b.runs.map g) : c.Outside zone := by
  intro q hq
  rw [hc] at hq
  obtain ⟨r, hr, rfl⟩ := List.mem_map.mp hq
  rw [hg]
  exact h r hr

theorem Outside.without (h : b.Outside zone) (n : Nat) (hc : c.runs = without n b.runs) :
    c.Outside zone := by
  intro q hq
  rw [hc] at hq
  exact h q (List.mem_of_mem_filter hq)

theorem Outside.spawn (h : b.Outside zone) (now : Nat) : (b.spawn now).Outside zone := by
  intro q hq
  rcases List.mem_append.mp hq with hq | hq
  · exact h q hq
  · rw [List.mem_singleton.mp hq]
    exact nofun

theorem outside_executed (hz : ¬ Text.IsWord zone.toList) {r : Run} (h : r.zone ≠ some zone)
    (raw : String) (rest : List String) : (b.executed s r raw rest).zone ≠ some zone := by
  intro entered
  have changed : (b.executed s r raw rest).zone ≠ ((b.flight r).pop raw rest).zone :=
    fun same => h (same.symm.trans entered)
  obtain ⟨name, hc, -, same⟩ := Flight.names_zone_of_entered changed
  obtain rfl : name = zone := Option.some.inj (same.symm.trans entered)
  exact hz (Command.isWord_of_parse_eq_action hc)

theorem Outside.move (hz : ¬ Text.IsWord zone.toList) {e : Event} (h : b.Outside zone)
    (m : b.Moves s now e c rep) : c.Outside zone := by
  cases m with
  | launch _ _ => exact h.spawn now
  | @execute r raw rest hr _ =>
    intro q hq
    rcases mem_sleeping hq with rfl | hq
    · exact outside_executed hz (h r hr) raw rest
    · exact h q (List.mem_of_mem_filter hq)
  | complete _ _ => exact h.without _ rfl
  | _ => exact h

theorem Outside.turn (hz : ¬ Text.IsWord zone.toList) {i : Incident} (h : b.Outside zone)
    (t : b.Turn s now i c rep) : c.Outside zone := by
  cases t with
  | spawn => exact h.spawn now
  | step hr _ _ => exact h.move hz (moves_advance hr)
  | await _ _ _ => exact h.map (zone_begin _) rfl
  | abort n => exact h.map (zone_cancel n) rfl
  | leave _ _ _ => exact h.without _ rfl
  | defer _ _ _ _ => exact h.without _ rfl
  | release _ _ _ _ => exact h.without _ rfl
  | _ => exact h

theorem Outside.meet (hz : ¬ Text.IsWord zone.toList) (h : b.Outside zone) (o : Occurrence) :
    (b.meet s now o).1.Outside zone := by
  by_cases ho : o.IsSubmission
  · cases o with
    | submit path zones => exact h.move hz (moves_respond s now b (.submit path zones))
    | _ => exact absurd ho id
  · rcases meet_cases s now b ho with ⟨e, -, m⟩ | ⟨i, -, t⟩
    · exact h.move hz m
    · exact h.turn hz t

/-- whatever happens, no run is ever in a zone whose name is no word -/
theorem outside_life (hz : ¬ Text.IsWord zone.toList) (d : Drone) (os : List (Nat × Occurrence)) :
    ((Bay.ofDrone d).life s os).1.Outside zone := by
  have start : (Bay.ofDrone d).Outside zone := fun _ hr => absurd hr List.not_mem_nil
  exact life_induction (P := Outside zone) (fun _ _ o h => h.meet hz o) start os

end

end Bay

namespace Flight

/-- **A zone is entered by its name in one word.** Some text leads a drone into a zone just if the
zone is registered, and its name is not empty and holds no blank; and then `action` with the name
does. A text that makes another zone the one entered last has `action` for its first word and the
name of that zone for its second. So no text asks for a zone whose name is empty or holds a blank,
and no run of any flight is ever in one, whatever is submitted under that name. -/
theorem zones_are_entered_by_words (s : FlightSettings) (d : Drone) (zone : String) :
    ((∃ raw, Enters s d raw zone) ↔ d.zones.script? zone ≠ none ∧ zone ≠ "" ∧
      ∀ c ∈ zone.toList, Text.isBlank c = false) ∧
    ((∃ raw, Enters s d raw zone) → Enters s d ("action " ++ zone) zone) ∧
    (∀ (f : Flight) raw, (f.apply s (.parse raw)).zone ≠ f.zone →
      ∃ name more, HasWords raw ("action" :: name :: more) ∧ f.drone.zones.script? name ≠ none ∧
        (f.apply s (.parse raw)).zone = some name) ∧
    ((zone = "" ∨ ∃ c ∈ zone.toList, Text.isBlank c = true) →
      (∀ raw, Command.parse raw ≠ .action (some zone)) ∧
      ∀ (e : Drone) os, ∀ r ∈ ((Bay.ofDrone e).life s os).1.runs, r.zone ≠ some zone) := by
  refine ⟨?_, fun h => ?_, fun f raw h => ?_, fun h => ?_⟩
  · rw [exists_enters_iff, Text.isWord_iff]
  · obtain ⟨hz, hw⟩ := exists_enters_iff.mp h
    exact enters_iff.mpr ⟨hz, Command.parse_action hw⟩
  · obtain ⟨name, hc, hz, entered⟩ := names_zone_of_entered h
    obtain ⟨more, words⟩ := Command.parse_eq_action_iff.mp hc
    exact ⟨name, more, words, hz, entered⟩
  · have unnamed : ¬ Text.IsWord zone.toList := by
      intro word
      rcases h with rfl | ⟨c, hc, blank⟩
      · exact word.ne_nil rfl
      · rw [word.unblank c hc] at blank
        cases blank
    exact ⟨fun raw hc => unnamed (Command.isWord_of_parse_eq_action hc), Bay.outside_life unnamed⟩

def farm : Drone :=
  { Drone.new "tello-1" "127.0.0.101" 4500 100 with
    zones := [("barn", ["land"]), ("hay", []), ("hay loft", ["up 20"])] }

/-- who asks for the hay loft gets to the hay -/
theorem hay_loft_is_not_entered :
    Enters {} farm "action barn" "barn" ∧
    (∃ more, HasWords "action hay loft" ("action" :: "hay" :: more) ∧
      (apply {} (.parse "action hay loft") ⟨farm, some "barn"⟩).zone = some "hay") ∧
    (∀ raw, ¬ Enters {} farm raw "hay loft") ∧
    ∀ os, ∀ r ∈ ((Bay.ofDrone farm).life {} os).1.runs, r.zone ≠ some "hay loft" := by
  obtain ⟨entered, named, -, -⟩ := zones_are_entered_by_words {} farm "barn"
  obtain ⟨-, -, changed, unnamed⟩ := zones_are_entered_by_words {} farm "hay loft"
  have alone : HasWords "barn" ["barn"] := hasWords_iff.mpr (by decide +kernel)
  have word := Text.isWord_iff.mp (alone.isWord "barn" List.mem_cons_self)
  have blank : ∃ c ∈ "hay loft".toList, Text.isBlank c = true := ⟨' ', by decide, by decide⟩
  have hay : (apply {} (.parse "action hay loft") ⟨farm, some "barn"⟩).zone = some "hay" := by
    decide +kernel
  obtain ⟨asked, outside⟩ := unnamed (Or.inr blank)
  refine ⟨named (entered.mpr ⟨nofun, word⟩), ?_, fun raw h => asked raw (enters_iff.mp h).2,
    outside farm⟩
  obtain ⟨name, more, words, -, same⟩ :=
    changed ⟨farm, some "barn"⟩ "action hay loft" (by rw [hay]; decide)
  obtain rfl : name = "hay" := Option.some.inj (same.symm.trans hay)
  exact ⟨more, words, hay⟩

end Flight

end DroneFleet
