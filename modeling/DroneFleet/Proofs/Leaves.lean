import DroneFleet.Settings.Load
import Mathlib.Data.List.Nodup
import Mathlib.Data.List.TakeWhile
import Mathlib.Logic.Function.Basic

/-!
# The settings in a tree

The layers of the settings are laid over each other as trees. Setting by setting this is simple: what
a layer lays for a setting takes the place of what was there, and all other settings stay.

* `Settings.Leaf`             the settings one by one: the group, the name and the kind of each
* `Settings.Leaf.inFile`, `Settings.Leaf.inVariables`   what a file or the variables say of one
* `Settings.Holds`            does a tree hold values for settings?
* `Settings.assign_leaf`      a value laid at the place of a setting is held for it
* `Settings.put_entry`        what an entry of a file lays is held for the settings under its name
* `Settings.tree_holds`       the tree of all layers holds the values that win
-/

namespace DroneFleet.Settings

/-! ## the settings one by one -/

inductive Leaf where
  | logLevel
  | host
  | port
  | count
  | ipBase
  | range
  | battery
  | stepInterval
  | defaultWait
  | takeoffAltitude
  | returnSpeed
  | lookupUrl
  | elevation
  | capacity
deriving DecidableEq

inductive Kind where
  | text
  | natural (limit : Nat)
  | real

/-- the value of a setting when it is of the kind that is asked for -/
inductive Content where
  | text (s : String)
  | natural (n : Nat)
  | real (x : Float)
deriving DecidableEq

def Kind.convert : Kind → Setting → Option Content
  | .text, v => v.text?.map .text
  | .natural limit, v => (v.natural? limit).map .natural
  | .real, v => v.real?.map .real

namespace Leaf

def all : List Leaf :=
  [.logLevel, .host, .port, .count, .ipBase, .range, .battery, .stepInterval, .defaultWait,
    .takeoffAltitude, .returnSpeed, .lookupUrl, .elevation, .capacity]

/-- the table that a setting is in; one is in none -/
def group? : Leaf → Option String
  | .logLevel => none
  | .host | .port => some "web"
  | .count | .ipBase | .range | .battery => some "fleet"
  | .stepInterval | .defaultWait | .takeoffAltitude | .returnSpeed => some "flight"
  | .lookupUrl | .elevation => some "location"
  | .capacity => some "notify"

def field : Leaf → String
  | .logLevel => "log_level"
  | .host => "host"
  | .port => "port"
  | .count => "count"
  | .ipBase => "ip_base"
  | .range => "range"
  | .battery => "battery"
  | .stepInterval => "step_interval_ms"
  | .defaultWait => "default_wait_ms"
  | .takeoffAltitude => "takeoff_altitude"
  | .returnSpeed => "return_speed"
  | .lookupUrl => "lookup_url"
  | .elevation => "elevation"
  | .capacity => "capacity"

/-- the name at the top of a file that a setting is under -/
def top (l : Leaf) : String := l.group?.getD l.field

def place (l : Leaf) : String := l.group?.elim l.field fun g => g ++ "." ++ l.field

/-- the name of the variable of a setting, in lower case -/
def variableName (l : Leaf) : String :=
  "tello__" ++ l.group?.elim l.field fun g => g ++ "__" ++ l.field

def kind : Leaf → Kind
  | .logLevel | .host | .ipBase | .lookupUrl => .text
  | .port => .natural 0xFFFF
  | .count | .range | .returnSpeed => .natural 0xFFFFFFFF
  | .battery => .natural 0xFF
  | .stepInterval | .defaultWait | .capacity => .natural 0xFFFFFFFFFFFFFFFF
  | .takeoffAltitude | .elevation => .real

/-- what settings say of one of them -/
def content (a : Settings) : Leaf → Content
  | .logLevel => .text a.logLevel
  | .host => .text a.web.host
  | .port => .natural a.web.port
  | .count => .natural a.fleet.count
  | .ipBase => .text a.fleet.ipBase
  | .range => .natural a.fleet.range
  | .battery => .natural a.fleet.battery
  | .stepInterval => .natural a.flight.stepInterval
  | .defaultWait => .natural a.flight.defaultWait
  | .takeoffAltitude => .real a.flight.takeoffAltitude
  | .returnSpeed => .natural a.flight.returnSpeed
  | .lookupUrl => .text a.location.lookupUrl
  | .elevation => .real a.location.elevation
  | .capacity => .natural a.capacity

end Leaf

/-- a value that has a content -/
def Content.plain : Content → Setting
  | .text s => .text s
  | .natural n => .integer n
  | .real x => .float x

theorem mem_all (l : Leaf) : l ∈ Leaf.all := by
  cases l <;> decide

theorem forall_leaf {p : Leaf → Prop} : (∀ l, p l) ↔ ∀ l ∈ Leaf.all, p l :=
  ⟨fun h l _ => h l, fun h l => h l (mem_all l)⟩

instance {p : Leaf → Prop} [DecidablePred p] : Decidable (∀ l, p l) :=
  decidable_of_iff' _ forall_leaf

theorem builtIn_eq : builtIn = Leaf.all.map fun l => (l.place, (l.content {}).plain) := by
  rfl

section
variable {l l' : Leaf} {g : String}

/-! ### names and places -/

theorem fold_field (l : Leaf) : Setting.fold l.field = l.field := by
  revert l
  decide +kernel

theorem fold_group (h : l.group? = some g) : Setting.fold g = g := by
  cases l <;> cases h <;> decide +kernel

theorem top_of_none (h : l.group? = none) : l.top = l.field := by
  simp [Leaf.top, h]

theorem top_of_some (h : l.group? = some g) : l.top = g := by
  simp [Leaf.top, h]

theorem group?_of_top (h : l'.top = l.top) : l'.group? = l.group? := by
  revert l l'
  decide +kernel

theorem eq_of_field (h : l'.field = l.field) : l' = l := by
  revert l l'
  decide +kernel

theorem eq_of_place (h : l'.place = l.place) : l' = l := by
  revert l l'
  decide +kernel

theorem ofText_place (l : Leaf) :
    Setting.Place.ofText l.place = ⟨(l.group?.map .name).toList, .name l.field⟩ := by
  revert l
  decide +kernel

/-- the variable of a setting, in any case of its letters, names its place -/
theorem placeOf?_variableName {n : String} (h : Setting.fold n = l.variableName) :
    placeOf? n = some l.place := by
  have chars : n.toList.map Setting.lowerChar = l.variableName.toList := by
    rw [← h]
    simp [Setting.fold]
  unfold placeOf?
  rw [chars]
  cases l <;> decide +kernel

end

/-! ## what a layer says of one setting -/

/-- the value under a name, without regard to case -/
def under (name : String) (es : List (String × Setting)) : Option Setting :=
  (es.find? fun e => Setting.fold e.1 = name).map (·.2)

/-- a table without entries is laid over nothing -/
def laid : Setting → Option Setting
  | .table [] => none
  | v => some v

def isTable : Setting → Bool
  | .table _ => true
  | _ => false

namespace Leaf

/-- what the value of the name at the top says of a setting -/
def within (l : Leaf) (v : Setting) : Option Setting :=
  if l.group?.isSome then under l.field v.entries else laid v

def inFile (l : Leaf) (es : List (String × Setting)) : Option Setting :=
  (under l.top es).bind l.within

def inVariables (l : Leaf) (environment : List (String × String)) : Option Setting :=
  (environment.find? fun e => placeOf? e.1 = some l.place).map fun e => .text e.2

end Leaf

/-- the value that wins: that of the variables, or else that of the file, or else what is built in -/
def winning (es : List (String × Setting)) (environment : List (String × String)) (l : Leaf) :
    Setting :=
  (l.inVariables environment).getD ((l.inFile es).getD (l.content {}).plain)

/-! ## trees that hold values -/

/-- the value of a setting below its name at the top -/
def Leaf.part (l : Leaf) (v : Setting) : Option Setting :=
  if l.group?.isSome then v.entries.lookup l.field else some v

/-- the tables of the settings are tables, and what is held for a setting converts as its value
does -/
structure Holds (es : List (String × Setting)) (w : Leaf → Option Setting) : Prop where
  tables : ∀ (l : Leaf) v, l.group?.isSome → es.lookup l.top = some v → isTable v
  values : ∀ l v, w l = some v →
    ∃ u, (es.lookup l.top).bind l.part = some u ∧ l.kind.convert u = l.kind.convert v

section
variable {es : List (String × Setting)} {w w' : Leaf → Option Setting} {l l' : Leaf}

theorem holds_nil : Holds [] fun _ => none := by
  constructor <;> simp

theorem Holds.congr (h : Holds es w) (same : ∀ l, w' l = w l) : Holds es w' := by
  rwa [funext same]

/-- a value put under a name is held for the settings under it when these are found in it -/
theorem Holds.put (h : Holds es w) (key : String) (t : Setting)
    (table : ∀ l : Leaf, l.top = key → l.group?.isSome → isTable t)
    (here : ∀ (l : Leaf) v, l.top = key → w' l = some v →
      ∃ u, l.part t = some u ∧ l.kind.convert u = l.kind.convert v)
    (elsewhere : ∀ l : Leaf, l.top ≠ key → w' l = w l) :
    Holds (Named.put key t es) w' where
  tables l v grouped found := by
    by_cases top : l.top = key
    · rw [top, Named.lookup_put_self, Option.some.injEq] at found
      rw [← found]
      exact table l top grouped
    · rw [Named.lookup_put_of_ne top] at found
      exact h.tables l v grouped found
  values l v said := by
    by_cases top : l.top = key
    · rw [top, Named.lookup_put_self]
      exact here l v top said
    · rw [elsewhere l top] at said
      rw [Named.lookup_put_of_ne top]
      exact h.values l v said

theorem Holds.entries {v : Setting} (h : Holds es w) (grouped : l.group?.isSome)
    (said : w l = some v) :
    ∃ t u, es.lookup l.top = some t ∧ t.entries.lookup l.field = some u ∧
      l.kind.convert u = l.kind.convert v := by
  obtain ⟨u, found, same⟩ := h.values l v said
  obtain ⟨t, there, part⟩ := Option.bind_eq_some_iff.mp found
  rw [Leaf.part, if_pos grouped] at part
  exact ⟨t, u, there, part, same⟩

theorem put_of_not_table {v : Setting} (name : String) (h : isTable v = false)
    (es : List (String × Setting)) :
    Setting.put name v es = Named.put (Setting.fold name) v es := by
  cases v with
  | table _ => exact absurd h (by simp [isTable])
  | _ => simp [Setting.put]

/-- a value that is no table, laid at the place of a setting, is held for it, and nothing else
changes -/
theorem assign_leaf (h : Holds es w) (l : Leaf) {v : Setting} (flat : isTable v = false) :
    ∃ es', (Setting.table es).assign (.ofText l.place) v = .table es' ∧
      Holds es' (Function.update w l (some v)) := by
  have others : ∀ l', l'.top ≠ l.top → Function.update w l (some v) l' = w l' := by
    intro l' top
    exact Function.update_of_ne (fun same => top (congrArg Leaf.top same)) _ _
  rw [ofText_place]
  cases g : l.group? with
  | none =>
    have key : l.top = l.field := top_of_none g
    refine ⟨Named.put l.top v es, ?_, h.put l.top v ?_ ?_ others⟩
    · rw [key]
      simp [Setting.assign, Setting.assignAlong, Setting.lay, Setting.entries,
        put_of_not_table _ flat, fold_field]
    · intro l' top grouped
      rw [group?_of_top top, g] at grouped
      cases grouped
    · intro l' u top said
      have ungrouped : l'.group? = none := by rw [group?_of_top top, g]
      have same : l' = l := eq_of_field (by rw [← top_of_none ungrouped, top, key])
      subst same
      rw [Function.update_self] at said
      cases said
      exact ⟨v, by simp [Leaf.part, ungrouped], rfl⟩
  | some g' =>
    have key : l.top = g' := top_of_some g
    let fields := ((es.lookup l.top).getD .nothing).entries
    refine ⟨Named.put l.top (.table (Named.put l.field v fields)) es, ?_,
      h.put l.top _ ?_ ?_ others⟩
    · rw [show fields = ((es.lookup g').getD .nothing).entries by rw [← key], key]
      simp [Setting.assign, Setting.assignAlong, Setting.lay, Setting.change, Setting.entries,
        put_of_not_table _ flat, fold_field, fold_group g]
    · intro l' top grouped
      rfl
    · intro l' u top said
      have grouped : l'.group?.isSome := by rw [group?_of_top top, g]; rfl
      simp only [Leaf.part, if_pos grouped, Setting.entries, Named.lookup_put]
      by_cases same : l' = l
      · subst same
        rw [Function.update_self] at said
        cases said
        exact ⟨v, if_pos rfl, rfl⟩
      · rw [Function.update_of_ne same] at said
        obtain ⟨t, u', there, found, converts⟩ := h.entries grouped said
        refine ⟨u', ?_, converts⟩
        rw [if_neg fun e => same (eq_of_field e)]
        simpa [fields, ← top, there] using found

theorem overlay_cons (t v : Setting) (n : String) (r : List (String × Setting)) :
    overlay t ((n, v) :: r) = overlay (t.assign (.ofText n) v) r := rfl

theorem assign_top (es : List (String × Setting)) (name : String) (v : Setting) :
    (Setting.table es).assign (.top name) v = .table (Setting.put name v es) := rfl

/-- values that are no tables, laid over a tree at the places of settings -/
theorem overlay_leaves (f : Leaf → Setting) (flat : ∀ l, isTable (f l) = false) (ls : List Leaf) :
    ∀ {es w}, Holds es w →
      ∃ es', overlay (.table es) (ls.map fun l => (l.place, f l)) = .table es' ∧
        Holds es' fun l => if l ∈ ls then some (f l) else w l := by
  induction ls with
  | nil => exact fun h => ⟨_, rfl, by simpa using h⟩
  | cons first r ih =>
    intro es w h
    obtain ⟨es', step, held⟩ := assign_leaf h first (flat first)
    obtain ⟨es'', run, held⟩ := ih held
    refine ⟨es'', ?_, ?_⟩
    · rw [List.map_cons, overlay_cons, step, run]
    · refine held.congr fun l => ?_
      by_cases here : l = first
      · subst here
        simp
      · simp [here]

/-! ### files -/

theorem under_cons (name : String) (e : String × Setting) (es : List (String × Setting)) :
    under name (e :: es) = if Setting.fold e.1 = name then some e.2 else under name es := by
  unfold under
  rw [List.find?_cons]
  by_cases here : Setting.fold e.1 = name <;> simp [here]

theorem under_eq_none {name : String} (h : name ∉ es.map fun e => Setting.fold e.1) :
    under name es = none := by
  simp only [under, Option.map_eq_none_iff, List.find?_eq_none, decide_eq_true_eq]
  exact fun e he same => h (List.mem_map.mpr ⟨e, he, same⟩)

/-- the fields of a table are told apart without regard to case, and none is a table -/
def FlatTable (v : Setting) : Prop :=
  isTable v ∧ (v.entries.map fun f => Setting.fold f.1).Nodup ∧
    ∀ f ∈ v.entries, isTable f.2 = false

instance (v : Setting) : Decidable (FlatTable v) :=
  inferInstanceAs (Decidable (_ ∧ _ ∧ _))

theorem merge_fields (fields : List (String × Setting)) :
    ∀ {u}, (fields.map fun f => Setting.fold f.1).Nodup → (∀ f ∈ fields, isTable f.2 = false) →
      ∃ u', Setting.merge fields (.table u) = .table u' ∧
        ∀ n, u'.lookup n = (under n fields).or (u.lookup n) := by
  induction fields with
  | nil =>
    intro u once flat
    exact ⟨u, rfl, fun n => rfl⟩
  | cons f r ih =>
    intro u once flat
    obtain ⟨fresh, once⟩ := List.nodup_cons.mp once
    have step := put_of_not_table f.1 (flat f List.mem_cons_self) u
    obtain ⟨u', run, found⟩ :=
      ih (u := Named.put (Setting.fold f.1) f.2 u) once
        fun q hq => flat q (List.mem_cons_of_mem f hq)
    refine ⟨u', ?_, ?_⟩
    · rw [Setting.merge, Setting.entries, step, run]
    · intro n
      rw [found, under_cons, Named.lookup_put]
      by_cases here : Setting.fold f.1 = n
      · subst here
        rw [under_eq_none fresh, if_pos rfl, if_pos rfl]
        rfl
      · rw [if_neg here, if_neg (Ne.symm here)]

/-- what a value makes of the one that it is laid over -/
def merged (v : Setting) (old : Option Setting) : Setting :=
  match v with
  | .table incoming => Setting.merge incoming (old.getD (.table []))
  | v => v

theorem put_eq (name : String) (v : Setting) (es : List (String × Setting)) :
    Setting.put name v es =
      Named.put (Setting.fold name) (merged v (es.lookup (Setting.fold name))) es := by
  cases v <;> simp [Setting.put, merged]

theorem merge_cons_isTable (fields : List (String × Setting)) :
    ∀ f t, isTable (Setting.merge (f :: fields) t) := by
  induction fields with
  | nil => exact fun f t => rfl
  | cons g r ih =>
    intro f t
    rw [Setting.merge]
    exact ih g _

theorem convert_of_isTable {k : Kind} {v : Setting} (h : isTable v) : k.convert v = none := by
  cases v with
  | table => cases k <;> rfl
  | _ => cases h

/-- the fields that a table of settings has after another is laid over it -/
theorem over_section (h : Holds es w) {v : Setting} (grouped : l.group?.isSome) (s : FlatTable v) :
    ∃ u u', (es.lookup l.top).getD (.table []) = .table u ∧ merged v (es.lookup l.top) = .table u' ∧
      ∀ n, u'.lookup n = (under n v.entries).or (u.lookup n) := by
  obtain ⟨table, once, flat⟩ := s
  have old : isTable ((es.lookup l.top).getD (.table [])) := by
    cases found : es.lookup l.top with
    | none => rfl
    | some t => exact h.tables l t grouped found
  cases there : (es.lookup l.top).getD (.table []) with
  | table u =>
    cases v with
    | table fields =>
      obtain ⟨u', run, found⟩ := merge_fields fields (u := u) once flat
      exact ⟨u, u', rfl, by rw [merged, there, run], found⟩
    | _ => cases table
  | _ =>
    rw [there] at old
    cases old

/-- laid over a setting that is in no table, a value replaces it, and an empty table does not -/
theorem over_laid (h : Holds es w) {v x : Setting} (ungrouped : l.group? = none)
    (said : (laid v).or (w l) = some x) :
    l.kind.convert (merged v (es.lookup l.top)) = l.kind.convert x := by
  cases v with
  | table fields =>
    cases fields with
    | nil =>
      obtain ⟨u, found, same⟩ := h.values l x said
      obtain ⟨t, there, part⟩ := Option.bind_eq_some_iff.mp found
      simp only [Leaf.part, ungrouped, Option.isSome_none, Bool.false_eq_true, if_false,
        Option.some.injEq] at part
      rw [merged, there, Setting.merge, ← same, ← part]
      rfl
    | cons f r =>
      cases said
      rw [convert_of_isTable (v := .table (f :: r)) rfl]
      exact convert_of_isTable (merge_cons_isTable r f _)
  | _ =>
    cases said
    rfl

/-- an entry of a file changes the settings under its name, and of these only those that it says -/
theorem put_entry (h : Holds es w) (name : String) (v : Setting)
    (sections : ∀ l : Leaf, l.group? = some (Setting.fold name) → FlatTable v) :
    Holds (Setting.put name v es)
      (fun l => if Setting.fold name = l.top then (l.within v).or (w l) else w l) := by
  have isSection : ∀ l : Leaf, l.top = Setting.fold name → l.group?.isSome → FlatTable v := by
    intro l top grouped
    obtain ⟨g, group⟩ := Option.isSome_iff_exists.mp grouped
    exact sections l (by rw [group, ← top, top_of_some group])
  rw [put_eq]
  refine h.put _ _ ?tables ?here ?elsewhere
  case tables =>
    intro l top grouped
    obtain ⟨_, _, _, laidOver, _⟩ := over_section h grouped (isSection l top grouped)
    rw [← top, laidOver]
    rfl
  case here =>
    intro l x top said
    rw [if_pos top.symm] at said
    rw [← top]
    cases grouped : l.group?.isSome with
    | true =>
      obtain ⟨u, u', there, laidOver, found⟩ := over_section h grouped (isSection l top grouped)
      rw [Leaf.within, if_pos grouped] at said
      rw [laidOver, Leaf.part, if_pos grouped, Setting.entries, found]
      cases new : under l.field v.entries with
      | some y =>
        rw [new] at said
        cases said
        exact ⟨x, rfl, rfl⟩
      | none =>
        rw [new, Option.none_or] at said
        obtain ⟨t, y, lookedUp, held, same⟩ := h.entries grouped said
        rw [lookedUp, Option.getD_some] at there
        rw [there] at held
        exact ⟨y, held, same⟩
    | false =>
      have ungrouped : l.group? = none := by simpa using grouped
      simp only [Leaf.within, grouped, Bool.false_eq_true, if_false] at said
      exact ⟨_, by simp [Leaf.part, grouped], over_laid h ungrouped said⟩
  case elsewhere =>
    intro l top
    exact if_neg (Ne.symm top)

theorem ofText_of_bare {name : String} (nonempty : name ≠ "")
    (bare : name.toList.all Toml.isBare) : Setting.Place.ofText name = .top name := by
  have chars : ∀ c ∈ name.toList, Setting.Place.isNameChar c := by
    intro c hc
    have := List.all_eq_true.mp bare c hc
    rw [Setting.Place.isNameChar]
    rw [Toml.isBare] at this
    rw [this, Bool.true_or]
  have longest : name.toList.takeWhile Setting.Place.isNameChar = name.toList := by
    rw [List.takeWhile_eq_self_iff]
    exact chars
  have rest : name.toList.dropWhile Setting.Place.isNameChar = [] := by
    rw [List.dropWhile_eq_nil_iff]
    exact chars
  have some : name.toList ≠ [] := by simpa using nonempty
  rw [Setting.Place.ofText, Setting.Place.read?, longest, rest]
  split
  · exact absurd ‹_› some
  · simp [Setting.Place.steps?, Setting.Place.top]

/-- the file as it is asked for: bare names that are told apart without regard to case, and the
tables of settings with fields that are no tables -/
structure Plain (es : List (String × Setting)) : Prop where
  bare : ∀ e ∈ es, e.1 ≠ "" ∧ e.1.toList.all Toml.isBare
  once : (es.map fun e => Setting.fold e.1).Nodup
  sections : ∀ e ∈ es, Setting.fold e.1 ∈ Leaf.all.filterMap Leaf.group? → FlatTable e.2

theorem plain_iff {es : List (String × Setting)} :
    Plain es ↔ (∀ e ∈ es, e.1 ≠ "" ∧ e.1.toList.all Toml.isBare) ∧
      (es.map fun e => Setting.fold e.1).Nodup ∧
      ∀ e ∈ es, Setting.fold e.1 ∈ Leaf.all.filterMap Leaf.group? → FlatTable e.2 :=
  ⟨fun h => ⟨h.bare, h.once, h.sections⟩, fun h => ⟨h.1, h.2.1, h.2.2⟩⟩

instance (es : List (String × Setting)) : Decidable (Plain es) :=
  decidable_of_iff' _ plain_iff

theorem Plain.tail {e : String × Setting} {r : List (String × Setting)} (h : Plain (e :: r)) :
    Plain r where
  bare e' he := h.bare e' (List.mem_cons_of_mem e he)
  once := (List.nodup_cons.mp h.once).2
  sections e' he := h.sections e' (List.mem_cons_of_mem e he)

theorem Plain.inFile_cons {e : String × Setting} {r : List (String × Setting)}
    (h : Plain (e :: r)) (l : Leaf) (v : Option Setting) :
    (l.inFile (e :: r)).or v =
      (l.inFile r).or (if Setting.fold e.1 = l.top then (l.within e.2).or v else v) := by
  simp only [Leaf.inFile, under_cons]
  by_cases here : Setting.fold e.1 = l.top
  · have rest : under l.top r = none := under_eq_none (here ▸ (List.nodup_cons.mp h.once).1)
    rw [if_pos here, if_pos here, rest]
    rfl
  · rw [if_neg here, if_neg here]

/-- a file laid over a tree: every setting that it says is held -/
theorem overlay_file (file : List (String × Setting)) :
    ∀ {es w}, Holds es w → Plain file →
      ∃ es', overlay (.table es) file = .table es' ∧
        Holds es' fun l => (l.inFile file).or (w l) := by
  induction file with
  | nil => exact fun h _ => ⟨_, rfl, h⟩
  | cons e r ih =>
    intro es w h plain
    obtain ⟨nonempty, bare⟩ := plain.bare e List.mem_cons_self
    have held := put_entry h e.1 e.2 fun l group =>
      plain.sections e List.mem_cons_self (List.mem_filterMap.mpr ⟨l, mem_all l, group⟩)
    obtain ⟨es', run, held⟩ := ih held plain.tail
    refine ⟨es', ?_, ?_⟩
    · rw [overlay_cons, ofText_of_bare nonempty bare, assign_top, run]
    · simpa only [plain.inFile_cons] using held

/-! ### variables -/

/-- the variables as they are asked for: each that is one of ours names a setting, and no two name
the same -/
structure Known (environment : List (String × String)) : Prop where
  settings : ∀ e ∈ environment, ∀ p ∈ placeOf? e.1, p ∈ Leaf.all.map Leaf.place
  once : (environment.filterMap fun e => placeOf? e.1).Nodup

theorem known_iff {environment : List (String × String)} :
    Known environment ↔ (∀ e ∈ environment, ∀ p ∈ placeOf? e.1, p ∈ Leaf.all.map Leaf.place) ∧
      (environment.filterMap fun e => placeOf? e.1).Nodup :=
  ⟨fun h => ⟨h.settings, h.once⟩, fun h => ⟨h.1, h.2⟩⟩

instance (environment : List (String × String)) : Decidable (Known environment) :=
  decidable_of_iff' _ known_iff

theorem inVariables_cons (l : Leaf) (e : String × String) (r : List (String × String)) :
    l.inVariables (e :: r) =
      if placeOf? e.1 = some l.place then some (.text e.2) else l.inVariables r := by
  unfold Leaf.inVariables
  rw [List.find?_cons]
  by_cases here : placeOf? e.1 = some l.place <;> simp [here]

theorem inVariables_eq_none {environment : List (String × String)}
    (h : l.place ∉ environment.filterMap fun e => placeOf? e.1) :
    l.inVariables environment = none := by
  simp only [Leaf.inVariables, Option.map_eq_none_iff, List.find?_eq_none, decide_eq_true_eq]
  exact fun e he same => h (List.mem_filterMap.mpr ⟨e, he, same⟩)

theorem overlay_environment (environment : List (String × String)) :
    ∀ {es w}, Holds es w → Known environment →
      ∃ es', overlay (.table es) (ofEnvironment environment) = .table es' ∧
        Holds es' fun l => (l.inVariables environment).or (w l) := by
  induction environment with
  | nil => exact fun h _ => ⟨_, rfl, h⟩
  | cons e r ih =>
    intro es w h known
    have settings : ∀ e' ∈ r, ∀ p ∈ placeOf? e'.1, p ∈ Leaf.all.map Leaf.place :=
      fun e' he => known.settings e' (List.mem_cons_of_mem e he)
    cases named : placeOf? e.1 with
    | none =>
      have once : (r.filterMap fun e => placeOf? e.1).Nodup := by
        simpa [List.filterMap_cons, named] using known.once
      obtain ⟨es', run, held⟩ := ih h ⟨settings, once⟩
      refine ⟨es', ?_, ?_⟩
      · rw [← run]
        simp [ofEnvironment, named]
      · simpa [inVariables_cons, named] using held
    | some p =>
      have both : (p :: r.filterMap fun e => placeOf? e.1).Nodup := by
        simpa [List.filterMap_cons, named] using known.once
      obtain ⟨fresh, once⟩ := List.nodup_cons.mp both
      obtain ⟨l, -, place⟩ := List.mem_map.mp (known.settings e List.mem_cons_self p named)
      subst place
      obtain ⟨es', step, held⟩ := assign_leaf h l (v := .text e.2) rfl
      obtain ⟨es'', run, held⟩ := ih held ⟨settings, once⟩
      refine ⟨es'', ?_, ?_⟩
      · rw [← run, ← step]
        simp [ofEnvironment, named, overlay_cons]
      · refine held.congr fun l' => ?_
        rw [inVariables_cons, named]
        by_cases here : l' = l
        · subst here
          rw [Function.update_self, inVariables_eq_none fresh, if_pos rfl]
          rfl
        · rw [Function.update_of_ne here,
            if_neg fun same => here (eq_of_place (Option.some.inj same).symm)]

/-! ### the three layers -/

/-- the tree of the layers holds the values that win -/
theorem tree_holds {file : List (String × Setting)} {environment : List (String × String)}
    (plain : Plain file) (known : Known environment) :
    ∃ es, tree file environment = .table es ∧
      Holds es fun l => some (winning file environment l) := by
  obtain ⟨es₁, run₁, held₁⟩ :=
    overlay_leaves (fun l => (l.content {}).plain) (fun l => by cases l <;> rfl) Leaf.all holds_nil
  obtain ⟨es₂, run₂, held₂⟩ := overlay_file file held₁ plain
  obtain ⟨es₃, run₃, held₃⟩ := overlay_environment environment held₂ known
  refine ⟨es₃, by rw [tree, builtIn_eq, run₁, run₂, run₃], ?_⟩
  refine held₃.congr fun l => ?_
  simp only [mem_all, if_true, winning]
  cases l.inVariables environment <;> cases l.inFile file <;> rfl

end

end DroneFleet.Settings
