import DroneFleet.Proofs.Leaves

/-!
# Layers of settings

The tree of the layers is read field by field, and reading stops at the first value of another kind
than is asked for. As the tree holds the values that win, only these can be at fault.

* `Settings.ofValues`                    the settings of one value each
* `Settings.ofTree_of_holds`             those of a tree are those of the values that it holds
* `Settings.ours`                        a file without the names of no setting
* `Settings.winning_values_are_loaded`   the settings that are loaded are the values that win
-/

namespace DroneFleet.Settings

/-! ## the settings of a tree -/

theorem bind_eq_ok {ε α β : Type} {x : Except ε α} {f : α → Except ε β} {b : β} :
    x >>= f = .ok b ↔ ∃ a, x = .ok a ∧ f a = .ok b := by
  cases x with
  | error e => simp [bind, Except.bind]
  | ok a => simp [bind, Except.bind]

theorem ok_bind {ε α β : Type} (a : α) (f : α → Except ε β) : Except.ok a >>= f = f a := rfl

theorem pure_eq_ok {ε α : Type} {a b : α} : (pure a : Except ε α) = .ok b ↔ a = b := by
  simp [pure, Except.pure]

theorem exists_error_iff {ε α : Type} {x : Except ε α} :
    (∃ e, x = .error e) ↔ ¬∃ a, x = .ok a := by
  cases x <;> simp

section
variable {α : Type} {convert : Setting → Option α} {t : Setting} {group : Option String}
  {number : Nat} {name : String}

theorem read_eq_ok {a : α} :
    read convert t group number name = .ok a ↔ (field? t number name).bind convert = some a := by
  unfold read
  cases (field? t number name).bind convert <;> simp

end

/-- the converted value of a setting, or the fault that it is of another kind -/
def asked {α : Type} (convert : Setting → Option α) (w : Leaf → Setting) (l : Leaf) :
    Except Misfit α :=
  match convert (w l) with
  | some a => .ok a
  | none => .error ⟨l.group?, l.field⟩

theorem asked_eq_ok {α : Type} {convert : Setting → Option α} {w : Leaf → Setting} {l : Leaf}
    {a : α} : asked convert w l = .ok a ↔ convert (w l) = some a := by
  unfold asked
  cases convert (w l) <;> simp

/-- the settings of one value each, read in order -/
def ofValues (w : Leaf → Setting) : Except Misfit Settings := do
  let logLevel ← asked Setting.text? w .logLevel
  let host ← asked Setting.text? w .host
  let port ← asked (Setting.natural? 0xFFFF) w .port
  let count ← asked (Setting.natural? 0xFFFFFFFF) w .count
  let ipBase ← asked Setting.text? w .ipBase
  let range ← asked (Setting.natural? 0xFFFFFFFF) w .range
  let battery ← asked (Setting.natural? 0xFF) w .battery
  let stepInterval ← asked (Setting.natural? 0xFFFFFFFFFFFFFFFF) w .stepInterval
  let defaultWait ← asked (Setting.natural? 0xFFFFFFFFFFFFFFFF) w .defaultWait
  let takeoffAltitude ← asked Setting.real? w .takeoffAltitude
  let returnSpeed ← asked (Setting.natural? 0xFFFFFFFF) w .returnSpeed
  let lookupUrl ← asked Setting.text? w .lookupUrl
  let elevation ← asked Setting.real? w .elevation
  let capacity ← asked (Setting.natural? 0xFFFFFFFFFFFFFFFF) w .capacity
  return ⟨logLevel, ⟨host, port⟩, ⟨count, ipBase, range, battery⟩,
    ⟨stepInterval, defaultWait, takeoffAltitude, returnSpeed⟩, ⟨lookupUrl, elevation⟩, capacity⟩

theorem convert_text {v : Setting} {x : String} :
    Kind.text.convert v = some (.text x) ↔ v.text? = some x := by
  simp [Kind.convert]

theorem convert_natural {v : Setting} {limit n : Nat} :
    (Kind.natural limit).convert v = some (.natural n) ↔ v.natural? limit = some n := by
  simp [Kind.convert]

theorem convert_real {v : Setting} {x : Float} :
    Kind.real.convert v = some (.real x) ↔ v.real? = some x := by
  simp [Kind.convert]

theorem ofValues_eq_ok (w : Leaf → Setting) (a : Settings) :
    ofValues w = .ok a ↔ ∀ l : Leaf, l.kind.convert (w l) = some (l.content a) := by
  rw [forall_leaf]
  -- both sides say of each of the fourteen values what it is converted to
  simp only [ofValues, bind_eq_ok, asked_eq_ok, pure_eq_ok, Leaf.all, List.forall_mem_cons,
    Leaf.kind, Leaf.content, convert_text, convert_natural, convert_real, List.not_mem_nil,
    false_imp_iff, implies_true, and_true]
  constructor
  · rintro ⟨_, h, _, h₁, _, h₂, _, h₃, _, h₄, _, h₅, _, h₆, _, h₇, _, h₈, _, h₉, _, h₁₀, _, h₁₁, _,
      h₁₂, _, h₁₃, rfl⟩
    exact ⟨h, h₁, h₂, h₃, h₄, h₅, h₆, h₇, h₈, h₉, h₁₀, h₁₁, h₁₂, h₁₃⟩
  · rintro ⟨h, h₁, h₂, h₃, h₄, h₅, h₆, h₇, h₈, h₉, h₁₀, h₁₁, h₁₂, h₁₃⟩
    exact ⟨_, h, _, h₁, _, h₂, _, h₃, _, h₄, _, h₅, _, h₆, _, h₇, _, h₈, _, h₉, _, h₁₀, _, h₁₁, _,
      h₁₂, _, h₁₃, rfl⟩

theorem exists_settings {w : Leaf → Setting} (h : ∀ l : Leaf, ∃ c, l.kind.convert (w l) = some c) :
    ∃ a : Settings, ∀ l : Leaf, l.kind.convert (w l) = some (l.content a) := by
  have made : ∀ {α : Type} (make : α → Content) (convert : Setting → Option α) (l : Leaf),
      l.kind.convert (w l) = (convert (w l)).map make →
      ∃ x, l.kind.convert (w l) = some (make x) := by
    intro α make convert l kind
    obtain ⟨c, converts⟩ := h l
    rw [kind] at converts
    obtain ⟨x, found, -⟩ := Option.map_eq_some_iff.mp converts
    exact ⟨x, by rw [kind, found]; rfl⟩
  have text := made Content.text Setting.text?
  have natural := fun limit => made Content.natural (Setting.natural? limit)
  have real := made Content.real Setting.real?
  obtain ⟨logLevel, _⟩ := text .logLevel rfl
  obtain ⟨host, _⟩ := text .host rfl
  obtain ⟨port, _⟩ := natural _ .port rfl
  obtain ⟨count, _⟩ := natural _ .count rfl
  obtain ⟨ipBase, _⟩ := text .ipBase rfl
  obtain ⟨range, _⟩ := natural _ .range rfl
  obtain ⟨battery, _⟩ := natural _ .battery rfl
  obtain ⟨stepInterval, _⟩ := natural _ .stepInterval rfl
  obtain ⟨defaultWait, _⟩ := natural _ .defaultWait rfl
  obtain ⟨takeoffAltitude, _⟩ := real .takeoffAltitude rfl
  obtain ⟨returnSpeed, _⟩ := natural _ .returnSpeed rfl
  obtain ⟨lookupUrl, _⟩ := text .lookupUrl rfl
  obtain ⟨elevation, _⟩ := real .elevation rfl
  obtain ⟨capacity, _⟩ := natural _ .capacity rfl
  refine ⟨⟨logLevel, ⟨host, port⟩, ⟨count, ipBase, range, battery⟩,
    ⟨stepInterval, defaultWait, takeoffAltitude, returnSpeed⟩, ⟨lookupUrl, elevation⟩,
    capacity⟩, fun l => ?_⟩
  cases l <;> assumption

section
variable {u v : Setting}

theorem text?_of_convert (h : Kind.text.convert u = Kind.text.convert v) : u.text? = v.text? :=
  Option.map_injective (fun _ _ => Content.text.inj) h

theorem natural?_of_convert {limit : Nat}
    (h : (Kind.natural limit).convert u = (Kind.natural limit).convert v) :
    u.natural? limit = v.natural? limit :=
  Option.map_injective (fun _ _ => Content.natural.inj) h

theorem real?_of_convert (h : Kind.real.convert u = Kind.real.convert v) : u.real? = v.real? :=
  Option.map_injective (fun _ _ => Content.real.inj) h

end

section
variable {es : List (String × Setting)} {w : Leaf → Setting} {t : Setting}

theorem Holds.field {α : Type} {convert : Setting → Option α}
    (h : Holds es fun l => some (w l)) (l : Leaf) (grouped : l.group?.isSome)
    (there : es.lookup l.top = some t) (number : Nat)
    (reads : ∀ {u v}, l.kind.convert u = l.kind.convert v → convert u = convert v) :
    (field? t number l.field).bind convert = convert (w l) := by
  obtain ⟨t', u, found, held, same⟩ := h.entries grouped rfl
  rw [there] at found
  cases found
  cases t with
  | table fields =>
    rw [field?, ← reads same, show fields.lookup l.field = some u from held]
    rfl
  | _ => cases h.tables l _ grouped there

theorem Holds.read {α : Type} {convert : Setting → Option α} {g : String}
    (h : Holds es fun l => some (w l)) (l : Leaf) (name : String) (named : l.field = name)
    (grouped : l.group? = some g) (there : es.lookup g = some t) (number : Nat)
    (reads : ∀ {u v}, l.kind.convert u = l.kind.convert v → convert u = convert v) :
    Settings.read convert t (some g) number name = asked convert w l := by
  rw [← top_of_some grouped] at there
  rw [← grouped, ← named, Settings.read, h.field l (by rw [grouped]; rfl) there number reads]
  rfl

theorem Holds.group {g : String} (h : Holds es fun l => some (w l)) (l : Leaf)
    (grouped : l.group? = some g) (number : Nat) :
    ∃ t, Settings.group (.table es) number g = .ok t ∧ es.lookup g = some t := by
  obtain ⟨u, found, -⟩ := h.values l _ rfl
  obtain ⟨t, there, -⟩ := Option.bind_eq_some_iff.mp found
  rw [top_of_some grouped] at there
  refine ⟨t, ?_, there⟩
  rw [Settings.group, read_eq_ok, field?, there]
  rfl

/-- the settings of a tree are those of the values that it holds -/
theorem ofTree_of_holds (h : Holds es fun l => some (w l)) : ofTree (.table es) = ofValues w := by
  have logLevel : (field? (.table es) 0 "log_level").bind Setting.text? = (w .logLevel).text? := by
    obtain ⟨u, found, same⟩ := h.values .logLevel _ rfl
    obtain ⟨t, there, part⟩ := Option.bind_eq_some_iff.mp found
    cases part
    rw [field?, show es.lookup "log_level" = some u from there, ← text?_of_convert same]
    rfl
  have logLevel : Settings.read Setting.text? (.table es) none 0 "log_level" =
      asked Setting.text? w .logLevel := by
    rw [Settings.read, logLevel]
    rfl
  obtain ⟨web, webThere, inWeb⟩ := h.group .host rfl 1
  obtain ⟨fleet, fleetThere, inFleet⟩ := h.group .count rfl 2
  obtain ⟨flight, flightThere, inFlight⟩ := h.group .stepInterval rfl 3
  obtain ⟨location, locationThere, inLocation⟩ := h.group .lookupUrl rfl 4
  obtain ⟨notify, notifyThere, inNotify⟩ := h.group .capacity rfl 5
  have host := h.read .host "host" rfl rfl inWeb 0 text?_of_convert
  have port := h.read .port "port" rfl rfl inWeb 1 natural?_of_convert
  have count := h.read .count "count" rfl rfl inFleet 0 natural?_of_convert
  have ipBase := h.read .ipBase "ip_base" rfl rfl inFleet 1 text?_of_convert
  have range := h.read .range "range" rfl rfl inFleet 2 natural?_of_convert
  have battery := h.read .battery "battery" rfl rfl inFleet 3 natural?_of_convert
  have stepInterval :=
    h.read .stepInterval "step_interval_ms" rfl rfl inFlight 0 natural?_of_convert
  have defaultWait := h.read .defaultWait "default_wait_ms" rfl rfl inFlight 1 natural?_of_convert
  have takeoffAltitude :=
    h.read .takeoffAltitude "takeoff_altitude" rfl rfl inFlight 2 real?_of_convert
  have returnSpeed := h.read .returnSpeed "return_speed" rfl rfl inFlight 3 natural?_of_convert
  have lookupUrl := h.read .lookupUrl "lookup_url" rfl rfl inLocation 0 text?_of_convert
  have elevation := h.read .elevation "elevation" rfl rfl inLocation 1 real?_of_convert
  have capacity := h.read .capacity "capacity" rfl rfl inNotify 0 natural?_of_convert
  -- both sides ask for the same values in the same order
  simp only [ofTree, readWeb, readFleet, readFlight, readLocation, webThere, fleetThere,
    flightThere, locationThere, notifyThere, logLevel, host, port, count, ipBase, range, battery,
    stepInterval, defaultWait, takeoffAltitude, returnSpeed, lookupUrl, elevation, capacity,
    ofValues, ok_bind, bind_assoc, pure_bind]

end

/-! ## names of no setting -/

/-- a value under a name at the top, without the fields of no setting if the name is that of a
group -/
def pruned (key : String) : Setting → Setting
  | .table fields =>
    if key ∈ Leaf.all.filterMap Leaf.group? then
      .table (fields.filter fun f =>
        decide (∃ l ∈ Leaf.all, l.group? = some key ∧ l.field = Setting.fold f.1))
    else .table fields
  | v => v

/-- the entries of a file without those of no setting -/
def ours (es : List (String × Setting)) : List (String × Setting) :=
  (es.filter fun e => decide (Setting.fold e.1 ∈ Leaf.all.map Leaf.top)).map fun e =>
    (e.1, pruned (Setting.fold e.1) e.2)

theorem under_filter {p : String × Setting → Bool} {name : String}
    (h : ∀ e, Setting.fold e.1 = name → p e) (es : List (String × Setting)) :
    under name (es.filter p) = under name es := by
  induction es with
  | nil => rfl
  | cons e r ih =>
    rw [List.filter_cons, under_cons, ← ih]
    by_cases here : Setting.fold e.1 = name
    · rw [if_pos (h e here), under_cons, if_pos here]
    · rw [if_neg here]
      split
      · rw [under_cons, if_neg here]
      · rfl

theorem under_map (f : String → Setting → Setting) (name : String)
    (es : List (String × Setting)) :
    under name (es.map fun e => (e.1, f (Setting.fold e.1) e.2)) = (under name es).map (f name) := by
  induction es with
  | nil => rfl
  | cons e r ih =>
    rw [List.map_cons, under_cons, under_cons, ih]
    by_cases here : Setting.fold e.1 = name
    · rw [if_pos here, if_pos here, here]
      rfl
    · rw [if_neg here, if_neg here]

theorem within_pruned (l : Leaf) (v : Setting) : l.within (pruned l.top v) = l.within v := by
  cases v with
  | table fields =>
    cases group : l.group? with
    | none =>
      have noGroup : l.top ∉ Leaf.all.filterMap Leaf.group? := by
        revert l
        decide +kernel
      rw [pruned, if_neg noGroup]
    | some g =>
      have isGroup : l.top ∈ Leaf.all.filterMap Leaf.group? :=
        List.mem_filterMap.mpr ⟨l, mem_all l, by rw [group, top_of_some group]⟩
      rw [pruned, if_pos isGroup, Leaf.within, Leaf.within, group]
      refine under_filter (fun f name => decide_eq_true ⟨l, mem_all l, ?_, name.symm⟩) fields
      rw [group, top_of_some group]
  | _ => rfl

/-- what is left out says nothing of the settings -/
theorem inFile_ours (l : Leaf) (es : List (String × Setting)) :
    l.inFile (ours es) = l.inFile es := by
  have kept : under l.top (es.filter fun e => decide (Setting.fold e.1 ∈ Leaf.all.map Leaf.top)) =
      under l.top es :=
    under_filter (fun e name => decide_eq_true (name ▸ List.mem_map_of_mem (mem_all l))) es
  rw [Leaf.inFile, Leaf.inFile, ours, under_map, kept, Option.bind_map]
  exact congrArg _ (funext (within_pruned l))

theorem FlatTable.pruned {v : Setting} (h : FlatTable v) (key : String) :
    FlatTable (pruned key v) := by
  obtain ⟨table, once, flat⟩ := h
  cases v with
  | table fields =>
    rw [Settings.pruned]
    split
    · exact ⟨rfl, once.sublist (List.filter_sublist.map _),
        fun f hf => flat f (List.mem_of_mem_filter hf)⟩
    · exact ⟨table, once, flat⟩
  | _ => cases table

theorem Plain.ours {es : List (String × Setting)} (h : Plain es) : Plain (ours es) where
  bare e he := by
    obtain ⟨e, kept, rfl⟩ := List.mem_map.mp he
    exact h.bare e (List.mem_of_mem_filter kept)
  once := by
    rw [Settings.ours, List.map_map]
    exact h.once.sublist (List.filter_sublist.map _)
  sections e he group := by
    obtain ⟨e, kept, rfl⟩ := List.mem_map.mp he
    exact (h.sections e (List.mem_of_mem_filter kept) group).pruned _

/-! ## loading -/

def fileEntries (s : Surroundings) : Option String → Except Fault (List (String × Setting))
  | none => .ok []
  | some path => entriesOf s path

theorem loadFrom_eq {s : Surroundings} {path? : Option String} {es : List (String × Setting)}
    (file : fileEntries s path? = .ok es) : loadFrom s path? = ofSurroundings s es := by
  cases path? with
  | none =>
    cases file
    rfl
  | some path =>
    rw [loadFrom, show entriesOf s path = .ok es from file]
    rfl

/-- the settings are those of the values that win -/
theorem ofLayers_eq {file : List (String × Setting)} {environment : List (String × String)}
    (plain : Plain file) (known : Known environment) :
    ofLayers file environment = ofValues (winning file environment) := by
  obtain ⟨es, layers, held⟩ := tree_holds plain known
  rw [ofLayers, layers, ofTree_of_holds held]

theorem ofSurroundings_eq_ok {s : Surroundings} {es : List (String × Setting)} {a : Settings} :
    ofSurroundings s es = .ok a ↔ ofLayers es s.environment = .ok a := by
  unfold ofSurroundings
  cases ofLayers es s.environment <;> simp

/-- **The settings that are loaded are the values that win**: for a plain file, or none, and
variables that name settings, what is loaded are the converted values, setting by setting, of the
variables, or else of the file, or else of what is built in. Loading fails just if a value that wins
is of another kind than is asked for. Two files that say the same of the settings, whatever else
they say, give the same, and names of no setting may be left out. A variable names a setting in any
case of its letters, and a stage without a file is loaded as no file is. -/
theorem winning_values_are_loaded (s : Surroundings) (path? : Option String)
    (es : List (String × Setting)) (file : fileEntries s path? = .ok es) (plain : Plain es)
    (known : Known s.environment) :
    (∀ a, loadFrom s path? = .ok a ↔
      ∀ l : Leaf, l.kind.convert (winning es s.environment l) = some (l.content a)) ∧
    ((∃ e, loadFrom s path? = .error e) ↔
      ∃ l : Leaf, l.kind.convert (winning es s.environment l) = none) ∧
    (∀ other? es', fileEntries s other? = .ok es' → Plain es' →
      (∀ l : Leaf, l.inFile es' = l.inFile es) → loadFrom s other? = loadFrom s path?) ∧
    (∀ other?, fileEntries s other? = .ok (ours es) → loadFrom s other? = loadFrom s path?) ∧
    (∀ (l : Leaf) n, Setting.fold n = l.variableName → placeOf? n = some l.place) ∧
    ∀ directories stage?,
      (∀ d ∈ directories, s.file? (stagePath d (stage?.getD usualStage)) = none) →
      load s directories stage? = loadFrom s none := by
  have loaded : ∀ a, loadFrom s path? = .ok a ↔
      ∀ l : Leaf, l.kind.convert (winning es s.environment l) = some (l.content a) := by
    intro a
    rw [loadFrom_eq file, ofSurroundings_eq_ok, ofLayers_eq plain known, ofValues_eq_ok]
  have alike : ∀ other? es', fileEntries s other? = .ok es' → Plain es' →
      (∀ l : Leaf, l.inFile es' = l.inFile es) → loadFrom s other? = loadFrom s path? := by
    intro other? es' file' plain' same
    have wins : winning es' s.environment = winning es s.environment := by
      funext l
      rw [winning, winning, same l]
    rw [loadFrom_eq file, loadFrom_eq file', ofSurroundings, ofSurroundings,
      ofLayers_eq plain known, ofLayers_eq plain' known, wins]
  refine ⟨loaded, ?fails, alike, ?unknown, fun l n => placeOf?_variableName, ?noFile⟩
  case fails =>
    rw [exists_error_iff]
    simp only [loaded]
    constructor
    · intro fails
      by_contra fits
      refine fails (exists_settings fun l => ?_)
      exact Option.ne_none_iff_exists'.mp fun misfit => fits ⟨l, misfit⟩
    · rintro ⟨l, misfit⟩ ⟨a, converts⟩
      rw [converts l] at misfit
      cases misfit
  case unknown =>
    intro other? file'
    exact alike other? (ours es) file' plain.ours fun l => inFile_ours l es
  case noFile =>
    intro directories stage? missing
    have absent : (directories.map fun d => stagePath d (stage?.getD usualStage)).find?
        (fun p => (s.file? p).isSome) = none := by
      rw [List.find?_eq_none]
      intro p hp
      obtain ⟨d, hd, rfl⟩ := List.mem_map.mp hp
      rw [missing d hd]
      simp
    rw [load, absent]

def mixedText : String :=
  "Log_Level = \"debug\"\n[WEB]\nport = \"x\"\n[flight]\ntakeoff_altitude = 12\n[extra]\na = 1\n"

def mixed : Surroundings where
  file? path := if path = "config/dev.toml" then some mixedText else none
  environment := [("PATH", "/bin"), ("TELLO__WEB__PORT", "8080"), ("Tello__Notify__Capacity", "+9")]

def mixedEntries : List (String × Setting) := (Toml.read? mixedText).getD []

theorem mixed_file : fileEntries mixed (some "config/dev.toml") = .ok mixedEntries := by
  have there : contents mixed "config/dev.toml" = .ok mixedText := by
    have toml : isToml "config/dev.toml" = true := by decide +kernel
    simp [contents, mixed, toml]
  have readable : (Toml.read? mixedText).isSome := by decide +kernel
  obtain ⟨es, found⟩ := Option.isSome_iff_exists.mp readable
  simp only [fileEntries, entriesOf, there, mixedEntries, found]
  simp [bind, Except.bind, found, pure, Except.pure]

theorem mixed_layers :
    loadFrom mixed (some "config/dev.toml") =
      .ok { logLevel := "debug"
            web := { port := 8080 }
            flight := { takeoffAltitude := 12 }
            capacity := 9 } :=
  ((winning_values_are_loaded mixed _ mixedEntries mixed_file (by decide +kernel)
    (by decide +kernel)).1 _).mpr (by decide +kernel)

end DroneFleet.Settings
