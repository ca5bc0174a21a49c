import DroneFleet.Proofs.Readers
import DroneFleet.Zone

/-!
# What a body says

The body of a request is read field by field, without a value of it in between. Still what is read
is what the body says: the fields of its value, in the one form or the other. A path that is missing
is empty, and zones that are missing or null are none.

* `body_reads_as_text`         the bytes of a text are read as the text, and what is no character is
                               refused where a text is kept
* `Json.field?`, `Json.Fits`   a field of a record in either form, and the values that are records
* `Record.Reads`               what is read of a record has to do with the fields that are there
* `Record.read_agree`          so it is when all of the record is read
* `DroneRequest.Says`, `FlightRequest.Says`
                               what a body says
* `DroneRequest.says_of_read`, `FlightRequest.says_of_read`
                               what is read is what the body says
-/

namespace DroneFleet

/-- a field of a record: a member of an object, or an item of an array of the fields in order -/
def Json.field? (names : List String) (name : String) : Json → Option Json
  | .object ms => ms.lookup name
  | .array vs => (names.zip vs).lookup name
  | _ => none

/-- is the value a record of these fields? An array may end early, but not late. -/
def Json.Fits (names : List String) : Json → Prop
  | .object _ => True
  | .array vs => vs.length ≤ names.length
  | _ => False

namespace Http

open Json (Read Agree value elements member items onward exists_of_onward entries colon skip scan
  push Mode)

/-! ## bytes -/

theorem textOf_toUTF8 (s : String) : textOf s.toUTF8 = s.toList := by
  have h : String.fromUTF8? s.toUTF8 = some s := dif_pos s.isValidUTF8
  unfold textOf
  rw [h]

theorem value_stray (strict : Bool) (size depth : Nat) (r : List Char) :
    value strict size depth (stray ++ r) = .error .malformed := by
  cases depth <;> rfl

theorem scan_stray (m : Mode) (r : List Char) : scan true m (stray ++ r) = .error .malformed := by
  cases m <;> rfl

/-- **A body is read as the text whose bytes it has, and what is no character is refused**, where a
value is due and in a text that is kept. In a text that is skipped it is passed over, though not
within an escape. -/
theorem body_reads_as_text :
    (∀ text : String, textOf text.toUTF8 = text.toList) ∧
    (∀ strict size depth r, value strict size depth (stray ++ r) = .error .malformed) ∧
    (∀ m r, scan true m (stray ++ r) = .error .malformed) ∧
    (∀ m ≠ Mode.plain, ∀ r, scan false m (stray ++ r) = .error .malformed) ∧
    ∀ r, scan false .plain (stray ++ r) =
      push 'x' (push Json.replacement (scan false .plain r)) := by
  refine ⟨textOf_toUTF8, value_stray, scan_stray, fun m h r => ?_, fun r => rfl⟩
  cases m with
  | plain => exact absurd rfl h
  | _ => rfl

/-! ## fields -/

theorem readText_agree (size depth : Nat) (s : List Char) :
    Agree (fun t v => v = .string t) (readText s) (value true size depth s) := by
  unfold readText
  split
  · next r h =>
    have text : value true size depth s =
        (Json.chars true r).map fun p => (Json.string p.1, p.2) := by
      rw [Json.value_of_head h (by decide) (by decide)]
      rfl
    rw [text]
    intro t u v w ht hv
    rw [ht] at hv
    cases hv
    exact ⟨rfl, rfl⟩
  · exact .left_error _

theorem readTexts_agree (size size' depth : Nat) (s : List Char) :
    Agree (fun ts v => v = .array (ts.map .string)) (readTexts size s)
      (value true size' depth s) := by
  unfold readTexts
  split
  · next r h =>
    cases depth with
    | zero =>
      rw [Json.value_of_depth_zero true size' (Or.inl h)]
      exact .right_error _
    | succ depth =>
      rw [Json.value_of_bracket h]
      have each : ∀ ts vs s, vs = ts.map Json.string →
          Agree (fun ts vs => vs = ts.map Json.string)
            ((readText s).map fun p => (p.1 :: ts, p.2)) (elements true size' depth vs s) := by
        intro ts vs s same
        have item := readText_agree size' depth s
        exact item.map (f := (· :: ts)) (g := (· :: vs)) fun t v hv => by
          rw [hv, same, List.map_cons]
      have none : ([] : List Json) = ([] : List String).map Json.string := rfl
      have all := Json.items_agree each (size + 1) (size' + 1) true none r
      exact all.map (f := fun ts => ts.reverse) (g := fun vs => Json.array vs.reverse)
        fun ts vs hv => by rw [hv, List.map_reverse]
  · exact .left_error _

theorem readOptional_agree (size depth size' depth' : Nat) (s : List Char) :
    Agree (fun o v => v = o.getD .null) (readOptional size depth s)
      (value true size' depth' s) := by
  unfold readOptional
  split
  · next r h =>
    have null : value true size' depth' s =
        (Json.word? "ull".toList r).elim (.error .malformed) fun r => .ok (.null, r) := by
      rw [Json.value_of_head h (by decide) (by decide)]
      rfl
    rw [null]
    cases Json.word? "ull".toList r with
    | none => exact .left_error _
    | some r =>
      intro o r v r' ho hv
      cases ho
      cases hv
      exact ⟨rfl, rfl⟩
  · have same := Json.value_agree true true size size' depth depth' s
    intro o r v r' ho hv
    obtain ⟨⟨w, u⟩, hw, heq⟩ := exists_of_map_eq_ok ho
    cases heq
    obtain ⟨hr, kept⟩ := same w r v r' hw hv
    exact ⟨hr, (kept rfl).symm⟩

/-! ## records -/

namespace Record

section
variable {σ : Type} {Shows : σ → String → Option Json → Prop} {rec : Record σ}
  {fs : List (String × (σ → Bool) × (σ → List Char → Read σ))}

def names (rec : Record σ) : List String := rec.fields.map (·.1)

/-- what the fields that are read have to do with the fields that are there: at first none is there,
and to read one of them says what is in that one and leaves the others alone -/
structure Reads (rec : Record σ) (Shows : σ → String → Option Json → Prop) : Prop where
  distinct : rec.names.Nodup
  start : ∀ f ∈ rec.fields, Shows rec.start f.1 none
  field : ∀ f ∈ rec.fields, ∀ acc size depth s,
    Agree (fun acc' v => Shows acc' f.1 (some v) ∧
      ∀ n o, n ≠ f.1 → Shows acc n o → Shows acc' n o) (f.2.2 acc s) (value true size depth s)

theorem items_of_closeArray {τ : Type} {step : τ → List Char → Read τ} {s r : List Char}
    (h : closeArray s = .ok r) (n : Nat) (first : Bool) (acc : τ) :
    items step (n + 1) first acc s = .ok (acc, r) := by
  unfold closeArray at h
  split at h
  · next r' hs =>
    cases h
    unfold items
    rw [hs]
    rfl
  · cases h

theorem exists_of_nextField {τ : Type} {step : τ → List Char → Read τ} {s r u : List Char}
    {first : Bool} {n : Nat} {acc ws : τ} (h : nextField first s = .ok (some r))
    (hi : items step n first acc s = .ok (ws, u)) :
    ∃ m acc₁ r₁, step acc r = .ok (acc₁, r₁) ∧ items step m false acc₁ r₁ = .ok (ws, u) := by
  cases n with
  | zero => cases hi
  | succ n =>
    unfold nextField at h
    rw [items] at hi
    -- both look at the same characters, and where one fails or ends the other does
    cases hs : skip s with
    | nil =>
      rw [hs] at h
      cases h
    | cons c t =>
      rw [hs] at h hi
      by_cases hc : c = ']'
      · simp [hc] at h
      · by_cases hf : first = true
        · simp only [hc, hf, if_true, if_false] at h hi
          cases h
          have further : onward step n acc (c :: t) = .ok (ws, u) := hi
          exact ⟨n, exists_of_onward further⟩
        · by_cases hd : c = ','
          · subst hd
            simp only [hc, hf, if_true, if_false] at h hi
            cases ht : skip t with
            | nil =>
              rw [ht] at h
              cases h
            | cons d t =>
              rw [ht] at h hi
              by_cases he : d = ']'
              · simp [he] at h
              · simp only [he, if_false] at h hi
                cases h
                have further : onward step n acc (d :: t) = .ok (ws, u) := hi
                exact ⟨n, exists_of_onward further⟩
          · simp [hc, hf, hd] at h

theorem exists_of_elements {size depth : Nat} {vs vs' : List Json} {s r : List Char}
    (h : elements true size depth vs s = .ok (vs', r)) :
    ∃ w, value true size depth s = .ok (w, r) ∧ vs' = w :: vs := by
  obtain ⟨⟨w, u⟩, hw, heq⟩ := exists_of_map_eq_ok h
  cases heq
  exact ⟨w, hw, rfl⟩

theorem lookup_zip_eq_none {names : List String} {name : String} (vs : List Json)
    (h : name ∉ names) : (names.zip vs).lookup name = none := by
  rw [List.lookup_eq_none_iff]
  intro p hp
  rw [bne_iff_ne]
  rintro rfl
  exact h (List.of_mem_zip hp).1

/-- what the items of an array say, one field after the other, comes to what is known already -/
structure Adds (Shows : σ → String → Option Json → Prop)
    (fs : List (String × (σ → Bool) × (σ → List Char → Read σ))) (new : List Json) (acc acc' : σ) :
    Prop where
  short : new.length ≤ fs.length
  shown : ∀ name o, Shows acc name o →
    Shows acc' name ((((fs.map (·.1)).zip new).lookup name).or o)

theorem Adds.nil (acc : σ) : Adds Shows fs [] acc acc := by
  refine ⟨Nat.zero_le _, fun name o ho => ?_⟩
  rw [List.zip_nil_right]
  exact ho

theorem Adds.cons {f : String × (σ → Bool) × (σ → List Char → Read σ)} {v : Json}
    {new : List Json} {acc acc₁ acc' : σ} (unlisted : f.1 ∉ fs.map (·.1))
    (shown : Shows acc₁ f.1 (some v)) (kept : ∀ n o, n ≠ f.1 → Shows acc n o → Shows acc₁ n o)
    (h : Adds Shows fs new acc₁ acc') :
    Adds Shows (f :: fs) (v :: new) acc acc' := by
  refine ⟨Nat.succ_le_succ h.short, fun n o ho => ?_⟩
  rw [List.map_cons, List.zip_cons_cons, List.lookup_cons]
  by_cases hn : n = f.1
  · -- the name does not come again, so the fields after it leave it as it is
    have later := h.shown f.1 (some v) shown
    rw [lookup_zip_eq_none new unlisted] at later
    rw [hn, beq_self_eq_true]
    exact later
  · rw [beq_false_of_ne hn]
    exact h.shown n o (kept n o hn ho)

theorem exists_of_ended {s u r' : List Char} {n size depth : Nat} {first : Bool}
    {vs ws : List Json} (acc : σ) (hc : closeArray s = .ok u)
    (hv : items (elements true size depth) n first vs s = .ok (ws, r')) :
    ∃ new, ws = new.reverse ++ vs ∧ u = r' ∧ Adds Shows fs new acc acc := by
  cases n with
  | zero => cases hv
  | succ n =>
    rw [items_of_closeArray hc] at hv
    cases hv
    exact ⟨[], rfl, rfl, .nil acc⟩

/-- an array is read as its items, which are the first fields of the record -/
theorem readFields_agree (spec : rec.Reads Shows) (hfs : ∀ f ∈ fs, f ∈ rec.fields)
    (distinct : (fs.map (·.1)).Nodup) {first : Bool} {acc acc' : σ} {s r r' u : List Char}
    {n size depth : Nat} {vs ws : List Json} (h : readFields fs first acc s = .ok (acc', r))
    (hc : closeArray r = .ok u)
    (hv : items (elements true size depth) n first vs s = .ok (ws, r')) :
    ∃ new, ws = new.reverse ++ vs ∧ u = r' ∧ Adds Shows fs new acc acc' := by
  induction fs generalizing first acc s n vs with
  | nil =>
    cases h
    exact exists_of_ended _ hc hv
  | cons f more ih =>
    unfold readFields at h
    cases hn : nextField first s with
    | error e =>
      rw [hn] at h
      cases h
    | ok t =>
      rw [hn] at h
      cases t with
      | none =>
        cases h
        exact exists_of_ended _ hc hv
      | some t =>
        obtain ⟨m, vs₁, r₁, item, rest⟩ := exists_of_nextField hn hv
        obtain ⟨w, hw, rfl⟩ := exists_of_elements item
        obtain ⟨unlisted, distinct⟩ := List.nodup_cons.mp distinct
        dsimp only at h
        cases hf : f.2.2 acc t with
        | error e =>
          rw [hf] at h
          cases h
        | ok p =>
          rw [hf] at h
          have here := spec.field f (hfs f List.mem_cons_self) acc size depth t
          obtain ⟨hr, shown, kept⟩ := here p.1 p.2 w r₁ hf hw
          rw [← hr] at rest
          have hmore : ∀ f ∈ more, f ∈ rec.fields := fun f hf => hfs f (List.mem_cons_of_mem _ hf)
          obtain ⟨new, hws, hu, adds⟩ := ih hmore distinct h rest
          refine ⟨w :: new, ?_, hu, adds.cons unlisted shown kept⟩
          rw [hws, List.reverse_cons, List.append_assoc]
          rfl

/-- what a record has of its fields, with the members of an object -/
def ShowsAll (rec : Record σ) (Shows : σ → String → Option Json → Prop) (acc : σ)
    (ms : List (String × Json)) : Prop := ∀ f ∈ rec.fields, Shows acc f.1 (ms.lookup f.1)

/-- a member of an object is read as one: a field says what is in it, another is skipped -/
theorem readEntry_agree (spec : rec.Reads Shows) (size size' depth : Nat) {acc : σ}
    {ms : List (String × Json)} (name : String) (s : List Char) (h : rec.ShowsAll Shows acc ms) :
    Agree (rec.ShowsAll Shows) (rec.readEntry size acc name s)
      (member true size' depth ms name s) := by
  unfold readEntry member
  cases hl : rec.fields.lookup name with
  | none =>
    have unlisted : ∀ f ∈ rec.fields, f.1 ≠ name := by
      intro f hf hname
      have absent := List.lookup_eq_none_iff.mp hl f hf
      rw [hname, bne_self_eq_false] at absent
      exact nomatch absent
    cases colon s with
    | error e => exact .left_error e
    | ok r =>
      intro acc' u ms' u' ha hv
      obtain ⟨t, hs, h₁⟩ := exists_of_map_eq_ok ha
      obtain ⟨⟨w, t'⟩, hw, h₂⟩ := exists_of_map_eq_ok hv
      cases h₁
      cases h₂
      refine ⟨Json.skipValue_agree hs hw, fun f hf => ?_⟩
      rw [Named.lookup_put_of_ne (unlisted f hf)]
      exact h f hf
  | some p =>
    obtain ⟨present, field⟩ := p
    have listed : (name, present, field) ∈ rec.fields := by
      obtain ⟨before, after, hfields, -⟩ := List.lookup_eq_some_iff.mp hl
      rw [hfields]
      exact List.mem_append_right _ List.mem_cons_self
    dsimp only
    split
    · exact .left_error _
    · cases colon s with
      | error e => exact .left_error e
      | ok r =>
        intro acc' u ms' u' ha hv
        obtain ⟨⟨w, t'⟩, hw, h₂⟩ := exists_of_map_eq_ok hv
        cases h₂
        obtain ⟨hu, shown, kept⟩ := spec.field _ listed acc size' depth r acc' u w t' ha hw
        refine ⟨hu, fun f hf => ?_⟩
        rw [Named.lookup_put]
        split
        · next hname =>
          rw [hname]
          exact shown
        · next hname => exact kept f.1 _ hname (h f hf)

/-- what is read of a record is what its value says -/
theorem read_agree (spec : rec.Reads Shows) (complete : σ → Bool) (size size' depth : Nat)
    (s : List Char) :
    Agree (fun acc v => v.Fits rec.names ∧
        ∀ f ∈ rec.fields, Shows acc f.1 (v.field? rec.names f.1))
      (rec.read complete size s) (value true size' depth s) := by
  rcases Json.opening s with ⟨r, h⟩ | ⟨r, h⟩ | ⟨hb, hc⟩
  · cases depth with
    | zero =>
      rw [Json.value_of_depth_zero true size' (Or.inl h)]
      exact .right_error _
    | succ depth =>
      intro acc u v u' ha hv
      rw [Json.value_of_bracket h] at hv
      obtain ⟨⟨ws, t'⟩, hw, h₂⟩ := exists_of_map_eq_ok hv
      cases h₂
      unfold read at ha
      simp only [h] at ha
      cases hr : readFields rec.fields true rec.start r with
      | error e =>
        rw [hr] at ha
        cases ha
      | ok p =>
        simp only [hr] at ha
        split at ha
        · obtain ⟨t, ht, h₁⟩ := exists_of_map_eq_ok ha
          cases h₁
          obtain ⟨new, rfl, hu, adds⟩ :=
            readFields_agree spec (fun f hf => hf) spec.distinct hr ht hw
          rw [List.append_nil, List.reverse_reverse]
          refine ⟨hu, ?_, fun f hf => ?_⟩
          · show new.length ≤ (rec.fields.map (·.1)).length
            rw [List.length_map]
            exact adds.short
          · have shown := adds.shown f.1 none (spec.start f hf)
            rw [Option.or_none] at shown
            exact shown
        · cases ha
  · cases depth with
    | zero =>
      rw [Json.value_of_depth_zero true size' (Or.inr h)]
      exact .right_error _
    | succ depth =>
      have none : rec.ShowsAll Shows rec.start [] := spec.start
      have each : ∀ acc ms t u s, (true = true → t = u) → rec.ShowsAll Shows acc ms →
          Agree (rec.ShowsAll Shows) (rec.readEntry size acc t s)
            (member true size' depth ms u s) := by
        intro acc ms t u s name shown
        rw [name rfl]
        exact readEntry_agree spec size size' depth u s shown
      have all := Json.entries_agree true true each (size + 1) (size' + 1) true none r
      intro acc u v u' ha hv
      rw [Json.value_of_brace h] at hv
      obtain ⟨⟨ms, t'⟩, hm, h₂⟩ := exists_of_map_eq_ok hv
      cases h₂
      unfold read at ha
      simp only [h] at ha
      cases hr : Json.entries true (rec.readEntry size) (size + 1) true rec.start r with
      | error e =>
        rw [hr] at ha
        cases ha
      | ok p =>
        simp only [hr] at ha
        split at ha
        · cases ha
          obtain ⟨hu, shown⟩ := all _ _ _ _ hr hm
          exact ⟨hu, trivial, shown⟩
        · cases ha
  · have refused : rec.read complete size s = .error (mismatch s) := by
      unfold read
      split
      · next h => exact absurd h (hb _)
      · next h => exact absurd h (hc _)
      · rfl
    rw [refused]
    exact .left_error _

end

end Record

/-! ## bodies -/

namespace DroneRequest

def record : Record (Option String) where
  fields := [("id", Option.isSome, fun _ r => (readText r).map fun (t, r) => (some t, r))]
  start := none

/-- does the value say which drone a request is about? -/
def Says (v : Json) (q : DroneRequest) : Prop :=
  v.Fits ["id"] ∧ v.field? ["id"] "id" = some (.string q.id)

theorem reads_record : record.Reads fun acc n o => n = "id" → o = acc.map Json.string where
  distinct := List.pairwise_singleton _ _
  start _ _ _ := rfl
  field := by
    intro f hf acc size depth s
    cases List.mem_singleton.mp hf
    intro acc' r v r' ha hv
    obtain ⟨⟨t, u⟩, ht, h⟩ := exists_of_map_eq_ok ha
    cases h
    obtain ⟨hr, rfl⟩ := readText_agree size depth s t r v r' ht hv
    exact ⟨hr, fun _ => rfl, fun n o hn _ hid => absurd hid hn⟩

theorem exists_of_read {s : List Char} {q : DroneRequest} (h : DroneRequest.read s = .ok q) :
    ∃ u, record.read Option.isSome s.length s = .ok (some q.id, u) := by
  unfold DroneRequest.read at h
  dsimp only at h
  split at h
  · next hr =>
    cases h
    exact ⟨_, hr⟩
  · cases h
  · cases h

/-- what is read about a drone is what the body says -/
theorem says_of_read {s r : List Char} {q : DroneRequest} {size depth : Nat} {v : Json}
    (h : DroneRequest.read s = .ok q) (hv : value true size depth s = .ok (v, r)) : Says v q := by
  obtain ⟨u, hu⟩ := exists_of_read h
  have agree := Record.read_agree reads_record Option.isSome s.length size depth s
  obtain ⟨-, fits, shown⟩ := agree _ u v r hu hv
  exact ⟨fits, shown _ List.mem_cons_self rfl⟩

end DroneRequest

namespace FlightCommands

/-- does the value say this path and these zones? -/
structure Says (v : Json) (c : FlightCommands) : Prop where
  fits : v.Fits ["path", "zones"]
  path : v.field? ["path", "zones"] "path" = c.path?.map fun ts => .array (ts.map .string)
  zones : v.field? ["path", "zones"] "zones" = c.zones?.map fun z => z.getD .null

theorem reads_record (size depth : Nat) : (record size depth).Reads fun c n o =>
    (n = "path" → o = c.path?.map fun ts => .array (ts.map .string)) ∧
      (n = "zones" → o = c.zones?.map fun z => z.getD .null) where
  distinct := by
    show List.Nodup ["path", "zones"]
    decide
  start _ _ := ⟨fun _ => rfl, fun _ => rfl⟩
  field := by
    intro f hf c size' depth' s c' r v r' hc hv
    have other : "path" ≠ "zones" := by decide
    rcases List.mem_cons.mp hf with rfl | hf
    · obtain ⟨⟨ts, u⟩, ht, h⟩ := exists_of_map_eq_ok hc
      cases h
      obtain ⟨hr, rfl⟩ := readTexts_agree size size' depth' s ts r v r' ht hv
      exact ⟨hr, ⟨fun _ => rfl, fun h => absurd h other⟩,
        fun n o hn ho => ⟨fun hp => absurd hp hn, ho.2⟩⟩
    · cases List.mem_singleton.mp hf
      obtain ⟨⟨z, u⟩, hz, h⟩ := exists_of_map_eq_ok hc
      cases h
      obtain ⟨hr, rfl⟩ := readOptional_agree size depth size' depth' s z r v r' hz hv
      exact ⟨hr, ⟨fun h => absurd h.symm other, fun _ => rfl⟩,
        fun n o hn ho => ⟨ho.1, fun hz => absurd hz hn⟩⟩

theorem read_agree (size depth size' depth' : Nat) (s : List Char) :
    Agree (fun c v => Says v c) (read size depth s) (value true size' depth' s) := by
  have agree := Record.read_agree (reads_record size depth) (fun _ => true) size size' depth' s
  refine agree.mono fun c v h => ?_
  have path := h.2 _ List.mem_cons_self
  have zones := h.2 _ (List.mem_cons_of_mem _ List.mem_cons_self)
  exact ⟨h.1, path.1 rfl, zones.2 rfl⟩

section
variable {o : Option Json} {c : Option FlightCommands}

theorem path_of_rel (h : Option.Rel Says o c) :
    (o.bind fun v => v.field? ["path", "zones"] "path").getD (.array []) =
      .array (((c.getD {}).path?.getD []).map .string) := by
  cases h with
  | none => rfl
  | @some v c hv =>
    show (v.field? ["path", "zones"] "path").getD (.array []) = _
    rw [hv.path]
    show _ = Json.array ((c.path?.getD []).map .string)
    cases c.path? with
    | none => rfl
    | some ts => rfl

theorem zones_of_rel (h : Option.Rel Says o c) :
    Zones.ofJson ((c.getD {}).zones?.getD none) =
      Zones.ofJson (o.bind fun v => v.field? ["path", "zones"] "zones") := by
  cases h with
  | none => rfl
  | @some v c hv =>
    show _ = Zones.ofJson (v.field? ["path", "zones"] "zones")
    rw [hv.zones]
    show Zones.ofJson (c.zones?.getD none) = _
    rcases c.zones? with _ | _ | z
    · rfl
    · rfl
    · rfl

theorem fits_of_rel {v : Json} (h : Option.Rel Says (some v) c) : v.Fits ["path", "zones"] := by
  cases h with
  | some hv => exact hv.fits

end

end FlightCommands

namespace FlightRequest

/-- the fields of a submission; `size` is at least the length of the text -/
def record (size : Nat) : Record (Option String × Option FlightCommands) where
  fields :=
    [("id", fun a => a.1.isSome,
        fun a r => (readText r).map fun (t, r) => ((some t, a.2), r)),
     ("commands", fun a => a.2.isSome,
        fun a r => (FlightCommands.read size (maxDepth - 2) r).map fun (c, r) =>
          ((a.1, some c), r))]
  start := (none, none)

def commands? (v : Json) : Option Json := v.field? ["id", "commands"] "commands"

def path? (v : Json) : Option Json := (commands? v).bind fun c => c.field? ["path", "zones"] "path"

def zones? (v : Json) : Option Json :=
  (commands? v).bind fun c => c.field? ["path", "zones"] "zones"

/-- does the value say this drone, path and zones? -/
structure Says (v : Json) (id : String) (path : List String) (zones : Zones) : Prop where
  fits : v.Fits ["id", "commands"]
  id : v.field? ["id", "commands"] "id" = some (.string id)
  commands : ∀ c, commands? v = some c → c.Fits ["path", "zones"]
  path : (path? v).getD (.array []) = .array (path.map .string)
  zones : zones = Zones.ofJson (zones? v)

theorem reads_record (size : Nat) : (record size).Reads fun a n o =>
    (n = "id" → o = a.1.map .string) ∧
      (n = "commands" → Option.Rel FlightCommands.Says o a.2) where
  distinct := by
    show List.Nodup ["id", "commands"]
    decide
  start _ _ := ⟨fun _ => rfl, fun _ => .none⟩
  field := by
    intro f hf a size' depth' s a' r v r' ha hv
    have other : "id" ≠ "commands" := by decide
    rcases List.mem_cons.mp hf with rfl | hf
    · obtain ⟨⟨t, u⟩, ht, h⟩ := exists_of_map_eq_ok ha
      cases h
      obtain ⟨hr, rfl⟩ := readText_agree size' depth' s t r v r' ht hv
      exact ⟨hr, ⟨fun _ => rfl, fun h => absurd h other⟩,
        fun n o hn ho => ⟨fun hi => absurd hi hn, ho.2⟩⟩
    · cases List.mem_singleton.mp hf
      obtain ⟨⟨c, u⟩, hc, h⟩ := exists_of_map_eq_ok ha
      cases h
      have agree := FlightCommands.read_agree size (maxDepth - 2) size' depth' s
      obtain ⟨hr, shown⟩ := agree c r v r' hc hv
      exact ⟨hr, ⟨fun h => absurd h.symm other, fun _ => .some shown⟩,
        fun n o hn ho => ⟨ho.1, fun hc => absurd hc hn⟩⟩

theorem exists_of_read {s : List Char} {q : FlightRequest} (h : FlightRequest.read s = .ok q) :
    ∃ c u, (record s.length).read (fun a => a.1.isSome) s.length s = .ok ((some q.id, c), u) ∧
      q.path = (c.getD {}).path?.getD [] ∧ q.zones = (c.getD {}).zones?.getD none := by
  unfold FlightRequest.read at h
  dsimp only at h
  split at h
  · next hr =>
    cases h
    exact ⟨_, _, hr, rfl, rfl⟩
  · cases h
  · cases h

theorem says_of_read {s r : List Char} {q : FlightRequest} {size depth : Nat} {v : Json}
    (h : FlightRequest.read s = .ok q) (hv : value true size depth s = .ok (v, r)) :
    Says v q.id q.path (Zones.ofJson q.zones) := by
  obtain ⟨c, u, hu, hpath, hzones⟩ := exists_of_read h
  have agree := Record.read_agree (reads_record s.length) (fun a => a.1.isSome) s.length size
    depth s
  obtain ⟨-, fits, shown⟩ := agree _ u v r hu hv
  have id := shown _ List.mem_cons_self
  have commands := shown _ (List.mem_cons_of_mem _ List.mem_cons_self)
  replace id : v.field? ["id", "commands"] "id" = some (.string q.id) := id.1 rfl
  replace commands : Option.Rel FlightCommands.Says (commands? v) c := commands.2 rfl
  refine ⟨fits, id, fun w hw => ?_, ?_, ?_⟩
  · rw [hw] at commands
    exact FlightCommands.fits_of_rel commands
  · rw [hpath]
    exact FlightCommands.path_of_rel commands
  · rw [hzones]
    exact FlightCommands.zones_of_rel commands

end FlightRequest

end Http

end DroneFleet
