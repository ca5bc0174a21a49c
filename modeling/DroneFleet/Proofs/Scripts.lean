import DroneFleet.Command.Parser
import DroneFleet.Zone

/-!
# What the definition of a zone says

A script may be given as a text with one command on each line, as an array of commands, or as either
of them under the name `script` of an object, which may itself stand under that name in another.
What a definition says is put down here without a reader, one rule for each form.

* `Script.IsLines`      lines that a text is joined from
* `Script.ofText_iff`   every text is joined from one list of lines, and it is the one that is found
* `Script.Texts`        the texts among the items of an array
* `Script.Says`         the script that a definition says
* `Script.says_iff`     it is the one that is found
* `Script.Wraps`        a definition inside of objects
* `Zones.script?_ofJson`   the zones of a submission
* `Script.definition_says_script`   all together
-/

namespace DroneFleet

namespace Script

/-! ## the lines of a text -/

/-- is a text joined from these lines, one at least, none of which holds a newline? -/
structure IsLines (s : String) (xs : List String) : Prop where
  ne_nil : xs ≠ []
  newline : ∀ x ∈ xs, '\n' ∉ x.toList
  join : "\n".intercalate xs = s

section
variable {s : String} {xs : List String}

theorem intercalate_eq_unlines (ls : List (List Char)) :
    ['\n'].intercalate ls = Text.unlines ls := by
  induction ls with
  | nil => rfl
  | cons l ls ih =>
    cases ls with
    | nil => exact List.intercalate_singleton
    | cons m ms =>
      rw [List.intercalate_cons_cons, ih, List.append_assoc]
      rfl

theorem toList_join (xs : List String) :
    ("\n".intercalate xs).toList = Text.unlines (xs.map String.toList) := by
  rw [String.toList_intercalate, ← intercalate_eq_unlines]
  rfl

theorem map_toList_ofText (s : String) : (ofText s).map String.toList = Text.lines s.toList := by
  unfold ofText
  rw [List.map_map]
  simp

theorem isLines_ofText (s : String) : IsLines s (ofText s) where
  ne_nil h := Text.lines_ne_nil s.toList (List.map_eq_nil_iff.mp h)
  newline x hx := by
    have line : x.toList ∈ Text.lines s.toList := by
      rw [← map_toList_ofText]
      exact List.mem_map_of_mem hx
    exact Text.newline_notMem_of_mem_lines line
  join := by
    apply String.toList_injective
    rw [toList_join, map_toList_ofText, Text.unlines_lines]

theorem IsLines.eq_ofText (h : IsLines s xs) : ofText s = xs := by
  have lines : Text.lines s.toList = xs.map String.toList := by
    rw [← h.join, toList_join]
    refine Text.lines_unlines (fun hn => h.ne_nil (List.map_eq_nil_iff.mp hn)) fun l hl => ?_
    obtain ⟨x, hx, rfl⟩ := List.mem_map.mp hl
    exact h.newline x hx
  unfold ofText
  rw [lines, List.map_map]
  simp

/-- every text is joined from one list of lines, and it is the one that is found -/
theorem ofText_iff : IsLines s xs ↔ ofText s = xs := by
  refine ⟨IsLines.eq_ofText, ?_⟩
  rintro rfl
  exact isLines_ofText s

end

/-! ## definitions -/

/-- the texts among the items of an array, in order -/
inductive Texts : List Json → List String → Prop where
  | nil : Texts [] []
  | text {vs : List Json} {xs : List String} (s : String) (h : Texts vs xs) :
    Texts (.string s :: vs) (s :: xs)
  | other {v : Json} {vs : List Json} {xs : List String} (hv : ∀ s, v ≠ .string s)
      (h : Texts vs xs) : Texts (v :: vs) xs

/-- the script that a definition says -/
inductive Says : Json → List String → Prop where
  | text {s : String} {xs : List String} (h : IsLines s xs) : Says (.string s) xs
  | array {vs : List Json} {xs : List String} (h : Texts vs xs) : Says (.array vs) xs
  | wrapped {ms : List (String × Json)} {v : Json} {xs : List String}
      (hm : (Json.object ms).member? "script" = some v) (h : Says v xs) : Says (.object ms) xs
  | unwrapped {ms : List (String × Json)} (hm : (Json.object ms).member? "script" = none) :
    Says (.object ms) []
  | null : Says .null []
  | bool (b : Bool) : Says (.bool b) []
  | number (literal : String) : Says (.number literal) []

/-- does one definition stand inside of the other, under the name `script` at every depth? -/
inductive Wraps (v : Json) : Json → Prop where
  | bare : Wraps v v
  | wrap {ms : List (String × Json)} {w : Json}
      (hm : (Json.object ms).member? "script" = some w) (h : Wraps v w) : Wraps v (.object ms)

section
variable {v w : Json} {vs : List Json} {ms : List (String × Json)} {xs : List String}

theorem Texts.eq_filterMap (h : Texts vs xs) : vs.filterMap command? = xs := by
  induction h with
  | nil => rfl
  | text s h ih => rw [List.filterMap_cons_some (by rfl), ih]
  | @other v vs xs hv h ih =>
    have none : command? v = none := by
      cases v with
      | string s => exact absurd rfl (hv s)
      | _ => rfl
    rw [List.filterMap_cons_none none, ih]

theorem texts_filterMap (vs : List Json) : Texts vs (vs.filterMap command?) := by
  induction vs with
  | nil => exact .nil
  | cons v vs ih =>
    cases v with
    | string s => exact .text s ih
    | _ => exact .other nofun ih

theorem ofMembers_eq (ms : List (String × Json)) :
    ofMembers ms = ((ms.lookup "script").map ofJson).getD [] := by
  induction ms with
  | nil => rfl
  | cons m ms ih =>
    obtain ⟨n, v⟩ := m
    rw [ofMembers, List.lookup_cons]
    by_cases h : n = "script"
    · rw [if_pos h, h]
      rfl
    · have apart : ("script" == n) = false := by
        rw [beq_eq_false_iff_ne]
        exact fun e => h e.symm
      rw [if_neg h, apart, ih]

theorem ofJson_of_member (hm : (Json.object ms).member? "script" = some v) :
    ofJson (.object ms) = ofJson v := by
  have found : ms.lookup "script" = some v := hm
  rw [ofJson, ofMembers_eq, found]
  rfl

theorem ofJson_of_no_member (hm : (Json.object ms).member? "script" = none) :
    ofJson (.object ms) = [] := by
  have absent : ms.lookup "script" = none := hm
  rw [ofJson, ofMembers_eq, absent]
  rfl

theorem Says.eq_ofJson (h : Says v xs) : ofJson v = xs := by
  induction h with
  | text h =>
    rw [ofJson]
    exact h.eq_ofText
  | array h =>
    rw [ofJson]
    exact h.eq_filterMap
  | wrapped hm _ ih => rw [ofJson_of_member hm, ih]
  | unwrapped hm => exact ofJson_of_no_member hm
  | _ => rfl

theorem says_object (h : ∀ v, ms.lookup "script" = some v → Says v (ofJson v)) :
    Says (.object ms) (ofJson (.object ms)) := by
  cases hm : (Json.object ms).member? "script" with
  | none =>
    rw [ofJson_of_no_member hm]
    exact .unwrapped hm
  | some v =>
    rw [ofJson_of_member hm]
    exact .wrapped hm (h v hm)

mutual

theorem says_ofJson (v : Json) : Says v (ofJson v) := by
  cases v with
  | null => exact .null
  | bool b => exact .bool b
  | number literal => exact .number literal
  | string s => exact .text (isLines_ofText s)
  | array vs => exact .array (texts_filterMap vs)
  | object ms => exact says_object (says_of_lookup ms)

theorem says_of_lookup (ms : List (String × Json)) :
    ∀ v, ms.lookup "script" = some v → Says v (ofJson v) := by
  cases ms with
  | nil => exact fun v h => nomatch h
  | cons m ms =>
    obtain ⟨n, w⟩ := m
    intro v h
    rw [List.lookup_cons] at h
    split at h
    · cases h
      exact says_ofJson w
    · exact says_of_lookup ms v h

end

theorem says_iff : Says v xs ↔ ofJson v = xs := by
  refine ⟨Says.eq_ofJson, ?_⟩
  rintro rfl
  exact says_ofJson v

theorem Wraps.ofJson_eq (h : Wraps v w) : ofJson w = ofJson v := by
  induction h with
  | bare => rfl
  | wrap hm _ ih => rw [ofJson_of_member hm, ih]

theorem texts_ofStrings (xs : List String) : Texts (xs.map .string) xs := by
  induction xs with
  | nil => exact .nil
  | cons x xs ih => exact .text x ih

/-- a script given as an array is this script, also if it is empty or has newlines -/
theorem ofJson_ofStrings (xs : List String) : ofJson (Json.ofStrings xs) = xs :=
  says_iff.mp (.array (texts_ofStrings xs))

end

end Script

/-! ## the zones of a submission -/

theorem Zones.names_ofJson (ms : List (String × Json)) :
    (ofJson (some (.object ms))).map Prod.fst = ms.map Prod.fst := by
  show (ms.map fun m => (m.1, Script.ofJson m.2)).map Prod.fst = _
  rw [List.map_map]
  rfl

theorem Zones.script?_ofJson (ms : List (String × Json)) (name : String) :
    (ofJson (some (.object ms))).script? name =
      ((Json.object ms).member? name).map Script.ofJson := by
  show (ms.map fun m => (m.1, Script.ofJson m.2)).lookup name =
    (ms.lookup name).map Script.ofJson
  induction ms with
  | nil => rfl
  | cons m ms ih =>
    rw [List.map_cons, List.lookup_cons, List.lookup_cons, ih]
    split <;> rfl

namespace Script

/-- **A definition says one script, in whatever form it is given.** A text says its lines: the one
list of texts without newlines, not empty, that it is joined from; an array says the texts among its
items, in order; an object says what its member `script` says, at any depth, and nothing if it has
none; all else says nothing. So a script without newlines can be given as an array or as a text, in
any number of objects, but no text gives the empty script: the empty text is one blank command. A
script that was found is found again if it is given as an array. And a submission registers the
names that it defines, each with the script of its definition. -/
theorem definition_says_script :
    (∀ v xs, Says v xs ↔ ofJson v = xs) ∧
    (∀ s xs, IsLines s xs ↔ ofJson (.string s) = xs) ∧
    (∀ v w, Wraps v w → ofJson w = ofJson v) ∧
    (∀ xs : List String, xs ≠ [] → (∀ x ∈ xs, '\n' ∉ x.toList) → ∀ v w,
      v = Json.ofStrings xs ∨ v = .string ("\n".intercalate xs) → Wraps v w → ofJson w = xs) ∧
    (ofJson (.string "") = [""] ∧ wordsOf "" = []) ∧
    (∀ v, ofJson (Json.ofStrings (ofJson v)) = ofJson v) ∧
    ∀ ms, (Zones.ofJson (some (.object ms))).map Prod.fst = ms.map Prod.fst ∧
      ∀ name, (Zones.ofJson (some (.object ms))).script? name =
        ((Json.object ms).member? name).map ofJson := by
  have text : ∀ s xs, IsLines s xs ↔ ofJson (.string s) = xs := fun s xs => by
    rw [ofJson, ofText_iff]
  refine ⟨fun _ _ => says_iff, text, fun _ _ h => h.ofJson_eq, ?_, ⟨?_, rfl⟩,
    fun v => ofJson_ofStrings _, fun ms => ⟨Zones.names_ofJson ms, Zones.script?_ofJson ms⟩⟩
  · intro xs hne newline v w hv hw
    rw [hw.ofJson_eq]
    rcases hv with rfl | rfl
    · exact ofJson_ofStrings xs
    · exact (text _ xs).mp ⟨hne, newline, rfl⟩
  · exact (text "" [""]).mp ⟨by decide, by decide, by decide⟩

/-- a text with a blank line, in two objects -/
theorem definition_in_objects :
    Wraps (.string "up 20\n\ncw 90")
      (.object [("note", .null), ("script", .object [("script", .string "up 20\n\ncw 90")])]) ∧
    ofJson (.object [("note", .null),
      ("script", .object [("script", .string "up 20\n\ncw 90")])]) = ["up 20", "", "cw 90"] := by
  obtain ⟨-, -, -, forms, -⟩ := definition_says_script
  have wrapped : Wraps (.string "up 20\n\ncw 90")
      (.object [("note", .null), ("script", .object [("script", .string "up 20\n\ncw 90")])]) :=
    .wrap rfl (.wrap rfl .bare)
  have join : "\n".intercalate ["up 20", "", "cw 90"] = "up 20\n\ncw 90" := by decide
  have newline : ∀ x ∈ ["up 20", "", "cw 90"], '\n' ∉ x.toList := by decide
  exact ⟨wrapped, forms _ (by decide) newline _ _ (Or.inr (by rw [join])) wrapped⟩

end Script

end DroneFleet
