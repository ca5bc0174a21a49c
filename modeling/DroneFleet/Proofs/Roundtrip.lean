import DroneFleet.Json.Printer
import DroneFleet.Json.Reader

/-!
# Printed JSON is read back

* `Json.scan_escape`     an escaped character is read as this character
* `Json.chars_textOf`    a printed text is read as this text
* `Json.Ends`            what can stand behind a value
* `Json.Numeric`         a numeral that is read whole and fits
* `Json.Printable`       a value with such numerals, and distinct names in its objects
* `Json.value_render`    a printed value is read as this value
* `Json.read?_compress`  the text of a value is read as this value
-/

namespace DroneFleet.Json

/-! ## texts -/

theorem hexValue?_hexDigit : ∀ n < 16, hexValue? (hexDigit n) = some n := by decide

theorem scan_control {c : Char} (h : c.toNat < 0x20) (r : List Char) :
    scan true .plain
        ('\\' :: 'u' :: '0' :: '0' :: hexDigit (c.toNat / 16) :: hexDigit (c.toNat % 16) :: r) =
      push c (scan true .plain r) := by
  have high := hexValue?_hexDigit (c.toNat / 16) (by omega)
  have low := hexValue?_hexDigit (c.toNat % 16) (by omega)
  have code : 16 * (16 * (16 * (16 * 0 + 0) + 0) + c.toNat / 16) + c.toNat % 16 = c.toNat := by
    omega
  have zero : hexValue? '0' = some 0 := by decide
  have closed : closeHex true c.toNat none = .ok (.inl c) := by
    unfold closeHex
    rw [if_neg (by omega), if_neg (by omega), Char.ofNat_toNat]
  simp only [scan, Char.reduceEq, if_false, if_true, zero, high, low, code, closed, Nat.reduceLT,
    Nat.reduceSub, Nat.lt_irrefl]

theorem scan_escape (c : Char) (r : List Char) :
    scan true .plain (escape c ++ r) = push c (scan true .plain r) := by
  unfold escape
  split
  · rename_i h
    subst h
    rfl
  split
  · rename_i h
    subst h
    rfl
  split
  · rename_i h
    subst h
    rfl
  split
  · rename_i h
    subst h
    rfl
  split
  · rename_i h
    subst h
    rfl
  split
  · rename_i h
    subst h
    rfl
  split
  · rename_i h
    subst h
    rfl
  split
  · rename_i h
    exact scan_control h r
  · rename_i quote backslash _ _ _ _ _ control
    show scan true .plain (c :: r) = _
    rw [scan, if_neg quote, if_neg backslash, if_neg control]

theorem scan_flatMap_escape (s r : List Char) :
    scan true .plain (s.flatMap escape ++ '"' :: r) = .ok (s, r) := by
  induction s with
  | nil => rfl
  | cons c s ih =>
    rw [List.flatMap_cons, List.append_assoc, scan_escape, ih]
    rfl

theorem chars_textOf (s : String) (r : List Char) :
    ∃ t, textOf s ++ r = '"' :: t ∧ chars true t = .ok (s, r) := by
  refine ⟨s.toList.flatMap escape ++ '"' :: r, ?_, ?_⟩
  · unfold textOf
    rw [List.cons_append, List.append_assoc]
    rfl
  · unfold chars
    rw [scan_flatMap_escape]
    show Except.ok (String.ofList s.toList, r) = _
    rw [String.ofList_toList]

/-! ## values -/

/-- can a value end in front of this? -/
def Ends (r : List Char) : Prop := ∀ c ∈ r.head?, c = ',' ∨ c = ']' ∨ c = '\x7d'

theorem ends_nil : Ends [] := nofun

theorem ends_cons {c : Char} (h : c = ',' ∨ c = ']' ∨ c = '\x7d') (r : List Char) :
    Ends (c :: r) := by
  intro d hd
  cases hd
  exact h

/-- a numeral that is read whole and fits -/
structure Numeric (t : List Char) : Prop where
  first : ∃ c r, t = c :: r ∧ (c = '-' ∨ c.isDigit = true)
  whole : ∀ r, Ends r → numeral? (t ++ r) = some (t, r)
  fits : inRange t = true

/-- a value that can be printed -/
inductive Printable : Json → Prop where
  | null : Printable .null
  | bool (b : Bool) : Printable (.bool b)
  | number {literal : String} (h : Numeric literal.toList) : Printable (.number literal)
  | string (s : String) : Printable (.string s)
  | array {vs : List Json} (h : ∀ v ∈ vs, Printable v) : Printable (.array vs)
  | object {ms : List (String × Json)} (names : (ms.map (·.1)).Nodup)
      (h : ∀ m ∈ ms, Printable m.2) : Printable (.object ms)

/-- does a value begin with this? -/
def Begins (c : Char) : Prop := isSpace c = false ∧ c ≠ ']' ∧ c ≠ '\x7d'

theorem begins_of_numeric {c : Char} (h : c = '-' ∨ c.isDigit = true) : Begins c := by
  rcases h with rfl | h
  · unfold Begins
    decide
  · refine ⟨?_, ?_, ?_⟩
    · unfold isSpace
      simp only [Bool.or_eq_false_iff, decide_eq_false_iff_not]
      refine ⟨⟨⟨?_, ?_⟩, ?_⟩, ?_⟩ <;> (rintro rfl; revert h; decide)
    · rintro rfl
      revert h
      decide
    · rintro rfl
      revert h
      decide

/-- a printed value begins with no blank, and it does not begin like an end -/
theorem render_begins {v : Json} (h : Printable v) : ∃ c t, render v = c :: t ∧ Begins c := by
  cases h with
  | null => exact ⟨'n', _, rfl, by unfold Begins; decide⟩
  | bool b => cases b <;> exact ⟨_, _, rfl, by unfold Begins; decide⟩
  | @number literal h =>
    obtain ⟨c, r, ht, hc⟩ := h.first
    exact ⟨c, r, ht, begins_of_numeric hc⟩
  | string s => exact ⟨'"', _, rfl, by unfold Begins; decide⟩
  | @array vs h =>
    cases vs with
    | nil => exact ⟨'[', _, rfl, by unfold Begins; decide⟩
    | cons v vs => exact ⟨'[', _, rfl, by unfold Begins; decide⟩
  | @object ms names h =>
    cases ms with
    | nil => exact ⟨'\x7b', _, rfl, by unfold Begins; decide⟩
    | cons m ms => exact ⟨'\x7b', _, rfl, by unfold Begins; decide⟩

theorem skip_of_begins {c : Char} (h : isSpace c = false) (r : List Char) :
    skip (c :: r) = c :: r := by
  unfold skip
  rw [List.dropWhile_cons, h]
  rfl

theorem ends_renderItems (vs : List Json) (r : List Char) : Ends (renderItems vs ++ r) := by
  cases vs with
  | nil => exact ends_cons (Or.inr (Or.inl rfl)) r
  | cons v vs => exact ends_cons (Or.inl rfl) _

theorem ends_renderMembers (ms : List (String × Json)) (r : List Char) :
    Ends (renderMembers ms ++ r) := by
  cases ms with
  | nil => exact ends_cons (Or.inr (Or.inr rfl)) r
  | cons m ms => exact ends_cons (Or.inl rfl) _

/-- is a value read back from its text, with so much room? -/
def ReadsBack (size depth : Nat) (v : Json) : Prop :=
  ∀ r, Ends r → value true size depth (render v ++ r) = .ok (v, r)

section
variable {size depth : Nat}

def nextItem (size depth : Nat) (vs : List Json) (r : List Char) : Read (List Json) :=
  (value true size depth r).map fun (v, r) => (v :: vs, r)

def nextMember (size depth : Nat) (ms : List (String × Json)) (n : String) (r : List Char) :
    Read (List (String × Json)) :=
  match colon r with
  | .ok r => (value true size depth r).map fun (v, r) => (Named.put n v ms, r)
  | .error f => .error f

theorem value_bracket (s : List Char) :
    value true size (depth + 1) ('[' :: s) =
      (items (nextItem size depth) (size + 1) true [] s).map fun (vs, r) =>
        (.array vs.reverse, r) := by
  rw [value]
  rfl

theorem value_brace (s : List Char) :
    value true size (depth + 1) ('\x7b' :: s) =
      (entries true (nextMember size depth) (size + 1) true [] s).map fun (ms, r) =>
        (.object ms, r) := by
  rw [value]
  rfl

theorem nextItem_render {v : Json} (h : ReadsBack size depth v) {r : List Char} (hr : Ends r)
    (vs : List Json) : nextItem size depth vs (render v ++ r) = .ok (v :: vs, r) := by
  unfold nextItem
  rw [h r hr]
  rfl

theorem items_renderItems {vs : List Json} (printable : ∀ v ∈ vs, Printable v)
    (back : ∀ v ∈ vs, ReadsBack size depth v) (acc : List Json) (r : List Char) {fuel : Nat}
    (room : vs.length < fuel) :
    items (nextItem size depth) fuel false acc (renderItems vs ++ r) =
      .ok (vs.reverse ++ acc, r) := by
  induction vs generalizing acc fuel with
  | nil =>
    obtain ⟨fuel, rfl⟩ := Nat.exists_eq_add_one_of_ne_zero (Nat.ne_of_gt room)
    rfl
  | cons v vs ih =>
    obtain ⟨fuel, rfl⟩ := Nat.exists_eq_add_one_of_ne_zero (Nat.ne_of_gt (Nat.zero_lt_of_lt room))
    obtain ⟨c, t, ht, hc⟩ := render_begins (printable v List.mem_cons_self)
    have next := nextItem_render (back v List.mem_cons_self) (ends_renderItems vs r) acc
    have text : renderItems (v :: vs) ++ r = ',' :: (c :: (t ++ (renderItems vs ++ r))) := by
      rw [renderItems, ht]
      simp only [List.cons_append, List.append_assoc]
    rw [ht] at next
    have rest := ih (fun x hx => printable x (List.mem_cons_of_mem _ hx))
      (fun x hx => back x (List.mem_cons_of_mem _ hx)) (v :: acc)
      (Nat.lt_of_succ_lt_succ room)
    rw [text, items, skip_of_begins (by decide)]
    simp only [Char.reduceEq, if_false, Bool.false_eq_true, if_true, skip_of_begins hc.1, if_neg hc.2.1]
    rw [List.cons_append] at next
    rw [next, List.reverse_cons, List.append_assoc]
    exact rest

theorem put_of_not_mem {name : String} {ms : List (String × Json)} (h : name ∉ ms.map (·.1))
    (v : Json) : Named.put name v ms = ms ++ [(name, v)] := by
  induction ms with
  | nil => rfl
  | cons m ms ih =>
    obtain ⟨n, w⟩ := m
    rw [List.map_cons, List.mem_cons, not_or] at h
    rw [Named.put, if_neg (Ne.symm h.1), ih h.2]
    rfl

theorem nextMember_render {v : Json} (h : ReadsBack size depth v) {r : List Char} (hr : Ends r)
    {n : String} {ms : List (String × Json)} (hn : n ∉ ms.map (·.1)) :
    nextMember size depth ms n (':' :: (render v ++ r)) = .ok (ms ++ [(n, v)], r) := by
  have behind : colon (':' :: (render v ++ r)) = .ok (render v ++ r) := by
    unfold colon
    rw [skip_of_begins (by decide)]
    rfl
  unfold nextMember
  rw [behind]
  show (value true size depth (render v ++ r)).map _ = _
  rw [h r hr, ← put_of_not_mem hn]
  rfl

theorem entries_renderMembers {ms : List (String × Json)}
    (back : ∀ m ∈ ms, ReadsBack size depth m.2) (acc : List (String × Json))
    (names : ((acc ++ ms).map (·.1)).Nodup) (r : List Char) {fuel : Nat}
    (room : ms.length < fuel) :
    entries true (nextMember size depth) fuel false acc (renderMembers ms ++ r) =
      .ok (acc ++ ms, r) := by
  induction ms generalizing acc fuel with
  | nil =>
    obtain ⟨fuel, rfl⟩ := Nat.exists_eq_add_one_of_ne_zero (Nat.ne_of_gt room)
    rw [List.append_nil]
    rfl
  | cons m ms ih =>
    obtain ⟨n, v⟩ := m
    obtain ⟨fuel, rfl⟩ := Nat.exists_eq_add_one_of_ne_zero (Nat.ne_of_gt (Nat.zero_lt_of_lt room))
    have fresh : n ∉ acc.map (·.1) := by
      rw [List.map_append, List.map_cons] at names
      intro hn
      exact (List.nodup_append.mp names).2.2 n hn n List.mem_cons_self rfl
    have next := nextMember_render (back _ List.mem_cons_self) (ends_renderMembers ms r) fresh
    obtain ⟨t, ht, hc⟩ := chars_textOf n (':' :: (render v ++ (renderMembers ms ++ r)))
    have text : renderMembers ((n, v) :: ms) ++ r = ',' :: '"' :: t := by
      rw [renderMembers, ← ht]
      simp only [List.cons_append, List.append_assoc]
    have rest := ih (fun x hx => back x (List.mem_cons_of_mem _ hx)) (acc ++ [(n, v)])
      (by rwa [List.append_assoc]) (Nat.lt_of_succ_lt_succ room)
    rw [text, entries, skip_of_begins (by decide)]
    simp only [Char.reduceEq, if_false, Bool.false_eq_true, or_true, if_true,
      skip_of_begins (show isSpace '"' = false by decide), name, hc]
    rw [next]
    rw [List.append_assoc] at rest
    exact rest

end

/-! ## values read back -/

theorem value_of_scalar {size depth : Nat} {c : Char} (space : isSpace c = false) (h : c ≠ '[')
    (h' : c ≠ '\x7b') (r : List Char) :
    value true size depth (c :: r) = scalar true (c :: r) := by
  rw [value, skip_of_begins space]
  split
  · rename_i heq
    exact absurd (List.cons.inj heq).1 h
  · rename_i heq
    exact absurd (List.cons.inj heq).1 h'
  · rfl

theorem readsBack_number {size depth : Nat} {literal : String} (h : Numeric literal.toList) :
    ReadsBack size depth (.number literal) := by
  intro r hr
  have whole := h.whole r hr
  obtain ⟨c, t, ht, hc⟩ := h.first
  have plain : c ≠ '[' ∧ c ≠ '\x7b' ∧ c ≠ '"' ∧ c ≠ 'n' ∧ c ≠ 't' ∧ c ≠ 'f' := by
    refine ⟨?_, ?_, ?_, ?_, ?_, ?_⟩ <;> (rintro rfl; revert hc; decide)
  show value true size depth (literal.toList ++ r) = _
  rw [ht, List.cons_append] at whole ⊢
  rw [value_of_scalar (begins_of_numeric hc).1 plain.1 plain.2.1]
  unfold scalar
  split
  · rename_i heq
    cases heq
  · rename_i heq
    exact absurd (List.cons.inj heq).1 plain.2.2.1
  · rename_i heq
    exact absurd (List.cons.inj heq).1 plain.2.2.2.1
  · rename_i heq
    exact absurd (List.cons.inj heq).1 plain.2.2.2.2.1
  · rename_i heq
    exact absurd (List.cons.inj heq).1 plain.2.2.2.2.2
  · have fits := h.fits
    rw [ht] at fits
    simp only [whole, fits, Bool.not_true, Bool.and_false, Bool.false_eq_true, if_false]
    rw [← ht, String.ofList_toList]

theorem readsBack_string {size depth : Nat} (s : String) : ReadsBack size depth (.string s) := by
  intro r hr
  obtain ⟨t, ht, hc⟩ := chars_textOf s r
  show value true size depth (textOf s ++ r) = _
  rw [ht, value_of_scalar (by decide) (by decide) (by decide)]
  show (chars true t).map _ = _
  rw [hc]
  rfl

theorem length_renderItems (vs : List Json) : vs.length < (renderItems vs).length := by
  induction vs with
  | nil => exact Nat.one_pos
  | cons v vs ih =>
    rw [renderItems, List.length_cons, List.length_cons, List.length_append]
    omega

theorem length_render_le {v : Json} {vs : List Json} (h : v ∈ vs) :
    (render v).length ≤ (renderItems vs).length := by
  induction vs with
  | nil => cases h
  | cons w vs ih =>
    rw [renderItems, List.length_cons, List.length_append]
    rcases List.mem_cons.mp h with rfl | h
    · omega
    · have rest := ih h
      omega

theorem length_renderMembers (ms : List (String × Json)) :
    ms.length < (renderMembers ms).length := by
  induction ms with
  | nil => exact Nat.one_pos
  | cons m ms ih =>
    obtain ⟨n, v⟩ := m
    simp only [renderMembers, List.length_cons, List.length_append]
    omega

theorem length_render_member_le {m : String × Json} {ms : List (String × Json)} (h : m ∈ ms) :
    (render m.2).length ≤ (renderMembers ms).length := by
  induction ms with
  | nil => cases h
  | cons w ms ih =>
    obtain ⟨n, v⟩ := w
    simp only [renderMembers, List.length_cons, List.length_append]
    rcases List.mem_cons.mp h with rfl | h
    · show (render v).length ≤ _
      omega
    · have rest := ih h
      omega

theorem readsBack_array {size depth : Nat} {v : Json} {vs : List Json}
    (printable : ∀ w ∈ v :: vs, Printable w) (back : ∀ w ∈ v :: vs, ReadsBack size depth w)
    (room : vs.length < size) : ReadsBack size (depth + 1) (.array (v :: vs)) := by
  intro r hr
  obtain ⟨c, t, ht, hc⟩ := render_begins (printable v List.mem_cons_self)
  have next := nextItem_render (back v List.mem_cons_self) (ends_renderItems vs r) []
  have rest := items_renderItems (fun w hw => printable w (List.mem_cons_of_mem _ hw))
    (fun w hw => back w (List.mem_cons_of_mem _ hw)) [v] r room
  have text : render (.array (v :: vs)) ++ r = '[' :: c :: (t ++ (renderItems vs ++ r)) := by
    rw [render, ht]
    simp only [List.cons_append, List.append_assoc]
  rw [ht, List.cons_append] at next
  rw [text, value_bracket, items, skip_of_begins hc.1]
  simp only [if_neg hc.2.1, if_true, next, rest]
  show Except.ok (Json.array (vs.reverse ++ [v]).reverse, r) = _
  rw [List.reverse_append, List.reverse_reverse]
  rfl

theorem readsBack_object {size depth : Nat} {m : String × Json} {ms : List (String × Json)}
    (names : ((m :: ms).map (·.1)).Nodup) (back : ∀ x ∈ m :: ms, ReadsBack size depth x.2)
    (room : ms.length < size) : ReadsBack size (depth + 1) (.object (m :: ms)) := by
  intro r hr
  obtain ⟨n, v⟩ := m
  have fresh : n ∉ ([] : List (String × Json)).map (·.1) := List.not_mem_nil
  have next := nextMember_render (back _ List.mem_cons_self) (ends_renderMembers ms r) fresh
  have rest := entries_renderMembers (fun x hx => back x (List.mem_cons_of_mem _ hx)) [(n, v)]
    names r room
  obtain ⟨t, ht, hc⟩ := chars_textOf n (':' :: (render v ++ (renderMembers ms ++ r)))
  have text : render (.object ((n, v) :: ms)) ++ r = '\x7b' :: '"' :: t := by
    rw [render, ← ht]
    simp only [List.cons_append, List.append_assoc]
  rw [text, value_brace, entries, skip_of_begins (by decide)]
  simp only [Char.reduceEq, if_false, true_or, if_true, name, hc]
  rw [next]
  show Except.map _ (entries true (nextMember size depth) size false [(n, v)] (renderMembers ms ++ r)) = _
  rw [rest]
  rfl

/-- a printed value is read as this value, with room for its text -/
theorem value_render {v : Json} (h : Printable v) {size depth : Nat}
    (room : (render v).length ≤ size) (deep : (render v).length ≤ depth) :
    ReadsBack size depth v := by
  induction h generalizing depth with
  | null =>
    intro r hr
    exact value_of_scalar (by decide) (by decide) (by decide) _
  | bool b =>
    intro r hr
    cases b <;> exact value_of_scalar (by decide) (by decide) (by decide) _
  | number h => exact readsBack_number h
  | string s => exact readsBack_string s
  | @array vs printable ih =>
    cases vs with
    | nil =>
      intro r hr
      obtain ⟨depth, rfl⟩ := Nat.exists_eq_add_one_of_ne_zero (Nat.ne_of_gt (Nat.zero_lt_of_lt deep))
      exact value_bracket _
    | cons v vs =>
      have length : (render (.array (v :: vs))).length =
          (render v).length + (renderItems vs).length + 1 := by
        rw [render, List.length_cons, List.length_append]
      have items := length_renderItems vs
      obtain ⟨depth, rfl⟩ := Nat.exists_eq_add_one_of_ne_zero (n := depth) (by omega)
      refine readsBack_array printable (fun w hw => ?_) (by omega)
      have shorter : (render w).length ≤ (render v).length + (renderItems vs).length := by
        rcases List.mem_cons.mp hw with rfl | hw
        · omega
        · have le := length_render_le hw
          omega
      exact ih w hw (by omega) (by omega)
  | @object ms names printable ih =>
    cases ms with
    | nil =>
      intro r hr
      obtain ⟨depth, rfl⟩ := Nat.exists_eq_add_one_of_ne_zero (Nat.ne_of_gt (Nat.zero_lt_of_lt deep))
      exact value_brace _
    | cons m ms =>
      have length : (render m.2).length + (renderMembers ms).length <
          (render (.object (m :: ms))).length := by
        obtain ⟨n, v⟩ := m
        simp only [render, List.length_cons, List.length_append]
        omega
      have members := length_renderMembers ms
      obtain ⟨depth, rfl⟩ := Nat.exists_eq_add_one_of_ne_zero (n := depth) (by omega)
      refine readsBack_object names (fun x hx => ?_) (by omega)
      have shorter : (render x.2).length ≤ (render m.2).length + (renderMembers ms).length := by
        rcases List.mem_cons.mp hx with rfl | hx
        · omega
        · have le := length_render_member_le hx
          omega
      exact ih x hx (by omega) (by omega)

/-- **The text of a value is read as this value.** -/
theorem read?_compress {v : Json} (h : Printable v) : read? v.compress = some v := by
  have length : v.compress.length = (render v).length := String.length_ofList
  have room : (render v).length ≤ v.compress.length := Nat.le_of_eq length.symm
  have back := value_render h room room [] ends_nil
  have text : v.compress.toList = render v := String.toList_ofList
  unfold read?
  rw [text]
  rw [List.append_nil] at back
  rw [back]
  rfl

end DroneFleet.Json
