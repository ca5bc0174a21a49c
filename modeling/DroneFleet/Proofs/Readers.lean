import DroneFleet.Http.RequestBody
import DroneFleet.Proofs.Outcomes

/-!
# Readers that agree

One text is read in several ways: what is kept is read strictly and what is skipped loosely, with
one bound on the nesting or another, into a value or into the fields of a record. Where two readers
both succeed they agree on where the value ends, and where both are as strict, on what it is.

* `Agree`            two readings that end at one place, with related results
* `items_agree`, `entries_agree`   it is enough that they agree on each item
* `scan_agree`       texts end at one place, also if half of a pair of surrogates is skipped
* `value_agree`      values end at one place, whatever strictness, size and depth they are read with
-/

namespace DroneFleet.Json

/-- if both readings succeed they end at one place, and their results are related -/
def Agree {α β : Type} (P : α → β → Prop) (x : Read α) (y : Read β) : Prop :=
  ∀ a r b r', x = .ok (a, r) → y = .ok (b, r') → r = r' ∧ P a b

namespace Agree
variable {α β γ δ : Type} {P : α → β → Prop} {Q : γ → δ → Prop} {x : Read α} {y : Read β}

theorem left_error (f : Fault) : Agree P (.error f) y := nofun

theorem right_error (f : Fault) : Agree P x (.error f) := nofun

theorem ok {a : α} {b : β} (h : P a b) (r : List Char) : Agree P (.ok (a, r)) (.ok (b, r)) := by
  intro c s d s' hc hd
  cases hc
  cases hd
  exact ⟨rfl, h⟩

theorem self (x : Read α) : Agree Eq x x := by
  intro a r b r' ha hb
  cases ha.symm.trans hb
  exact ⟨rfl, rfl⟩

theorem symm (h : Agree P x y) : Agree (fun b a => P a b) y x := fun b r a r' hb ha =>
  ⟨(h a r' b r ha hb).1.symm, (h a r' b r ha hb).2⟩

theorem mono {P' : α → β → Prop} (h : Agree P x y) (hp : ∀ a b, P a b → P' a b) :
    Agree P' x y := fun a r b r' ha hb => ⟨(h a r b r' ha hb).1, hp a b (h a r b r' ha hb).2⟩

theorem outcomes (h : Agree P x y) :
    (∃ e, x = .error e) ∨ (∃ e, y = .error e) ∨
      ∃ a b r, x = .ok (a, r) ∧ y = .ok (b, r) ∧ P a b := by
  cases x with
  | error e => exact Or.inl ⟨e, rfl⟩
  | ok p =>
    cases y with
    | error e => exact Or.inr (Or.inl ⟨e, rfl⟩)
    | ok q =>
      obtain ⟨hr, hp⟩ := h p.1 p.2 q.1 q.2 rfl rfl
      exact Or.inr (Or.inr ⟨p.1, q.1, p.2, rfl, by rw [hr], hp⟩)

theorem map (h : Agree P x y) {f : α → γ} {g : β → δ} (hf : ∀ a b, P a b → Q (f a) (g b)) :
    Agree Q (x.map fun p => (f p.1, p.2)) (y.map fun p => (g p.1, p.2)) := by
  rcases h.outcomes with ⟨e, rfl⟩ | ⟨e, rfl⟩ | ⟨a, b, r, rfl, rfl, hp⟩
  · exact left_error e
  · exact right_error e
  · exact ok (hf a b hp) r

theorem map_same {x y : Read α} {c : Prop} (h : Agree (fun v w => c → v = w) x y) {f g : α → γ}
    (hf : ∀ v, c → f v = g v) :
    Agree (fun v w => c → v = w) (x.map fun p => (f p.1, p.2)) (y.map fun p => (g p.1, p.2)) :=
  h.map fun v w hv hc => by rw [hv hc, hf w hc]

end Agree

/-! ## items -/

section
variable {σ τ : Type} {P : σ → τ → Prop}

/-- the items from one on -/
def onward (step : σ → List Char → Read σ) (n : Nat) (acc : σ) (s : List Char) : Read σ :=
  match step acc s with
  | .ok (acc, r) => items step n false acc r
  | .error e => .error e

theorem exists_of_onward {step : σ → List Char → Read σ} {n : Nat} {acc acc' : σ}
    {s r : List Char} (h : onward step n acc s = .ok (acc', r)) :
    ∃ acc₁ r₁, step acc s = .ok (acc₁, r₁) ∧ items step n false acc₁ r₁ = .ok (acc', r) := by
  unfold onward at h
  cases hs : step acc s with
  | error e =>
    rw [hs] at h
    cases h
  | ok p =>
    rw [hs] at h
    exact ⟨p.1, p.2, rfl, h⟩

/-- readers that agree on each item agree on all of them -/
theorem items_agree {f : σ → List Char → Read σ} {g : τ → List Char → Read τ}
    (h : ∀ a b s, P a b → Agree P (f a s) (g b s)) (n m : Nat) (first : Bool) {a : σ} {b : τ}
    (hab : P a b) (s : List Char) : Agree P (items f n first a s) (items g m first b s) := by
  induction n generalizing m first a b s with
  | zero => exact .left_error _
  | succ n ih =>
    cases m with
    | zero => exact .right_error _
    | succ m =>
      have more : ∀ s, Agree P (onward f n a s) (onward g m b s) := by
        intro s
        unfold onward
        rcases (h a b s hab).outcomes with ⟨e, he⟩ | ⟨e, he⟩ | ⟨a, b, r, hf, hg, hab⟩
        · simp only [he]
          exact .left_error e
        · simp only [he]
          exact .right_error e
        · simp only [hf, hg]
          exact ih m false hab r
      unfold items
      cases skip s with
      | nil => exact .left_error _
      | cons c r =>
        by_cases hc : c = ']'
        · simp only [hc, if_true]
          exact .ok hab r
        · simp only [hc, if_false]
          by_cases hf : first = true
          · simp only [hf, if_true]
            exact more (c :: r)
          · simp only [hf]
            by_cases hd : c = ','
            · simp only [hd, if_true]
              cases skip r with
              | nil => exact .left_error _
              | cons d r =>
                by_cases he : d = ']'
                · simp only [he, if_true]
                  exact .left_error _
                · simp only [he, if_false]
                  exact more (d :: r)
            · simp only [hd, if_false]
              exact .left_error _

end

/-! ## texts -/

/-- where a loose scan stands when a strict one waits for the other half of a pair -/
def Mode.loose : Mode → Mode
  | .plain => .plain
  | .escape => .escape
  | .hex left value _ => .hex left value none
  | .paired _ => .plain
  | .pairedEscape _ => .escape

theorem Agree.push_left {x y : Read (List Char)} (h : Agree (fun _ _ => True) x y) (c : Char) :
    Agree (fun _ _ => True) (push c x) y := by
  cases x with
  | error e => exact .left_error e
  | ok p =>
    intro cs r ds r' hc hd
    cases hc
    exact ⟨(h p.1 p.2 ds r' rfl hd).1, trivial⟩

theorem Agree.push_right {x y : Read (List Char)} (h : Agree (fun _ _ => True) x y) (c : Char) :
    Agree (fun _ _ => True) x (push c y) := (h.symm.push_left c).symm

/-- a loose scan never waits for the other half of a pair -/
theorem exists_closeHex_loose (code : Nat) : ∃ c, closeHex false code none = .ok (.inl c) := by
  simp only [closeHex, Bool.false_eq_true, if_false]
  split
  · exact ⟨_, rfl⟩
  · split <;> exact ⟨_, rfl⟩

/-- a strict and a loose scan end at one place -/
theorem scan_agree (m : Mode) (s : List Char) :
    Agree (fun _ _ => True) (scan true m s) (scan false m.loose s) := by
  induction s generalizing m with
  | nil =>
    unfold scan
    exact .left_error _
  | cons c r ih =>
    cases m with
    | plain =>
      show Agree _ (scan true .plain (c :: r)) (scan false .plain (c :: r))
      simp only [scan]
      split
      · exact .ok trivial r
      · split
        · exact ih .escape
        · split
          · exact .left_error _
          · exact ((ih .plain).push_left c).push_right c
    | escape =>
      show Agree _ (scan true .escape (c :: r)) (scan false .escape (c :: r))
      simp only [scan]
      split
      · exact ih (.hex 4 0 none)
      · cases plainEscape? c with
        | none => exact .left_error _
        | some d => exact ((ih .plain).push_left d).push_right d
    | hex left value high =>
      show Agree _ (scan true (.hex left value high) (c :: r))
        (scan false (.hex left value none) (c :: r))
      simp only [scan]
      cases hexValue? c with
      | none => exact .left_error _
      | some d =>
        obtain ⟨e, he⟩ := exists_closeHex_loose (16 * value + d)
        simp only [he]
        split
        · exact ih (.hex (left - 1) (16 * value + d) high)
        · cases closeHex true (16 * value + d) high with
          | error f => exact .left_error _
          | ok x =>
            cases x with
            | inl c => exact ((ih .plain).push_left c).push_right e
            | inr high => exact (ih (.paired high)).push_right e
    | paired high =>
      show Agree _ (scan true (.paired high) (c :: r)) (scan false .plain (c :: r))
      simp only [scan]
      by_cases hc : c = '\\'
      · simp only [hc, if_true]
        exact ih (.pairedEscape high)
      · simp only [hc, if_false]
        exact .left_error _
    | pairedEscape high =>
      show Agree _ (scan true (.pairedEscape high) (c :: r)) (scan false .escape (c :: r))
      simp only [scan]
      split
      · exact ih (.hex 4 0 (some high))
      · exact .left_error _

theorem chars_agree (a b : Bool) (s : List Char) :
    Agree (fun t u => a = b → t = u) (chars a s) (chars b s) := by
  have strictly : Agree (fun t u => true = false → t = u) (chars true s) (chars false s) := by
    unfold chars
    rcases (scan_agree .plain s).outcomes with ⟨e, he⟩ | ⟨e, he⟩ | ⟨cs, ds, r, hx, hy, -⟩
    · simp only [he]
      exact .left_error e
    · replace he : scan false .plain s = .error e := he
      simp only [he]
      exact .right_error e
    · replace hy : scan false .plain s = .ok (ds, r) := hy
      simp only [hx, hy]
      exact .ok (fun h => nomatch h) r
  cases a with
  | false =>
    cases b with
    | false => exact (Agree.self _).mono fun t u h _ => h
    | true => exact strictly.symm.mono fun t u _ => nofun
  | true =>
    cases b with
    | false => exact strictly
    | true => exact (Agree.self _).mono fun t u h _ => h

theorem name_agree (a b : Bool) (s : List Char) :
    Agree (fun t u => a = b → t = u) (name a s) (name b s) := by
  unfold name
  split
  · exact chars_agree a b _
  · exact .left_error _

/-! ## values -/

theorem entries_agree {σ τ : Type} {P : σ → τ → Prop} (a b : Bool)
    {f : σ → String → List Char → Read σ} {g : τ → String → List Char → Read τ}
    (h : ∀ x y t u s, (a = b → t = u) → P x y → Agree P (f x t s) (g y u s)) (n m : Nat)
    (first : Bool) {x : σ} {y : τ} (hxy : P x y) (s : List Char) :
    Agree P (entries a f n first x s) (entries b g m first y s) := by
  induction n generalizing m first x y s with
  | zero => exact .left_error _
  | succ n ih =>
    cases m with
    | zero => exact .right_error _
    | succ m =>
      unfold entries
      cases skip s with
      | nil => exact .left_error _
      | cons c r =>
        dsimp only
        split
        · exact .ok hxy r
        · split
          · rcases (name_agree a b (if first then c :: r else skip r)).outcomes with
              ⟨e, he⟩ | ⟨e, he⟩ | ⟨t, u, r, ha, hb, htu⟩
            · simp only [he]
              exact .left_error e
            · simp only [he]
              exact .right_error e
            · simp only [ha, hb]
              rcases (h x y t u r htu hxy).outcomes with ⟨e, he⟩ | ⟨e, he⟩ | ⟨x, y, r, hf, hg, hxy⟩
              · simp only [he]
                exact .left_error e
              · simp only [he]
                exact .right_error e
              · simp only [hf, hg]
                exact ih m false hxy r
          · exact .left_error _

theorem scalar_agree (a b : Bool) (s : List Char) :
    Agree (fun v w => a = b → v = w) (scalar a s) (scalar b s) := by
  unfold scalar
  split
  · exact .left_error _
  · exact (chars_agree a b _).map fun t u h hab => by rw [h hab]
  · exact (Agree.self _).mono fun v w h _ => h
  · exact (Agree.self _).mono fun v w h _ => h
  · exact (Agree.self _).mono fun v w h _ => h
  · cases numeral? _ with
    | none => exact .left_error _
    | some p =>
      obtain ⟨t, r⟩ := p
      by_cases ha : (a && !inRange t) = true
      · simp only [ha, if_true]
        exact .left_error _
      · by_cases hb : (b && !inRange t) = true
        · simp only [hb, if_true]
          exact .right_error _
        · simp only [ha, hb]
          exact .ok (fun _ => rfl) r

section
variable {strict : Bool} {size depth : Nat} {s r : List Char}

/-- how a text begins decides how its value is read -/
theorem opening (s : List Char) :
    (∃ r, skip s = '[' :: r) ∨ (∃ r, skip s = '\x7b' :: r) ∨
      (∀ r, skip s ≠ '[' :: r) ∧ ∀ r, skip s ≠ '\x7b' :: r := by
  by_cases hb : ∃ r, skip s = '[' :: r
  · exact Or.inl hb
  · by_cases hc : ∃ r, skip s = '\x7b' :: r
    · exact Or.inr (Or.inl hc)
    · exact Or.inr (Or.inr ⟨fun r h => hb ⟨r, h⟩, fun r h => hc ⟨r, h⟩⟩)

def elements (strict : Bool) (size depth : Nat) (vs : List Json) (s : List Char) :
    Read (List Json) :=
  (value strict size depth s).map fun p => (p.1 :: vs, p.2)

def member (strict : Bool) (size depth : Nat) (ms : List (String × Json)) (name : String)
    (s : List Char) : Read (List (String × Json)) :=
  match colon s with
  | .ok r => (value strict size depth r).map fun p => (Named.put name p.1 ms, p.2)
  | .error f => .error f

theorem value_of_bracket (h : skip s = '[' :: r) :
    value strict size (depth + 1) s =
      (items (elements strict size depth) (size + 1) true [] r).map fun p =>
        (.array p.1.reverse, p.2) := by
  unfold value
  rw [h]
  rfl

theorem value_of_brace (h : skip s = '\x7b' :: r) :
    value strict size (depth + 1) s =
      (entries strict (member strict size depth) (size + 1) true [] r).map fun p =>
        (.object p.1, p.2) := by
  unfold value
  rw [h]
  rfl

theorem value_of_other (hb : ∀ r, skip s ≠ '[' :: r) (hc : ∀ r, skip s ≠ '\x7b' :: r) :
    value strict size depth s = scalar strict (skip s) := by
  unfold value
  split
  · next h => exact absurd h (hb _)
  · next h => exact absurd h (hc _)
  · rfl

theorem value_of_head {c : Char} (h : skip s = c :: r) (hb : c ≠ '[') (hc : c ≠ '\x7b') :
    value strict size depth s = scalar strict (c :: r) := by
  have bracket : ∀ r', skip s ≠ '[' :: r' := fun r' h' => hb (List.cons.inj (h.symm.trans h')).1
  have brace : ∀ r', skip s ≠ '\x7b' :: r' := fun r' h' => hc (List.cons.inj (h.symm.trans h')).1
  rw [value_of_other bracket brace, h]

theorem value_of_depth_zero (strict : Bool) (size : Nat)
    (h : skip s = '[' :: r ∨ skip s = '\x7b' :: r) :
    value strict size 0 s = .error .malformed := by
  unfold value
  rcases h with h | h
  · rw [h]
    rfl
  · rw [h]
    rfl

end

/-- values end at one place however they are read; they are the same if they are read as strictly -/
theorem value_agree (a b : Bool) (size size' depth depth' : Nat) (s : List Char) :
    Agree (fun v w => a = b → v = w) (value a size depth s) (value b size' depth' s) := by
  -- the two may be bounded differently, so the other depth is any
  induction depth generalizing depth' s with
  | zero =>
    rcases opening s with ⟨r, h⟩ | ⟨r, h⟩ | ⟨hb, hc⟩
    · rw [value_of_depth_zero a size (Or.inl h)]
      exact .left_error _
    · rw [value_of_depth_zero a size (Or.inr h)]
      exact .left_error _
    · rw [value_of_other hb hc, value_of_other hb hc]
      exact scalar_agree a b _
  | succ depth ih =>
    cases depth' with
    | zero =>
      rcases opening s with ⟨r, h⟩ | ⟨r, h⟩ | ⟨hb, hc⟩
      · rw [value_of_depth_zero b size' (Or.inl h)]
        exact .right_error _
      · rw [value_of_depth_zero b size' (Or.inr h)]
        exact .right_error _
      · rw [value_of_other hb hc, value_of_other hb hc]
        exact scalar_agree a b _
    | succ depth' =>
      rcases opening s with ⟨r, h⟩ | ⟨r, h⟩ | ⟨hb, hc⟩
      · rw [value_of_bracket h, value_of_bracket h]
        have each : ∀ vs ws s, (a = b → vs = ws) → Agree (fun vs ws => a = b → vs = ws)
            (elements a size depth vs s) (elements b size' depth' ws s) := by
          intro vs ws s same
          unfold elements
          exact (ih depth' s).map_same (f := (· :: vs)) (g := (· :: ws)) fun v hab => by
            rw [same hab]
        exact (items_agree each _ _ true (fun _ => rfl) r).map_same
          (f := fun vs => array vs.reverse) (g := fun vs => array vs.reverse) fun _ _ => rfl
      · rw [value_of_brace h, value_of_brace h]
        have each : ∀ ms ns t u s, (a = b → t = u) → (a = b → ms = ns) →
            Agree (fun ms ns => a = b → ms = ns) (member a size depth ms t s)
              (member b size' depth' ns u s) := by
          intro ms ns t u s name same
          unfold member
          cases colon s with
          | error e => exact .left_error e
          | ok r =>
            exact (ih depth' r).map_same (f := (Named.put t · ms)) (g := (Named.put u · ns))
              fun v hab => by rw [name hab, same hab]
        exact (entries_agree a b each _ _ true (fun _ => rfl) r).map_same (f := object)
          (g := object) fun _ _ => rfl
      · rw [value_of_other hb hc, value_of_other hb hc]
        exact scalar_agree a b _

/-- what is skipped ends where it would end if it were kept -/
theorem skipValue_agree {strict : Bool} {size size' depth : Nat} {s r r' : List Char} {v : Json}
    (hs : skipValue size s = .ok r) (hv : value strict size' depth s = .ok (v, r')) : r = r' := by
  obtain ⟨⟨w, t⟩, hw, rfl⟩ := exists_of_map_eq_ok hs
  exact (value_agree false strict size size' size depth s w t v r' hw hv).1

end DroneFleet.Json
