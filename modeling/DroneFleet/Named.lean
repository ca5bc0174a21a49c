/-!
# Named values

A list of named values with distinct names, in the order in which the names first came.

* `Named.put`       a value set under a name, in its old place if it has one
* `lookup_put`      setting a value changes this one and no other
-/

namespace DroneFleet.Named

variable {α : Type}

/-- sets the value of that name, in its old place if it has one -/
def put (name : String) (v : α) : List (String × α) → List (String × α)
  | [] => [(name, v)]
  | (n, w) :: r => if n = name then (name, v) :: r else (n, w) :: put name v r

theorem lookup_put (name : String) (v : α) (ms : List (String × α)) (n : String) :
    (put name v ms).lookup n = if n = name then some v else ms.lookup n := by
  induction ms with
  | nil =>
    by_cases h : n = name
    · simp [put, h]
    · have hb : (n == name) = false := by simpa using h
      simp [put, List.lookup_cons, h, hb]
  | cons m r ih =>
    obtain ⟨k, w⟩ := m
    unfold put
    by_cases hk : k = name
    · subst hk
      by_cases hn : n = k
      · simp [hn]
      · have : (n == k) = false := by simpa using hn
        simp [List.lookup_cons, hn, this]
    · simp only [hk, if_false, List.lookup_cons]
      by_cases hn : n = k
      · subst hn; simp [hk]
      · have : (n == k) = false := by simpa using hn
        simp [this, ih]

theorem lookup_put_self (name : String) (v : α) (ms : List (String × α)) :
    (put name v ms).lookup name = some v := by
  rw [lookup_put, if_pos rfl]

theorem lookup_put_of_ne {name n : String} (h : n ≠ name) (v : α) (ms : List (String × α)) :
    (put name v ms).lookup n = ms.lookup n := by
  rw [lookup_put, if_neg h]

end DroneFleet.Named
