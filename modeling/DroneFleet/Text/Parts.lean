/-!
# Parts of a text

* `partsAt`            a text, or any other list, cut at every mark; never empty
-/

namespace DroneFleet.Text

variable {α : Type}

/-- the list cut at every mark: one part more than it has marks -/
def partsAt (isMark : α → Bool) : List α → List (List α)
  | [] => [[]]
  | c :: r =>
    if isMark c then [] :: partsAt isMark r
    else
      match partsAt isMark r with
      | l :: ls => (c :: l) :: ls
      | [] => [[c]]

end DroneFleet.Text
