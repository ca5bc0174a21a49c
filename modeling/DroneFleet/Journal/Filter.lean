import DroneFleet.Journal.Directive

/-!
# Which remarks are shown

A filter is a list of directives. Of those that are about a remark the closest one decides, and of
equally close ones the last; a remark that none is about is not shown.

* `Filter.ruling?`       the directive that decides about a remark
* `Filter.shows`         is a remark shown?
* `Filter.ofTexts`       the filter of a list of directives and of one more
-/

namespace DroneFleet

/-- directives; where they are equally close a later one counts more -/
structure Filter where
  directives : List Directive
deriving DecidableEq, Repr

namespace Filter

/-- the closest of the directives that are about a remark, and of equally close ones the last -/
def rulingOf? (r : Remark) : List Directive → Option Directive
  | [] => none
  | d :: ds =>
    match rulingOf? r ds with
    | none => if d.concerns r then some d else none
    | some e => if d.concerns r && d.isCloser e then some d else some e

def ruling? (f : Filter) (r : Remark) : Option Directive := rulingOf? r f.directives

def shows (f : Filter) (r : Remark) : Bool :=
  (f.ruling? r).any fun d => d.threshold.shows r.level

def shown (f : Filter) (rs : List Remark) : List Remark := rs.filter f.shows

/-! ## filters of texts -/

/-- the directives of a list with commas between them; what cannot be read is left out -/
def listed (s : List Char) : List Directive :=
  ((Text.partsAt (· = ',') s).filter (· ≠ [])).filterMap Directive.read?

/-- the filter of a list of directives and of one more. Without any directive the list lets errors
pass; the last one lets everything but details pass if it cannot be read. -/
def ofTexts (list last : String) : Filter :=
  let front := listed list.toList
  ⟨(if front = [] then [.general (.ofLevel .error)] else front)
    ++ [(Directive.read? last.toList).getD (.general (.ofLevel .info))]⟩

end Filter

end DroneFleet
