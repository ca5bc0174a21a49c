import DroneFleet.Domain.Composition
import DroneFleet.Domain.Direction
import DroneFleet.Domain.Joining
import DroneFleet.Domain.Mapping
import DroneFleet.Domain.Punycode

/-!
# Domain names

A name is labels with points between them. Whatever it is written with, it has one form in ASCII.

* `isSound`         may a label beyond ASCII be as it is?
* `Label.read?`     the label that a text stands for, which may be in ASCII already
* `Label.ascii`     the form of a label in ASCII
* `labels`          the labels of a name
* `ascii?`          the form of a name in ASCII
-/

namespace DroneFleet.Domain

def labels (name : List Char) : List (List Char) := Text.partsAt (· = '.') name

/-- what a label in ASCII begins with when it stands for one beyond ASCII -/
def encodedFront : List Char := "xn--".toList

/-- does a label stand for one beyond ASCII? -/
def isEncoded (label : List Char) : Bool := encodedFront.isPrefixOf label

/-- may a label beyond ASCII be as it is? -/
def isSound (label : List Char) : Bool :=
  label.all (fun c => isLetter c && c ≠ '.') && normal label = label && !isEncoded label
    && !(label.head?.any fun c => kindOf c ≠ .base) && joinsFit label

namespace Label

def isBasic (label : List Char) : Bool := label.all Punycode.isBasic

/-- the label that a text stands for; none if it stands for none -/
def read? (label : List Char) : Option (List Char) :=
  if isEncoded label then
    if isBasic label then
      match Punycode.decode? (label.drop encodedFront.length) with
      | some l => if isBasic l then none else if isSound l then some l else none
      | none => none
    else none
  else if isBasic label || isSound label then some label
  else none

def ascii (label : List Char) : List Char :=
  if isBasic label then label else encodedFront ++ Punycode.encode label

end Label

def ascii? (name : List Char) : Option (List Char) := do
  let ls ← (labels (normal (← replaceAll? name))).mapM Label.read?
  if directionsFit ls then some ((ls.map Label.ascii).intersperse ['.']).flatten else none

end DroneFleet.Domain
