import DroneFleet.Domain.Letters

/-!
# Joining

A character that asks its neighbours to join has to follow a mark that silences a vowel. One that
asks them not to join may also stand between characters that would join without it.

* `Joining`       how a character joins its neighbours
* `joiningOf`     the joining of a character
* `joinsFit`      does every such character have its place?
-/

namespace DroneFleet.Domain

/-- how a character joins its neighbours -/
inductive Joining where
  | none
  | left
  | right
  | both
  /-- its neighbours join through it -/
  | transparent
deriving DecidableEq, Repr

/-- where the joining of characters changes, marks not counted: one joins to the left, two to the
right, three to both sides, and through four neighbours join -/
def joiningSteps : List (Nat × Nat) := steps [
  "0:0 620:3 621:0 622:2 626:3 627:2 628:3 629:2 62A:3 62F:2 633:3 640:0 641:3 648:2 649:3 660:0",
  "66E:3 671:2 674:0 679:3 688:2 69A:3 6C0:2 6C1:3 6C3:2 6CC:3 6CD:2 6CE:3 6CF:2 6D0:3 6D2:2",
  "6D4:0 6D5:2 6DE:0 6EE:2 6F0:0 6FA:3 6FD:0 6FF:3 700:0 710:2 712:3 715:2 71A:3 71E:2 71F:3",
  "728:2 729:3 72A:2 72B:3 72C:2 72D:3 72F:2 74E:3 759:2 75C:3 76B:2 76D:3 771:2 772:3 773:2",
  "775:3 778:2 77A:3 780:0 7CA:3 7F4:0 840:2 841:3 846:2 848:3 849:2 84A:3 854:2 855:3 856:2",
  "85E:0 860:3 861:0 862:3 866:0 867:2 868:3 869:2 883:0 886:3 887:0 889:3 88E:2 88F:3 8AA:2",
  "8AD:0 8AE:2 8AF:3 8B1:2 8B3:3 8B9:2 8BA:3 8C9:0 1807:3 1808:0 1820:3 1880:0 1887:3 18B0:0",
  "A840:3 A872:1 A873:0 10AC0:3 10AC5:2 10AC6:0 10AC7:2 10AC8:0 10AC9:2 10ACB:0 10ACD:1 10ACE:2",
  "10AD3:3 10AD7:1 10AD8:3 10ADD:2 10ADE:3 10AE1:2 10AE2:0 10AE4:2 10AEB:3 10AEF:2 10AF0:0",
  "10B80:3 10B81:2 10B82:3 10B83:2 10B86:3 10B89:2 10B8A:3 10B8C:2 10B8D:3 10B8E:2 10B90:3",
  "10B91:2 10B99:0 10BA9:2 10BAD:3 10BAF:0 10D00:1 10D01:3 10D22:2 10D23:3 10D30:0 10EC2:2",
  "10EC3:3 10EC5:0 10EC6:3 10ED0:0 10F30:3 10F33:2 10F34:3 10F45:0 10F51:3 10F54:2 10F55:0",
  "10F70:3 10F74:2 10F76:3 10F86:0 10FB0:3 10FB1:0 10FB2:3 10FB4:2 10FB7:0 10FB8:3 10FB9:2",
  "10FBB:3 10FBD:2 10FBE:3 10FC0:0 10FC1:3 10FC2:2 10FC4:3 10FC5:0 10FC9:2 10FCA:3 10FCB:1",
  "10FE0:0 1E922:3 1E94B:4 1E950:0"]

def joiningOf (c : Char) : Joining :=
  if kindOf c = .overlaid then .transparent
  else
    match valueAt c.toNat 0 joiningSteps with
    | 1 => .left
    | 2 => .right
    | 3 => .both
    | 4 => .transparent
    | _ => .none

/-- the joining of the first character that others do not join through -/
def firstJoining (s : List Char) : Joining :=
  match s.dropWhile fun c => joiningOf c = .transparent with
  | c :: _ => joiningOf c
  | [] => .none

/-- does every character that asks its neighbours to join, or not to, have its place? `before` is
the text in front, the last character first. -/
def joinsFitAfter : List Char → List Char → Bool
  | _, [] => true
  | before, c :: r =>
    let silent := before.head?.any fun d => markClass d = silencing
    let fits :=
      if c = joiner then silent
      else if c = nonJoiner then
        silent ||
          ((firstJoining before = .left || firstJoining before = .both)
            && (firstJoining r = .right || firstJoining r = .both))
      else true
    fits && joinsFitAfter (c :: before) r

/-- does every character that asks its neighbours to join, or not to, have its place? -/
def joinsFit (label : List Char) : Bool := joinsFitAfter [] label

end DroneFleet.Domain
