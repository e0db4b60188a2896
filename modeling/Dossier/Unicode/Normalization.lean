import Dossier.Unicode.CombiningClass
import Dossier.Unicode.Composition

/-!
# Normalization Form KC

Every character is decomposed, each run of combining marks is put into the order of the combining
classes, and what composes is composed again.
-/

namespace Dossier.Unicode

/-- A mark put into its place behind the marks of no greater class; the list is in reverse, and a
starter stops the mark. -/
def insertMark (c : Char) (cls : Nat) : List (Char × Nat) → List (Char × Nat)
  | [] => [(c, cls)]
  | (other, held) :: before =>
    if cls ≠ 0 ∧ cls < held then (other, held) :: insertMark c cls before
    else (c, cls) :: (other, held) :: before

/-- The decomposed text in canonical order, each character with its class. -/
def ordered (cs : List Char) : List (Char × Nat) :=
  ((cs.flatMap decompose).foldl (fun acc c => insertMark c (combiningClass c) acc) []).reverse

/-- The composition of the characters after `starter`.  `marks` holds, in reverse, the characters
behind the starter that did not compose with it, and `last` the class of the newest of them. -/
def composeFrom (starter : Char) (marks : List Char) (last : Nat) :
    List (Char × Nat) → List Char
  | [] => starter :: marks.reverse
  | (c, cls) :: rest =>
    let adjacent := marks.isEmpty || last < cls
    match if adjacent then compose? starter c else none with
    | some whole => composeFrom whole marks last rest
    | none =>
      if cls = 0 then starter :: marks.reverse ++ composeFrom c [] 0 rest
      else composeFrom starter (c :: marks) cls rest

/-- The composition of an ordered text: marks before the first starter stay as they are. -/
def composed : List (Char × Nat) → List Char
  | [] => []
  | (c, cls) :: rest => if cls = 0 then composeFrom c [] 0 rest else c :: composed rest

/-- The text in Normalization Form KC. -/
def nfkc (cs : List Char) : List Char := composed (ordered cs)

end Dossier.Unicode
