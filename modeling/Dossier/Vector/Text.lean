import Dossier.Number.Decimal
import Dossier.Text.Words
import Dossier.Vector.Similarity

/-!
# Vectors as text

A stored vector is its components between brackets, joined by commas, each in the fewest digits that
read back.
-/

namespace Dossier.Vec

/-- The stored form of a vector. -/
def text (v : Vec) : String := "[" ++ ",".intercalate (v.map Binary.positional) ++ "]"

/-- Why a text is not a stored vector. -/
inductive TextError where
  | notBracketed (text : String)
  | badComponent (cause : Binary.ParseError)
deriving DecidableEq

/-- The wording of a failure to read a vector. -/
def TextError.message : TextError → String
  | notBracketed text => "Malformed vector text: " ++ text ++ "."
  | badComponent .empty => "Malformed vector value: cannot parse float from empty string."
  | badComponent .malformed => "Malformed vector value: invalid float literal."

/-- The parts of a text between commas. -/
def splitCommas : List Char → List (List Char)
  | [] => [[]]
  | c :: rest =>
    if c = ',' then [] :: splitCommas rest
    else match splitCommas rest with
      | [] => [[c]]
      | part :: parts => (c :: part) :: parts

/-- What stands between the brackets of a text. -/
def unbracket? (cs : List Char) : Option (List Char) :=
  match cs with
  | '[' :: rest => if rest.getLast? = some ']' then some rest.dropLast else none
  | _ => none

/-- One component. -/
def readComponent (part : List Char) : Except TextError Single :=
  match Binary.parse (Text.trim part) with
  | .ok x => .ok x
  | .error cause => .error (.badComponent cause)

/-- The vector that a text stands for; blanks around it and around its components are allowed. -/
def parse (s : String) : Except TextError Vec :=
  let trimmed := Text.trim s.toList
  match unbracket? trimmed with
  | none => .error (.notBracketed (String.ofList trimmed))
  | some inner =>
    if (Text.trim inner).isEmpty then .ok [] else (splitCommas inner).mapM readComponent

end Dossier.Vec
