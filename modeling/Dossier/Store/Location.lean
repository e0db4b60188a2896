import Dossier.Json.Parse

/-!
# Where a store lies

A location names a file or a store in memory, with parameters behind a question mark.
-/

namespace Dossier.Store

/-- Where a store lies. -/
inductive Location where
  | memory
  | file (path : String) (readOnly : Bool)
deriving DecidableEq

namespace Location

/-- The rest of a text behind all repetitions of a word at its head. -/
def dropAll (word : List Char) : Nat → List Char → List Char
  | 0, cs => cs
  | fuel + 1, cs => if word.isPrefixOf cs then dropAll word fuel (cs.drop word.length) else cs

/-- The bytes of a text, percent-encoded ones decoded. -/
def percentBytes : List Char → List UInt8
  | '%' :: a :: b :: rest =>
    match Json.hexDigit? a, Json.hexDigit? b with
    | some x, some y => UInt8.ofNat (16 * x + y) :: percentBytes rest
    | _, _ => '%'.toString.toUTF8.toList ++ percentBytes (a :: b :: rest)
  | c :: rest => c.toString.toUTF8.toList ++ percentBytes rest
  | [] => []
termination_by cs => cs.length

/-- A text with its percent-encoded bytes decoded, if they are the bytes of a text. -/
def percentDecode? (cs : List Char) : Option String :=
  String.fromUTF8? (ByteArray.mk (percentBytes cs).toArray)

/-- The parts of a text between ampersands, each split at its first equals sign. -/
def parameters (cs : List Char) : List (String × String) :=
  ((cs.splitBy fun a b => a != '&' && b != '&').filter (· ≠ ['&'])).map fun part =>
    (String.ofList (part.takeWhile (· ≠ '=')), String.ofList ((part.dropWhile (· ≠ '=')).drop 1))

/-- A location with one parameter taken into account. -/
def withParameter (loc : Location) (param : String × String) : Option Location :=
  match param with
  | ("mode", "ro") => match loc with
    | memory => some memory
    | file path _ => some (file path true)
  | ("mode", "rw") => some loc
  | ("mode", "rwc") => some loc
  | ("mode", "memory") => some memory
  | ("cache", v) => if v = "private" ∨ v = "shared" then some loc else none
  | ("immutable", v) => if ["true", "1", "false", "0"].contains v then some loc else none
  | _ => none

/-- The location that a text stands for. -/
def parse (dsn : String) : Option Location := do
  let cs := dsn.toList
  let cs := dropAll "sqlite://".toList cs.length cs
  let cs := dropAll "sqlite:".toList cs.length cs
  let database := cs.takeWhile (· ≠ '?')
  let params := (cs.dropWhile (· ≠ '?')).drop 1
  let loc ← if database = ":memory:".toList then some memory
    else (percentDecode? database).map fun path => file path false
  (parameters params).foldlM withParameter loc

/-- The directory of a path. -/
def directory (path : String) : String :=
  String.ofList ((path.toList.reverse.dropWhile (· ≠ '/')).reverse)

/-- Can a store be opened at a location, when a new file would have to be made?  A file needs its
directory, and has to be written to. -/
def canOpen (directoryExists : String → Bool) : Location → Bool
  | memory => true
  | file path readOnly => !readOnly && directoryExists (directory path)

end Location

end Dossier.Store
