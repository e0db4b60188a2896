import Dossier.Text.Words

/-!
# Masking credentials

Before the text of an error is stored, what looks like a credential is taken out of it: the word
behind the word `bearer`, and what stands behind the separator in a word that names a credential.
-/

namespace Dossier.Text

/-- What stands in the place of a credential. -/
def mask : List Char := "[REDACTED]".toList

/-- The names of credentials, in lower case. -/
def credentialNames : List (List Char) :=
  ["api_key", "apikey", "password", "secret", "token"].map String.toList

/-- The word that announces a credential. -/
def announcement : List Char := "bearer".toList

/-- The most characters that an error text keeps. -/
def errorLimit : Nat := 1024

/-- Does a text contain another? -/
def containsText (part : List Char) : List Char → Bool
  | [] => part.isEmpty
  | c :: rest => part.isPrefixOf (c :: rest) || containsText part rest

/-- A text with its ASCII letters in lower case. -/
def lowerAscii (cs : List Char) : List Char := cs.map Char.toLower

/-- Does a word announce that the next one is a credential? -/
def announces (word : List Char) : Bool := lowerAscii word == announcement

/-- Does a word name a credential? -/
def namesCredential (word : List Char) : Bool :=
  credentialNames.any fun name => containsText name (lowerAscii word)

/-- The separator between a name and its value: an equals sign if there is one, and else a colon. -/
def separator? (word : List Char) : Option Char :=
  if word.contains '=' then some '='
  else if word.contains ':' then some ':'
  else none

/-- A word as it is kept.  `hidden` tells that the word before announced a credential. -/
def maskWord (hidden : Bool) (word : List Char) : List Char :=
  match separator? word with
  | some sep =>
    if namesCredential word then word.takeWhile (· ≠ sep) ++ sep :: mask
    else if hidden then mask else word
  | none => if hidden then mask else word

/-- Words as they are kept. -/
def maskWords : Bool → List (List Char) → List (List Char)
  | _, [] => []
  | hidden, word :: rest => maskWord hidden word :: maskWords (announces word) rest

/-- The text of an error as it is stored. -/
def maskCredentials (s : String) : String :=
  String.ofList (([' '].intercalate (maskWords false (words s.toList))).take errorLimit)

end Dossier.Text
