import Dossier.Unicode.Blank

/-!
# Words of a text

A word is a maximal run of characters that are not blank.  `Text.words` lists the words, and
`Text.tokens` lists them with the byte offsets at which they begin.
-/

namespace Dossier.Text

open Unicode

/-- The number of bytes that a text takes in UTF-8. -/
def byteLength (cs : List Char) : Nat := cs.foldr (fun c n => c.utf8Size + n) 0

/-- What is left of a text behind its first `n` bytes. -/
def dropBytes : Nat → List Char → List Char
  | _, [] => []
  | n, c :: rest => if n = 0 then c :: rest else dropBytes (n - c.utf8Size) rest

/-- The characters of a text that begin within its first `n` bytes. -/
def takeBytes : Nat → List Char → List Char
  | _, [] => []
  | n, c :: rest => if n = 0 then [] else c :: takeBytes (n - c.utf8Size) rest

/-- The part of a text from one byte offset to another. -/
def slice (start stop : Nat) (cs : List Char) : List Char :=
  takeBytes (stop - start) (dropBytes start cs)

/-- A word and the byte offset at which it begins. -/
structure Token where
  start : Nat
  chars : List Char
deriving DecidableEq

/-- The byte offset just behind a token. -/
def Token.stop (t : Token) : Nat := t.start + byteLength t.chars

/-- The tokens of a text that begins at byte `offset`; `word` holds, in reverse, the characters of
the word that has begun just before it. -/
def tokensFrom (offset : Nat) (word : List Char) : List Char → List Token
  | [] => if word.isEmpty then [] else [⟨offset - byteLength word, word.reverse⟩]
  | c :: rest =>
    if isBlank c then
      let more := tokensFrom (offset + c.utf8Size) [] rest
      if word.isEmpty then more else ⟨offset - byteLength word, word.reverse⟩ :: more
    else tokensFrom (offset + c.utf8Size) (c :: word) rest

/-- The words of a text with the byte offsets at which they begin. -/
def tokens (cs : List Char) : List Token := tokensFrom 0 [] cs

/-- The words of a text. -/
def words (cs : List Char) : List (List Char) := (tokens cs).map Token.chars

/-- A text without the blanks at its ends. -/
def trim (cs : List Char) : List Char :=
  ((cs.dropWhile isBlank).reverse.dropWhile isBlank).reverse

/-- Is there nothing but blanks in a text? -/
def isBlankText (s : String) : Bool := s.toList.all isBlank

/-- The words of a text joined by single spaces. -/
def collapse (cs : List Char) : List Char := [' '].intercalate (words cs)

end Dossier.Text
