import Dossier.Text.Words
import Dossier.Unicode.Normalization

/-!
# Searchable content

The searchable form of a raw text: markup is taken out, six character entities are decoded, the text
is brought into Normalization Form KC, and its words are joined by single spaces.
-/

namespace Dossier.Text

/-- A text without its tags.  A tag runs from `<` to the next `>` and leaves one space behind; a tag
that never ends hides the rest of the text. -/
def stripMarkup (inTag : Bool) : List Char → List Char
  | [] => []
  | c :: rest =>
    if inTag then if c = '>' then ' ' :: stripMarkup false rest else stripMarkup true rest
    else if c = '<' then stripMarkup true rest
    else c :: stripMarkup false rest

/-- The entities that are decoded, in the order in which they are, with their characters.  The
ampersand comes last, so that what it produces is not decoded again. -/
def entities : List (List Char × Char) :=
  [ ("&nbsp;".toList, ' '),
    ("&lt;".toList, '<'),
    ("&gt;".toList, '>'),
    ("&quot;".toList, '"'),
    ("&#39;".toList, '\''),
    ("&amp;".toList, '&') ]

/-- A text with every occurrence of a pattern replaced by one character, from left to right; `skip`
characters of an occurrence are still to be left out. -/
def replaceFrom (pattern : List Char) (replacement : Char) : Nat → List Char → List Char
  | _, [] => []
  | skip + 1, _ :: rest => replaceFrom pattern replacement skip rest
  | 0, c :: rest =>
    if pattern.isPrefixOf (c :: rest) then
      replacement :: replaceFrom pattern replacement (pattern.length - 1) rest
    else c :: replaceFrom pattern replacement 0 rest

/-- A text with one entity decoded throughout. -/
def decodeEntity (cs : List Char) (entity : List Char × Char) : List Char :=
  replaceFrom entity.1 entity.2 0 cs

/-- A text with all entities decoded, one kind after the other. -/
def decodeEntities (cs : List Char) : List Char := entities.foldl decodeEntity cs

/-- The searchable form of a raw text. -/
def normalize (cs : List Char) : List Char :=
  collapse (Unicode.nfkc (decodeEntities (stripMarkup false cs)))

/-- The searchable form of a string. -/
def normalizeString (s : String) : String := String.ofList (normalize s.toList)

end Dossier.Text
