import Dossier.Pii.Pattern

/-!
# Rules for personal data

Three kinds of personal data and the pattern of each: email addresses, social security numbers and
telephone numbers.
-/

namespace Dossier.Pii

/-- The kinds of personal data. -/
inductive Kind where
  | email
  | ssn
  | phone
deriving DecidableEq, Repr

namespace Kind

/-- The name of a kind inside a token. -/
def label : Kind → String
  | email => "EMAIL"
  | ssn => "SSN"
  | phone => "PHONE"

/-- All kinds in the order in which their rules run. -/
def all : List Kind := [email, ssn, phone]

end Kind

open Pattern

/-- The letters from A to Z in either case, with the two other characters that fold to one of
them. -/
def isLatin (c : Char) : Bool := c.isAlpha || c == '\u017f' || c == '\u212a'

/-- The characters of the part of an address before the at sign. -/
def isLocalPart (c : Char) : Bool := isLatin c || c.isDigit || "._%+-".toList.contains c

/-- The characters of the part of an address behind the at sign. -/
def isDomainPart (c : Char) : Bool := isLatin c || c.isDigit || c == '.' || c == '-'

/-- What may stand between the groups of a telephone number. -/
def isSeparator (c : Char) : Bool := Unicode.isBlank c || c == '.' || c == '-'

/-- Patterns one behind the other. -/
def sequence : List Pattern → Pattern
  | [] => repeated (fun _ => false) 0 (some 0)
  | [p] => p
  | p :: rest => andThen p (sequence rest)

/-- One given character. -/
def literal (c : Char) : Pattern := one (· == c)

/-- Exactly `n` decimal digits. -/
def digits (n : Nat) : Pattern := repeated Unicode.isDecimal n (some 0)

/-- A separator or nothing. -/
def separator : Pattern := optionally (one isSeparator)

/-- An email address. -/
def emailPattern : Pattern :=
  sequence [boundary, repeated isLocalPart 1 none, literal '@', repeated isDomainPart 1 none,
    literal '.', repeated isLatin 2 none, boundary]

/-- A social security number. -/
def ssnPattern : Pattern :=
  sequence [boundary, digits 3, literal '-', digits 2, literal '-', digits 4, boundary]

/-- A country code with a plus sign. -/
def countryCode : Pattern :=
  sequence [literal '+', repeated Unicode.isDecimal 1 (some 1), separator]

/-- An area code in parentheses or at a word boundary. -/
def areaCode : Pattern :=
  orElse (sequence [literal '(', digits 3, literal ')']) (sequence [boundary, digits 3])

/-- A telephone number. -/
def phonePattern : Pattern :=
  sequence [optionally countryCode, areaCode, separator, digits 3, separator, digits 4, boundary]

/-- The pattern of a kind. -/
def Kind.pattern : Kind → Pattern
  | email => emailPattern
  | ssn => ssnPattern
  | phone => phonePattern

/-- Does a text contain personal data of some kind? -/
def contains (cs : List Char) : Bool := Kind.all.any fun kind => kind.pattern.occursIn cs

end Dossier.Pii
