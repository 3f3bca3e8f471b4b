/-!
# Text and bytes

Every message of this library is a list of characters (`Text`) or a list of octets (`Bytes`):
lists are what the laws are stated over, so no string type comes between a parser and its
grammar. This module fixes the two types, the passage between them (strict UTF-8, as the core
library defines it), and the three cuts that all the header formats are made of: at the first
occurrence of a character, at every occurrence, and at the ends.

Nothing here knows what white space is (`Text.Blank`) or what a line is (`Text.Lines`).
-/

namespace MediaProxy

/-- The **text** of a message, one character at a time. -/
abbrev Text := List Char

/-- A run of **octets**, as a socket delivers them. -/
abbrev Bytes := List UInt8

namespace Text

def toBytes (t : Text) : Bytes := t.flatMap String.utf8EncodeChar

/-- The text whose UTF-8 octets these are, or nothing when the octets are not UTF-8. -/
def ofBytes? (bytes : Bytes) : Option Text :=
  (String.fromUTF8? ⟨bytes.toArray⟩).map String.toList

/-- The two sides of the first `mark`, without the mark itself. -/
def cutAt (mark : Char) : Text → Option (Text × Text)
  | [] => none
  | c :: rest =>
    if c = mark then some ([], rest)
    else (cutAt mark rest).map fun (before, after) => (c :: before, after)

/-- The two sides of the last `mark`, without the mark itself. -/
def cutAtLast (mark : Char) (t : Text) : Option (Text × Text) :=
  (cutAt mark t.reverse).map fun (after, before) => (before.reverse, after.reverse)

/-- The pieces between the characters that satisfy `p`: always one more piece than there are
such characters, so a text without any is one piece. -/
def splitWhere (p : Char → Bool) : Text → List Text
  | [] => [[]]
  | c :: rest =>
    if p c then [] :: splitWhere p rest
    else
      match splitWhere p rest with
      | [] => [[c]]
      | piece :: pieces => (c :: piece) :: pieces

/-- The pieces between the occurrences of one character. -/
def splitOn (mark : Char) (t : Text) : List Text := splitWhere (· = mark) t

/-- What follows a given beginning, when the text has it. -/
def after? : Text → Text → Option Text
  | [], t => some t
  | _ :: _, [] => none
  | c :: start, d :: t => if c = d then after? start t else none

def join (separator : Text) (pieces : List Text) : Text := separator.intercalate pieces

/-- One character put in the place of others. -/
def replace (p : Char → Bool) (new : Char) (t : Text) : Text := t.map fun c => if p c then new else c

/-- Equality that tells no ASCII letter from its other case; all other characters count as
they are. -/
def sameLetters (a b : Text) : Bool := a.map Char.toLower = b.map Char.toLower

end Text

end MediaProxy
