import MediaProxy.Text.Basic

/-!
# Tables over characters

A property of characters is given by its runs: neighbouring code points that have something in
common. A table is a text of words with blanks and line breaks between them, one word for each run,
and the runs follow one another. A word begins with a letter that says what the run has in common;
hexadecimal numbers with points between them stand behind it, the length of the run first and then
what else the letter asks for.
-/

namespace MediaProxy.Domain

/-- A **run** of neighbouring code points that have something in common. -/
structure Span (α : Type) where
  first : Nat
  length : Nat
  value : α
  deriving DecidableEq, Repr

/-- Whether a character stands between words. -/
def isGap (c : Char) : Bool := c = ' ' || c = '\n'

/-- The value of a hexadecimal digit, letters in lower case. -/
def hexValue (c : Char) : Nat := if c.isDigit then c.toNat - 48 else c.toNat - 87

def readHex (t : Text) : Nat := t.foldl (fun n c => 16 * n + hexValue c) 0

/-- Some numbers in hexadecimal with points between them. -/
def readNumbers (t : Text) : List Nat := (Text.splitOn '.' t).map readHex

/-- The runs of a table, the first of which begins at `first`. What the words mean is up to `value`:
a letter and the numbers behind the length. -/
def readSpans {α : Type} (value : Char → List Nat → α) (first : Nat) (words : List Text) :
    List (Span α) :=
  match words with
  | [] => []
  | [] :: rest => readSpans value first rest
  | (letter :: numbers) :: rest =>
    match readNumbers numbers with
    | [] => readSpans value first rest
    | length :: more => ⟨first, length, value letter more⟩ :: readSpans value (first + length) rest

/-- A **table** of runs, in the order of their code points. -/
abbrev Spans (α : Type) := Array (Span α)

namespace Spans

/-- The runs that a text spells, from the first character beyond ASCII on. -/
def read {α : Type} (value : Char → List Nat → α) (table : String) : Spans α :=
  (readSpans value 0x80 (Text.splitWhere isGap table.toList)).toArray

/-- The last run of `low` and those between it and `high` that begins at a code point or before. -/
def search {α : Type} (spans : Spans α) (n low high : Nat) : Option (Span α) :=
  if low + 1 < high then
    let middle := (low + high) / 2
    if spans[middle]?.any (·.first ≤ n) then search spans n middle high else search spans n low middle
  else spans[low]?
termination_by high - low

/-- The run that a character belongs to. -/
def find? {α : Type} (spans : Spans α) (c : Char) : Option (Span α) :=
  (search spans c.toNat 0 spans.size).filter fun s =>
    s.first ≤ c.toNat && c.toNat < s.first + s.length

/-- The value of the run that a character belongs to. -/
def get? {α : Type} (spans : Spans α) (c : Char) : Option α := (spans.find? c).map Span.value

end Spans

end MediaProxy.Domain
