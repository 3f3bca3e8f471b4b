import MediaProxy.Text.Basic

/-!
# White space

The headers of both protocols are trimmed and their start lines are split by the Unicode
property `White_Space`: twenty-five code points in ten ranges. The property is data of a
standard and sits here as a table; `isBlank_of_isWhitespace` says that the table takes nothing
away from the core library's notion, which knows four of the twenty-five.
-/

namespace MediaProxy.Text

/-- The **`White_Space`** code points, as closed ranges in ascending order. -/
def blankRanges : List (Nat × Nat) :=
  [(0x09, 0x0D), (0x20, 0x20), (0x85, 0x85), (0xA0, 0xA0), (0x1680, 0x1680), (0x2000, 0x200A),
   (0x2028, 0x2029), (0x202F, 0x202F), (0x205F, 0x205F), (0x3000, 0x3000)]

def isBlank (c : Char) : Bool := blankRanges.any fun (low, high) => low ≤ c.toNat && c.toNat ≤ high

/-- Every character that the core library counts as white space is in the table. -/
theorem isBlank_of_isWhitespace {c : Char} (h : c.isWhitespace = true) : isBlank c = true := by
  simp only [Char.isWhitespace, Bool.or_eq_true, decide_eq_true_eq] at h
  rcases h with ((h | h) | h) | h <;> subst h <;> decide

/-- A text without its leading white space. -/
def trimStart (t : Text) : Text := t.dropWhile isBlank

/-- A text without its trailing white space. -/
def trimEnd (t : Text) : Text := (t.reverse.dropWhile isBlank).reverse

/-- A text without white space at either end. -/
def trim (t : Text) : Text := trimEnd (trimStart t)

/-- Whether a text holds nothing but white space. -/
def isBlankText (t : Text) : Bool := t.all isBlank

/-- The non-empty runs of characters that are not white space. -/
def words (t : Text) : List Text := (splitWhere isBlank t).filter (· ≠ [])

end MediaProxy.Text
