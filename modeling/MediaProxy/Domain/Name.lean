import MediaProxy.Domain.Class
import MediaProxy.Domain.Composition
import MediaProxy.Domain.Mapping
import MediaProxy.Domain.Punycode

/-!
# Domain names in any script

A domain name is a row of labels with full stops between them. It may be written in any script, and
its **ASCII form** is what names are looked up by: every character becomes what it spells, the name
is put in its normal form, and a label that is not ASCII is put in letters, digits and hyphens
behind the mark `xn--`.

A label that bears the mark already is read back, and it must be one that would be written so. No
label begins with a mark on a letter, a joiner stands only where scripts need it, and in a name with
characters that are written from right to left no label mixes directions.
-/

namespace MediaProxy.Domain

/-- The start of a label that stands for one in another script. -/
def codeMark : Text := "xn--".toList

/-- The longest label in another script. -/
def longestLabel : Nat := 1000

/-- The longest spelling of a label in another script, without its mark. -/
def longestCode : Nat := 2000

/-! ## Joiners -/

/-- The character that joins its neighbours. -/
def joiner : Char := Char.ofNat 0x200D

/-- The character that keeps its neighbours apart. -/
def nonJoiner : Char := Char.ofNat 0x200C

/-- Whether a text begins with a character that joins in one of some ways, transparent ones left
out. -/
def joinsAtStart (ways : List Joining) (t : Text) : Bool :=
  (t.dropWhile (joining · = .transparent)).head?.any fun c => joining c ∈ ways

/-- Whether the joiners of a text stand where they may, given what precedes, the last character
first: behind a sign that takes the vowel away, or, if it keeps apart, between two that would
join. -/
def joinersFit (before : Text) : Text → Bool
  | [] => true
  | c :: rest =>
    let fits :=
      if c = joiner ∨ c = nonJoiner then
        before.head?.any (rank · = viramaRank) ||
          (c = nonJoiner && joinsAtStart [.left, .both] before && joinsAtStart [.right, .both] rest)
      else true
    fits && joinersFit (c :: before) rest

/-! ## Labels -/

/-- A **label**. -/
structure Label where
  /-- The characters that it stands for. -/
  meaning : Text
  /-- Its ASCII form. -/
  spelling : Text
  deriving DecidableEq, Repr

/-- Whether characters beyond ASCII can make a label. -/
def isLabel (t : Text) : Bool := !t.head?.any isMark && joinersFit [] t

/-- A label that is not ASCII. -/
def foreignLabel? (t : Text) : Option Label :=
  if isLabel t ∧ t.length ≤ longestLabel then some ⟨t, codeMark ++ Punycode.encode t⟩ else none

/-- A label, given what stands behind its mark. -/
def codedLabel? (code : Text) : Option Label :=
  if code.all isAscii ∧ code.length ≤ longestCode ∧ code ≠ [] ∧ code.getLast? ≠ some '-' then
    match Punycode.decode? code with
    | none => none
    | some t =>
      if t.all isPlain ∧ normal t = t ∧ isLabel t then some ⟨t, codeMark ++ code⟩ else none
  else none

/-- The label that some characters of a normal form make. -/
def Label.read? (t : Text) : Option Label :=
  match Text.after? codeMark t with
  | some code => codedLabel? code
  | none => if t.all isAscii then some ⟨t, t⟩ else foreignLabel? t

/-! ## Directions -/

/-- Whether a text has characters that are written from right to left. -/
def runsLeft (t : Text) : Bool := t.any fun c => direction c ∈ [.rightToLeft, .arabicDigit]

/-- Whether the characters of a label keep to its direction, which the first one gives. Behind the
last one there may be marks. -/
def keepsDirection (t : Text) : Bool :=
  let all := t.map direction
  let core := (all.reverse.dropWhile (· = .mark)).reverse
  match all.head? with
  | none => true
  | some .leftToRight =>
    core.getLast?.any (· ∈ [.leftToRight, .europeanDigit])
      && core.all (· ∈ [.leftToRight, .europeanDigit, .neutral, .mark])
  | some .rightToLeft =>
    core.getLast?.any (· ∈ [.rightToLeft, .europeanDigit, .arabicDigit])
      && core.all (· ≠ .leftToRight)
      && !(.europeanDigit ∈ core && .arabicDigit ∈ core)
  | some _ => false

/-! ## Names -/

/-- The **ASCII form** of a name, if the name can have one and none of its characters is denied. -/
def toAscii? (denied : Char → Bool) (name : Text) : Option Text := do
  let spelled := normal (← mapped? name)
  let labels ← (Text.splitOn '.' spelled).mapM Label.read?
  if spelled.any denied then none
  else if labels.any (runsLeft ·.meaning) ∧ !labels.all (keepsDirection ·.meaning) then none
  else some (Text.join ['.'] (labels.map Label.spelling))

end MediaProxy.Domain
