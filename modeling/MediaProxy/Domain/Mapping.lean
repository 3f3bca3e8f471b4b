import MediaProxy.Domain.MappingTable

/-!
# Equal spellings of domain names

Many characters are spellings of others: capital letters, letters of another width, ligatures,
superscripts. In a domain name each of them becomes what it spells, some disappear, and some are not
admitted at all. A character that is kept as it is is *plain*.
-/

namespace MediaProxy.Domain

/-- What becomes of a character that stands at an offset in a run. -/
def Fate.apply (c : Char) (offset : Nat) : Fate → Option Text
  | .kept => some [c]
  | .refused => none
  | .replaced text => some text
  | .shifted target => some [Char.ofNat (target + offset)]
  | .paired => some [if offset % 2 = 0 then Char.ofNat (c.toNat + 1) else c]

def isAscii (c : Char) : Bool := c.toNat < 0x80

/-- What becomes of a character, if it is admitted. -/
def spelled? (c : Char) : Option Text :=
  if isAscii c then some [c.toLower]
  else (fates.find? c).bind fun run => run.value.apply c (c.toNat - run.first)

/-- What becomes of a **name**, if all its characters are admitted. -/
def mapped? (name : Text) : Option Text := (name.mapM spelled?).map List.flatten

/-- Whether a character is kept as it is. -/
def isPlain (c : Char) : Bool := spelled? c = some [c]

end MediaProxy.Domain
