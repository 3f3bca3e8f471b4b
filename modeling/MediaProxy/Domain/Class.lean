import MediaProxy.Domain.Span

/-!
# Classes of characters in domain names

What the rules on labels ask of a character: in which direction it is written, how it joins its
neighbours in a cursive script, whether it is a mark on the character before it.

The tables know the characters that a domain name can hold; what they say of any other is of no
account.
-/

namespace MediaProxy.Domain

/-! ## Direction -/

/-- The **direction** of a character, as far as the rule on directions tells apart. -/
inductive Direction where
  | leftToRight
  | rightToLeft
  /-- A digit of a number that runs from left to right. -/
  | europeanDigit
  /-- A digit of a number in a script that runs from right to left. -/
  | arabicDigit
  /-- A sign without a direction of its own. -/
  | neutral
  /-- A mark on the character before it. -/
  | mark
  deriving DecidableEq, Repr

/-- What a word of the table of directions says. -/
def Direction.read : Char → List Nat → Direction
  | 'R', _ => .rightToLeft
  | 'E', _ => .europeanDigit
  | 'A', _ => .arabicDigit
  | 'N', _ => .neutral
  | 'M', _ => .mark
  | _, _ => .leftToRight

/-- The directions of the characters beyond ASCII. What is not in the table is written from left to
right. -/
def directions : Spans Direction := .read Direction.read
  "L21 N3e L18 N1 L1c1 N2 L7 Ne L2 N1c L1 N11 M71 L4 N2 L7f N2 L8b M8 Lff N7 M2d R1 M1 R1 M2 R1
  M2 R1 M9 R36 N2 R1 N2 R1 N1 R1 N2 Mb R30 M15 Aa N1 A2 R3 M1 R65 M8 N1 M6 R2 M2 N1 M4 R2 Ea R17
  M1 R1e M1d R59 Mb R3a M9 R2 N4 R3 M1 R18 M4 R1 M9 R1 M3 R1 M7 R29 M5 R39 M9 R2a M39 L37 M1 L1
  M1 L4 M8 L4 M1 L3 Mf L2 M2 L1d M1 L3a M1 L4 M6 L6 M1 L14 M4 Lc N2 L7 N1 L2 M5 L39 M2 L3 M1b
  L14 M2 L3 M1 Lb M2 L39 M1 L4 M8 L4 M3 L12 M4 Lb N8 L1 M8 L3a M1 L2 M1 L1 M6 L6 Ma Lb M4 L1c M1
  L3d M1 Lc M3 L23 Nd M1 L3 M1 L37 M1 L1 M3 L5 M12 La M4 L12 N7 L2 M1 L3a M1 Lf M9 Ld M4 L1a M2
  L39 M2 L4 M5 L7 M1 L14 M4 L1b M1 L48 M5 L3 M6 L59 M1 L2 Mb N1 L7 M8 L62 M1 L2 M9 Lb M8 L48 M2
  L1b M1 L1 M1 L1 M1 N4 L33 Me L1 M5 L1 M2 L5 M31 L8 M1 L66 M4 L1 M6 L1 M2 L2 M2 L19 M2 L4 M3
  L10 M4 Ld M1 L2 M2 L6 M1 Lf M1 L2bf M3 L30 N10 L60 N1 L29a N5 L72 M3 L1d M2 L1e Me L12 Me L37
  M7 L8 M1 L2 Mb L7 N1 L1 M3 L10 N20 L75 M2 L22 M1 L76 M3 L4 M2 L9 M1 L6 M7 N6 L98 N22 L17 M2 L2
  M3 L38 M1 L1 M9 L1 M1 L2 M8 L6 Md L30 M54 L30 M1 L1 M5 L1 M1 L5 M1 L28 M9 Lc M2 L20 M4 L2 M2
  L1 M3 L38 M1 L1 M2 L3 M1 L1 M3 L3a M8 L2 M5 L95 M3 L1 Md L1 M7 L4 M1 L6 M1 L3 M2 Lc6 M41 L20b
  Nc4 M34 N4a L3c N1ac L45 N1a L1 N316 L1 N153 L100 N330 Lb5 N7 L3 M4 L6 N7 L7f M1 L60 M20 N205
  L3 N19 L9 M4 L2 N1 L6 N4 L2 N4 L58 M4 L3 N1 L5a N1 Lc4 N30 L1bd0 N40 L5690 N40 L13d N3 L5f M4
  N1 Ma N3 L1d M2 L50 M2 Le N23 L65 N1 L79 M1 L3 M1 L4 M1 L19 M2 L1 N4 M4 L8 N8 L34 Nc L44 Ma
  L12 M12 Ld M1 L26 M8 L19 Mb L2e M3 L30 M1 L2 M4 L2 M2 L27 M1 L43 M6 L2 M2 L2 Mb L3 M1 L8 M1
  L2f M1 L33 M1 L1 M3 L2 M2 L5 M2 L1 M1 L2a M2 L8 Mb L69 N56 L25 M1 L2 M1 L4 M3 L4f2e M94 R11
  N25d M25 N2e R18d L101 N1 L3e N4d L3 N40 L2d M83 L60 M1 E1f L76 Ma L480 R11f N1 Re1 Mf R28 M8
  Ra5 M6 R4e N7 R1e4 Mc A1a R1f M5 N1 Rf1 A20 R2b M2 R23 N2a M6 R46 Mb R31 M4 R7a L1 M1 L36 Mf
  Lb N14 La M1 L2 M2 La M3 L31 M4 L2 M2 L7 Me L30 M3 L24 M5 L1 M9 L3d M1 Lc M2 L34 M9 La M4 L2
  M1 L5f M3 L2 M1 L1 M2 L6 M1 L2 M3f L5f M1 L3 Md L10 M2 L39 M2 L3 M1 L25 M1a L3b M7 Lc M1 L1 M1
  L1 M1 Le M1f L38 M8 L2 M3 L1 M1 L17 M1 L54 M6 L1 M1 L4 M2 L1 M2 Lee M6 L4 M2 L1 M2 L1b M24 L33
  M8 L2 M1 L1 M2 L1f N20 L2b M1 L1 M1 L2 M6 L1 M1 L65 M1 L1 M1 L2 M4 L1 M9 Lff M9 L1 M2 L100 M2
  L1 M1 L4 M1 L90 M8 L4 M1 L20 M6 L2 M2 L28 M6 L2 M4 L8 M9 L1 M6 L2 M3 L2e Md L1 M2 Lc6 M1 L1 M3
  L1 M1 Lc9 Me L54 M17 L1 M7 L1 M2 L1 M4b L31 M15 L1 M9 L40 M3 L2 M1 L1 M1 L15b M2 Lb M2 L34 M8
  L2 M1 L1 M1 L17 M56 L25 N2a L1441 M1 L6 M19 L2cbe Mc L3 M3 L9c0 M5 L3b M7 L418 M1 L3f M4 L4f
  N1 L1 Mc L4cad M2 Lf61 N300 M50 L217 M3 L11 M8 L2 M7 L1e M4 L3b N59 M3 N7b L40 N60 L6a0 M37 L4
  M32 L8 M1 Le M1 L16 M465 L100 M100 L30 M7 L177 M12 L2c M4 Lf N1d1 L1c M4 Lfe M2 Lf3 M1 L2 M1
  L7 M2 L5 M9 L102 Rd0 M52 R22 M7 R5a5 N260 L1d N3 L3d N39 L7a Nda0"

def direction (c : Char) : Direction :=
  if c.isAlpha then .leftToRight
  else if c.isDigit then .europeanDigit
  else if c.toNat < 0x80 then .neutral
  else (directions.get? c).getD .leftToRight

/-! ## Joining -/

/-- How a character **joins** its neighbours. -/
inductive Joining where
  /-- To neither side. -/
  | none
  /-- To the character that follows. -/
  | left
  /-- To the character before. -/
  | right
  | both
  /-- Not itself; the neighbours join across it. -/
  | transparent
  deriving DecidableEq, Repr

/-- What a word of the table of joining says. -/
def Joining.read : Char → List Nat → Joining
  | 'L', _ => .left
  | 'R', _ => .right
  | 'D', _ => .both
  | 'T', _ => .transparent
  | _, _ => .none

/-- How the characters beyond ASCII join. What is not in the table does not join. -/
def joinings : Spans Joining := .read Joining.read
  "U280 T71 U112 T8 U106 T2d U1 T1 U1 T2 U1 T2 U1 T9 U40 Tb U5 D1 U1 R4 D1 R1 D1 R1 D5 R4 Dd U1
  D7 R1 D2 T15 Ue D2 T1 R3 U5 Df R12 D26 R1 D2 R9 D1 R1 D1 R1 D2 R2 U1 R1 T8 U1 T6 U2 T2 U1 T4
  R2 Ua D3 U2 D1 U10 R1 T1 D3 R5 D4 R1 D9 R1 D1 R1 D1 R1 D2 R1 T1d R1 Db R3 Df R2 D4 R1 D1 R2 D3
  R2 D6 U26 Tb U19 D21 T9 U9 T1 U18 T4 U1 T9 U1 T3 U1 T7 U10 R1 D5 R2 D1 R1 Da R1 D1 R3 T5 U2 D1
  U1 D4 U1 R1 D1 R1a U3 D1 U2 D5 R1 D8 T9 Da R3 U1 R1 D2 R2 D6 R1 Df U1 T39 U37 T1 U1 T1 U4 T8
  U4 T1 U3 Tf U2 T2 U1d T1 U3a T1 U4 T6 U6 T1 U14 T4 U18 T5 U39 T2 U3 T1b U14 T2 U3 T1 Ub T2 U39
  T1 U4 T8 U4 T3 U12 T4 U14 T8 U3a T1 U2 T1 U1 T6 U6 Ta Ub T4 U1c T1 U3d T1 Uc T3 U30 T1 U3 T1
  U37 T1 U1 T3 U5 T12 Ua T4 U1b T1 U3a T1 U2 T1 U6 T1 U5 T9 Ud T4 U1a T2 U39 T2 U4 T5 U7 T1 U14
  T4 U1b T1 U48 T5 U3 T6 U59 T1 U2 Tb U8 T8 U62 T1 U2 T9 Ub T8 U48 T2 U1b T1 U1 T1 U1 T1 U37 Te
  U1 T5 U1 T2 U5 T31 U8 T1 U66 T4 U1 T6 U1 T2 U2 T2 U19 T2 U4 T3 U10 T4 Ud T1 U2 T2 U6 T1 Uf T1
  U2bf T3 U3b2 T3 U1d T2 U1e Te U12 Te U37 T7 U8 T1 U2 Tb U9 T3 U27 D1 U18 D60 U5 T2 D22 T1 D6
  U70 T3 U4 T2 U9 T1 U6 T7 Ud7 T2 U2 T3 U38 T1 U1 T9 U1 T1 U2 T8 U6 Td U30 T54 U30 T1 U1 T5 U1
  T1 U5 T1 U28 T9 Uc T2 U20 T4 U2 T2 U1 T3 U38 T1 U1 T2 U3 T1 U1 T3 U3a T8 U2 T5 U95 T3 U1 Td U1
  T7 U4 T1 U6 T1 U3 T2 Uc6 T41 U2cf T34 Ubeb T4 U8c T1 U60 T20 U22a T4 U6b T4 U75d2 T4 U1 Ta U20
  T2 U50 T2 U110 T1 U3 T1 U4 T1 U19 T2 U5 T4 U10 D32 L1 U51 Ta U12 T12 Ud T1 U26 T8 U19 Tb U2e
  T3 U30 T1 U2 T4 U2 T2 U27 T1 U43 T6 U2 T2 U2 Tb U3 T1 U8 T1 U2f T1 U33 T1 U1 T3 U2 T2 U5 T2 U1
  T1 U2a T2 U8 Tb Ue4 T1 U2 T1 U4 T3 U4f2e T94 U26e T25 U3b8 T83 U60 T1 U95 Ta U681 Tf U28 T8
  U80 D5 R1 U1 R1 U1 R2 U2 L1 R5 D4 L1 D5 R1 D3 R1 U2 R1 T6 D4 R1 U90 D1 R1 D1 R3 D3 R1 D2 R1 D1
  R2 D1 R8 U10 R4 D2 U151 L1 D21 R1 D1 Tc U39 T5 U13d T2 U15 R1 D2 U1 Da U2a T6 U30 D3 R1 D11 U1
  Tb D3 R1 U1b D4 R2 Dc T4 U2a D1 U1 D2 R3 U1 D1 R2 D2 R1 D2 U1 D1 R2 D1 U4 R1 D1 L15 U21 T1 U36
  Tf U29 T1 U2 T2 Ua T3 U31 T4 U2 T2 U7 Te U30 T3 U24 T5 U1 T9 U3d T1 Uc T2 U34 T9 Ua T4 U2 T1
  U5f T3 U2 T1 U1 T2 U6 T1 U2 T3f U5f T1 U3 Td U10 T2 U39 T2 U3 T1 U25 T1a U3b T7 Uc T1 U1 T1 U1
  T1 Ue T1f U38 T8 U2 T3 U1 T1 U17 T1 U54 T6 U1 T1 U4 T2 U1 T2 Uee T6 U4 T2 U1 T2 U1b T24 U33 T8
  U2 T1 U1 T2 U6a T1 U1 T1 U2 T6 U1 T1 U65 T1 U1 T1 U2 T4 U1 T9 Uff T9 U1 T2 U100 T2 U1 T1 U4 T1
  U90 T8 U4 T1 U20 Ta U28 T6 U2 T4 U8 T9 U1 T6 U2 T3 U2e Td U1 T2 Uc6 T1 U1 T3 U1 T1 Uc9 Te U1
  T1 U52 T17 U1 T7 U1 T2 U1 T4b U31 T15 U1 T9 U40 T3 U2 T1 U1 T1 U15b T2 Ub T2 U34 T8 U2 T1 U1
  T1 U17 T56 U1490 T1 U6 T19 U2cbe Tc U3 T3 U9c0 T5 U3b T7 U418 T1 U3f T4 U51 Tc U4cad T2 U1261
  T50 U217 T3 U11 T8 U2 T7 U1e T4 U94 T3 U7bb T37 U4 T32 U8 T1 Ue T1 U16 T465 U100 T100 U30 T7
  U177 T12 U2c T4 U1fc T4 Ufe T2 Uf3 T1 U2 T1 U7 T2 U5 T9 U1d2 T52 D22 Tc"

def joining (c : Char) : Joining := (joinings.get? c).getD .none

/-! ## Marks -/

/-- The marks beyond ASCII, in runs of marks (`M`) and of other characters (`O`). -/
def marks : Spans Bool := .read (fun letter _ => letter = 'M')
  "O280 M71 O112 M8 O106 M2d O1 M1 O1 M2 O1 M2 O1 M9 O40 Mb O30 M15 O10 M1 O65 M8 O1 M6 O2 M2 O1
  M4 O23 M1 O1e M1d O59 Mb O3a M9 O9 M1 O18 M4 O1 M9 O1 M3 O1 M7 O29 M5 O39 M9 O2a M3a O36 M3 O1
  M12 O1 Mf O2 M2 O1d M4 O37 M1 O1 M10 O9 M9 O2 M4 O18 M7 O37 M20 O14 M2 O3 M1 Ob M4 O37 M1 O1
  M12 O12 M4 O14 Mb O37 M1 O1 M21 O3 M4 O1c M1 O3b M12 O7 Mf O1a M5 O37 M1 O1 M1a Oa M4 O1b M3
  O38 M1 O1 M1e O6 M4 Od M11 O37 M2 O1 M10 O9 M1 Oa M4 O1b M4 O45 M1c Oc M2 O3d M1 O2 Mb O8 M8
  O62 M1 O2 M9 Ob M8 O48 M2 O1b M1 O1 M1 O1 M1 O4 M2 O31 M14 O1 M2 O5 M31 O8 M1 O64 M14 O17 M4
  O4 M3 O1 M3 O2 M7 O3 M4 Od Mc O1 M1 Oa M4 O2bf M3 O3b2 Md O13 M3 O1d Me O12 Me O36 M1e O9 M3
  Oa5 M2 O22 M1 O76 M20 Od7 M7 O37 M2b O30 M55 O2f M11 O26 M9 Oc M3 O1e Md O38 M16 O28 M17 O95
  M3 O1 M15 O4 M1 O6 M1 O2 M3 Oc6 M41 O2cf M34 Obeb M4 O8c M1 O60 M20 O22a M6 O69 M4 O75d2 M4 O1
  Ma O20 M2 O50 M2 O110 M1 O3 M1 O4 M1 O17 M5 O4 M4 O50 M2 O32 M1a O12 M12 Od M1 O26 M8 O19 M18
  O21 M4 O2f Me O24 M1 O43 M17 O3 M1 O8 M4 O2b M3 O32 M1 O1 M3 O2 M2 O5 M2 O1 M1 O29 M5 O5 Mc
  Oe2 M8 O1 M4 O4f2e M94 O26e M25 O3b8 M83 O60 M1 O95 Ma O681 Mf O28 M8 Oa5 M6 O239 Mc O39 M5
  O13d M2 O4d M6 O46 Mb O31 M4 O7a M3 O35 Mf O29 M1 O2 M2 Oa M4 O2d Mb O7 Me O30 M3 O24 Mf Of M2
  O2c M1 Oc M3 O30 Me O8 M4 O1 M2 O5c Mc O6 M1 O2 M3f O5f M11 O10 M5 O36 M2 O1 M12 O7 M6 O5 M1e
  O38 M19 O1 M1 Oe M1f O35 M12 O17 M1 O51 M14 Oeb M12 O1b M24 O30 M11 O6a Md O65 M13 Ofc Mf Of5
  Mf O1 M1 O1 M2 O8d M10 O3 M1c O1 Ma O28 M7 O1 M4 O8 M9 O1 Mb O2e M10 Oc6 M60 O6f M11 O52 M6e
  O31 M15 O1 M9 O3a Me O15b M4 O9 M2 O1 M1 O30 Mf O17 M56 O1490 M1 O6 M19 O2cbe M12 O9c0 M5 O3b
  M7 O418 M1 O1 M42 O51 Me O4cab M2 O1261 M50 O215 M5 O3 M16 O2 M7 O1e M4 O94 M3 O7bb M37 O4 M32
  O8 M1 Oe M1 O16 M465 O100 M100 O30 M7 O177 M12 O2c M4 O1fc M4 Ofe M2 Of3 M1 O2 M1 O7 M2 O5 M9
  O1d2 M52 O22 M7"

/-- Whether a character is a mark on the one before it. -/
def isMark (c : Char) : Bool := (marks.get? c).getD false

end MediaProxy.Domain
