import MediaProxy.Url.Host

/-!
# Reading URLs

An absolute URL is read part by part: the scheme, then what stands behind two slashes up to the
path, then the path, the query and the fragment. Controls and blanks at the ends are dropped
before, and tabs and line breaks everywhere.

A path is normalised while it is read: a segment of one dot disappears and a segment of two takes
its predecessor with it, at the end of the path leaving the slash behind. Either dot may be
written as an escape. A path never climbs above its root, and never out of a segment that begins
as the name of a drive does.

For the schemes of the web a backslash counts as a slash, a host is required, a path is never
empty and the scheme's own port is not repeated. In a `file` URL a host may be missing, and a
drive letter is no host; a path that starts with a drive takes the host away.
-/

namespace MediaProxy.Url

/-! ## Preparation -/

/-- Controls and the blank: what is dropped at the ends of a URL. -/
def isEdgeFiller (c : Char) : Bool := c.toNat ≤ 0x20

/-- Tabs and line breaks: what is dropped anywhere in a URL. -/
def isFiller (c : Char) : Bool := c = '\t' || c = '\n' || c = '\r'

/-- A text without tabs and line breaks. -/
def withoutFiller (t : Text) : Text := t.filter fun c => !isFiller c

/-- The text of a URL without the controls and blanks at its ends. -/
def trimEdges (t : Text) : Text :=
  ((t.dropWhile isEdgeFiller).reverse.dropWhile isEdgeFiller).reverse

def prepare (t : Text) : Text := withoutFiller (trimEdges t)

/-! ## Schemes -/

/-- The ports that the schemes of the web imply. -/
def impliedPort? (scheme : Text) : Option UInt16 :=
  if scheme = "http".toList ∨ scheme = "ws".toList then some 80
  else if scheme = "https".toList ∨ scheme = "wss".toList then some 443
  else if scheme = "ftp".toList then some 21
  else none

def isFileScheme (scheme : Text) : Bool := scheme = "file".toList

/-- Whether a scheme is one of the web's. -/
def isSpecial (scheme : Text) : Bool := (impliedPort? scheme).isSome || isFileScheme scheme

def isSchemeChar (c : Char) : Bool := c.isAlphanum || c = '+' || c = '-' || c = '.'

/-- The scheme of a URL, in lower case, and what follows its colon. -/
def cutScheme? (t : Text) : Option (Text × Text) :=
  match t with
  | [] => none
  | first :: _ =>
    if first.isAlpha then
      match t.dropWhile isSchemeChar with
      | ':' :: rest => some ((t.takeWhile isSchemeChar).map Char.toLower, rest)
      | _ => none
    else none

/-! ## Paths -/

/-- Whether a character separates segments. -/
def isSlash (special : Bool) (c : Char) : Bool := c = '/' || (special && c = '\\')

/-- The spellings of a segment of one dot. -/
def isOneDot (segment : Text) : Bool :=
  let lower := segment.map Char.toLower
  lower = ".".toList ∨ lower = "%2e".toList

/-- The spellings of a segment of two dots. -/
def isTwoDots (segment : Text) : Bool :=
  let lower := segment.map Char.toLower
  lower = "..".toList ∨ lower = ".%2e".toList ∨ lower = "%2e.".toList ∨ lower = "%2e%2e".toList

def isDriveLetter : Text → Bool
  | [letter, mark] => letter.isAlpha && (mark = ':' || mark = '|')
  | _ => false

/-- Whether a segment begins with a drive letter, at its end or before a backslash. -/
def isDrive (segment : Text) : Bool :=
  isDriveLetter (segment.take 2) && ((segment.drop 2).head?.getD '\\' = '\\')

/-- The segments that two dots leave: all but the last, and that too if it is a drive. -/
def climb (before : List Text) : List Text :=
  if before.getLast?.any isDrive then before else before.dropLast

/-- The segments after one that something follows. -/
def enterSegment (before : List Text) (segment : Text) : List Text :=
  if isTwoDots segment then climb before
  else if isOneDot segment then before
  else before ++ [segment]

/-- The segments after the last one. -/
def closeSegments (before : List Text) (segment : Text) : List Text :=
  if isTwoDots segment then climb before ++ [[]]
  else if isOneDot segment then before ++ [[]]
  else before ++ [segment]

/-- The segments of a path, given the pieces between its slashes. -/
def normalise (before : List Text) : List Text → List Text
  | [] => before
  | [last] => closeSegments before last
  | segment :: more => normalise (enterSegment before segment) more

/-- The segments of a path behind its first slash. -/
def readSegments (special : Bool) (t : Text) : List Text :=
  normalise [] ((Text.splitWhere (isSlash special) t).map (escape pathSet))

/-- The path behind an authority. -/
def readPath (special : Bool) (t : Text) : List Text :=
  match t with
  | [] => if special then [[]] else []
  | c :: rest => if isSlash special c then readSegments special rest else readSegments special t

/-! ## Query and fragment -/

def endsPath (c : Char) : Bool := c = '?' || c = '#'

/-- The query and the fragment, from the character that ends the path. -/
def readTail (special : Bool) (t : Text) : Option Text × Option Text :=
  let querySet := if special then specialQuerySet else querySet
  match t with
  | '?' :: rest =>
    match Text.cutAt '#' rest with
    | some (query, fragment) => (some (escape querySet query), some (escape fragmentSet fragment))
    | none => (some (escape querySet rest), none)
  | '#' :: rest => (none, some (escape fragmentSet rest))
  | _ => (none, none)

/-- A URL, given its scheme and authority and the rest of its text. -/
def assemble (scheme : Text) (authority : Option Authority) (readPath : Text → UrlPath) (rest : Text) : Url :=
  let (query, fragment) := readTail (isSpecial scheme) (rest.dropWhile (! endsPath ·))
  ⟨scheme, authority, readPath (rest.takeWhile (! endsPath ·)), query, fragment⟩

/-! ## Authorities -/

def endsAuthority (special : Bool) (c : Char) : Bool := isSlash special c || endsPath c

/-- The user name and the password in front of a host. An empty password is no password. -/
def readUserinfo (t : Text) : Text × Option Text :=
  match Text.cutAt ':' t with
  | none => (escape userinfoSet t, none)
  | some (username, []) => (escape userinfoSet username, none)
  | some (username, password) => (escape userinfoSet username, some (escape userinfoSet password))

/-- The host in front of a port, and what follows it: a colon inside brackets ends no host. -/
def cutHost (inBrackets : Bool) : Text → Text × Text
  | [] => ([], [])
  | c :: rest =>
    if c = ':' ∧ !inBrackets then ([], c :: rest)
    else
      let (host, after) := cutHost (if c = '[' then true else if c = ']' then false else inBrackets) rest
      (c :: host, after)

/-- A port, and what follows it. A backslash ends a port whatever the scheme. -/
def readPort (scheme : Text) (t : Text) : Except UrlDefect (Option UInt16 × Text) :=
  let digits := t.takeWhile Char.isDigit
  let rest := t.dropWhile Char.isDigit
  if UInt16.size ≤ Nat.ofDigitChars 10 digits 0 then .error .port
  else if rest.head?.any (· ≠ '\\') then .error .port
  else
    let port := UInt16.ofNat (Nat.ofDigitChars 10 digits 0)
    .ok (if digits = [] ∨ impliedPort? scheme = some port then none else some port, rest)

/-- The host and port of an authority, and what of it is left to the path. -/
def readHostPort (scheme : Text) (t : Text) : Except UrlDefect (Text × Option UInt16 × Text) := do
  let special := isSpecial scheme
  let (hostText, after) := cutHost false t
  if special ∧ hostText = [] then throw .emptyHost
  let host ← if special then readSpecialHost hostText else readPlainHost hostText
  match after with
  | [] => return (host, none, [])
  | _ :: portText =>
    if host = [] then throw .emptyHost
    let (port, left) ← readPort scheme portText
    return (host, port, left)

/-- A URL behind its two slashes. -/
def readAuthority (scheme : Text) (t : Text) : Except UrlDefect Url := do
  let special := isSpecial scheme
  let text := t.takeWhile (! endsAuthority special ·)
  let rest := t.dropWhile (! endsAuthority special ·)
  let (userinfo, hostPort) := (Text.cutAtLast '@' text).getD ([], text)
  if text.head? = some '@' ∧ userinfo = [] ∧ hostPort = [] ∧ rest ≠ [] then throw .emptyHost
  let (username, password) := readUserinfo userinfo
  let (host, port, left) ← readHostPort scheme hostPort
  let authority : Authority := ⟨username, password, host, port⟩
  if host = [] ∧ authority.userinfo ≠ [] then throw .emptyHost
  return assemble scheme (some authority) (fun path => .segments (readPath special path)) (left ++ rest)

/-! ## Local files

The text of a local file's URL is read with its tabs and line breaks, because one of them shows:
it ends a drive letter that stands first in a path.
-/

/-- The path of a local file, as far as it is read. -/
structure FilePath where
  segments : List Text
  /-- Whether a drive letter stands first, so that no host can stand before it. -/
  onDrive : Bool
  deriving DecidableEq, Repr

/-- A drive letter and the rest of its piece, if a tab or line break stands between them. -/
def cutDrive? (piece : Text) : Option (Text × Text) := do
  let (front, back) ← Text.cutAt ':' piece
  let drive := withoutFiller front ++ [':']
  let rest := withoutFiller back
  if isDriveLetter drive ∧ back.head?.any isFiller ∧ rest ≠ [] then some (drive, rest) else none

/-- The path after one more piece, given what an ordinary segment does to the segments. A drive
letter that stands first is written with a colon. -/
def FilePath.add (step : List Text → Text → List Text) (p : FilePath) (piece : Text) : FilePath :=
  let segment := escape pathSet (withoutFiller piece)
  if p.segments ≠ [] then { p with segments := step p.segments segment }
  else
    match cutDrive? piece with
    | some (drive, rest) => { p with segments := [drive, escape pathSet rest] }
    | none =>
      if isDriveLetter segment then ⟨[segment.take 1 ++ [':']], true⟩
      else { p with segments := step [] segment }

/-- The path after all its pieces. -/
def FilePath.addAll (p : FilePath) : List Text → FilePath
  | [] => p
  | [last] => p.add closeSegments last
  | piece :: more => (p.add enterSegment piece).addAll more

/-- Segments with the empty ones at the start dropped: the slashes there count once. -/
def withoutLeadingSlashes (segments : List Text) : List Text :=
  let front := segments.take (segments.length - 1)
  front.dropWhile (· = []) ++ segments.drop (segments.length - 1)

/-- The path of a local file behind its first slash. -/
def FilePath.read (t : Text) : FilePath :=
  let path := (FilePath.mk [] false).addAll (Text.splitWhere (isSlash true) t)
  { path with segments := withoutLeadingSlashes path.segments }

/-- A text behind its first character and the tabs and line breaks before it, if that character
is a slash of either kind. -/
def afterSlash? (t : Text) : Option Text :=
  match t.dropWhile isFiller with
  | c :: rest => if isSlash true c then some rest else none
  | [] => none

/-- The URL of a local file, given its host and the text behind the first slash of its path. -/
def fileUrl (host : Text) (t : Text) : Url :=
  let path := FilePath.read (t.takeWhile (! endsPath ·))
  let (query, fragment) := readTail true (withoutFiller (t.dropWhile (! endsPath ·)))
  ⟨"file".toList, some ⟨[], none, if path.onDrive then [] else host, none⟩, .segments path.segments,
    query, fragment⟩

/-- The URL of a local file behind its two slashes: a host and a path, or a path alone. -/
def readFileHost (t : Text) : Except UrlDefect Url := do
  let hostText := withoutFiller (t.takeWhile (! endsAuthority true ·))
  let rest := t.dropWhile (! endsAuthority true ·)
  if isDriveLetter hostText then return fileUrl [] t
  if hostText = [] then return fileUrl [] rest
  let host ← readSpecialHost hostText
  if host = "localhost".toList then return fileUrl [] rest
  return fileUrl host ((afterSlash? rest).getD rest)

/-- The URL of a local file, given what follows the colon of its scheme. -/
def readFile (t : Text) : Except UrlDefect Url :=
  match afterSlash? t with
  | none => .ok (fileUrl [] t)
  | some one =>
    match afterSlash? one with
    | none => .ok (fileUrl [] one)
    | some two => readFileHost two

/-! ## URLs -/

/-- The **URL** that a text spells, if it spells one without leaning on another. -/
def parse (t : Text) : Except UrlDefect Url :=
  match cutScheme? (prepare t) with
  | none => .error .noScheme
  | some (scheme, rest) =>
    if isFileScheme scheme then
      readFile (((Text.cutAt ':' (trimEdges t)).map Prod.snd).getD rest)
    else if isSpecial scheme then readAuthority scheme (rest.dropWhile (isSlash true))
    else
      match rest with
      | '/' :: '/' :: rest => readAuthority scheme rest
      | '/' :: rest => .ok (assemble scheme none (fun path => .segments (readSegments false path)) rest)
      | rest => .ok (assemble scheme none (fun path => .plain (escape controls path)) rest)

end MediaProxy.Url
