import MediaProxy.Text.Blank

/-!
# Transcripts

The conversation with the media server can be written down, each session's in a file of its own.
Every request and the status line of every response is one entry: a mark that says who speaks, a
space, the text without the white space at its end, and a line feed.

A transcript is a convenience: when its file cannot be opened there is none, and the session goes
on. A file can be opened when its directory exists and its name is one that a file can have.
-/

namespace MediaProxy.Rtsp

/-- The mark of what the client says. -/
def saidMark : Text := ">>>".toList

/-- The mark of what the client hears. -/
def heardMark : Text := "<<<".toList

/-- The **transcripts** of all sessions: the directories that exist, and the entries in the order of
writing, each with the file that it is in. -/
structure Transcripts where
  directories : List Text
  entries : List (Text × Text)
  deriving DecidableEq, Repr

namespace Transcripts

/-- The most octets that the name of a file has. -/
def longestName : Nat := 255

/-- The directory and the name of a path. -/
def split (path : Text) : Text × Text := (Text.cutAtLast '/' path).getD ([], path)

def canOpen (t : Transcripts) (path : Text) : Bool :=
  let (directory, name) := split path
  decide ('\x00' ∉ path) && decide (directory ∈ t.directories) && decide (name ≠ [])
    && decide ((Text.toBytes name).length ≤ longestName)

/-- The path of a transcript, if there is to be one and it can be opened. -/
def open? (t : Transcripts) (path : Option Text) : Option Text := path.filter t.canOpen

/-- One entry as it stands in the file. -/
def entry (mark text : Text) : Text := mark ++ ' ' :: Text.trimEnd text ++ ['\n']

/-- Writes an entry down, if there is a transcript. -/
def record (path : Option Text) (mark text : Text) (t : Transcripts) : Transcripts :=
  match path with
  | some path => { t with entries := t.entries ++ [(path, entry mark text)] }
  | none => t

/-- The files that there are. -/
def paths (t : Transcripts) : List Text := (t.entries.map Prod.fst).eraseDups

/-- What stands in a file. -/
def content (t : Transcripts) (path : Text) : Text :=
  (t.entries.filter fun e => e.1 = path).flatMap Prod.snd

end Transcripts

end MediaProxy.Rtsp
