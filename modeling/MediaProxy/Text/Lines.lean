import MediaProxy.Text.Basic

/-!
# Lines

A line ends at a line feed; one carriage return before the line feed belongs to the ending and
not to the line. What follows the last line feed is a line of its own unless it is empty, and
keeps a carriage return at its end, since no line feed closes it.
-/

namespace MediaProxy.Text

/-- The **lines** of a text, without their endings. -/
def lines : Text → List Text
  | [] => []
  | '\r' :: '\n' :: rest => [] :: lines rest
  | '\n' :: rest => [] :: lines rest
  | c :: rest =>
    match lines rest with
    | [] => [[c]]
    | line :: more => (c :: line) :: more

/-- The line ending of everything this library writes. -/
def crlf : Text := ['\r', '\n']

end MediaProxy.Text
