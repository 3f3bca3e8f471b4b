import MediaProxy.Fault
import MediaProxy.Text.Blank
import MediaProxy.Text.Lines

/-!
# Header fields

Both protocols carry an ordered list of named values, one to a line. A name is looked up without
regard to the case of ASCII letters and the first field of that name answers; the order and the
spelling of names are kept as received.

Reading goes up to the first empty line, or to the end when there is none. White space around
names and values belongs to the line and not to the field, and the first colon is the one that
separates: a value may hold colons, a name cannot.
-/

namespace MediaProxy

/-- **Header fields**, names with values in the order of their lines. -/
abbrev Fields := List (Text × Text)

namespace Fields

/-- The value of the first field of a name. -/
def get? (fields : Fields) (name : Text) : Option Text :=
  (fields.find? fun (key, _) => Text.sameLetters key name).map Prod.snd

/-- The fields on some lines up to the first empty one. -/
def ofLines : List Text → Except Defect Fields
  | [] => .ok []
  | [] :: _ => .ok []
  | line :: more =>
    match Text.cutAt ':' line with
    | none => .error .header
    | some (name, value) => do
      let rest ← ofLines more
      return (Text.trim name, Text.trim value) :: rest

def line (field : Text × Text) : Text := field.1 ++ ": ".toList ++ field.2

/-- The lines of some fields, each with its ending. -/
def render (fields : Fields) : Text := fields.flatMap fun field => line field ++ Text.crlf

end Fields

end MediaProxy
