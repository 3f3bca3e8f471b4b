import MediaProxy.Fault
import MediaProxy.Url.Parse

/-!
# Media below a URL

A client names media by a path of its own, and the media server is asked for that path below the
URL that the proxy stands in front of. The name is cut at its slashes; empty pieces and pieces of
one or two dots are dropped, and what is left is appended segment by segment. Each segment is
escaped as a whole, percent signs included, so that no character of a name can end the path,
start a query or leave the host.

Tabs and line breaks are dropped from a segment as from everything that becomes part of a URL, and
only then is it looked at for dots once more. A piece that becomes one or two dots by that is a
dot segment after all.
-/

namespace MediaProxy.Url

/-- The segments without the trailing empty one that a slash at the end leaves; the root keeps
its own. -/
def withoutTrailingSlash (segments : List Text) : List Text :=
  if 2 ≤ segments.length ∧ segments.getLast? = some [] then segments.dropLast else segments

/-- The segments that a new one goes behind: the root's own empty segment gives way. -/
def openSegments (segments : List Text) : List Text := if segments = [[]] then [] else segments

/-- One more segment at the end of a path. -/
def pushSegment (special : Bool) (segments : List Text) (segment : Text) : List Text :=
  let set := if special then specialSegmentSet else segmentSet
  closeSegments (openSegments segments) (escape set (withoutFiller segment))

def mediaSegments (name : Text) : List Text :=
  (Text.splitOn '/' name).filter fun s => s ≠ [] && s ≠ ['.'] && s ≠ ['.', '.']

/-- The URL of the media of a name below a base. -/
def media (base : Url) (name : Text) : Except Fault Url :=
  match mediaSegments name, base.path with
  | [], _ => .error (.badUrl name "media name has no path".toList)
  | _, .plain _ => .error (.badUrl name "backend URL cannot carry a path".toList)
  | names, .segments segments =>
    let path := names.foldl (pushSegment (isSpecial base.scheme)) (withoutTrailingSlash segments)
    .ok { base with path := .segments path, query := none, fragment := none }

end MediaProxy.Url
