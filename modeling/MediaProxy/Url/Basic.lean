import MediaProxy.Net.Address
import MediaProxy.Url.Escape

/-!
# URLs

A URL as its parts. The parts are kept in their written form, escapes included, so that writing a
URL is putting its parts together and never escapes anything again.

A URL may have an authority: who asks, which host, which port. An authority may be there and name
no host at all, as in `rtsp:///x`; to the proxy that is as good as none. A path is a list of
segments, each behind a slash, or plain text in a URL such as `data:,x` that has no hierarchy.
-/

namespace MediaProxy

/-- Who asks, which host, and which port. -/
structure Authority where
  username : Text
  password : Option Text
  /-- The host as it is written; empty when none is named. -/
  host : Text
  port : Option UInt16
  deriving DecidableEq, Repr

/-- The path of a URL. -/
inductive UrlPath where
  /-- Segments, each behind a slash. No segment is the empty path, one empty segment is `/`. -/
  | segments (list : List Text)
  /-- Text without a hierarchy. -/
  | plain (text : Text)
  deriving DecidableEq, Repr

/-- A **URL**. -/
structure Url where
  scheme : Text
  authority : Option Authority
  path : UrlPath
  query : Option Text
  fragment : Option Text
  deriving DecidableEq, Repr

namespace Authority

/-- The user name and password in front of a host, if there are any. -/
def userinfo (a : Authority) : Text :=
  let secret :=
    match a.password with
    | some password => ':' :: password
    | none => []
  if a.username = [] ∧ a.password = none then [] else a.username ++ secret ++ ['@']

def render (a : Authority) : Text :=
  let port :=
    match a.port with
    | some port => ':' :: Text.ofNat port.toNat
    | none => []
  a.userinfo ++ a.host ++ port

end Authority

namespace UrlPath

def render : UrlPath → Text
  | .segments list => list.flatMap fun segment => '/' :: segment
  | .plain text => text

end UrlPath

namespace Url

def host? (u : Url) : Option Text :=
  (u.authority.map Authority.host).filter (· ≠ [])

def port? (u : Url) : Option UInt16 := u.authority.bind Authority.port

/-- What stands between the scheme and the path. Without an authority, a path that begins with
two slashes would be taken for one and gets a dot in front. -/
def beforePath (u : Url) : Text :=
  match u.authority, u.path with
  | some a, _ => "//".toList ++ a.render
  | none, .segments ([] :: _ :: _) => "/.".toList
  | none, _ => []

/-- A mark and the text behind it, if there is text. -/
def marked (mark : Char) : Option Text → Text
  | some t => mark :: t
  | none => []

def render (u : Url) : Text :=
  u.scheme ++ ':' :: u.beforePath ++ u.path.render ++ marked '?' u.query ++ marked '#' u.fragment

end Url

end MediaProxy
