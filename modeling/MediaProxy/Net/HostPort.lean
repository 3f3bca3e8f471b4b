import MediaProxy.Text.Numeral

/-!
# Hosts with ports

A host and a port are written with a colon between them. An IPv6 literal holds colons itself and
is put in brackets, unless it stands in brackets already. The same text is what identifies a
client: two spellings of a host that give one text are one client.
-/

namespace MediaProxy

/-- A host and a port as one text; a host with a colon in it gets brackets if it has none. -/
def joinHostPort (host : Text) (port : UInt16) : Text :=
  let written :=
    if ':' ∈ host ∧ host.head? ≠ some '[' then '[' :: host ++ [']'] else host
  written ++ ':' :: Text.ofNat port.toNat

/-- The **identity of a client**: where it receives media. -/
structure ClientKey where
  text : Text
  deriving DecidableEq, Repr

/-- The identity of the client that receives at a host and port. -/
def ClientKey.of (host : Text) (port : UInt16) : ClientKey := ⟨joinHostPort host port⟩

end MediaProxy
