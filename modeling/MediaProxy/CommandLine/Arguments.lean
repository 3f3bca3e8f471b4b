import MediaProxy.Proxy.Settings
import MediaProxy.Text.Numeral

/-!
# Arguments

The options of the program. An option with a value takes it behind an equals sign or as the next
argument; a next argument that begins with a hyphen is no value unless it is the hyphen alone. The
options with a short name may also have their value right behind it. Each option may be given once,
the URL must be given, and nothing but options is understood.

Arguments are looked at from left to right and the first that is wrong decides. A request for help
is answered as soon as it is met, whatever follows.
-/

namespace MediaProxy.CommandLine

/-- The **options** of the program. -/
inductive Switch where
  | listen
  | rtspUrl
  | relayHost
  | minPort
  | maxPort
  | logDir
  | loadStats
  | help
  deriving DecidableEq, Repr

namespace Switch

def all : List Switch := [.listen, .rtspUrl, .relayHost, .minPort, .maxPort, .logDir, .loadStats, .help]

/-- The long name of an option. -/
def name : Switch → Text
  | .listen => "listen".toList
  | .rtspUrl => "rtsp-url".toList
  | .relayHost => "relay-host".toList
  | .minPort => "min-port".toList
  | .maxPort => "max-port".toList
  | .logDir => "log-dir".toList
  | .loadStats => "load-stats".toList
  | .help => "help".toList

/-- The short name of an option. -/
def letter? : Switch → Option Char
  | .listen => some 'l'
  | .help => some 'h'
  | _ => none

def hasValue : Switch → Bool
  | .loadStats | .help => false
  | _ => true

def ofName? (name : Text) : Option Switch := all.find? fun s => s.name = name

/-- The option of a short name. -/
def ofLetter? (letter : Char) : Option Switch := all.find? fun s => s.letter? = some letter

end Switch

/-- What the **arguments** give. -/
structure Given where
  listen : Option Text := none
  rtspUrl : Option Text := none
  relayHost : Option Text := none
  lowest : Option UInt16 := none
  highest : Option UInt16 := none
  logDir : Option Text := none
  loadStats : Bool := false
  deriving DecidableEq, Repr

/-- Why the program does not run. -/
inductive Halt where
  /-- The arguments are wrong. -/
  | misuse
  /-- Help is asked for. -/
  | help
  deriving DecidableEq, Repr

/-- A port as an argument: an integer with or without a sign. -/
def readPort? : Text → Option UInt16
  | '-' :: digits => (Text.digitsBelow? 1 digits).map UInt16.ofNat
  | text => Text.readUInt16? text

/-- The value of an option that was not given before. -/
def once {α : Type} (before value : Option α) : Except Halt (Option α) :=
  match before, value with
  | none, some value => .ok (some value)
  | _, _ => .error .misuse

namespace Given

def takeValue (g : Given) (s : Switch) (value : Text) : Except Halt Given :=
  match s with
  | .listen => do return { g with listen := ← once g.listen (some value) }
  | .rtspUrl => do return { g with rtspUrl := ← once g.rtspUrl (some value) }
  | .relayHost => do return { g with relayHost := ← once g.relayHost (some value) }
  | .minPort => do return { g with lowest := ← once g.lowest (readPort? value) }
  | .maxPort => do return { g with highest := ← once g.highest (readPort? value) }
  | .logDir => do return { g with logDir := ← once g.logDir (if value = [] then none else some value) }
  | .loadStats | .help => .error .misuse

/-- Takes an option without a value. -/
def takeFlag (g : Given) (s : Switch) : Except Halt Given :=
  match s with
  | .help => .error .help
  | .loadStats => if g.loadStats then .error .misuse else .ok { g with loadStats := true }
  | _ => .error .misuse

end Given

/-- Whether an argument cannot be a value. -/
def isOption : Text → Bool
  | '-' :: _ :: _ => true
  | _ => false

/-- An **argument** as it is understood by itself. -/
inductive Argument where
  /-- An option, with the value that is attached to it. -/
  | switch (s : Switch) (attached : Option Text)
  /-- The mark behind which no options stand. -/
  | ending
  /-- Nothing that is understood. -/
  | unknown
  deriving DecidableEq, Repr

namespace Argument

def ofLong (body : Text) : Argument :=
  let (name, attached) :=
    match Text.cutAt '=' body with
    | some (name, value) => (name, some value)
    | none => (body, none)
  match Switch.ofName? name with
  | some s => .switch s attached
  | none => .unknown

def ofShort (letter : Char) (more : Text) : Argument :=
  match Switch.ofLetter? letter, more with
  | some s, [] => .switch s none
  | some s, '=' :: value => .switch s (if s.hasValue then some value else none)
  | some s, value => .switch s (if s.hasValue then some value else none)
  | none, _ => .unknown

def ofText : Text → Argument
  | ['-', '-'] => .ending
  | '-' :: '-' :: body => ofLong body
  | '-' :: letter :: more => ofShort letter more
  | _ => .unknown

end Argument

/-- Takes some arguments, from left to right. -/
def takeAll (g : Given) : List Text → Except Halt Given
  | [] => .ok g
  | argument :: rest =>
    match Argument.ofText argument with
    | .unknown => .error .misuse
    | .ending => if rest = [] then .ok g else .error .misuse
    | .switch s (some value) =>
      match g.takeValue s value with
      | .ok g => takeAll g rest
      | .error halt => .error halt
    | .switch s none =>
      if s.hasValue then
        match rest with
        | [] => .error .misuse
        | value :: rest =>
          if isOption value then .error .misuse
          else
            match g.takeValue s value with
            | .ok g => takeAll g rest
            | .error halt => .error halt
      else
        match g.takeFlag s with
        | .ok g => takeAll g rest
        | .error halt => .error halt

/-- What the program is **asked to do**. -/
structure Order where
  settings : Settings
  loadStats : Bool
  deriving DecidableEq, Repr

def readOrder (arguments : List Text) : Except Halt Order := do
  let g ← takeAll {} arguments
  match g.rtspUrl with
  | none => throw .misuse
  | some url =>
    let settings : Settings :=
      { listen := g.listen.getD "0.0.0.0:7770".toList
        url := url
        relayHost := g.relayHost.getD "127.0.0.1".toList
        lowest := g.lowest.getD lowestRelayPort
        highest := g.highest.getD highestRelayPort
        logDir := g.logDir }
    return ⟨settings, g.loadStats⟩

end MediaProxy.CommandLine
