import MediaProxy.Proofs.Proxy.Operations

/-!
# A proxy moment by moment

To whoever asks for it a start is one operation, and so is the end of a session. But a media server
takes its time to answer, and a session may end at any time without anybody asking: the thread that
serves requests is at some statement of `Proxy.start`, and the threads that watch entries are at some
statement of `Registry.trigger` or of `Session.cleanup`. What a proxy goes through is therefore told in
**moments** (`Moment`), each of them one statement of these operations, and `Midway.Step` says which may
be next. There is one start at a time, whose local variables are its `Hand`: requests come one after
another, and nobody waits for a backend before its session has been announced. Beside it go the ends of
any number of sessions, each at its place in the statements of an end (`Cue.course`), whoever has begun
it; between two of them anything else may happen: a backend is over, relays fail, another session ends.

A proxy with nothing under way is `Proxy.midway`: every end is where the stage of its entry says.
Each operation of the proxy writes in the journal what it does and what is so as it does it, and so
do its moments; that the two journals are one is what ties the moments to the operations.
-/

namespace MediaProxy

open Registry

variable {β : Type}

/-! ## Moments -/

/-- One statement of what ends a session: the **cue** for the next. The first two are those of
`Registry.trigger`, the last that of `Registry.conclude`, and the others are those of
`Session.cleanup`. -/
inductive Cue where
  /-- Somebody is the first to ask for the end. -/
  | triggered
  /-- The backend is asked to stop; `done` is whether it is over already. -/
  | asked (done : Bool)
  /-- The relays are closed that are not closed yet. -/
  | silenced
  /-- The end is announced. -/
  | ended
  /-- The session is taken from under its key. -/
  | removed
  /-- Whoever waits for the end is let go. -/
  | concluded
  deriving DecidableEq, Repr

/-- The **course** of an end. The backend is asked to stop, `late` saying whether it was over before
that. The cleanup waits until it is over, and asks it once more. -/
def Cue.course (late : Bool) : List Cue :=
  [.triggered, .asked late, .asked true, .silenced, .ended, .removed, .concluded]

/-- What a cue does to the session of a number. -/
def Cue.perform [Backend β] (n : SessionId) (s : Session) (r : Sessions β) : Cue → Sessions β
  | .triggered => r.setStage n .stopping
  | .asked done => { r with world := r.world.halt s.backend done }
  | .silenced => { r with world := s.silence n (r.isFinished s.backend) r.world }
  | .ended => { r with world := r.world.note (Session.farewell n r) }
  | .removed => Session.leave n s.client r
  | .concluded => r.setStage n (.concluded (.returns none))

/-- A **moment** in what a proxy goes through. -/
inductive Moment where
  /-- Two relays have been allocated and started. -/
  | launched (relays : Relay.Pair)
  /-- The media server is asked for a backend. -/
  | connecting (port : UInt16) (url : Text) (log : Option Text)
  /-- There is no backend to be had, and the relays are closed. -/
  | givenUp (port : UInt16)
  /-- There is a backend, and a session with it that has these relays. -/
  | opened (n : SessionId) (relays : Relay.Pair) (done : Bool)
  /-- A session is put under its key, and its backend is watched from then on. -/
  | registered (n : SessionId)
  /-- The start of a session is announced. -/
  | started (n : SessionId)
  /-- A backend is over. -/
  | finished (w : WorkerId)
  /-- The end of a session goes on by one cue. -/
  | cue (n : SessionId) (cue : Cue)
  /-- Relays have failed, or something has happened outside. -/
  | stirred
  deriving DecidableEq, Repr

/-- Whether a moment is that somebody is told of a session. -/
def Moment.isHook : Moment → Bool
  | .started _ | .cue _ .ended => true
  | _ => false

/-- The session that is to be once relays have been allocated for a request. -/
def Session.planned (r : Amp.StartRequest) (url : Url) (relays : Relay.Pair) : Session :=
  ⟨.of r.host r.port, r.port, r.media, url.render, 0, relays⟩

/-- What a start that is under way **has in hand**: the local variables of `Proxy.start`, at the
statement that it has come to. -/
inductive Hand where
  /-- No start is under way. -/
  | empty
  /-- A session that is to be, with its relays; `called` is whether the media server has been asked
  for its backend. -/
  | relays (s : Session) (called : Bool)
  /-- The latest session; `registered` is whether it is under its key. -/
  | session (registered : Bool)

/-- A proxy **midway**: what its threads share, the local variables of the start that is under way,
and how far the threads have come that end sessions. -/
structure Midway (β : Type) where
  proxy : Proxy β
  hand : Hand
  /-- How many cues of its end each session has had that has started. -/
  ends : List Nat

namespace Midway

abbrev registry (y : Midway β) : Sessions β := y.proxy.registry

abbrev world (y : Midway β) : Floor β := y.registry.world

/-- Where the transcript of a session goes that is to be. -/
def logPath (y : Midway β) (s : Session) : Option Text :=
  y.proxy.basis.logPath s.relays.rtp.inbound.port s.media

/-- The same, with another registry. -/
def withRegistry (y : Midway β) (r : Sessions β) : Midway β :=
  { y with proxy := { y.proxy with registry := r } }

/-- The same, in another world. -/
def withFloor (y : Midway β) (f : Floor β) : Midway β := { y with proxy := y.proxy.withFloor f }

variable [Backend β]

/-- What the **next moment** of a proxy may be, and what becomes of the proxy by it. -/
inductive Step (y : Midway β) : Moment → Midway β → Prop where
  | launched {request : Amp.StartRequest} {second : Text} {url : Url} {relays : Relay.Pair}
      {site : Site} (hand : y.hand = .empty)
      (prepared : Proxy.prepare y.proxy.basis request = .ok (second, url))
      (allocated : Relay.search y.proxy.basis.relayHost (ClientKey.of request.host request.port).text
        second y.proxy.basis.lowest y.proxy.basis.highest y.world.site = (.ok relays, site)) :
      Step y (.launched (relays.start site).1)
        { y.withFloor (y.world.launch relays site).2 with
          hand := .relays (.planned request url (relays.start site).1) false }
  | connecting {s : Session} (hand : y.hand = .relays s false) :
      Step y (.connecting s.relays.rtp.inbound.port s.url (y.logPath s))
        { y.withFloor (y.world.note
            (.connecting s.relays.rtp.inbound.port s.url (y.logPath s))) with
          hand := .relays s true }
  | given_up {s : Session} {url : Url} {cause : Fault} {backends : β}
      (hand : y.hand = .relays s true) (target : url.render = s.url)
      (refused : Backend.connect url s.relays.rtp.inbound.port (y.logPath s) y.world.backends =
        (.error cause, backends)) :
      Step y (.givenUp s.relays.rtp.inbound.port)
        { y.withFloor (Floor.giveUp s.relays { y.world with backends := backends }) with hand := .empty }
  | opened {s : Session} {url : Url} {done : Bool} {backends : β}
      (hand : y.hand = .relays s true) (target : url.render = s.url)
      (found : Backend.connect url s.relays.rtp.inbound.port (y.logPath s) y.world.backends =
        (.ok done, backends)) :
      Step y (.opened y.world.sessions.length s.relays done)
        { y.withRegistry (Registry.withSession
            (y.withFloor { y.world with backends := backends }).registry
            (if done then .finished else .fresh) { s with backend := y.registry.latches.length }) with
          hand := .session false }
  | registered {s : Session} {n : SessionId} (hand : y.hand = .session false)
      (number : y.ends.length = n) (latest : y.world.sessions[n]? = some s)
      (free : s.client ∉ y.registry.keys) :
      Step y (.registered n)
        { y.withRegistry { y.registry.entered Session.contract s.client n with
            world := y.world.note (.registered n) } with
          hand := .session true }
  | started {n : SessionId} (hand : y.hand = .session true) (number : y.ends.length = n) :
      Step y (.started n)
        { y.withFloor (y.world.note (.started n)) with hand := .empty, ends := y.ends ++ [0] }
  /-- A backend may be over at any time, whether it has been asked to stop or not. -/
  | finished {w : WorkerId} (opened : w < y.registry.latches.length)
      (busy : y.registry.isFinished w = false) :
      Step y (.finished w) (y.withRegistry (y.registry.finish w).2)
  /-- A session that has started may go on with its end at any time. It waits only for its backend
  to be over, as the course has it. -/
  | cue {n : SessionId} {k : Nat} {s : Session} {cue : Cue} (had : y.ends[n]? = some k)
      (session : y.world.sessions[n]? = some s) (next : ∃ late, (Cue.course late)[k]? = some cue)
      (awaited : ∀ done, cue = .asked done → y.registry.isFinished s.backend = done) :
      Step y (.cue n cue)
        { y.withRegistry (cue.perform n s y.registry) with ends := y.ends.set n (k + 1) }
  /-- The relays of sessions may fail, and anything may happen outside. -/
  | stirred {f : Floor β} (evolves : y.world.Evolves f) (journal : f.journal = y.world.journal) :
      Step y .stirred (y.withFloor f)
  /-- Relays in hand may fail. -/
  | hand_stirred {s : Session} {relays : Relay.Pair} {called : Bool}
      (hand : y.hand = .relays s called) (follows : s.Follows { s with relays := relays })
      (fails : s.Fails → { s with relays := relays }.Fails) :
      Step y .stirred { y with hand := .relays { s with relays := relays } called }

end Midway

/-! ## At rest -/

/-- How many cues of its end an entry at a stage has had, when none is under way. -/
def Stage.cues : Stage → Nat
  | .armed => 0
  | .stopping => 2
  | .concluded _ => 7

/-- The proxy with nothing under way, so that every end is where the stage of its entry says. -/
def Proxy.midway (p : Proxy β) : Midway β := ⟨p, .empty, p.registry.entries.map fun entry => entry.stage.cues⟩

end MediaProxy
