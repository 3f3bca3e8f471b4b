import Mathlib.Logic.Basic
import MediaProxy.Proofs.Completion.Telling
import MediaProxy.Proofs.Runs
import MediaProxy.Relay.Forward

/-!
# The workers of a relay

A relay that has been started has two threads of its own. The **receiver** reads a datagram at the
inbound socket and puts it into a queue; the **forwarder** takes it out of the queue, looks whether
the relay is closed, sends it and counts it. Beside them go the threads of callers: one that starts
the relay, and any number of them that close it, each of which waits for the workers that it finds.

`Relay.start`, `Relay.arrive` and `Relay.close` know nothing of all that. Here a relay goes on one
statement of one thread at a time (`Turn`), and between any two of them anything else may happen:
datagrams arrive, somebody calls, registers with the latch or looks at a signal, a socket fails, and
others bind and release sockets of the host, the target among them (`Step`).

What is shared is what the threads share: the flag and the rest of the relay, the two cells with its
sockets, the handles of its workers, and whether its end has begun. The end is begun once, by a
caller or by a worker whose socket has failed, and is then a list of chores (`Chore.all`); whoever
else wants to end the relay waits until they are done. A socket is open as long as somebody holds
it: the relay in its cell, a start that has found it there, or a worker.
-/

namespace MediaProxy.Relay

/-- The most datagrams that lie between the workers. -/
def queueCapacity : Nat := 128

/-- One of the two **workers**. -/
inductive Party where
  | receiver
  | forwarder
  deriving DecidableEq, Repr

/-! ## What happens to a relay -/

/-- What can **happen** to a relay. -/
inductive Act where
  /-- Somebody calls for its start. -/
  | starts
  /-- A datagram arrives at the inbound address. -/
  | arrives (datagram : Bytes)
  /-- Somebody calls for its end: closes it, stops it as one of many pieces of work, or drops it. -/
  | closes
  /-- A call for its end returns. -/
  | returns
  /-- Somebody registers with the latch or looks at a signal. -/
  | watched (w : Watch)
  /-- Others bind and release sockets; these are theirs now. -/
  | elsewhere (others : Host)
  /-- A thread does something that nobody sees. -/
  | turns
  | sends (delivery : Delivery)
  /-- A datagram that was sent is added to the meter. -/
  | counts (datagram : Bytes)
  /-- A datagram that was sent finds the meter stopped. -/
  | misses (datagram : Bytes)
  /-- A socket fails the worker that uses it. -/
  | fails (party : Party) (error : Text)
  /-- The end begins, with an error or without one. -/
  | ends (error : Option Text)
  deriving DecidableEq, Repr

namespace Act

def arrived? : Act → Option Bytes
  | .arrives datagram => some datagram
  | _ => none

def sent? : Act → Option Delivery
  | .sends delivery => some delivery
  | _ => none

def counted? : Act → Option Bytes
  | .counts datagram => some datagram
  | _ => none

def missed? : Act → Option Bytes
  | .misses datagram => some datagram
  | _ => none

def watch? : Act → Option Watch
  | .watched w => some w
  | _ => none

def ending? : Act → Option (Option Text)
  | .ends error => some error
  | _ => none

/-- The datagrams that have arrived. -/
def arrived (acts : List Act) : List Bytes := acts.filterMap arrived?

/-- The datagrams that were sent. -/
def sent (acts : List Act) : List Delivery := acts.filterMap sent?

/-- The datagrams that were counted. -/
def counted (acts : List Act) : List Bytes := acts.filterMap counted?

/-- The datagrams that were sent and not counted, since the end had stopped the meter. -/
def missed (acts : List Act) : List Bytes := acts.filterMap missed?

def watches (acts : List Act) : List Watch := acts.filterMap watch?

/-- The beginnings of the end, with their errors. -/
def endings (acts : List Act) : List (Option Text) := acts.filterMap ending?

section Concat

variable (acts : List Act) (act : Act)

theorem arrived_concat : arrived (acts ++ [act]) = arrived acts ++ act.arrived?.toList := by
  cases h : act.arrived? <;> simp [arrived, h]

theorem sent_concat : sent (acts ++ [act]) = sent acts ++ act.sent?.toList := by
  cases h : act.sent? <;> simp [sent, h]

theorem counted_concat : counted (acts ++ [act]) = counted acts ++ act.counted?.toList := by
  cases h : act.counted? <;> simp [counted, h]

theorem missed_concat : missed (acts ++ [act]) = missed acts ++ act.missed?.toList := by
  cases h : act.missed? <;> simp [missed, h]

theorem watches_concat : watches (acts ++ [act]) = watches acts ++ act.watch?.toList := by
  cases h : act.watch? <;> simp [watches, h]

theorem endings_concat : endings (acts ++ [act]) = endings acts ++ act.ending?.toList := by
  cases h : act.ending? <;> simp [endings, h]

end Concat

end Act

/-! ## The threads -/

/-- What there is **to be done** at the end of a relay. -/
inductive Chore where
  /-- The flag is raised that the relay is closed. -/
  | flag
  /-- The inbound socket is taken out of its cell. -/
  | inbound
  | outbound
  /-- The error is kept. -/
  | error
  /-- The meter is stopped. -/
  | meter
  /-- The latch is done, and everybody is told. -/
  | latch
  deriving DecidableEq, Repr

/-- The chores in their order. -/
def Chore.all : List Chore := [.flag, .inbound, .outbound, .error, .meter, .latch]

/-- The **end** of a relay, once it has begun: its error, and the chores that are left. -/
structure Closing where
  error : Option Text
  pending : List Chore
  deriving DecidableEq, Repr

/-- Where the **receiver** is in its loop. -/
inductive Receiver where
  /-- It has not begun, or it has left. -/
  | away
  /-- It waits for a datagram, and looks now and then whether the relay is closed. -/
  | listening
  /-- It has read a datagram, and is to look whether the relay is closed. -/
  | heard (datagram : Bytes)
  /-- It waits for room in the queue. -/
  | passing (datagram : Bytes)
  /-- Its socket has failed, and it ends the relay. -/
  | failing (error : Text)
  deriving DecidableEq, Repr

namespace Receiver

def isAtWork : Receiver → Bool
  | .away => false
  | _ => true

/-- What it has read and not passed on. -/
def hand : Receiver → List Bytes
  | .heard datagram | .passing datagram => [datagram]
  | _ => []

/-- A receiver is at work unless it is away. -/
theorem isAtWork_eq_false_iff {r : Receiver} : r.isAtWork = false ↔ r = .away := by
  cases r <;> simp [isAtWork]

end Receiver

/-- Where the **forwarder** is in its loop. -/
inductive Forwarder where
  | away
  /-- It waits for a datagram in the queue. -/
  | taking
  /-- It has taken a datagram, and is to look whether the relay is closed. -/
  | looking (datagram : Bytes)
  | sending (datagram : Bytes)
  /-- It has sent a datagram, and is to look whether the meter is stopped. -/
  | counting (datagram : Bytes)
  | adding (datagram : Bytes)
  /-- Its socket has failed, and it ends the relay. -/
  | failing (error : Text)
  deriving DecidableEq, Repr

namespace Forwarder

def isAtWork : Forwarder → Bool
  | .away => false
  | _ => true

/-- What it has taken and not sent. -/
def hand : Forwarder → List Bytes
  | .looking datagram | .sending datagram => [datagram]
  | _ => []

/-- What it has sent and not counted. -/
def uncounted : Forwarder → List Bytes
  | .counting datagram | .adding datagram => [datagram]
  | _ => []

/-- A forwarder is at work unless it is away. -/
theorem isAtWork_eq_false_iff {f : Forwarder} : f.isAtWork = false ↔ f = .away := by
  cases f <;> simp [isAtWork]

end Forwarder

/-- Where the call that **starts** the relay is. -/
inductive Starter where
  /-- There is none under way. -/
  | away
  /-- It has marked the relay as started. -/
  | begun
  /-- It has looked into the cell of the inbound socket; `inbound` is whether it has found it there.
  -/
  | first (inbound : Bool)
  /-- It has looked into both cells. -/
  | second (inbound outbound : Bool)
  deriving DecidableEq, Repr

namespace Starter

def hasInbound : Starter → Bool
  | .first inbound | .second inbound _ => inbound
  | _ => false

def hasOutbound : Starter → Bool
  | .second _ outbound => outbound
  | _ => false

/-- Whether it has found a cell empty. -/
def lacks : Starter → Bool
  | .first inbound => !inbound
  | .second inbound outbound => !(inbound && outbound)
  | _ => false

end Starter

/-- Where a **call** is that closes the relay. -/
inductive Call where
  /-- It begins the end, or waits until somebody else's is over. -/
  | ending
  /-- It is to take the handles of the workers. -/
  | taking
  /-- It waits until a worker has left. It waits for the receiver first. -/
  | joining (party : Party)
  | returning
  deriving DecidableEq, Repr

/-- A relay **with its threads**. -/
structure Works where
  /-- What waits in it is what lies at its inbound socket, as far as it will be read. -/
  relay : Relay
  observers : Observers
  /-- The sockets of the host that are not the relay's. -/
  others : Host
  starter : Starter
  receiver : Receiver
  queue : List Bytes
  forwarder : Forwarder
  /-- Whether the handles of the workers are there for somebody to take. -/
  handles : Bool
  calls : List Call
  closing : Option Closing
  deriving DecidableEq, Repr

namespace Works

/-- A relay that has just been made. -/
def opened (r : Relay) (s : Site) (others : Host) : Works :=
  ⟨r, s.observers, others, .away, .away, [], .away, false, [], none⟩

/-- Whether a chore of the end is still **to be done**. -/
def owes (x : Works) (chore : Chore) : Bool :=
  match x.closing with
  | none => true
  | some closing => chore ∈ closing.pending

/-- Whether the end is **over**, with all its chores. -/
def isOver (x : Works) : Bool :=
  match x.closing with
  | none => false
  | some closing => closing.pending.isEmpty

/-- Whether the inbound socket is held: by the relay, by its start or by its receiver. -/
def holdsInbound (x : Works) : Bool :=
  x.owes .inbound || x.starter.hasInbound || x.receiver.isAtWork

/-- Whether the outbound socket is held: by the relay, by its start or by its forwarder. -/
def holdsOutbound (x : Works) : Bool :=
  x.owes .outbound || x.starter.hasOutbound || x.forwarder.isAtWork

/-- The host, with the sockets that are held and those of others, and the observers. -/
def site (x : Works) : Site :=
  ⟨{ x.others with
      bound := (if x.holdsInbound then [x.relay.inbound] else []) ++ x.others.bound
      outbound := (if x.holdsOutbound then [x.relay.target] else []) ++ x.others.outbound },
    x.observers⟩

/-! ## The parts of a step -/

/-- What lies at the inbound socket is **lost** with it, when nobody holds it any more. -/
def dry (x : Works) : Works :=
  { x with relay := { x.relay with waiting := if x.holdsInbound then x.relay.waiting else [] } }

/-- The receiver leaves, and lets go of its socket and of what it has read. -/
def receiverLeaves (x : Works) : Works := { x with receiver := .away }.dry

/-- The forwarder leaves, and what is in the queue is lost. -/
def forwarderLeaves (x : Works) : Works := { x with queue := [], forwarder := .away }

/-- The end begins. -/
def beginEnd (error : Option Text) (x : Works) : Works := { x with closing := some ⟨error, Chore.all⟩ }

/-- A chore of the end is **done**, and others are left. -/
def discharge (x : Works) (error : Option Text) (left : List Chore) : Chore → Works
  | .flag => { x with closing := some ⟨error, left⟩, relay := { x.relay with closed := true } }
  | .inbound => { x with closing := some ⟨error, left⟩ }.dry
  | .outbound => { x with closing := some ⟨error, left⟩ }
  | .error => { x with closing := some ⟨error, left⟩, relay := { x.relay with error := error } }
  | .meter => { x with closing := some ⟨error, left⟩, relay := { x.relay with meter := x.relay.meter.stop } }
  | .latch =>
    { x with
      closing := some ⟨error, left⟩
      relay := { x.relay with latch := (x.relay.latch.finish x.observers).2.1 }
      observers := (x.relay.latch.finish x.observers).2.2 }

/-- A call of `start` begins, with the mark that it leaves. Only the first one goes on. -/
def start (x : Works) : Works :=
  if x.relay.started then x
  else { x with relay := { x.relay with started := true }, starter := .begun }

/-- A datagram arrives. It is lost if nobody holds the inbound socket. -/
def arrive (datagram : Bytes) (x : Works) : Works :=
  if x.holdsInbound then
    { x with relay := { x.relay with
        waiting := x.relay.waiting ++ [datagram.take largestDatagram] } }
  else x

/-- A call of `close` begins. -/
def close (x : Works) : Works := { x with calls := x.calls ++ [.ending] }

/-! ## Turns -/

/-- The call of `start` **goes on**. -/
inductive StarterTurn (x : Works) : Works → Prop where
  | first (begun : x.starter = .begun) :
      StarterTurn x { x with starter := .first (x.owes .inbound) }
  | second {inbound : Bool} (looked : x.starter = .first inbound) :
      StarterTurn x { x with starter := .second inbound (x.owes .outbound) }
  /-- It has both sockets, and the workers begin with them. -/
  | employ (looked : x.starter = .second true true) :
      StarterTurn x
        { x with starter := .away, receiver := .listening, forwarder := .taking, handles := true }
  | giveUp {inbound outbound : Bool} (looked : x.starter = .second inbound outbound)
      (lacking : (inbound && outbound) = false) : StarterTurn x { x with starter := .away }.dry

/-- Whether the receiver **may leave**: it sees that the relay is closed, or that nobody takes
anything out of the queue any more, or the end is over that it has waited for. -/
def ReceiverMayLeave (x : Works) : Prop :=
  match x.receiver with
  | .away => False
  | .listening | .heard _ => x.relay.closed = true
  | .passing _ => x.forwarder = .away
  | .failing _ => x.isOver = true

/-- Whether the forwarder **may leave**: nothing will come into the queue any more, or it sees that
the relay is closed, or the end is over that it has waited for. -/
def ForwarderMayLeave (x : Works) : Prop :=
  match x.forwarder with
  | .taking => x.queue = [] ∧ x.receiver = .away
  | .looking _ => x.relay.closed = true
  | .failing _ => x.isOver = true
  | _ => False

/-- The **receiver** goes on. -/
inductive ReceiverTurn (x : Works) : Act → Works → Prop where
  | read {datagram : Bytes} {rest : List Bytes} (listening : x.receiver = .listening)
      (waiting : x.relay.waiting = datagram :: rest) :
      ReceiverTurn x .turns
        { x with relay := { x.relay with waiting := rest }, receiver := .heard datagram }
  | look {datagram : Bytes} (heard : x.receiver = .heard datagram) (isOpen : x.relay.closed = false) :
      ReceiverTurn x .turns { x with receiver := .passing datagram }
  | pass {datagram : Bytes} (passing : x.receiver = .passing datagram)
      (room : x.queue.length < queueCapacity) (taken : x.forwarder ≠ .away) :
      ReceiverTurn x .turns { x with receiver := .listening, queue := x.queue ++ [datagram] }
  | ends {error : Text} (failing : x.receiver = .failing error) (fresh : x.closing = none) :
      ReceiverTurn x (.ends (some error)) (x.beginEnd (some error))
  | leaves (may : x.ReceiverMayLeave) : ReceiverTurn x .turns x.receiverLeaves

/-- The **forwarder** goes on. -/
inductive ForwarderTurn (x : Works) : Act → Works → Prop where
  | take {datagram : Bytes} {rest : List Bytes} (taking : x.forwarder = .taking)
      (queue : x.queue = datagram :: rest) :
      ForwarderTurn x .turns { x with queue := rest, forwarder := .looking datagram }
  | look {datagram : Bytes} (looking : x.forwarder = .looking datagram)
      (isOpen : x.relay.closed = false) :
      ForwarderTurn x .turns { x with forwarder := .sending datagram }
  | send {datagram : Bytes} (sending : x.forwarder = .sending datagram)
      (heard : x.relay.unheard = false) :
      ForwarderTurn x (.sends ⟨datagram, x.site.host.reaches x.relay.target⟩)
        { x with
          relay := { x.relay with unheard := !x.site.host.reaches x.relay.target }
          forwarder := .counting datagram }
  /-- The host reports that the last datagram reached nobody. -/
  | refused {datagram : Bytes} (sending : x.forwarder = .sending datagram)
      (unheard : x.relay.unheard = true) :
      ForwarderTurn x (.fails .forwarder Host.refused) { x with forwarder := .failing Host.refused }
  | count {datagram : Bytes} (counting : x.forwarder = .counting datagram)
      (running : x.relay.meter.stopped = false) :
      ForwarderTurn x .turns { x with forwarder := .adding datagram }
  | miss {datagram : Bytes} (counting : x.forwarder = .counting datagram)
      (stopped : x.relay.meter.stopped = true) :
      ForwarderTurn x (.misses datagram) { x with forwarder := .taking }
  /-- By now the meter may have been stopped; it is not looked at again. -/
  | add {datagram : Bytes} (adding : x.forwarder = .adding datagram) :
      ForwarderTurn x (.counts datagram)
        { x with
          relay := { x.relay with meter := x.relay.meter.add (UInt64.ofNat datagram.length) }
          forwarder := .taking }
  | ends {error : Text} (failing : x.forwarder = .failing error) (fresh : x.closing = none) :
      ForwarderTurn x (.ends (some error)) (x.beginEnd (some error))
  | leaves (may : x.ForwarderMayLeave) : ForwarderTurn x .turns x.forwarderLeaves

/-- Where a call of `close` **comes next**, if it can go on. -/
def next? (x : Works) : Call → Option Call
  | .ending => if x.isOver then some .taking else none
  | .taking => some (if x.handles then .joining .receiver else .returning)
  | .joining .receiver => if x.receiver = .away then some (.joining .forwarder) else none
  | .joining .forwarder => if x.forwarder = .away then some .returning else none
  | .returning => none

/-- A **call** of `close` goes on. -/
inductive CallTurn (x : Works) : Act → Works → Prop where
  | ends (ending : .ending ∈ x.calls) (fresh : x.closing = none) :
      CallTurn x (.ends none) (x.beginEnd none)
  /-- Whoever takes the handles leaves none for others. -/
  | next {before after : List Call} {call call' : Call} (calls : x.calls = before ++ call :: after)
      (next : x.next? call = some call') :
      CallTurn x .turns
        { x with calls := before ++ call' :: after, handles := x.handles && call != .taking }
  | returns {before after : List Call} (calls : x.calls = before ++ .returning :: after) :
      CallTurn x .returns { x with calls := before ++ after }

/-- Some thread **takes a turn**. -/
inductive Turn (x : Works) : Act → Works → Prop where
  | starter {y : Works} (turn : StarterTurn x y) : Turn x .turns y
  | receiver {act : Act} {y : Works} (turn : ReceiverTurn x act y) : Turn x act y
  | forwarder {act : Act} {y : Works} (turn : ForwarderTurn x act y) : Turn x act y
  | call {act : Act} {y : Works} (turn : CallTurn x act y) : Turn x act y
  /-- Whoever has begun the end goes on with it. -/
  | chore {error : Option Text} {chore : Chore} {left : List Chore}
      (pending : x.closing = some ⟨error, chore :: left⟩) :
      Turn x .turns (x.discharge error left chore)

/-- Something **happens** to a relay with its threads. Others bind no address that collides with the
one that the relay holds, on the same host. -/
inductive Step (x : Works) : Act → Works → Prop where
  | starts : Step x .starts x.start
  | arrives (datagram : Bytes) : Step x (.arrives datagram) (x.arrive datagram)
  | closes : Step x .closes x.close
  | watched {w : Watch} {l : Latch} {o : Observers} (watches : Watches x.relay.latch x.observers w l o) :
      Step x (.watched w) { x with relay := { x.relay with latch := l }, observers := o }
  | elsewhere {others : Host} (same : others.allowance = x.others.allowance)
      (apart : x.holdsInbound = true → others.isFree x.relay.inbound = true) :
      Step x (.elsewhere others) { x with others := others }
  | turn {act : Act} {y : Works} (turn : Turn x act y) : Step x act y
  | inboundFails (error : Text) (listening : x.receiver = .listening) :
      Step x (.fails .receiver error) { x with receiver := .failing error }
  | outboundFails {datagram : Bytes} (error : Text) (sending : x.forwarder = .sending datagram) :
      Step x (.fails .forwarder error) { x with forwarder := .failing error }

/-- No thread has a turn to take. -/
def AtRest (x : Works) : Prop := ∀ act y, ¬Turn x act y

end Works
end MediaProxy.Relay
