import Mathlib.Data.List.TakeDrop
import MediaProxy.Proofs.Relay.Lifetime

/-!
# What a relay forwards

Of the datagrams that arrive a relay sends a beginning, in their order and each once, and everything
that it sends is received, the last datagram perhaps apart. It counts what it has sent, one datagram
after another, each when it is sent: so the last one may be still to be counted, and if the end
stops the meter between the two it is never counted. That is the only one that can be missed, and
none is if nobody closes the relay while its forwarder has a datagram in hand; so none is where one
thing is done after another, each when the threads have done what they can (`Forwards`, `forwards`).

What carries this is that no datagram is ever in two places or out of its turn: what was sent, what
the forwarder has in hand, the queue, what the receiver has in hand and what lies at the inbound
socket are, in this order, what has arrived (`Ledger`). Only that a relay reads no more than
`largestDatagram` octets of any datagram is between the two.
-/

namespace MediaProxy.Relay

/-- How many octets there are in some datagrams. -/
def octets : List Bytes → Nat
  | [] => 0
  | datagram :: rest => datagram.length + octets rest

theorem octets_concat (datagrams : List Bytes) (datagram : Bytes) :
    octets (datagrams ++ [datagram]) = octets datagrams + datagram.length := by
  induction datagrams with
  | nil => simp [octets]
  | cons first rest ih => rw [List.cons_append, octets, octets, ih, Nat.add_assoc]

/-- As much of a datagram as a relay reads. -/
def readable (datagram : Bytes) : Bytes := datagram.take largestDatagram

/-- A datagram is read as a whole exactly if it is no larger than the receiver's buffer. -/
theorem readable_eq_self_iff {datagram : Bytes} :
    readable datagram = datagram ↔ datagram.length ≤ largestDatagram := List.take_eq_self_iff datagram

/-- What a receiver has been let pass on. -/
def Receiver.passed : Receiver → List Bytes
  | .passing datagram => [datagram]
  | _ => []

/-- Whether a forwarder is in its loop, with a socket that has not failed. -/
def Forwarder.isRunning : Forwarder → Bool
  | .away | .failing _ => false
  | _ => true

/-- Whether a forwarder has **nothing on its way**: it has not been let send what it has in hand,
and has nothing to count. -/
def Forwarder.isHeld : Forwarder → Bool
  | .away | .taking | .looking _ => true
  | _ => false

namespace Works

variable {x y : Works} {act : Act} {acts : List Act} {r : Relay}

/-- The datagrams between the inbound socket and the target that **nothing can stop** but the
forwarder. -/
def ahead (x : Works) : List Bytes := x.forwarder.hand ++ x.queue ++ x.receiver.passed

/-- Where the datagrams **are** that have arrived. -/
structure Ledger (acts : List Act) (x : Works) : Prop where
  beginning : (Act.sent acts).map Delivery.datagram <+: (Act.arrived acts).map readable
  ahead : x.forwarder.isRunning = true →
    (Act.sent acts).map Delivery.datagram ++ x.ahead <+: (Act.arrived acts).map readable
  whole : x.relay.closed = false → (∀ error, x.forwarder ≠ .failing error) →
    (Act.sent acts).map Delivery.datagram ++ x.contents = (Act.arrived acts).map readable
  counted : (Act.sent acts).map Delivery.datagram =
    Act.counted acts ++ Act.missed acts ++ x.forwarder.uncounted
  total : x.relay.meter.total = UInt64.ofNat (octets (Act.counted acts))
  samples : x.relay.meter.samples = UInt64.ofNat (Act.counted acts).length
  /-- A datagram is missed at the end only, and then no other one is sent. -/
  missed : Act.missed acts ≠ [] →
    (Act.missed acts).length = 1 ∧ x.relay.closed = true ∧ x.forwarder.isHeld = true
  received : ∀ d ∈ (Act.sent acts).dropLast, d.received = true
  heard : x.relay.unheard = false → ∀ d ∈ Act.sent acts, d.received = true

/-- A relay that has just been made has come to no datagram. -/
theorem ledger_opened (inbound target : SocketAddress) (s : Site) (others : Host) :
    Ledger [] (opened (made inbound target) s others) :=
  ⟨List.prefix_rfl, nofun, fun _ _ => rfl, rfl, rfl, rfl, fun hne => absurd rfl hne, nofun, fun _ => nofun⟩

/-- An act that moves no datagram in or out. -/
def Silent (act : Act) : Prop :=
  act.sent? = none ∧ act.arrived? = none ∧ act.counted? = none ∧ act.missed? = none

/-- What neither arrives nor is sent nor counted leaves every datagram in its turn. -/
theorem Ledger.moves (h : Ledger acts x) (hsilent : Silent act)
    (hmeter : y.relay.meter.total = x.relay.meter.total ∧ y.relay.meter.samples = x.relay.meter.samples)
    (hunheard : y.relay.unheard = x.relay.unheard)
    (huncounted : y.forwarder.uncounted = x.forwarder.uncounted)
    (hclosed : x.relay.closed = true →
      y.relay.closed = true ∧ (x.forwarder.isHeld = true → y.forwarder.isHeld = true))
    (hahead : y.forwarder.isRunning = true →
      (Act.sent acts).map Delivery.datagram ++ y.ahead <+: (Act.arrived acts).map readable)
    (hcontents : y.relay.closed = false → (∀ error, y.forwarder ≠ .failing error) →
      (x.relay.closed = false ∧ ∀ error, x.forwarder ≠ .failing error) ∧ y.contents = x.contents) :
    Ledger (acts ++ [act]) y := by
  obtain ⟨hsent, harrived, hcounted, hmissed⟩ := hsilent
  have hsent : Act.sent (acts ++ [act]) = Act.sent acts := by
    rw [Act.sent_concat, hsent, Option.toList_none, List.append_nil]
  have harrived : Act.arrived (acts ++ [act]) = Act.arrived acts := by
    rw [Act.arrived_concat, harrived, Option.toList_none, List.append_nil]
  have hcounted : Act.counted (acts ++ [act]) = Act.counted acts := by
    rw [Act.counted_concat, hcounted, Option.toList_none, List.append_nil]
  have hmissed : Act.missed (acts ++ [act]) = Act.missed acts := by
    rw [Act.missed_concat, hmissed, Option.toList_none, List.append_nil]
  -- The acts say nothing new, so each account is about the new state alone.
  refine {
    beginning := ?beginning
    ahead := ?ahead
    whole := fun hopen hworks => ?whole
    counted := ?counted
    total := ?total
    samples := ?samples
    missed := fun hne => ?missed
    received := ?received
    heard := ?heard }
  case beginning =>
    rw [hsent, harrived]
    exact h.beginning
  case ahead =>
    rw [hsent, harrived]
    exact hahead
  case whole =>
    obtain ⟨⟨hopen, hworks⟩, hsame⟩ := hcontents hopen hworks
    rw [hsent, harrived, hsame]
    exact h.whole hopen hworks
  case counted =>
    rw [hsent, hcounted, hmissed, huncounted]
    exact h.counted
  case total =>
    rw [hcounted, hmeter.1, h.total]
  case samples =>
    rw [hcounted, hmeter.2, h.samples]
  case missed =>
    rw [hmissed] at hne ⊢
    obtain ⟨hone, hended, hheld⟩ := h.missed hne
    exact ⟨hone, (hclosed hended).1, (hclosed hended).2 hheld⟩
  case received =>
    rw [hsent]
    exact h.received
  case heard =>
    rw [hsent, hunheard]
    exact h.heard

/-- What is between the socket and the target, the whole of it while the relay is open. -/
theorem Ledger.ahead_of (h : Ledger acts x) (hrunning : x.forwarder.isRunning = true)
    {some : List Bytes} (hsome : some <+: x.ahead) :
    (Act.sent acts).map Delivery.datagram ++ some <+: (Act.arrived acts).map readable :=
  ((List.prefix_append_right_inj _).mpr hsome).trans (h.ahead hrunning)

/-- The threads go on, and no datagram has been sent or counted. -/
theorem Ledger.silent (h : Ledger acts x) (hsilent : Silent act)
    (hrelay : y.relay.closed = x.relay.closed) (hmeter : y.relay.meter = x.relay.meter)
    (hunheard : y.relay.unheard = x.relay.unheard) (hforwarder : y.forwarder = x.forwarder)
    (hahead : y.ahead <+: x.ahead)
    (hcontents : y.relay.closed = false → y.contents = x.contents) : Ledger (acts ++ [act]) y := by
  refine h.moves hsilent ⟨by rw [hmeter], by rw [hmeter]⟩ hunheard (by rw [hforwarder])
    (fun hclosed => ⟨hrelay.trans hclosed, fun hheld => hforwarder ▸ hheld⟩)
    (fun hrunning => h.ahead_of (hforwarder ▸ hrunning) hahead) fun hopen hworks => ?_
  exact ⟨⟨hrelay.symm.trans hopen, fun error hf => hworks error (hforwarder.trans hf)⟩, hcontents hopen⟩

/-! ### Turns -/

section Turns

variable (h : Ledger acts x) (hx : InOrder x)
include h hx

/-- A turn of the start moves no datagram. -/
theorem Ledger.starterTurn (ht : StarterTurn x y) : Ledger (acts ++ [.turns]) y := by
  have hsilent : Silent .turns := ⟨rfl, rfl, rfl, rfl⟩
  cases ht with
  | first | second => exact h.silent hsilent rfl rfl rfl rfl List.prefix_rfl fun _ => rfl
  | employ looked =>
    obtain ⟨hreceiver, hforwarder⟩ := hx.staffed.vacant (.inr (by simp [looked]))
    have hqueue := hx.stocked.queue hforwarder
    refine h.moves hsilent ⟨rfl, rfl⟩ rfl ?_ (fun hclosed => ⟨hclosed, fun _ => rfl⟩) (fun _ => ?_)
      fun hopen _ => ⟨⟨hopen, fun e he => by cases hforwarder.symm.trans he⟩, ?_⟩
    · rw [hforwarder]
      rfl
    · simpa [Works.ahead, hqueue, Forwarder.hand, Receiver.passed] using h.beginning
    · simp [contents, hreceiver, hforwarder, Forwarder.hand, Receiver.hand]
  | giveUp looked lacking =>
    have hclosed := hx.staffed.lacks (by simp [looked, Starter.lacks, lacking])
    exact h.silent hsilent rfl rfl rfl rfl List.prefix_rfl
      fun hopen => absurd hclosed (ne_true_of_eq_false hopen)

/-- A turn of the receiver keeps all datagrams in the ledger. -/
theorem Ledger.receiverTurn (ht : ReceiverTurn x act y) : Ledger (acts ++ [act]) y := by
  cases ht with
  | read listening waiting =>
    refine h.silent ⟨rfl, rfl, rfl, rfl⟩ rfl rfl rfl rfl ?_ fun _ => ?_
    · simp [Works.ahead, listening, Receiver.passed]
    · simp [contents, listening, waiting, Receiver.hand]
  | @look datagram heard isOpen =>
    have hcontents : ({ x with receiver := .passing datagram } : Works).contents = x.contents := by
      simp [contents, heard, Receiver.hand]
    refine h.moves ⟨rfl, rfl, rfl, rfl⟩ ⟨rfl, rfl⟩ rfl rfl (fun hclosed => ⟨hclosed, id⟩)
      (fun hrunning => ?_) fun hopen hworks => ⟨⟨hopen, hworks⟩, hcontents⟩
    -- An open relay has lost nothing of what the receiver has heard.
    have hworks : ∀ e, x.forwarder ≠ .failing e := fun e he => by simp [he, Forwarder.isRunning] at hrunning
    rw [← h.whole isOpen hworks, List.prefix_append_right_inj]
    simp [Works.ahead, contents, heard, Receiver.passed, Receiver.hand]
  | pass passing =>
    refine h.silent ⟨rfl, rfl, rfl, rfl⟩ rfl rfl rfl rfl ?_ fun _ => ?_
    · simp [Works.ahead, passing, Receiver.passed]
    · simp [contents, passing, Receiver.hand]
  | ends => exact h.silent ⟨rfl, rfl, rfl, rfl⟩ rfl rfl rfl rfl List.prefix_rfl fun _ => rfl
  | leaves may =>
    have hclosed := closed_of_receiverMayLeave hx.duly hx.staffed may
    refine h.silent ⟨rfl, rfl, rfl, rfl⟩ rfl rfl rfl rfl ?_
      fun hopen => absurd hclosed (ne_true_of_eq_false hopen)
    simp [Works.ahead, receiverLeaves, dry, Receiver.passed]

omit hx in
/-- The forwarder sends the first datagram that was not sent before. -/
theorem Ledger.send {datagram : Bytes} (sending : x.forwarder = .sending datagram)
    (heard : x.relay.unheard = false) (received : Bool) :
    Ledger (acts ++ [.sends ⟨datagram, received⟩])
      { x with
        relay := { x.relay with unheard := !received }
        forwarder := .counting datagram } := by
  have hsent : Act.sent (acts ++ [.sends ⟨datagram, received⟩]) =
      Act.sent acts ++ [⟨datagram, received⟩] := Act.sent_concat ..
  have harrived : Act.arrived (acts ++ [.sends ⟨datagram, received⟩]) = Act.arrived acts := by
    simp [Act.arrived_concat, Act.arrived?]
  have hcounted : Act.counted (acts ++ [.sends ⟨datagram, received⟩]) = Act.counted acts := by
    simp [Act.counted_concat, Act.counted?]
  have hmissed : Act.missed (acts ++ [.sends ⟨datagram, received⟩]) = Act.missed acts := by
    simp [Act.missed_concat, Act.missed?]
  -- What the forwarder has in hand is in front of all that is not sent.
  have hrunning : x.forwarder.isRunning = true := by rw [sending]; rfl
  have hahead : x.ahead = datagram :: (x.queue ++ x.receiver.passed) := by
    simp [Works.ahead, sending, Forwarder.hand]
  have hcontents : x.contents = datagram :: (x.queue ++ x.receiver.hand ++ x.relay.waiting) := by
    simp [contents, sending, Forwarder.hand]
  refine {
    beginning := ?beginning
    ahead := fun _ => ?ahead
    whole := fun hopen _ => ?whole
    counted := ?counted
    total := ?total
    samples := ?samples
    missed := fun hne => ?missed
    received := ?received
    heard := fun hreached => ?heard }
  case beginning =>
    rw [hsent, harrived, List.map_append]
    exact h.ahead_of hrunning (by simp [hahead])
  case ahead =>
    have hbefore := h.ahead hrunning
    rw [hahead] at hbefore
    simpa [hsent, harrived, Works.ahead, Forwarder.hand] using hbefore
  case whole =>
    have hwhole := h.whole hopen fun e he => by cases sending.symm.trans he
    rw [hcontents] at hwhole
    simpa [hsent, harrived, contents, Forwarder.hand] using hwhole
  case counted =>
    have hbefore := h.counted
    simp [sending, Forwarder.uncounted] at hbefore
    simp [hsent, hcounted, hmissed, hbefore, Forwarder.uncounted]
  case total =>
    rw [hcounted, h.total]
  case samples =>
    rw [hcounted, h.samples]
  case missed =>
    have hheld := (h.missed (hmissed ▸ hne)).2.2
    rw [sending] at hheld
    cases hheld
  case received =>
    rw [hsent, List.dropLast_concat]
    exact h.heard heard
  case heard =>
    rw [hsent]
    have hreceived : received = true := by simpa using hreached
    exact List.forall_mem_append.mpr ⟨h.heard heard, List.forall_mem_singleton.mpr hreceived⟩

omit hx in
/-- As long as the forwarder has something to count, nothing has been missed. -/
theorem Ledger.missed_eq_nil (hbusy : x.forwarder.isHeld = false) : Act.missed acts = [] := by
  by_contra hne
  exact absurd (h.missed hne).2.2 (ne_true_of_eq_false hbusy)

/-- What was sent is counted, or missed as the meter is stopped. -/
theorem Ledger.reckons {datagram : Bytes} {meter : Meter} (hact : act = .counts datagram ∧
      meter = x.relay.meter.add (UInt64.ofNat datagram.length) ∨
      act = .misses datagram ∧ meter = x.relay.meter ∧ x.relay.meter.stopped = true)
    (hhand : x.forwarder.uncounted = [datagram]) (hidle : x.forwarder.hand = [])
    (hrunning : x.forwarder.isRunning = true) (hbusy : x.forwarder.isHeld = false) :
    Ledger (acts ++ [act]) { x with relay := { x.relay with meter := meter }, forwarder := .taking } := by
  have hsent : Act.sent (acts ++ [act]) = Act.sent acts := by
    rcases hact with ⟨rfl, -⟩ | ⟨rfl, -⟩ <;> simp [Act.sent_concat, Act.sent?]
  have harrived : Act.arrived (acts ++ [act]) = Act.arrived acts := by
    rcases hact with ⟨rfl, -⟩ | ⟨rfl, -⟩ <;> simp [Act.arrived_concat, Act.arrived?]
  have hmissed := h.missed_eq_nil hbusy
  -- The last datagram that was sent is the one that is neither counted nor missed yet.
  have hcounted : (Act.sent acts).map Delivery.datagram = Act.counted acts ++ [datagram] := by
    rw [h.counted, hmissed, hhand, List.append_nil]
  set y : Works := { x with relay := { x.relay with meter := meter }, forwarder := .taking }
  have hahead : y.ahead = x.ahead := by rw [Works.ahead, Works.ahead, hidle]; rfl
  have hcontents : y.contents = x.contents := by rw [contents, contents, hidle]; rfl
  have hworks : ∀ e, x.forwarder ≠ .failing e := fun e he => by simp [he, Forwarder.isRunning] at hrunning
  refine {
    beginning := ?beginning
    ahead := fun _ => ?ahead
    whole := fun hopen _ => ?whole
    counted := ?counted
    total := ?total
    samples := ?samples
    missed := fun hne => ?missed
    received := ?received
    heard := fun hheard => ?heard }
  case beginning =>
    rw [hsent, harrived]
    exact h.beginning
  case ahead =>
    rw [hsent, harrived, hahead]
    exact h.ahead hrunning
  case whole =>
    rw [hsent, harrived, hcontents]
    exact h.whole hopen hworks
  case counted =>
    rw [hsent, hcounted, Act.counted_concat, Act.missed_concat, hmissed]
    rcases hact with ⟨rfl, -⟩ | ⟨rfl, -⟩ <;> simp [Act.counted?, Act.missed?, Forwarder.uncounted]
  case total =>
    rw [Act.counted_concat, show y.relay.meter = meter from rfl]
    rcases hact with ⟨rfl, rfl, -⟩ | ⟨rfl, rfl, -⟩
    · simp [Act.counted?, octets_concat, UInt64.ofNat_add, Meter.add, h.total]
    · simp [Act.counted?, h.total]
  case samples =>
    rw [Act.counted_concat, show y.relay.meter = meter from rfl]
    rcases hact with ⟨rfl, rfl, -⟩ | ⟨rfl, rfl, -⟩
    · simp [Act.counted?, UInt64.ofNat_add, Meter.add, h.samples]
    · simp [Act.counted?, h.samples]
  case missed =>
    rw [Act.missed_concat, hmissed] at hne ⊢
    rcases hact with ⟨rfl, -⟩ | ⟨rfl, -, hstopped⟩
    · exact absurd rfl hne
    · have hdone : x.owes .meter = false := by simpa [hx.duly.meter] using hstopped
      exact ⟨rfl, hx.duly.closed_of_owes hdone, rfl⟩
  case received =>
    rw [hsent]
    exact h.received
  case heard =>
    rw [hsent]
    exact h.heard hheard

omit hx in
/-- The socket fails the forwarder, which sends nothing any more. -/
theorem Ledger.fails {datagram : Bytes} (sending : x.forwarder = .sending datagram) (error : Text) :
    Ledger (acts ++ [.fails .forwarder error]) { x with forwarder := .failing error } := by
  refine h.moves ⟨rfl, rfl, rfl, rfl⟩ ⟨rfl, rfl⟩ rfl ?_ (fun hclosed => ⟨hclosed, fun hheld => ?_⟩)
    (fun hrunning => absurd hrunning Bool.false_ne_true) fun _ hworks => absurd rfl (hworks error)
  · rw [sending]
    rfl
  · rw [sending] at hheld
    cases hheld

/-- A turn of the forwarder keeps all datagrams in the ledger. -/
theorem Ledger.forwarderTurn (ht : ForwarderTurn x act y) : Ledger (acts ++ [act]) y := by
  have hsilent : Silent .turns := ⟨rfl, rfl, rfl, rfl⟩
  cases ht with
  | @take datagram rest taking queue =>
    have hahead : ({ x with queue := rest, forwarder := .looking datagram } : Works).ahead = x.ahead := by
      simp [Works.ahead, taking, queue, Forwarder.hand]
    refine h.moves hsilent ⟨rfl, rfl⟩ rfl ?_ (fun hclosed => ⟨hclosed, fun _ => rfl⟩)
      (fun _ => hahead ▸ h.ahead (by rw [taking]; rfl)) fun hopen _ => ⟨⟨hopen, ?_⟩, ?_⟩
    · rw [taking]
      rfl
    · simp [taking]
    · simp [contents, taking, queue, Forwarder.hand]
  | @look datagram looking isOpen =>
    have hahead : ({ x with forwarder := .sending datagram } : Works).ahead = x.ahead := by
      simp [Works.ahead, looking, Forwarder.hand]
    refine h.moves hsilent ⟨rfl, rfl⟩ rfl ?_ (fun hclosed => absurd hclosed (ne_true_of_eq_false isOpen))
      (fun _ => hahead ▸ h.ahead (by rw [looking]; rfl)) fun hopen _ => ⟨⟨hopen, ?_⟩, ?_⟩
    · rw [looking]
      rfl
    · simp [looking]
    · simp [contents, looking, Forwarder.hand]
  | send sending heard => exact h.send sending heard _
  | refused sending => exact h.fails sending _
  | @count datagram counting =>
    have hahead : ({ x with forwarder := .adding datagram } : Works).ahead = x.ahead := by
      simp [Works.ahead, counting, Forwarder.hand]
    refine h.moves hsilent ⟨rfl, rfl⟩ rfl ?_ (fun hclosed => ⟨hclosed, ?_⟩)
      (fun _ => hahead ▸ h.ahead (by rw [counting]; rfl)) fun hopen _ => ⟨⟨hopen, ?_⟩, ?_⟩
    · rw [counting]
      rfl
    · rw [counting]
      exact fun hheld => absurd hheld Bool.false_ne_true
    · simp [counting]
    · simp [contents, counting, Forwarder.hand]
  | miss counting stopped =>
    exact h.reckons hx (.inr ⟨rfl, rfl, stopped⟩) (by rw [counting]; rfl) (by rw [counting]; rfl)
      (by rw [counting]; rfl) (by rw [counting]; rfl)
  | add adding =>
    exact h.reckons hx (.inl ⟨rfl, rfl⟩) (by rw [adding]; rfl) (by rw [adding]; rfl)
      (by rw [adding]; rfl) (by rw [adding]; rfl)
  | ends => exact h.silent ⟨rfl, rfl, rfl, rfl⟩ rfl rfl rfl rfl List.prefix_rfl fun _ => rfl
  | leaves may =>
    -- A forwarder that leaves a closed relay has counted all that it has sent, or missed it.
    have hclosed := closed_of_forwarderMayLeave hx.duly hx.staffed may
    have hnone : x.forwarder.uncounted = [] := by
      unfold ForwarderMayLeave at may
      split at may <;> simp_all [Forwarder.uncounted]
    exact h.moves hsilent ⟨rfl, rfl⟩ rfl (by rw [hnone]; rfl) (fun _ => ⟨hclosed, fun _ => rfl⟩)
      (fun hrunning => absurd hrunning Bool.false_ne_true) fun hopen => absurd hclosed (ne_true_of_eq_false hopen)

/-- A chore of the end keeps all datagrams in the ledger. -/
theorem Ledger.discharge {error : Option Text} {chore : Chore} {left : List Chore}
    (hpending : x.closing = some ⟨error, chore :: left⟩) :
    Ledger (acts ++ [.turns]) (x.discharge error left chore) := by
  have hsilent : Silent .turns := ⟨rfl, rfl, rfl, rfl⟩
  cases chore with
  | flag =>
    exact h.moves hsilent ⟨rfl, rfl⟩ rfl rfl (fun _ => ⟨rfl, id⟩) h.ahead
      fun hopen => absurd hopen.symm Bool.false_ne_true
  | inbound =>
    have hdone : (x.discharge error left .inbound).owes .inbound = false :=
      decide_eq_false (hx.duly.not_mem_left hpending)
    have hclosed := (hx.duly.discharge hpending).closed_of_owes hdone
    exact h.silent hsilent rfl rfl rfl rfl List.prefix_rfl
      fun hopen => absurd hclosed (ne_true_of_eq_false hopen)
  | meter =>
    exact h.moves hsilent ⟨rfl, rfl⟩ rfl rfl (fun hclosed => ⟨hclosed, id⟩) h.ahead
      fun hopen hworks => ⟨⟨hopen, hworks⟩, rfl⟩
  | outbound | error | latch =>
    exact h.silent hsilent rfl rfl rfl rfl List.prefix_rfl fun _ => rfl

/-- Whoever takes a turn, all datagrams are in the ledger. -/
theorem Ledger.turn (ht : Turn x act y) : Ledger (acts ++ [act]) y := by
  cases ht with
  | starter turn => exact h.starterTurn hx turn
  | receiver turn => exact h.receiverTurn hx turn
  | forwarder turn => exact h.forwarderTurn hx turn
  | call turn =>
    cases turn <;> exact h.silent ⟨rfl, rfl, rfl, rfl⟩ rfl rfl rfl rfl List.prefix_rfl fun _ => rfl
  | chore pending => exact h.discharge hx pending

end Turns

/-! ### Any run -/

/-- A datagram arrives behind all others. -/
theorem Ledger.arrive (h : Ledger acts x) (hx : InOrder x) (datagram : Bytes) :
    Ledger (acts ++ [.arrives datagram]) (x.arrive datagram) := by
  have hsent : Act.sent (acts ++ [.arrives datagram]) = Act.sent acts := by
    simp [Act.sent_concat, Act.sent?]
  have harrived : (Act.arrived (acts ++ [.arrives datagram])).map readable =
      (Act.arrived acts).map readable ++ [readable datagram] := by
    simp [Act.arrived_concat, Act.arrived?]
  have hcounted : Act.counted (acts ++ [.arrives datagram]) = Act.counted acts := by
    simp [Act.counted_concat, Act.counted?]
  have hmissed : Act.missed (acts ++ [.arrives datagram]) = Act.missed acts := by
    simp [Act.missed_concat, Act.missed?]
  have hsame : (x.arrive datagram).relay.meter = x.relay.meter ∧
      (x.arrive datagram).relay.unheard = x.relay.unheard ∧
      (x.arrive datagram).relay.closed = x.relay.closed ∧
      (x.arrive datagram).forwarder = x.forwarder ∧ (x.arrive datagram).ahead = x.ahead := by
    unfold Works.arrive
    split <;> exact ⟨rfl, rfl, rfl, rfl, rfl⟩
  obtain ⟨hmeter, hunheard, hclosed, hforwarder, hahead⟩ := hsame
  refine {
    beginning := ?beginning
    ahead := fun hrunning => ?ahead
    whole := fun hopen hworks => ?whole
    counted := ?counted
    total := ?total
    samples := ?samples
    missed := fun hne => ?missed
    received := ?received
    heard := fun hheard => ?heard }
  case beginning =>
    rw [hsent, harrived]
    exact h.beginning.trans (List.prefix_append ..)
  case ahead =>
    rw [hsent, harrived, hahead]
    exact (h.ahead (hforwarder ▸ hrunning)).trans (List.prefix_append ..)
  case whole =>
    -- An open relay still has its socket, so what arrives waits there behind all the rest.
    rw [hclosed] at hopen
    have howes : x.owes .inbound = true := by
      by_contra hdone
      exact absurd (hx.duly.closed_of_owes (Bool.eq_false_iff.mpr hdone)) (ne_true_of_eq_false hopen)
    have hcontents : (x.arrive datagram).contents = x.contents ++ [readable datagram] := by
      simp [Works.arrive, holdsInbound, howes, contents, readable]
    rw [hsent, harrived, hcontents, ← List.append_assoc,
      h.whole hopen fun e he => hworks e (hforwarder.trans he)]
  case counted =>
    rw [hsent, hcounted, hmissed, hforwarder]
    exact h.counted
  case total =>
    rw [hcounted, hmeter, h.total]
  case samples =>
    rw [hcounted, hmeter, h.samples]
  case missed =>
    rw [hmissed] at hne ⊢
    rw [hclosed, hforwarder]
    exact h.missed hne
  case received =>
    rw [hsent]
    exact h.received
  case heard =>
    rw [hsent]
    exact h.heard (hunheard ▸ hheard)

/-- Whatever happens, all datagrams are in the ledger. -/
theorem Ledger.step (h : Ledger acts x) (hx : InOrder x) (hs : Step x act y) :
    Ledger (acts ++ [act]) y := by
  have hsilent : Silent .turns := ⟨rfl, rfl, rfl, rfl⟩
  cases hs with
  | starts =>
    unfold Works.start
    split <;> exact h.silent ⟨rfl, rfl, rfl, rfl⟩ rfl rfl rfl rfl List.prefix_rfl fun _ => rfl
  | arrives datagram => exact h.arrive hx datagram
  | closes | watched | elsewhere =>
    exact h.silent ⟨rfl, rfl, rfl, rfl⟩ rfl rfl rfl rfl List.prefix_rfl fun _ => rfl
  | turn ht => exact h.turn hx ht
  | inboundFails error listening =>
    refine h.silent ⟨rfl, rfl, rfl, rfl⟩ rfl rfl rfl rfl ?_ fun _ => ?_
    · simp [Works.ahead, listening, Receiver.passed]
    · simp [contents, listening, Receiver.hand]
  | outboundFails error sending => exact h.fails sending error

/-- All datagrams that have arrived are in the ledger at any time. -/
theorem ledger_run {text : Text} {s s' : Site} (h : Opened text r s s')
    (hrun : Run Step (opened r s' s.host) acts x) : Ledger acts x := by
  induction hrun with
  | here =>
    rw [h.made]
    exact ledger_opened ..
  | next hrun hlast ih => exact ih.step (sane_run h hrun).order hlast

/-! ## When nothing more is sent -/

/-- A relay is marked as started by a call of `start`, and by nothing else. -/
theorem Step.started (h : Step x act y) :
    y.relay.started = true ↔ x.relay.started = true ∨ act = .starts := by
  cases h with
  | starts =>
    unfold Works.start
    split <;> simp [*]
  | arrives =>
    unfold Works.arrive
    split <;> simp
  | closes | watched | elsewhere | inboundFails | outboundFails => simp [close]
  | turn ht =>
    cases ht with
    | starter turn => cases turn <;> simp [dry]
    | receiver turn => cases turn <;> simp [beginEnd, receiverLeaves, dry]
    | forwarder turn => cases turn <;> simp [beginEnd, forwarderLeaves]
    | call turn => cases turn <;> simp [beginEnd]
    | @chore error chore => cases chore <;> simp [Works.discharge, dry]

/-- A relay has been started exactly if somebody has called for that. -/
theorem started_iff (hunstarted : x.relay.started = false) (h : Run Step x acts y) :
    y.relay.started = true ↔ .starts ∈ acts := by
  induction h with
  | here => simp [hunstarted]
  | next _ hlast ih => rw [hlast.started, ih, List.mem_append, List.mem_singleton, eq_comm]

/-- A relay is **spent** when its forwarder has begun and comes to no datagram any more. -/
structure Spent (x : Works) : Prop where
  started : x.relay.started = true
  starter : x.starter = .away
  forwarder : x.forwarder = .away ∨ ∃ error, x.forwarder = .failing error

/-- A relay that is spent stays so, and neither sends nor counts. -/
theorem Spent.step (h : Spent x) (hs : Step x act y) :
    Spent y ∧ act.sent? = none ∧ act.counted? = none := by
  have hstarted : y.relay.started = true := hs.started.mpr (.inl h.started)
  have hdone {f : Forwarder} (hf : x.forwarder = f) : f = .away ∨ ∃ error, f = .failing error := hf ▸ h.forwarder
  cases hs with
  | starts =>
    rw [Works.start, if_pos h.started]
    exact ⟨h, rfl, rfl⟩
  | arrives =>
    unfold Works.arrive at hstarted ⊢
    split <;> exact ⟨⟨h.started, h.starter, h.forwarder⟩, rfl, rfl⟩
  | closes | watched | elsewhere | inboundFails =>
    exact ⟨⟨hstarted, h.starter, h.forwarder⟩, rfl, rfl⟩
  | outboundFails error sending => simpa using hdone sending
  | turn ht =>
    cases ht with
    | starter turn =>
      have haway := h.starter
      cases turn with
      | first looked | second looked | employ looked | giveUp looked =>
        cases haway.symm.trans looked
    | receiver turn => cases turn <;> exact ⟨⟨hstarted, h.starter, h.forwarder⟩, rfl, rfl⟩
    | forwarder turn =>
      cases turn with
      | ends => exact ⟨⟨hstarted, h.starter, h.forwarder⟩, rfl, rfl⟩
      | leaves => exact ⟨⟨hstarted, h.starter, .inl rfl⟩, rfl, rfl⟩
      | take doing | look doing | send doing | refused doing | count doing | miss doing | add doing =>
        simpa using hdone doing
    | call turn => cases turn <;> exact ⟨⟨hstarted, h.starter, h.forwarder⟩, rfl, rfl⟩
    | @chore error chore =>
      refine ⟨⟨hstarted, ?_, ?_⟩, rfl, rfl⟩
      · cases chore <;> exact h.starter
      · cases chore <;> exact h.forwarder

/-- A relay that is spent stays so for good, and neither sends nor counts. -/
theorem Spent.run (h : Spent x) (hrun : Run Step x acts y) :
    Spent y ∧ Act.sent acts = [] ∧ Act.counted acts = [] := by
  induction hrun with
  | here => exact ⟨h, rfl, rfl⟩
  | next _ hlast ih =>
    obtain ⟨hspent, hsent, hcounted⟩ := ih
    obtain ⟨hspent', hnone, hnone'⟩ := hspent.step hlast
    rw [Act.sent_concat, Act.counted_concat, hsent, hcounted, hnone, hnone']
    exact ⟨hspent', rfl, rfl⟩

/-- The forwarder fails with a datagram in hand. -/
theorem Step.sending_of_fails {error : Text} (h : Step x (.fails .forwarder error) y) :
    (∃ datagram, x.forwarder = .sending datagram) ∧ y.relay = x.relay ∧ y.starter = x.starter ∧
      y.forwarder = .failing error := by
  cases h with
  | outboundFails _ sending => exact ⟨⟨_, sending⟩, rfl, rfl, rfl⟩
  | turn ht =>
    cases ht with
    | forwarder turn => cases turn with | refused sending => exact ⟨⟨_, sending⟩, rfl, rfl, rfl⟩
    | receiver turn => cases turn
    | call turn => cases turn

/-- A forwarder whose send **has failed** comes to no datagram any more. -/
theorem spent_run (hx : InOrder x) (hrun : Run Step x acts y) {error : Text}
    (hfails : .fails .forwarder error ∈ acts) : Spent y := by
  induction hrun with
  | here => cases hfails
  | next hrun hlast ih =>
    rcases List.mem_append.mp hfails with hbefore | hnow
    · exact ((ih hbefore).step hlast).1
    · obtain rfl := List.mem_singleton.mp hnow
      obtain ⟨⟨datagram, hsending⟩, hrelay, hstarter, hforwarder⟩ := hlast.sending_of_fails
      obtain ⟨hstarted, haway⟩ := (hx.run hrun).staffed.employed (.inr (by simp [hsending]))
      exact ⟨hrelay ▸ hstarted, hstarter.trans haway, .inr ⟨_, hforwarder⟩⟩

/-! ## When nothing is missed -/

/-- Nobody but the forwarder is at the end of the relay while the forwarder has a datagram that is
to be sent or counted. -/
def Patient (x : Works) : Prop :=
  (x.calls ≠ [] ∨ ∃ error, x.receiver = .failing error) →
    x.forwarder.hand = [] ∧ x.forwarder.uncounted = []

/-- Something happens, and everybody is patient. -/
def Patiently (x : Works) (act : Act) (y : Works) : Prop := Step x act y ∧ y.Patient

/-- The forwarder is let send nothing, and has nothing to count, once the end has begun. -/
def Served (x : Works) : Prop :=
  x.closing ≠ none → x.forwarder.isHeld = true ∨ ∃ error, x.forwarder = .failing error

/-- A forwarder with nothing in hand and nothing to count is served. -/
theorem served_of_idle (hhand : x.forwarder.hand = []) (huncounted : x.forwarder.uncounted = []) :
    x.forwarder.isHeld = true ∨ ∃ error, x.forwarder = .failing error := by
  cases hf : x.forwarder <;> simp_all [Forwarder.hand, Forwarder.uncounted, Forwarder.isHeld]

/-- A forwarder is let send something only while the relay is open. -/
theorem Step.isHeld (h : Step x act y) (hclosed : y.relay.closed = true)
    (hheld : x.forwarder.isHeld = true ∨ ∃ error, x.forwarder = .failing error) :
    y.forwarder.isHeld = true ∨ ∃ error, y.forwarder = .failing error := by
  have hidle {f : Forwarder} (hf : x.forwarder = f) : f.isHeld = true ∨ ∃ error, f = .failing error :=
    hf ▸ hheld
  cases h with
  | starts =>
    unfold Works.start
    split <;> exact hheld
  | arrives =>
    unfold Works.arrive
    split <;> exact hheld
  | closes | watched | elsewhere | inboundFails => exact hheld
  | outboundFails error => exact .inr ⟨error, rfl⟩
  | turn ht =>
    cases ht with
    | starter turn =>
      cases turn with
      | employ => exact .inl rfl
      | _ => exact hheld
    | receiver turn => cases turn <;> exact hheld
    | forwarder turn =>
      cases turn with
      | look _ isOpen => exact absurd hclosed (ne_true_of_eq_false isOpen)
      | count counting => simpa [Forwarder.isHeld] using hidle counting
      | send sending => simpa [Forwarder.isHeld] using hidle sending
      | refused => exact .inr ⟨_, rfl⟩
      | ends => exact hheld
      | _ => exact .inl rfl
    | call turn => cases turn <;> exact hheld
    | @chore error chore => cases chore <;> exact hheld

/-- A relay whose callers are patient stays served. -/
theorem Served.step (h : Served x) (hy : InOrder y) (hs : Step x act y) (hpatient : y.Patient) :
    Served y := by
  intro hbegun
  cases hover : y.isOver with
  | false =>
    -- Somebody is at the end: the forwarder itself, or somebody who is patient.
    rcases hy.duly.ender (Option.isSome_iff_ne_none.mpr hbegun) hover with hcall | hreceiver | hforwarder
    · obtain ⟨hhand, huncounted⟩ := hpatient (.inl (List.ne_nil_of_mem hcall))
      exact served_of_idle hhand huncounted
    · obtain ⟨hhand, huncounted⟩ := hpatient (.inr hreceiver)
      exact served_of_idle hhand huncounted
    · exact .inr hforwarder
  | true =>
    refine hs.isHeld (hy.duly.closed_of_isOver hover) (h fun hfresh => ?_)
    cases hs.affects with
    | quiet _ _ closing | watched _ _ closing => exact hbegun (closing.trans hfresh)
    | begins _ _ y_eq =>
      rw [y_eq] at hover
      cases hover
    | chore _ pending => cases hfresh.symm.trans pending

/-- What is missed was sent before, and the end has stopped the meter since. -/
theorem Step.missed (h : Step x act y) : act.missed? = none ∨
    (∃ datagram, x.forwarder = .counting datagram) ∧ x.relay.meter.stopped = true := by
  cases h with
  | turn ht =>
    cases ht with
    | forwarder turn =>
      cases turn with
      | miss counting stopped => exact .inr ⟨⟨_, counting⟩, stopped⟩
      | _ => exact .inl rfl
    | receiver turn => cases turn <;> exact .inl rfl
    | call turn => cases turn <;> exact .inl rfl
    | _ => exact .inl rfl
  | _ => exact .inl rfl

/-- Where everybody is patient, nothing is missed. -/
theorem Served.run (h : Served x) (hx : InOrder x) (hrun : Run Patiently x acts y) :
    Served y ∧ InOrder y ∧ Act.missed acts = [] := by
  induction hrun with
  | here => exact ⟨h, hx, rfl⟩
  | @next y _ _ _ _ hlast ih =>
    obtain ⟨hserved, hbefore, hmissed⟩ := ih
    obtain ⟨hstep, hpatient⟩ := hlast
    have hafter := hbefore.step hstep
    refine ⟨hserved.step hafter hstep hpatient, hafter, ?_⟩
    rw [Act.missed_concat, hmissed]
    rcases hstep.missed with hnone | ⟨⟨datagram, hcounting⟩, hstopped⟩
    · rw [hnone]
      rfl
    · have hdone := hbefore.duly.meter.symm.trans hstopped
      have hbegun : y.closing ≠ none := fun hfresh => by simp [owes_of_fresh hfresh] at hdone
      simpa [hcounting, Forwarder.isHeld] using hserved hbegun

/-! ## One thing after another -/

/-- Something is done **in its turn**: a thread goes on, or all of them have come to rest and
anything else happens, but that the receiver's socket fails. -/
inductive InTurn (x : Works) (act : Act) (y : Works) : Prop where
  | turn (turn : Turn x act y)
  | rest (rest : x.AtRest) (step : Step x act y) (sound : ∀ error, act ≠ .fails .receiver error)

theorem InTurn.step (h : InTurn x act y) : Step x act y := by
  cases h with
  | turn turn => exact .turn turn
  | rest _ step _ => exact step

/-- A relay is calm at rest, whatever becomes of its latch and of the sockets of others. -/
theorem AtRest.calm_beside (h : x.AtRest) (hx : InOrder x) (latch : Latch) (observers : Observers)
    (others : Host) :
    Calm { x with relay := { x.relay with latch := latch }, observers := observers, others := others } := by
  obtain ⟨hreceiver, halone, -, hstill⟩ := h.calm hx
  exact ⟨hreceiver, halone, fun _ => .inl h.starter, hstill⟩

/-- A relay stays calm where everything is done in its turn. -/
theorem InTurn.calm (h : InTurn x act y) (hx : InOrder x) (hcalm : Calm x)
    (hunzoned : x.relay.inbound.unzoned = x.relay.inbound) : Calm y := by
  cases h with
  | turn turn => exact (turn.settles hx hcalm hunzoned).calm
  | rest hrest hstep hsound =>
    cases hstep with
    | starts => exact (hrest.prepares_start hx).calm
    | arrives datagram => exact (hrest.prepares_arrive hx datagram).calm
    | closes => exact (hrest.prepares_close hx hunzoned).calm
    | @watched _ latch observers => exact hrest.calm_beside hx latch observers x.others
    | @elsewhere others => exact hrest.calm_beside hx x.relay.latch x.observers others
    | turn turn => exact absurd turn (hrest _ _)
    | inboundFails error => exact absurd rfl (hsound error)
    | outboundFails error sending =>
      rcases hrest.forwarder with hf | ⟨hf, -⟩
      · cases hf.symm.trans sending
      · cases hf.symm.trans sending

/-- Whoever closes a calm relay is patient. -/
theorem Calm.patient (h : Calm x) : x.Patient := by
  rintro (hcalls | ⟨error, hfailing⟩)
  · have hending : x.verdict ≠ none := fun hnone => hcalls (verdict_eq_none_iff.mp hnone).2.2
    rcases h.still hending with hf | ⟨error, hf⟩ | ⟨hf, -⟩
    all_goals
      rw [hf]
      exact ⟨rfl, rfl⟩
  · exact absurd hfailing (h.receiver error)

/-- Where everything is done in its turn, everybody is patient. -/
theorem patiently_of_inTurn (hx : InOrder x) (hcalm : Calm x)
    (hunzoned : x.relay.inbound.unzoned = x.relay.inbound) (hrun : Run InTurn x acts y) :
    Run Patiently x acts y ∧ InOrder y ∧ Calm y ∧ y.relay.inbound = x.relay.inbound := by
  induction hrun with
  | here => exact ⟨.here _, hx, hcalm, rfl⟩
  | next _ hlast ih =>
    obtain ⟨hpatiently, hbefore, hcalm', hinbound⟩ := ih
    have hafter := hlast.calm hbefore hcalm' (hinbound ▸ hunzoned)
    exact ⟨.next hpatiently ⟨hlast.step, hafter.patient⟩, hbefore.step hlast.step, hafter,
      hlast.step.addresses.1.trans hinbound⟩

/-! ## What is forwarded -/

/-- What a relay that was as `first` when it was made has done with the datagrams that have arrived,
**whatever has happened**. -/
structure Forwards (first : Works) (acts : List Act) (x : Works) : Prop where
  /-- What it has sent is the beginning of what has arrived. -/
  beginning : (Act.sent acts).map Delivery.datagram <+: Act.arrived acts
  /-- What it has counted is what it has sent, a last datagram perhaps apart, which it has missed or
  is still to count. -/
  counted : (Act.sent acts).map Delivery.datagram =
    Act.counted acts ++ Act.missed acts ++ x.forwarder.uncounted
  late : (Act.missed acts ++ x.forwarder.uncounted).length ≤ 1
  counts : x.AtRest → x.forwarder.uncounted = []
  /-- It misses one only if the end has stopped the meter meanwhile, -/
  missed : Act.missed acts ≠ [] → x.relay.closed = true
  /-- and none where everybody waits to close it until it has counted what it has sent. -/
  patient : Run Patiently first acts x → Act.missed acts = []
  /-- So where one thing is done after another, it has counted just what it has sent. -/
  inTurn : Run InTurn first acts x → x.AtRest →
    (Act.sent acts).map Delivery.datagram = Act.counted acts
  total : x.relay.meter.total.toNat = octets (Act.counted acts) % UInt64.size
  samples : x.relay.meter.samples.toNat = (Act.counted acts).length % UInt64.size
  /-- Nothing was lost, the last one perhaps apart. -/
  received : ∀ d ∈ (Act.sent acts).dropLast, d.received = true
  /-- After a send has failed it sends nothing and counts nothing. -/
  failed : ∀ error, .fails .forwarder error ∈ acts → ∀ later y, Run Step x later y →
    Act.sent later = [] ∧ Act.counted later = []
  /-- Nor does it when it is over, -/
  silent : Over x → ∀ later y, Run Step x later y →
    Act.sent later = [] ∧ Act.counted later = [] ∧ Act.missed later = []
  /-- which it is when a call has returned that was made alone, -/
  returns : x.calls = [] → x.starter = .away → ∀ later y z, Run Alone x.close later y →
    Step y .returns z → Over z
  /-- and when somebody has called, or a socket has failed, and the threads have come to rest. -/
  rests : x.AtRest → (.closes ∈ acts ∨ ∃ party error, .fails party error ∈ acts) → Over x
  /-- Until its end it sends and counts all, once it is started and its threads have done what they
  can. -/
  whole : Act.endings acts = [] → .starts ∈ acts → x.AtRest →
    (Act.sent acts).map Delivery.datagram = Act.arrived acts ∧ Act.counted acts = Act.arrived acts
  /-- They soon have: there are only so many turns in a row. -/
  settles : ∀ turns y, Run Turn x turns y → turns.length ≤ x.weight
  /-- At rest it is as the relay without its threads, and sends what that sends. -/
  agrees : x.AtRest → Agrees x

/-- At rest nothing is still to be counted. -/
theorem AtRest.uncounted (h : x.AtRest) : x.forwarder.uncounted = [] := by
  rcases h.forwarder with hf | ⟨hf, -⟩ <;> rw [hf] <;> rfl

/-- What is missed is the last that is sent. -/
theorem Ledger.late (h : Ledger acts x) : (Act.missed acts ++ x.forwarder.uncounted).length ≤ 1 := by
  by_cases hnone : Act.missed acts = []
  · rw [hnone]
    cases x.forwarder <;> simp [Forwarder.uncounted]
  · obtain ⟨hone, -, hheld⟩ := h.missed hnone
    have hidle : x.forwarder.uncounted = [] := by
      cases hf : x.forwarder <;> simp_all [Forwarder.uncounted, Forwarder.isHeld]
    rw [hidle, List.append_nil, hone]

/-- Whoever closes a relay that has sent a datagram and not counted it may be **before the count**:
the datagram is missed then. -/
theorem exists_missed {datagram : Bytes} (hcounting : x.forwarder = .counting datagram)
    (hfresh : x.closing = none) :
    ∃ y, Run Step x [.closes, .ends none, .turns, .turns, .turns, .turns, .turns, .misses datagram] y := by
  have hcall : Call.ending ∈ x.close.calls := by simp [close]
  exact ⟨_, .cons .closes <| .cons (.turn (.call (.ends hcall hfresh))) <|
    .cons (.turn (.chore rfl)) <| .cons (.turn (.chore rfl)) <| .cons (.turn (.chore rfl)) <|
    .cons (.turn (.chore rfl)) <| .cons (.turn (.chore rfl)) <|
    .single (.turn (.forwarder (.miss hcounting rfl)))⟩

/-! ## What is cut off -/

/-- What the target has received from the relay had **arrived** there just so. -/
def Unaltered (acts : List Act) : Prop :=
  ∀ d ∈ Act.sent acts, d.received = true → d.datagram ∈ Act.arrived acts

/-- The datagram that is sent in some place is what is readable of the one that arrived there. -/
theorem exists_arrived {text : Text} {s s' : Site} (h : Opened text r s s')
    (hrun : Run Step (opened r s' s.host) acts x) {k : Nat} {d : Delivery}
    (hd : (Act.sent acts)[k]? = some d) :
    ∃ datagram, (Act.arrived acts)[k]? = some datagram ∧ d.datagram = readable datagram := by
  obtain ⟨hk, rfl⟩ := List.getElem?_eq_some_iff.mp hd
  have harrived := List.prefix_iff_getElem?.mp (ledger_run h hrun).beginning k (by simpa using hk)
  simpa [eq_comm] using harrived

/-- A relay **alters** a datagram exactly if it is longer than what is read of it, unless what is
left of it has arrived on its own. -/
theorem unaltered_iff {inbound target : Text} {s s' : Site}
    (h : tryOpen inbound target s = (.ok r, s')) (hrun : Run Step (opened r s' s.host) acts x) :
    Unaltered acts ↔
      ∀ (k : Nat) (d : Delivery) (datagram : Bytes), (Act.sent acts)[k]? = some d →
        d.received = true → (Act.arrived acts)[k]? = some datagram →
        datagram.length ≤ largestDatagram ∨ readable datagram ∈ Act.arrived acts := by
  constructor
  · intro hunaltered k d datagram hd hreceived hdatagram
    obtain ⟨datagram', hdatagram', hcut⟩ := exists_arrived (tryOpen_ok h) hrun hd
    obtain rfl := Option.some.inj (hdatagram.symm.trans hdatagram')
    exact .inr (hcut ▸ hunaltered d (List.mem_of_getElem? hd) hreceived)
  · intro hshort d hd hreceived
    obtain ⟨k, hk⟩ := List.mem_iff_getElem?.mp hd
    obtain ⟨datagram, hdatagram, hcut⟩ := exists_arrived (tryOpen_ok h) hrun hk
    rw [hcut]
    rcases hshort k d datagram hk hreceived hdatagram with hfits | hmem
    · rw [readable_eq_self_iff.mpr hfits]
      exact List.mem_of_getElem? hdatagram
    · exact hmem

/-- Somebody listens at the target, one datagram arrives, and the target receives what was read of
it. -/
def heardActs (datagram : Bytes) : List Act :=
  [.elsewhere ⟨[⟨.v4 127 0 0 1, 22500, 0⟩], [], .loopback⟩, .starts, .turns, .turns, .turns, .arrives datagram,
    .turns, .turns, .turns, .turns, .turns, .sends ⟨readable datagram, true⟩]

theorem heard_run (datagram : Bytes) :
    ∃ x, Run Step (opened strandedRelay strandedSite .idle) (heardActs datagram) x :=
  ⟨_, .cons (.elsewhere rfl fun _ => by decide) <| .cons .starts <|
    .cons (.turn (.starter (.first rfl))) <| .cons (.turn (.starter (.second rfl))) <|
    .cons (.turn (.starter (.employ rfl))) <| .cons (.arrives _) <|
    .cons (.turn (.receiver (.read rfl rfl))) <| .cons (.turn (.receiver (.look rfl rfl))) <|
    .cons (.turn (.receiver (.pass rfl (Nat.zero_lt_succ 127) nofun))) <|
    .cons (.turn (.forwarder (.take rfl rfl))) <| .cons (.turn (.forwarder (.look rfl rfl))) <|
    .single (.turn (.forwarder (.send rfl rfl)))⟩

/-- A datagram of one octet more than is read. -/
def longDatagram : Bytes := List.replicate 4097 120

theorem length_longDatagram : longDatagram.length = 4097 := List.length_replicate

theorem readable_longDatagram_ne : readable longDatagram ≠ longDatagram := by
  rw [ne_eq, readable_eq_self_iff, length_longDatagram]
  decide

theorem unaltered_iff_long :
    ∃ x, tryOpen "127.0.0.1:21500".toList "127.0.0.1:22500".toList ⟨.idle, ⟨[0], []⟩⟩ =
        (.ok strandedRelay, strandedSite) ∧
      Run Step (opened strandedRelay strandedSite .idle) (heardActs longDatagram) x ∧
      (Unaltered (heardActs longDatagram) ↔
        ∀ (k : Nat) (d : Delivery) (datagram : Bytes),
          (Act.sent (heardActs longDatagram))[k]? = some d → d.received = true →
          (Act.arrived (heardActs longDatagram))[k]? = some datagram →
          datagram.length ≤ largestDatagram ∨
            readable datagram ∈ Act.arrived (heardActs longDatagram)) := by
  obtain ⟨x, hrun⟩ := heard_run longDatagram
  exact ⟨x, tryOpen_stranded, hrun, unaltered_iff tryOpen_stranded hrun⟩

/-- A datagram that fits UDP is delivered cut short. -/
theorem alters_long_datagram :
    ¬∀ acts x, Run Step (opened strandedRelay strandedSite .idle) acts x →
      (∀ datagram ∈ Act.arrived acts, datagram.length ≤ 65507) → Unaltered acts := by
  intro hunaltered
  obtain ⟨x, hrun⟩ := heard_run longDatagram
  have harrived : Act.arrived (heardActs longDatagram) = [longDatagram] := rfl
  have hfits : ∀ datagram ∈ Act.arrived (heardActs longDatagram), datagram.length ≤ 65507 := by
    rw [harrived, List.forall_mem_singleton, length_longDatagram]
    decide
  have hmem := hunaltered _ x hrun hfits ⟨readable longDatagram, true⟩ List.mem_cons_self rfl
  rw [harrived, List.mem_singleton] at hmem
  exact readable_longDatagram_ne hmem

end Works
end MediaProxy.Relay
