import Mathlib.Logic.Basic
import MediaProxy.Proofs.Relay.Staffing

/-!
# Coming to rest

Left to themselves the threads of a relay come to rest: every turn takes off some of what is to be
done (`Turn.weight_lt`). At rest no call is under way, and the end has not begun or is over. A relay
that is open has sent all that has arrived, and one whose end has begun has no workers any more and
holds nothing (`AtRest.of_open`, `AtRest.over`).

Once the end is over and nobody holds a socket, that is so for good, whoever calls: nothing is sent
any more and nothing counted (`Over.stays`).
-/

namespace MediaProxy.Relay

/-! ## What is to be done -/

/-- How many turns there are left at most with what a receiver has in hand, and with itself. -/
def Receiver.weight : Receiver → Nat
  | .away => 0
  | .listening | .failing _ => 1
  | .heard _ => 8
  | .passing _ => 7

def Forwarder.weight : Forwarder → Nat
  | .away => 0
  | .taking | .failing _ => 1
  | .looking _ => 5
  | .sending _ => 4
  | .counting _ => 3
  | .adding _ => 2

/-- The last turn of a start gives two workers one turn each. -/
def Starter.weight : Starter → Nat
  | .away => 0
  | .begun => 5
  | .first _ => 4
  | .second .. => 3

def Call.weight : Call → Nat
  | .ending => 5
  | .taking => 4
  | .joining .receiver => 3
  | .joining .forwarder => 2
  | .returning => 1

@[simp] theorem Receiver.weight_away : Receiver.away.weight = 0 := rfl

@[simp] theorem Forwarder.weight_away : Forwarder.away.weight = 0 := rfl

theorem Receiver.weight_pos {r : Receiver} (h : r ≠ .away) : 0 < r.weight := by
  cases r <;> first | exact absurd rfl h | decide | exact Nat.succ_pos _

theorem Forwarder.weight_pos {f : Forwarder} (h : f ≠ .away) : 0 < f.weight := by
  cases f <;> first | exact absurd rfl h | decide | exact Nat.succ_pos _

namespace Works

variable {x y : Works} {act : Act}

/-- How many turns the end takes. -/
def endWeight (x : Works) : Nat :=
  match x.closing with
  | none => 7
  | some closing => closing.pending.length

/-- How many turns some calls take together. -/
def callsWeight : List Call → Nat
  | [] => 0
  | call :: rest => call.weight + callsWeight rest

theorem callsWeight_append (before after : List Call) :
    callsWeight (before ++ after) = callsWeight before + callsWeight after := by
  induction before with
  | nil => simp [callsWeight]
  | cons call rest ih => rw [List.cons_append, callsWeight, callsWeight, ih, Nat.add_assoc]

/-- How many turns there are left **at most**: a datagram at the inbound socket takes eight. -/
def weight (x : Works) : Nat :=
  8 * x.relay.waiting.length + x.receiver.weight + 5 * x.queue.length + x.forwarder.weight +
    x.starter.weight + callsWeight x.calls + x.endWeight

/-- What is lost with the inbound socket only makes less of what waits. -/
theorem length_waiting_dry_le (x : Works) :
    x.dry.relay.waiting.length ≤ x.relay.waiting.length := by
  cases hheld : x.holdsInbound <;> simp [dry, hheld]

/-- What is lost with the inbound socket takes turns off. -/
theorem weight_dry_le (x : Works) : x.dry.weight ≤ x.weight := by
  have := x.length_waiting_dry_le
  unfold weight
  show 8 * x.dry.relay.waiting.length + x.receiver.weight + 5 * x.queue.length + x.forwarder.weight +
    x.starter.weight + callsWeight x.calls + x.endWeight ≤ _
  omega

theorem endWeight_beginEnd (error : Option Text) : (x.beginEnd error).endWeight = 6 := rfl

/-- The end takes a turn off when it begins. -/
theorem weight_beginEnd (hfresh : x.closing = none) (error : Option Text) :
    (x.beginEnd error).weight < x.weight := by
  have hbefore : x.endWeight = 7 := by rw [endWeight, hfresh]
  have hafter := x.endWeight_beginEnd error
  simp only [weight, hbefore, hafter]
  simp only [beginEnd]
  omega

/-- Every turn of the start takes some of what is to be done off. -/
theorem StarterTurn.weight_lt (h : StarterTurn x y) : y.weight < x.weight := by
  cases h with
  | first begun | second looked =>
    simp only [weight, endWeight, Starter.weight, *]
    omega
  | employ looked =>
    simp only [weight, endWeight, Starter.weight, Receiver.weight, Forwarder.weight, looked]
    omega
  | giveUp looked =>
    refine Nat.lt_of_le_of_lt (weight_dry_le _) ?_
    simp only [weight, endWeight, Starter.weight, looked]
    omega

/-- Every turn of the receiver takes some of what is to be done off. -/
theorem ReceiverTurn.weight_lt (h : ReceiverTurn x act y) : y.weight < x.weight := by
  cases h with
  | read listening waiting =>
    simp only [weight, endWeight, Receiver.weight, listening, waiting, List.length_cons]
    omega
  | look heard =>
    simp only [weight, endWeight, Receiver.weight, heard]
    omega
  | pass passing =>
    simp only [weight, endWeight, Receiver.weight, passing, List.length_append, List.length_singleton]
    omega
  | ends _ fresh => exact weight_beginEnd fresh _
  | leaves may =>
    have hpos := Receiver.weight_pos (receiver_ne_away_of_mayLeave may)
    refine Nat.lt_of_le_of_lt (weight_dry_le _) ?_
    simp only [weight, endWeight, Receiver.weight_away]
    omega

/-- Every turn of the forwarder takes some of what is to be done off. -/
theorem ForwarderTurn.weight_lt (h : ForwarderTurn x act y) : y.weight < x.weight := by
  cases h with
  | take taking queue =>
    simp only [weight, endWeight, Forwarder.weight, taking, queue, List.length_cons]
    omega
  | look doing | send doing | refused doing | count doing | miss doing | add doing =>
    simp only [weight, endWeight, Forwarder.weight, doing]
    omega
  | ends _ fresh => exact weight_beginEnd fresh _
  | leaves may =>
    have hpos := Forwarder.weight_pos (forwarder_ne_away_of_mayLeave may)
    simp only [weight, endWeight, forwarderLeaves, Forwarder.weight_away, List.length_nil]
    omega

/-- Every turn of a call takes some of what is to be done off. -/
theorem CallTurn.weight_lt (h : CallTurn x act y) : y.weight < x.weight := by
  cases h with
  | ends _ fresh => exact weight_beginEnd fresh _
  | @next before after call call' calls next =>
    have hless : call'.weight < call.weight := by
      obtain ⟨rfl, rfl, -⟩ | ⟨rfl, -, rfl⟩ | ⟨rfl, -, rfl⟩ | ⟨rfl, -, rfl⟩ | ⟨rfl, -, rfl⟩ :=
        next_cases next <;> decide
    simp only [weight, endWeight, calls, callsWeight_append, callsWeight]
    omega
  | returns calls =>
    simp only [weight, endWeight, calls, callsWeight_append, callsWeight, Call.weight]
    omega

/-- Every chore of the end takes one turn off. -/
theorem weight_discharge {error : Option Text} {chore : Chore} {left : List Chore}
    (hpending : x.closing = some ⟨error, chore :: left⟩) :
    (x.discharge error left chore).weight < x.weight := by
  have hbefore : x.endWeight = left.length + 1 := by rw [endWeight, hpending]; rfl
  have hafter : { x with closing := some ⟨error, left⟩ }.endWeight = left.length := rfl
  have hmarked : { x with closing := some ⟨error, left⟩ }.weight < x.weight := by
    simp only [weight, hbefore, hafter]
    omega
  cases chore with
  | inbound => exact Nat.lt_of_le_of_lt (weight_dry_le _) hmarked
  | _ => exact hmarked

/-- Every turn takes off some of what is to be done. -/
theorem Turn.weight_lt (h : Turn x act y) : y.weight < x.weight := by
  cases h with
  | starter turn => exact turn.weight_lt
  | receiver turn => exact turn.weight_lt
  | forwarder turn => exact turn.weight_lt
  | call turn => exact turn.weight_lt
  | chore pending => exact weight_discharge pending

/-- There are only so many turns in a row. -/
theorem length_turns_le {turns : List Act} (h : Run Turn x turns y) :
    turns.length + y.weight ≤ x.weight := by
  induction h with
  | here => simp
  | next _ hlast ih =>
    have := hlast.weight_lt
    simp
    omega

/-- Left to themselves the threads come to rest. -/
theorem exists_atRest (x : Works) : ∃ turns y, Run Turn x turns y ∧ y.AtRest := by
  by_cases h : x.AtRest
  · exact ⟨[], x, .here x, h⟩
  · simp only [AtRest, not_forall, not_not] at h
    obtain ⟨act, y, hturn⟩ := h
    have := hturn.weight_lt
    obtain ⟨turns, z, hrun, hrest⟩ := exists_atRest y
    exact ⟨_, z, .cons hturn hrun, hrest⟩
termination_by x.weight

/-! ## At rest -/

namespace AtRest

/-- At rest no start is under way. -/
theorem starter (h : x.AtRest) : x.starter = .away := by
  cases hs : x.starter with
  | away => rfl
  | begun => exact absurd (.starter (.first hs)) (h _ _)
  | first inbound => exact absurd (.starter (.second hs)) (h _ _)
  | second inbound outbound =>
    cases hfound : inbound && outbound with
    | false => exact absurd (.starter (.giveUp hs hfound)) (h _ _)
    | true =>
      obtain ⟨rfl, rfl⟩ := Bool.and_eq_true_iff.mp hfound
      exact absurd (.starter (.employ hs)) (h _ _)

/-- At rest an end that has begun is over. -/
theorem isOver (h : x.AtRest) (hbegun : x.closing ≠ none) : x.isOver = true := by
  obtain ⟨⟨error, pending⟩, hclosing⟩ := Option.ne_none_iff_exists'.mp hbegun
  cases pending with
  | nil => simp [Works.isOver, hclosing]
  | cons chore left => exact absurd (.chore hclosing) (h _ _)

/-- At rest the forwarder has left, or waits at an empty queue for the receiver. -/
theorem forwarder (h : x.AtRest) :
    x.forwarder = .away ∨ x.forwarder = .taking ∧ x.queue = [] ∧ x.receiver ≠ .away := by
  -- At every stage but two there is a turn to be taken, whatever the rest of the state.
  cases hf : x.forwarder with
  | away => exact .inl rfl
  | taking =>
    cases hq : x.queue with
    | nil =>
      refine .inr ⟨rfl, rfl, fun haway => ?_⟩
      exact absurd (.forwarder (.leaves (by simpa [ForwarderMayLeave, hf] using ⟨hq, haway⟩))) (h _ _)
    | cons datagram rest => exact absurd (.forwarder (.take hf hq)) (h _ _)
  | looking datagram =>
    cases hclosed : x.relay.closed with
    | false => exact absurd (.forwarder (.look hf hclosed)) (h _ _)
    | true =>
      exact absurd (.forwarder (.leaves (by simpa [ForwarderMayLeave, hf] using hclosed))) (h _ _)
  | sending datagram =>
    cases hunheard : x.relay.unheard with
    | false => exact absurd (.forwarder (.send hf hunheard)) (h _ _)
    | true => exact absurd (.forwarder (.refused hf hunheard)) (h _ _)
  | counting datagram =>
    cases hstopped : x.relay.meter.stopped with
    | false => exact absurd (.forwarder (.count hf hstopped)) (h _ _)
    | true => exact absurd (.forwarder (.miss hf hstopped)) (h _ _)
  | adding datagram => exact absurd (.forwarder (.add hf)) (h _ _)
  | failing error =>
    by_cases hfresh : x.closing = none
    · exact absurd (.forwarder (.ends hf hfresh)) (h _ _)
    · have hover := h.isOver hfresh
      exact absurd (.forwarder (.leaves (by simpa [ForwarderMayLeave, hf] using hover))) (h _ _)

/-- At rest the receiver has left, or waits for a datagram at a relay that is open. -/
theorem receiver (h : x.AtRest) :
    x.receiver = .away ∨ x.receiver = .listening ∧ x.relay.waiting = [] ∧ x.relay.closed = false := by
  cases hr : x.receiver with
  | away => exact .inl rfl
  | listening =>
    cases hclosed : x.relay.closed with
    | true =>
      exact absurd (.receiver (.leaves (by simpa [ReceiverMayLeave, hr] using hclosed))) (h _ _)
    | false =>
      cases hw : x.relay.waiting with
      | nil => exact .inr ⟨rfl, rfl, rfl⟩
      | cons datagram rest => exact absurd (.receiver (.read hr hw)) (h _ _)
  | heard datagram =>
    cases hclosed : x.relay.closed with
    | false => exact absurd (.receiver (.look hr hclosed)) (h _ _)
    | true =>
      exact absurd (.receiver (.leaves (by simpa [ReceiverMayLeave, hr] using hclosed))) (h _ _)
  | passing datagram =>
    -- Only a full queue holds the receiver up, and at rest the queue is empty.
    rcases h.forwarder with haway | ⟨htaking, hqueue, -⟩
    · exact absurd (.receiver (.leaves (by simpa [ReceiverMayLeave, hr] using haway))) (h _ _)
    · have hroom : x.queue.length < queueCapacity := by rw [hqueue]; decide
      exact absurd (.receiver (.pass hr hroom (by simp [htaking]))) (h _ _)
  | failing error =>
    by_cases hfresh : x.closing = none
    · exact absurd (.receiver (.ends hr hfresh)) (h _ _)
    · have hover := h.isOver hfresh
      exact absurd (.receiver (.leaves (by simpa [ReceiverMayLeave, hr] using hover))) (h _ _)

/-- At rest no call is under way. -/
theorem calls (h : x.AtRest) (hx : InOrder x) : x.calls = [] := by
  cases hc : x.calls with
  | nil => rfl
  | cons call rest =>
    -- The first of the calls would have a turn: beyond the beginning of its end nobody is at work.
    have hcalls : x.calls = [] ++ call :: rest := hc
    have hgoesOn {call' : Call} (hnext : x.next? call = some call') : False :=
      h _ _ (.call (.next hcalls hnext))
    have hmem : call ∈ x.calls := by simp [hc]
    have hleft (hne : call ≠ .ending) : x.receiver = .away ∧ x.forwarder = .away := by
      have hclosed := hx.duly.closed_of_isOver (hx.duly.calls call hmem hne)
      have hreceiver : x.receiver = .away :=
        h.receiver.resolve_right fun hopen => absurd (hclosed.symm.trans hopen.2.2) nofun
      exact ⟨hreceiver, h.forwarder.resolve_right fun hstays => hstays.2.2 hreceiver⟩
    cases call with
    | ending =>
      by_cases hfresh : x.closing = none
      · exact absurd (.call (.ends hmem hfresh)) (h _ _)
      · exact (hgoesOn (if_pos (h.isOver hfresh))).elim
    | taking => exact (hgoesOn rfl).elim
    | joining party =>
      cases party with
      | receiver => exact (hgoesOn (if_pos (hleft nofun).1)).elim
      | forwarder => exact (hgoesOn (if_pos (hleft nofun).2)).elim
    | returning => exact absurd (.call (.returns hcalls)) (h _ _)

/-- An open relay at rest has nothing left to send, if it has been started. -/
theorem of_open (h : x.AtRest) (hx : InOrder x) (hopen : x.relay.closed = false)
    (hstarted : x.relay.started = true) :
    x.receiver = .listening ∧ x.forwarder = .taking ∧ x.queue = [] ∧ x.relay.waiting = [] := by
  obtain ⟨hreceiver, hforwarder⟩ := hx.staffed.atWork hopen hstarted h.starter
  obtain ⟨hlistening, hwaiting, -⟩ := h.receiver.resolve_left hreceiver
  obtain ⟨htaking, hqueue, -⟩ := h.forwarder.resolve_left hforwarder
  exact ⟨hlistening, htaking, hqueue, hwaiting⟩

end AtRest

/-! ## What is over for good -/

/-- A relay is **over** when its end is, and nobody holds a socket of it any more. -/
structure Over (x : Works) : Prop where
  isOver : x.isOver = true
  inbound : x.holdsInbound = false
  outbound : x.holdsOutbound = false

/-- Where the end is over and everybody has left nobody holds a socket. -/
theorem over_of_left (hover : x.isOver = true) (hstarter : x.starter = .away)
    (hreceiver : x.receiver = .away) (hforwarder : x.forwarder = .away) : Over x := by
  refine ⟨hover, ?_, ?_⟩
  · rw [holdsInbound, owes_of_isOver hover, hstarter, hreceiver]
    rfl
  · rw [holdsOutbound, owes_of_isOver hover, hstarter, hforwarder]
    rfl

/-- A relay at rest whose end has begun is over. -/
theorem AtRest.over (h : x.AtRest) (hx : InOrder x) (hbegun : x.closing ≠ none) : Over x := by
  have hover := h.isOver hbegun
  have hclosed := hx.duly.closed_of_isOver hover
  have hreceiver : x.receiver = .away :=
    h.receiver.resolve_right fun hopen => absurd (hclosed.symm.trans hopen.2.2) nofun
  have hforwarder : x.forwarder = .away := h.forwarder.resolve_right fun hstays => hstays.2.2 hreceiver
  exact over_of_left hover h.starter hreceiver hforwarder

namespace Over

/-- A relay that is over has no receiver. -/
theorem receiver (h : Over x) : x.receiver = .away :=
  Receiver.isAtWork_eq_false_iff.mp (Bool.or_eq_false_iff.mp h.inbound).2

/-- A relay that is over has no forwarder. -/
theorem forwarder (h : Over x) : x.forwarder = .away :=
  Forwarder.isAtWork_eq_false_iff.mp (Bool.or_eq_false_iff.mp h.outbound).2

/-- A relay that is over has no start that holds a socket. -/
theorem starter (h : Over x) : x.starter.hasInbound = false ∧ x.starter.hasOutbound = false :=
  ⟨(Bool.or_eq_false_iff.mp (Bool.or_eq_false_iff.mp h.inbound).1).2,
    (Bool.or_eq_false_iff.mp (Bool.or_eq_false_iff.mp h.outbound).1).2⟩

/-- A relay that is over has come to its end. -/
theorem begun (h : Over x) : x.closing ≠ none := fun hfresh =>
  absurd ((isOver_of_fresh hfresh).symm.trans h.isOver) nofun

/-- What changes nothing about the end, and begins no worker. -/
theorem congr (h : Over x) (hclosing : y.closing = x.closing)
    (hstarter : y.starter.hasInbound = false ∧ y.starter.hasOutbound = false)
    (hreceiver : y.receiver = x.receiver) (hforwarder : y.forwarder = x.forwarder) : Over y := by
  have hover : y.isOver = true := (isOver_congr hclosing).trans h.isOver
  refine ⟨hover, ?_, ?_⟩
  · rw [holdsInbound, owes_of_isOver hover, hstarter.1, hreceiver, h.receiver]
    rfl
  · rw [holdsOutbound, owes_of_isOver hover, hstarter.2, hforwarder, h.forwarder]
    rfl

end Over

/-- What a step leaves of a relay that is over: **all that there is to see of it**. -/
structure Stays (x : Works) (act : Act) (y : Works) : Prop where
  remains : Over y
  error : y.relay.error = x.relay.error
  meter : y.relay.meter = x.relay.meter
  sent : act.sent? = none
  counted : act.counted? = none
  missed : act.missed? = none

/-- A start that goes on after all leaves a relay that is over as it is. -/
theorem Over.starterTurn (h : Over x) (ht : StarterTurn x y) : Stays x .turns y := by
  cases ht with
  | first => exact ⟨h.congr rfl ⟨owes_of_isOver h.isOver _, rfl⟩ rfl rfl, rfl, rfl, rfl, rfl, rfl⟩
  | second looked =>
    have hnone := h.starter.1
    rw [looked] at hnone
    exact ⟨h.congr rfl ⟨hnone, owes_of_isOver h.isOver _⟩ rfl rfl, rfl, rfl, rfl, rfl, rfl⟩
  | employ looked =>
    have hnone := h.starter.1
    rw [looked] at hnone
    cases hnone
  | giveUp => exact ⟨h.congr rfl ⟨rfl, rfl⟩ rfl rfl, rfl, rfl, rfl, rfl, rfl⟩

/-- A call that goes on leaves a relay that is over as it is. -/
theorem Over.callTurn (h : Over x) (ht : CallTurn x act y) : Stays x act y := by
  cases ht with
  | ends _ fresh => exact absurd fresh h.begun
  | next | returns => exact ⟨h.congr rfl h.starter rfl rfl, rfl, rfl, rfl, rfl, rfl⟩

/-- It has no worker that could take a turn. -/
theorem Over.turn (h : Over x) (ht : Turn x act y) : Stays x act y := by
  cases ht with
  | starter turn => exact h.starterTurn turn
  | call turn => exact h.callTurn turn
  | receiver turn =>
    have haway := h.receiver
    cases turn with
    | leaves may => exact absurd haway (receiver_ne_away_of_mayLeave may)
    | read doing | look doing | pass doing | ends doing => exact absurd (haway.symm.trans doing) nofun
  | forwarder turn =>
    have haway := h.forwarder
    cases turn with
    | leaves may => exact absurd haway (forwarder_ne_away_of_mayLeave may)
    | take doing | look doing | send doing | refused doing | count doing | miss doing | add doing
    | ends doing => exact absurd (haway.symm.trans doing) nofun
  | chore pending =>
    have hover := h.isOver
    simp [Works.isOver, pending] at hover

/-- Whatever happens leaves a relay that is over as it is. -/
theorem Over.step (h : Over x) (hs : Step x act y) : Stays x act y := by
  cases hs with
  | starts =>
    unfold Works.start
    split
    · exact ⟨h, rfl, rfl, rfl, rfl, rfl⟩
    · exact ⟨h.congr rfl ⟨rfl, rfl⟩ rfl rfl, rfl, rfl, rfl, rfl, rfl⟩
  | arrives datagram =>
    rw [Works.arrive, if_neg (by rw [h.inbound]; exact nofun)]
    exact ⟨h, rfl, rfl, rfl, rfl, rfl⟩
  | closes | watched | elsewhere => exact ⟨h.congr rfl h.starter rfl rfl, rfl, rfl, rfl, rfl, rfl⟩
  | turn ht => exact h.turn ht
  | inboundFails error listening => exact absurd (h.receiver.symm.trans listening) nofun
  | outboundFails error sending => exact absurd (h.forwarder.symm.trans sending) nofun

/-- What is over **stays over**, with its error and its count, and sends nothing. -/
theorem Over.stays (h : Over x) {later : List Act} (hrun : Run Step x later y) :
    Over y ∧ y.relay.error = x.relay.error ∧ y.relay.meter = x.relay.meter ∧
      Act.sent later = [] ∧ Act.counted later = [] ∧ Act.missed later = [] := by
  induction hrun with
  | here => exact ⟨h, rfl, rfl, rfl, rfl, rfl⟩
  | next _ hlast ih =>
    obtain ⟨hover, herror, hmeter, hsent, hcounted, hmissed⟩ := ih
    have hstays := hover.step hlast
    rw [Act.sent_concat, Act.counted_concat, Act.missed_concat, hsent, hcounted, hmissed, hstays.sent,
      hstays.counted, hstays.missed]
    exact ⟨hstays.remains, hstays.error.trans herror, hstays.meter.trans hmeter, rfl, rfl, rfl⟩

end Works
end MediaProxy.Relay
