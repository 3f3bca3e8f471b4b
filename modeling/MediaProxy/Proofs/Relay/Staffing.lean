import Mathlib.Tactic.ByContra
import MediaProxy.Proofs.Relay.Workers

/-!
# Who is at work

What is true of the threads of a relay at any time. The end goes its way: its chores are done in
their order, by somebody who is at it until it is over, and the calls that do no more than close the
relay wait for that (`EndsDuly`). The workers begin once, with the sockets that the start has found,
and leave a relay only that is closed (`Staffed`). What they leave behind is lost (`Stocked`), and
their handles are there or somebody waits with them (`Awaited`).
-/

namespace MediaProxy.Relay.Works

variable {x y : Works} {act : Act}

/-! ## The end -/

/-- Whether somebody is **at the end** of the relay: a call, or a worker whose socket has failed. -/
def HasEnder (x : Works) : Prop :=
  .ending ∈ x.calls ∨ (∃ error, x.receiver = .failing error) ∨ ∃ error, x.forwarder = .failing error

/-- What the end **leaves** on a relay. -/
structure Marks where
  closed : Bool
  error : Option Text
  stopped : Bool
  done : Bool
  deriving DecidableEq, Repr

def marks (x : Works) : Marks :=
  ⟨x.relay.closed, x.relay.error, x.relay.meter.stopped, x.relay.latch.isDone⟩

/-- The marks of the chores that have been done. -/
def due (x : Works) : Marks :=
  ⟨!x.owes .flag, if x.owes .error then none else x.closing.bind Closing.error, !x.owes .meter,
    !x.owes .latch⟩

/-- The end **goes its way**. -/
structure EndsDuly (x : Works) : Prop where
  marks : x.marks = x.due
  order : ∀ closing, x.closing = some closing → closing.pending <:+ Chore.all
  /-- Until it is over, somebody is at it. -/
  ender : x.closing.isSome = true → x.isOver = false → x.HasEnder
  /-- A call goes on when it is over. -/
  calls : ∀ call ∈ x.calls, call ≠ .ending → x.isOver = true

/-- Before the end has begun all chores are still to be done. -/
theorem owes_of_fresh (h : x.closing = none) (chore : Chore) : x.owes chore = true := by
  rw [owes, h]

/-- An end that has not begun is not over. -/
theorem isOver_of_fresh (h : x.closing = none) : x.isOver = false := by
  rw [isOver, h]

/-- When the end begins all chores are still to be done. -/
theorem owes_beginEnd (error : Option Text) (chore : Chore) :
    (x.beginEnd error).owes chore = true := by
  cases chore <;> rfl

/-- When the end is over no chore is to be done. -/
theorem owes_of_isOver (h : x.isOver = true) (chore : Chore) : x.owes chore = false := by
  unfold isOver at h
  unfold owes
  split at h
  · cases h
  next => simp [List.isEmpty_iff.mp h]

theorem owes_congr (h : y.closing = x.closing) (chore : Chore) : y.owes chore = x.owes chore := by
  rw [owes, owes, h]

theorem isOver_congr (h : y.closing = x.closing) : y.isOver = x.isOver := by
  rw [isOver, isOver, h]

theorem due_congr (h : y.closing = x.closing) : y.due = x.due := by
  simp only [due, owes_congr h, h]

namespace EndsDuly

/-- The relay is closed exactly if that chore has been done. -/
theorem flag (h : EndsDuly x) : x.relay.closed = !x.owes .flag := congrArg Marks.closed h.marks

/-- The relay has the error of its end as soon as that chore has been done. -/
theorem error (h : EndsDuly x) :
    x.relay.error = if x.owes .error then none else x.closing.bind Closing.error :=
  congrArg Marks.error h.marks

/-- The meter is stopped exactly if that chore has been done. -/
theorem meter (h : EndsDuly x) : x.relay.meter.stopped = !x.owes .meter :=
  congrArg Marks.stopped h.marks

/-- The latch is done exactly if that chore has been done. -/
theorem latch (h : EndsDuly x) : x.relay.latch.isDone = !x.owes .latch := congrArg Marks.done h.marks

end EndsDuly

/-- Whichever chore is done, the flag has been raised before. -/
theorem EndsDuly.closed_of_owes (h : EndsDuly x) {chore : Chore} (hdone : x.owes chore = false) :
    x.relay.closed = true := by
  cases hclosing : x.closing with
  | none => exact absurd ((owes_of_fresh hclosing chore).symm.trans hdone) nofun
  | some closing =>
    obtain ⟨before, hover⟩ := h.order closing hclosing
    simp only [owes, hclosing, decide_eq_false_iff_not] at hdone
    rw [h.flag, Bool.not_eq_true', owes, hclosing, decide_eq_false_iff_not]
    intro hflag
    cases before with
    | nil =>
      have hall : closing.pending = Chore.all := hover
      exact hdone (by rw [hall]; cases chore <;> decide)
    | cons first rest =>
      have htail : rest ++ closing.pending = Chore.all.tail := (List.cons.inj hover).2
      have hmem : Chore.flag ∈ Chore.all.tail := htail ▸ List.mem_append_right rest hflag
      exact absurd hmem (by decide)

/-- A relay whose end is over is closed. -/
theorem EndsDuly.closed_of_isOver (h : EndsDuly x) (hover : x.isOver = true) :
    x.relay.closed = true := h.closed_of_owes (owes_of_isOver hover .flag)

/-- What leaves the end alone lets it go its way. -/
theorem EndsDuly.congr (h : EndsDuly x) (hclosing : y.closing = x.closing)
    (hmarks : y.marks = x.marks) (hender : x.isOver = false → x.HasEnder → y.HasEnder)
    (hcalls : ∀ call ∈ y.calls, call ≠ .ending → call ∈ x.calls ∨ x.isOver = true) : EndsDuly y := by
  have hover := isOver_congr hclosing
  refine ⟨?_, fun closing hc => h.order closing (hclosing ▸ hc), fun hbegun hgoing => ?_,
    fun call hcall hne => ?_⟩
  · rw [hmarks, due_congr hclosing, h.marks]
  · rw [hover] at hgoing
    exact hender hgoing (h.ender (hclosing ▸ hbegun) hgoing)
  · rw [hover]
    exact (hcalls call hcall hne).elim (fun hold => h.calls call hold hne) id

/-- The end goes its way when somebody at it begins. -/
theorem EndsDuly.beginEnd (h : EndsDuly x) (hfresh : x.closing = none) (hender : x.HasEnder)
    (error : Option Text) : EndsDuly (x.beginEnd error) := by
  refine ⟨?_, fun closing hc => ?_, fun _ _ => hender, fun call hcall hne => ?_⟩
  · have hbefore : x.due = (x.beginEnd error).due := by
      simp only [due, owes_of_fresh hfresh, owes_beginEnd, if_true]
    exact h.marks.trans hbefore
  · obtain rfl := Option.some.inj hc
    exact List.suffix_rfl
  · exact absurd ((h.calls call hcall hne).symm.trans (isOver_of_fresh hfresh)) nofun

/-- What is done first is not done again. -/
theorem EndsDuly.not_mem_left (h : EndsDuly x) {error : Option Text} {chore : Chore}
    {left : List Chore} (hpending : x.closing = some ⟨error, chore :: left⟩) : chore ∉ left := by
  have hnodup : (chore :: left).Nodup :=
    (by decide : Chore.all.Nodup).sublist (h.order _ hpending).sublist
  exact (List.nodup_cons.mp hnodup).1

/-- The flag is among the chores that are left as long as it is not raised. -/
theorem EndsDuly.discharge (h : EndsDuly x) {error : Option Text} {chore : Chore} {left : List Chore}
    (hpending : x.closing = some ⟨error, chore :: left⟩) : EndsDuly (x.discharge error left chore) := by
  have horder : chore :: left <:+ Chore.all := h.order _ hpending
  have hleft : left <:+ Chore.all := (List.suffix_cons chore left).trans horder
  have hgoing : x.isOver = false := by simp [isOver, hpending]
  have hender : x.HasEnder := h.ender (by simp [hpending]) hgoing
  have hdone : chore ∉ left := h.not_mem_left hpending
  have hmarks := h.marks
  refine ⟨?_, ?_, fun _ _ => ?_, fun call hcall hne => ?_⟩
  · simp only [Works.marks, due, owes, hpending, Marks.mk.injEq] at hmarks ⊢
    cases chore <;> simp_all [Works.discharge, Works.dry, Meter.stop, Latch.isDone_finish]
  · intro closing hc
    cases chore <;> cases hc <;> exact hleft
  · cases chore <;> exact hender
  · have hold : call ∈ x.calls := by cases chore <;> exact hcall
    exact absurd ((h.calls call hold hne).symm.trans hgoing) nofun

/-! ## The workers -/

/-- The workers are **at work** from their start to the end of the relay. -/
structure Staffed (x : Works) : Prop where
  unbegun : x.relay.started = false → x.starter = .away
  /-- They do not begin before the start is done. -/
  vacant : x.relay.started = false ∨ x.starter ≠ .away → x.receiver = .away ∧ x.forwarder = .away
  /-- A start finds a cell empty only if the relay is closed. -/
  lacks : x.starter.lacks = true → x.relay.closed = true
  atWork : x.relay.closed = false → x.relay.started = true → x.starter = .away →
    x.receiver ≠ .away ∧ x.forwarder ≠ .away

/-- Where a worker is at work the relay has been started, and the start is over. -/
theorem Staffed.employed (h : Staffed x) (hwork : x.receiver ≠ .away ∨ x.forwarder ≠ .away) :
    x.relay.started = true ∧ x.starter = .away := by
  by_contra hnot
  have hvacant : x.relay.started = false ∨ x.starter ≠ .away := by
    rcases not_and_or.mp hnot with hstarted | hstarter
    · exact .inl (Bool.eq_false_iff.mpr hstarted)
    · exact .inr hstarter
  obtain ⟨hreceiver, hforwarder⟩ := h.vacant hvacant
  exact hwork.elim (absurd hreceiver) (absurd hforwarder)

/-- Only a receiver at work may leave. -/
theorem receiver_ne_away_of_mayLeave (h : x.ReceiverMayLeave) : x.receiver ≠ .away := by
  intro haway
  rw [ReceiverMayLeave, haway] at h
  exact h

/-- Only a forwarder at work may leave. -/
theorem forwarder_ne_away_of_mayLeave (h : x.ForwarderMayLeave) : x.forwarder ≠ .away := by
  intro haway
  rw [ForwarderMayLeave, haway] at h
  exact h

/-- The receiver leaves a relay only that is closed: an open one has its forwarder. -/
theorem closed_of_receiverMayLeave (hd : EndsDuly x) (hs : Staffed x) (h : x.ReceiverMayLeave) :
    x.relay.closed = true := by
  obtain ⟨hstarted, hstarter⟩ := hs.employed (.inl (receiver_ne_away_of_mayLeave h))
  unfold ReceiverMayLeave at h
  split at h
  · exact h.elim
  · exact h
  · exact h
  · by_contra hopen
    exact (hs.atWork (Bool.eq_false_iff.mpr hopen) hstarted hstarter).2 h
  · exact hd.closed_of_isOver h

/-- So does the forwarder: an open one has its receiver. -/
theorem closed_of_forwarderMayLeave (hd : EndsDuly x) (hs : Staffed x) (h : x.ForwarderMayLeave) :
    x.relay.closed = true := by
  obtain ⟨hstarted, hstarter⟩ := hs.employed (.inr (forwarder_ne_away_of_mayLeave h))
  unfold ForwarderMayLeave at h
  split at h
  · by_contra hopen
    exact (hs.atWork (Bool.eq_false_iff.mpr hopen) hstarted hstarter).1 h.2
  · exact h
  · exact hd.closed_of_isOver h
  · exact h.elim

/-- Workers that go on, or that leave a closed relay. -/
theorem Staffed.congr (h : Staffed x) (hstarted : y.relay.started = x.relay.started)
    (hstarter : y.starter = x.starter) (hclosed : x.relay.closed = true → y.relay.closed = true)
    (hreceiver : x.receiver = .away → y.receiver = .away)
    (hforwarder : x.forwarder = .away → y.forwarder = .away)
    (hstay : y.relay.closed = false →
      (y.receiver = .away → x.receiver = .away) ∧ (y.forwarder = .away → x.forwarder = .away)) :
    Staffed y := by
  refine ⟨fun hnot => ?_, fun hnot => ?_, fun hlacks => ?_, fun hopen hbegun haway => ?_⟩
  · rw [hstarter]
    exact h.unbegun (hstarted ▸ hnot)
  · rw [hstarted, hstarter] at hnot
    exact (h.vacant hnot).imp hreceiver hforwarder
  · exact hclosed (h.lacks (hstarter ▸ hlacks))
  · have hopen' : x.relay.closed = false := by
      cases hx : x.relay.closed with
      | false => rfl
      | true => exact absurd ((hclosed hx).symm.trans hopen) nofun
    obtain ⟨hr, hf⟩ := hstay hopen
    exact (h.atWork hopen' (hstarted ▸ hbegun) (hstarter ▸ haway)).imp (mt hr) (mt hf)

/-! ## What the workers leave behind -/

/-- Nothing is **left behind** for a worker that has left. -/
structure Stocked (x : Works) : Prop where
  queue : x.forwarder = .away → x.queue = []
  dry : x.holdsInbound = false → x.relay.waiting = []

/-- Nothing is left at an inbound socket that nobody holds. -/
theorem Stocked.of_dry (hqueue : x.forwarder = .away → x.queue = []) : Stocked x.dry :=
  ⟨hqueue, fun hlost => if_neg (by rw [show x.holdsInbound = false from hlost]; exact nofun)⟩

/-- A receiver at work holds the inbound socket. -/
theorem holdsInbound_eq_true_of_receiver (h : x.receiver ≠ .away) : x.holdsInbound = true := by
  have hwork : x.receiver.isAtWork = true := by
    by_contra hidle
    exact h (Receiver.isAtWork_eq_false_iff.mp (Bool.eq_false_iff.mpr hidle))
  simp [holdsInbound, hwork]

/-! ## The handles -/

/-- A worker is **awaited**: its handle is there, or a call has taken it and waits. -/
structure Awaited (x : Works) : Prop where
  receiver : x.receiver ≠ .away → x.handles = true ∨ .joining .receiver ∈ x.calls
  forwarder : x.forwarder ≠ .away →
    x.handles = true ∨ .joining .receiver ∈ x.calls ∨ .joining .forwarder ∈ x.calls

theorem Awaited.congr (h : Awaited x) (hreceiver : y.receiver ≠ .away → x.receiver ≠ .away)
    (hforwarder : y.forwarder ≠ .away → x.forwarder ≠ .away) (hhandles : y.handles = x.handles)
    (hcalls : ∀ party, .joining party ∈ x.calls → .joining party ∈ y.calls) : Awaited y := by
  refine ⟨fun hwork => ?_, fun hwork => ?_⟩ <;> rw [hhandles]
  · exact (h.receiver (hreceiver hwork)).imp_right (hcalls _)
  · exact (h.forwarder (hforwarder hwork)).imp_right (Or.imp (hcalls _) (hcalls _))

/-! ## At any time -/

/-- What is true of the **threads** of a relay at any time. -/
structure InOrder (x : Works) : Prop where
  duly : EndsDuly x
  staffed : Staffed x
  stocked : Stocked x
  awaited : Awaited x

/-- The threads of a relay that has just been made are in order. -/
theorem inOrder_opened (inbound target : SocketAddress) (s : Site) (others : Host) :
    InOrder (opened (made inbound target) s others) := by
  refine ⟨⟨rfl, nofun, nofun, nofun⟩, ⟨fun _ => rfl, fun _ => ⟨rfl, rfl⟩, nofun, nofun⟩,
    ⟨fun _ => rfl, fun _ => rfl⟩, ?_⟩
  exact ⟨fun hwork => absurd rfl hwork, fun hwork => absurd rfl hwork⟩

/-- Whoever is at the end stays there. -/
theorem HasEnder.imp (h : x.HasEnder) (hcalls : .ending ∈ x.calls → .ending ∈ y.calls)
    (hreceiver : ∀ error, x.receiver = .failing error → y.receiver = .failing error)
    (hforwarder : ∀ error, x.forwarder = .failing error → y.forwarder = .failing error) :
    y.HasEnder :=
  Or.imp hcalls (Or.imp (fun ⟨e, he⟩ => ⟨e, hreceiver e he⟩) fun ⟨e, he⟩ => ⟨e, hforwarder e he⟩) h

/-- A start that is under way looks further. -/
theorem InOrder.looks (h : InOrder x) {s : Starter} (hbusy : x.starter ≠ .away) (hs : s ≠ .away)
    (hheld : x.starter.hasInbound = true → s.hasInbound = true)
    (hlacks : s.lacks = true → x.relay.closed = true) : InOrder { x with starter := s } := by
  refine ⟨?_, ⟨?_, ?_, hlacks, ?_⟩, ⟨h.stocked.queue, ?_⟩, ?_⟩
  · exact h.duly.congr rfl rfl (fun _ => id) fun call hcall _ => .inl hcall
  · exact fun hnot => absurd (h.staffed.unbegun hnot) hbusy
  · exact fun _ => h.staffed.vacant (.inr hbusy)
  · exact fun _ _ haway => absurd haway hs
  · intro hlost
    obtain ⟨hcells, hreceiver⟩ := Bool.or_eq_false_iff.mp hlost
    obtain ⟨hcell, hfound⟩ := Bool.or_eq_false_iff.mp hcells
    have hnone : x.starter.hasInbound = false :=
      Bool.eq_false_iff.mpr fun hfound' => absurd ((hheld hfound').symm.trans hfound) nofun
    refine h.stocked.dry ?_
    rw [holdsInbound, hnone, hreceiver, show x.owes .inbound = false from hcell]
    rfl
  · exact h.awaited.congr id id rfl fun _ => id

/-- The threads stay in order when the start goes on. -/
theorem InOrder.starterTurn (h : InOrder x) (ht : StarterTurn x y) : InOrder y := by
  cases ht with
  | first begun =>
    refine h.looks (by simp [begun]) nofun (by simp [begun, Starter.hasInbound]) fun hlacks => ?_
    exact h.duly.closed_of_owes (by simpa [Starter.lacks] using hlacks)
  | @second inbound looked =>
    refine h.looks (by simp [looked]) nofun (by simp [looked, Starter.hasInbound]) fun hlacks => ?_
    cases inbound with
    | false => exact h.staffed.lacks (by rw [looked]; rfl)
    | true =>
      have hdone : x.owes .outbound = false := by simpa [Starter.lacks] using hlacks
      exact h.duly.closed_of_owes hdone
  | employ looked =>
    have hbusy : x.starter ≠ .away := by simp [looked]
    obtain ⟨hreceiver, hforwarder⟩ := h.staffed.vacant (.inr hbusy)
    refine ⟨?_, ⟨fun _ => rfl, ?_, nofun, fun _ _ _ => ⟨nofun, nofun⟩⟩, ⟨nofun, ?_⟩,
      ⟨fun _ => .inl rfl, fun _ => .inl rfl⟩⟩
    · refine h.duly.congr rfl rfl (fun _ hender => hender.imp id ?_ ?_) fun call hcall _ => .inl hcall
      · exact fun e he => absurd (hreceiver.symm.trans he) nofun
      · exact fun e he => absurd (hforwarder.symm.trans he) nofun
    · intro hvacant
      rcases hvacant with hnot | hstarter
      · exact absurd (h.staffed.unbegun hnot) hbusy
      · exact absurd rfl hstarter
    · -- The receiver has the socket now, so it is not lost.
      intro hlost
      exact absurd (hlost.symm.trans (holdsInbound_eq_true_of_receiver nofun)) nofun
  | giveUp looked lacking =>
    have hbusy : x.starter ≠ .away := by simp [looked]
    have hclosed : x.relay.closed = true := h.staffed.lacks (by simp [looked, Starter.lacks, lacking])
    refine ⟨?_, ⟨fun _ => rfl, ?_, nofun, ?_⟩, .of_dry h.stocked.queue, ?_⟩
    · exact h.duly.congr rfl rfl (fun _ => id) fun call hcall _ => .inl hcall
    · exact fun _ => h.staffed.vacant (.inr hbusy)
    · exact fun hopen => absurd (hclosed.symm.trans hopen) nofun
    · exact h.awaited.congr id id rfl fun _ => id

/-- The receiver goes on with its work. -/
theorem InOrder.receives (h : InOrder x) {r : Receiver} {waiting : List Bytes} {queue : List Bytes}
    (hbefore : x.receiver ≠ .away) (hafter : r ≠ .away)
    (hfailing : ∀ error, x.receiver = .failing error → r = .failing error)
    (hqueue : x.forwarder = .away → queue = []) :
    InOrder { x with relay := { x.relay with waiting := waiting }, receiver := r, queue := queue } := by
  refine ⟨?_, ?_, ⟨hqueue, fun hlost => ?_⟩, ?_⟩
  · exact h.duly.congr rfl rfl (fun _ hender => hender.imp id hfailing fun _ => id)
      fun call hcall _ => .inl hcall
  · exact h.staffed.congr rfl rfl id (fun haway => absurd haway hbefore) id
      fun _ => ⟨fun haway => absurd haway hafter, id⟩
  · exact absurd (hlost.symm.trans (holdsInbound_eq_true_of_receiver hafter)) nofun
  · exact h.awaited.congr (fun _ => hbefore) id rfl fun _ => id

/-- The threads stay in order when the receiver leaves. -/
theorem InOrder.receiverLeaves (h : InOrder x) (hmay : x.ReceiverMayLeave) :
    InOrder x.receiverLeaves := by
  have hclosed := closed_of_receiverMayLeave h.duly h.staffed hmay
  refine ⟨?_, ?_, .of_dry h.stocked.queue, ?_⟩
  · refine h.duly.congr rfl rfl (fun hgoing hender => hender.imp id ?_ fun _ => id)
      fun call hcall _ => .inl hcall
    -- A receiver whose socket has failed leaves when the end is over.
    intro error hfailing
    rw [ReceiverMayLeave, hfailing] at hmay
    exact absurd (hmay.symm.trans hgoing) nofun
  · exact h.staffed.congr rfl rfl id (fun _ => rfl) id
      fun hopen => absurd (hclosed.symm.trans hopen) nofun
  · exact h.awaited.congr (fun hwork => absurd rfl hwork) id rfl fun _ => id

/-- The threads stay in order when the end begins. -/
theorem InOrder.beginEnd (h : InOrder x) (hfresh : x.closing = none) (hender : x.HasEnder)
    (error : Option Text) : InOrder (x.beginEnd error) := by
  refine ⟨h.duly.beginEnd hfresh hender error, ?_, ⟨h.stocked.queue, fun hlost => ?_⟩, ?_⟩
  · exact h.staffed.congr rfl rfl id id id fun _ => ⟨id, id⟩
  · rw [holdsInbound, owes_beginEnd, Bool.true_or, Bool.true_or] at hlost
    cases hlost
  · exact h.awaited.congr id id rfl fun _ => id

/-- The threads stay in order when the receiver goes on. -/
theorem InOrder.receiverTurn (h : InOrder x) (ht : ReceiverTurn x act y) : InOrder y := by
  cases ht with
  | read listening => exact h.receives (by simp [listening]) nofun (by simp [listening]) h.stocked.queue
  | look heard => exact h.receives (by simp [heard]) nofun (by simp [heard]) h.stocked.queue
  | pass passing _ taken =>
    exact h.receives (by simp [passing]) nofun (by simp [passing]) fun haway => absurd haway taken
  | @ends error failing fresh => exact h.beginEnd fresh (.inr (.inl ⟨error, failing⟩)) _
  | leaves may => exact h.receiverLeaves may

/-- The forwarder goes on with its work. -/
theorem InOrder.forwarding (h : InOrder x) {f : Forwarder} {queue : List Bytes} {meter : Meter}
    {unheard : Bool} (hbefore : x.forwarder ≠ .away) (hafter : f ≠ .away)
    (hfailing : ∀ error, x.forwarder = .failing error → f = .failing error)
    (hmeter : meter.stopped = x.relay.meter.stopped) :
    InOrder { x with
      relay := { x.relay with meter := meter, unheard := unheard }
      queue := queue
      forwarder := f } := by
  refine ⟨?_, ?_, ⟨fun haway => absurd haway hafter, h.stocked.dry⟩, ?_⟩
  · refine h.duly.congr rfl ?_ (fun _ hender => hender.imp id (fun _ => id) hfailing)
      fun call hcall _ => .inl hcall
    rw [marks, marks, hmeter]
  · exact h.staffed.congr rfl rfl id id (fun haway => absurd haway hbefore)
      fun _ => ⟨id, fun haway => absurd haway hafter⟩
  · exact h.awaited.congr id (fun _ => hbefore) rfl fun _ => id

/-- The threads stay in order when the forwarder leaves. -/
theorem InOrder.forwarderLeaves (h : InOrder x) (hmay : x.ForwarderMayLeave) :
    InOrder x.forwarderLeaves := by
  have hclosed := closed_of_forwarderMayLeave h.duly h.staffed hmay
  refine ⟨?_, ?_, ⟨fun _ => rfl, h.stocked.dry⟩, ?_⟩
  · refine h.duly.congr rfl rfl (fun hgoing hender => hender.imp id (fun _ => id) ?_)
      fun call hcall _ => .inl hcall
    intro error hfailing
    rw [ForwarderMayLeave, hfailing] at hmay
    exact absurd (hmay.symm.trans hgoing) nofun
  · exact h.staffed.congr rfl rfl id id (fun _ => rfl)
      fun hopen => absurd (hclosed.symm.trans hopen) nofun
  · exact h.awaited.congr id (fun hwork => absurd rfl hwork) rfl fun _ => id

/-- The threads stay in order when the forwarder goes on. -/
theorem InOrder.forwarderTurn (h : InOrder x) (ht : ForwarderTurn x act y) : InOrder y := by
  cases ht with
  | take doing | look doing | send doing | refused doing | count doing | miss doing | add doing =>
    exact h.forwarding (by simp [doing]) nofun (by simp [doing]) rfl
  | @ends error failing fresh => exact h.beginEnd fresh (.inr (.inr ⟨error, failing⟩)) _
  | leaves may => exact h.forwarderLeaves may

/-- What a call comes to is no other end, and it waits with the handles that it has taken. -/
theorem next_cases {call call' : Call} (h : x.next? call = some call') :
    (call = .ending ∧ call' = .taking ∧ x.isOver = true) ∨
      (call = .taking ∧ x.handles = true ∧ call' = .joining .receiver) ∨
      (call = .taking ∧ x.handles = false ∧ call' = .returning) ∨
      (call = .joining .receiver ∧ x.receiver = .away ∧ call' = .joining .forwarder) ∨
      (call = .joining .forwarder ∧ x.forwarder = .away ∧ call' = .returning) := by
  cases call with
  | ending =>
    obtain ⟨hover, hcall⟩ := Option.ite_none_right_eq_some.mp h
    exact .inl ⟨rfl, (Option.some.inj hcall).symm, hover⟩
  | taking =>
    obtain rfl := Option.some.inj h
    cases hhandles : x.handles with
    | true => exact .inr (.inl ⟨rfl, rfl, rfl⟩)
    | false => exact .inr (.inr (.inl ⟨rfl, rfl, rfl⟩))
  | joining party =>
    cases party with
    | receiver =>
      obtain ⟨haway, hcall⟩ := Option.ite_none_right_eq_some.mp h
      exact .inr (.inr (.inr (.inl ⟨rfl, haway, (Option.some.inj hcall).symm⟩)))
    | forwarder =>
      obtain ⟨haway, hcall⟩ := Option.ite_none_right_eq_some.mp h
      exact .inr (.inr (.inr (.inr ⟨rfl, haway, (Option.some.inj hcall).symm⟩)))
  | returning => cases h

/-- Whoever is another call is still there when one has gone on, or has returned. -/
theorem mem_of_ne {before after after' : List Call} {call other : Call}
    (hmem : other ∈ before ++ call :: after) (hne : other ≠ call) (hafter : after ⊆ after') :
    other ∈ before ++ after' := by
  rcases List.mem_append.mp hmem with hmem | hmem
  · exact List.mem_append_left _ hmem
  · exact List.mem_append_right _ (hafter ((List.mem_cons.mp hmem).resolve_left hne))

/-- A call goes on when the end is over, whoever's it is. -/
theorem EndsDuly.isOver_of_next (h : EndsDuly x) {before after : List Call} {call call' : Call}
    (hcalls : x.calls = before ++ call :: after) (hnext : x.next? call = some call') :
    x.isOver = true := by
  have hmem : call ∈ x.calls := by simp [hcalls]
  by_cases hending : call = .ending
  · obtain ⟨-, -, hover⟩ | ⟨heq, -⟩ | ⟨heq, -⟩ | ⟨heq, -⟩ | ⟨heq, -⟩ := next_cases hnext
    · exact hover
    all_goals exact absurd (hending.symm.trans heq) nofun
  · exact h.calls call hmem hending

/-- The end goes its way when a call goes on. -/
theorem EndsDuly.next (h : EndsDuly x) {before after : List Call} {call call' : Call} {handles : Bool}
    (hcalls : x.calls = before ++ call :: after) (hnext : x.next? call = some call') :
    EndsDuly { x with calls := before ++ call' :: after, handles := handles } := by
  have hover := h.isOver_of_next hcalls hnext
  exact h.congr rfl rfl (fun hgoing => absurd (hover.symm.trans hgoing) nofun) fun _ _ _ => .inr hover

/-- Workers are awaited on when a call goes on. -/
theorem Awaited.next (h : Awaited x) {before after : List Call} {call call' : Call}
    (hcalls : x.calls = before ++ call :: after) (hnext : x.next? call = some call') :
    Awaited { x with calls := before ++ call' :: after, handles := x.handles && call != .taking } := by
  have hnew : call' ∈ before ++ call' :: after := by simp
  have hkept : ∀ party, call ≠ .joining party → .joining party ∈ x.calls →
      .joining party ∈ before ++ call' :: after := fun party hne hmem =>
    mem_of_ne (hcalls ▸ hmem) (Ne.symm hne) (List.subset_cons_self ..)
  obtain ⟨rfl, rfl, -⟩ | ⟨rfl, hhandles, rfl⟩ | ⟨rfl, hhandles, rfl⟩ | ⟨rfl, haway, rfl⟩ |
    ⟨rfl, haway, rfl⟩ := next_cases hnext
  · exact h.congr id id (Bool.and_true _) fun party => hkept party nofun
  · exact ⟨fun _ => .inr hnew, fun _ => .inr (.inl hnew)⟩
  · exact h.congr id id (by simp [hhandles]) fun party => hkept party nofun
  · refine ⟨fun hwork => absurd haway hwork, fun _ => .inr (.inr hnew)⟩
  · refine ⟨fun hwork => ?_, fun hwork => absurd haway hwork⟩
    exact (h.receiver hwork).imp (fun hhandles => by simp [hhandles]) (hkept .receiver nofun)

/-- The threads stay in order when a call goes on. -/
theorem InOrder.callTurn (h : InOrder x) (ht : CallTurn x act y) : InOrder y := by
  cases ht with
  | ends ending fresh => exact h.beginEnd fresh (.inl ending) _
  | next calls next =>
    refine ⟨h.duly.next calls next, ?_, ⟨h.stocked.queue, h.stocked.dry⟩, h.awaited.next calls next⟩
    exact h.staffed.congr rfl rfl id id id fun _ => ⟨id, id⟩
  | @returns before after calls =>
    have hover := h.duly.calls .returning (by simp [calls]) nofun
    refine ⟨?_, ?_, ⟨h.stocked.queue, h.stocked.dry⟩, ?_⟩
    · exact h.duly.congr rfl rfl (fun hgoing => absurd (hover.symm.trans hgoing) nofun)
        fun _ _ _ => .inr hover
    · exact h.staffed.congr rfl rfl id id id fun _ => ⟨id, id⟩
    · refine h.awaited.congr id id rfl fun party hmem => ?_
      rw [calls] at hmem
      exact mem_of_ne hmem nofun (List.Subset.refl after)

/-- A chore that is done is not one that is left. -/
theorem owes_discharge {error : Option Text} {chore : Chore} {left : List Chore}
    (hpending : x.closing = some ⟨error, chore :: left⟩) (other : Chore) (hne : other ≠ chore) :
    (x.discharge error left chore).owes other = x.owes other := by
  have hleft : (x.discharge error left chore).owes other = decide (other ∈ left) := by
    cases chore <;> rfl
  rw [hleft, owes, hpending]
  simp [hne]

/-- The threads stay in order when a chore of the end is done. -/
theorem InOrder.discharge (h : InOrder x) {error : Option Text} {chore : Chore} {left : List Chore}
    (hpending : x.closing = some ⟨error, chore :: left⟩) :
    InOrder (x.discharge error left chore) := by
  refine ⟨h.duly.discharge hpending, ?_, ?_, ?_⟩
  · refine h.staffed.congr ?_ ?_ (fun hclosed => ?_) ?_ ?_ fun _ => ⟨?_, ?_⟩
    · cases chore <;> rfl
    · cases chore <;> rfl
    · cases chore <;> first | exact hclosed | rfl
    all_goals cases chore <;> exact id
  · have howes := owes_discharge hpending .inbound
    cases chore with
    | inbound => exact .of_dry h.stocked.queue
    | _ =>
      refine ⟨h.stocked.queue, fun hlost => h.stocked.dry ?_⟩
      rw [holdsInbound, howes nofun] at hlost
      exact hlost
  · refine h.awaited.congr ?_ ?_ ?_ fun party => ?_
    · cases chore <;> exact id
    · cases chore <;> exact id
    · cases chore <;> rfl
    · cases chore <;> exact id

/-- The threads stay in order, whoever takes a turn. -/
theorem InOrder.turn (h : InOrder x) (ht : Turn x act y) : InOrder y := by
  cases ht with
  | starter turn => exact h.starterTurn turn
  | receiver turn => exact h.receiverTurn turn
  | forwarder turn => exact h.forwarderTurn turn
  | call turn => exact h.callTurn turn
  | chore pending => exact h.discharge pending

/-- The threads stay in order when somebody starts the relay. -/
theorem InOrder.start (h : InOrder x) : InOrder x.start := by
  unfold Works.start
  split
  · exact h
  next hnot =>
    have hstarted : x.relay.started = false := Bool.eq_false_iff.mpr hnot
    have hnone : x.starter = .away := h.staffed.unbegun hstarted
    refine ⟨?_, ⟨nofun, fun _ => h.staffed.vacant (.inl hstarted), nofun, nofun⟩,
      ⟨h.stocked.queue, fun hlost => h.stocked.dry ?_⟩, ?_⟩
    · exact h.duly.congr rfl rfl (fun _ => id) fun call hcall _ => .inl hcall
    · rw [holdsInbound, hnone]
      exact hlost
    · exact h.awaited.congr id id rfl fun _ => id

/-- The threads stay in order when a datagram arrives. -/
theorem InOrder.arrive (h : InOrder x) (datagram : Bytes) : InOrder (x.arrive datagram) := by
  unfold Works.arrive
  split
  next hheld =>
    refine ⟨?_, ?_, ⟨h.stocked.queue, fun hlost => absurd (hheld.symm.trans hlost) nofun⟩, ?_⟩
    · exact h.duly.congr rfl rfl (fun _ => id) fun call hcall _ => .inl hcall
    · exact h.staffed.congr rfl rfl id id id fun _ => ⟨id, id⟩
    · exact h.awaited.congr id id rfl fun _ => id
  · exact h

/-- The threads stay in order when somebody closes the relay. -/
theorem InOrder.close (h : InOrder x) : InOrder x.close := by
  refine ⟨?_, ?_, ⟨h.stocked.queue, h.stocked.dry⟩, ?_⟩
  · refine h.duly.congr rfl rfl (fun _ hender => hender.imp (List.mem_append_left _) (fun _ => id)
      fun _ => id) fun call hcall hne => .inl ?_
    exact (List.mem_append.mp hcall).resolve_right fun hnew => hne (List.mem_singleton.mp hnew)
  · exact h.staffed.congr rfl rfl id id id fun _ => ⟨id, id⟩
  · exact h.awaited.congr id id rfl fun _ => List.mem_append_left _

/-- Whatever happens to a relay, its threads are in order. -/
theorem InOrder.step (h : InOrder x) (hs : Step x act y) : InOrder y := by
  cases hs with
  | starts => exact h.start
  | arrives datagram => exact h.arrive datagram
  | closes => exact h.close
  | watched watches =>
    refine ⟨?_, ?_, ⟨h.stocked.queue, h.stocked.dry⟩, ?_⟩
    · refine h.duly.congr rfl ?_ (fun _ => id) fun call hcall _ => .inl hcall
      rw [marks, marks, Latch.isDone_of_watches watches]
    · exact h.staffed.congr rfl rfl id id id fun _ => ⟨id, id⟩
    · exact h.awaited.congr id id rfl fun _ => id
  | elsewhere =>
    refine ⟨?_, ?_, ⟨h.stocked.queue, h.stocked.dry⟩, ?_⟩
    · exact h.duly.congr rfl rfl (fun _ => id) fun call hcall _ => .inl hcall
    · exact h.staffed.congr rfl rfl id id id fun _ => ⟨id, id⟩
    · exact h.awaited.congr id id rfl fun _ => id
  | turn ht => exact h.turn ht
  | inboundFails error listening =>
    exact h.receives (by simp [listening]) nofun (by simp [listening]) h.stocked.queue
  | outboundFails error sending => exact h.forwarding (by simp [sending]) nofun (by simp [sending]) rfl

/-- The threads stay in order, however many turns are taken. -/
theorem InOrder.turns (h : InOrder x) {turns : List Act} (hrun : Run Turn x turns y) : InOrder y := by
  induction hrun with
  | here => exact h
  | next _ hlast ih => exact ih.turn hlast

end MediaProxy.Relay.Works
