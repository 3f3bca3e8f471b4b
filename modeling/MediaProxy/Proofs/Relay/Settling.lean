import MediaProxy.Proofs.Relay.Resting

/-!
# What the workers come to

Somebody starts or closes a relay at rest, or a datagram arrives there, and then its threads take
turns until they are at rest again, in whatever order. What they send, and the relay and the site
that they leave behind, are settled before the first of these turns (`outcome`, `Turn.settles`). So
the functions `Relay.start`, `Relay.arrive` and `Relay.close`, which know no threads, say what
becomes of a relay at rest (`AtRest.agrees`).

That is so since nobody closes a relay here while it has anything to send, but the forwarder itself
(`Calm`).
-/

namespace MediaProxy.Relay

/-- A relay that is closed sends nothing. -/
theorem sendAll_of_closed {r : Relay} (h : r.closed = true) (datagrams : List Bytes) (s : Site) :
    sendAll datagrams r s = ([], r, s) := by
  induction datagrams with
  | nil => rfl
  | cons datagram rest ih => simp [sendAll, send, h, ih]

theorem emptied_eq_self {r : Relay} (h : r.waiting = []) : { r with waiting := [] } = r := by
  rw [← h]

namespace Works

variable {x y : Works} {act : Act} {acts : List Act} {error : Option Text}

/-! ## What is going to be -/

/-- What has been read or will be, and was not sent, in the order of its arrival. -/
def contents (x : Works) : List Bytes :=
  x.forwarder.hand ++ x.queue ++ x.receiver.hand ++ x.relay.waiting

/-- The meter, once what was sent has been **counted**. -/
def reckoned (x : Works) : Meter :=
  x.forwarder.uncounted.foldl (fun m datagram => m.add (UInt64.ofNat datagram.length)) x.relay.meter

/-- With which error the relay ends, if it is **going to end**. -/
def verdict (x : Works) : Option (Option Text) :=
  match x.closing, x.forwarder, x.calls with
  | some closing, _, _ => some closing.error
  | none, .failing error, _ => some (some error)
  | none, _, _ :: _ => some none
  | none, _, [] => none

/-- The relay and the site as they are when the end is over. -/
def ended (error : Option Text) (x : Works) : Relay × Site :=
  ({ x.relay with
      closed := true, error := error, meter := x.relay.meter.stop
      latch := (x.relay.latch.finish x.observers).2.1, waiting := [] },
    ⟨x.others, (x.relay.latch.finish x.observers).2.2⟩)

/-- What is still going to be sent, and the relay and the site after that, if **nothing else
happens**. -/
def outcome (x : Works) : List Delivery × Relay × Site :=
  match x.verdict with
  | some error => ([], x.ended error)
  | none =>
    if x.relay.started then
      sendAll x.contents { x.relay with waiting := [], meter := x.reckoned } x.site
    else ([], x.relay, x.site)

/-- Nobody closes the relay, or has closed it, while there is anything to send, but a forwarder
whose socket has failed. -/
structure Calm (x : Works) : Prop where
  receiver : ∀ error, x.receiver ≠ .failing error
  alone : x.calls ≠ [] → ∀ error, x.forwarder ≠ .failing error
  starter : x.verdict ≠ none → x.starter = .away ∨ Over x
  still : x.verdict ≠ none →
    x.forwarder = .away ∨ (∃ error, x.forwarder = .failing error) ∨
      x.forwarder = .taking ∧ x.contents = []

/-- An end that has begun is the one that the relay comes to. -/
theorem verdict_of_closing {closing : Closing} (h : x.closing = some closing) :
    x.verdict = some closing.error := by
  simp [verdict, h]

/-- A relay that is open ends with the error of its forwarder. -/
theorem verdict_of_failing {error : Text} (hfresh : x.closing = none)
    (h : x.forwarder = .failing error) : x.verdict = some (some error) := by
  simp [verdict, hfresh, h]

/-- A relay that is open and works ends without an error if somebody closes it. -/
theorem verdict_of_calls (hfresh : x.closing = none) (hworks : ∀ error, x.forwarder ≠ .failing error)
    (h : x.calls ≠ []) : x.verdict = some none := by
  obtain ⟨call, rest, hcalls⟩ := List.exists_cons_of_ne_nil h
  cases hf : x.forwarder with
  | failing error => exact absurd hf (hworks error)
  | _ => simp [verdict, hfresh, hf, hcalls]

/-- A relay is not going to end if its end has not begun, nobody calls for it and no socket has
failed. -/
theorem verdict_eq_none_iff :
    x.verdict = none ↔
      x.closing = none ∧ (∀ error, x.forwarder ≠ .failing error) ∧ x.calls = [] := by
  cases hclosing : x.closing with
  | some closing => simp [verdict_of_closing hclosing]
  | none =>
    by_cases hfailing : ∃ error, x.forwarder = .failing error
    · obtain ⟨error, hf⟩ := hfailing
      simp [verdict_of_failing hclosing hf, hf]
    · have hworks : ∀ error, x.forwarder ≠ .failing error := not_exists.mp hfailing
      cases hcalls : x.calls with
      | cons call rest => simp [verdict_of_calls hclosing hworks (by simp [hcalls])]
      | nil =>
        refine iff_of_true ?_ ⟨rfl, hworks, rfl⟩
        cases hf : x.forwarder with
        | failing error => exact absurd hf (hworks error)
        | _ => simp [verdict, hclosing, hf, hcalls]

/-- A relay that is going to end sends nothing more. -/
theorem outcome_of_verdict (h : x.verdict = some error) : x.outcome = ([], x.ended error) := by
  rw [outcome, h]

/-- A relay that has been started and goes on sends all that it has. -/
theorem outcome_of_begun (h : x.verdict = none) (hstarted : x.relay.started = true) :
    x.outcome = sendAll x.contents { x.relay with waiting := [], meter := x.reckoned } x.site := by
  rw [outcome, h]
  exact if_pos hstarted

/-- A relay that has not been started keeps all that it has. -/
theorem outcome_of_unbegun (h : x.verdict = none) (hstarted : x.relay.started = false) :
    x.outcome = ([], x.relay, x.site) := by
  rw [outcome, h]
  exact if_neg (by rw [hstarted]; exact nofun)

/-! ## A relay whose end has not begun -/

/-- Nothing that the end leaves is there, and both sockets are held. -/
theorem InOrder.fresh (hx : InOrder x) (hfresh : x.closing = none) :
    x.relay.closed = false ∧ x.relay.meter.stopped = false ∧ x.holdsInbound = true ∧
      x.holdsOutbound = true := by
  have howes := owes_of_fresh hfresh
  refine ⟨by rw [hx.duly.flag, howes]; rfl, by rw [hx.duly.meter, howes]; rfl, ?_, ?_⟩
  · rw [holdsInbound, howes, Bool.true_or, Bool.true_or]
  · rw [holdsOutbound, howes, Bool.true_or, Bool.true_or]

/-- A relay that holds both sockets has both on the host. -/
theorem site_of_held (hinbound : x.holdsInbound = true) (houtbound : x.holdsOutbound = true) :
    x.site = ⟨{ x.others with
      bound := x.relay.inbound :: x.others.bound, outbound := x.relay.target :: x.others.outbound },
      x.observers⟩ := by
  simp [site, hinbound, houtbound]

/-- A relay that is over leaves the host to others. -/
theorem site_of_over (h : Over x) : x.site = ⟨x.others, x.observers⟩ := by
  simp [site, h.inbound, h.outbound]

/-- The end gives up both sockets, with whatever waits at the inbound one. -/
theorem shutdown_eq_ended (hx : InOrder x) (hfresh : x.closing = none)
    (hunzoned : x.relay.inbound.unzoned = x.relay.inbound) (waiting : List Bytes) :
    shutdown error { x.relay with waiting := waiting } x.site = x.ended error := by
  obtain ⟨hopen, -, hinbound, houtbound⟩ := hx.fresh hfresh
  simp [shutdown, hopen, ended, site_of_held hinbound houtbound, Host.release, Host.disconnect,
    hunzoned]

/-- Of a relay that is over nothing is still going to be. -/
theorem Over.outcome_eq (h : Over x) (hx : InOrder x) : x.outcome = ([], x.relay, x.site) := by
  obtain ⟨closing, hclosing⟩ := Option.ne_none_iff_exists'.mp h.begun
  have howes := owes_of_isOver h.isOver
  have hclosed := hx.duly.closed_of_isOver h.isOver
  have herror : x.relay.error = closing.error := by simp [hx.duly.error, howes, hclosing]
  have hstopped : x.relay.meter.stop = x.relay.meter := by
    rw [Meter.stop, ← show x.relay.meter.stopped = true by rw [hx.duly.meter, howes]; rfl]
  have hdone : x.relay.latch.isDone = true := by rw [hx.duly.latch, howes]; rfl
  have hwaiting := hx.stocked.dry h.inbound
  rw [outcome_of_verdict (verdict_of_closing hclosing), ended, site_of_over h, hstopped, ← herror,
    ← hwaiting, ← hclosed, Latch.finish, if_pos hdone]

namespace AtRest

/-- At rest no forwarder is failing. -/
theorem forwarder_ne_failing (h : x.AtRest) (error : Text) : x.forwarder ≠ .failing error := by
  intro hfailing
  rcases h.forwarder with haway | ⟨htaking, -⟩
  · exact absurd (haway.symm.trans hfailing) nofun
  · exact absurd (htaking.symm.trans hfailing) nofun

/-- At rest a relay that is open is not going to end. -/
theorem verdict_of_fresh (h : x.AtRest) (hx : InOrder x) (hfresh : x.closing = none) :
    x.verdict = none := verdict_eq_none_iff.mpr ⟨hfresh, h.forwarder_ne_failing, h.calls hx⟩

/-- What is in nobody's hands is at the inbound socket, where it waits for the start. -/
theorem contents_eq (h : x.AtRest) (hx : InOrder x) (hfresh : x.closing = none) :
    x.contents = x.relay.waiting ∧ x.reckoned = x.relay.meter ∧
      (x.relay.started = true → x.relay.waiting = []) := by
  cases hstarted : x.relay.started with
  | false =>
    obtain ⟨hreceiver, hforwarder⟩ := hx.staffed.vacant (.inl hstarted)
    have hqueue := hx.stocked.queue hforwarder
    simp [contents, reckoned, hreceiver, hforwarder, hqueue, Forwarder.hand, Receiver.hand,
      Forwarder.uncounted]
  | true =>
    obtain ⟨hreceiver, hforwarder, hqueue, hwaiting⟩ := h.of_open hx (hx.fresh hfresh).1 hstarted
    simp [contents, reckoned, hreceiver, hforwarder, hqueue, hwaiting, Forwarder.hand,
      Receiver.hand, Forwarder.uncounted]

/-- At rest nothing is still going to be. -/
theorem outcome_eq (h : x.AtRest) (hx : InOrder x) : x.outcome = ([], x.relay, x.site) := by
  by_cases hfresh : x.closing = none
  · have hverdict := h.verdict_of_fresh hx hfresh
    cases hstarted : x.relay.started with
    | false => exact outcome_of_unbegun hverdict hstarted
    | true =>
      obtain ⟨hcontents, hreckoned, hwaiting⟩ := h.contents_eq hx hfresh
      have hrelay : { x.relay with waiting := [], meter := x.relay.meter } = x.relay :=
        emptied_eq_self (hwaiting hstarted)
      rw [outcome_of_begun hverdict hstarted, hcontents, hwaiting hstarted, hreckoned, hrelay, sendAll]
  · exact (h.over hx hfresh).outcome_eq hx

end AtRest

/-! ## Turns settle nothing -/

/-- A turn **settles** nothing: it sends the first of what is still going to be sent, or nothing. -/
structure Settles (x : Works) (act : Act) (y : Works) : Prop where
  calm : Calm y
  outcome : x.outcome = (act.sent?.toList ++ y.outcome.1, y.outcome.2)

/-- A relay that is not going to end is calm. -/
theorem calm_of_verdict (h : x.verdict = none) (hreceiver : ∀ error, x.receiver ≠ .failing error) :
    Calm x := by
  obtain ⟨-, -, hcalls⟩ := verdict_eq_none_iff.mp h
  exact ⟨hreceiver, fun hne => absurd hcalls hne, fun hne => absurd h hne, fun hne => absurd h hne⟩

/-- What is only handed on is still going to be sent. -/
theorem settles_of_handed (hact : act.sent? = none) (hx : x.verdict = none) (hy : y.verdict = none)
    (hreceiver : ∀ error, y.receiver ≠ .failing error) (hstarted : x.relay.started = true)
    (hrelay : { y.relay with waiting := [], meter := y.reckoned } =
      { x.relay with waiting := [], meter := x.reckoned })
    (hcontents : y.contents = x.contents) (hsite : y.site = x.site) : Settles x act y := by
  have hstarted' : y.relay.started = true := (congrArg Relay.started hrelay).trans hstarted
  refine ⟨calm_of_verdict hy hreceiver, ?_⟩
  rw [outcome_of_begun hx hstarted, outcome_of_begun hy hstarted', hrelay, hcontents, hsite, hact]
  rfl

/-- What is going to end ends the same way. -/
theorem settles_of_ending (hact : act.sent? = none) (hx : x.verdict = some error)
    (hy : y.verdict = some error) (hcalm : Calm y) (hended : y.ended error = x.ended error) :
    Settles x act y := by
  refine ⟨hcalm, ?_⟩
  rw [outcome_of_verdict hx, outcome_of_verdict hy, hended, hact]
  rfl

/-- As long as the end has not begun, the site is the same. -/
theorem site_congr (hx : InOrder x) (hy : InOrder y) (hfresh : x.closing = none)
    (hclosing : y.closing = x.closing) (hinbound : y.relay.inbound = x.relay.inbound)
    (htarget : y.relay.target = x.relay.target) (hothers : y.others = x.others)
    (hobservers : y.observers = x.observers) : y.site = x.site := by
  obtain ⟨-, -, hxi, hxo⟩ := hx.fresh hfresh
  obtain ⟨-, -, hyi, hyo⟩ := hy.fresh (hclosing.trans hfresh)
  rw [site_of_held hxi hxo, site_of_held hyi hyo, hinbound, htarget, hothers, hobservers]

section Turns

variable (hx : InOrder x) (hcalm : Calm x)
include hx hcalm

/-- A turn of the start settles nothing. -/
theorem StarterTurn.settles (ht : StarterTurn x y) : Settles x .turns y := by
  have hy := hx.starterTurn ht
  have hbusy : x.starter ≠ .away := by cases ht <;> simp [*]
  have hstarted : x.relay.started = true := by
    cases hs : x.relay.started with
    | true => rfl
    | false => exact absurd (hx.staffed.unbegun hs) hbusy
  obtain ⟨hreceiver, hforwarder⟩ := hx.staffed.vacant (.inr hbusy)
  -- A start that goes on while the relay ends finds nobody at work; otherwise nothing is in
  -- anybody's hand yet.
  cases hverdict : x.verdict with
  | some error =>
    have hover := (hcalm.starter (by simp [hverdict])).resolve_left hbusy
    have hstays := hover.starterTurn ht
    have hclosing : y.closing = x.closing := by cases ht <;> rfl
    obtain ⟨closing, hc⟩ := Option.ne_none_iff_exists'.mp hover.begun
    have herror : closing.error = error :=
      Option.some.inj ((verdict_of_closing hc).symm.trans hverdict)
    refine settles_of_ending rfl hverdict (herror ▸ verdict_of_closing (hclosing.trans hc))
      ⟨?_, ?_, fun _ => .inr hstays.remains, fun _ => .inl hstays.remains.forwarder⟩ ?_
    · exact fun e he => by cases hstays.remains.receiver.symm.trans he
    · exact fun _ e he => by cases hstays.remains.forwarder.symm.trans he
    · cases ht <;> rfl
  | none =>
    obtain ⟨hfresh, hworks, hcalls⟩ := verdict_eq_none_iff.mp hverdict
    cases ht with
    | first | second =>
      exact settles_of_handed rfl hverdict (verdict_eq_none_iff.mpr ⟨hfresh, hworks, hcalls⟩)
        hcalm.receiver hstarted rfl rfl (site_congr hx hy hfresh rfl rfl rfl rfl rfl)
    | employ =>
      refine settles_of_handed rfl hverdict
        (verdict_eq_none_iff.mpr ⟨hfresh, (fun e he => by cases he), hcalls⟩) (fun e he => by cases he)
        hstarted ?_ ?_ (site_congr hx hy hfresh rfl rfl rfl rfl rfl)
      · simp [reckoned, hforwarder, Forwarder.uncounted]
      · simp [contents, hforwarder, hreceiver, Forwarder.hand, Receiver.hand]
    | giveUp looked lacking =>
      have hclosed := hx.staffed.lacks (by simp [looked, Starter.lacks, lacking])
      exact absurd hclosed (ne_true_of_eq_false (hx.fresh hfresh).1)

/-- The receiver hands something on. -/
theorem settles_of_receives {r : Receiver} {waiting queue : List Bytes}
    (hy : InOrder { x with
      relay := { x.relay with waiting := waiting }, receiver := r, queue := queue })
    (hbusy : x.receiver ≠ .away) (hworks : ∀ error, r ≠ .failing error)
    (hcontents : x.forwarder.hand ++ queue ++ r.hand ++ waiting = x.contents) :
    Settles x .turns { x with
      relay := { x.relay with waiting := waiting }, receiver := r, queue := queue } := by
  cases hverdict : x.verdict with
  | none =>
    obtain ⟨hfresh, -, -⟩ := verdict_eq_none_iff.mp hverdict
    exact settles_of_handed rfl hverdict hverdict hworks (hx.staffed.employed (.inl hbusy)).1 rfl
      hcontents (site_congr hx hy hfresh rfl rfl rfl rfl rfl)
  | some error =>
    have hending : x.verdict ≠ none := by simp [hverdict]
    refine settles_of_ending rfl hverdict hverdict ⟨hworks, hcalm.alone, fun _ => ?_, fun _ => ?_⟩ rfl
    · exact (hcalm.starter hending).imp_right fun hover => absurd hover.receiver hbusy
    · exact (hcalm.still hending).imp_right (Or.imp_right (And.imp_right hcontents.trans))

/-- A turn of the receiver settles nothing. -/
theorem ReceiverTurn.settles (ht : ReceiverTurn x act y) : Settles x act y := by
  have hy := hx.receiverTurn ht
  cases ht with
  | read listening waiting =>
    refine settles_of_receives hx hcalm hy (by simp [listening]) nofun ?_
    simp [contents, listening, waiting, Receiver.hand]
  | look heard =>
    refine settles_of_receives hx hcalm hy (by simp [heard]) nofun ?_
    simp [contents, heard, Receiver.hand]
  | pass passing =>
    refine settles_of_receives hx hcalm hy (by simp [passing]) nofun ?_
    simp [contents, passing, Receiver.hand]
  | @ends error failing => exact absurd failing (hcalm.receiver error)
  | leaves may =>
    -- The receiver takes along what it has in hand, and in a calm end that is nothing.
    have hclosed := closed_of_receiverMayLeave hx.duly hx.staffed may
    have hbusy := receiver_ne_away_of_mayLeave may
    cases hverdict : x.verdict with
    | none =>
      obtain ⟨hfresh, -, -⟩ := verdict_eq_none_iff.mp hverdict
      exact absurd hclosed (ne_true_of_eq_false (hx.fresh hfresh).1)
    | some error =>
      have hending : x.verdict ≠ none := by simp [hverdict]
      have hverdict' : x.receiverLeaves.verdict = some error := hverdict
      refine settles_of_ending rfl hverdict hverdict' ⟨nofun, hcalm.alone, fun _ => ?_, fun _ => ?_⟩ rfl
      · exact (hcalm.starter hending).imp_right fun hover => absurd hover.receiver hbusy
      · refine (hcalm.still hending).imp_right (Or.imp_right (And.imp_right fun hnone => ?_))
        simp only [contents, List.append_eq_nil_iff] at hnone ⊢
        exact ⟨⟨hnone.1.1, rfl⟩, by simp [receiverLeaves, dry, hnone.2]⟩

omit hx in
/-- Nothing is in hand when the relay is going to end. -/
theorem verdict_of_busy (hwork : x.forwarder ≠ .away) (hgoesOn : ∀ error, x.forwarder ≠ .failing error)
    (hfull : x.forwarder = .taking → x.contents ≠ []) : x.verdict = none := by
  by_contra hending
  rcases hcalm.still hending with haway | ⟨e, hfailing⟩ | ⟨htaking, hnone⟩
  · exact hwork haway
  · exact hgoesOn e hfailing
  · exact hfull htaking hnone

/-- The forwarder goes on with what it has in hand. -/
theorem settles_of_forwards {f : Forwarder} {queue : List Bytes} {meter : Meter}
    (hy : InOrder { x with
      relay := { x.relay with meter := meter }, queue := queue, forwarder := f })
    (hverdict : x.verdict = none) (hbusy : x.forwarder ≠ .away) (hworks : ∀ error, f ≠ .failing error)
    (hreckoned : f.uncounted.foldl (fun m datagram => m.add (UInt64.ofNat datagram.length)) meter =
      x.reckoned)
    (hcontents : f.hand ++ queue ++ x.receiver.hand ++ x.relay.waiting = x.contents)
    (hact : act.sent? = none) :
    Settles x act { x with
      relay := { x.relay with meter := meter }, queue := queue, forwarder := f } := by
  obtain ⟨hfresh, -, hcalls⟩ := verdict_eq_none_iff.mp hverdict
  refine settles_of_handed hact hverdict (verdict_eq_none_iff.mpr ⟨hfresh, hworks, hcalls⟩)
    hcalm.receiver (hx.staffed.employed (.inr hbusy)).1 ?_ hcontents
    (site_congr hx hy hfresh rfl rfl rfl rfl rfl)
  rw [← hreckoned]
  rfl

/-- What the forwarder sends is the first of what was going to be sent. -/
theorem settles_of_send {datagram : Bytes} (sending : x.forwarder = .sending datagram)
    (heard : x.relay.unheard = false) :
    Settles x (.sends ⟨datagram, x.site.host.reaches x.relay.target⟩)
      { x with
        relay := { x.relay with unheard := !x.site.host.reaches x.relay.target }
        forwarder := .counting datagram } := by
  have hy := hx.forwarderTurn (.send sending heard)
  have hverdict := verdict_of_busy hcalm (by simp [sending]) (by simp [sending]) (by simp [sending])
  obtain ⟨hfresh, -, hcalls⟩ := verdict_eq_none_iff.mp hverdict
  obtain ⟨hopen, hrunning, -⟩ := hx.fresh hfresh
  have hstarted := (hx.staffed.employed (.inr (by simp [sending]))).1
  have hsite := site_congr hx hy hfresh rfl rfl rfl rfl rfl
  have hverdict' := verdict_eq_none_iff (x := { x with
    relay := { x.relay with unheard := !x.site.host.reaches x.relay.target }
    forwarder := .counting datagram }) |>.mpr ⟨hfresh, nofun, hcalls⟩
  refine ⟨calm_of_verdict hverdict' hcalm.receiver, ?_⟩
  rw [outcome_of_begun hverdict hstarted, outcome_of_begun hverdict' hstarted, hsite]
  simp [contents, reckoned, sending, Forwarder.hand, Forwarder.uncounted, sendAll, Relay.send, hopen,
    heard, Meter.record, hrunning, Act.sent?]

/-- A forwarder that is refused was going to end the relay. -/
theorem settles_of_refused (hunzoned : x.relay.inbound.unzoned = x.relay.inbound) {datagram : Bytes}
    (sending : x.forwarder = .sending datagram) (unheard : x.relay.unheard = true) :
    Settles x (.fails .forwarder Host.refused) { x with forwarder := .failing Host.refused } := by
  have hverdict := verdict_of_busy hcalm (by simp [sending]) (by simp [sending]) (by simp [sending])
  obtain ⟨hfresh, -, hcalls⟩ := verdict_eq_none_iff.mp hverdict
  obtain ⟨hstarted, hstarter⟩ := hx.staffed.employed (.inr (by simp [sending]))
  have hverdict' : ({ x with forwarder := .failing Host.refused } : Works).verdict =
    some (some Host.refused) := verdict_of_failing hfresh rfl
  refine ⟨⟨hcalm.receiver, fun hne => absurd hcalls hne, fun _ => .inl hstarter,
    fun _ => .inr (.inl ⟨_, rfl⟩)⟩, ?_⟩
  -- The datagram in hand is refused, and the relay that this closes sends no other one.
  have hsend : Relay.send datagram { x.relay with waiting := [], meter := x.reckoned } x.site =
      (none, x.ended (some Host.refused)) := by
    have hreckoned : x.reckoned = x.relay.meter := by simp [reckoned, sending, Forwarder.uncounted]
    rw [Relay.send, hreckoned, if_neg (by simp [(hx.fresh hfresh).1]), if_pos unheard]
    exact congrArg (Prod.mk none) (shutdown_eq_ended hx hfresh hunzoned [])
  rw [outcome_of_begun hverdict hstarted, outcome_of_verdict hverdict', contents, sending,
    Forwarder.hand, List.append_assoc, List.append_assoc, List.singleton_append, sendAll, hsend]
  simp only [sendAll_of_closed (show (x.ended (some Host.refused)).1.closed = true from rfl)]
  rfl

/-- A turn of the forwarder settles nothing. -/
theorem ForwarderTurn.settles (hunzoned : x.relay.inbound.unzoned = x.relay.inbound)
    (ht : ForwarderTurn x act y) : Settles x act y := by
  have hy := hx.forwarderTurn ht
  cases ht with
  | take taking queue =>
    have hverdict := verdict_of_busy hcalm (by simp [taking]) (by simp [taking])
      fun _ => by simp [contents, queue]
    refine settles_of_forwards hx hcalm hy hverdict (by simp [taking]) nofun ?_ ?_ rfl
    · simp [reckoned, taking, Forwarder.uncounted]
    · simp [contents, taking, queue, Forwarder.hand]
  | look doing | count doing | add doing =>
    have hverdict := verdict_of_busy hcalm (by simp [doing]) (by simp [doing]) (by simp [doing])
    refine settles_of_forwards hx hcalm hy hverdict (by simp [doing]) nofun ?_ ?_ rfl
    · simp [reckoned, doing, Forwarder.uncounted]
    · simp [contents, doing, Forwarder.hand]
  | send sending heard => exact settles_of_send hx hcalm sending heard
  | refused sending unheard => exact settles_of_refused hx hcalm hunzoned sending unheard
  -- A calm relay ends with nothing uncounted, so the meter runs while there is something to count.
  | miss counting stopped =>
    have hverdict := verdict_of_busy hcalm (by simp [counting]) (by simp [counting]) (by simp [counting])
    obtain ⟨-, hrunning, -⟩ := hx.fresh (verdict_eq_none_iff.mp hverdict).1
    exact absurd (stopped.symm.trans hrunning) nofun
  | @ends error failing fresh =>
    have hverdict := verdict_of_failing fresh failing
    have hverdict' : (x.beginEnd (some error)).verdict = some (some error) := rfl
    refine settles_of_ending rfl hverdict hverdict' ⟨hcalm.receiver, hcalm.alone, fun _ => .inl ?_,
      fun _ => .inr (.inl ⟨error, failing⟩)⟩ rfl
    exact (hcalm.starter (by simp [hverdict])).resolve_right fun hover => hover.begun fresh
  | leaves may =>
    have hclosed := closed_of_forwarderMayLeave hx.duly hx.staffed may
    have hwork := forwarder_ne_away_of_mayLeave may
    cases hclosing : x.closing with
    | none => exact absurd (hclosed.symm.trans (hx.fresh hclosing).1) nofun
    | some closing =>
      have hverdict := verdict_of_closing hclosing
      have hverdict' : x.forwarderLeaves.verdict = some closing.error := verdict_of_closing hclosing
      refine settles_of_ending rfl hverdict hverdict' ⟨hcalm.receiver, fun _ => nofun, fun _ => .inl ?_,
        fun _ => .inl rfl⟩ rfl
      exact (hcalm.starter (by simp [hverdict])).resolve_right fun hover => hwork hover.forwarder

omit hx in
/-- Calls go on when the end is over. -/
theorem settles_of_called {calls : List Call} {handles : Bool} (hover : x.isOver = true)
    (hcalls : x.calls ≠ []) (hact : act.sent? = none) :
    Settles x act { x with calls := calls, handles := handles } := by
  have hbegun : x.closing ≠ none := fun hfresh =>
    absurd ((isOver_of_fresh hfresh).symm.trans hover) nofun
  obtain ⟨closing, hclosing⟩ := Option.ne_none_iff_exists'.mp hbegun
  have hverdict := verdict_of_closing hclosing
  have hending : x.verdict ≠ none := by simp [hverdict]
  refine settles_of_ending hact hverdict (verdict_of_closing hclosing)
    ⟨hcalm.receiver, fun _ => hcalm.alone hcalls, fun _ => ?_, fun _ => hcalm.still hending⟩ rfl
  exact (hcalm.starter hending).imp_right fun hover => hover.congr rfl hover.starter rfl rfl

/-- A turn of a call settles nothing. -/
theorem CallTurn.settles (ht : CallTurn x act y) : Settles x act y := by
  cases ht with
  | ends ending fresh =>
    have hcalls : x.calls ≠ [] := List.ne_nil_of_mem ending
    have hverdict := verdict_of_calls fresh (hcalm.alone hcalls) hcalls
    have hending : x.verdict ≠ none := by simp [hverdict]
    have hverdict' : (x.beginEnd none).verdict = some none := rfl
    refine settles_of_ending rfl hverdict hverdict' ⟨hcalm.receiver, hcalm.alone, fun _ => .inl ?_,
      fun _ => hcalm.still hending⟩ rfl
    exact (hcalm.starter hending).resolve_right fun hover => hover.begun fresh
  | next calls next =>
    exact settles_of_called hcalm (hx.duly.isOver_of_next calls next) (by simp [calls]) rfl
  | returns calls =>
    have hover := hx.duly.calls .returning (by simp [calls]) nofun
    exact settles_of_called hcalm hover (by simp [calls]) rfl

omit hx in
/-- A chore of the end settles nothing. -/
theorem settles_of_discharge {chore : Chore} {left : List Chore}
    (hpending : x.closing = some ⟨error, chore :: left⟩) :
    Settles x .turns (x.discharge error left chore) := by
  have hverdict : x.verdict = some error := verdict_of_closing hpending
  have hverdict' : (x.discharge error left chore).verdict = some error := by cases chore <;> rfl
  have hending : x.verdict ≠ none := by simp [hverdict]
  have hgoing : ¬Over x := fun hover => absurd hover.isOver (by simp [isOver, hpending])
  refine settles_of_ending rfl hverdict hverdict' ⟨?_, ?_, fun _ => .inl ?_, fun _ => ?_⟩ ?_
  · cases chore <;> exact hcalm.receiver
  · cases chore <;> exact hcalm.alone
  · have haway := (hcalm.starter hending).resolve_right hgoing
    cases chore <;> exact haway
  · have hstill := hcalm.still hending
    cases chore with
    -- The socket takes along what waits in it.
    | inbound =>
      refine hstill.imp_right (Or.imp_right (And.imp_right fun hnone => ?_))
      simp only [contents, List.append_eq_nil_iff] at hnone ⊢
      exact ⟨hnone.1, by simp [discharge, dry, hnone.2]⟩
    | _ => exact hstill
  · cases chore with
    | latch =>
      have hagain : ∀ l o, ((l : Latch).finish o).2.1.finish (l.finish o).2.2 =
          (false, (l.finish o).2.1, (l.finish o).2.2) := fun l o => by
        rw [Latch.finish, if_pos (Latch.isDone_finish l o)]
      simp [ended, discharge, hagain]
    | _ => rfl

/-- Whoever takes a turn, nothing is settled by that. -/
theorem Turn.settles (hunzoned : x.relay.inbound.unzoned = x.relay.inbound) (ht : Turn x act y) :
    Settles x act y := by
  cases ht with
  | starter turn => exact turn.settles hx hcalm
  | receiver turn => exact turn.settles hx hcalm
  | forwarder turn => exact turn.settles hx hcalm hunzoned
  | call turn => exact turn.settles hx hcalm
  | chore pending => exact settles_of_discharge hcalm pending

end Turns

/-- A relay keeps its addresses, and its threads touch no sockets of others. -/
theorem Turn.addresses (h : Turn x act y) :
    y.relay.inbound = x.relay.inbound ∧ y.relay.target = x.relay.target ∧ y.others = x.others := by
  cases h with
  | starter turn => cases turn <;> exact ⟨rfl, rfl, rfl⟩
  | receiver turn => cases turn <;> exact ⟨rfl, rfl, rfl⟩
  | forwarder turn => cases turn <;> exact ⟨rfl, rfl, rfl⟩
  | call turn => cases turn <;> exact ⟨rfl, rfl, rfl⟩
  | @chore error chore left => cases chore <;> exact ⟨rfl, rfl, rfl⟩

/-- Turns in a row send the first ones of what is still going to be sent. -/
theorem outcome_of_turns (hx : InOrder x) (hcalm : Calm x)
    (hunzoned : x.relay.inbound.unzoned = x.relay.inbound) (h : Run Turn x acts y) :
    Calm y ∧ y.relay.inbound = x.relay.inbound ∧
      x.outcome = (Act.sent acts ++ y.outcome.1, y.outcome.2) := by
  induction h with
  | here => exact ⟨hcalm, rfl, rfl⟩
  | next hrun hlast ih =>
    obtain ⟨hcalm', hinbound, houtcome⟩ := ih
    have hsettles := hlast.settles (hx.turns hrun) hcalm' (hinbound ▸ hunzoned)
    refine ⟨hsettles.calm, hlast.addresses.1.trans hinbound, ?_⟩
    rw [houtcome, hsettles.outcome, Act.sent_concat, List.append_assoc]

end Works

/-! ## The relay without its threads -/

/-- What callers **do to a relay** and the host does. -/
inductive Operation where
  | start
  | arrive (datagram : Bytes)
  | close
  deriving DecidableEq, Repr

namespace Operation

/-- The operation, with the threads to follow. -/
def perform : Operation → Works → Works
  | start => Works.start
  | arrive datagram => Works.arrive datagram
  | close => Works.close

/-- The operation on the relay alone. -/
def run : Operation → Relay → Site → List Delivery × Relay × Site
  | start => Relay.start
  | arrive datagram => Relay.arrive datagram
  | close => fun r s => ([], r.close s)

end Operation

namespace Works

variable {x y : Works} {turns : List Act}

/-- The threads are in order, whatever is done to the relay. -/
theorem InOrder.perform (hx : InOrder x) (op : Operation) : InOrder (op.perform x) := by
  cases op with
  | start => exact hx.start
  | arrive datagram => exact hx.arrive datagram
  | close => exact hx.close

/-- What is done to a relay at rest, with the threads to follow, comes to what is done to the relay
alone. -/
structure Prepares (x : Works) (op : Operation) : Prop where
  calm : Calm (op.perform x)
  outcome : (op.perform x).outcome = op.run x.relay x.site

/-- At rest no receiver is failing. -/
theorem AtRest.receiver_ne_failing (h : x.AtRest) (error : Text) : x.receiver ≠ .failing error := by
  intro hfailing
  rcases h.receiver with haway | ⟨hlistening, -⟩
  · exact absurd (haway.symm.trans hfailing) nofun
  · exact absurd (hlistening.symm.trans hfailing) nofun

/-- A relay that is over is calm. -/
theorem Over.calm (h : Over x) : Calm x := by
  refine ⟨fun e he => ?_, fun _ e he => ?_, fun _ => .inr h, fun _ => .inl h.forwarder⟩
  · exact absurd (h.receiver.symm.trans he) nofun
  · exact absurd (h.forwarder.symm.trans he) nofun

/-- A relay at rest is calm. -/
theorem AtRest.calm (h : x.AtRest) (hx : InOrder x) : Calm x := by
  by_cases hfresh : x.closing = none
  · exact calm_of_verdict (h.verdict_of_fresh hx hfresh) h.receiver_ne_failing
  · exact (h.over hx hfresh).calm

/-- A start that has marked a relay at rest, and has not done more. -/
theorem AtRest.begun (h : x.AtRest) (hx : InOrder x) (hstarted : x.relay.started = false) :
    let y : Works := { x with relay := { x.relay with started := true }, starter := .begun }
    InOrder y → Calm y ∧ y.outcome = Relay.start x.relay x.site := by
  intro y hy
  have hrun : Relay.start x.relay x.site =
      sendAll x.relay.waiting { x.relay with started := true, waiting := [] } x.site := by
    simp [Relay.start, hstarted, pump]
  rw [hrun]
  by_cases hfresh : x.closing = none
  · obtain ⟨hcontents, hreckoned, -⟩ := h.contents_eq hx hfresh
    have hverdict : y.verdict = none := h.verdict_of_fresh hx hfresh
    have hsite : y.site = x.site := site_congr hx hy hfresh rfl rfl rfl rfl rfl
    have hcontents' : y.contents = x.relay.waiting := hcontents
    have hreckoned' : y.reckoned = x.relay.meter := hreckoned
    refine ⟨calm_of_verdict hverdict h.receiver_ne_failing, ?_⟩
    rw [outcome_of_begun hverdict rfl, hsite, hcontents', hreckoned']
  · have hover := h.over hx hfresh
    have hover' : Over y := hover.congr rfl ⟨rfl, rfl⟩ rfl rfl
    have hwaiting := hx.stocked.dry hover.inbound
    refine ⟨hover'.calm, ?_⟩
    rw [hover'.outcome_eq hy, site_of_over hover', site_of_over hover, hwaiting, sendAll, ← hwaiting]

/-- A call of start to a relay at rest comes to what starting it does. -/
theorem AtRest.prepares_start (h : x.AtRest) (hx : InOrder x) : Prepares x .start := by
  cases hstarted : x.relay.started with
  | true =>
    have hsame : Operation.start.perform x = x := if_pos hstarted
    have hrun : Operation.start.run x.relay x.site = ([], x.relay, x.site) := if_pos hstarted
    refine ⟨?_, ?_⟩ <;> rw [hsame]
    · exact h.calm hx
    · rw [h.outcome_eq hx, hrun]
  | false =>
    have hmarked : Operation.start.perform x =
        { x with relay := { x.relay with started := true }, starter := .begun } :=
      if_neg (by rw [hstarted]; exact nofun)
    have hy := hx.perform .start
    rw [hmarked] at hy
    obtain ⟨hcalm, houtcome⟩ := h.begun hx hstarted hy
    exact ⟨hmarked ▸ hcalm, hmarked ▸ houtcome⟩

/-- Something more waits at an open relay at rest. -/
theorem AtRest.awaiting (h : x.AtRest) (hx : InOrder x) (hfresh : x.closing = none)
    (waiting : List Bytes) :
    let y : Works := { x with relay := { x.relay with waiting := waiting } }
    Calm y ∧ y.outcome = pump { x.relay with waiting := waiting } x.site := by
  intro y
  have hverdict : y.verdict = none := h.verdict_of_fresh hx hfresh
  have hsite : y.site = x.site := rfl
  refine ⟨calm_of_verdict hverdict h.receiver_ne_failing, ?_⟩
  cases hstarted : x.relay.started with
  | false =>
    rw [outcome_of_unbegun hverdict hstarted, pump, if_neg (by simp [hstarted]), hsite]
  | true =>
    obtain ⟨hreceiver, hforwarder, hqueue, -⟩ := h.of_open hx (hx.fresh hfresh).1 hstarted
    have hcontents : y.contents = waiting := by
      simp [y, contents, hreceiver, hforwarder, hqueue, Forwarder.hand, Receiver.hand]
    have hreckoned : y.reckoned = x.relay.meter := by
      simp [y, reckoned, hforwarder, Forwarder.uncounted]
    rw [outcome_of_begun hverdict hstarted, hcontents, hreckoned, pump, if_pos hstarted, hsite]

/-- A datagram at a relay at rest comes to what its arrival does. -/
theorem AtRest.prepares_arrive (h : x.AtRest) (hx : InOrder x) (datagram : Bytes) :
    Prepares x (.arrive datagram) := by
  by_cases hfresh : x.closing = none
  · obtain ⟨hopen, -, hheld, -⟩ := hx.fresh hfresh
    have hread : Operation.perform (.arrive datagram) x = { x with relay := { x.relay with
        waiting := x.relay.waiting ++ [datagram.take largestDatagram] } } := if_pos hheld
    have hrun : Operation.run (.arrive datagram) x.relay x.site =
        pump { x.relay with waiting := x.relay.waiting ++ [datagram.take largestDatagram] } x.site := by
      simp [Operation.run, Relay.arrive, hopen]
    obtain ⟨hcalm, houtcome⟩ := h.awaiting hx hfresh (x.relay.waiting ++ [datagram.take largestDatagram])
    exact ⟨hread ▸ hcalm, hread ▸ houtcome.trans hrun.symm⟩
  · have hover := h.over hx hfresh
    have hlost : Operation.perform (.arrive datagram) x = x :=
      if_neg (by rw [hover.inbound]; exact nofun)
    refine ⟨?_, ?_⟩ <;> rw [hlost]
    · exact hover.calm
    · have hclosed := hx.duly.closed_of_isOver hover.isOver
      rw [hover.outcome_eq hx, Operation.run, Relay.arrive, if_pos hclosed]

/-- A call of close to a relay at rest comes to what closing it does. -/
theorem AtRest.prepares_close (h : x.AtRest) (hx : InOrder x)
    (hunzoned : x.relay.inbound.unzoned = x.relay.inbound) : Prepares x .close := by
  have hy := hx.perform .close
  by_cases hfresh : x.closing = none
  · have hcalls : (Operation.close.perform x).calls ≠ [] := by simp [Operation.perform, Works.close]
    have hverdict : (Operation.close.perform x).verdict = some none :=
      verdict_of_calls hfresh h.forwarder_ne_failing hcalls
    refine ⟨⟨h.receiver_ne_failing, fun _ => h.forwarder_ne_failing, fun _ => .inl h.starter,
      fun _ => ?_⟩, ?_⟩
    · obtain ⟨hcontents, -, hwaiting⟩ := h.contents_eq hx hfresh
      rcases h.forwarder with haway | ⟨htaking, -⟩
      · exact .inl haway
      · have hstarted := (hx.staffed.employed (.inr (by simp [htaking]))).1
        exact .inr (.inr ⟨htaking, hcontents.trans (hwaiting hstarted)⟩)
    · rw [outcome_of_verdict hverdict]
      exact congrArg (Prod.mk []) (shutdown_eq_ended hx hfresh hunzoned x.relay.waiting).symm
  · have hover := h.over hx hfresh
    have hover' : Over (Operation.close.perform x) := hover.congr rfl hover.starter rfl rfl
    have hclosed := hx.duly.closed_of_isOver hover.isOver
    have hrun : Operation.close.run x.relay x.site = ([], x.relay, x.site) :=
      congrArg (Prod.mk []) (if_pos hclosed)
    refine ⟨hover'.calm, ?_⟩
    rw [hover'.outcome_eq hy, hrun, site_of_over hover', site_of_over hover]
    rfl

/-- Whatever is done to the relay and its threads at rest, they **come to rest** again, and then as
if there were only the relay. -/
def Agrees (x : Works) : Prop :=
  ∀ op : Operation, (∃ turns y, Run Turn (op.perform x) turns y ∧ y.AtRest) ∧
    ∀ turns y, Run Turn (op.perform x) turns y → y.AtRest →
      (Act.sent turns, y.relay, y.site) = op.run x.relay x.site

/-- A relay at rest comes to what the functions without threads say, whatever is done. -/
theorem AtRest.agrees (h : x.AtRest) (hx : InOrder x)
    (hunzoned : x.relay.inbound.unzoned = x.relay.inbound) : Agrees x := by
  intro op
  refine ⟨exists_atRest _, fun turns y hturns hy => ?_⟩
  have hprepares : Prepares x op := by
    cases op with
    | start => exact h.prepares_start hx
    | arrive datagram => exact h.prepares_arrive hx datagram
    | close => exact h.prepares_close hx hunzoned
  have hinbound : (op.perform x).relay.inbound = x.relay.inbound := by
    cases op with
    | start =>
      dsimp only [Operation.perform]
      unfold Works.start
      split <;> rfl
    | arrive =>
      dsimp only [Operation.perform]
      unfold Works.arrive
      split <;> rfl
    | close => rfl
  obtain ⟨-, -, houtcome⟩ := outcome_of_turns (hx.perform op) hprepares.calm (hinbound ▸ hunzoned) hturns
  rw [← hprepares.outcome, houtcome, hy.outcome_eq ((hx.perform op).turns hturns), List.append_nil]

end Works
end MediaProxy.Relay
