import MediaProxy.Proofs.Completion.Telling
import MediaProxy.Proofs.Rtsp.Listening
import MediaProxy.Proofs.Rtsp.Opening
import MediaProxy.Proofs.Runs

/-!
# The life of a session

Once a session is open, the server says more, in parts and whenever it likes, and may hang up; the
client is stopped, any number of times; and others wait for its end (`Step`). Whatever the order of
all that, the session is over when the client was stopped or when the reads of what the server has
said come to an end, and not before: however many responses there are, and whatever they say, the
client goes on listening (`Plays.finished_iff`). The end is told once, and of all that makes one
`TEARDOWN` at most, which is the last thing that the client says (`plays`).

That it makes no difference in which parts the stream has come is, again, that reads stand when more
arrives behind them (`Feed.Grows`). What is new is that the first read that gives no response stands
as well, unless the reader was starved (`Grows.comesTo`); and a reader that was starved goes on
where it has stopped (`ComesTo.of_after`).

What is NOT decided here. A client says something now and then only to keep its session alive; that
is left out, and so are the numbers that the requests after it would have.
-/

namespace MediaProxy.Rtsp

open Feed (Grows)

/-! ## What the reads of a feed come to -/

namespace Feed

/-- The first read that gives no response is the one after `k` others, and this is **what it
gives**. -/
structure ComesTo (f : Feed) (k : Nat) (reading : Reading) : Prop where
  responses : ∀ j < k, ∃ r, f.reading j = .response r
  last : f.reading k = reading
  other : ∀ r, reading ≠ .response r

/-- The reads **end**: the stream is over, or holds something that is no response. -/
def Ends (f : Feed) : Prop := ∃ k reading, f.ComesTo k reading ∧
  (reading = .over ∨ ∃ cause, reading = .fault cause)

/-- The reader **breaks down**. -/
def Breaks (f : Feed) : Prop := ∃ k message, f.ComesTo k (.brokeDown message)

variable {f f' : Feed} {k k' j : Nat} {more : Bytes} {reading reading' : Reading} {cause : Fault}

/-- A feed comes to one end at most. -/
theorem ComesTo.unique (h : f.ComesTo k reading) (h' : f.ComesTo k' reading') :
    k = k' ∧ reading = reading' := by
  have hk : k = k' := by
    rcases Nat.lt_trichotomy k k' with hlt | heq | hgt
    · obtain ⟨r, hr⟩ := h'.responses k hlt
      exact absurd (h.last.symm.trans hr) (h.other r)
    · exact heq
    · obtain ⟨r, hr⟩ := h.responses k' hgt
      exact absurd (h'.last.symm.trans hr) (h'.other r)
  subst hk
  exact ⟨rfl, h.last.symm.trans h'.last⟩

/-- A feed breaks down only where a response claims too much. -/
theorem Breaks.exists_overreaches (h : f.Breaks) : ∃ k, Overreaches f.ending (f.after k).stream := by
  obtain ⟨k, message, hcomes⟩ := h
  exact ⟨k, brokeDown_iff.mp ⟨message, hcomes.last⟩⟩

/-- To read on is to have read more. -/
theorem after_after (f : Feed) (k j : Nat) : (f.after k).after j = f.after (k + j) := by
  induction j with
  | zero => rfl
  | succ j ih => rw [after_succ, ih, ← Nat.add_assoc, after_succ]; rfl

/-- The readings from a place on are those that follow there. -/
theorem reading_after (f : Feed) (k j : Nat) : (f.after k).reading j = f.reading (k + j) := by
  unfold reading
  rw [after_after]
  rfl

/-- What the reads behind some responses come to is what all of them come to. -/
theorem ComesTo.of_after (hresponses : ∀ i < k, ∃ r, f.reading i = .response r)
    (h : (f.after k).ComesTo j reading) : f.ComesTo (k + j) reading := by
  refine ⟨fun i hi => ?_, by rw [← reading_after, h.last], h.other⟩
  by_cases hless : i < k
  · exact hresponses i hless
  · obtain ⟨r, hr⟩ := h.responses (i - k) (by omega)
    rw [reading_after, Nat.add_sub_cancel' (Nat.le_of_not_lt hless)] at hr
    exact ⟨r, hr⟩

/-- What the reads come to stands when more arrives, unless the reader is starved. -/
theorem Grows.comesTo (hgrows : Grows f more f') (h : f.ComesTo k reading)
    (hne : ∀ cause, reading ≠ .starved cause) : f'.ComesTo k reading := by
  obtain ⟨hafter, hsame⟩ := hgrows.after h.responses
  have htake : Rtsp.takeResponse (f.after k).ending (f.after k).stream =
      (reading, (Rtsp.takeResponse (f.after k).ending (f.after k).stream).2) := Prod.ext h.last rfl
  refine ⟨fun j hj => ?_, congrArg Prod.fst (hafter.takeResponse htake hne), h.other⟩
  rw [hsame j hj]
  exact h.responses j hj

/-- A feed that has come to its end stays there when more arrives. -/
theorem Grows.ends (hgrows : Grows f more f') (h : f.Ends) : f'.Ends := by
  obtain ⟨k, reading, hcomes, hend⟩ := h
  refine ⟨k, reading, hgrows.comesTo hcomes ?_, hend⟩
  rcases hend with rfl | ⟨cause, rfl⟩ <;> exact fun _ => nofun

/-- A feed that breaks down does so when more arrives. -/
theorem Grows.breaks (hgrows : Grows f more f') (h : f.Breaks) : f'.Breaks := by
  obtain ⟨k, message, hcomes⟩ := h
  exact ⟨k, message, hgrows.comesTo hcomes fun _ => nofun⟩

/-- How a client is that has listened to a feed, and what it has **left unread** if it listens on.
-/
inductive Leaves (f : Feed) : Life → Bytes → Prop where
  | playing {k : Nat} {cause : Fault} (h : f.ComesTo k (.starved cause)) :
      Leaves f .playing (f.after k).stream
  | finished (h : f.Ends) (rest : Bytes) : Leaves f .finished rest
  | deaf (h : f.Breaks) (rest : Bytes) : Leaves f .deaf rest

/-- Listening goes on where it has stopped. -/
theorem Leaves.of_after {life : Life} {rest : Bytes}
    (hresponses : ∀ i < k, ∃ r, f.reading i = .response r) (h : (f.after k).Leaves life rest) :
    f.Leaves life rest := by
  cases h with
  | playing h =>
    rw [after_after]
    exact .playing (h.of_after hresponses)
  | finished h =>
    obtain ⟨j, reading, hcomes, hend⟩ := h
    exact .finished ⟨k + j, reading, hcomes.of_after hresponses, hend⟩ rest
  | deaf h =>
    obtain ⟨j, message, hcomes⟩ := h
    exact .deaf ⟨k + j, message, hcomes.of_after hresponses⟩ rest

/-- A client is finished when the reads have ended, and listens on as long as they have not. -/
theorem Leaves.finished_iff {life : Life} {rest : Bytes} (h : f.Leaves life rest)
    (hunbroken : ¬f.Breaks) :
    (life = .finished ↔ f.Ends) ∧ (life = .finished ∨ life = .playing) := by
  cases h with
  | playing hstarved =>
    refine ⟨⟨nofun, ?_⟩, .inr rfl⟩
    rintro ⟨k, reading, hcomes, hend⟩
    obtain rfl := (hcomes.unique hstarved).2
    rcases hend with hover | ⟨cause, hfault⟩
    · cases hover
    · cases hfault
  | finished hends => exact ⟨iff_of_true rfl hends, .inl rfl⟩
  | deaf hbreaks => exact absurd hbreaks hunbroken

end Feed

/-! ## One client listens -/

/-- The feed of a **connection**: what it has received and not been read. -/
def Connection.feed (c : Connection) : Feed := ⟨c.unread, c.ending⟩

/-- A client that listens leaves what it has not read. -/
theorem Client.leaves_listenFor {n : Nat} {c : Connection} (t : Transcripts)
    (hn : c.unread.length < n) :
    c.feed.Leaves (listenFor n c t).1 (listenFor n c t).2.1.unread := by
  induction n generalizing c t with
  | zero => exact absurd hn (Nat.not_lt_zero _)
  | succ n ih =>
    obtain ⟨reading, rest, htake⟩ : ∃ reading rest, takeResponse c.ending c.unread = (reading, rest) :=
      ⟨_, _, rfl⟩
    have hhear : c.hear = (reading, { c with unread := rest }) := by rw [Connection.hear, htake]
    have hfirst : c.feed.reading 0 = reading := congrArg Prod.fst htake
    have hnone : ∀ j < 0, ∃ r, c.feed.reading j = .response r :=
      fun j hj => absurd hj (Nat.not_lt_zero j)
    rw [listenFor, hhear]
    cases reading with
    | response r =>
      have hrest : rest.length < n :=
        Nat.lt_of_lt_of_le (length_lt_of_response htake) (Nat.lt_succ_iff.mp hn)
      have hafter : c.feed.after 1 = Connection.feed { c with unread := rest } :=
        congrArg (Feed.mk · c.ending) (congrArg Prod.snd htake)
      -- What is left after one response is what is left after the rest of the readings.
      refine Feed.Leaves.of_after (k := 1) (fun i hi => ?_) (hafter ▸ ih _ hrest)
      obtain rfl := Nat.lt_one_iff.mp hi
      exact ⟨r, hfirst⟩
    | starved cause => exact .playing ⟨hnone, hfirst, by simp⟩
    | fault cause => exact .finished ⟨0, _, ⟨hnone, hfirst, by simp⟩, .inr ⟨cause, rfl⟩⟩ _
    | «over» => exact .finished ⟨0, _, ⟨hnone, hfirst, by simp⟩, .inl rfl⟩ _
    | brokeDown message => exact .deaf ⟨0, message, ⟨hnone, hfirst, by simp⟩⟩ _

/-- A client that listens says nothing to its peer. -/
theorem Client.peer_listenFor (n : Nat) (c : Connection) (t : Transcripts) :
    (listenFor n c t).2.1.peer = c.peer := by
  induction n generalizing c t with
  | zero => rfl
  | succ n ih =>
    rw [listenFor, Connection.hear]
    cases takeResponse c.ending c.unread with
    | mk reading rest =>
      cases reading with
      | response r => exact ih _ _
      | fault | starved | «over» | brokeDown => rfl

/-! ## What happens to a session -/

/-- What can **happen** to a session. -/
inductive Event where
  /-- The server says something, and may hang up. -/
  | sends (sent : Bytes) (hangsUp : Bool)
  /-- The client is stopped, by whoever holds it. -/
  | stops
  /-- Somebody registers with the latch or looks at a signal. -/
  | watched (w : Watch)
  deriving DecidableEq, Repr

def Event.watch? : Event → Option Watch
  | .watched w => some w
  | _ => none

def Event.watches (events : List Event) : List Watch := events.filterMap watch?

/-- What has come of the stream after one more event. -/
def Feed.hear (f : Feed) : Event → Feed
  | .sends sent hangsUp => ⟨f.stream ++ sent, if hangsUp then .closed else f.ending⟩
  | _ => f

/-- What has come of the stream after some events. -/
def Feed.hearAll (f : Feed) (events : List Event) : Feed := events.foldl hear f

/-- The client with another state of the other end. -/
def Observed.facing (peer : Peer) (o : Observed) : Observed :=
  { o with client := { o.client with connection := { o.client.connection with peer := peer } } }

/-- Something **happens** to a session. A server that has hung up says nothing any more. -/
inductive Step (released : Bool) :
    Observed × Transcripts → Event → Observed × Transcripts → Prop where
  | sends {o : Observed} {t : Transcripts} {sent : Bytes} {hangsUp : Bool} (peer : Peer)
      (silent : o.client.connection.peer.closed = true → sent = [])
      (closed : peer.closed = (o.client.connection.peer.closed || hangsUp)) :
      Step released (o, t) (.sends sent hangsUp) ((o.facing peer).receive sent t)
  | stops (o : Observed) (t : Transcripts) : Step released (o, t) .stops (o.stop released t)
  | watched {o : Observed} {t : Transcripts} {w : Watch} {l : Latch} {observers : Observers}
      (watches : Watches o.latch o.observers w l observers) :
      Step released (o, t) (.watched w) ({ o with latch := l, observers := observers }, t)

section Concat

variable (events : List Event) (event : Event)

theorem Event.watches_concat :
    watches (events ++ [event]) = watches events ++ event.watch?.toList := by
  cases h : event.watch? <;> simp [watches, h]

theorem Feed.hearAll_concat (f : Feed) :
    f.hearAll (events ++ [event]) = (f.hearAll events).hear event := by
  rw [hearAll, List.foldl_append]
  rfl

end Concat

namespace Observed

variable (o : Observed) (t : Transcripts)

/-- A client that has finished has its latch done, and everybody is told. -/
theorem settle_eq :
    o.settle =
      if o.client.life = .finished then
        ⟨o.client, (o.latch.finish o.observers).2.1, (o.latch.finish o.observers).2.2⟩
      else o := by
  unfold settle
  split <;> rfl

theorem client_settle : o.settle.client = o.client := by
  rw [settle_eq]
  split <;> rfl

/-- Who is told of the end of a client stays accounted for. -/
theorem accounts_settle {o₀ : Observers} {ws : List Watch}
    (h : Latch.Accounts o₀ ws o.latch o.observers) :
    Latch.Accounts o₀ ws o.settle.latch o.settle.observers := by
  rw [settle_eq]
  split
  · exact h.finish
  · exact h

end Observed

namespace Client

variable (c : Client) (t : Transcripts)

/-- A client that plays no more listens to nothing. -/
theorem listen_of_not_playing (h : c.life ≠ .playing) : c.listen t = (c, t) := if_neg h

/-- What a client hears changes nothing but its life and what it has left unread. -/
theorem listen_keeps :
    (c.listen t).1.url = c.url ∧ (c.listen t).1.session = c.session ∧
      (c.listen t).1.stopped = c.stopped ∧ (c.listen t).1.connection.said = c.connection.said ∧
      (c.listen t).1.connection.peer = c.connection.peer := by
  by_cases h : c.life = .playing
  · rw [listen, if_pos h]
    exact ⟨rfl, rfl, rfl, said_listenFor .., peer_listenFor ..⟩
  · rw [c.listen_of_not_playing t h]
    exact ⟨rfl, rfl, rfl, rfl, rfl⟩

/-- A client that has been stopped is not stopped again. -/
theorem stop_of_stopped (released : Bool) (h : c.stopped = true) : c.stop released t = (c, t) :=
  if_pos h

/-- The first stop says `TEARDOWN`, and nobody listens after it. -/
theorem stop_of_not_stopped (released : Bool) (h : c.stopped = false) :
    (c.stop released t).1 =
      { c with
        stopped := true
        life := if c.life = .playing then .finished else c.life
        connection := (c.connection.say released (teardownRequest c.url c.session) t).2.1 } := by
  rw [stop, h, if_neg Bool.false_ne_true]

/-- A client that is as a feed **leaves** it is as the feed leaves it that this has grown into, when
it has heard what has come since. -/
theorem leaves_listen {f f' : Feed} {more unread : Bytes} (h : f.Leaves c.life unread)
    (hgrows : Grows f more f') (hunread : c.connection.unread = unread ++ more)
    (hending : c.connection.ending = f'.ending) :
    f'.Leaves (c.listen t).1.life (c.listen t).1.connection.unread := by
  generalize hlife : c.life = life at h
  cases h with
  | @playing k cause hcomes =>
    obtain ⟨hafter, hsame⟩ := hgrows.after hcomes.responses
    have hfeed : f'.after k = c.connection.feed := by
      rw [Connection.feed, hunread, hending, ← hafter.stream]
      rfl
    rw [listen, if_pos hlife]
    refine Feed.Leaves.of_after (fun j hj => ?_)
      (hfeed ▸ leaves_listenFor t (Nat.lt_succ_self c.connection.unread.length))
    rw [hsame j hj]
    exact hcomes.responses j hj
  | finished hends =>
    rw [c.listen_of_not_playing t (by simp [hlife]), hlife]
    exact .finished (hgrows.ends hends) _
  | deaf hbreaks =>
    rw [c.listen_of_not_playing t (by simp [hlife]), hlife]
    exact .deaf (hgrows.breaks hbreaks) _

end Client

/-! ## Sessions -/

variable {released : Bool} {url : Text} {session : Option Text} {feed : Feed} {o₀ : Observers}
  {events : List Event} {x y : Observed × Transcripts}

/-- The **requests** that a client has made that opened a session with some. -/
def requestsOf (opening : List Request) (url : Text) (session : Option Text) (events : List Event) :
    List Request :=
  opening ++ if .stops ∈ events then [teardownRequest url session] else []

/-- What is true of a session **at any time** after it was opened with some requests, `feed` being
what had come by then. -/
structure Sane (opening : List Request) (url : Text) (session : Option Text) (feed : Feed)
    (o₀ : Observers) (events : List Event) (o : Observed) : Prop where
  names : o.client.url = url ∧ o.client.session = session
  stopped : o.client.stopped = true ↔ .stops ∈ events
  said : o.client.connection.said = requestsOf opening url session events
  /-- A stream that is closed is so because the server has hung up. -/
  hungUp : (feed.hearAll events).ending = .closed → o.client.connection.peer.closed = true
  ending : .stops ∉ events → o.client.connection.ending = (feed.hearAll events).ending
  listened : .stops ∉ events →
    (feed.hearAll events).Leaves o.client.life o.client.connection.unread
  ended : .stops ∈ events →
    o.client.life = .finished ∨ o.client.life = .deaf ∧ (feed.hearAll events).Breaks
  done : o.latch.isDone = true ↔ o.client.life = .finished
  told : Latch.Accounts o₀ (Event.watches events) o.latch o.observers

variable {opening : List Request} {o : Observed}

/-- A latch is done when the session is over, once it has settled. -/
theorem Sane.done_settle (h : Sane opening url session feed o₀ events o) (o' : Observed)
    (hlatch : o'.latch = o.latch) (hlife : o.client.life = .finished → o'.client.life = .finished) :
    o'.settle.latch.isDone = true ↔ o'.settle.client.life = .finished := by
  rw [Observed.settle_isDone, Observed.client_settle, hlatch, h.done]
  exact or_iff_right_of_imp hlife

/-- What a client has written depends on whether it was stopped, and on nothing else. -/
theorem requestsOf_congr {events' : List Event} (h : .stops ∈ events' ↔ .stops ∈ events) :
    requestsOf opening url session events' = requestsOf opening url session events := by
  simp [requestsOf, h]

/-- The server says something, and the client listens on or has done with it. -/
theorem Sane.sends (h : Sane opening url session feed o₀ events o) {sent : Bytes} {hangsUp : Bool}
    {peer : Peer} (hsilent : o.client.connection.peer.closed = true → sent = [])
    (hclosed : peer.closed = (o.client.connection.peer.closed || hangsUp)) (t : Transcripts) :
    Sane opening url session feed o₀ (events ++ [.sends sent hangsUp])
      ((o.facing peer).receive sent t).1 := by
  have hfeed : feed.hearAll (events ++ [.sends sent hangsUp]) =
      ⟨(feed.hearAll events).stream ++ sent,
        if hangsUp then .closed else (feed.hearAll events).ending⟩ :=
    Feed.hearAll_concat ..
  have hgrows : Grows (feed.hearAll events) sent (feed.hearAll (events ++ [.sends sent hangsUp])) := by
    rw [hfeed]
    refine ⟨rfl, fun hending => ⟨hsilent (h.hungUp hending), ?_⟩⟩
    rw [hending]
    split <;> rfl
  have hstops : .stops ∈ events ++ [.sends sent hangsUp] ↔ .stops ∈ events := by simp
  -- The client with what has come in, before it listens.
  set heard : Client := { o.client with
    connection := { o.client.connection with
      peer := peer, unread := o.client.connection.unread ++ sent } }
  obtain ⟨hurl, hsession, hstopped, hsaid, hpeer⟩ := heard.listen_keeps t
  have hclient : ((o.facing peer).receive sent t).1.client = (heard.listen t).1 :=
    Observed.client_settle _
  -- A client that does not play leaves what has come in unread.
  have hover (hlife : o.client.life ≠ .playing) : (heard.listen t).1.life = o.client.life := by
    rw [heard.listen_of_not_playing t hlife]
  have hending (hgoesOn : .stops ∉ events) :
      heard.connection.ending = (feed.hearAll (events ++ [.sends sent hangsUp])).ending := by
    rw [hfeed, ← h.ending hgoesOn, Connection.ending, Connection.ending]
    show (if peer.closed then Ending.closed else .silent) = _
    rw [hclosed]
    cases hangsUp <;> simp
  refine {
    names := ?names
    stopped := ?stopped
    said := ?said
    hungUp := fun hended => ?hungUp
    ending := fun hgoesOn => ?ending
    listened := fun hgoesOn => ?listened
    ended := fun hended => ?ended
    done := ?done
    told := ?told }
  case names =>
    rw [hclient, hurl, hsession]
    exact h.names
  case stopped =>
    rw [hclient, hstopped, hstops]
    exact h.stopped
  case said =>
    rw [hclient, hsaid, requestsOf_congr hstops]
    exact h.said
  case hungUp =>
    rw [hclient, hpeer]
    show peer.closed = true
    rw [hclosed]
    rw [hfeed] at hended
    cases hangsUp with
    | true => exact Bool.or_true _
    | false => rw [h.hungUp hended, Bool.true_or]
  case ending =>
    rw [hclient, Connection.ending, hpeer]
    exact hending (hstops.not.mp hgoesOn)
  case listened =>
    rw [hclient]
    exact heard.leaves_listen t (h.listened (hstops.not.mp hgoesOn)) hgrows rfl
      (hending (hstops.not.mp hgoesOn))
  case ended =>
    rw [hclient]
    rcases h.ended (hstops.mp hended) with hlife | ⟨hlife, hbreaks⟩
    · exact .inl ((hover (by simp [hlife])).trans hlife)
    · exact .inr ⟨(hover (by simp [hlife])).trans hlife, hgrows.breaks hbreaks⟩
  case done =>
    exact h.done_settle { o.facing peer with client := (heard.listen t).1 } rfl
      fun hlife => (hover (by simp [hlife])).trans hlife
  case told =>
    have hwatches : Event.watches (events ++ [.sends sent hangsUp]) = Event.watches events := by
      simp [Event.watches_concat, Event.watch?]
    rw [hwatches]
    exact Observed.accounts_settle _ h.told

/-- A stop ends the session unless it is over, and says so the first time. -/
theorem Sane.stops (h : Sane opening url session feed o₀ events o) (released : Bool)
    (t : Transcripts) :
    Sane opening url session feed o₀ (events ++ [.stops]) (o.stop released t).1 := by
  have hfeed : feed.hearAll (events ++ [.stops]) = feed.hearAll events := Feed.hearAll_concat ..
  have hwatches : Event.watches (events ++ [.stops]) = Event.watches events := by
    simp [Event.watches_concat, Event.watch?]
  have hstops : .stops ∈ events ++ [.stops] := by simp
  by_cases hbefore : .stops ∈ events
  · -- A second stop does nothing, and the events say nothing new.
    have hclient : (o.stop released t).1 = o.settle := by
      rw [Observed.stop, Client.stop_of_stopped _ _ _ (h.stopped.mpr hbefore)]
    have hsame : .stops ∈ events ++ [.stops] ↔ .stops ∈ events := by simp [hbefore]
    rw [hclient]
    refine {
      names := ?names
      stopped := ?stopped
      said := ?said
      hungUp := ?hungUp
      ending := absurd hstops
      listened := absurd hstops
      ended := fun _ => ?ended
      done := ?done
      told := ?told }
    case names =>
      rw [o.client_settle]
      exact h.names
    case stopped =>
      rw [o.client_settle, hsame]
      exact h.stopped
    case said =>
      rw [o.client_settle, requestsOf_congr hsame]
      exact h.said
    case hungUp =>
      rw [o.client_settle, hfeed]
      exact h.hungUp
    case ended =>
      rw [o.client_settle, hfeed]
      exact h.ended hbefore
    case done =>
      exact h.done_settle o rfl id
    case told =>
      rw [hwatches]
      exact o.accounts_settle h.told
  · -- The first stop makes the last request and ends the session, whatever the host does with it.
    have hnot : o.client.stopped = false := Bool.eq_false_iff.mpr (mt h.stopped.mp hbefore)
    have hclient : (o.stop released t).1.client = (o.client.stop released t).1 :=
      Observed.client_settle _
    have hstop := o.client.stop_of_not_stopped t released hnot
    refine {
      names := ?names
      stopped := ?stopped
      said := ?said
      hungUp := fun hended => ?hungUp
      ending := absurd hstops
      listened := absurd hstops
      ended := fun _ => ?ended
      done := ?done
      told := ?told }
    case names =>
      rw [hclient, hstop]
      exact h.names
    case stopped =>
      rw [hclient, hstop]
      exact ⟨fun _ => hstops, fun _ => rfl⟩
    case said =>
      have hsaid : o.client.connection.said = opening := by
        rw [h.said, requestsOf, if_neg hbefore, List.append_nil]
      rw [hclient, hstop, requestsOf, if_pos hstops, ← hsaid, ← h.names.1, ← h.names.2]
      exact Connection.said_say ..
    case hungUp =>
      rw [hfeed] at hended
      rw [hclient, hstop]
      have hclosed := h.hungUp hended
      exact (congrArg Peer.closed (Connection.peer_say_of_closed _ _ _ t hclosed)).trans hclosed
    case ended =>
      rw [hclient, hstop, hfeed]
      have hleaves := h.listened hbefore
      cases hlife : o.client.life with
      | playing => exact .inl rfl
      | finished => exact .inl rfl
      | deaf =>
        rw [hlife] at hleaves
        cases hleaves with
        | deaf hbreaks => exact .inr ⟨rfl, hbreaks⟩
    case done =>
      refine h.done_settle { o with client := (o.client.stop released t).1 } rfl fun hlife => ?_
      rw [hstop, hlife]
      rfl
    case told =>
      rw [hwatches]
      exact Observed.accounts_settle _ h.told

/-- Those who wait for the end change nothing but who is told of it. -/
theorem Sane.watched (h : Sane opening url session feed o₀ events o) {w : Watch} {l : Latch}
    {observers : Observers} (hw : Watches o.latch o.observers w l observers) :
    Sane opening url session feed o₀ (events ++ [.watched w])
      { o with latch := l, observers := observers } := by
  have hfeed : feed.hearAll (events ++ [.watched w]) = feed.hearAll events := Feed.hearAll_concat ..
  have hwatches : Event.watches (events ++ [.watched w]) = Event.watches events ++ [w] := by
    simp [Event.watches_concat, Event.watch?]
  have hstops : .stops ∈ events ++ [.watched w] ↔ .stops ∈ events := by simp
  refine {
    names := h.names
    stopped := h.stopped.trans hstops.symm
    said := requestsOf_congr hstops ▸ h.said
    hungUp := hfeed ▸ h.hungUp
    ending := fun hgoesOn => ?ending
    listened := fun hgoesOn => ?listened
    ended := fun hended => ?ended
    done := ?done
    told := ?told }
  case ending =>
    rw [hfeed]
    exact h.ending (hstops.not.mp hgoesOn)
  case listened =>
    rw [hfeed]
    exact h.listened (hstops.not.mp hgoesOn)
  case ended =>
    rw [hfeed]
    exact h.ended (hstops.mp hended)
  case done =>
    rw [Latch.isDone_of_watches hw]
    exact h.done
  case told =>
    rw [hwatches]
    exact h.told.watch hw

/-- A client stays sane, whatever happens. -/
theorem Sane.step {event : Event} (h : Sane opening url session feed o₀ events x.1)
    (hs : Step released x event y) : Sane opening url session feed o₀ (events ++ [event]) y.1 := by
  cases hs with
  | sends _ silent closed => exact h.sends silent closed _
  | stops => exact h.stops released _
  | watched watches => exact h.watched watches

/-! ## The beginning -/

variable {port : UInt16} {script : Script} {log : Option Text} {t t' : Transcripts} {c : Connection}
  {client : Client}

/-- A handshake that succeeds has made its three requests and read a response to each. -/
theorem along_of_handshake
    (h : handshake released url port (Connection.start released script log) t = (.ok session, c, t')) :
    Along released script (openingRequests url port session) c := by
  obtain ⟨c₁, t₁, hdescribe, -, halong₁⟩ :=
    (along_start released script log).exchange (describeRequest url) t
  rw [handshake, hdescribe] at h
  cases hfirst : outcome script.refuses (script.feed released ([] ++ [describeRequest url])) 0
      (describeRequest url).method with
  | error why =>
    simp only [List.length_nil, hfirst] at h
    cases h
  | ok r₁ =>
    obtain ⟨c₂, t₂, hsetup, -, halong₂⟩ :=
      (halong₁ (exchanged_of_outcome hfirst).1).exchange (setupRequest url port) t₁
    simp only [List.length_nil, hfirst, hsetup] at h
    cases hsecond : outcome script.refuses (script.feed released
        ([] ++ [describeRequest url] ++ [setupRequest url port]))
        ([] ++ [describeRequest url]).length (setupRequest url port).method with
    | error why =>
      rw [hsecond] at h
      cases h
    | ok r₂ =>
      obtain ⟨c₃, t₃, hplay, -, halong₃⟩ :=
        (halong₂ (exchanged_of_outcome hsecond).1).exchange (playRequest url r₂.sessionId?) t₂
      simp only [hsecond, hplay] at h
      split at h
      next => cases h
      next hthird =>
        cases h
        obtain ⟨houtcome, hleft⟩ := Prod.mk.inj hthird
        obtain ⟨rfl, -⟩ := Prod.mk.inj hleft
        exact halong₃ (exchanged_of_outcome houtcome).1

/-- What comes behind the responses to the three requests that open a session. -/
def feedBehind (released : Bool) (script : Script) (url : Text) (port : UInt16)
    (session : Option Text) : Feed :=
  (script.feed released (openingRequests url port session)).after 3

/-- A client that could be opened has gone through all three exchanges, and listens. -/
theorem openOn_ok
    (h : Client.openOn released url port (Connection.start released script log) t =
      (.ok client, c, t')) :
    ∃ session c₀ t₀,
      handshake released url port (Connection.start released script log) t = (.ok session, c₀, t₀) ∧
      client = ((Client.mk url port session false .playing c₀).listen t₀).1 := by
  rw [Client.openOn] at h
  split at h
  next => cases h
  next session c₀ t₀ hhandshake =>
    exact ⟨session, c₀, t₀, hhandshake, (Except.ok.inj (congrArg Prod.fst h)).symm⟩

/-- A client that was opened has listened to what had come until then. -/
theorem sane_start
    (h : Client.openOn released url port (Connection.start released script log) t =
      (.ok client, c, t'))
    (o₀ : Observers) :
    Sane (openingRequests url port client.session) url client.session
      (feedBehind released script url port client.session) o₀ [] (Observed.start client o₀) := by
  obtain ⟨session, c₀, t₀, hhandshake, hlistened⟩ := openOn_ok h
  -- All three responses have been read, so the feed begins behind them.
  have halong := along_of_handshake hhandshake
  have hkeeps := (Client.mk url port session false .playing c₀).listen_keeps t₀
  rw [← hlistened] at hkeeps
  obtain ⟨hurl, hsession, hstopped, hsaid, hpeer⟩ := hkeeps
  have hclient : (Observed.start client o₀).client = client := Observed.client_settle _
  have hfeed : feedBehind released script url port client.session = c₀.feed := by
    rw [Connection.feed, Connection.ending, halong.unread, halong.peer, hsession]
    rfl
  have hleaves : c₀.feed.Leaves client.life client.connection.unread := by
    rw [hlistened]
    exact Client.leaves_listenFor t₀ (Nat.lt_succ_self _)
  have hending : client.connection.ending = c₀.feed.ending := by
    rw [Connection.ending, hpeer]
    rfl
  refine {
    names := ?names
    stopped := ?stopped
    said := ?said
    hungUp := fun hended => ?hungUp
    ending := fun _ => ?ending
    listened := fun _ => ?listened
    ended := fun hstops => absurd hstops List.not_mem_nil
    done := ?done
    told := ?told }
  case names =>
    rw [hclient]
    exact ⟨hurl, rfl⟩
  case stopped =>
    rw [hclient, hstopped]
    simp
  case said =>
    rw [hclient, hsaid, hsession]
    exact halong.said.trans (List.append_nil _).symm
  case hungUp =>
    rw [hfeed] at hended
    have hclosed : client.connection.ending = .closed := hending.trans hended
    rw [hclient]
    cases hc : client.connection.peer.closed with
    | true => rfl
    | false => simp [Connection.ending, hc] at hclosed
  case ending =>
    rw [hclient, hfeed]
    exact hending
  case listened =>
    rw [hclient, hfeed]
    exact hleaves
  case done =>
    rw [Observed.start, Observed.settle_isDone, Observed.client_settle]
    exact or_iff_right Bool.false_ne_true
  case told =>
    exact Observed.accounts_settle _ (Latch.accounts_fresh o₀)

/-- A client is sane at any time. -/
theorem sane_run
    (h : Client.openOn released url port (Connection.start released script log) t =
      (.ok client, c, t'))
    (hrun : Run (Step released) (Observed.start client o₀, t') events x) :
    Sane (openingRequests url port client.session) url client.session
      (feedBehind released script url port client.session) o₀ events x.1 := by
  induction hrun with
  | here => exact sane_start h o₀
  | next _ hlast ih => exact ih.step hlast

/-! ## What a session comes to -/

/-- The names of the session that a request gives. -/
def Request.sessions (r : Request) : List Text :=
  (r.fields.filter fun field => field.1 = "Session".toList).map Prod.snd

theorem sessions_playRequest (url : Text) (session : Option Text) :
    (playRequest url session).sessions = session.toList := by
  cases session <;> rfl

theorem sessions_teardownRequest (url : Text) (session : Option Text) :
    (teardownRequest url session).sessions = session.toList := by
  cases session <;> rfl

/-- The last request of a client ends the session, and has the next number. -/
theorem teardownRequest_eq (url : Text) (session : Option Text) :
    (teardownRequest url session).method = "TEARDOWN".toList ∧
      (teardownRequest url session).uri = url ∧ (teardownRequest url session).cseq = 4 := by
  cases session <;> exact ⟨rfl, rfl, rfl⟩

/-- A session that is over stays over. -/
theorem Step.finished {event : Event} (h : Step released x event y)
    (hx : x.1.client.life = .finished) : y.1.client.life = .finished := by
  cases h with
  | @sends o t sent hangsUp peer =>
    have hlife : (o.facing peer).client.life = .finished := hx
    rw [Observed.receive, Observed.client_settle, Client.receive, Client.listen_of_not_playing]
    · exact hlife
    · simp [hlife]
  | stops o t =>
    rw [Observed.stop, Observed.client_settle]
    cases hstopped : o.client.stopped with
    | true => rwa [Client.stop_of_stopped _ _ _ hstopped]
    | false =>
      rw [Client.stop_of_not_stopped _ _ _ hstopped, (hx : o.client.life = .finished)]
      rfl
  | watched => exact hx

/-- How a session **plays** that was opened with some requests, `feed` being what had come by then.
-/
structure Plays (released : Bool) (opening : List Request) (url : Text) (session : Option Text)
    (feed : Feed) (o₀ : Observers) (events : List Event) (x : Observed × Transcripts) : Prop where
  /-- It is over when the client was stopped or the reads have ended, and not before. -/
  finished_iff : x.1.client.life = .finished ↔ .stops ∈ events ∨ (feed.hearAll events).Ends
  /-- Until then the client listens. -/
  playing : x.1.client.life = .finished ∨ x.1.client.life = .playing
  /-- It stays over. -/
  final : x.1.client.life = .finished →
    ∀ later y, Run (Step released) x later y → y.1.client.life = .finished
  /-- The end is told, once. -/
  done : x.1.latch.isDone = true ↔ x.1.client.life = .finished
  told : Latch.Tells o₀ (Event.watches events) x.1.latch x.1.observers
  /-- What the client has said since is `TEARDOWN`, once if it was stopped, and nothing else. -/
  said : ∃ since, x.1.client.connection.said = opening ++ since ∧
    since.length = (if .stops ∈ events then 1 else 0) ∧
    ∀ r ∈ since, r.method = "TEARDOWN".toList ∧ r.uri = url ∧ r.cseq = 4 ∧
      ∀ play ∈ opening, play.method = "PLAY".toList → r.sessions = play.sessions

/-- Whatever happens to a session that was opened, it **plays until its end**, unless a head on the
way announces a body beyond all memory. -/
theorem plays
    (h : Client.openOn released url port (Connection.start released script log) t =
      (.ok client, c, t'))
    (hrun : Run (Step released) (Observed.start client o₀, t') events x)
    (hsafe : ∀ k, ¬Overreaches
      ((feedBehind released script url port client.session).hearAll events).ending
      (((feedBehind released script url port client.session).hearAll events).after k).stream) :
    Plays released (openingRequests url port client.session) url client.session
      (feedBehind released script url port client.session) o₀ events x := by
  have hx := sane_run h hrun
  have hunbroken :
      ¬((feedBehind released script url port client.session).hearAll events).Breaks := by
    intro hbreaks
    obtain ⟨k, hover⟩ := hbreaks.exists_overreaches
    exact hsafe k hover
  -- A stop ends the session unless its reader broke down before, which no head makes it do.
  have hended (hstops : .stops ∈ events) : x.1.client.life = .finished :=
    (hx.ended hstops).resolve_right fun hdeaf => hunbroken hdeaf.2
  refine {
    finished_iff := ?finished_iff
    playing := ?playing
    final := fun hfinished later y hlater => ?final
    done := hx.done
    told := hx.told.tells
    said := ⟨_, hx.said, ?once, fun r hr => ?teardown⟩ }
  case finished_iff =>
    by_cases hstops : .stops ∈ events
    · exact iff_of_true (hended hstops) (.inl hstops)
    · rw [((hx.listened hstops).finished_iff hunbroken).1, or_iff_right hstops]
  case playing =>
    by_cases hstops : .stops ∈ events
    · exact .inl (hended hstops)
    · exact ((hx.listened hstops).finished_iff hunbroken).2
  case final =>
    induction hlater with
    | here => exact hfinished
    | next _ hlast ih => exact hlast.finished ih
  case once => split <;> rfl
  case teardown =>
    have hteardown : r = teardownRequest url client.session := by
      split at hr
      · exact List.mem_singleton.mp hr
      · cases hr
    obtain ⟨hmethod, huri, hcseq⟩ := teardownRequest_eq url client.session
    rw [hteardown]
    refine ⟨hmethod, huri, hcseq, fun play hplay hnamed => ?_⟩
    have hthird : play = playRequest url client.session := by
      simp only [openingRequests, List.mem_cons, List.not_mem_nil, or_false] at hplay
      rcases hplay with rfl | rfl | rfl
      · cases hnamed
      · cases hnamed
      · rfl
    rw [hthird, sessions_teardownRequest, sessions_playRequest]

/-! A server that answers three requests before they are made, refuses what nobody has asked for, and
goes; a client that is stopped twice meanwhile, and somebody who waits for the end. -/

def goingScript : Script :=
  ⟨[], Text.toBytes ("RTSP/1.0 200 OK\r\n\r\nRTSP/1.0 200 OK\r\nSession: 7;timeout=5\r\n\r\n".toList
    ++ "RTSP/1.0 200 OK\r\n\r\n".toList), false, none⟩

def farUrl : Text := "rtsp://far/a".toList

def goingConnection : Connection :=
  ⟨⟨goingScript, (openingRequests farUrl 6000 (some "7".toList)).map Request.render, true, false⟩,
    openingRequests farUrl 6000 (some "7".toList), [], none⟩

def goingClient : Client := ⟨farUrl, 6000, some "7".toList, false, .playing, goingConnection⟩

theorem openOn_going :
    Client.openOn true farUrl 6000 (Connection.start true goingScript none) ⟨[], []⟩ =
      (.ok goingClient, goingConnection, ⟨[], []⟩) := by decide +kernel

def lateRefusalOfNothing : Bytes := Text.toBytes "RTSP/1.0 500 Oops\r\n\r\n".toList

def goingEvents : List Event :=
  [.watched (.registers 0 0), .sends lateRefusalOfNothing false, .stops, .stops, .sends [] true,
    .watched (.looks 0 .raised), .watched (.registers 0 1)]

theorem going_run :
    ∃ x, Run (Step true) (Observed.start goingClient ⟨[0], []⟩, ⟨[], []⟩) goingEvents x := by
  refine ⟨_, .cons (.watched (.registers (by decide))) <|
    .cons (.sends goingConnection.peer nofun rfl) <| .cons (.stops _ _) <|
    .cons (.stops _ _) <|
    .cons (.sends { goingConnection.peer with closed := true } (fun _ => rfl) rfl) <|
    .cons (.watched (.looks 0)) <| .single (.watched (.registers (by decide)))⟩

theorem hearAll_going :
    (feedBehind true goingScript farUrl 6000 (some "7".toList)).hearAll goingEvents =
      ⟨lateRefusalOfNothing, .closed⟩ := by decide +kernel

/-- The server's last response is read, and then the stream is over. -/
theorem safe_lateRefusalOfNothing (k : Nat) :
    ¬Overreaches .closed ((Feed.mk lateRefusalOfNothing .closed).after k).stream := by
  have hrest : ∀ k, ((Feed.mk lateRefusalOfNothing .closed).after (k + 1)).stream = [] := by
    intro k
    induction k with
    | zero => decide +kernel
    | succ k ih => rw [Feed.after_succ, ih]; rfl
  cases k with
  | zero =>
    have hfirst : (takeResponse .closed lateRefusalOfNothing).1 =
        .response ⟨"RTSP/1.0".toList, 500, "Oops".toList, [], none⟩ := by decide +kernel
    intro hover
    obtain ⟨message, hbroken⟩ := brokeDown_iff.mpr hover
    cases hfirst.symm.trans hbroken
  | succ k =>
    rw [hrest]
    intro hover
    obtain ⟨message, hbroken⟩ := brokeDown_iff.mpr hover
    cases hbroken

theorem plays_going :
    ∃ x, Client.openOn true farUrl 6000 (Connection.start true goingScript none) ⟨[], []⟩ =
        (.ok goingClient, goingConnection, ⟨[], []⟩) ∧
      Run (Step true) (Observed.start goingClient ⟨[0], []⟩, ⟨[], []⟩) goingEvents x ∧
      (∀ k, ¬Overreaches
        ((feedBehind true goingScript farUrl 6000 (some "7".toList)).hearAll goingEvents).ending
        (((feedBehind true goingScript farUrl 6000 (some "7".toList)).hearAll
          goingEvents).after k).stream) ∧
      Plays true (openingRequests farUrl 6000 (some "7".toList)) farUrl (some "7".toList)
        (feedBehind true goingScript farUrl 6000 (some "7".toList)) ⟨[0], []⟩ goingEvents x := by
  have hsafe : ∀ k, ¬Overreaches
      ((feedBehind true goingScript farUrl 6000 (some "7".toList)).hearAll goingEvents).ending
      (((feedBehind true goingScript farUrl 6000 (some "7".toList)).hearAll
        goingEvents).after k).stream := by
    rw [hearAll_going]
    exact safe_lateRefusalOfNothing
  obtain ⟨x, hrun⟩ := going_run
  exact ⟨x, openOn_going, hrun, hsafe, plays openOn_going hrun hsafe⟩

end MediaProxy.Rtsp
