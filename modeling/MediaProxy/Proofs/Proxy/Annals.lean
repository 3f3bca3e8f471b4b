import MediaProxy.Proofs.Proxy.Endings
import MediaProxy.Proofs.Proxy.Keeping
import MediaProxy.Proofs.Proxy.Unfolding

/-!
# The annals of a proxy

What the moments of a run tell, in whatever order starts, ends, backends and relays take their turns
(`Annals`). Starts come one after another, and each is told from beginning to end: both relays are
started, the media server is called with the port of the first, the session is opened, registered
and announced; or there is no backend, and nobody is told of a session (`Starts`). The end of a
session keeps to its course, of which its moments so far are a beginning, and it begins after the
session has been announced. Its relays are closed when its backend is over, and those only that have
not failed; its end is announced when they are closed and the session is still under its key.

Whatever a proxy is asked, it goes through such a run, and the journal that its operations have
written is what the run tells (`proxy_annals`). So each order of events can be read in the journal
itself, between any two orders (`Proxy.AtRest`): every start is a chapter of it (`Chapters`), and
every end that is over is told in full (`Event.ofEnd`), with what was so when each of its events was
written down.
-/

namespace MediaProxy

open Registry

variable {β : Type}

/-! ## What moments tell -/

/-- What the journal says of a moment. -/
def Moment.event? : Moment → Option Event
  | .launched relays => some (.launched relays.rtp.inbound.port)
  | .connecting port url log => some (.connecting port url log)
  | .givenUp port => some (.givenUp port)
  | .registered n => some (.registered n)
  | .started n => some (.started n)
  | .cue n (.asked done) => some (.halting n done)
  | .cue n .silenced => some (.silenced n true)
  | .cue n .ended => some (.ended n true true true)
  | .cue n .removed => some (.removed n)
  | _ => none

/-- Whether a moment is one of a start. -/
def Moment.isOfStart : Moment → Bool
  | .launched _ | .connecting .. | .givenUp _ | .opened .. | .registered _ | .started _ => true
  | .finished _ | .cue .. | .stirred => false

/-- The cue of the end of a session that a moment is. -/
def Moment.cue? (n : SessionId) : Moment → Option Cue
  | .cue m c => if m = n then some c else none
  | _ => none

def Event.isStarted : Event → Bool
  | .started _ => true
  | _ => false

def Event.isEnded : Event → Bool
  | .ended .. => true
  | _ => false

/-- Whether an event is one of a start. -/
def Event.isOfStart : Event → Bool
  | .launched _ | .connecting .. | .givenUp _ | .registered _ | .started _ => true
  | _ => false

/-- Whether an event is one of the end of a session. -/
def Event.isOfEnd (n : SessionId) : Event → Bool
  | .halting m _ | .silenced m _ | .ended m .. | .removed m => m = n
  | _ => false

/-- Two relays **at the addresses** of two others. -/
def Relay.Pair.At (relays relays' : Relay.Pair) : Prop :=
  ∀ control, (relays'.side control).inbound = (relays.side control).inbound

/-- The moments of a start that has **called** the media server: both of its relays have been
started, and the call is with the port of the first. -/
inductive Calls : Relay.Pair → List Moment → Prop where
  | intro {relays : Relay.Pair} (url : Text) (log : Option Text)
      (started : ∀ control, (relays.side control).started = true) :
      Calls relays [.launched relays, .connecting relays.rtp.inbound.port url log]

/-- The moments of some **starts**, one after another, `count` of which have led to sessions. -/
inductive Starts : Nat → List Moment → Prop where
  | none : Starts 0 []
  | failed {count : Nat} {moments call : List Moment} {relays : Relay.Pair}
      (earlier : Starts count moments) (calls : Calls relays call) :
      Starts count (moments ++ (call ++ [.givenUp relays.rtp.inbound.port]))
  | succeeded {count : Nat} {moments call : List Moment} {relays relays' : Relay.Pair} {done : Bool}
      (earlier : Starts count moments) (calls : Calls relays call) (own : relays.At relays') :
      Starts (count + 1)
        (moments ++ (call ++ [.opened count relays' done, .registered count, .started count]))

/-- The moments so far of a start that is **under way** after `count` others have led to sessions.
-/
inductive Underway (count : Nat) : Hand → List Moment → Prop where
  | empty : Underway count .empty []
  | launched {s : Session} {relays : Relay.Pair} (own : relays.At s.relays)
      (started : ∀ control, (relays.side control).started = true) :
      Underway count (.relays s false) [.launched relays]
  | called {s : Session} {relays : Relay.Pair} {call : List Moment} (own : relays.At s.relays)
      (calls : Calls relays call) : Underway count (.relays s true) call
  | opened {relays relays' : Relay.Pair} {call : List Moment} {done : Bool} (calls : Calls relays call)
      (own : relays.At relays') :
      Underway count (.session false) (call ++ [.opened count relays' done])
  | registered {relays relays' : Relay.Pair} {call : List Moment} {done : Bool}
      (calls : Calls relays call) (own : relays.At relays') :
      Underway count (.session true) (call ++ [.opened count relays' done, .registered count])

/-- What the journal says of some starts: a **chapter** for each. Those that have led to sessions
have the ports of these, where the first of their relays receives. -/
inductive Chapters : List UInt16 → List Event → Prop where
  | none : Chapters [] []
  | failed {ports : List UInt16} {events : List Event} (earlier : Chapters ports events) (port : UInt16)
      (url : Text) (log : Option Text) :
      Chapters ports (events ++ [.launched port, .connecting port url log, .givenUp port])
  | succeeded {ports : List UInt16} {events : List Event} (earlier : Chapters ports events)
      (port : UInt16) (url : Text) (log : Option Text) :
      Chapters (ports ++ [port]) (events ++ [.launched port, .connecting port url log,
        .registered ports.length, .started ports.length])

/-- The ports where the first relays of sessions receive. -/
def Floor.ports {β : Type} (f : Floor β) : List UInt16 := f.sessions.map fun s => s.relays.rtp.inbound.port

/-- How relays are **silenced** at the end of a session: its backend is over, a relay that is closed
has failed and stays as it is, and any other is closed and has not failed. -/
def Silences (y z : Midway β) (n : SessionId) : Prop :=
  ∃ s s', y.world.sessions[n]? = some s ∧ z.world.sessions[n]? = some s' ∧
    y.registry.isFinished s.backend = true ∧
    ∀ control, (s'.relays.side control).closed = true ∧
      if (s.relays.side control).closed then
        (s.relays.side control).error.isSome = true ∧ s'.relays.side control = s.relays.side control
      else (s'.relays.side control).error = none

/-- When the end of a session may be **announced**: its backend is over, its relays are closed, and
it is under its key. -/
def Announced (y : Midway β) (n : SessionId) : Prop :=
  ∃ s, y.world.sessions[n]? = some s ∧ y.registry.isFinished s.backend = true ∧
    (∀ control, (s.relays.side control).closed = true) ∧ (s.client, n) ∈ y.registry.bound

/-- Whoever has been announced has had its end announced or is under its key, but for those that are
between the two. -/
def Reckoned (y : Midway β) : Prop :=
  y.world.journal.countP Event.isStarted + y.hand.entries + y.ends.count 5 =
    y.world.journal.countP Event.isEnded + y.registry.bound.length

/-- What the moments of a run **tell** of what has become of a proxy. -/
structure Annals [Backend β] (trace : List Moment) (y : Midway β) : Prop where
  starts : ∃ moments soFar, trace.filter Moment.isOfStart = moments ++ soFar ∧
    Starts y.ends.length moments ∧ Underway y.ends.length y.hand soFar
  /-- The session that a start has opened has the relays of that start. -/
  opened : ∀ n relays done, .opened n relays done ∈ trace →
    ∃ s, y.world.sessions[n]? = some s ∧ relays.At s.relays
  ends : ∀ n, ∃ late,
    trace.filterMap (Moment.cue? n) = (Cue.course late).take (y.ends.getD n 0)
  begun : ∀ n cue before after, trace = before ++ .cue n cue :: after → .started n ∈ before
  started_once : ∀ n, trace.count (.started n) = if n < y.ends.length then 1 else 0
  ended_once : ∀ n, trace.count (.cue n .ended) = if 5 ≤ y.ends.getD n 0 then 1 else 0
  /-- Until its relays are silenced they close only by themselves. -/
  fails : ∀ n s, y.world.sessions[n]? = some s → y.ends.getD n 0 ≤ 3 → s.Fails
  silences : ∀ n z, Midway.Step y (.cue n .silenced) z → Silences y z n
  announced : ∀ n z, Midway.Step y (.cue n .ended) z → Announced y n
  /-- A session is under its key from its registration until it is removed. -/
  bound_iff : ∀ key n, (key, n) ∈ y.registry.bound ↔
    n < y.registry.entries.length ∧ y.ends.getD n 0 ≤ 5 ∧ y.world.client? n = some key
  journal : y.world.journal = trace.filterMap Moment.event?
  tally : Reckoned y

/-- A proxy is **at rest** when the end of each session has not begun or is over, and it is under
its key or it is not. The journal tells every start as a whole, and every end that is over. -/
structure Proxy.AtRest (p : Proxy β) : Prop where
  ends : ∀ n k, p.midway.ends[n]? = some k →
    (k = 0 ∧ p.registry.isFinished n = false ∧ n ∈ p.registry.bound.map Prod.snd) ∨
    (k = 7 ∧ n ∉ p.registry.bound.map Prod.snd)
  /-- The order of what is done in starts. -/
  chapters : Chapters p.registry.world.ports (p.registry.world.journal.filter Event.isOfStart)
  /-- The order of what is done in the end of a session, none of which is done while the client has
  the session. -/
  epilogues : ∀ n, n < p.registry.world.sessions.length →
    (n ∈ p.registry.bound.map Prod.snd ∧ p.registry.world.journal.filter (Event.isOfEnd n) = []) ∨
    (n ∉ p.registry.bound.map Prod.snd ∧
      ∃ late, p.registry.world.journal.filter (Event.isOfEnd n) = Event.ofEnd n late)
  /-- No event of an end comes before the start of its session. -/
  prologues : ∀ n e before after, p.registry.world.journal = before ++ e :: after →
    e.isOfEnd n = true → .started n ∈ before
  tally : p.registry.world.journal.countP Event.isStarted =
    p.registry.world.journal.countP Event.isEnded + p.sessionCount

namespace Midway

variable [Backend β] {y z : Midway β} {trace : List Moment} {moment : Moment}

/-! ## The journal -/

/-- What a cue writes in the journal: what is so where the session stands. -/
theorem journal_cue {n : SessionId} {k : Nat} {s : Session} {late : Bool} {cue : Cue}
    (h : Kept y.registry y.hand y.ends) (hhad : y.ends[n]? = some k)
    (hsession : y.world.sessions[n]? = some s) (hnext : (Cue.course late)[k]? = some cue) :
    (cue.perform n s y.registry).world.journal =
      y.world.journal ++ (Moment.cue n cue).event?.toList := by
  have hstands := h.stands n s hsession
  rw [getD_of_getElem? hhad] at hstands
  obtain ⟨hsilenced, hended, hremoved, -⟩ := Cue.place hnext
  cases cue with
  | asked done =>
    rw [Cue.perform, hstands.backend]
    rfl
  | silenced =>
    obtain rfl := hsilenced.mp rfl
    rw [Cue.perform, hstands.backend, hstands.finished (Nat.le_refl 3)]
    rfl
  | ended =>
    obtain rfl := hended.mp rfl
    have hclosed := hstands.closed (Nat.le_refl 4)
    have hrtp : s.relays.rtp.closed = true := hclosed false
    have hrtcp : s.relays.rtcp.closed = true := hclosed true
    have hkept := h.lookup_eq (h.mem_bound hhad (by decide) hsession)
    simp only [Cue.perform, Session.farewell, hsession, hstands.backend, hstands.finished (by decide : 3 ≤ 4),
      hrtp, hrtcp, hkept, decide_true]
    rfl
  | removed =>
    obtain rfl := hremoved.mp rfl
    rw [Cue.perform, h.leave_eq (h.mem_bound hhad (Nat.le_refl 5) hsession)]
    rfl
  | triggered => exact (List.append_nil _).symm
  | concluded => exact (List.append_nil _).symm

/-- The journal is written moment by moment. -/
theorem Step.journal (h : Kept y.registry y.hand y.ends) (hs : Step y moment z) :
    z.world.journal = y.world.journal ++ moment.event?.toList := by
  cases hs with
  | cue hhad hsession hnext =>
    obtain ⟨late, hnext⟩ := hnext
    exact journal_cue h hhad hsession hnext
  | launched | connecting | given_up | registered | started => rfl
  | finished => exact (congrArg Floor.journal world_finish).trans (List.append_nil _).symm
  | stirred hevolves hjournal => exact hjournal.trans (List.append_nil _).symm
  | opened | hand_stirred => exact (List.append_nil _).symm

/-- The journal of a run is what its moments write, one after another. -/
theorem journal_run (h : Kept y.registry y.hand y.ends) (hr : Run Step y trace z) :
    z.world.journal = y.world.journal ++ trace.filterMap Moment.event? := by
  induction hr with
  | here => simp
  | next hrun hlast ih =>
    rw [hlast.journal (h.run hrun), ih, List.filterMap_append, List.append_assoc]
    rfl

/-! ## Starts -/

omit [Backend β] in
/-- Relays that have been allocated move datagrams once they have been started. -/
theorem started_of_search {host first second : Text} {lowest highest : UInt16} {relays : Relay.Pair}
    {site site' : Site}
    (h : Relay.search host first second lowest highest site = (.ok relays, site')) (control : Bool) :
    ((relays.start site').1.side control).started = true := by
  obtain ⟨port, -, s₁, hrtp, hrtcp⟩ := Relay.search_ok h
  rw [Relay.Pair.start_eq, Relay.start_made hrtp.made, Relay.start_made hrtcp.made]
  cases control <;> rfl

/-- A start goes on, or a new one begins, and what is not of a start makes no difference. -/
theorem Step.starts (h : Kept y.registry y.hand y.ends) (hs : Step y moment z)
    {moments soFar : List Moment} (hstarts : Starts y.ends.length moments)
    (hunderway : Underway y.ends.length y.hand soFar) :
    ∃ moments' soFar', moments ++ soFar ++ [moment].filter Moment.isOfStart = moments' ++ soFar' ∧
      Starts z.ends.length moments' ∧ Underway z.ends.length z.hand soFar' := by
  -- A moment of a start goes on with what is under way, its last one closes a chapter; all others
  -- leave both alone.
  cases hs with
  | launched hhand hprepared hallocated =>
    rw [hhand] at hunderway
    cases hunderway with
    | empty =>
      exact ⟨moments, _, List.append_assoc .., hstarts,
        .launched (fun _ => rfl) (started_of_search hallocated)⟩
  | @connecting s hhand =>
    rw [hhand] at hunderway
    cases hunderway with
    | @launched _ relays hown hstarted =>
      refine ⟨moments, _, List.append_assoc .., hstarts, .called hown ?_⟩
      rw [show s.relays.rtp.inbound = relays.rtp.inbound from hown false]
      exact .intro s.url (y.logPath s) hstarted
  | @given_up s url cause backends hhand =>
    rw [hhand] at hunderway
    cases hunderway with
    | @called _ relays call hown hcalls =>
      rw [show s.relays.rtp.inbound = relays.rtp.inbound from hown false]
      exact ⟨_, [], by simp [Moment.isOfStart], .failed hstarts hcalls, .empty⟩
  | opened hhand =>
    rw [hhand] at hunderway h
    cases hunderway with
    | called hown hcalls =>
      have hlatest : y.world.sessions.length = y.ends.length := h.sessions
      rw [hlatest]
      exact ⟨moments, _, List.append_assoc .., hstarts, .opened hcalls hown⟩
  | registered hhand hnumber =>
    subst hnumber
    rw [hhand] at hunderway
    cases hunderway with
    | @opened relays relays' call done hcalls hown =>
      have hmoments : moments ++ (call ++ [.opened y.ends.length relays' done]) ++
          [.registered y.ends.length] = moments ++
            (call ++ [.opened y.ends.length relays' done, .registered y.ends.length]) := by simp
      exact ⟨moments, _, hmoments, hstarts, .registered hcalls hown⟩
  | started hhand hnumber =>
    subst hnumber
    rw [hhand] at hunderway
    cases hunderway with
    | @registered relays relays' call done hcalls hown =>
      have hmoments : moments ++ (call ++ [.opened y.ends.length relays' done,
          .registered y.ends.length]) ++ [.started y.ends.length] = moments ++
            (call ++ [.opened y.ends.length relays' done, .registered y.ends.length,
              .started y.ends.length]) ++ [] := by simp
      refine ⟨_, [], hmoments, ?_, .empty⟩
      rw [List.length_append]
      exact .succeeded hstarts hcalls hown
  | finished => exact ⟨moments, soFar, List.append_nil _, hstarts, hunderway⟩
  | stirred => exact ⟨moments, soFar, List.append_nil _, hstarts, hunderway⟩
  | cue =>
    refine ⟨moments, soFar, List.append_nil _, ?_, ?_⟩ <;> rw [List.length_set]
    · exact hstarts
    · exact hunderway
  | hand_stirred hhand hfollows =>
    rw [hhand] at hunderway
    refine ⟨moments, soFar, List.append_nil _, hstarts, ?_⟩
    cases hunderway with
    | launched hown hstarted =>
      exact .launched (fun control => (hfollows.inbound control).trans (hown control)) hstarted
    | called hown hcalls =>
      exact .called (fun control => (hfollows.inbound control).trans (hown control)) hcalls

/-- Whatever else happens in a run, its starts come one after another, and the last one may be under
way. -/
theorem starts_run (h : Kept y.registry y.hand y.ends) (hr : Run Step y trace z)
    (hempty : y.ends = [] ∧ y.hand = .empty) :
    ∃ moments soFar, trace.filter Moment.isOfStart = moments ++ soFar ∧
      Starts z.ends.length moments ∧ Underway z.ends.length z.hand soFar := by
  induction hr with
  | here =>
    rw [hempty.1, hempty.2]
    exact ⟨[], [], rfl, .none, .empty⟩
  | next hrun hlast ih =>
    obtain ⟨moments, soFar, hmoments, hstarts, hunderway⟩ := ih
    rw [List.filter_append, hmoments]
    exact hlast.starts (h.run hrun) hstarts hunderway

/-- A session goes on as it is, but for its relays, which may close. -/
theorem Step.follows (hs : Step y moment z) {n : SessionId} {s : Session}
    (hn : y.world.sessions[n]? = some s) : ∃ s', z.world.sessions[n]? = some s' ∧ s.Follows s' := by
  cases hs with
  | @opened t url done backends =>
    have hlt := (List.getElem?_eq_some_iff.mp hn).1
    exact ⟨s, (getElem?_withSession_of_lt (if done then .finished else .fresh) hlt).trans hn, .refl s⟩
  | finished =>
    exact ⟨s, (congrArg (fun f : Floor β => f.sessions[n]?) world_finish).trans hn, .refl s⟩
  | stirred hevolves =>
    obtain ⟨s', hs', hfollows, -⟩ := hevolves.sessions n s hn
    exact ⟨s', hs', hfollows⟩
  | @cue m k t cue hhad hsession =>
    have hget := congrArg (·[n]?) (cue.sessions_perform y.registry m t)
    by_cases hcue : cue = .silenced ∧ m = n
    · obtain ⟨rfl, rfl⟩ := hcue
      obtain rfl := Option.some.inj (hsession.symm.trans hn)
      exact ⟨_, hget.trans (List.getElem?_set_self (List.getElem?_eq_some_iff.mp hn).1),
        Session.follows_silenced ..⟩
    · refine ⟨s, hget.trans (Eq.trans ?_ hn), .refl s⟩
      split
      next hsilenced => exact List.getElem?_set_ne fun hm => hcue ⟨hsilenced, hm⟩
      next => rfl
  | launched | connecting | given_up | registered | started | hand_stirred =>
    exact ⟨s, hn, .refl s⟩

/-- Sessions go on with the relays that they were opened with. -/
theorem opened_run (hr : Run Step y trace z) :
    ∀ n relays done, .opened n relays done ∈ trace →
      ∃ s, z.world.sessions[n]? = some s ∧ relays.At s.relays := by
  induction hr with
  | here => exact fun _ _ _ hmem => absurd hmem List.not_mem_nil
  | @next y z trace moment hrun hlast ih =>
    intro n relays done hmem
    rcases List.mem_append.mp hmem with hmem | hmem
    · obtain ⟨s, hs, hown⟩ := ih n relays done hmem
      obtain ⟨s', hs', hfollows⟩ := hlast.follows hs
      exact ⟨s', hs', fun control => (hfollows.inbound control).trans (hown control)⟩
    · obtain rfl := List.mem_singleton.mp hmem
      cases hlast with
      | opened => exact ⟨_, getElem?_withSession_self _, fun _ => rfl⟩

/-! ## Ends -/

/-- The next cue of a course, and the course that it is the next one of. -/
theorem course_next (late' : Bool) {late : Bool} {k : Nat} {cue : Cue}
    (h : (Cue.course late)[k]? = some cue) :
    ∃ late, (Cue.course late').take k ++ [cue] = (Cue.course late).take (k + 1) := by
  refine ⟨if k = 1 then late else late', ?_⟩
  rcases k with _ | _ | _ | _ | _ | _ | _ | k
  all_goals simp_all [Cue.course]

/-- Whatever else happens in a run, the end of a session has gone through a beginning of its course.
-/
theorem ends_run (hr : Run Step y trace z) (hempty : y.ends = []) (n : SessionId) :
    ∃ late, trace.filterMap (Moment.cue? n) = (Cue.course late).take (z.ends.getD n 0) := by
  induction hr with
  | here =>
    rw [hempty]
    exact ⟨true, rfl⟩
  | @next y z trace moment hrun hlast ih =>
    obtain ⟨late, ih⟩ := ih
    rw [List.filterMap_append, ih]
    cases hlast with
    | @cue m k s cue hhad hsession hnext =>
      obtain ⟨late', hnext⟩ := hnext
      rw [getD_set hhad]
      by_cases hm : m = n
      · subst hm
        rw [if_pos rfl, getD_of_getElem? hhad]
        -- The two courses differ in one place alone, so a beginning of the one is a beginning of
        -- the other up to there.
        obtain ⟨late₁, hlate₁⟩ := course_next late hnext
        exact ⟨late₁, by simpa [Moment.cue?] using hlate₁⟩
      · rw [if_neg (Ne.symm hm)]
        exact ⟨late, by simp [Moment.cue?, hm]⟩
    | started =>
      rw [getD_concat_zero]
      exact ⟨late, List.append_nil _⟩
    | _ => exact ⟨late, List.append_nil _⟩

/-! ## Hooks -/

omit [Backend β] in
/-- A call of the media server announces no session. -/
theorem count_calls {relays : Relay.Pair} {call : List Moment} (h : Calls relays call) (n : SessionId) :
    call.count (.started n) = 0 := by
  cases h
  simp

omit [Backend β] in
/-- Each session that a start has led to has been announced once. -/
theorem count_starts {count : Nat} {moments : List Moment} (h : Starts count moments) (n : SessionId) :
    moments.count (.started n) = if n < count then 1 else 0 := by
  induction h with
  | none => rfl
  | failed _ hcalls ih => simp [List.count_append, ih, count_calls hcalls]
  | @succeeded count moments call relays relays' done _ hcalls hown ih =>
    have hlast : [Moment.opened count relays' done, .registered count, .started count].count
        (.started n) = if count = n then 1 else 0 := by
      by_cases hn : count = n <;> simp [hn]
    rw [List.count_append, List.count_append, ih, count_calls hcalls, hlast]
    rcases Nat.lt_trichotomy n count with hn | rfl | hn
    · rw [if_pos hn, if_neg (Nat.ne_of_gt hn), if_pos (Nat.lt_succ_of_lt hn)]
    · rw [if_neg (Nat.lt_irrefl n), if_pos rfl, if_pos (Nat.lt_succ_self n)]
    · rw [if_neg (Nat.lt_asymm hn), if_neg (Nat.ne_of_lt hn), if_neg (Nat.not_lt.mpr hn)]

omit [Backend β] in
/-- A start that is under way has announced no session. -/
theorem count_underway {count : Nat} {hand : Hand} {soFar : List Moment}
    (h : Underway count hand soFar) (n : SessionId) : soFar.count (.started n) = 0 := by
  cases h with
  | empty => rfl
  | launched => simp
  | called _ hcalls => exact count_calls hcalls n
  | opened hcalls => simp [List.count_append, count_calls hcalls]
  | registered hcalls => simp [List.count_append, count_calls hcalls]

/-- Every session is announced once. -/
theorem started_once_run (h : Kept y.registry y.hand y.ends) (hr : Run Step y trace z)
    (hempty : y.ends = [] ∧ y.hand = .empty) (n : SessionId) :
    trace.count (.started n) = if n < z.ends.length then 1 else 0 := by
  obtain ⟨moments, soFar, hmoments, hstarts, hunderway⟩ := starts_run h hr hempty
  rw [← List.count_filter (p := Moment.isOfStart) rfl, hmoments, List.count_append,
    count_starts hstarts, count_underway hunderway, Nat.add_zero]

omit [Backend β] in
/-- The end of a session is announced once in its course, as the fifth of its cues. -/
theorem count_course (late : Bool) (k : Nat) :
    ((Cue.course late).take k).count .ended = if 5 ≤ k then 1 else 0 := by
  rcases k with _ | _ | _ | _ | _ | _ | _ | k
  all_goals cases late <;> simp [Cue.course]

/-- The end of a session is announced once, and not before it has come to that cue. -/
theorem ended_once_run (hr : Run Step y trace z) (hempty : y.ends = []) (n : SessionId) :
    trace.count (.cue n .ended) = if 5 ≤ z.ends.getD n 0 then 1 else 0 := by
  obtain ⟨late, hlate⟩ := ends_run hr hempty n
  rw [← count_course late, ← hlate, List.count_filterMap, List.count]
  refine List.countP_congr fun moment _ => ?_
  cases moment with
  | cue m cue => by_cases hm : m = n <;> simp [Moment.cue?, hm]
  | _ => simp [Moment.cue?]

/-- An end begins only when the session has been announced. -/
theorem begun_run (h : Kept y.registry y.hand y.ends) (hr : Run Step y trace z)
    (hempty : y.ends = [] ∧ y.hand = .empty) {n : SessionId} {cue : Cue} {before after : List Moment}
    (heq : trace = before ++ .cue n cue :: after) : .started n ∈ before := by
  induction hr generalizing after with
  | here => simp at heq
  | @next x y trace moment hrun hlast ih =>
    rcases List.eq_nil_or_concat after with rfl | ⟨earlier, last, rfl⟩
    · obtain ⟨rfl, hmoment⟩ := List.append_inj' heq rfl
      obtain rfl := List.cons.inj hmoment |>.1
      cases hlast with
      | cue hhad =>
        have hlt := (List.getElem?_eq_some_iff.mp hhad).1
        rw [← List.count_pos_iff, started_once_run h hrun hempty, if_pos hlt]
        exact Nat.one_pos
    · rw [List.concat_eq_append, ← List.cons_append, ← List.append_assoc] at heq
      exact ih (List.append_inj' heq rfl).1

/-! ## The tally -/

/-- A cue that is announced, or that removes a session, is accounted for. -/
theorem Kept.tally_cue {r : Sessions β} {hand : Hand} {ends : List Nat} {s : Session}
    {n : SessionId} {k : Nat} {late : Bool} {cue : Cue} (h : Kept r hand ends)
    (hhad : ends[n]? = some k) (hsession : r.world.sessions[n]? = some s)
    (hnext : (Cue.course late)[k]? = some cue) :
    (ends.set n (k + 1)).count 5 + r.bound.length =
      ends.count 5 + (cue.perform n s r).bound.length + if cue = .ended then 1 else 0 := by
  obtain ⟨hlt, hget⟩ := List.getElem?_eq_some_iff.mp hhad
  obtain ⟨-, hended, hremoved, -⟩ := Cue.place hnext
  rw [List.count_set hlt, hget, beq_eq_decide, beq_eq_decide]
  by_cases hcue : cue = .removed
  · obtain rfl := hremoved.mp hcue
    have hmem : 0 < ends.count 5 := List.count_pos_iff.mpr (List.mem_of_getElem? hhad)
    have hlength := h.length_bound (h.mem_bound hhad (Nat.le_refl 5) hsession)
    subst hcue
    simp only [Cue.perform, hlength, decide_true, if_true, reduceCtorEq, if_false, Nat.reduceAdd,
      Nat.reduceEqDiff, decide_false, Bool.false_eq_true]
    omega
  · have hfive : k ≠ 5 := mt hremoved.mpr hcue
    rw [Cue.bound_perform _ _ _ _ hcue]
    simp only [hended, hfive, decide_false, Nat.reduceEqDiff, decide_eq_true_eq, Bool.false_eq_true,
      if_false, Nat.sub_zero]
    exact Nat.add_right_comm ..

omit [Backend β] in
/-- Of the events of an end one is counted as such, and none as a start. -/
theorem countP_cue (n : SessionId) (cue : Cue) :
    (Moment.cue n cue).event?.toList.countP Event.isStarted = 0 ∧
      (Moment.cue n cue).event?.toList.countP Event.isEnded = if cue = .ended then 1 else 0 := by
  rcases cue with _ | (_ | _) | _ | _ | _ | _ <;> exact ⟨rfl, rfl⟩

/-- Each moment is accounted for. -/
theorem reckoned_step (hy : Reckoned y) (h : Kept y.registry y.hand y.ends) (hs : Step y moment z) :
    Reckoned z := by
  have hjournal := hs.journal h
  unfold Reckoned at hy ⊢
  rw [hjournal, List.countP_append, List.countP_append]
  cases hs with
  | @cue n k s cue hhad hsession hnext =>
    obtain ⟨late, hnext⟩ := hnext
    -- A removal is the one cue that takes from the table, and then the end has been told.
    have htally := h.tally_cue hhad hsession hnext
    obtain ⟨hstarted, hended⟩ := countP_cue n cue
    rw [hstarted, hended]
    dsimp only [registry, withRegistry] at hy htally ⊢
    omega
  | @registered s n hhand =>
    have hlength : (y.registry.enlisted Session.contract s.client n).bound.length =
        y.registry.bound.length + 1 := List.length_append
    rw [hhand] at hy
    refine (Nat.add_right_comm ..).trans ((congrArg (· + 1) hy).trans ?_)
    exact congrArg (List.countP Event.isEnded y.world.journal + ·) hlength.symm
  | started hhand =>
    rw [hhand] at hy
    rw [List.count_append]
    exact hy
  | finished =>
    exact hy.trans (congrArg _ (congrArg List.length bound_finish).symm)
  | launched hhand | connecting hhand | given_up hhand | opened hhand | hand_stirred hhand =>
    rw [hhand] at hy
    exact hy
  | stirred => exact hy

/-- Announcements and sessions go on balancing throughout a run. -/
theorem reckoned_run (h : Kept y.registry y.hand y.ends) (hy : Reckoned y) (hr : Run Step y trace z) :
    Reckoned z := by
  induction hr with
  | here => exact hy
  | next hrun hlast ih => exact reckoned_step ih (h.run hrun) hlast

/-! ## Silence -/

omit [Backend β] in
/-- Silencing leaves a relay that has failed as it is, and closes any other without an error. -/
theorem silences_side (s : Session) (site : Site) (hfails : s.Fails) (control : Bool) :
    if (s.relays.side control).closed then
      (s.relays.side control).error.isSome = true ∧
        (s.silenced site).relays.side control = s.relays.side control
    else ((s.silenced site).relays.side control).error = none := by
  obtain ⟨site', hside⟩ : ∃ site', (s.silenced site).relays.side control =
      ((s.relays.side control).close site').1 := by
    cases control <;> exact ⟨_, rfl⟩
  rw [hside, Relay.close, Relay.shutdown]
  split
  next hclosed => exact ⟨hfails control hclosed, rfl⟩
  next => rfl

/-- Wherever a step silences the relays of a session, its backend is over. -/
theorem Step.silences (h : Kept y.registry y.hand y.ends) {n : SessionId}
    (hs : Step y (.cue n .silenced) z) : Silences y z n := by
  cases hs with
  | @cue n k s _ hhad hsession hnext =>
    obtain ⟨late, hnext⟩ := hnext
    obtain rfl := (Cue.place hnext).1.mp rfl
    have hstands := h.stands n s hsession
    rw [getD_of_getElem? hhad] at hstands
    refine ⟨s, s.silenced y.world.site, hsession,
      List.getElem?_set_self (List.getElem?_eq_some_iff.mp hsession).1, ?_, fun control =>
        ⟨Session.closed_silenced s _ control,
          silences_side s _ (hstands.fails (Nat.le_refl 3)) control⟩⟩
    rw [hstands.backend]
    exact hstands.finished (Nat.le_refl 3)

/-- Wherever a step announces the end of a session, all that has to come before has been done. -/
theorem Step.announced (h : Kept y.registry y.hand y.ends) {n : SessionId}
    (hs : Step y (.cue n .ended) z) : Announced y n := by
  cases hs with
  | @cue n k s _ hhad hsession hnext =>
    obtain ⟨late, hnext⟩ := hnext
    obtain rfl := (Cue.place hnext).2.1.mp rfl
    have hstands := h.stands n s hsession
    rw [getD_of_getElem? hhad] at hstands
    refine ⟨s, hsession, ?_, hstands.closed (Nat.le_refl 4), h.mem_bound hhad (by decide) hsession⟩
    rw [hstands.backend]
    exact hstands.finished (by decide)

/-! ## The annals -/

/-- The annals tell the truth of every run, from a proxy without sessions on. -/
theorem annals_run {basis : Basis} {host : Host} {backends : β}
    (hr : Run Step (Proxy.idle basis host backends).midway trace y) : Annals trace y := by
  have hidle := kept_idle basis host backends
  have h : Kept y.registry y.hand y.ends := hidle.run hr
  have hreckoned : Reckoned (Proxy.idle basis host backends).midway := rfl
  refine ⟨starts_run hidle hr ⟨rfl, rfl⟩, opened_run hr, ends_run hr rfl, fun n cue before after => ?_,
    started_once_run hidle hr ⟨rfl, rfl⟩, ended_once_run hr rfl, fun n s hs => (h.stands n s hs).fails,
    fun n z => Step.silences h, fun n z => Step.announced h, h.bound_iff, journal_run hidle hr,
    reckoned_run hidle hreckoned hr⟩
  exact begun_run hidle hr ⟨rfl, rfl⟩

end Midway

/-! ## What the journal tells -/

/-- An event is of a start exactly if the moment that writes it is. -/
theorem isOfStart_event {moment : Moment} {e : Event} (h : moment.event? = some e) :
    e.isOfStart = moment.isOfStart := by
  cases moment with
  | cue n cue => cases cue <;> cases h <;> rfl
  | _ => cases h <;> rfl

/-- An event is of the end of a session exactly if the moment that writes it is. -/
theorem isOfEnd_event {n : SessionId} {moment : Moment} {e : Event} (h : moment.event? = some e) :
    e.isOfEnd n = (moment.cue? n).isSome := by
  cases moment with
  | cue m cue => by_cases hm : m = n <;> cases cue <;> cases h <;> simp [Event.isOfEnd, Moment.cue?, hm]
  | _ => cases h <;> rfl

/-- What the journal says of starts is what their moments say. -/
theorem filter_isOfStart (trace : List Moment) : (trace.filterMap Moment.event?).filter Event.isOfStart =
    (trace.filter Moment.isOfStart).filterMap Moment.event? := by
  rw [List.filter_filterMap, List.filterMap_filter]
  refine List.filterMap_congr fun moment _ => ?_
  cases h : moment.event? with
  | none => simp
  | some e => simp [Option.filter, isOfStart_event h]

/-- What the journal says of the end of a session is what its cues say. -/
theorem filter_isOfEnd (n : SessionId) (trace : List Moment) :
    (trace.filterMap Moment.event?).filter (Event.isOfEnd n) =
      (trace.filterMap (Moment.cue? n)).filterMap fun cue => (Moment.cue n cue).event? := by
  rw [List.filter_filterMap, List.filterMap_filterMap]
  refine List.filterMap_congr fun moment _ => ?_
  cases h : moment.event? with
  | none =>
    cases moment with
    | cue m cue =>
      by_cases hm : m = n
      · subst hm
        simp [Moment.cue?, h]
      · simp [Moment.cue?, hm]
    | _ => rfl
  | some e =>
    cases moment with
    | cue m cue =>
      by_cases hm : m = n
      · subst hm
        simp [Option.filter, isOfEnd_event h, Moment.cue?, h]
      · simp [Option.filter, isOfEnd_event h, Moment.cue?, hm]
    | _ => simp [Option.filter, isOfEnd_event h, Moment.cue?]

/-- The moments of starts are chapters, with the ports of the sessions that they have led to. -/
theorem Starts.chapters {ports : List UInt16} {count : Nat} {moments : List Moment}
    (h : Starts count moments) (hopened : ∀ n relays done, .opened n relays done ∈ moments →
      ports[n]? = some relays.rtp.inbound.port) :
    Chapters (ports.take count) (moments.filterMap Moment.event?) := by
  induction h with
  | none => exact .none
  | failed _ hcalls ih =>
    obtain ⟨url, log, -⟩ := hcalls
    rw [List.filterMap_append]
    exact .failed (ih fun n relays done hmem => hopened n relays done (List.mem_append_left _ hmem)) _
      url log
  | @succeeded count moments call relays relays' done _ hcalls hown ih =>
    have hport := hopened count relays' done (by simp)
    have hinbound : relays'.rtp.inbound = relays.rtp.inbound := hown false
    have hlength : (ports.take count).length = count :=
      List.length_take_of_le (Nat.le_of_lt (List.getElem?_eq_some_iff.mp hport).1)
    obtain ⟨url, log, -⟩ := hcalls
    have hchapters := Chapters.succeeded
      (ih fun n relays done hmem => hopened n relays done (List.mem_append_left _ hmem))
      relays.rtp.inbound.port url log
    rw [hlength] at hchapters
    rw [List.filterMap_append, List.take_add_one, hport, hinbound]
    exact hchapters

namespace Annals

variable [Backend β] {trace : List Moment} {y : Midway β} {n : SessionId} {k : Nat}

/-- The journal tells every start as a whole when none is under way. -/
theorem chapters (h : Annals trace y) (hempty : y.hand = .empty) :
    Chapters (y.world.ports.take y.ends.length) (y.world.journal.filter Event.isOfStart) := by
  obtain ⟨moments, soFar, hmoments, hstarts, hunderway⟩ := h.starts
  rw [hempty] at hunderway
  cases hunderway with
  | empty =>
    rw [List.append_nil] at hmoments
    rw [h.journal, filter_isOfStart, hmoments]
    refine hstarts.chapters fun n relays done hmem => ?_
    obtain ⟨s, hs, hown⟩ := h.opened n relays done (List.mem_of_mem_filter (hmoments ▸ hmem))
    have hinbound : s.relays.rtp.inbound = relays.rtp.inbound := hown false
    rw [Floor.ports, List.getElem?_map, hs, Option.map_some, hinbound]

/-- The journal tells of the end of a session as far as it has come. -/
theorem ends_told (h : Annals trace y) (hk : y.ends[n]? = some k) : ∃ late,
    y.world.journal.filter (Event.isOfEnd n) =
      ((Cue.course late).take k).filterMap fun cue => (Moment.cue n cue).event? := by
  obtain ⟨late, hlate⟩ := h.ends n
  rw [Midway.getD_of_getElem? hk] at hlate
  exact ⟨late, by rw [h.journal, filter_isOfEnd, hlate]⟩

/-- An end begins when its session has been announced, and the journal says so. -/
theorem prologues (h : Annals trace y) (n : SessionId) (e : Event) (before after : List Event)
    (hjournal : y.world.journal = before ++ e :: after) (he : e.isOfEnd n = true) :
    .started n ∈ before := by
  rw [h.journal, List.filterMap_eq_append_iff] at hjournal
  obtain ⟨earlier, later, rfl, rfl, hlater⟩ := hjournal
  obtain ⟨untold, moment, rest, rfl, huntold, hmoment, -⟩ := List.filterMap_eq_cons_iff.mp hlater
  cases moment with
  | cue m cue =>
    have hm : m = n := by
      by_contra hne
      simp [isOfEnd_event hmoment, Moment.cue?, hne] at he
    subst hm
    have hstarted := h.begun m cue (earlier ++ untold) rest (List.append_assoc ..).symm
    rcases List.mem_append.mp hstarted with hmem | hmem
    · exact List.mem_filterMap.mpr ⟨_, hmem, rfl⟩
    · cases huntold _ hmem
  | _ => cases (isOfEnd_event (n := n) hmoment).symm.trans he

end Annals

/-! ## At rest -/

namespace Scene

variable [Backend β] {s : Scene β} {targets : List SocketAddress}

/-- Between orders no end is under way. -/
theorem Fit.ends_atRest (h : s.Fit targets) {n : SessionId} {k : Nat}
    (hk : s.proxy.midway.ends[n]? = some k) :
    (k = 0 ∧ s.proxy.registry.isFinished n = false ∧ n ∈ s.proxy.registry.bound.map Prod.snd) ∨
    (k = 7 ∧ n ∉ s.proxy.registry.bound.map Prod.snd) := by
  rw [Proxy.midway, List.getElem?_map, Option.map_eq_some_iff] at hk
  obtain ⟨entry, he, rfl⟩ := hk
  cases hfired : entry.stage.gate.isFired with
  | false =>
    obtain ⟨harmed, hbusy⟩ := h.orderly.armed h.settled he hfired
    refine .inl ⟨by rw [harmed, Stage.cues], hbusy, List.mem_map.mpr ⟨(entry.key, n), ?_, rfl⟩⟩
    exact (h.orderly.bound_iff _ _).mpr ⟨entry, he, rfl, hfired⟩
  | true =>
    obtain ⟨body, hstage⟩ := (isFired_gate_iff entry.stage).mp hfired
    refine .inr ⟨by rw [hstage, Stage.cues], fun hmem => ?_⟩
    obtain ⟨⟨key, m⟩, hb, rfl⟩ := List.mem_map.mp hmem
    obtain ⟨entry', he', -, hfired'⟩ := (h.orderly.bound_iff _ _).mp hb
    obtain rfl := Option.some.inj (he.symm.trans he')
    exact Bool.false_ne_true (hfired'.symm.trans hfired)

/-- Between two orders nothing is under way. -/
theorem Fit.atRest {trace : List Moment} (h : s.Fit targets) (ha : Annals trace s.proxy.midway) :
    s.proxy.AtRest := by
  have hreckoned := ha.tally
  have hnone : s.proxy.midway.ends.count 5 = 0 := by
    rw [List.count_eq_zero]
    intro hmem
    obtain ⟨n, hn⟩ := List.mem_iff_getElem?.mp hmem
    rcases h.ends_atRest hn with ⟨hk, -⟩ | ⟨hk, -⟩
    · exact absurd hk (by decide)
    · exact absurd hk (by decide)
  rw [Reckoned, hnone] at hreckoned
  have hlength : s.proxy.midway.ends.length = s.proxy.registry.world.sessions.length :=
    (List.length_map ..).trans h.orderly.sessions.symm
  have hports : s.proxy.midway.world.ports.take s.proxy.midway.ends.length =
      s.proxy.registry.world.ports :=
    List.take_of_length_le (by rw [hlength, Floor.ports, List.length_map]; exact Nat.le_refl _)
  refine ⟨fun _ _ => h.ends_atRest, hports ▸ ha.chapters rfl, fun n hn => ?_, ha.prologues, hreckoned⟩
  have hk := List.getElem?_eq_getElem (hlength ▸ hn)
  rcases h.ends_atRest hk with ⟨hk', -, hbound⟩ | ⟨hk', hbound⟩
  · obtain ⟨late, hlate⟩ := ha.ends_told (hk'.symm ▸ hk)
    exact .inl ⟨hbound, hlate⟩
  · obtain ⟨late, hlate⟩ := ha.ends_told (hk'.symm ▸ hk)
    exact .inr ⟨hbound, late, hlate⟩

end Scene

/-- Two clients have a session each and a third is refused; the first session ends by itself, and
then everything is stopped. -/
def twoServed : List Order :=
  [.start ⟨loopback, 6000, "a.ts".toList⟩, .start ⟨loopback, 6100, "b.ts".toList⟩,
    .start ⟨loopback, 6200, "c.ts".toList⟩, .ends (.of loopback 6000), .stopAll]

end MediaProxy
