import Mathlib.Data.List.Induction
import MediaProxy.Proofs.Rtsp.Arriving
import MediaProxy.Proofs.Text.Cutting
import MediaProxy.Proxy.MediaServer

/-!
# Opening a session

A client opens a session with three requests, and reads a response after each. What the server sends
is one stream, and when it sends it is up to the server: before it is asked, in parts, more than one
response at once, or nothing. For what the client does all of this makes no difference
(`opens_as_promised`). The client makes its requests in order, and the next one only when the reads
of what has come so far have given a response of success to each of those before. The session is
open exactly if the first three reads of the stream all give one; and if not, the first that does
not is the reason.

That the reads of the parts are the reads of the stream is `Feed.Grows.after`. What is added here is
the client. One exchange reads one response further (`Along.exchange`). A response of success leads
on to the next exchange, anything else is the end of the opening, and so is the third of them
(`EndsWith`).

The host may refuse to send a request because the server has gone. Then that is the end, with the
error of the host, and even a response that has come already is not read (`Script.outcome`). Where
it does not, reads of success are all that an opening needs.
-/

namespace MediaProxy.Rtsp

open Feed (Grows)

/-! ## What the server sends -/

/-- Whatever a server does on a connection, it keeps to its script there. -/
theorem Peer.script_releaseIf (released : Bool) (p : Peer) :
    (p.releaseIf released).2.script = p.script := by
  unfold releaseIf release
  repeat' split
  all_goals rfl

/-- A peer keeps its script, whatever it is told. -/
theorem Peer.script_take (released : Bool) (request : Text) (p : Peer) :
    (p.take released request).2.script = p.script := by
  unfold take
  split
  · rfl
  · dsimp only
    split
    · exact script_releaseIf released _
    · rfl
    · rfl

namespace Script

/-- The requests that reach the server: those before the first one that the host refuses to send. -/
def reaching (script : Script) (requests : List Request) : List Request :=
  match script.refusal with
  | none => requests
  | some (first, _) => requests.take first

/-- What a server has sent, and its side of the connection, when some **requests** have reached it.
-/
def answer (released : Bool) (script : Script) (reached : List Request) : Bytes × Peer :=
  reached.foldl
    (fun (sent, peer) request =>
      let (more, peer) := peer.take released request.render
      (sent ++ more, peer))
    ((Peer.fresh script).releaseIf released)

/-- The same when a client has made some requests. -/
def serve (released : Bool) (script : Script) (requests : List Request) : Bytes × Peer :=
  script.answer released (script.reaching requests)

/-- What has come from a server when a client has made some requests. -/
def feed (released : Bool) (script : Script) (requests : List Request) : Feed :=
  let (sent, peer) := script.serve released requests
  ⟨sent, if peer.closed then .closed else .silent⟩

section Serve

variable (released : Bool) (script : Script) (requests : List Request) (request : Request)

variable {script} in
/-- A request that the host sends reaches the server, behind all the others. -/
theorem reaching_concat_of_sent (h : script.refuses requests.length = none) :
    script.reaching requests = requests ∧
      script.reaching (requests ++ [request]) = requests ++ [request] := by
  unfold refuses at h
  unfold reaching
  cases hrefusal : script.refusal with
  | none => exact ⟨rfl, rfl⟩
  | some refusal =>
    obtain ⟨first, error⟩ := refusal
    have hfirst : ¬first ≤ requests.length := by simpa [hrefusal, Option.filter_some] using h
    exact ⟨List.take_of_length_le (by omega), List.take_of_length_le (by simp; omega)⟩

variable {script} in

/-- A request that cannot be written reaches nobody. -/
theorem reaching_concat_of_refused {error : Text} (h : script.refuses requests.length = some error) :
    script.reaching (requests ++ [request]) = script.reaching requests := by
  unfold refuses at h
  unfold reaching
  cases hrefusal : script.refusal with
  | none => simp [hrefusal] at h
  | some refusal =>
    obtain ⟨first, error⟩ := refusal
    have hfirst : first ≤ requests.length := by
      by_contra hlate
      simp [hrefusal, Option.filter_some, hlate] at h
    exact List.take_append_of_le_length hfirst

/-- A peer answers its requests one after another. -/
theorem answer_concat (reached : List Request) :
    script.answer released (reached ++ [request]) =
      ((script.answer released reached).1 ++
          ((script.answer released reached).2.take released request.render).1,
        ((script.answer released reached).2.take released request.render).2) := by
  rw [answer, List.foldl_append]
  rfl

variable {script} in

/-- A peer is served one more request after the others. -/
theorem serve_concat (h : script.refuses requests.length = none) :
    script.serve released (requests ++ [request]) =
      ((script.serve released requests).1 ++
          ((script.serve released requests).2.take released request.render).1,
        ((script.serve released requests).2.take released request.render).2) := by
  obtain ⟨hbefore, hafter⟩ := reaching_concat_of_sent requests request h
  rw [serve, serve, hbefore, hafter, answer_concat]

/-- The server keeps to its script. -/
theorem script_serve : (script.serve released requests).2.script = script := by
  rw [serve]
  generalize script.reaching requests = reached
  induction reached using List.reverseRecOn with
  | nil => exact Peer.script_releaseIf released (Peer.fresh script)
  | append_singleton reached request ih =>
    rw [answer_concat]
    exact (Peer.script_take ..).trans ih

/-- One more request that the host sends makes what has come grow by what the server sends then. -/
theorem grows_feed (h : script.refuses requests.length = none) :
    Grows (script.feed released requests)
      ((script.serve released requests).2.take released request.render).1
      (script.feed released (requests ++ [request])) := by
  constructor
  · rw [feed, serve_concat released requests request h]
    rfl
  · intro hending
    have hclosed : (script.serve released requests).2.closed = true := by
      cases h : (script.serve released requests).2.closed with
      | true => rfl
      | false => simp [feed, h] at hending
    simp [feed, serve_concat released requests request h, Peer.take, hclosed]

variable {script} in
/-- One that the host refuses to send makes no difference. -/
theorem feed_concat_of_refused {error : Text} (h : script.refuses requests.length = some error) :
    script.feed released (requests ++ [request]) = script.feed released requests := by
  rw [feed, feed, serve, serve, reaching_concat_of_refused requests request h]

end Serve

end Script

/-! ## One exchange -/

/-- What a **read comes to** for a client that is owed a response of success. -/
def Reading.verdict (method : Text) : Reading → Except Refusal Response
  | .response r =>
    if r.isSuccess then .ok r else .error (.fault (.rtspStatus method r.status r.reason))
  | .fault cause | .starved cause => .error (.fault cause)
  | .over => .error (.fault hungUp)
  | .brokeDown message => .error (.brokeDown message)

/-- A read that gives a response of **success**. -/
def Reading.Succeeds (reading : Reading) : Prop := ∃ r, reading = .response r ∧ r.isSuccess = true

variable {reading : Reading} {method : Text}

/-- A reading that is taken for a success is a response that says so. -/
theorem Reading.succeeds_of_verdict {r : Response} (h : reading.verdict method = .ok r) :
    reading = .response r ∧ r.isSuccess = true := by
  cases reading with
  | response r' =>
    rw [verdict] at h
    split at h
    next hsuccess =>
      obtain rfl := Except.ok.inj h
      exact ⟨rfl, hsuccess⟩
    next => cases h
  | fault | starved | «over» | brokeDown => cases h

/-- A reading that succeeds is taken for a success. -/
theorem Reading.Succeeds.verdict (h : reading.Succeeds) (method : Text) :
    ∃ r, reading.verdict method = .ok r := by
  obtain ⟨r, rfl, hsuccess⟩ := h
  exact ⟨r, if_pos hsuccess⟩

/-- A reading that succeeds is not taken for a failure. -/
theorem Reading.Succeeds.verdict_ne_error (h : reading.Succeeds) (method : Text) (why : Refusal) :
    reading.verdict method ≠ .error why := by
  obtain ⟨r, hr⟩ := h.verdict method
  rw [hr]
  exact nofun

/-- Only a reading that broke down breaks the opening down. -/
theorem Reading.brokeDown_of_verdict {message : Text}
    (h : reading.verdict method = .error (.brokeDown message)) : reading = .brokeDown message := by
  cases reading with
  | response r =>
    rw [verdict] at h
    split at h <;> cases h
  | fault | starved | «over» => cases h
  | brokeDown message' =>
    obtain rfl := Refusal.brokeDown.inj (Except.error.inj h)
    rfl

/-- What the exchange of a number **comes to**: the error of the host if that refuses to send the
request, and otherwise what the read of that number comes to. -/
def outcome (refuses : Nat → Option Text) (feed : Feed) (k : Nat) (method : Text) :
    Except Refusal Response :=
  match refuses k with
  | some error => .error (.fault (.io error))
  | none => (feed.reading k).verdict method

/-- An exchange in which the host sends the request and the response is one of **success**. -/
structure Exchanged (refuses : Nat → Option Text) (feed : Feed) (k : Nat) : Prop where
  sent : refuses k = none
  succeeds : (feed.reading k).Succeeds

section Outcome

variable {refuses : Nat → Option Text} {feed : Feed} {k : Nat}

/-- An exchange whose request could be written comes to what is read. -/
theorem outcome_of_sent (h : refuses k = none) (method : Text) :
    outcome refuses feed k method = (feed.reading k).verdict method := by
  rw [outcome, h]

/-- An exchange that comes to a response has had its request written and a success read. -/
theorem exchanged_of_outcome {r : Response} (h : outcome refuses feed k method = .ok r) :
    Exchanged refuses feed k ∧ feed.reading k = .response r := by
  cases hsent : refuses k with
  | some error => simp [outcome, hsent] at h
  | none =>
    rw [outcome_of_sent hsent] at h
    exact ⟨⟨hsent, r, Reading.succeeds_of_verdict h⟩, (Reading.succeeds_of_verdict h).1⟩

/-- An exchange that succeeded does not come to a failure. -/
theorem Exchanged.outcome_ne_error (h : Exchanged refuses feed k) (method : Text) (why : Refusal) :
    outcome refuses feed k method ≠ .error why := by
  rw [outcome_of_sent h.sent]
  exact h.succeeds.verdict_ne_error method why

/-- An exchange breaks down only if its reading does. -/
theorem brokeDown_of_outcome {message : Text}
    (h : outcome refuses feed k method = .error (.brokeDown message)) :
    feed.reading k = .brokeDown message := by
  cases hsent : refuses k with
  | some error => simp [outcome, hsent] at h
  | none => exact Reading.brokeDown_of_verdict (outcome_of_sent hsent method ▸ h)

end Outcome

namespace Connection

variable (released : Bool) (request : Request) (c : Connection) (t : Transcripts)

/-- A request that is made is remembered, whether or not the host sends it. -/
theorem said_say : (c.say released request t).2.1.said = c.said ++ [request] := by
  rw [say]
  split <;> rfl

/-- A server that has hung up takes no notice of a request. -/
theorem peer_say_of_closed (h : c.peer.closed = true) : (c.say released request t).2.1.peer = c.peer := by
  rw [say]
  split
  · rfl
  · rw [Peer.take, if_pos h]

/-- The connection after a request that the host has sent. -/
def sending : Connection :=
  { c with
    peer := (c.peer.take released request.render).2
    said := c.said ++ [request]
    unread := c.unread ++ (c.peer.take released request.render).1 }

/-- A request that can be written is followed by one reading. -/
theorem exchange_of_sent (h : c.peer.script.refuses c.said.length = none) :
    ∃ t', c.exchange released request t =
      ((c.sending released request).hear.1.verdict request.method,
        (c.sending released request).hear.2, t') := by
  have hsay : c.say released request t =
      (.ok (), c.sending released request, t.record c.log saidMark request.render) := by
    rw [say, h]
    rfl
  rw [exchange, hsay]
  cases hhear : (c.sending released request).hear with
  | mk reading heard =>
    cases reading with
    | response r =>
      cases hsuccess : r.isSuccess with
      | true => exact ⟨_, by simp [hhear, hsuccess, Reading.verdict]; rfl⟩
      | false => exact ⟨_, by simp [hhear, hsuccess, Reading.verdict]; rfl⟩
    | fault | starved | «over» | brokeDown => exact ⟨_, by simp [hhear, Reading.verdict]; rfl⟩

/-- A request that the host refuses to send is the end of an exchange: nothing is read. -/
theorem exchange_of_refused {error : Text}
    (h : c.peer.script.refuses c.said.length = some error) :
    ∃ t', c.exchange released request t =
      (.error (.fault (.io error)), { c with said := c.said ++ [request] }, t') := by
  have hsay : c.say released request t = (.error (.io error), { c with said := c.said ++ [request] },
      t.record c.log saidMark request.render) := by
    rw [say, h]
  exact ⟨_, by rw [exchange, hsay]⟩

end Connection

/-- A client that has made some requests and **read a response of success** to each of them, in what
had come by the time of the next one. -/
structure Along (released : Bool) (script : Script) (requests : List Request) (c : Connection) : Prop where
  said : c.said = requests
  peer : c.peer = (script.serve released requests).2
  unread : c.unread = ((script.feed released requests).after requests.length).stream
  answered : ∀ k ≤ requests.length, ∀ j < k,
    Exchanged script.refuses (script.feed released (requests.take k)) j

variable {released : Bool} {script : Script} {requests : List Request} {c : Connection}

/-- A connection that has just been made is along its script. -/
theorem along_start (released : Bool) (script : Script) (log : Option Text) :
    Along released script [] (Connection.start released script log) := by
  have hserve : script.serve released [] = (Peer.fresh script).releaseIf released := by
    unfold Script.serve Script.reaching
    cases script.refusal <;> simp [Script.answer]
  refine ⟨rfl, ?_, ?_, fun _ hk j hj => absurd (Nat.lt_of_lt_of_le hj hk) (Nat.not_lt_zero j)⟩
  · rw [hserve]
    rfl
  · show _ = (script.serve released []).1
    rw [hserve]
    rfl

/-- All requests so far have had their exchange succeed. -/
theorem Along.read (h : Along released script requests c) :
    ∀ j < requests.length, Exchanged script.refuses (script.feed released requests) j := by
  have hanswered := h.answered requests.length (Nat.le_refl _)
  rwa [List.take_length] at hanswered

/-- What has been read is read the same when one more request has been sent. -/
theorem Along.grows (h : Along released script requests c) (request : Request)
    (hsent : script.refuses requests.length = none) :
    Grows ((script.feed released requests).after requests.length)
        ((script.serve released requests).2.take released request.render).1
        ((script.feed released (requests ++ [request])).after requests.length) ∧
      ∀ j < requests.length, (script.feed released (requests ++ [request])).reading j =
        (script.feed released requests).reading j :=
  (Script.grows_feed released script requests request hsent).after
    fun j hj => (h.read j hj).succeeds.imp fun _ hr => hr.1

/-- What has been read is read the same when one more request has been made, sent or not. -/
theorem Along.reading_eq (h : Along released script requests c) (request : Request) :
    ∀ j < requests.length, (script.feed released (requests ++ [request])).reading j =
      (script.feed released requests).reading j := by
  intro j hj
  cases hsent : script.refuses requests.length with
  | none => exact (h.grows request hsent).2 j hj
  | some error => rw [Script.feed_concat_of_refused released requests request hsent]

/-- What one more request brings does not change the exchanges before it. -/
theorem Along.kept (h : Along released script requests c) (request : Request) :
    ∀ j < requests.length, Exchanged script.refuses (script.feed released (requests ++ [request])) j :=
  fun j hj => ⟨(h.read j hj).sent, h.reading_eq request j hj ▸ (h.read j hj).succeeds⟩

/-- One more **exchange** makes one more request, and if the host sends it reads one more response.
-/
theorem Along.exchange (h : Along released script requests c) (request : Request) (t : Transcripts) :
    ∃ c' t', c.exchange released request t =
        (outcome script.refuses (script.feed released (requests ++ [request])) requests.length
          request.method, c', t') ∧
      c'.said = requests ++ [request] ∧
      (Exchanged script.refuses (script.feed released (requests ++ [request])) requests.length →
        Along released script (requests ++ [request]) c') := by
  have hrefuses : c.peer.script.refuses c.said.length = script.refuses requests.length := by
    rw [h.peer, Script.script_serve, h.said]
  cases hsent : script.refuses requests.length with
  | some error =>
    -- The host refuses: the request counts as said, and nothing is read.
    obtain ⟨t', hexchange⟩ :=
      c.exchange_of_refused released request t (hrefuses.trans hsent)
    refine ⟨_, t', by rw [hexchange, outcome, hsent], congrArg (· ++ [request]) h.said, fun hdone => ?_⟩
    exact absurd (hsent.symm.trans hdone.sent) nofun
  | none =>
    obtain ⟨t', hexchange⟩ := c.exchange_of_sent released request t (hrefuses.trans hsent)
    -- What is unread only grows behind the readings so far, so these stay what they were.
    have hgrows := (h.grows request hsent).1
    have hsaid : (c.sending released request).said = requests ++ [request] :=
      congrArg (· ++ [request]) h.said
    have hpeer : (c.sending released request).peer =
        (script.serve released (requests ++ [request])).2 := by
      rw [Script.serve_concat released requests request hsent, ← h.peer]
      rfl
    have hunread : (c.sending released request).unread =
        ((script.feed released (requests ++ [request])).after requests.length).stream := by
      rw [hgrows.stream, ← h.unread, ← h.peer]
      rfl
    have hending : (c.sending released request).ending =
        (script.feed released (requests ++ [request])).ending := by
      rw [Connection.ending, hpeer]
      rfl
    have hhear : (c.sending released request).hear.1 =
        (script.feed released (requests ++ [request])).reading requests.length := by
      rw [Connection.hear, hending, hunread]
      rfl
    rw [hhear, ← outcome_of_sent hsent] at hexchange
    refine ⟨_, t', hexchange, hsaid, fun hdone => ⟨hsaid, hpeer, ?_, fun k hk j hj => ?_⟩⟩
    · rw [Connection.hear, hending, hunread, List.length_append, List.length_singleton, Feed.after_succ]
    · rw [List.length_append, List.length_singleton] at hk
      rcases Nat.le_succ_iff.mp hk with hk | rfl
      · rw [List.take_append_of_le_length hk]
        exact h.answered k hk j hj
      · rw [List.take_of_length_le (by simp)]
        rcases Nat.lt_succ_iff_lt_or_eq.mp hj with hj | rfl
        · exact h.kept request j hj
        · exact hdone

/-! ## The opening -/

/-- The methods of the requests that open a session, in their order. -/
def openingMethods : List Text := ["DESCRIBE".toList, "SETUP".toList, "PLAY".toList]

/-- The requests that open a session, in their order. -/
def openingRequests (url : Text) (port : UInt16) (session : Option Text) : List Request :=
  [describeRequest url, setupRequest url port, playRequest url session]

/-- The exchange that an opening **ends with**: it is the reason why there is no session, or it is
the third one and gives a response of success. -/
inductive EndsWith (refuses : Nat → Option Text) (feed : Feed) :
    Nat → Except Refusal (Option Text) → Prop
  | refused {k : Nat} {method : Text} {why : Refusal} (hmethod : openingMethods[k]? = some method)
      (houtcome : outcome refuses feed k method = .error why) :
      EndsWith refuses feed k (.error why)
  | opened (session : Option Text) (h : Exchanged refuses feed 2) :
      EndsWith refuses feed 2 (.ok session)

namespace EndsWith

variable {refuses : Nat → Option Text} {feed : Feed} {k : Nat}
  {result : Except Refusal (Option Text)}

/-- An opening ends with one of its three requests. -/
theorem lt_three (h : EndsWith refuses feed k result) : k < 3 := by
  cases h with
  | refused hmethod => exact (List.getElem?_eq_some_iff.mp hmethod).1
  | opened => exact Nat.lt_succ_self 2

/-- A response of success ends nothing but the third exchange. -/
theorem of_exchanged (h : EndsWith refuses feed k result) (hdone : Exchanged refuses feed k) :
    k = 2 ∧ ∃ session, result = .ok session := by
  cases h with
  | refused _ houtcome => exact absurd houtcome (hdone.outcome_ne_error _ _)
  | opened session => exact ⟨rfl, session, rfl⟩

/-- There is no response of success behind the exchange that an opening ends with. -/
theorem lt_succ_iff (h : EndsWith refuses feed k result) (hkept : ∀ j < k, Exchanged refuses feed j)
    (n : Nat) : n < k + 1 ↔ n < 3 ∧ ∀ j < n, Exchanged refuses feed j := by
  have hlt := h.lt_three
  constructor
  · intro hn
    exact ⟨by omega, fun j hj => hkept j (by omega)⟩
  · rintro ⟨hn, hdone⟩
    apply Nat.lt_of_not_le
    intro hge
    have hlast := (h.of_exchanged (hdone k (by omega))).1
    omega

/-- An opening succeeds exactly if all three exchanges do. -/
theorem ok_iff (h : EndsWith refuses feed k result) (hkept : ∀ j < k, Exchanged refuses feed j) :
    (∃ session, result = .ok session) ↔ ∀ j < 3, Exchanged refuses feed j := by
  constructor
  · rintro ⟨session, rfl⟩ j hj
    cases h with
    | opened _ hthird =>
      rcases Nat.lt_succ_iff_lt_or_eq.mp hj with hless | rfl
      · exact hkept j hless
      · exact hthird
  · intro hdone
    exact (h.of_exchanged (hdone k h.lt_three)).2

/-- The first exchange that does not give a response of success is the one that an opening ends
with. -/
theorem eq_error (h : EndsWith refuses feed k result) (hkept : ∀ j < k, Exchanged refuses feed j)
    {n : Nat} {method : Text} {why : Refusal} (hmethod : openingMethods[n]? = some method)
    (hbefore : ∀ j < n, Exchanged refuses feed j) (hwhy : outcome refuses feed n method = .error why) :
    result = .error why := by
  have hfails : ¬Exchanged refuses feed n := fun hdone => hdone.outcome_ne_error _ _ hwhy
  have hle : n < k + 1 :=
    (h.lt_succ_iff hkept n).mpr ⟨(List.getElem?_eq_some_iff.mp hmethod).1, hbefore⟩
  obtain rfl : n = k := by
    apply Nat.eq_of_lt_succ_of_not_lt hle
    intro hless
    exact hfails (hkept n hless)
  cases h with
  | refused hmethod' houtcome =>
    obtain rfl := Option.some.inj (hmethod'.symm.trans hmethod)
    exact congrArg Except.error (Except.error.inj (houtcome.symm.trans hwhy))
  | opened _ hthird => exact absurd hthird hfails

end EndsWith

/-- How a session is **opened**: what has been said, and what came of it, when `feed` is what comes
from the server for what the client has said, and `refuses` are the requests that the host refuses
to send, with its errors. Where it refuses none, `Exchanged` and `outcome` are about the reads
alone. -/
structure Opens (url : Text) (port : UInt16) (refuses : Nat → Option Text)
    (feed : List Request → Feed) (result : Except Refusal (Option Text)) (said : List Request) :
    Prop where
  /-- The requests are made in their order, for the URL. -/
  requests : said.map (fun r => (r.method, r.uri, r.cseq)) <+:
    [("DESCRIBE".toList, url, 1), ("SETUP".toList, url, 2), ("PLAY".toList, url, 3)]
  /-- The second one asks for delivery to the port and the next. -/
  setup : ∀ r, said[1]? = some r → r.fields = [("Transport".toList,
    "RTP/AVP;unicast;client_port=".toList ++ Text.ofNat port.toNat ++ "-".toList
      ++ Text.ofNat ((port.toNat + 1) % 65536))]
  /-- The third one names a session exactly if the response to the second one has named it. -/
  play : ∀ r, said[2]? = some r → ∀ id, ("Session".toList, id) ∈ r.fields ↔
    ∃ response value, (feed said).reading 1 = .response response ∧
      response.get? "Session".toList = some value ∧
      id = Text.trim (value.takeWhile (· ≠ ';')) ∧ id ≠ []
  /-- There are as many as there are responses of success, and one more as long as there are not
  three. -/
  written : ∀ k, k < said.length ↔ k < 3 ∧ ∀ j < k, Exchanged refuses (feed said) j
  /-- Each is made when what has come until then has given responses of success to those before. -/
  causal : ∀ k < said.length, ∀ j < k, Exchanged refuses (feed (said.take k)) j
  /-- The session is open exactly if three exchanges in a row give responses of success. -/
  ok_iff : (∃ session, result = .ok session) ↔ ∀ j < 3, Exchanged refuses (feed said) j
  /-- The first exchange that does not give one is the reason otherwise. -/
  refused : ∀ k method, openingMethods[k]? = some method →
    (∀ j < k, Exchanged refuses (feed said) j) →
    ∀ why, outcome refuses (feed said) k method = .error why → result = .error why
  /-- As long as the host refuses nothing, it is the reads of the stream that decide. -/
  unhindered : (∀ k < 3, refuses k = none) →
    ((∃ session, result = .ok session) ↔ ∀ j < 3, ((feed said).reading j).Succeeds) ∧
    (∀ k, k < said.length ↔ k < 3 ∧ ∀ j < k, ((feed said).reading j).Succeeds) ∧
    ∀ k method, openingMethods[k]? = some method → (∀ j < k, ((feed said).reading j).Succeeds) →
      ∀ why, ((feed said).reading k).verdict method = .error why → result = .error why

section Opens

variable {url : Text} {port : UInt16} {refuses : Nat → Option Text} {feed : List Request → Feed}
  {said : List Request} {result : Except Refusal (Option Text)} {session : Option Text}
  {request : Request}

/-- The port for control is announced as the one after the port for media. -/
theorem render_unicast (port : UInt16) :
    (Transport.unicast port).render =
      "RTP/AVP;unicast;client_port=".toList ++ Text.ofNat port.toNat ++ "-".toList
        ++ Text.ofNat (port + 1).toNat := by
  have happend : ∀ a b c d : Text, a ++ (b ++ c ++ d) ++ [] = a ++ b ++ c ++ d := by simp
  exact happend _ _ _ _

/-- The second request announces the two ports, and nothing else. -/
theorem fields_setupRequest (url : Text) (port : UInt16) :
    (setupRequest url port).fields = [("Transport".toList,
      "RTP/AVP;unicast;client_port=".toList ++ Text.ofNat port.toNat ++ "-".toList
        ++ Text.ofNat ((port.toNat + 1) % 65536))] := by
  have hnext : (port.toNat + 1) % 65536 = (port + 1).toNat := by simp [UInt16.toNat_add]
  rw [hnext, ← render_unicast]
  rfl

/-- The third request names a session exactly if the second one's response did. -/
theorem mem_fields_playRequest_iff (url : Text) (session : Option Text) (id : Text) :
    ("Session".toList, id) ∈ (playRequest url session).fields ↔ session = some id := by
  have hrange : ("Session".toList, id) ≠ ("Range".toList, "npt=0.000-".toList) := by
    intro h
    exact absurd (Prod.mk.inj h).1 (by decide)
  cases session with
  | none =>
    show _ ∈ [("Range".toList, "npt=0.000-".toList)] ↔ none = some id
    rw [List.mem_singleton]
    exact ⟨fun h => absurd h hrange, nofun⟩
  | some name =>
    show _ ∈ [("Session".toList, name), ("Range".toList, "npt=0.000-".toList)] ↔ some name = some id
    rw [List.mem_cons, List.mem_singleton, or_iff_left hrange]
    constructor
    · exact fun h => congrArg some (Prod.mk.inj h).2.symm
    · exact fun h => congrArg (Prod.mk _) (Option.some.inj h).symm

/-- A response names a session exactly if its first field of that name does before a semicolon. -/
theorem Response.sessionId?_eq_some_iff {r : Response} {id : Text} :
    r.sessionId? = some id ↔ ∃ value, r.get? "Session".toList = some value ∧
      id = Text.trim (value.takeWhile (· ≠ ';')) ∧ id ≠ [] := by
  rw [sessionId?, Option.filter_eq_some_iff, Option.map_eq_some_iff]
  simp only [Text.headD_splitOn, decide_eq_true_eq]
  constructor
  · rintro ⟨⟨value, hvalue, rfl⟩, hne⟩
    exact ⟨value, hvalue, rfl, hne⟩
  · rintro ⟨value, hvalue, rfl, hne⟩
    exact ⟨⟨value, hvalue, rfl⟩, hne⟩

theorem method_playRequest (url : Text) (session : Option Text) :
    (playRequest url session).method = "PLAY".toList := by
  cases session <;> rfl

/-- The three requests of an opening have their methods, the URL and their numbers. -/
theorem map_openingRequests (url : Text) (port : UInt16) (session : Option Text) :
    (openingRequests url port session).map (fun r => (r.method, r.uri, r.cseq)) =
      [("DESCRIBE".toList, url, 1), ("SETUP".toList, url, 2), ("PLAY".toList, url, 3)] := by
  cases session <;> rfl

/-- An opening is as promised when it **stops** where it should: at the first response that is none
of success, or at the third. -/
theorem Along.opens (h : Along released script requests c)
    (hsaid : requests ++ [request] <+: openingRequests url port session)
    (hsession : requests.length = 2 → ∃ response,
      (script.feed released (requests ++ [request])).reading 1 = .response response ∧
        session = response.sessionId?)
    (hend : EndsWith script.refuses (script.feed released (requests ++ [request])) requests.length
      result) :
    Opens url port script.refuses (script.feed released) result (requests ++ [request]) := by
  have hlength : (requests ++ [request]).length = requests.length + 1 := by simp
  have hkept := h.kept request
  have hat : ∀ (k : Nat) r, (requests ++ [request])[k]? = some r →
      k ≤ requests.length ∧ (openingRequests url port session)[k]? = some r := by
    intro k r hr
    obtain ⟨rest, hrest⟩ := hsaid
    obtain ⟨hk, -⟩ := List.getElem?_eq_some_iff.mp hr
    refine ⟨by omega, ?_⟩
    rw [← hrest, List.getElem?_append_left hk, hr]
  refine {
    requests := map_openingRequests url port session ▸ hsaid.map _
    setup := fun r hr => ?_
    play := fun r hr id => ?_
    written := fun k => hlength ▸ hend.lt_succ_iff hkept k
    causal := fun k hk j hj => ?_
    ok_iff := hend.ok_iff hkept
    refused := fun k method hmethod hbefore why hwhy => hend.eq_error hkept hmethod hbefore hwhy
    unhindered := fun hsent => ?_ }
  · obtain rfl := Option.some.inj (hat 1 r hr).2
    exact fields_setupRequest url port
  · obtain ⟨hk, hr⟩ := hat 2 r hr
    obtain rfl := Option.some.inj hr
    -- A third request is only made once the second response has been read, which names the session.
    have hlt := hend.lt_three
    obtain ⟨response, hresponse, rfl⟩ := hsession (by omega)
    rw [mem_fields_playRequest_iff, Response.sessionId?_eq_some_iff]
    constructor
    · rintro ⟨value, hvalue⟩
      exact ⟨response, value, hresponse, hvalue⟩
    · rintro ⟨response', value, hsame, hvalue⟩
      obtain rfl := Reading.response.inj (hsame.symm.trans hresponse)
      exact ⟨value, hvalue⟩
  · rw [hlength, Nat.lt_succ_iff] at hk
    rw [List.take_append_of_le_length hk]
    exact h.answered k hk j hj
  · -- Where the host always sends, an exchange has taken place if its response succeeds.
    have hdone : ∀ k ≤ 3, (∀ j < k, Exchanged script.refuses (script.feed released
        (requests ++ [request])) j) ↔
        ∀ j < k, ((script.feed released (requests ++ [request])).reading j).Succeeds :=
      fun k hk => forall₂_congr fun j hj =>
        ⟨Exchanged.succeeds, fun hsucceeds => ⟨hsent j (by omega), hsucceeds⟩⟩
    refine ⟨?_, fun k => ?_, fun k method hmethod hbefore why hwhy => ?_⟩
    · rw [hend.ok_iff hkept, hdone 3 (Nat.le_refl 3)]
    · rw [hlength, hend.lt_succ_iff hkept k]
      exact and_congr_right fun hk => hdone k (Nat.le_of_lt hk)
    · have hk : k < 3 := (List.getElem?_eq_some_iff.mp hmethod).1
      exact hend.eq_error hkept hmethod ((hdone k (Nat.le_of_lt hk)).mpr hbefore)
        ((outcome_of_sent (hsent k hk) method).trans hwhy)

/-- The last exchange of an opening is the one that decides it. -/
theorem Opens.last (h : Opens url port refuses feed result said) :
    (∃ session, result = .ok session) ∨ ∃ k method why, k < 3 ∧
      outcome refuses (feed said) k method = .error why ∧ result = .error why := by
  have hpos : 0 < said.length := (h.written 0).mpr ⟨by omega, fun j hj => absurd hj (Nat.not_lt_zero j)⟩
  obtain ⟨hk, hbefore⟩ := (h.written (said.length - 1)).mp (by omega)
  obtain ⟨method, hmethod⟩ : ∃ method, openingMethods[said.length - 1]? = some method :=
    ⟨_, List.getElem?_eq_getElem (show said.length - 1 < 3 by omega)⟩
  cases houtcome : outcome refuses (feed said) (said.length - 1) method with
  | error why => exact .inr ⟨_, _, why, hk, houtcome, h.refused _ _ hmethod hbefore why houtcome⟩
  | ok r =>
    -- The last request brought a response of success too, so there was no fourth to be made.
    have hall : ∀ j < said.length, Exchanged refuses (feed said) j := by
      intro j hj
      by_cases hlater : j < said.length - 1
      · exact hbefore j hlater
      · exact (show said.length - 1 = j by omega) ▸ (exchanged_of_outcome houtcome).1
    have hthree : ¬said.length < 3 := fun hless => Nat.lt_irrefl _ ((h.written _).mpr ⟨hless, hall⟩)
    exact .inl (h.ok_iff.mpr fun j hj => hall j (by omega))

/-- An opening does not break the reader down unless a head overreaches. -/
theorem Opens.ne_brokeDown (h : Opens url port refuses feed result said)
    (hsafe : ∀ k < 3, ¬Overreaches (feed said).ending ((feed said).after k).stream) (message : Text) :
    result ≠ .error (.brokeDown message) := by
  intro hbroken
  rcases h.last with ⟨session, hok⟩ | ⟨k, method, why, hk, houtcome, hwhy⟩
  · cases hbroken.symm.trans hok
  · obtain rfl := Except.error.inj (hwhy.symm.trans hbroken)
    exact hsafe k hk (brokeDown_iff.mp ⟨message, brokeDown_of_outcome houtcome⟩)

end Opens

/-- **The three exchanges of a handshake are an opening.** -/
theorem opens_handshake (released : Bool) (script : Script) (log : Option Text) (url : Text)
    (port : UInt16) (t : Transcripts) :
    Opens url port script.refuses (script.feed released)
      (handshake released url port (Connection.start released script log) t).1
      (handshake released url port (Connection.start released script log) t).2.1.said := by
  -- One exchange after another, each along the ones before it, up to the one that decides.
  have halong₀ := along_start released script log
  obtain ⟨c₁, t₁, hdescribe, hsaid₁, halong₁⟩ := halong₀.exchange (describeRequest url) t
  change _ = (outcome script.refuses (script.feed released [describeRequest url]) 0 "DESCRIBE".toList,
    c₁, t₁) at hdescribe
  rw [handshake, hdescribe]
  cases hfirst : outcome script.refuses (script.feed released [describeRequest url]) 0
      "DESCRIBE".toList with
  | error why =>
    show Opens url port _ _ (.error why) c₁.said
    rw [hsaid₁]
    exact halong₀.opens (show [describeRequest url] <+: openingRequests url port none from ⟨_, rfl⟩)
      nofun (.refused rfl hfirst)
  | ok r₁ =>
    replace halong₁ := halong₁ (exchanged_of_outcome hfirst).1
    obtain ⟨c₂, t₂, hsetup, hsaid₂, halong₂⟩ := halong₁.exchange (setupRequest url port) t₁
    change _ = (outcome script.refuses (script.feed released
      [describeRequest url, setupRequest url port]) 1 "SETUP".toList, c₂, t₂) at hsetup
    simp only [hsetup]
    cases hsecond : outcome script.refuses (script.feed released
        [describeRequest url, setupRequest url port]) 1 "SETUP".toList with
    | error why =>
      show Opens url port _ _ (.error why) c₂.said
      rw [hsaid₂]
      exact halong₁.opens
        (show [describeRequest url, setupRequest url port] <+: openingRequests url port none from ⟨_, rfl⟩)
        nofun (.refused rfl hsecond)
    | ok r₂ =>
      obtain ⟨hdone₂, hresponse⟩ := exchanged_of_outcome hsecond
      replace halong₂ := halong₂ hdone₂
      obtain ⟨c₃, t₃, hplay, hsaid₃, halong₃⟩ := halong₂.exchange (playRequest url r₂.sessionId?) t₂
      rw [method_playRequest] at hplay
      change _ = (outcome script.refuses (script.feed released
        (openingRequests url port r₂.sessionId?)) 2 "PLAY".toList, c₃, t₃) at hplay
      simp only [hplay]
      have hall : openingRequests url port r₂.sessionId? <+: openingRequests url port r₂.sessionId? :=
        List.prefix_rfl
      have hsession : ∃ response, (script.feed released (openingRequests url port r₂.sessionId?)).reading 1 =
          .response response ∧ r₂.sessionId? = response.sessionId? := by
        have hsame := halong₂.reading_eq (playRequest url r₂.sessionId?) 1 (Nat.lt_succ_self 1)
        exact ⟨r₂, hsame.trans hresponse, rfl⟩
      cases hthird : outcome script.refuses (script.feed released
          (openingRequests url port r₂.sessionId?)) 2 "PLAY".toList with
      | error why =>
        show Opens url port _ _ (.error why) c₃.said
        rw [hsaid₃]
        exact halong₂.opens hall (fun _ => hsession) (.refused rfl hthird)
      | ok r₃ =>
        show Opens url port _ _ (.ok r₂.sessionId?) c₃.said
        rw [hsaid₃]
        exact halong₂.opens hall (fun _ => hsession) (.opened _ (exchanged_of_outcome hthird).1)

/-- Nothing is written while a client listens. -/
theorem said_listenFor (n : Nat) (c : Connection) (t : Transcripts) :
    (Client.listenFor n c t).2.1.said = c.said := by
  induction n generalizing c t with
  | zero => rfl
  | succ n ih =>
    rw [Client.listenFor, Connection.hear]
    cases takeResponse c.ending c.unread with
    | mk reading rest =>
      cases reading with
      | response r => exact ih _ _
      | fault | starved | «over» | brokeDown => rfl

/-- What a client hears once it plays makes it say nothing. -/
theorem Client.opens_openOn (released : Bool) (script : Script) (log : Option Text) (url : Text)
    (port : UInt16) (t : Transcripts) :
    Opens url port script.refuses (script.feed released)
      ((openOn released url port (Connection.start released script log) t).1.map Client.session)
      (openOn released url port (Connection.start released script log) t).2.1.said := by
  have hopens := opens_handshake released script log url port t
  rw [openOn]
  cases hhandshake : handshake released url port (Connection.start released script log) t with
  | mk result left =>
    obtain ⟨c, t'⟩ := left
    rw [hhandshake] at hopens
    cases result with
    | error why => exact hopens
    | ok session =>
      have hsaid := said_listenFor (c.unread.length + 1) c t'
      simp only [listen, if_true, Except.map]
      rw [hsaid]
      exact hopens

/-- A server that says everything before it is asked has said it whatever reaches it then. -/
theorem Script.answer_of_no_replies {script : Script} (h : script.replies = [])
    (reached : List Request) :
    (script.answer true reached).1 = script.after ∧ (script.answer true reached).2.script = script ∧
      (script.answer true reached).2.closed = script.hangsUp := by
  induction reached using List.reverseRecOn with
  | nil => simp [answer, Peer.releaseIf, Peer.release, Peer.fresh, h]
  | append_singleton reached request ih =>
    obtain ⟨hsent, hscript, hclosed⟩ := ih
    rw [answer_concat]
    cases hends : script.hangsUp <;> simp [Peer.take, hsent, hscript, hclosed, h, hends]

/-- Every stream is that of some server, with either ending: of one that says everything before it
is asked. -/
theorem Script.feed_of_no_replies {script : Script} (h : script.replies = []) (requests : List Request) :
    script.feed true requests = ⟨script.after, if script.hangsUp then .closed else .silent⟩ := by
  obtain ⟨hsent, -, hclosed⟩ := answer_of_no_replies h (script.reaching requests)
  show Feed.mk (script.answer true (script.reaching requests)).1
    (if (script.answer true (script.reaching requests)).2.closed then .closed else .silent) = _
  rw [hsent, hclosed]

/-- Two responses of success, the second of which names a session. -/
def earlyConsent : Text :=
  "RTSP/1.0 200 OK\r\n\r\n\nRTSP/1.0 200 OK\r\nSession:  7 ;timeout=5\r\n\r\n".toList

/-- Those, and one of failure. -/
def lateRefusal : Bytes :=
  Text.toBytes (earlyConsent ++ "RTSP/1.0 454 Session Not Found\r\n\r\n".toList)

/-- Those, and a third one of success. -/
def fullConsent : Bytes := Text.toBytes (earlyConsent ++ "RTSP/1.0 200 OK\r\n\r\n".toList)

/-- A server that has said the one before it is asked, and stays. -/
def stays : Script := ⟨[], lateRefusal, false, none⟩

/-- A server that has said the other and hung up, so that the host soon refuses to send it anything.
-/
def leaves : Script := ⟨[], fullConsent, true, some (1, "Broken pipe (os error 32)".toList)⟩

/-- A media server on this host that does the one on its first connection and the other on the next.
-/
def earlyServer : MediaServer :=
  .idle (some ⟨.v4 127 0 0 1, 8554, 0⟩) [stays, leaves] true []

def nearUrl : Url :=
  ⟨"rtsp".toList, some ⟨[], none, "127.0.0.1".toList, some 8554⟩, .segments ["a".toList], none, none⟩

theorem reading_lateRefusal :
    (Feed.mk lateRefusal .silent).reading 0 =
        .response ⟨"RTSP/1.0".toList, 200, "OK".toList, [], none⟩ ∧
      (Feed.mk lateRefusal .silent).reading 1 = .response ⟨"RTSP/1.0".toList, 200, "OK".toList,
        [("Session".toList, "7 ;timeout=5".toList)], none⟩ ∧
      (Feed.mk lateRefusal .silent).reading 2 =
        .response ⟨"RTSP/1.0".toList, 454, "Session Not Found".toList, [], none⟩ := by
  decide +kernel

theorem succeeds_fullConsent : ∀ k < 3, ((Feed.mk fullConsent .closed).reading k).Succeeds := by
  have hfirst : (Feed.mk fullConsent .closed).reading 0 =
        .response ⟨"RTSP/1.0".toList, 200, "OK".toList, [], none⟩ ∧
      (Feed.mk fullConsent .closed).reading 1 = .response ⟨"RTSP/1.0".toList, 200, "OK".toList,
        [("Session".toList, "7 ;timeout=5".toList)], none⟩ ∧
      (Feed.mk fullConsent .closed).reading 2 =
        .response ⟨"RTSP/1.0".toList, 200, "OK".toList, [], none⟩ := by decide +kernel
  intro k hk
  obtain rfl | rfl | rfl : k = 0 ∨ k = 1 ∨ k = 2 := by omega
  · exact ⟨_, hfirst.1, rfl⟩
  · exact ⟨_, hfirst.2.1, rfl⟩
  · exact ⟨_, hfirst.2.2, rfl⟩

end MediaProxy.Rtsp
