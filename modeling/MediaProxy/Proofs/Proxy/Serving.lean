import Mathlib.Data.List.Forall2
import MediaProxy.Proofs.Control.Replying
import MediaProxy.Proxy.Server

/-!
# One reply for each request

A proxy server that runs takes one datagram after the other, from whoever sends it, while its
sessions go on. This module says what it does with each of them (`Deals`): it passes it over, and
then at most counts it; or it rejects it, and then does nothing but say so; or it starts or stops a
session and says what came of that. From what becomes of one datagram follows what becomes of all
(`one_reply_per_request`): the replies are those to the requests about sessions, each to its sender,
in the order in which the requests came.

No reply is itself a request, so two servers that took each other for clients would fall silent at
once.
-/

namespace MediaProxy

open Amp (Packet StartRequest StopRequest LoadReport)
open Control (numbered)

/-- A datagram, with the address that it **comes from**. -/
structure Arrival where
  sender : SocketAddress
  datagram : Bytes
  deriving DecidableEq, Repr

/-- A reply, with the address that it **goes to**. -/
structure Posted where
  recipient : SocketAddress
  reply : Packet
  deriving DecidableEq, Repr

/-- The request about a session that a datagram makes, if it makes one. -/
def sessionRequest? (datagram : Bytes) : Option Packet :=
  (Packet.parse datagram).toOption.filter fun p => p.code = .startSession || p.code = .stopSession

/-- The number that a datagram reports to a counter of load, if it reports one. -/
def loadReport? (datagram : Bytes) : Option LoadReport :=
  (Packet.parse datagram).toOption.bind LoadReport.ofPacket?

/-- A datagram is a request about sessions exactly if it parses and has one of their codes. -/
theorem sessionRequest?_eq_some_iff {datagram : Bytes} {packet : Packet} :
    sessionRequest? datagram = some packet ↔
      Packet.parse datagram = .ok packet ∧ (packet.code = .startSession ∨ packet.code = .stopSession) := by
  rw [sessionRequest?, Option.filter_eq_some_iff]
  cases Packet.parse datagram <;> simp [Except.toOption]

theorem sessionRequest?_eq_none {datagram : Bytes} {packet : Packet}
    (hparse : Packet.parse datagram = .ok packet)
    (hcode : packet.code ≠ .startSession ∧ packet.code ≠ .stopSession) :
    sessionRequest? datagram = none := by
  rw [Option.eq_none_iff_forall_ne_some]
  intro other hother
  obtain ⟨hsame, hsession⟩ := sessionRequest?_eq_some_iff.mp hother
  obtain rfl := Except.ok.inj (hsame.symm.trans hparse)
  exact hsession.elim hcode.1 hcode.2

/-- A datagram that parses reports load if its packet does. -/
theorem loadReport?_of_parse {datagram : Bytes} {packet : Packet}
    (hparse : Packet.parse datagram = .ok packet) :
    loadReport? datagram = LoadReport.ofPacket? packet := by
  rw [loadReport?, hparse]
  rfl

/-- What **happens to a proxy server** that runs. -/
inductive Happening (β : Type) where
  /-- A datagram arrives. -/
  | arrives (a : Arrival)
  /-- The sessions go on by themselves: something has become of the proxy in the meantime. -/
  | meanwhile (p : Proxy β)
  /-- A counter of load is asked for. -/
  | countsLoad

variable {β : Type}

/-- The request about a session that arrives, with where the reply to it is to go. -/
def Arrival.request? (a : Arrival) : Option (SocketAddress × Packet) :=
  (sessionRequest? a.datagram).map fun packet => (a.sender, packet)

def Happening.arrival? : Happening β → Option Arrival
  | .arrives a => some a
  | .meanwhile _ | .countsLoad => none

/-- The datagrams among what happens, in the order in which they arrive. -/
def arrivals (happenings : List (Happening β)) : List Arrival := happenings.filterMap Happening.arrival?

theorem arrivals_arrives (a : Arrival) (later : List (Happening β)) :
    arrivals (.arrives a :: later) = a :: arrivals later :=
  List.filterMap_cons_some rfl

/-- A reply **to a request**. -/
structure RepliesTo (request : SocketAddress × Packet) (posted : Posted) : Prop where
  recipient : posted.recipient = request.1
  /-- It tells an outcome, with the number of the request. -/
  outcome : ∃ outcome, posted.reply = numbered request.2 (.replyTo outcome)
  /-- It is no request itself. -/
  quiet : sessionRequest? (Text.toBytes posted.reply.render) = none

/-- What tells an outcome is no request. -/
theorem repliesTo_numbered {datagram : Bytes} {packet : Packet} (sender : SocketAddress)
    (h : sessionRequest? datagram = some packet) (outcome : Except Fault Unit) :
    RepliesTo (sender, packet) ⟨sender, numbered packet (.replyTo outcome)⟩ := by
  have hwell := Packet.wellFormed_of_parse (sessionRequest?_eq_some_iff.mp h).1
  have hread := Control.parse_numbered hwell outcome
  refine ⟨rfl, ⟨outcome, rfl⟩, ?_⟩
  rw [sessionRequest?, hread]
  cases outcome <;> rfl

namespace ProxyServer

/-! ## What serves -/

/-- A server that **serves requests**: it runs, and has the handlers of a proxy server, with one for
load exactly if load is counted. -/
structure Serving (s : ProxyServer β) : Prop where
  running : s.control.running = true
  handlers : s.control.handlers =
    sessionHandlers ++ if s.load.isSome then Control.loadHandlers .load else []

variable {s s' : ProxyServer β} {datagram : Bytes} {reply : Option Packet} {packet : Packet}

/-- A server goes on serving as long as its handlers stay and load is counted or not as before. -/
theorem Serving.frame (h : Serving s) (hcontrol : s'.control = s.control)
    (hload : s'.load.isSome = s.load.isSome) : Serving s' :=
  ⟨hcontrol ▸ h.running, by rw [hcontrol, hload, h.handlers]⟩

/-- Which of the services a request of a code goes to. -/
theorem Serving.handler? (h : Serving s) (code : Amp.Code) :
    s.control.handler? code =
      match code with
      | .startSession | .stopSession => some .sessions
      | .load => if s.load.isSome then some .load else none
      | _ => none := by
  rw [Control.Server.handler?, h.handlers]
  cases s.load.isSome <;> cases code <;> rfl

/-- A server that is to count load serves on, and so does one that counts it already. -/
theorem Serving.countLoad (h : Serving s) : Serving (s.countLoad.toOption.getD s) := by
  have hhandler := h.handler? .load
  cases hload : s.load with
  | some l =>
    -- The code of load is taken, so the server stays as it is.
    have hrefused : s.countLoad = .error (.handlerExists Amp.Code.load.token) := by
      rw [hload] at hhandler
      simp [ProxyServer.countLoad, Control.Server.addHandlers, Control.loadHandlers, hhandler]
    rw [hrefused]
    exact h
  | none =>
    have hgranted : s.countLoad = .ok { s with
        control := { s.control with handlers := s.control.handlers ++ Control.loadHandlers .load }
        load := some .start } := by
      rw [hload] at hhandler
      simp [ProxyServer.countLoad, Control.Server.addHandlers, Control.loadHandlers, hhandler]
    rw [hgranted]
    refine ⟨h.running, ?_⟩
    simp [Except.toOption, h.handlers, hload]

/-- A proxy server has its handlers from the beginning. -/
theorem of_create {settings : Settings} {host : Host} {backends : β}
    (h : ProxyServer.create settings host backends = .ok s) :
    s.control.handlers = sessionHandlers ∧ s.load = none := by
  unfold create at h
  cases hbasis : Basis.ofSettings settings with
  | error fault =>
    rw [hbasis] at h
    cases h
  | ok basis =>
    rw [hbasis] at h
    cases hlookup : lookup settings.listen with
    | error reason =>
      simp only [Control.Server.bind, hlookup] at h
      cases h
    | ok address =>
      cases hbind : host.bind address with
      | error fault =>
        simp only [Control.Server.bind, hlookup, hbind] at h
        cases h
      | ok bound =>
        simp only [Control.Server.bind, hlookup, hbind] at h
        cases h
        exact ⟨rfl, rfl⟩

/-- A proxy server serves requests once it has been started. -/
theorem serving_of_start {settings : Settings} {host : Host} {backends : β}
    (hcreate : ProxyServer.create settings host backends = .ok s) (hstart : s.start = .ok s') :
    Serving s' := by
  obtain ⟨hhandlers, hload⟩ := of_create hcreate
  cases hrunning : s.control.running with
  | true =>
    simp only [start, Control.Server.start, hrunning] at hstart
    cases hstart
  | false =>
    simp only [start, Control.Server.start, hrunning] at hstart
    cases hstart
    refine ⟨rfl, ?_⟩
    rw [hload]
    exact hhandlers

/-! ## One datagram -/

variable [Backend β]

/-- What becomes of one datagram: the **reply** to it, and the server that there is then. -/
inductive Deals (s : ProxyServer β) (datagram : Bytes) : Option Packet → ProxyServer β → Prop
  /-- It is no request about a session. If it reports a number to a counter of load, that is
  counted. -/
  | ignored (h : sessionRequest? datagram = none) :
      Deals s datagram none
        { s with load := s.load.map fun l => (loadReport? datagram).elim l fun r => l.add r.seq }
  /-- It is a request with headers that say nothing. -/
  | rejected {packet : Packet} (h : sessionRequest? datagram = some packet)
      (hstart : StartRequest.ofPacket? packet = none) (hstop : StopRequest.ofPacket? packet = none) :
      Deals s datagram (some (numbered packet (Proxy.illegal packet))) s
  /-- It asks for a session. -/
  | started {packet : Packet} {request : StartRequest} (h : sessionRequest? datagram = some packet)
      (hstart : StartRequest.ofPacket? packet = some request) :
      Deals s datagram (some (numbered packet (.replyTo (s.proxy.start request).1)))
        { s with proxy := (s.proxy.start request).2 }
  /-- It asks for the end of a session. -/
  | stopped {packet : Packet} {request : StopRequest} (h : sessionRequest? datagram = some packet)
      (hstop : StopRequest.ofPacket? packet = some request) :
      Deals s datagram (some (numbered packet (.replyTo (s.proxy.stop request).1)))
        { s with proxy := (s.proxy.stop request).2 }

/-- A server goes on serving after it has dealt with a datagram. -/
theorem Deals.serving (h : Deals s datagram reply s') (hs : Serving s) : Serving s' := by
  cases h with
  | ignored => exact hs.frame rfl Option.isSome_map
  | rejected => exact hs
  | started => exact hs.frame rfl rfl
  | stopped => exact hs.frame rfl rfl

/-- A datagram that is given to a service is served by it, and the reply bears its number. -/
theorem receive_of_dispatch {service : Service} (h : Serving s)
    (hdispatch : s.control.dispatch datagram = some (service, packet)) :
    s.receive datagram =
      (⟨some packet, (serve service packet (s.proxy, s.load)).1.map (numbered packet)⟩,
        { s with
          proxy := (serve service packet (s.proxy, s.load)).2.1
          load := (serve service packet (s.proxy, s.load)).2.2 }) := by
  rw [receive, Control.Server.receive_of_dispatch _ _ h.running hdispatch]

/-- What nobody serves is passed over. -/
theorem deals_of_not_dispatch (hdispatch : s.control.dispatch datagram = none)
    (hrequest : sessionRequest? datagram = none) (hload : s.load = none ∨ loadReport? datagram = none) :
    Deals s datagram (s.receive datagram).1.reply (s.receive datagram).2 := by
  have hsame : (s.load.map fun l => (loadReport? datagram).elim l fun r => l.add r.seq) = s.load := by
    rcases hload with hnone | hnone
    · rw [hnone]
      rfl
    · rw [hnone]
      exact Option.map_id'
  have hignored := Deals.ignored (s := s) hrequest
  rw [hsame] at hignored
  rw [receive, Control.Server.receive_of_not_dispatch _ _ hdispatch]
  exact hignored

/-- A packet that asks for a start is answered with what comes of it. -/
theorem handle_of_start {p : Proxy β} {request : StartRequest}
    (h : StartRequest.ofPacket? packet = some request) :
    p.handle packet = (some (.replyTo (p.start request).1), (p.start request).2) := by
  have hcode : packet.code = .startSession := (Option.ite_none_right_eq_some.mp h).1
  simp only [Proxy.handle, hcode, h]

/-- A packet that asks for a stop is answered with what comes of it. -/
theorem handle_of_stop {p : Proxy β} {request : StopRequest}
    (h : StopRequest.ofPacket? packet = some request) :
    p.handle packet = (some (.replyTo (p.stop request).1), (p.stop request).2) := by
  have hcode : packet.code = .stopSession := (Option.ite_none_right_eq_some.mp h).1
  simp only [Proxy.handle, hcode, h]

/-- A packet about sessions that says too little is refused, and nothing is done. -/
theorem handle_of_illegal {p : Proxy β} (hcode : packet.code = .startSession ∨ packet.code = .stopSession)
    (hstart : StartRequest.ofPacket? packet = none) (hstop : StopRequest.ofPacket? packet = none) :
    p.handle packet = (some (Proxy.illegal packet), p) := by
  rcases hcode with hcode | hcode
  · simp only [Proxy.handle, hcode, hstart]
  · simp only [Proxy.handle, hcode, hstop]

/-- The proxy deals with the requests about sessions. -/
theorem deals_of_request (hrequest : sessionRequest? datagram = some packet) :
    Deals s datagram ((s.proxy.handle packet).1.map (numbered packet))
      { s with proxy := (s.proxy.handle packet).2 } := by
  cases hstart : StartRequest.ofPacket? packet with
  | some request =>
    rw [handle_of_start hstart]
    exact .started hrequest hstart
  | none =>
    cases hstop : StopRequest.ofPacket? packet with
    | some request =>
      rw [handle_of_stop hstop]
      exact .stopped hrequest hstop
    | none =>
      rw [handle_of_illegal (sessionRequest?_eq_some_iff.mp hrequest).2 hstart hstop]
      exact .rejected hrequest hstart hstop

/-- A counter of load deals with what reports load, and answers nothing. -/
theorem deals_of_load (hs : Serving s) (hrequest : sessionRequest? datagram = none)
    (hparse : Packet.parse datagram = .ok packet)
    (hdispatch : s.control.dispatch datagram = some (.load, packet)) :
    Deals s datagram (s.receive datagram).1.reply (s.receive datagram).2 := by
  have hcounted : (fun l : Control.LoadCount => l.handle packet) =
      fun l => (loadReport? datagram).elim l fun r => l.add r.seq := by
    funext l
    rw [loadReport?_of_parse hparse, Control.LoadCount.handle]
    cases LoadReport.ofPacket? packet <;> rfl
  have hignored := Deals.ignored (s := s) hrequest
  rw [← hcounted] at hignored
  rw [receive_of_dispatch hs hdispatch]
  exact hignored

/-- **Every datagram is dealt with.** -/
theorem Serving.deals (h : Serving s) (hfits : datagram.length ≤ largestDatagram) :
    Deals s datagram (s.receive datagram).1.reply (s.receive datagram).2 := by
  have hwhole := List.take_of_length_le hfits
  cases hparse : Packet.parse datagram with
  | error defect =>
    have hdispatch : s.control.dispatch datagram = none := by
      rw [Control.Server.dispatch, hwhole, hparse]
    have hrequest : sessionRequest? datagram = none := by rw [sessionRequest?, hparse]; rfl
    have hreport : loadReport? datagram = none := by rw [loadReport?, hparse]; rfl
    exact deals_of_not_dispatch hdispatch hrequest (.inr hreport)
  | ok packet =>
    have hdispatch : s.control.dispatch datagram =
        (s.control.handler? packet.code).map fun service => (service, packet) := by
      rw [Control.Server.dispatch, hwhole, hparse]
    rw [h.handler? packet.code] at hdispatch
    -- Two of the six codes are requests for sessions, one is a report, three are served by nobody.
    cases hcode : packet.code with
    | startSession =>
      rw [hcode] at hdispatch
      rw [receive_of_dispatch h hdispatch]
      exact deals_of_request (sessionRequest?_eq_some_iff.mpr ⟨hparse, .inl hcode⟩)
    | stopSession =>
      rw [hcode] at hdispatch
      rw [receive_of_dispatch h hdispatch]
      exact deals_of_request (sessionRequest?_eq_some_iff.mpr ⟨hparse, .inr hcode⟩)
    | load =>
      have hrequest := sessionRequest?_eq_none hparse (by simp [hcode])
      cases hload : s.load with
      | none =>
        rw [hcode, hload] at hdispatch
        exact deals_of_not_dispatch hdispatch hrequest (.inl hload)
      | some l =>
        rw [hcode, hload] at hdispatch
        exact deals_of_load h hrequest hparse hdispatch
    | ok | error | other =>
      have hrequest := sessionRequest?_eq_none hparse (by simp [hcode])
      have hreport : loadReport? datagram = none := by
        rw [loadReport?_of_parse hparse, LoadReport.ofPacket?, if_neg (by simp [hcode])]
      rw [hcode] at hdispatch
      exact deals_of_not_dispatch hdispatch hrequest (.inr hreport)

/-- What is no request is not answered, and what is one is answered with an outcome. -/
theorem Deals.reply_cases (h : Deals s datagram reply s') :
    (sessionRequest? datagram = none ∧ reply = none) ∨
      ∃ packet outcome, sessionRequest? datagram = some packet ∧
        reply = some (numbered packet (.replyTo outcome)) := by
  cases h with
  | ignored hrequest => exact .inl ⟨hrequest, rfl⟩
  | rejected hrequest => exact .inr ⟨_, .error (.illegalValue _ _), hrequest, rfl⟩
  | started hrequest | stopped hrequest => exact .inr ⟨_, _, hrequest, rfl⟩

/-- The reply to one datagram is the one to the request that it makes, if it makes one. -/
theorem Deals.repliesTo (h : Deals s datagram reply s') (sender : SocketAddress) :
    List.Forall₂ RepliesTo (Arrival.request? ⟨sender, datagram⟩).toList
      (reply.map (Posted.mk sender)).toList := by
  rcases h.reply_cases with ⟨hrequest, rfl⟩ | ⟨packet, outcome, hrequest, rfl⟩
  · rw [Arrival.request?, hrequest]
    exact .nil
  · rw [Arrival.request?, hrequest]
    exact .cons (repliesTo_numbered sender hrequest outcome) .nil

/-! ## All datagrams -/

/-- Lives through what happens. The answer is what has been handed over for sending. -/
def attend (s : ProxyServer β) : List (Happening β) → List Posted × ProxyServer β
  | [] => ([], s)
  | .arrives a :: later =>
    let (exchange, s) := s.receive a.datagram
    let (posted, s) := s.attend later
    ((exchange.reply.map (Posted.mk a.sender)).toList ++ posted, s)
  | .meanwhile p :: later => { s with proxy := p }.attend later
  | .countsLoad :: later => (s.countLoad.toOption.getD s).attend later

/-- A server that serves requests serves on whatever happens, and answers each request once. -/
theorem Serving.attend (h : Serving s) {happenings : List (Happening β)}
    (hfits : ∀ a ∈ arrivals happenings, a.datagram.length ≤ largestDatagram) :
    List.Forall₂ RepliesTo ((arrivals happenings).filterMap Arrival.request?) (s.attend happenings).1 ∧
      Serving (s.attend happenings).2 := by
  induction happenings generalizing s with
  | nil => exact ⟨.nil, h⟩
  | cons happening later ih =>
    cases happening with
    | arrives a =>
      rw [arrivals_arrives] at hfits ⊢
      have hdeals := h.deals (hfits a List.mem_cons_self)
      have hrequests : (a :: arrivals later).filterMap Arrival.request? =
          (Arrival.request? a).toList ++ (arrivals later).filterMap Arrival.request? := by
        rw [List.filterMap_cons]
        cases Arrival.request? a <;> rfl
      obtain ⟨hlater, hserving⟩ :=
        ih (hdeals.serving h) fun b hb => hfits b (List.mem_cons_of_mem a hb)
      exact ⟨hrequests ▸ List.rel_append (hdeals.repliesTo a.sender) hlater, hserving⟩
    | meanwhile p => exact ih (s := { s with proxy := p }) (h.frame rfl rfl) hfits
    | countsLoad => exact ih h.countLoad hfits

/-- **There is exactly one reply for each request.** Whatever happens to a proxy server after it has
been started, as long as no datagram is larger than it reads: what it hands over for sending are the
answers to the requests about sessions, one to each, in the order in which they arrive and to their
senders. And the next datagram is dealt with in one of four ways. It is passed over without a reply
and without a trace but for what is counted of load. It is rejected without a trace but for the
reply. Or it has a session started, or stopped, and the reply says what came of that. -/
theorem one_reply_per_request {settings : Settings} {host : Host} {backends : β}
    {created started : ProxyServer β}
    (hcreate : ProxyServer.create settings host backends = .ok created)
    (hstart : created.start = .ok started) (happenings : List (Happening β))
    (hfits : ∀ a ∈ arrivals happenings, a.datagram.length ≤ largestDatagram) :
    List.Forall₂ RepliesTo ((arrivals happenings).filterMap Arrival.request?)
        (started.attend happenings).1 ∧
      ∀ datagram : Bytes, datagram.length ≤ largestDatagram →
        Deals (started.attend happenings).2 datagram
          ((started.attend happenings).2.receive datagram).1.reply
          ((started.attend happenings).2.receive datagram).2 := by
  obtain ⟨hanswers, hserving⟩ := (serving_of_start hcreate hstart).attend hfits
  exact ⟨hanswers, fun datagram hdatagram => hserving.deals hdatagram⟩

/-- A proxy on this host in front of some media server. -/
def loopback : Settings :=
  { listen := "127.0.0.1:5005".toList, url := "rtsp://h/".toList, relayHost := "127.0.0.1".toList }

/-- A packet of load. -/
def firstLoad : Packet := LoadReport.toPacket ⟨0⟩

/-- A request to stop a session, with a number. -/
def stopSeven : Packet :=
  ⟨.stopSession, [("Receiver-Host".toList, "127.0.0.1".toList), ("Port".toList, "6000".toList),
    ("Seq".toList, "7".toList)]⟩

/-- One client sends load, before and after it is counted, and another one asks for a stop in
between. -/
def loadAndStop (loader client : SocketAddress) : List (Happening Fates) :=
  [.arrives ⟨loader, Text.toBytes firstLoad.render⟩, .countsLoad,
    .arrives ⟨client, Text.toBytes stopSeven.render⟩, .arrives ⟨loader, Text.toBytes firstLoad.render⟩]

/-- The one reply goes to the client that asks for the stop. -/
theorem one_reply_for_stop :
    ∃ created started : ProxyServer Fates,
      ProxyServer.create loopback .idle ⟨[]⟩ = .ok created ∧ created.start = .ok started ∧
      ∀ loader client, ∃ outcome, (started.attend (loadAndStop loader client)).1 =
        [⟨client, numbered stopSeven (.replyTo outcome)⟩] := by
  obtain ⟨created, started, hcreate, hstart⟩ : ∃ created started : ProxyServer Fates,
      ProxyServer.create loopback .idle ⟨[]⟩ = .ok created ∧ created.start = .ok started :=
    ⟨_, _, rfl, rfl⟩
  refine ⟨created, started, hcreate, hstart, fun loader client => ?_⟩
  have harrivals : arrivals (loadAndStop loader client) =
      [⟨loader, Text.toBytes firstLoad.render⟩, ⟨client, Text.toBytes stopSeven.render⟩,
        ⟨loader, Text.toBytes firstLoad.render⟩] := rfl
  have hload : sessionRequest? (Text.toBytes firstLoad.render) = none := by
    rw [sessionRequest?, (by decide : firstLoad.WellFormed).parse_render]
    rfl
  have hstop : sessionRequest? (Text.toBytes stopSeven.render) = some stopSeven :=
    sessionRequest?_eq_some_iff.mpr ⟨(by decide : stopSeven.WellFormed).parse_render, .inr rfl⟩
  have hrequests : (arrivals (loadAndStop loader client)).filterMap Arrival.request? =
      [(client, stopSeven)] := by
    simp [harrivals, Arrival.request?, hload, hstop]
  have hlengths : (Text.toBytes firstLoad.render).length ≤ largestDatagram ∧
      (Text.toBytes stopSeven.render).length ≤ largestDatagram := by decide
  have hfits : ∀ a ∈ arrivals (loadAndStop loader client), a.datagram.length ≤ largestDatagram := by
    simp [harrivals, hlengths]
  have hanswers := (one_reply_per_request hcreate hstart (loadAndStop loader client) hfits).1
  rw [hrequests] at hanswers
  obtain ⟨⟨recipient, reply⟩, rest, hanswer, hrest, hposted⟩ := List.forall₂_cons_left_iff.mp hanswers
  obtain ⟨hrecipient, ⟨outcome, hreply⟩, -⟩ := hanswer
  refine ⟨outcome, ?_⟩
  rw [hposted, List.forall₂_nil_left_iff.mp hrest]
  simp only at hrecipient hreply
  rw [hrecipient, hreply]

end ProxyServer

end MediaProxy
