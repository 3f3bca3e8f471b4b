import MediaProxy.Proofs.Control.Receiving

/-!
# Replies come through whole

The reason that an error reply gives is text from anywhere: a header of the request, the name of
some media, the words of a media server. It may hold line breaks, and what looks like header fields
behind them. The sender of the request reads one field of it nevertheless, and behind that the
number of the request, just as the request had it (`sent_reads_back`). What a reason says never
becomes a field, and no field is lost by it.

Two facts carry this. In a reason the line breaks are spaces before it is written, so the field is
one line, and its name has no colon. And the number is a value that was read off a line, so a line
can carry it again.
-/

namespace MediaProxy.Control

open Amp (Packet)
open Text (IsLine)

/-- The fields that repeat the number of a request: one, if the request has a number. -/
def numberOf (request : Packet) : Fields := (request.seq?.map fun seq => ("Seq".toList, seq)).toList

/-- What the sender of a request **reads back** about what came of it. -/
def readBack (request : Packet) : Except Fault Unit → Packet
  | .ok () => ⟨.ok, numberOf request⟩
  | .error fault =>
    let reason := Text.replace (fun c => c = '\r' || c = '\n') ' ' fault.message
    ⟨.error, ("Reason".toList, Text.trim reason) :: numberOf request⟩

variable {request reply : Packet}

/-- A reply keeps its code and its fields, and gets the number of the request behind them. -/
theorem numbered_eq (request reply : Packet) :
    numbered request reply = ⟨reply.code, reply.fields ++ numberOf request⟩ := by
  rw [numbered, numberOf]
  cases request.seq? with
  | none => simp
  | some seq => rfl

/-- The number of a request that was read is a value that can be written. -/
theorem wellFormed_numberOf (h : request.WellFormed) : (numberOf request).WellFormed := by
  intro field hfield
  obtain ⟨seq, hseq, rfl⟩ := Option.map_eq_some_iff.mp (Option.mem_toList.mp hfield)
  obtain ⟨⟨name, value⟩, hfind, rfl⟩ := Option.map_eq_some_iff.mp hseq
  have hplain := h.fields _ (List.mem_of_find?_eq_some hfind)
  have hname : Text.Trimmed "Seq".toList ∧ ':' ∉ "Seq".toList ∧ '\n' ∉ "Seq".toList := by decide
  exact ⟨hname.1, hplain.trimmed_value, hname.2.1, hname.2.2, hplain.noFeed_value⟩

/-- A reason without its line breaks stays on the line of its field. -/
theorem isLine_reason (reason : Text) :
    IsLine (Fields.line ("Reason".toList, Text.replace (fun c => c = '\r' || c = '\n') ' ' reason)) := by
  have hbreak : ∀ c, c = '\r' ∨ c = '\n' →
      c ∉ Text.replace (fun c => c = '\r' || c = '\n') ' ' reason := by
    rintro c (rfl | rfl) hmem
    · exact absurd (Text.of_mem_replace hmem) (by decide)
    · exact absurd (Text.of_mem_replace hmem) (by decide)
  have hname : '\n' ∉ "Reason: ".toList ∧ '\r' ∉ "Reason: ".toList := by decide
  apply Text.isLine_of_not_mem
  · exact fun hmem => (List.mem_append.mp hmem).elim hname.1 (hbreak '\n' (.inr rfl))
  · exact fun hmem => (List.mem_append.mp hmem).elim hname.2 (hbreak '\r' (.inl rfl))

/-- A reply, with the number of the request that it answers, is read back as it should be. -/
theorem parse_numbered (h : request.WellFormed) (outcome : Except Fault Unit) :
    Packet.parse (Text.toBytes (numbered request (.replyTo outcome)).render) =
      .ok (readBack request outcome) := by
  have hnumber := wellFormed_numberOf h
  have hlines : ∀ field ∈ numberOf request, ':' ∉ field.1 ∧ IsLine (Fields.line field) :=
    fun field hfield => ⟨(hnumber field hfield).noColon, (hnumber field hfield).isLine⟩
  rw [numbered_eq]
  cases outcome with
  | ok done =>
    rw [Packet.parse_render_of_isLine (by trivial) (by simpa [Packet.replyTo, Packet.success] using hlines)]
    simp [Packet.replyTo, Packet.success, readBack, hnumber.map_trimmed]
  | error fault =>
    have hfields : ∀ field ∈ (Packet.failure fault.message).fields ++ numberOf request,
        ':' ∉ field.1 ∧ IsLine (Fields.line field) := by
      intro field hfield
      rcases List.mem_cons.mp hfield with rfl | hfield
      · exact ⟨(by decide : ':' ∉ "Reason".toList), isLine_reason _⟩
      · exact hlines field hfield
    rw [Packet.parse_render_of_isLine (by trivial) hfields]
    simp only [Packet.replyTo, Packet.failure, List.map_append, hnumber.map_trimmed]
    rfl

/-- What is read back has the number of the request, and none if the request has none. -/
theorem seq?_readBack (request : Packet) (outcome : Except Fault Unit) :
    (readBack request outcome).seq? = request.seq? := by
  have hnumber : Fields.get? (numberOf request) "Seq".toList = request.seq? := by
    rw [numberOf]
    cases request.seq? <;> rfl
  cases outcome with
  | ok done => exact hnumber
  | error fault => exact hnumber

/-- What a server that is running **sends** for a request whose handler has an outcome: the reply,
if one datagram can carry it, and otherwise nothing. -/
theorem sent_of_dispatch {H σ : Type} {s : Server H} {act : H → Packet → σ → Option Packet × σ}
    {state : σ} {arrived : Bytes} {handler : H} (hrunning : s.running = true)
    (hdispatch : s.dispatch arrived = some (handler, request))
    (hact : (act handler request state).1 = some reply) :
    (s.receive act arrived state).1.sent =
      if (Text.toBytes (numbered request reply).render).length ≤ datagramCapacity
        then some (numbered request reply).render else none := by
  rw [Server.receive_of_dispatch act state hrunning hdispatch, hact]
  simp [Exchange.sent, Option.filter_some]

/-- **No reason adds a field to a reply, hides one or cuts one off.** Whatever packet was read off a
datagram and whatever came of it, the reply is read back as the code of the outcome, with the reason
of a failure as its only field beside the number of the request; so the reply has the number that
the request has, or none. And that reply is what a control server sends for the request: it sends
nothing else, and it does send it if one datagram can carry it. -/
theorem sent_reads_back (datagram : Bytes) (request : Packet) (outcome : Except Fault Unit)
    (hrequest : Packet.parse datagram = .ok request) :
    Packet.parse (Text.toBytes (numbered request (.replyTo outcome)).render) =
        .ok (readBack request outcome) ∧
      (readBack request outcome).seq? = request.seq? ∧
      ∀ {H σ : Type} (s : Server H) (act : H → Packet → σ → Option Packet × σ) (state : σ)
        (arrived : Bytes) (handler : H), s.running = true →
        s.dispatch arrived = some (handler, request) →
        (act handler request state).1 = some (.replyTo outcome) →
        (s.receive act arrived state).1.reply = some (numbered request (.replyTo outcome)) ∧
          ((Text.toBytes (numbered request (.replyTo outcome)).render).length ≤ datagramCapacity →
            (s.receive act arrived state).1.sent =
              some (numbered request (.replyTo outcome)).render) ∧
          ∀ text, (s.receive act arrived state).1.sent = some text →
            Packet.parse (Text.toBytes text) = .ok (readBack request outcome) := by
  have hread := parse_numbered (Packet.wellFormed_of_parse hrequest) outcome
  refine ⟨hread, seq?_readBack request outcome, ?_⟩
  intro H σ s act state arrived handler hrunning hdispatch hact
  have hsent := sent_of_dispatch hrunning hdispatch hact
  refine ⟨?_, fun hfits => ?_, fun text htext => ?_⟩
  · rw [Server.receive_of_dispatch act state hrunning hdispatch, hact]
    rfl
  · rw [hsent, if_pos hfits]
  · rw [hsent] at htext
    split at htext
    · obtain rfl := Option.some.inj htext
      exact hread
    · cases htext

/-- A request with a number, and a failure whose reason looks like the end of a reply and another
number. -/
def forged : Packet × Fault :=
  (⟨.stopSession, [("Port".toList, "6000".toList), ("seq".toList, "7".toList)]⟩,
    .cleanup "\r\nSeq: 9\r\n\r\nAMP/1.0 OK \n".toList)

/-- A running server with a handler for such requests. -/
def stopServer : Server Unit := ⟨⟨.v4 127 0 0 1, 5000, 0⟩, [(.stopSession, ())], true⟩

/-- The handler fails, and counts how often it was asked. -/
def failForged (_ : Unit) (_ : Packet) (asked : Nat) : Option Packet × Nat :=
  (some (.replyTo (.error forged.2)), asked + 1)

theorem dispatch_forged :
    stopServer.dispatch (Text.toBytes forged.1.render) = some ((), forged.1) := by
  have hshort : (Text.toBytes forged.1.render).take largestDatagram =
      Text.toBytes forged.1.render := by decide +kernel
  have hrequest : Packet.parse (Text.toBytes forged.1.render) = .ok forged.1 :=
    (by decide : forged.1.WellFormed).parse_render
  rw [Server.dispatch, hshort, hrequest]
  rfl

/-- The server sends a reply, in which the failure reads as one line, and the number is still that
of the request. -/
theorem sent_reads_back_forged :
    ∃ text, (stopServer.receive failForged (Text.toBytes forged.1.render) 0).1.sent = some text ∧
      Packet.parse (Text.toBytes text) =
        .ok ⟨.error, [("Reason".toList,
          "session cleanup failed:   Seq: 9    AMP/1.0 OK".toList), ("Seq".toList, "7".toList)]⟩ := by
  have hrequest : Packet.parse (Text.toBytes forged.1.render) = .ok forged.1 :=
    (by decide : forged.1.WellFormed).parse_render
  obtain ⟨-, -, hserves⟩ := sent_reads_back _ _ (.error forged.2) hrequest
  obtain ⟨-, hsends, hreads⟩ := hserves stopServer failForged 0 _ () rfl dispatch_forged rfl
  have hsent := hsends (by decide +kernel)
  exact ⟨_, hsent, (hreads _ hsent).trans (congrArg Except.ok (by decide))⟩

end MediaProxy.Control
