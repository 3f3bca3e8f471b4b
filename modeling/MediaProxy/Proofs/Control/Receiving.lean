import MediaProxy.Control.Server
import MediaProxy.Proofs.Amp.Beginnings

/-!
# Requests that break off

A control server reads no more of a datagram than `largestDatagram` octets, and does not tell
whether that was all. A request that is longer reaches it without its end. Since most beginnings of
a packet are packets themselves, the server may then act on a request that nobody made: the client
that asks to stop the session of port 60000 has that of port 6000 stopped.

Which requests are safe is a matter of what their first octets leave of them (`acts_wholly_iff`).
All that fit are, and so are longer ones whose beginning is no packet, is the packet again because
only the empty line is missing, or has a code that nobody serves.
-/

namespace MediaProxy.Control

open Amp (Packet)

namespace Server

variable {H : Type} {s : Server H} {handler : H} {p q : Packet} {datagram : Bytes}

/-- A datagram is given to a handler exactly if its first octets parse and there is one for the
code. -/
theorem dispatch_eq_some_iff :
    s.dispatch datagram = some (handler, q) ↔
      Packet.parse (datagram.take largestDatagram) = .ok q ∧ s.handler? q.code = some handler := by
  rw [dispatch]
  cases Packet.parse (datagram.take largestDatagram) with
  | error defect => simp
  | ok request =>
    simp only [Option.map_eq_some_iff, Prod.mk.injEq, Except.ok.injEq]
    constructor
    · rintro ⟨found, hfound, rfl, rfl⟩
      exact ⟨rfl, hfound⟩
    · rintro ⟨rfl, hhandler⟩
      exact ⟨handler, hhandler, rfl, rfl⟩

/-- What is given to a handler is acted on, and its reply bears the number of the request. -/
theorem receive_of_dispatch {σ : Type} (act : H → Packet → σ → Option Packet × σ) (state : σ)
    (hrunning : s.running = true) (hdispatch : s.dispatch datagram = some (handler, q)) :
    s.receive act datagram state =
      (⟨some q, (act handler q state).1.map (numbered q)⟩, (act handler q state).2) := by
  rw [receive, hrunning, hdispatch]
  rfl

/-- What is given to no handler is not acted on, and nothing is sent. -/
theorem receive_of_not_dispatch {σ : Type} (act : H → Packet → σ → Option Packet × σ) (state : σ)
    (hdispatch : s.dispatch datagram = none) : s.receive act datagram state = (.nothing, state) := by
  rw [receive, hdispatch]
  cases s.running <;> rfl

/-- What a server reads of the datagram of a packet is what its first octets leave of the packet. -/
theorem parse_take_iff (hp : p.WellFormed) :
    Packet.parse ((Text.toBytes p.render).take largestDatagram) = .ok q ↔
      ∃ t, p.Leaves t q ∧
        (Text.toBytes t).length = min largestDatagram (Text.toBytes p.render).length := by
  rw [Packet.parse]
  constructor
  · intro h
    cases htext : Text.ofBytes? ((Text.toBytes p.render).take largestDatagram) with
    | none =>
      rw [htext] at h
      cases h
    | some t =>
      rw [htext] at h
      obtain ⟨hbegin, hlength⟩ := Text.ofBytes?_take_eq_some_iff.mp htext
      exact ⟨t, hp.leaves_iff.mpr ⟨hbegin, h⟩, hlength⟩
  · rintro ⟨t, hleaves, hlength⟩
    obtain ⟨hbegin, hread⟩ := hp.leaves_iff.mp hleaves
    rw [Text.ofBytes?_take_eq_some_iff.mpr ⟨hbegin, hlength⟩]
    exact hread

/-- A server **acts on a packet as a whole**: what arrives with it goes to the handler as it is, or
is too large and goes to nobody. -/
def ActsWholly (s : Server H) (handler : H) (p : Packet) : Prop :=
  ∀ (σ : Type) (act : H → Packet → σ → Option Packet × σ) (state : σ),
    s.receive act (Text.toBytes p.render) state =
        (⟨some p, (act handler p state).1.map (numbered p)⟩, (act handler p state).2) ∨
      largestDatagram < (Text.toBytes p.render).length ∧
        s.receive act (Text.toBytes p.render) state = (.nothing, state)

/-- What is left of a packet is no longer than it was. -/
theorem length_le_of_leaves {t : Text} (hp : p.WellFormed) (hleaves : p.Leaves t q) :
    (Text.toBytes t).length ≤ (Text.toBytes p.render).length := by
  obtain ⟨rest, hrest⟩ := (hp.leaves_iff.mp hleaves).1
  rw [← hrest, Text.toBytes_append, List.length_append]
  omega

/-- Where the first octets of a packet leave another one that is served, that one is acted on. -/
theorem dispatch_of_leaves {t : Text} (hp : p.WellFormed) (hleaves : p.Leaves t q)
    (hlength : (Text.toBytes t).length = largestDatagram) (hhandler : s.handler? q.code = some handler) :
    s.dispatch (Text.toBytes p.render) = some (handler, q) := by
  have hle := length_le_of_leaves hp hleaves
  exact dispatch_eq_some_iff.mpr ⟨(parse_take_iff hp).mpr ⟨t, hleaves, by omega⟩, hhandler⟩

/-- A server that acts on less than what was sent does not act wholly. -/
theorem not_actsWholly_of_dispatch {found : H} (hrunning : s.running = true)
    (hdispatch : s.dispatch (Text.toBytes p.render) = some (found, q)) (hne : q ≠ p) :
    ¬s.ActsWholly handler p := by
  intro h
  have hact := h Unit (fun _ _ _ => (none, ())) ()
  rw [receive_of_dispatch _ _ hrunning hdispatch] at hact
  rcases hact with hsame | ⟨-, hnothing⟩
  · exact hne (Option.some.inj (congrArg (fun e => e.1.request) hsame))
  · exact absurd (congrArg (fun e => e.1.request) hnothing) nofun

/-- **Requests are acted on as a whole unless their beginning is another request.** A running server
that serves the code of a packet hands the packet over as it was written, or not at all if it is too
large, exactly as long as its first `largestDatagram` octets leave of it no other packet that the
server serves. -/
theorem acts_wholly_iff (s : Server H) (handler : H) (p : Packet) (hrunning : s.running = true)
    (hp : Packet.parse (Text.toBytes p.render) = .ok p) (hhandler : s.handler? p.code = some handler) :
    s.ActsWholly handler p ↔
      ∀ t q, p.Leaves t q → (Text.toBytes t).length = largestDatagram → q ≠ p →
        s.handler? q.code = none := by
  have hwell := Packet.wellFormed_of_parse hp
  constructor
  · intro h t q hleaves hlength hne
    cases hfound : s.handler? q.code with
    | none => rfl
    | some found =>
      have hdispatch := dispatch_of_leaves hwell hleaves hlength hfound
      exact absurd h (not_actsWholly_of_dispatch hrunning hdispatch hne)
  · intro h σ act state
    cases hdispatch : s.dispatch (Text.toBytes p.render) with
    | none =>
      -- A packet that fits is read as it was written, and its code is served.
      refine .inr ⟨Nat.lt_of_not_le fun hfits => ?_, receive_of_not_dispatch act state hdispatch⟩
      have hwhole : s.dispatch (Text.toBytes p.render) = some (handler, p) :=
        dispatch_eq_some_iff.mpr ⟨(List.take_of_length_le hfits).symm ▸ hp, hhandler⟩
      exact absurd (hdispatch.symm.trans hwhole) nofun
    | some found =>
      obtain ⟨found, q⟩ := found
      obtain ⟨hread, hfound⟩ := dispatch_eq_some_iff.mp hdispatch
      have hsame : q = p := by
        by_contra hne
        rcases Nat.le_total (Text.toBytes p.render).length largestDatagram with hfits | hlarge
        · rw [List.take_of_length_le hfits] at hread
          exact hne (Except.ok.inj (hread.symm.trans hp))
        · obtain ⟨t, hleaves, hlength⟩ := (parse_take_iff hwell).mp hread
          rw [h t q hleaves (by omega) hne] at hfound
          cases hfound
      subst hsame
      obtain rfl := Option.some.inj (hfound.symm.trans hhandler)
      exact .inl (receive_of_dispatch act state hrunning hdispatch)

/-- A running server that serves one code. -/
def stopping : Server Unit := ⟨⟨.v4 127 0 0 1, 5000, 0⟩, [(.stopSession, ())], true⟩

/-- A request to stop the session of a port, with so many characters of something else in front. -/
def padded (padding : Nat) (port : Text) : Packet :=
  ⟨.stopSession, [("Pad".toList, List.replicate padding 'x'),
    ("Receiver-Host".toList, "127.0.0.1".toList), ("Port".toList, port)]⟩

/-- A packet with padding is well-formed. -/
theorem wellFormed_padded (padding : Nat) {port : Text} (h : Fields.Plain ("Port".toList, port)) :
    (padded padding port).WellFormed := by
  have hx : ∀ c ∈ List.replicate padding 'x', Text.isBlank c = false ∧ c ≠ '\n' := by
    intro c hc
    obtain rfl := List.eq_of_mem_replicate hc
    decide
  have hname : Text.Trimmed "Pad".toList ∧ ':' ∉ "Pad".toList ∧ '\n' ∉ "Pad".toList := by decide
  refine ⟨trivial, fun field hfield => ?_⟩
  rcases List.mem_cons.mp hfield with rfl | hfield
  · exact {
      trimmed_name := hname.1
      trimmed_value := ⟨fun c hc => (hx c (List.mem_of_mem_head? hc)).1,
        fun c hc => (hx c (List.mem_of_mem_getLast? hc)).1⟩
      noColon := hname.2.1
      noFeed_name := hname.2.2
      noFeed_value := fun hmem => (hx _ hmem).2 rfl }
  · rcases List.mem_cons.mp hfield with rfl | hfield
    · decide
    · obtain rfl := List.mem_singleton.mp hfield
      exact h

/-- The text of a padded request up to some of the port. -/
def paddedUpTo (padding : Nat) (part : Text) : Text :=
  (padded padding []).startLine ++ (Text.crlf ++
    (Fields.line ("Pad".toList, List.replicate padding 'x') ++ (Text.crlf ++
      (Fields.line ("Receiver-Host".toList, "127.0.0.1".toList) ++ (Text.crlf ++
        ("Port".toList ++ ':' :: part))))))

theorem render_padded (padding : Nat) (port : Text) :
    (padded padding port).render = paddedUpTo padding (' ' :: port ++ (Text.crlf ++ Text.crlf)) := by
  rw [Packet.render_eq_append]
  simp only [padded, paddedUpTo, Fields.render, Fields.line, List.flatMap_cons, List.flatMap_nil,
    List.append_assoc, List.append_nil]
  rfl

theorem length_paddedUpTo (padding : Nat) {part : Text} (h : part.all (·.toNat < 128) = true) :
    (Text.toBytes (paddedUpTo padding part)).length = padding + part.length + 60 := by
  have hparts : paddedUpTo padding part =
      "AMP/1.0 STOP_SESSION\r\nPad: ".toList ++ (List.replicate padding 'x' ++
        ("\r\nReceiver-Host: 127.0.0.1\r\nPort:".toList ++ part)) := by
    simp only [paddedUpTo, Fields.line, List.append_assoc]
    rfl
  have hpadding : (List.replicate padding 'x').all (·.toNat < 128) = true :=
    List.all_eq_true.mpr fun c hc => List.eq_of_mem_replicate hc ▸ rfl
  have hascii : (paddedUpTo padding part).all (·.toNat < 128) = true := by
    rw [hparts, List.all_append, List.all_append, List.all_append, hpadding, h]
    rfl
  have hlengths : "AMP/1.0 STOP_SESSION\r\nPad: ".toList.length = 27 ∧
      "\r\nReceiver-Host: 127.0.0.1\r\nPort:".toList.length = 33 := by decide
  rw [Text.length_toBytes_of_ascii hascii, hparts, List.length_append, List.length_append,
    List.length_append, List.length_replicate]
  omega

/-- The padding alone makes the length of a packet. -/
theorem length_padded (padding : Nat) {port : Text} (h : port.all (·.toNat < 128) = true) :
    (Text.toBytes (padded padding port).render).length = padding + port.length + 65 := by
  have hrest : (' ' :: port ++ (Text.crlf ++ Text.crlf)).all (·.toNat < 128) = true := by
    rw [List.cons_append, List.all_cons, List.all_append, h]
    rfl
  rw [render_padded, length_paddedUpTo padding hrest, List.length_append, List.length_cons]
  show padding + (port.length + 1 + 4) + 60 = padding + port.length + 65
  omega

/-- A request without padding fits, and is acted on as it was written. -/
theorem acts_wholly_unpadded :
    Packet.parse (Text.toBytes (padded 0 "60000".toList).render) = .ok (padded 0 "60000".toList) ∧
      stopping.handler? (padded 0 "60000".toList).code = some () ∧
      stopping.ActsWholly () (padded 0 "60000".toList) := by
  have hwell := wellFormed_padded 0 (by decide : Fields.Plain ("Port".toList, "60000".toList))
  have hshort : (Text.toBytes (padded 0 "60000".toList).render).length = 70 :=
    length_padded 0 (by decide)
  refine ⟨hwell.parse_render, rfl, (acts_wholly_iff stopping () _ rfl hwell.parse_render rfl).mpr ?_⟩
  intro t q hleaves hlength
  have hle := length_le_of_leaves hwell hleaves
  rw [hlength, hshort] at hle
  exact absurd hle (by decide)

/-- A padded request that breaks off within its port leaves a request for another port. -/
theorem leaves_padded (padding : Nat) {port part : Text} (h : part <+: ' ' :: port ++ ['\r']) :
    (padded padding port).Leaves (paddedUpTo padding part) (padded padding (Text.trim part)) :=
  .fields (.next (.next (.cut [] h)))

/-- The request that breaks off in front of the last digit of its port. -/
theorem dispatch_padded :
    stopping.dispatch (Text.toBytes (padded 4031 "60000".toList).render) =
      some ((), padded 4031 "6000".toList) := by
  have hlength : (Text.toBytes (paddedUpTo 4031 " 6000".toList)).length = largestDatagram :=
    length_paddedUpTo 4031 (by decide)
  exact dispatch_of_leaves (wellFormed_padded 4031 (by decide)) (leaves_padded 4031 (by decide)) hlength
    rfl

theorem padded_ne : padded 4031 "6000".toList ≠ padded 4031 "60000".toList := by
  intro h
  exact absurd (congrArg (fun p => p.get? "Port".toList) h) (by decide)

/-- A request to stop the session of port 60000 is taken for one about port 6000, although it is
well formed, of a code that is served and no larger than datagrams can be. -/
theorem not_acts_wholly :
    stopping.running = true ∧
      Packet.parse (Text.toBytes (padded 4031 "60000".toList).render) = .ok (padded 4031 "60000".toList) ∧
      stopping.handler? (padded 4031 "60000".toList).code = some () ∧
      (Text.toBytes (padded 4031 "60000".toList).render).length ≤ datagramCapacity ∧
      stopping.dispatch (Text.toBytes (padded 4031 "60000".toList).render) =
        some ((), padded 4031 "6000".toList) ∧
      ¬stopping.ActsWholly () (padded 4031 "60000".toList) :=
  ⟨rfl, (wellFormed_padded 4031 (by decide)).parse_render, rfl,
    (length_padded 4031 (by decide)).trans_le (by decide), dispatch_padded,
    not_actsWholly_of_dispatch rfl dispatch_padded padded_ne⟩

end Server

end MediaProxy.Control
