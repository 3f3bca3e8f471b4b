import MediaProxy.Amp.Request
import MediaProxy.Proofs.Amp.Wire
import MediaProxy.Proofs.Text.Letters
import MediaProxy.Proofs.Text.Numerals

/-!
# Requests in a dressed packet

Whoever sends a request may spell the names of its fields in letters of any case and put other
fields before, between and behind them (`Fields.Dressed`). What matters is the texts of the request:
it is decoded as it was meant exactly when a line can carry each of them and none is empty
(`dressed_request_reads_back`). Any other text is never decoded as itself. White space at its ends
is lost, and what is behind a line feed counts as fields of its own, which may be a second port or a
second name of media.
-/

namespace MediaProxy

namespace Text

/-- A text that **a field can say**: it is not empty, has no white space at its ends and no line
feed. -/
structure Sayable (t : Text) : Prop where
  filled : t ≠ []
  trimmed : Trimmed t
  noFeed : '\n' ∉ t

instance (t : Text) : Decidable (Sayable t) :=
  decidable_of_iff (t ≠ [] ∧ Trimmed t ∧ '\n' ∉ t)
    ⟨fun ⟨h₁, h₂, h₃⟩ => ⟨h₁, h₂, h₃⟩, fun ⟨h₁, h₂, h₃⟩ => ⟨h₁, h₂, h₃⟩⟩

/-- A numeral can stand as the text of a field. -/
theorem sayable_ofNat (n : Nat) : Sayable (ofNat n) where
  filled := (isWord_ofNat n).1
  trimmed := (isWord_ofNat n).trimmed
  noFeed := not_mem_ofNat (by decide) n

/-- Whether a name has blanks around it does not depend on the case of its letters. -/
theorem trimmed_map_toLower {t : Text} : Trimmed (t.map Char.toLower) ↔ Trimmed t := by
  have hall : ∀ o : Option Char, (∀ c ∈ o.map Char.toLower, isBlank c = false) ↔
      ∀ c ∈ o, isBlank c = false := by
    rintro (_ | c) <;> simp [isBlank_toLower]
  rw [Trimmed, Trimmed, List.head?_map, List.getLast?_map, hall, hall]

end Text

namespace Fields

/-- Fields **dressed up**: in their order, each under its name in letters of any case, with other
fields that a line can carry before, between and behind them, none of which has one of the given
names. -/
inductive Dressed (names : List Text) : Fields → Fields → Prop
  | bare : Dressed names [] []
  | own {name spelled value : Text} {fields dressed : Fields}
      (same : Text.sameLetters spelled name = true) (rest : Dressed names fields dressed) :
      Dressed names ((name, value) :: fields) ((spelled, value) :: dressed)
  | extra {field : Text × Text} {fields dressed : Fields} (plain : Plain field)
      (foreign : ∀ name ∈ names, Text.sameLetters field.1 name = false)
      (rest : Dressed names fields dressed) : Dressed names fields (field :: dressed)

variable {names : List Text} {name spelled value : Text} {fields dressed : Fields}

/-- The letters of a name do not matter to whether a line can carry it. -/
theorem Plain.respell (same : Text.sameLetters spelled name = true) (h : Plain (name, value)) :
    Plain (spelled, value) := by
  have hletters := Text.sameLetters_iff.mp same
  have hmark : ∀ c : Char, Text.IsMark c → (c ∈ spelled ↔ c ∈ name) := fun c hc => by
    rw [← hc.mem_map_toLower, hletters, hc.mem_map_toLower]
  exact {
    trimmed_name := by
      rw [← Text.trimmed_map_toLower, hletters, Text.trimmed_map_toLower]
      exact h.trimmed_name
    trimmed_value := h.trimmed_value
    noColon := fun hmem => h.noColon ((hmark ':' (by decide)).mp hmem)
    noFeed_name := fun hmem => h.noFeed_name ((hmark '\n' (by decide)).mp hmem)
    noFeed_value := h.noFeed_value }

/-- Fields dressed with foreign ones are well-formed if the own ones are. -/
theorem Dressed.wellFormed (h : Dressed names fields dressed) (hown : fields.WellFormed) :
    dressed.WellFormed := by
  induction h with
  | bare => exact hown
  | own same _ ih =>
    obtain ⟨hfirst, hmore⟩ := List.forall_mem_cons.mp hown
    exact List.forall_mem_cons.mpr ⟨hfirst.respell same, ih hmore⟩
  | extra plain _ _ ih => exact List.forall_mem_cons.mpr ⟨plain, ih hown⟩

/-- A name that no other field has is answered as it was before the fields were dressed up. -/
theorem Dressed.get?_eq (h : Dressed names fields dressed) (hname : name ∈ names) :
    dressed.get? name = fields.get? name := by
  induction h with
  | bare => rfl
  | @own plain spelled _ _ _ same _ ih =>
    have hkey : Text.sameLetters spelled name = Text.sameLetters plain name := by
      rw [Text.sameLetters, Text.sameLetters, Text.sameLetters_iff.mp same]
    simp only [get?, List.find?_cons, hkey] at ih ⊢
    split
    · rfl
    · exact ih
  | extra _ foreign _ ih =>
    rw [← ih, get?, get?, List.find?_cons_of_neg (by simp [foreign name hname])]

end Fields

namespace Amp

open Text (Sayable)

variable {p q : Packet} {name text : Text} {datagram : Bytes}

/-- What a datagram says, as the requests of one kind are decoded. -/
def received? {α : Type} (ofPacket? : Packet → Option α) (datagram : Bytes) : Option α :=
  (Packet.parse datagram).toOption.bind ofPacket?

/-- A packet with its fields **dressed up**: the further fields have none of the names of its own.
-/
structure Packet.Dressed (p q : Packet) : Prop where
  code : q.code = p.code
  fields : Fields.Dressed (p.fields.map Prod.fst) p.fields q.fields

/-- A datagram is received as something exactly if it parses to a packet that stands for it. -/
theorem received?_eq_some_iff {α : Type} {ofPacket? : Packet → Option α} {a : α} :
    received? ofPacket? datagram = some a ↔ ∃ p, Packet.parse datagram = .ok p ∧ ofPacket? p = some a := by
  unfold received?
  cases Packet.parse datagram <;> simp [Except.toOption]

/-- A field is filled in with a text exactly if that is its text and not empty. -/
theorem filled?_eq_some_iff : filled? p name = some text ↔ p.get? name = some text ∧ text ≠ [] := by
  simp [filled?, Option.filter_eq_some_iff]

/-- What fills a field of a well-formed packet could be said in a request again. -/
theorem sayable_of_filled? (h : p.WellFormed) (htext : filled? p name = some text) : Sayable text := by
  obtain ⟨hget, hne⟩ := filled?_eq_some_iff.mp htext
  obtain ⟨field, hfind, rfl⟩ := Option.map_eq_some_iff.mp hget
  have hplain := h.fields field (List.mem_of_find?_eq_some hfind)
  exact ⟨hne, hplain.trimmed_value, hplain.noFeed_value⟩

/-- A packet asks for a start exactly if it has the code and all three fields, each of them
readable. -/
theorem StartRequest.ofPacket?_eq_some_iff {r : StartRequest} :
    ofPacket? p = some r ↔ p.code = .startSession ∧ filled? p "Receiver-Host".toList = some r.host ∧
      (p.get? "Port".toList).bind Text.readUInt16? = some r.port ∧
      filled? p "Media".toList = some r.media := by
  obtain ⟨host, port, media⟩ := r
  simp only [ofPacket?, Option.ite_none_right_eq_some, Option.bind_eq_bind, Option.bind_eq_some_iff,
    Option.pure_def, Option.some.injEq, StartRequest.mk.injEq]
  constructor
  · rintro ⟨hcode, _, hhost, _, hport, _, hmedia, rfl, rfl, rfl⟩
    exact ⟨hcode, hhost, hport, hmedia⟩
  · rintro ⟨hcode, hhost, hport, hmedia⟩
    exact ⟨hcode, host, hhost, port, hport, media, hmedia, rfl, rfl, rfl⟩

/-- A packet asks for a stop exactly if it has the code and both fields, each of them readable. -/
theorem StopRequest.ofPacket?_eq_some_iff {r : StopRequest} :
    ofPacket? p = some r ↔ p.code = .stopSession ∧ filled? p "Receiver-Host".toList = some r.host ∧
      (p.get? "Port".toList).bind Text.readUInt16? = some r.port := by
  obtain ⟨host, port⟩ := r
  simp only [ofPacket?, Option.ite_none_right_eq_some, Option.bind_eq_bind, Option.bind_eq_some_iff,
    Option.pure_def, Option.some.injEq, StopRequest.mk.injEq]
  constructor
  · rintro ⟨hcode, _, hhost, _, hport, rfl, rfl⟩
    exact ⟨hcode, hhost, hport⟩
  · rintro ⟨hcode, hhost, hport⟩
    exact ⟨hcode, host, hhost, port, hport, rfl, rfl⟩

/-- A packet reports load exactly if it has the code and a readable sequence number. -/
theorem LoadReport.ofPacket?_eq_some_iff {r : LoadReport} :
    ofPacket? p = some r ↔ p.code = .load ∧ (p.get? "Seq-No".toList).bind Text.readUInt64? = some r.seq := by
  obtain ⟨seq⟩ := r
  simp only [ofPacket?, Option.ite_none_right_eq_some, Option.bind_eq_bind, Option.bind_eq_some_iff,
    Option.pure_def, Option.some.injEq, LoadReport.mk.injEq]
  constructor
  · rintro ⟨hcode, _, hseq, rfl⟩
    exact ⟨hcode, hseq⟩
  · rintro ⟨hcode, hseq⟩
    exact ⟨hcode, seq, hseq, rfl⟩

/-! ## Dressed packets -/

/-- A packet dressed with foreign fields is well-formed if it was without them. -/
theorem Packet.Dressed.wellFormed (h : p.Dressed q) (hp : p.WellFormed) : q.WellFormed :=
  ⟨h.code ▸ hp.code, h.fields.wellFormed hp.fields⟩

/-- Foreign fields and other letters do not change the text of a field that was there before. -/
theorem Packet.Dressed.get?_eq (h : p.Dressed q) (hname : name ∈ p.fields.map Prod.fst) :
    q.get? name = p.get? name :=
  h.fields.get?_eq hname

/-- A text that can be said makes a plain field under every plain name. -/
theorem plain_of_sayable (hname : Text.Trimmed name ∧ ':' ∉ name ∧ '\n' ∉ name) (h : Sayable text) :
    Fields.Plain (name, text) :=
  ⟨hname.1, h.trimmed, hname.2.1, hname.2.2, h.noFeed⟩

/-- A request for a start whose host and media can be said is a well-formed packet. -/
theorem StartRequest.wellFormed_toPacket {r : StartRequest} (hhost : Sayable r.host)
    (hmedia : Sayable r.media) : r.toPacket.WellFormed := by
  refine ⟨trivial, ?_⟩
  simp only [toPacket, Fields.WellFormed, List.forall_mem_cons, List.not_mem_nil, false_imp_iff,
    implies_true, and_true]
  exact ⟨plain_of_sayable (by decide) hhost, plain_of_sayable (by decide) (Text.sayable_ofNat _),
    plain_of_sayable (by decide) hmedia⟩

/-- A request for a stop whose host can be said is a well-formed packet. -/
theorem StopRequest.wellFormed_toPacket {r : StopRequest} (hhost : Sayable r.host) :
    r.toPacket.WellFormed := by
  refine ⟨trivial, ?_⟩
  simp only [toPacket, Fields.WellFormed, List.forall_mem_cons, List.not_mem_nil, false_imp_iff,
    implies_true, and_true]
  exact ⟨plain_of_sayable (by decide) hhost, plain_of_sayable (by decide) (Text.sayable_ofNat _)⟩

/-- Every load report is a well-formed packet. -/
theorem LoadReport.wellFormed_toPacket (r : LoadReport) : r.toPacket.WellFormed := by
  refine ⟨trivial, ?_⟩
  simp only [toPacket, Fields.WellFormed, List.forall_mem_cons, List.not_mem_nil, false_imp_iff,
    implies_true, and_true]
  exact plain_of_sayable (by decide) (Text.sayable_ofNat _)

/-- A request for media is decoded as it was meant exactly when its texts can be said. -/
theorem StartRequest.received?_iff {r : StartRequest} (h : r.toPacket.Dressed q) :
    received? ofPacket? (Text.toBytes q.render) = some r ↔ Sayable r.host ∧ Sayable r.media := by
  rw [received?_eq_some_iff]
  constructor
  · rintro ⟨p, hparse, hp⟩
    have hwell := Packet.wellFormed_of_parse hparse
    obtain ⟨-, hhost, -, hmedia⟩ := ofPacket?_eq_some_iff.mp hp
    exact ⟨sayable_of_filled? hwell hhost, sayable_of_filled? hwell hmedia⟩
  · rintro ⟨hhost, hmedia⟩
    have hget : ∀ name ∈ ["Receiver-Host".toList, "Port".toList, "Media".toList],
        q.get? name = r.toPacket.get? name := fun _ => h.get?_eq
    refine ⟨q, (h.wellFormed (wellFormed_toPacket hhost hmedia)).parse_render,
      ofPacket?_eq_some_iff.mpr ⟨h.code, ?_, ?_, ?_⟩⟩
    · exact filled?_eq_some_iff.mpr ⟨hget _ (by decide), hhost.filled⟩
    · rw [hget _ (by decide)]
      exact Text.readUInt16?_ofNat r.port
    · exact filled?_eq_some_iff.mpr ⟨hget _ (by decide), hmedia.filled⟩

/-- A request for a stop reads back, however it is dressed, exactly if its host can be said. -/
theorem StopRequest.received?_iff {r : StopRequest} (h : r.toPacket.Dressed q) :
    received? ofPacket? (Text.toBytes q.render) = some r ↔ Sayable r.host := by
  rw [received?_eq_some_iff]
  constructor
  · rintro ⟨p, hparse, hp⟩
    obtain ⟨-, hhost, -⟩ := ofPacket?_eq_some_iff.mp hp
    exact sayable_of_filled? (Packet.wellFormed_of_parse hparse) hhost
  · intro hhost
    have hget : ∀ name ∈ ["Receiver-Host".toList, "Port".toList], q.get? name = r.toPacket.get? name :=
      fun _ => h.get?_eq
    refine ⟨q, (h.wellFormed (wellFormed_toPacket hhost)).parse_render,
      ofPacket?_eq_some_iff.mpr ⟨h.code, ?_, ?_⟩⟩
    · exact filled?_eq_some_iff.mpr ⟨hget _ (by decide), hhost.filled⟩
    · rw [hget _ (by decide)]
      exact Text.readUInt16?_ofNat r.port

/-- A load report reads back, however it is dressed. -/
theorem LoadReport.received?_eq {r : LoadReport} (h : r.toPacket.Dressed q) :
    received? ofPacket? (Text.toBytes q.render) = some r := by
  refine received?_eq_some_iff.mpr ⟨q, (h.wellFormed r.wellFormed_toPacket).parse_render, ?_⟩
  have hget : q.get? "Seq-No".toList = r.toPacket.get? "Seq-No".toList :=
    h.get?_eq List.mem_cons_self
  refine ofPacket?_eq_some_iff.mpr ⟨h.code, ?_⟩
  rw [hget]
  exact Text.readUInt64?_ofNat r.seq

/-- **Requests read back.** However the packet of a request is dressed up, it is decoded as the
request exactly when its host, and its media name if it has one, can be said; a report of load
always is. A packet under the code of one kind of request is never one of another kind. -/
theorem dressed_request_reads_back :
    (∀ (r : StartRequest) (q : Packet), r.toPacket.Dressed q →
      (received? StartRequest.ofPacket? (Text.toBytes q.render) = some r ↔
        Sayable r.host ∧ Sayable r.media)) ∧
    (∀ (r : StopRequest) (q : Packet), r.toPacket.Dressed q →
      (received? StopRequest.ofPacket? (Text.toBytes q.render) = some r ↔ Sayable r.host)) ∧
    (∀ (r : LoadReport) (q : Packet), r.toPacket.Dressed q →
      received? LoadReport.ofPacket? (Text.toBytes q.render) = some r) ∧
    ∀ p : Packet,
      (p.code = .startSession → StopRequest.ofPacket? p = none ∧ LoadReport.ofPacket? p = none) ∧
      (p.code = .stopSession → StartRequest.ofPacket? p = none ∧ LoadReport.ofPacket? p = none) ∧
      (p.code = .load → StartRequest.ofPacket? p = none ∧ StopRequest.ofPacket? p = none) := by
  refine ⟨fun _ _ h => StartRequest.received?_iff h, fun _ _ h => StopRequest.received?_iff h,
    fun _ _ h => LoadReport.received?_eq h, fun p => ⟨?_, ?_, ?_⟩⟩ <;>
  · intro hcode
    simp [StartRequest.ofPacket?, StopRequest.ofPacket?, LoadReport.ofPacket?, hcode]

/-- A request whose media name has words and marks of a line in it, but no line feed. -/
def matinee : StartRequest := ⟨"::1".toList, 6000, "Port: 1\rMedia: b".toList⟩

/-- Its packet, with names spelled otherwise, a number in front, a field that looks like a host's
but is none, and a field behind that says nothing. -/
def matineeDressed : Packet :=
  ⟨.startSession, [("Seq".toList, "7".toList), ("receiver-HOST".toList, "::1".toList),
    ("Receiver Host".toList, "::2".toList), ("PORT".toList, "6000".toList),
    ("media".toList, "Port: 1\rMedia: b".toList), ([], [])]⟩

theorem matinee_dressed : matinee.toPacket.Dressed matineeDressed where
  code := rfl
  fields := by
    refine .extra (by decide) (by decide) (.own (by decide) ?_)
    refine .extra (by decide) (by decide) (.own (by decide) (.own (by decide) ?_))
    exact .extra (by decide) (by decide) .bare

/-- The dressed request is decoded. With a line feed for the carriage return it would not be, and
its media name would be what stands in front of that. -/
theorem matinee_reads_back :
    matinee.toPacket.Dressed matineeDressed ∧
    received? StartRequest.ofPacket? (Text.toBytes matineeDressed.render) = some matinee ∧
    ∀ q : Packet, Packet.Dressed (StartRequest.toPacket ⟨"::1".toList, 6000, "a\nMedia: b".toList⟩) q →
      received? StartRequest.ofPacket? (Text.toBytes q.render) ≠
        some ⟨"::1".toList, 6000, "a\nMedia: b".toList⟩ :=
  ⟨matinee_dressed, (dressed_request_reads_back.1 matinee matineeDressed matinee_dressed).mpr (by decide),
    fun q hq h => absurd ((dressed_request_reads_back.1 _ q hq).mp h).2 (by decide)⟩

end Amp

end MediaProxy
