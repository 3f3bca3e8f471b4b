import MediaProxy.Amp.Packet
import MediaProxy.Proofs.Header
import MediaProxy.Proofs.Text.Encoding

/-!
# Control messages on the wire

Which packets survive a datagram: exactly those whose code is one word that means that code, and
whose fields a header line can carry (`Packet.WellFormed`). Such a packet is read as it was written.
A datagram that can be read at all gives such a packet, whatever it holds beside the packet, so
writing the packet again and reading that changes nothing (`parse_render_iff`).
-/

namespace MediaProxy.Amp

open Text (IsWord IsLine Break writeLines)

namespace Code

/-- A code that **its token stands for**: a code that this library does not know is one word, and
not the token of a code that it knows. -/
def WellFormed : Code → Prop
  | .other token => IsWord token ∧ ∀ code ∈ known, code.token ≠ token
  | _ => True

instance : DecidablePred WellFormed
  | .other _ => inferInstanceAs (Decidable (_ ∧ _))
  | .startSession | .stopSession | .load | .ok | .error => inferInstanceAs (Decidable True)

variable {c : Code} {token : Text}

/-- The token of a well-formed code is one word. -/
theorem WellFormed.isWord (h : c.WellFormed) : IsWord c.token := by
  cases c with
  | other token => exact h.1
  | _ => decide

/-- A well-formed code is read back from its token. -/
theorem WellFormed.ofToken_token (h : c.WellFormed) : ofToken c.token = c := by
  cases c with
  | other token =>
    have hnone : known.find? (fun code => code.token = token) = none :=
      List.find?_eq_none.mpr fun code hcode heq => h.2 code hcode (of_decide_eq_true heq)
    rw [ofToken, show (Code.other token).token = token from rfl, hnone, Option.getD_none]
  | _ => decide

/-- A word is read as a code that it stands for. -/
theorem wellFormed_ofToken (h : IsWord token) : (ofToken token).WellFormed := by
  unfold ofToken
  cases hfind : known.find? (fun code => code.token = token) with
  | none => exact ⟨h, fun code hcode heq => List.find?_eq_none.mp hfind code hcode (decide_eq_true heq)⟩
  | some code =>
    have hknown : ∀ code ∈ known, code.WellFormed := by decide
    exact hknown code (List.mem_of_find?_eq_some hfind)

end Code

namespace Packet

/-- A packet that **a datagram can carry**. -/
structure WellFormed (p : Packet) : Prop where
  code : p.code.WellFormed
  fields : p.fields.WellFormed

instance (p : Packet) : Decidable p.WellFormed :=
  decidable_of_iff (p.code.WellFormed ∧ p.fields.WellFormed) ⟨fun ⟨h, h'⟩ => ⟨h, h'⟩, fun ⟨h, h'⟩ => ⟨h, h'⟩⟩

/-- The start line of a packet. -/
def startLine (p : Packet) : Text := version ++ ' ' :: p.code.token

/-- The lines of a packet, with the empty one that ends it. -/
def toLines (p : Packet) : List Text := p.startLine :: (p.fields.map Fields.line ++ [[]])

variable {p : Packet}

/-- A packet is rendered as its lines, each with the same ending. -/
theorem render_eq (p : Packet) : p.render = writeLines (fun _ => .crlf) p.toLines := by
  have hfields : ∀ fields : Fields, writeLines (fun _ => .crlf) (fields.map Fields.line ++ [[]]) =
      fields.render ++ Text.crlf := by
    intro fields
    induction fields with
    | nil => rfl
    | cons field fields ih =>
      rw [List.map_cons, List.cons_append, writeLines, ih]
      simp [Fields.render, Break.text]
  rw [toLines, writeLines, hfields]
  simp [render, startLine, Break.text]

/-- The first line of a packet is one line. -/
theorem isLine_first {token : Text} (h : IsWord token) : IsLine (version ++ ' ' :: token) := by
  refine Text.isLine_append_cons (by decide) (by decide) ?_ ⟨?_, ?_⟩
  · exact fun hmem => absurd (h.2 _ hmem) (by decide)
  · exact fun c hc => h.2 c (List.mem_of_mem_head? hc)
  · exact fun c hc => h.2 c (List.mem_of_mem_getLast? hc)

/-- A text gives a packet exactly when its first line is two words, the second of them the code, and
the lines behind it are fields. -/
theorem ofText_eq_ok_iff {t : Text} :
    ofText t = .ok p ↔ ∃ first rest other token fields, Text.lines t = first :: rest ∧
      Text.words first = [other, token] ∧ Fields.ofLines rest = .ok fields ∧
      p = ⟨Code.ofToken token, fields⟩ := by
  constructor
  · intro h
    unfold ofText at h
    cases hlines : Text.lines t with
    | nil =>
      rw [hlines] at h
      cases h
    | cons first rest =>
      simp only [hlines] at h
      split at h
      · cases h
      · split at h
        next other token hwords =>
          cases hfields : Fields.ofLines rest with
          | error defect =>
            rw [hfields] at h
            cases h
          | ok fields =>
            rw [hfields] at h
            exact ⟨first, rest, other, token, fields, rfl, hwords, hfields, (Except.ok.inj h).symm⟩
        next => cases h
  · rintro ⟨first, rest, other, token, fields, hlines, hwords, hfields, rfl⟩
    have hblank : Text.isBlankText first = false :=
      Text.isBlankText_of_mem_words (hwords ▸ List.mem_cons_self)
    rw [ofText, hlines]
    simp only [hblank, hwords, hfields]
    rfl

/-- A packet of a known code is read with its fields trimmed, as long as each of them is a line
whose first colon is the one that separates. -/
theorem parse_render_of_isLine (hcode : p.code.WellFormed)
    (hfields : ∀ field ∈ p.fields, ':' ∉ field.1 ∧ IsLine (Fields.line field)) :
    parse (Text.toBytes p.render) = .ok ⟨p.code, p.fields.map Fields.trimmed⟩ := by
  have hlines : ∀ line ∈ p.toLines, IsLine line := by
    intro line hline
    rcases List.mem_cons.mp hline with rfl | hline
    · exact isLine_first hcode.isWord
    · rcases List.mem_append.mp hline with hline | hline
      · obtain ⟨field, hfield, rfl⟩ := List.mem_map.mp hline
        exact (hfields field hfield).2
      · rw [List.mem_singleton.mp hline]
        exact Text.isLine_nil
  have hrest : Fields.ofLines (p.fields.map Fields.line ++ [[]]) =
      .ok (p.fields.map Fields.trimmed) := by
    rw [Fields.ofLines_append fun field hfield => (hfields field hfield).1]
    simp [Fields.ofLines, Except.map]
  rw [parse, Text.ofBytes?_toBytes, render_eq]
  refine ofText_eq_ok_iff.mpr ⟨p.startLine, _, version, p.code.token, _,
    Text.lines_writeLines hlines _, Text.words_pair (by decide) (by decide) hcode.isWord, hrest, ?_⟩
  rw [hcode.ofToken_token]

/-- A well-formed packet reads back from what it is rendered as. -/
theorem WellFormed.parse_render (h : p.WellFormed) : parse (Text.toBytes p.render) = .ok p := by
  rw [parse_render_of_isLine h.code fun field hfield =>
    ⟨(h.fields field hfield).noColon, (h.fields field hfield).isLine⟩, h.fields.map_trimmed]

/-- What is read off a text could have been written. -/
theorem wellFormed_of_ofText {t : Text} (h : ofText t = .ok p) : p.WellFormed := by
  obtain ⟨first, rest, other, token, fields, hlines, hwords, hfields, rfl⟩ := ofText_eq_ok_iff.mp h
  have htoken : IsWord token :=
    Text.isWord_of_mem_words (hwords ▸ List.mem_cons_of_mem other List.mem_cons_self)
  have hrest : ∀ line ∈ rest, '\n' ∉ line := fun line hline =>
    Text.lf_not_mem_of_mem_lines (hlines ▸ List.mem_cons_of_mem first hline)
  exact ⟨Code.wellFormed_ofToken htoken, Fields.wellFormed_of_ofLines hrest hfields⟩

/-- Whatever parses is well-formed. -/
theorem wellFormed_of_parse {datagram : Bytes} (h : parse datagram = .ok p) : p.WellFormed := by
  unfold parse at h
  split at h
  · cases h
  · exact wellFormed_of_ofText h

/-- **Packets survive the wire exactly when they are well formed.** A packet is read as it was
written if and only if it is well formed, and every packet that a datagram gives is: it can be
written and read again without a change. -/
theorem parse_render_iff :
    (∀ p : Packet, parse (Text.toBytes p.render) = .ok p ↔ p.WellFormed) ∧
      ∀ (datagram : Bytes) (p : Packet), parse datagram = .ok p →
        p.WellFormed ∧ parse (Text.toBytes p.render) = .ok p :=
  ⟨fun _ => ⟨wellFormed_of_parse, WellFormed.parse_render⟩,
    fun _ _ h => ⟨wellFormed_of_parse h, (wellFormed_of_parse h).parse_render⟩⟩

/-- A packet with a code of its own, a carriage return and a colon in a value, and a field that is
empty on both sides. -/
def rewind : Packet := ⟨.other "REWIND".toList, [("X Note".toList, "a: b\rc".toList), ([], [])]⟩

/-- The odd packet survives; one that only spells the code of a reply does not. -/
theorem parse_render_rewind :
    rewind.WellFormed ∧ parse (Text.toBytes rewind.render) = .ok rewind ∧
      parse (Text.toBytes (Packet.render ⟨.other "OK".toList, []⟩)) ≠ .ok ⟨.other "OK".toList, []⟩ :=
  ⟨by decide, (parse_render_iff.1 rewind).mpr (by decide),
    fun h => absurd ((parse_render_iff.1 _).mp h) (by decide)⟩

end Packet

end MediaProxy.Amp
