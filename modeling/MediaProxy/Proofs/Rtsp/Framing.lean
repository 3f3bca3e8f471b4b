import MediaProxy.Proofs.Header
import MediaProxy.Proofs.Rtsp.Reading
import MediaProxy.Proofs.Text.Encoding
import MediaProxy.Proofs.Text.Numerals

/-!
# Responses one after another

A server may send its responses back to back, with blank lines in front of each and with either line
ending on every line of a head (`Layout`). What it sends is taken apart again at exactly the places
where it was put together: a head ends at its blank line, a body after as many octets as the head
announces, whatever these octets are. So the reads of such a stream give the responses in their
order and then its end (`readings_stream`).

A body is a value that a reader holds in memory whole, and no value is longer than `largestBody`;
that is part of what a message is (`Message.WellFormed`).
-/

namespace MediaProxy.Rtsp

open Text (Trimmed IsLine Break writeLines)

/-- A **message** as a server means it. -/
structure Message where
  version : Text
  status : UInt16
  reason : Text
  fields : Fields
  body : Bytes
  deriving DecidableEq, Repr

/-- How a message is **laid out**: the blank lines in front of it, and how each line of its head
ends. -/
structure Layout where
  blanks : List Break
  ends : Nat → Break

namespace Message

/-- A message that its layout cannot distort, and whose head announces its body. -/
structure WellFormed (m : Message) : Prop where
  version_tag : "RTSP/".toList <+: m.version
  version_noSpace : ' ' ∉ m.version
  version_noFeed : '\n' ∉ m.version
  reason_trimmed : Trimmed m.reason
  reason_noFeed : '\n' ∉ m.reason
  fields : m.fields.WellFormed
  announced : m.fields.get? "Content-Length".toList = some (Text.ofNat m.body.length) ∨
    m.fields.get? "Content-Length".toList = none ∧ m.body = []
  fits : m.body.length ≤ largestBody

/-- The first line of a message. -/
def statusLine (m : Message) : Text :=
  m.version ++ ' ' :: (Text.ofNat m.status.toNat ++ ' ' :: m.reason)

/-- The lines of a head, without the blank one that ends it. -/
def headLines (m : Message) : List Text := m.statusLine :: m.fields.map Fields.line

/-- The head of a message as it is laid out. -/
def head (layout : Layout) (m : Message) : Text := writeLines layout.ends (m.headLines ++ [[]])

/-- The **octets** of a message. -/
def octets (layout : Layout) (m : Message) : Bytes :=
  Text.toBytes (layout.blanks.flatMap Break.text ++ m.head layout) ++ m.body

/-- The response that a reader should get. -/
def response (m : Message) : Response :=
  ⟨m.version, m.status, m.reason, m.fields, if m.body = [] then none else some (Text.lossy m.body)⟩

end Message

/-! ## Heads -/

section Head

variable {ending : Ending} {line head : Text} {rest : Bytes}

/-- The octets of a line are taken one by one up to its end. -/
theorem takeHead_octets {octets : Bytes} (h : 10 ∉ octets) (before : Bytes) :
    takeHead ending head before (octets ++ 10 :: rest) =
      takeHead ending head (octets.reverse ++ before) (10 :: rest) := by
  induction octets generalizing before with
  | nil => rfl
  | cons b octets ih =>
    rw [List.mem_cons, not_or] at h
    rw [List.cons_append, takeHead, if_neg (Ne.symm h.1), ih h.2]
    simp

/-- A line is taken whole, with its ending. -/
theorem takeHead_line (ending : Ending) (head : Text) (rest : Bytes) (h : '\n' ∉ line) (b : Break) :
    takeHead ending head [] (Text.toBytes (line ++ b.text) ++ rest) =
      if isEmptyLine (line ++ b.text) then
        if Text.isBlankText head then takeHead ending [] [] rest
        else .head (head ++ (line ++ b.text)) rest
      else takeHead ending (head ++ (line ++ b.text)) [] rest := by
  obtain ⟨front, hfront, hlf⟩ : ∃ front, line ++ b.text = front ++ ['\n'] ∧ '\n' ∉ front := by
    cases b with
    | lf => exact ⟨line, rfl, h⟩
    | crlf => exact ⟨line ++ ['\r'], by simp [Break.text, Text.crlf], by simp [h]⟩
  have hbytes : Text.toBytes (front ++ ['\n']) = Text.toBytes front ++ [10] :=
    Text.toBytes_append front ['\n']
  have hread : Text.ofBytes? (Text.toBytes front ++ [10]) = some (front ++ ['\n']) :=
    hbytes ▸ Text.ofBytes?_toBytes _
  rw [hfront, hbytes, List.append_assoc, List.singleton_append,
    takeHead_octets (Text.lf_mem_toBytes_iff.not.mpr hlf), takeHead, if_pos rfl, List.append_nil,
    List.reverse_reverse, hread]

/-- A line ending alone is an empty line. -/
theorem isEmptyLine_break (b : Break) : isEmptyLine b.text = true := by cases b <;> rfl

/-- A line that is not empty does not end the head. -/
theorem isEmptyLine_line (h : IsLine line) (hne : line ≠ []) (b : Break) :
    isEmptyLine (line ++ b.text) = false := by
  have hcr : line ≠ ['\r'] := fun heq => h.noReturn (heq ▸ rfl)
  cases b <;> cases line with
  | nil => exact absurd rfl hne
  | cons c more => cases more <;> simp_all [isEmptyLine, Break.text, Text.crlf]

/-- Blank lines before a head are passed over. -/
theorem takeHead_blanks (blanks : List Break) (t : Text) :
    takeHead ending [] [] (Text.toBytes (blanks.flatMap Break.text ++ t) ++ rest) =
      takeHead ending [] [] (Text.toBytes t ++ rest) := by
  induction blanks with
  | nil => rfl
  | cons b blanks ih =>
    have hnone : Text.isBlankText [] = true := rfl
    have hline := takeHead_line ending [] (Text.toBytes (blanks.flatMap Break.text ++ t) ++ rest)
      List.not_mem_nil b
    rw [List.nil_append, isEmptyLine_break, if_pos rfl, hnone, if_pos rfl, ih] at hline
    rwa [List.flatMap_cons, List.append_assoc, Text.toBytes_append, List.append_assoc]

/-- The lines of a head are taken up to its blank line, once there is something on the first. -/
theorem takeHead_lines {ls : List Text} (hls : ∀ line ∈ ls, IsLine line ∧ line ≠ [])
    (hhead : Text.isBlankText head = false) (ends : Nat → Break) :
    takeHead ending head [] (Text.toBytes (writeLines ends (ls ++ [[]])) ++ rest) =
      .head (head ++ writeLines ends (ls ++ [[]])) rest := by
  induction ls generalizing head ends with
  | nil =>
    have hline := takeHead_line ending head rest List.not_mem_nil (ends 0)
    rw [List.nil_append, isEmptyLine_break, if_pos rfl, hhead, if_neg Bool.false_ne_true] at hline
    simpa [writeLines] using hline
  | cons line ls ih =>
    obtain ⟨⟨hline, hne⟩, hls⟩ := List.forall_mem_cons.mp hls
    rw [List.cons_append, writeLines, Text.toBytes_append, List.append_assoc,
      takeHead_line _ _ _ hline.noFeed, isEmptyLine_line hline hne, if_neg Bool.false_ne_true, ih hls]
    · simp
    · rw [Text.isBlankText_append, hhead, Bool.false_and]

end Head

namespace Message

variable {m : Message} {layout : Layout} {ending : Ending} {rest : Bytes}

/-- The lines of a well-formed message are lines, and none of them is empty. -/
theorem WellFormed.isLine (h : m.WellFormed) : ∀ line ∈ m.headLines, IsLine line ∧ line ≠ [] := by
  intro line hline
  rcases List.mem_cons.mp hline with rfl | hline
  · have hfront : '\n' ∉ m.version ++ ' ' :: Text.ofNat m.status.toNat := by
      simpa [h.version_noFeed] using Text.not_mem_ofNat (by decide) _
    have := Text.isLine_append_cons hfront (c := ' ') (by decide) h.reason_noFeed h.reason_trimmed
    rw [List.append_assoc, List.cons_append] at this
    exact ⟨this, by simp [statusLine]⟩
  · obtain ⟨field, hfield, rfl⟩ := List.mem_map.mp hline
    exact ⟨(h.fields field hfield).isLine, Fields.line_ne_nil field⟩

/-- The head of a well-formed message is taken as a whole, however it is laid out. -/
theorem WellFormed.takeHead (h : m.WellFormed) :
    takeHead ending [] [] (Text.toBytes (layout.blanks.flatMap Break.text ++ m.head layout) ++ rest) =
      .head (m.head layout) rest := by
  obtain ⟨⟨hline, hne⟩, hls⟩ := List.forall_mem_cons.mp h.isLine
  have hfirst : Text.isBlankText (m.statusLine ++ (layout.ends 0).text) = false := by
    obtain ⟨tail, htail⟩ := h.version_tag
    have htag : Text.isBlankText "RTSP/".toList = false := by decide
    rw [statusLine, ← htail]
    simp only [List.append_assoc, Text.isBlankText_append, htag, Bool.false_and]
  rw [takeHead_blanks, head, headLines, List.cons_append, writeLines, Text.toBytes_append,
    List.append_assoc, takeHead_line _ _ _ hline.noFeed, isEmptyLine_line hline hne,
    if_neg Bool.false_ne_true, List.nil_append, takeHead_lines hls hfirst]

/-- The first line of a well-formed message reads back. -/
theorem WellFormed.readStatusLine (h : m.WellFormed) :
    Response.readStatusLine m.statusLine = .ok (m.version, m.status, m.reason) := by
  have hstatus : Text.cutAt ' ' (Text.ofNat m.status.toNat ++ ' ' :: m.reason) =
      some (Text.ofNat m.status.toNat, m.reason) :=
    Text.cutAt_append m.reason (Text.not_mem_ofNat (by decide) _)
  have htag : "RTSP/".toList.isPrefixOf m.version = true :=
    List.isPrefixOf_iff_prefix.mpr h.version_tag
  rw [Response.readStatusLine, statusLine, Text.cutAt_append _ h.version_noSpace]
  simp only [hstatus, Option.getD_some, Text.readUInt16?_ofNat, htag, if_true,
    h.reason_trimmed.trim_eq]

/-- The head of a well-formed message reads back, however it is laid out. -/
theorem WellFormed.ofHead (h : m.WellFormed) (layout : Layout) :
    Response.ofHead (m.head layout) = .ok ⟨m.version, m.status, m.reason, m.fields, none⟩ := by
  have hlines : Text.lines (m.head layout) = m.headLines ++ [[]] := by
    refine Text.lines_writeLines (fun line hline => ?_) layout.ends
    rcases List.mem_append.mp hline with hline | hline
    · exact (h.isLine line hline).1
    · exact List.mem_singleton.mp hline ▸ Text.isLine_nil
  rw [Response.ofHead, hlines, headLines, List.cons_append]
  simp only [h.readStatusLine, Fields.ofLines_lines h.fields]
  rfl

/-- A well-formed message says how long its body is. -/
theorem WellFormed.bodyLength (h : m.WellFormed) :
    Response.bodyLength ⟨m.version, m.status, m.reason, m.fields, none⟩ = m.body.length := by
  rw [Response.bodyLength, Response.contentLength?, Response.get?]
  rcases h.announced with hlength | ⟨hlength, hbody⟩
  · rw [hlength, Option.bind_some, Text.readBelow?_ofNat (Nat.lt_of_le_of_lt h.fits (by decide)),
      Option.getD_some]
  · rw [hlength, hbody]
    rfl

/-- A body is taken by its length, whatever it holds. -/
theorem WellFormed.takeBody (h : m.WellFormed) :
    takeBody ending ⟨m.version, m.status, m.reason, m.fields, none⟩ (m.body ++ rest) =
      (.response m.response, rest) := by
  rw [takeBody_eq, h.bodyLength, response]
  by_cases hbody : m.body = []
  · rw [hbody]
    rfl
  · have hpresent : ¬(m.body ++ rest).length < m.body.length := by simp
    rw [if_neg (mt List.length_eq_zero_iff.mp hbody), if_neg (Nat.not_lt.mpr h.fits),
      if_neg hpresent, if_neg hbody, List.take_left, List.drop_left]

/-- **A read takes exactly one message**, and leaves what follows it. -/
theorem WellFormed.takeResponse (h : m.WellFormed) (layout : Layout) :
    takeResponse ending (m.octets layout ++ rest) = (.response m.response, rest) := by
  rw [Rtsp.takeResponse, octets, List.append_assoc, h.takeHead]
  simp only [h.ofHead, h.takeBody]

end Message

/-! ## Streams of messages -/

/-- **Responses are taken off a stream as they were sent**, in whatever layout, and then the stream
is over. -/
theorem readings_stream (messages : List (Layout × Message))
    (h : ∀ entry ∈ messages, entry.2.WellFormed) :
    readings .closed (messages.length + 1) (messages.flatMap fun (layout, m) => m.octets layout) =
      messages.map (fun entry => .response entry.2.response) ++ [.over] := by
  induction messages with
  | nil => rfl
  | cons entry messages ih =>
    obtain ⟨hentry, hmessages⟩ := List.forall_mem_cons.mp h
    rw [List.length_cons, readings, List.flatMap_cons, hentry.takeResponse, ih hmessages]
    rfl

/-- Two messages: the body of the first looks like a message and has blank lines, and no two lines
in a row end in the same way; the second has no body and no reason. -/
def nested : List (Layout × Message) :=
  [(⟨[.lf, .crlf], fun n => if n % 2 = 0 then .lf else .crlf⟩,
      ⟨"RTSP/1.0".toList, 200, "OK".toList,
        [("CSeq".toList, "1".toList), ("content-LENGTH".toList, "23".toList)],
        Text.toBytes "\r\n\r\nRTSP/1.0 404 No\r\n\r\n".toList⟩),
    (⟨[.crlf], fun _ => .crlf⟩, ⟨"RTSP/2.0".toList, 65535, [], [([], "a:b".toList)], []⟩)]

theorem readings_nested :
    (∀ entry ∈ nested, entry.2.WellFormed) ∧
      readings .closed 3 (nested.flatMap fun (layout, m) => m.octets layout) =
        nested.map (fun entry => .response entry.2.response) ++ [.over] := by
  have h : ∀ entry ∈ nested, entry.2.WellFormed := by
    refine List.forall_mem_cons.mpr ⟨?_, List.forall_mem_cons.mpr ⟨?_, nofun⟩⟩
    · constructor <;> decide
    · constructor <;> decide
  exact ⟨h, readings_stream nested h⟩

end MediaProxy.Rtsp
