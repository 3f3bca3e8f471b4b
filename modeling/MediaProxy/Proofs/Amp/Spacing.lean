import MediaProxy.Proofs.Amp.Wire

/-!
# Packets spaced otherwise

A packet is written with one space between two words, with one space behind each colon and with a
carriage return and a line feed behind each line. Peers need not do so. This module describes every
text that is the packet all the same (`Packet.Spaced`): under any version, with any white space
around the words of its first line and around the names and values of its fields, with either ending
on each line, with no ending on the last line, or with an empty line and anything at all behind the
fields.

The description is exact. A datagram is read as a packet if and only if it is one of these texts
(`parse_eq_ok_iff_spaced`). Nothing else is read: what makes a datagram a packet at all is two words
on the first line and a colon on every other line in front of an empty one.
-/

namespace MediaProxy

namespace Text

/-- White space that may **pad** a line: there is no line feed in it. -/
structure Padding (t : Text) : Prop where
  blank : isBlankText t = true
  noFeed : '\n' ∉ t

instance (t : Text) : Decidable (Padding t) :=
  decidable_of_iff (isBlankText t = true ∧ '\n' ∉ t) ⟨fun ⟨h, h'⟩ => ⟨h, h'⟩, fun ⟨h, h'⟩ => ⟨h, h'⟩⟩

/-- There is nothing but blanks in padding. -/
theorem Padding.not_mem {pad : Text} {c : Char} (h : Padding pad) (hc : isBlank c = false) : c ∉ pad := by
  intro hmem
  rw [isBlankText_iff.mp h.blank c hmem] at hc
  cases hc

theorem isBlankText_return : isBlankText ['\r'] = true := by decide

end Text

open Text (IsWord Break Padding)

namespace Fields

/-- A line that gives a field, **spaced** in any way. -/
inductive SpacedLine (field : Text × Text) : Text → Prop
  | padded {front before behind back : Text} (hfront : Padding front) (hbefore : Padding before)
      (hbehind : Padding behind) (hback : Padding back) :
      SpacedLine field (front ++ field.1 ++ before ++ ':' :: (behind ++ field.2 ++ back))

/-- Lines that give some fields, **spaced** in any way, with what may stand behind them. -/
inductive Spaced : Fields → Text → Prop
  /-- There is nothing more. -/
  | nothing : Spaced [] []
  /-- There is an empty line, and then anything. -/
  | ended (b : Break) (rest : Text) : Spaced [] (b.text ++ rest)
  /-- There is a last line that does not end. -/
  | last {field : Text × Text} {line : Text} (h : SpacedLine field line) : Spaced [field] line
  /-- There is a line with its ending. -/
  | next {field : Text × Text} {line rest : Text} {fields : Fields} (h : SpacedLine field line) (b : Break)
      (hrest : Spaced fields rest) : Spaced (field :: fields) (line ++ (b.text ++ rest))

variable {field : Text × Text} {fields : Fields} {line text : Text}

/-- A line **reads as** a field. -/
def ReadsAs (line : Text) (field : Text × Text) : Prop :=
  ∃ name value, Text.cutAt ':' line = some (name, value) ∧ (Text.trim name, Text.trim value) = field

/-- A line that reads as a field gives that field, before those of the lines that follow. -/
theorem ReadsAs.ofLines_cons (h : ReadsAs line field) (more : List Text) :
    ofLines (line :: more) = (ofLines more).map (field :: ·) := by
  obtain ⟨name, value, hcut, rfl⟩ := h
  rw [ofLines, hcut]
  · cases ofLines more <;> rfl
  · rintro rfl
    cases hcut

/-- A carriage return at the end of a line makes no difference to its field. -/
theorem ReadsAs.of_concat (h : ReadsAs (line ++ ['\r']) field) : ReadsAs line field := by
  obtain ⟨name, value, hcut, rfl⟩ := h
  obtain ⟨rest, rfl, hcut'⟩ := Text.cutAt_concat (by decide) hcut
  have htrim : Text.trim ([] ++ rest ++ ['\r']) = Text.trim rest :=
    Text.trim_padded rfl Text.isBlankText_return rest
  exact ⟨name, rest, hcut', congrArg (Text.trim name, ·) htrim.symm⟩

/-- A field reads as what it is, however it is spaced. -/
theorem SpacedLine.readsAs (h : SpacedLine field line) (hfield : Plain field) : ReadsAs line field := by
  cases h with
  | padded hfront hbefore hbehind hback =>
    refine ⟨_, _, Text.cutAt_append _ ?_, ?_⟩
    · simp [hfront.not_mem, hbefore.not_mem, hfield.noColon, (by decide : Text.isBlank ':' = false)]
    · rw [Text.trim_padded hfront.blank hbefore.blank, Text.trim_padded hbehind.blank hback.blank,
        hfield.trimmed_name.trim_eq, hfield.trimmed_value.trim_eq]

/-- However a plain field is spaced, it stays on one line. -/
theorem SpacedLine.noFeed (h : SpacedLine field line) (hfield : Plain field) : '\n' ∉ line := by
  cases h with
  | padded hfront hbefore hbehind hback =>
    simp [hfront.noFeed, hbefore.noFeed, hbehind.noFeed, hback.noFeed, hfield.noFeed_name,
      hfield.noFeed_value]

/-- A line that reads as a field is that field with some spacing. -/
theorem ReadsAs.spacedLine (h : ReadsAs line field) (hfeed : '\n' ∉ line) : SpacedLine field line := by
  obtain ⟨name, value, hcut, rfl⟩ := h
  obtain ⟨rfl, -⟩ := Text.cutAt_eq_some_iff.mp hcut
  obtain ⟨front, before, hfront, hbefore, hname⟩ := Text.exists_padded_trim name
  obtain ⟨behind, back, hbehind, hback, hvalue⟩ := Text.exists_padded_trim value
  have hfeeds : ∀ pad, pad = front ∨ pad = before ∨ pad = behind ∨ pad = back → '\n' ∉ pad := by
    intro pad hpad hmem
    rw [hname, hvalue] at hfeed
    rcases hpad with rfl | rfl | rfl | rfl <;> simp [hmem] at hfeed
  have hline : name ++ ':' :: value =
      front ++ Text.trim name ++ before ++ ':' :: (behind ++ Text.trim value ++ back) := by
    rw [← hname, ← hvalue]
  rw [hline]
  exact @SpacedLine.padded (Text.trim name, Text.trim value) _ _ _ _ ⟨hfront, hfeeds front (by simp)⟩
    ⟨hbefore, hfeeds before (by simp)⟩ ⟨hbehind, hfeeds behind (by simp)⟩ ⟨hback, hfeeds back (by simp)⟩

/-- Fields are read off their lines however these are spaced. -/
theorem Spaced.ofLines_eq (h : Spaced fields text) (hfields : fields.WellFormed) :
    ofLines (Text.lines text) = .ok fields := by
  induction h with
  | nothing => rfl
  | ended b rest =>
    rw [Text.lines_break]
    rfl
  | @last field line hline =>
    have hfield := hfields field List.mem_cons_self
    have hreads := hline.readsAs hfield
    have hne : line ≠ [] := by
      rintro rfl
      obtain ⟨name, value, hcut, -⟩ := hreads
      cases hcut
    rw [Text.lines_of_not_mem (hline.noFeed hfield) hne, hreads.ofLines_cons]
    rfl
  | @next field line rest fields hline b _ ih =>
    obtain ⟨hfield, hmore⟩ := List.forall_mem_cons.mp hfields
    -- A line that ends with a feed alone keeps the return in front of it, and is trimmed of it.
    obtain ⟨read, hlines, hread⟩ := Text.exists_lines_append_break (hline.noFeed hfield) b rest
    have hreads : ReadsAs read field := by
      rcases hread with rfl | rfl
      · exact hline.readsAs hfield
      · exact (hline.readsAs hfield).of_concat
    rw [hlines, hreads.ofLines_cons, ih hmore]
    rfl

/-- What fields are read off is their lines, spaced somehow. -/
theorem spaced_of_ofLines (h : ofLines (Text.lines text) = .ok fields) : Spaced fields text := by
  -- By induction on the lines that are read, not on the text: they are what `ofLines` recurses on.
  generalize hls : Text.lines text = ls at h
  induction ls generalizing text fields with
  | nil =>
    cases h
    rw [Text.lines_eq_nil_iff.mp hls]
    exact .nothing
  | cons line more ih =>
    have hfeed : '\n' ∉ line := Text.lf_not_mem_of_mem_lines (hls ▸ List.mem_cons_self)
    by_cases hempty : line = []
    · subst hempty
      cases h
      rcases Text.lines_eq_cons hls with ⟨b, rest, rfl, -⟩ | ⟨rfl, -⟩
      · exact .ended b rest
      · cases hls
    · cases hcut : Text.cutAt ':' line with
      | none =>
        rw [ofLines, hcut] at h
        · cases h
        · exact hempty
      | some parts =>
        have hreads : ReadsAs line (Text.trim parts.1, Text.trim parts.2) := ⟨_, _, hcut, rfl⟩
        have hline := hreads.spacedLine hfeed
        rw [hreads.ofLines_cons] at h
        cases hmore : ofLines more with
        | error defect =>
          rw [hmore] at h
          cases h
        | ok others =>
          rw [hmore] at h
          cases h
          rcases Text.lines_eq_cons hls with ⟨b, rest, rfl, hrest⟩ | ⟨rfl, rfl⟩
          · exact .next hline b (ih hrest hmore)
          · cases hmore
            exact .last hline

/-- Lines are fields exactly if there is a colon on each of them in front of the first empty one. -/
theorem exists_ofLines_eq_ok_iff {ls : List Text} :
    (∃ fields, ofLines ls = .ok fields) ↔ ∀ line ∈ ls.takeWhile (· ≠ []), ':' ∈ line := by
  fun_induction ofLines ls with
  | case1 | case2 => simp
  | case3 line more hne hcut =>
    have hcolon := Text.cutAt_eq_none_iff.mp hcut
    have hline : line ≠ [] := hne
    rw [List.takeWhile_cons_of_pos (by simpa using hline)]
    simp [hcolon]
  | case4 line more hne name value hcut ih =>
    have hcolon : ':' ∈ line := by
      rw [(Text.cutAt_eq_some_iff.mp hcut).1]
      exact List.mem_append_right _ List.mem_cons_self
    have hline : line ≠ [] := hne
    rw [List.takeWhile_cons_of_pos (by simpa using hline), List.forall_mem_cons, ← ih]
    cases ofLines more <;> simp [hcolon]

end Fields

namespace Amp

variable {p : Packet} {token line text : Text} {datagram : Bytes}

/-- The first line of a packet, **spaced** in any way and under any version. -/
inductive SpacedFirst (token : Text) : Text → Prop
  | padded {front other between back : Text} (hfront : Padding front) (hother : IsWord other)
      (hbetween : Padding between) (hsome : between ≠ []) (hback : Padding back) :
      SpacedFirst token (front ++ (other ++ (between ++ (token ++ back))))

/-- A packet, **spaced** in any way. -/
inductive Packet.Spaced (p : Packet) : Text → Prop
  /-- There is only a first line, and it does not end. -/
  | first {line : Text} (h : SpacedFirst p.code.token line) (hnone : p.fields = []) : Spaced p line
  /-- There is a first line with its ending, and something behind it. -/
  | lines {line rest : Text} (h : SpacedFirst p.code.token line) (b : Break) (hrest : p.fields.Spaced rest) :
      Spaced p (line ++ (b.text ++ rest))

/-- A first line, however it is spaced, has two words, the second of which is the token. -/
theorem SpacedFirst.exists_words (h : SpacedFirst token line) (htoken : IsWord token) :
    ∃ other, Text.words line = [other, token] := by
  cases h with
  | @padded front other between back hfront hother hbetween hsome hback =>
    exact ⟨other, Text.words_eq_pair_iff.mpr ⟨front, between, back, hfront.blank, hbetween.blank, hsome,
      hback.blank, hother, htoken, rfl⟩⟩

/-- However a first line is spaced, it is one line. -/
theorem SpacedFirst.noFeed (h : SpacedFirst token line) (htoken : IsWord token) : '\n' ∉ line := by
  have hword {word : Text} (hword : IsWord word) : '\n' ∉ word := fun hmem =>
    absurd (hword.2 _ hmem) (by decide)
  cases h with
  | padded hfront hother hbetween _ hback =>
    simp [hfront.noFeed, hbetween.noFeed, hback.noFeed, hword hother, hword htoken]

/-- A line of two words is a first line with some spacing, whatever its first word. -/
theorem spacedFirst_of_words {other : Text} (h : Text.words line = [other, token]) (hfeed : '\n' ∉ line) :
    SpacedFirst token line := by
  obtain ⟨front, between, back, hfront, hbetween, hsome, hback, hother, -, rfl⟩ :=
    Text.words_eq_pair_iff.mp h
  simp only [List.mem_append, not_or] at hfeed
  obtain ⟨hfront', -, hbetween', -, hback'⟩ := hfeed
  exact .padded ⟨hfront, hfront'⟩ hother ⟨hbetween, hbetween'⟩ hsome ⟨hback, hback'⟩

/-- A code keeps the token it was read from. -/
theorem Code.token_ofToken (token : Text) : (Code.ofToken token).token = token := by
  unfold Code.ofToken
  cases hfind : Code.known.find? (fun code => code.token = token) with
  | none => rfl
  | some code =>
    have htoken := List.find?_some hfind
    exact of_decide_eq_true htoken

namespace Packet

/-- A well-formed packet is read however it is spaced. -/
theorem Spaced.ofText_eq (h : p.Spaced text) (hp : p.WellFormed) : ofText text = .ok p := by
  have htoken := hp.code.isWord
  obtain ⟨first, rest, hlines, hfirst, hfields⟩ : ∃ first rest, Text.lines text = first :: rest ∧
      (∃ other, Text.words first = [other, p.code.token]) ∧ Fields.ofLines rest = .ok p.fields := by
    cases h with
    | first hfirst hnone =>
      obtain ⟨other, hwords⟩ := hfirst.exists_words htoken
      have hne : text ≠ [] := by
        rintro rfl
        cases hwords
      exact ⟨text, [], Text.lines_of_not_mem (hfirst.noFeed htoken) hne, ⟨other, hwords⟩, by rw [hnone]; rfl⟩
    | @lines line rest hfirst b hrest =>
      obtain ⟨other, hwords⟩ := hfirst.exists_words htoken
      obtain ⟨read, hlines, hread⟩ := Text.exists_lines_append_break (hfirst.noFeed htoken) b rest
      refine ⟨read, Text.lines rest, hlines, ⟨other, ?_⟩, hrest.ofLines_eq hp.fields⟩
      rcases hread with rfl | rfl
      · exact hwords
      · rwa [Text.words_append_right Text.isBlankText_return] at hwords
  obtain ⟨other, hwords⟩ := hfirst
  exact ofText_eq_ok_iff.mpr ⟨first, rest, other, p.code.token, p.fields, hlines, hwords, hfields,
    by rw [hp.code.ofToken_token]⟩

/-- What a packet is read off is the packet, spaced somehow. -/
theorem spaced_of_ofText (h : ofText text = .ok p) : p.Spaced text := by
  obtain ⟨first, rest, other, token, fields, hlines, hwords, hfields, rfl⟩ := ofText_eq_ok_iff.mp h
  have hfeed : '\n' ∉ first := Text.lf_not_mem_of_mem_lines (hlines ▸ List.mem_cons_self)
  have hfirst := spacedFirst_of_words hwords hfeed
  rw [← Code.token_ofToken token] at hfirst
  rcases Text.lines_eq_cons hlines with ⟨b, behind, rfl, rfl⟩ | ⟨rfl, rfl⟩
  · exact .lines hfirst b (Fields.spaced_of_ofLines hfields)
  · cases hfields
    exact .first hfirst rfl

/-- A datagram parses to a packet exactly if it is text and the text does. -/
theorem parse_eq_ok_iff : parse datagram = .ok p ↔ ∃ text, Text.ofBytes? datagram = some text ∧
    ofText text = .ok p := by
  unfold parse
  cases Text.ofBytes? datagram <;> simp

/-- A text is some packet exactly if there are two words on its first line, and a colon on every
other in front of an empty one. -/
theorem exists_ofText_eq_ok_iff : (∃ p, ofText text = .ok p) ↔
    ∃ first rest, Text.lines text = first :: rest ∧ (Text.words first).length = 2 ∧
      ∀ line ∈ rest.takeWhile (· ≠ []), ':' ∈ line := by
  constructor
  · rintro ⟨p, h⟩
    obtain ⟨first, rest, other, token, fields, hlines, hwords, hfields, -⟩ := ofText_eq_ok_iff.mp h
    exact ⟨first, rest, hlines, by rw [hwords]; rfl, Fields.exists_ofLines_eq_ok_iff.mp ⟨fields, hfields⟩⟩
  · rintro ⟨first, rest, hlines, htwo, hcolons⟩
    obtain ⟨other, token, hwords⟩ := List.length_eq_two.mp htwo
    obtain ⟨fields, hfields⟩ := Fields.exists_ofLines_eq_ok_iff.mpr hcolons
    exact ⟨_, ofText_eq_ok_iff.mpr ⟨first, rest, other, token, fields, hlines, hwords, hfields, rfl⟩⟩

/-- **Packets are read however they are spaced, and nothing else is read.** A datagram is read as a
packet exactly if the packet is well formed and the datagram is that packet, spaced in some way. It
is read at all exactly if it is UTF-8, has two words on its first line, and has a colon on every
line behind that, up to the first empty line or the end. -/
theorem parse_eq_ok_iff_spaced :
    (∀ (p : Packet) (datagram : Bytes), parse datagram = .ok p ↔
      p.WellFormed ∧ ∃ text, datagram = Text.toBytes text ∧ p.Spaced text) ∧
    ∀ datagram : Bytes, (∃ p, parse datagram = .ok p) ↔
      ∃ text first rest, Text.ofBytes? datagram = some text ∧ Text.lines text = first :: rest ∧
        (Text.words first).length = 2 ∧ ∀ line ∈ rest.takeWhile (· ≠ []), ':' ∈ line := by
  constructor
  · intro p datagram
    constructor
    · intro h
      obtain ⟨text, htext, hread⟩ := parse_eq_ok_iff.mp h
      exact ⟨wellFormed_of_ofText hread, text, (Text.ofBytes?_eq_some_iff.mp htext).symm,
        spaced_of_ofText hread⟩
    · rintro ⟨hp, text, rfl, hspaced⟩
      exact parse_eq_ok_iff.mpr ⟨text, Text.ofBytes?_toBytes text, hspaced.ofText_eq hp⟩
  · intro datagram
    simp only [parse_eq_ok_iff, @exists_comm Packet, exists_and_left, exists_ofText_eq_ok_iff]

/-- The odd packet under another version, with white space of many kinds around its words, its names
and its values. Its lines end each in their own way, and the last, which says nothing, does not end.
-/
def rewindSpaced : Text := "\rAMP/9\x0b\r\u00a0REWIND\x0c\r\nX Note\u2003:\t a: b\rc \n\r:\r".toList

theorem spaced_rewindSpaced : rewind.Spaced rewindSpaced := by
  have hfirst : SpacedFirst rewind.code.token "\rAMP/9\x0b\r\u00a0REWIND\x0c".toList :=
    @SpacedFirst.padded _ ['\r'] "AMP/9".toList "\x0b\r\u00a0".toList ['\x0c'] (by decide) (by decide)
      (by decide) (by decide) (by decide)
  have hnote : Fields.SpacedLine ("X Note".toList, "a: b\rc".toList) "X Note\u2003:\t a: b\rc ".toList :=
    @Fields.SpacedLine.padded ("X Note".toList, "a: b\rc".toList) [] ['\u2003'] "\t ".toList [' ']
      (by decide) (by decide) (by decide) (by decide)
  have hnothing : Fields.SpacedLine ([], []) "\r:\r".toList :=
    @Fields.SpacedLine.padded ([], []) ['\r'] [] [] ['\r'] (by decide) (by decide) (by decide) (by decide)
  exact .lines hfirst .crlf (.next hnote .lf (.last hnothing))

/-- Spaced so oddly, the odd packet is read as it is. -/
theorem parse_rewindSpaced : rewind.WellFormed ∧ rewind.Spaced rewindSpaced ∧
    parse (Text.toBytes rewindSpaced) = .ok rewind := by
  have hwell : rewind.WellFormed := by decide
  exact ⟨hwell, spaced_rewindSpaced,
    (parse_eq_ok_iff_spaced.1 rewind (Text.toBytes rewindSpaced)).mpr
      ⟨hwell, rewindSpaced, rfl, spaced_rewindSpaced⟩⟩

end Packet

end Amp

end MediaProxy
