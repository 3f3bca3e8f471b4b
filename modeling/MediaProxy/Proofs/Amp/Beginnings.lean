import MediaProxy.Proofs.Amp.Wire

/-!
# Packets that break off

Reading is wider than writing: the empty line at the end may be missing, and so may the end of the
line before it. So most beginnings of a packet are packets themselves, and not always its own. This
module says which (`Packet.leaves_iff`). As long as the text breaks off within the first line, the
code is what there is of it. Behind that, the fields stay whose lines are whole, and of a field that
is cut whatever there is of its value, as soon as its colon is there.

The beginnings that are no packets are those that end in front of the code, within the name of a
field, or right behind the carriage return of the empty line.
-/

namespace MediaProxy

open Text (IsWord)

namespace Fields

/-- What the lines of some fields **leave** of them when their text breaks off. -/
inductive Leaves : Fields → Text → Fields → Prop
  /-- There is nothing of a line. -/
  | none (fields : Fields) : Leaves fields [] []
  /-- There is a colon, and some of what follows it. -/
  | cut {field : Text × Text} {part : Text} (fields : Fields) (h : part <+: ' ' :: field.2 ++ ['\r']) :
      Leaves (field :: fields) (field.1 ++ ':' :: part) [(field.1, Text.trim part)]
  /-- There is a whole line. -/
  | next {field : Text × Text} {fields kept : Fields} {text : Text} (h : Leaves fields text kept) :
      Leaves (field :: fields) (line field ++ (Text.crlf ++ text)) (field :: kept)
  /-- There is everything. -/
  | all : Leaves [] Text.crlf []

variable {field : Text × Text} {fields kept : Fields} {t : Text}

theorem render_cons_append (field : Text × Text) (fields : Fields) (rest : Text) :
    render (field :: fields) ++ rest = line field ++ (Text.crlf ++ (render fields ++ rest)) := by
  simp [render]

/-- A line that is cut reads as its field once its colon is there, with what there is of the value.
-/
theorem Plain.ofLines_cut_iff (h : Plain field) (hne : t ≠ []) (ht : t <+: line field ++ ['\r']) :
    ofLines [t] = .ok kept ↔
      ∃ part, part <+: ' ' :: field.2 ++ ['\r'] ∧ t = field.1 ++ ':' :: part ∧
        kept = [(field.1, Text.trim part)] := by
  have hline : line field ++ ['\r'] = field.1 ++ ':' :: (' ' :: field.2 ++ ['\r']) := by
    simp [line_eq]
  have hread : ∀ part, t = field.1 ++ ':' :: part →
      ofLines [t] = .ok [(field.1, Text.trim part)] := by
    rintro part rfl
    rw [ofLines, Text.cutAt_append part h.noColon]
    · simp only [h.trimmed_name.trim_eq]
      rfl
    · exact hne
  constructor
  · intro hkept
    cases hcut : Text.cutAt ':' t with
    | none =>
      rw [ofLines, hcut] at hkept
      · cases hkept
      · exact hne
    | some sides =>
      -- A beginning has the same in front of its first colon as the line.
      obtain ⟨name, part⟩ := sides
      obtain ⟨rfl, hname⟩ := Text.cutAt_eq_some_iff.mp hcut
      obtain ⟨rest, hrest⟩ := ht
      have hsides : some (name, part ++ rest) = some (field.1, ' ' :: field.2 ++ ['\r']) := by
        rw [← Text.cutAt_append _ hname, ← Text.cutAt_append _ h.noColon, ← hline, ← hrest]
        simp
      obtain ⟨rfl, hpart⟩ := Prod.mk.inj (Option.some.inj hsides)
      refine ⟨part, ⟨rest, hpart⟩, rfl, ?_⟩
      exact Except.ok.inj (hkept.symm.trans (hread part rfl))
  · rintro ⟨part, -, rfl, rfl⟩
    exact hread part rfl

/-- What fields leave behind is what is read off a beginning of their lines. -/
theorem WellFormed.leaves_iff (h : fields.WellFormed) :
    fields.Leaves t kept ↔ t <+: fields.render ++ Text.crlf ∧ ofLines (Text.lines t) = .ok kept := by
  constructor
  · intro hleaves
    induction hleaves with
    | none fields =>
      constructor
      · exact List.nil_prefix
      · rfl
    | @cut field part fields hpart =>
      have hfield := h field List.mem_cons_self
      have hbegin : field.1 ++ ':' :: part <+: line field ++ ['\r'] := by
        rw [line_eq]
        simpa using hpart
      have hne : field.1 ++ ':' :: part ≠ [] := by simp
      rw [render_cons_append, Text.isPrefix_line_append_iff,
        Text.lines_of_not_mem (hfield.isLine.lf_not_mem_of_isPrefix hbegin) hne]
      exact ⟨.inl hbegin, (hfield.ofLines_cut_iff hne hbegin).mpr ⟨part, hpart, rfl, rfl⟩⟩
    | @next field fields kept text _ ih =>
      have hfield := h field List.mem_cons_self
      obtain ⟨hbegin, hread⟩ := ih fun f hf => h f (List.mem_cons_of_mem field hf)
      rw [render_cons_append, Text.isPrefix_line_append_iff]
      refine ⟨.inr ⟨text, rfl, hbegin⟩, ?_⟩
      rw [hfield.isLine.lines_crlf, hfield.ofLines_cons, hread]
      rfl
    | all => exact ⟨List.prefix_rfl, rfl⟩
  · rintro ⟨hbegin, hread⟩
    induction fields generalizing t kept with
    | nil =>
      rcases List.prefix_cons_iff.mp hbegin with rfl | ⟨u, rfl, hu⟩
      · obtain rfl := Except.ok.inj hread
        exact .none []
      · rcases List.prefix_cons_iff.mp hu with rfl | ⟨v, rfl, hv⟩
        · cases hread
        · obtain rfl := List.prefix_nil.mp hv
          obtain rfl := Except.ok.inj hread
          exact .all
    | cons field fields ih =>
      have hfield := h field List.mem_cons_self
      rw [render_cons_append, Text.isPrefix_line_append_iff] at hbegin
      rcases hbegin with hcut | ⟨u, rfl, hu⟩
      · by_cases hne : t = []
        · subst hne
          obtain rfl := Except.ok.inj hread
          exact .none _
        · rw [Text.lines_of_not_mem (hfield.isLine.lf_not_mem_of_isPrefix hcut) hne] at hread
          obtain ⟨part, hpart, rfl, rfl⟩ := (hfield.ofLines_cut_iff hne hcut).mp hread
          exact .cut fields hpart
      · rw [hfield.isLine.lines_crlf, hfield.ofLines_cons] at hread
        cases hrest : ofLines (Text.lines u) with
        | error defect =>
          rw [hrest] at hread
          cases hread
        | ok rest =>
          rw [hrest] at hread
          obtain rfl := Except.ok.inj hread
          exact .next (ih (fun f hf => h f (List.mem_cons_of_mem field hf)) hu hrest)

end Fields

namespace Amp.Packet

/-- What a packet **leaves** of itself when its text breaks off. -/
inductive Leaves (p : Packet) : Text → Packet → Prop
  /-- There is some of the code. -/
  | code {token : Text} (h : token <+: p.code.token) (hne : token ≠ []) :
      Leaves p (version ++ ' ' :: token) ⟨Code.ofToken token, []⟩
  /-- There is the first line with half of its ending. -/
  | first : Leaves p (p.startLine ++ ['\r']) ⟨p.code, []⟩
  /-- There is the first line, and some of the fields. -/
  | fields {text : Text} {kept : Fields} (h : p.fields.Leaves text kept) :
      Leaves p (p.startLine ++ (Text.crlf ++ text)) ⟨p.code, kept⟩

variable {p q : Packet} {t : Text}

theorem render_eq_append (p : Packet) :
    p.render = p.startLine ++ (Text.crlf ++ (p.fields.render ++ Text.crlf)) := by
  simp [render, startLine]

/-- The version is a word of its own in front of whatever follows a space. -/
theorem words_version_append (t : Text) : Text.words (version ++ ' ' :: t) = version :: Text.words t := by
  rw [Text.words_append_cons (by decide), IsWord.words_eq (by decide)]
  rfl

/-- The carriage return that ends a line is no part of the code in front of it. -/
theorem words_ended {code : Text} (h : IsWord code) : Text.words (code ++ ['\r']) = [code] := by
  rw [Text.words_append_right (by decide), h.words_eq]

/-- A first line that is cut has two words only if there is some of the code, and the second of them
is what there is. -/
theorem of_words_first {code other token : Text} (hcode : IsWord code)
    (ht : t <+: version ++ ' ' :: (code ++ ['\r'])) (hwords : Text.words t = [other, token]) :
    (token <+: code ∧ token ≠ [] ∧ t = version ++ ' ' :: token) ∨
      (token = code ∧ t = version ++ ' ' :: (code ++ ['\r'])) := by
  have hversion : IsWord version := by decide
  rcases Text.isPrefix_append_iff.mp ht with hshort | ⟨u, rfl, hu⟩
  · by_cases hne : t = []
    · subst hne
      cases hwords
    · rw [(hversion.of_isPrefix hshort hne).words_eq] at hwords
      cases hwords
  · rcases List.prefix_cons_iff.mp hu with rfl | ⟨v, rfl, hv⟩
    · rw [List.append_nil, hversion.words_eq] at hwords
      cases hwords
    · rw [words_version_append] at hwords
      rcases List.prefix_concat_iff.mp hv with rfl | hv
      · rw [words_ended hcode] at hwords
        cases hwords
        exact .inr ⟨rfl, rfl⟩
      · by_cases hne : v = []
        · subst hne
          cases hwords
        · rw [(hcode.of_isPrefix hv hne).words_eq] at hwords
          cases hwords
          exact .inl ⟨hv, hne, rfl⟩

/-- A first line that is cut is a packet without fields as soon as there is some of the code. -/
theorem ofText_cut_iff (h : p.code.WellFormed) (ht : t <+: p.startLine ++ ['\r']) :
    ofText t = .ok q ↔
      (∃ token, token <+: p.code.token ∧ token ≠ [] ∧ t = version ++ ' ' :: token ∧
        q = ⟨Code.ofToken token, []⟩) ∨
      (t = p.startLine ++ ['\r'] ∧ q = ⟨p.code, []⟩) := by
  have hcode := h.isWord
  have hline : p.startLine ++ ['\r'] = version ++ ' ' :: (p.code.token ++ ['\r']) := by simp [startLine]
  have hfeed := (isLine_first hcode).lf_not_mem_of_isPrefix ht
  have hread : ∀ token, Text.words t = [version, token] → ofText t = .ok ⟨Code.ofToken token, []⟩ := by
    intro token hwords
    have hne : t ≠ [] := by
      rintro rfl
      cases hwords
    exact ofText_eq_ok_iff.mpr
      ⟨t, [], version, token, [], Text.lines_of_not_mem hfeed hne, hwords, rfl, rfl⟩
  -- No line feed is in `t`, so it is one line, and the words of that line decide.
  constructor
  · intro hok
    obtain ⟨first, rest, other, token, fields, hlines, hwords, hfields, rfl⟩ := ofText_eq_ok_iff.mp hok
    have hne : t ≠ [] := by
      rintro rfl
      cases hlines
    rw [Text.lines_of_not_mem hfeed hne] at hlines
    cases hlines
    cases hfields
    rcases of_words_first hcode (hline ▸ ht) hwords with ⟨htoken, hsome, rfl⟩ | ⟨rfl, rfl⟩
    · exact .inl ⟨token, htoken, hsome, rfl, rfl⟩
    · exact .inr ⟨hline.symm, by rw [h.ofToken_token]⟩
  · rintro (⟨token, htoken, hne, rfl, rfl⟩ | ⟨rfl, rfl⟩)
    · apply hread
      rw [words_version_append, (hcode.of_isPrefix htoken hne).words_eq]
    · rw [← h.ofToken_token]
      apply hread
      rw [hline, words_version_append, words_ended hcode]

/-- Behind its first line a packet is what its fields are. -/
theorem ofText_startLine_iff (h : p.code.WellFormed) :
    ofText (p.startLine ++ (Text.crlf ++ t)) = .ok q ↔
      ∃ kept, Fields.ofLines (Text.lines t) = .ok kept ∧ q = ⟨p.code, kept⟩ := by
  have hlines := (isLine_first h.isWord).lines_crlf t
  have hwords : Text.words p.startLine = [version, p.code.token] :=
    Text.words_pair (by decide) (by decide) h.isWord
  rw [ofText_eq_ok_iff]
  constructor
  · rintro ⟨first, rest, other, token, kept, hall, htwo, hkept, rfl⟩
    obtain ⟨rfl, rfl⟩ := List.cons.inj (hlines.symm.trans hall)
    obtain ⟨-, htoken⟩ := List.cons.inj (hwords.symm.trans htwo)
    obtain rfl := List.head_eq_of_cons_eq htoken
    exact ⟨kept, hkept, by rw [h.ofToken_token]⟩
  · rintro ⟨kept, hkept, rfl⟩
    exact ⟨_, _, _, _, kept, hlines, hwords, hkept, by rw [h.ofToken_token]⟩

/-- What a packet **leaves behind** is what is read off a beginning of its text. -/
theorem WellFormed.leaves_iff (h : p.WellFormed) :
    p.Leaves t q ↔ t <+: p.render ∧ ofText t = .ok q := by
  rw [render_eq_append, Text.isPrefix_line_append_iff]
  constructor
  · intro hleaves
    cases hleaves with
    | @code token htoken hne =>
      have hbegin : version ++ ' ' :: token <+: p.startLine ++ ['\r'] := by
        rw [startLine, List.append_assoc, List.cons_append]
        simpa using htoken.trans (List.prefix_append _ _)
      exact ⟨.inl hbegin, (ofText_cut_iff h.code hbegin).mpr (.inl ⟨token, htoken, hne, rfl, rfl⟩)⟩
    | first =>
      exact ⟨.inl List.prefix_rfl, (ofText_cut_iff h.code List.prefix_rfl).mpr (.inr ⟨rfl, rfl⟩)⟩
    | @fields text kept hkept =>
      obtain ⟨hbegin, hread⟩ := h.fields.leaves_iff.mp hkept
      exact ⟨.inr ⟨text, rfl, hbegin⟩, (ofText_startLine_iff h.code).mpr ⟨kept, hread, rfl⟩⟩
  · rintro ⟨hcut | ⟨u, rfl, hu⟩, hread⟩
    · rcases (ofText_cut_iff h.code hcut).mp hread with ⟨token, htoken, hne, rfl, rfl⟩ | ⟨rfl, rfl⟩
      · exact .code htoken hne
      · exact .first
    · obtain ⟨kept, hkept, rfl⟩ := (ofText_startLine_iff h.code).mp hread
      exact .fields (h.fields.leaves_iff.mpr ⟨hu, hkept⟩)

end Amp.Packet

end MediaProxy
