import MediaProxy.Proofs.Text.Trimming
import MediaProxy.Text.Lines

/-!
# Lines written and read

Peers may end a line with a carriage return and a line feed or with a line feed alone, and need not
keep to one of the two (`Break`). Reading does not tell them apart: lines that are written with any
mixture of endings are the lines that are read (`lines_writeLines`). What a line must not do for
that is hold a line feed or end in a carriage return of its own (`IsLine`). Conversely a text is put
together from the lines that are read and an ending behind each of them but the last
(`lines_eq_cons`).
-/

namespace MediaProxy.Text

/-- How a line **ends**. -/
inductive Break where
  /-- A line feed alone. -/
  | lf
  /-- A carriage return and a line feed. -/
  | crlf
  deriving DecidableEq, Repr

def Break.text : Break → Text
  | .lf => ['\n']
  | .crlf => Text.crlf

/-- Lines as they are written, the endings by number of line. -/
def writeLines (ends : Nat → Break) : List Text → Text
  | [] => []
  | line :: more => line ++ (ends 0).text ++ writeLines (fun n => ends (n + 1)) more

/-- A text that is a **line**, whatever ends it. -/
structure IsLine (t : Text) : Prop where
  noFeed : '\n' ∉ t
  noReturn : t.getLast? ≠ some '\r'

section Reading

variable {t line : Text} {more : List Text}

theorem isLine_nil : IsLine [] := ⟨List.not_mem_nil, nofun⟩

/-- A text without line feeds and carriage returns is one line. -/
theorem isLine_of_not_mem (hfeed : '\n' ∉ t) (hreturn : '\r' ∉ t) : IsLine t :=
  ⟨hfeed, fun hlast => hreturn (List.mem_of_getLast? hlast)⟩

/-- A trimmed text ends in no carriage return, so it may stand last on a line. -/
theorem isLine_append_cons {front : Text} {c : Char} (hfront : '\n' ∉ front) (hc : c ≠ '\n' ∧ c ≠ '\r')
    (ht : '\n' ∉ t) (htrimmed : Trimmed t) : IsLine (front ++ c :: t) := by
  constructor
  · simp [hfront, ht, Ne.symm hc.1]
  · intro hlast
    rw [List.getLast?_append, List.getLast?_cons] at hlast
    cases hend : t.getLast? with
    | none =>
      rw [hend] at hlast
      exact hc.2 (Option.some.inj hlast)
    | some d =>
      rw [hend] at hlast
      obtain rfl : d = '\r' := Option.some.inj hlast
      exact absurd (htrimmed.2 _ hend) (by decide)

/-- A line ending is blank. -/
theorem isBlankText_break (b : Break) : isBlankText b.text = true := by cases b <;> rfl

/-- A line ending at the beginning ends an empty line. -/
theorem lines_break (b : Break) (rest : Text) : lines (b.text ++ rest) = [] :: lines rest := by
  cases b <;> rfl

/-- A character that ends no line stands in front of the first line of the rest. -/
theorem lines_cons {c : Char} (hc : c ≠ '\n') (hr : c = '\r' → t.head? ≠ some '\n')
    (h : lines t = line :: lines rest) : lines (c :: t) = (c :: line) :: lines rest := by
  rw [lines, h]
  · rintro more rfl rfl
    exact hr rfl rfl
  · rintro rfl
    exact hc rfl

/-- A text without line feeds is the first line that is read, up to its ending. Only a carriage
return in front of a bare line feed would belong to that. -/
theorem lines_append_break {b : Break} (hfeed : '\n' ∉ line) (hreturn : b = .lf → line.getLast? ≠ some '\r')
    (rest : Text) : lines (line ++ (b.text ++ rest)) = line :: lines rest := by
  induction line with
  | nil => exact lines_break b rest
  | cons c line ih =>
    obtain ⟨hc, hline⟩ := not_or.mp (List.mem_cons.not.mp hfeed)
    refine lines_cons (Ne.symm hc) ?_ (ih hline fun hb hlast => hreturn hb ?_)
    · rintro rfl hfirst
      cases line with
      | nil =>
        cases b with
        | lf => exact hreturn rfl rfl
        | crlf => cases hfirst
      | cons d line => exact hline (Option.some.inj hfirst ▸ List.mem_cons_self)
    · rw [List.getLast?_cons, hlast]
      rfl

/-- What is read of a text without line feeds in front of a line ending: all of it, or all but a
carriage return at its end. -/
theorem exists_lines_append_break (hfeed : '\n' ∉ line) (b : Break) (rest : Text) :
    ∃ read, lines (line ++ (b.text ++ rest)) = read :: lines rest ∧
      (line = read ∨ line = read ++ ['\r']) := by
  by_cases hreturn : b = .lf → line.getLast? ≠ some '\r'
  · exact ⟨line, lines_append_break hfeed hreturn rest, .inl rfl⟩
  · obtain ⟨rfl, hlast⟩ := Classical.not_imp.mp hreturn
    obtain ⟨read, rfl⟩ : ∃ read, line = read ++ ['\r'] := List.getLast?_eq_some_iff.mp (not_not.mp hlast)
    have hread : '\n' ∉ read := fun hmem => hfeed (List.mem_append_left _ hmem)
    have hlines := lines_append_break (b := .crlf) hread nofun rest
    refine ⟨read, ?_, .inr rfl⟩
    rw [← hlines]
    simp [Break.text, crlf]

/-- A line with its ending is the first that is read. -/
theorem IsLine.lines_append (h : IsLine line) (b : Break) (rest : Text) :
    lines (line ++ (b.text ++ rest)) = line :: lines rest :=
  lines_append_break h.noFeed (fun _ => h.noReturn) rest

/-- A line with its ending is the first of the lines. -/
theorem IsLine.lines_crlf (h : IsLine line) (rest : Text) :
    lines (line ++ (crlf ++ rest)) = line :: lines rest :=
  h.lines_append .crlf rest

/-- **Lines read as they were written**, however each of them ends. -/
theorem lines_writeLines {ls : List Text} (h : ∀ line ∈ ls, IsLine line) (ends : Nat → Break) :
    lines (writeLines ends ls) = ls := by
  induction ls generalizing ends with
  | nil => rfl
  | cons line ls ih =>
    rw [writeLines, List.append_assoc, (h line List.mem_cons_self).lines_append,
      ih fun l hl => h l (List.mem_cons_of_mem line hl)]

/-- What no line feed closes is one line, carriage return and all. -/
theorem lines_of_not_mem (h : '\n' ∉ t) (hne : t ≠ []) : lines t = [t] := by
  induction t with
  | nil => exact absurd rfl hne
  | cons c t ih =>
    obtain ⟨hc, ht⟩ := not_or.mp (List.mem_cons.not.mp h)
    cases t with
    | nil =>
      rw [lines, lines]
      · exact fun _ hcr => nofun
      · exact fun hlf => hc hlf.symm
    | cons d t =>
      rw [lines, ih ht (List.cons_ne_nil d t)]
      · rintro rest - heq
        exact ht (heq ▸ List.mem_cons_self)
      · exact fun hlf => hc hlf.symm

/-- Only the empty text has no lines. -/
theorem lines_eq_nil_iff : lines t = [] ↔ t = [] := by
  constructor
  · intro h
    unfold lines at h
    split at h
    · rfl
    · cases h
    · cases h
    · split at h <;> cases h
  · rintro rfl
    rfl

/-- The first line of a text is all there is of the text, or an ending stands behind it. -/
theorem lines_eq_cons (h : lines t = line :: more) :
    (∃ (b : Break) (rest : Text), t = line ++ (b.text ++ rest) ∧ lines rest = more) ∨ t = line ∧ more = [] := by
  fun_induction lines t generalizing line more with
  | case1 => cases h
  | case2 rest _ =>
    cases h
    exact .inl ⟨.crlf, rest, rfl, rfl⟩
  | case3 rest _ =>
    cases h
    exact .inl ⟨.lf, rest, rfl, rfl⟩
  -- The last line has nothing to end it.
  | case4 c rest _ _ hnone _ =>
    cases h
    exact .inr ⟨congrArg (c :: ·) (lines_eq_nil_iff.mp hnone), rfl⟩
  | case5 c rest _ _ first others hrest ih =>
    cases h
    rcases ih hrest with ⟨b, behind, rfl, hbehind⟩ | ⟨rfl, hnone⟩
    · exact .inl ⟨b, behind, rfl, hbehind⟩
    · exact .inr ⟨rfl, hnone⟩

/-- A beginning of one text behind another ends within the first of them or goes on into the second.
-/
theorem isPrefix_append_iff {front back : Text} :
    t <+: front ++ back ↔ t <+: front ∨ ∃ u, t = front ++ u ∧ u <+: back := by
  constructor
  · intro h
    rcases List.prefix_or_prefix_of_prefix h (List.prefix_append _ _) with hshort | ⟨u, rfl⟩
    · exact .inl hshort
    · exact .inr ⟨u, rfl, (List.prefix_append_right_inj front).mp h⟩
  · rintro (h | ⟨u, rfl, hu⟩)
    · exact h.trans (List.prefix_append _ _)
    · exact (List.prefix_append_right_inj front).mpr hu

/-- A beginning of a line and what follows it ends in front of the line feed or goes on behind it.
-/
theorem isPrefix_line_append_iff {rest : Text} :
    t <+: line ++ (crlf ++ rest) ↔ t <+: line ++ ['\r'] ∨ ∃ u, t = line ++ (crlf ++ u) ∧ u <+: rest := by
  have hsplit : ∀ u : Text, line ++ (crlf ++ u) = line ++ ['\r'] ++ '\n' :: u := by simp [crlf]
  simp only [hsplit]
  rw [isPrefix_append_iff]
  constructor
  · rintro (h | ⟨u, rfl, hu⟩)
    · exact .inl h
    · rcases List.prefix_cons_iff.mp hu with rfl | ⟨v, rfl, hv⟩
      · exact .inl (by simp)
      · exact .inr ⟨v, rfl, hv⟩
  · rintro (h | ⟨u, rfl, hu⟩)
    · exact .inl h
    · exact .inr ⟨'\n' :: u, rfl, List.cons_prefix_cons.mpr ⟨rfl, hu⟩⟩

/-- A beginning of a line holds no line feed, however much of the ending is there. -/
theorem IsLine.lf_not_mem_of_isPrefix (h : IsLine line) (ht : t <+: line ++ ['\r']) : '\n' ∉ t := by
  intro hmem
  rcases List.mem_append.mp (ht.mem hmem) with hline | hreturn
  · exact h.noFeed hline
  · exact absurd hreturn (by decide)

/-- There is no line feed within a line. -/
theorem lf_not_mem_of_mem_lines (h : line ∈ lines t) : '\n' ∉ line := by
  fun_induction lines t generalizing line with
  | case1 => cases h
  | case2 rest ih | case3 rest ih =>
    rcases List.mem_cons.mp h with rfl | h
    · exact List.not_mem_nil
    · exact ih h
  | case4 c rest _ hc =>
    rw [List.mem_singleton.mp h, List.mem_singleton]
    exact fun hlf => hc hlf.symm
  | case5 c rest _ hc first more hrest ih =>
    rw [hrest] at ih
    rcases List.mem_cons.mp h with rfl | h
    · exact List.not_mem_cons_of_ne_of_not_mem (fun hlf => hc hlf.symm) (ih List.mem_cons_self)
    · exact ih (List.mem_cons_of_mem first h)

end Reading

end MediaProxy.Text
