import MediaProxy.Header
import MediaProxy.Proofs.Text.Lines

/-!
# Header fields written and read

A field can be carried by a header line when nothing of it can be mistaken for the line around it
(`Plain`): no white space at the ends of its name and value, no colon in its name, no line feed.
Such fields read as they were written (`ofLines_lines`), and the fields that are read are never
others (`wellFormed_of_ofLines`).
-/

namespace MediaProxy.Fields

open Text (Trimmed IsLine)

/-- A **field that a line can carry**. -/
structure Plain (field : Text × Text) : Prop where
  trimmed_name : Trimmed field.1
  trimmed_value : Trimmed field.2
  noColon : ':' ∉ field.1
  noFeed_name : '\n' ∉ field.1
  noFeed_value : '\n' ∉ field.2

instance (field : Text × Text) : Decidable (Plain field) :=
  decidable_of_iff
    (Trimmed field.1 ∧ Trimmed field.2 ∧ ':' ∉ field.1 ∧ '\n' ∉ field.1 ∧ '\n' ∉ field.2)
    ⟨fun ⟨h₁, h₂, h₃, h₄, h₅⟩ => ⟨h₁, h₂, h₃, h₄, h₅⟩, fun ⟨h₁, h₂, h₃, h₄, h₅⟩ => ⟨h₁, h₂, h₃, h₄, h₅⟩⟩

/-- Fields that lines can carry. -/
def WellFormed (fields : Fields) : Prop := ∀ field ∈ fields, Plain field

instance (fields : Fields) : Decidable fields.WellFormed := inferInstanceAs (Decidable (∀ _ ∈ _, _))

variable {field : Text × Text} {fields : Fields}

theorem line_eq (field : Text × Text) : line field = field.1 ++ ':' :: ' ' :: field.2 := by
  simp [line]

/-- The line of a field is never empty, so it does not end the fields. -/
theorem line_ne_nil (field : Text × Text) : line field ≠ [] := by simp [line]

/-- A plain field is written on one line. -/
theorem Plain.isLine (h : Plain field) : IsLine (line field) := by
  have hname : '\n' ∉ field.1 ++ [':'] := by simpa using h.noFeed_name
  have hline := Text.isLine_append_cons hname (c := ' ') (by decide) h.noFeed_value h.trimmed_value
  rwa [List.append_assoc, List.singleton_append, ← line_eq] at hline

/-- What a field reads as, once it is written: white space around its parts is lost. -/
def trimmed (field : Text × Text) : Text × Text := (Text.trim field.1, Text.trim field.2)

/-- There is nothing to trim from a plain field. -/
theorem Plain.trimmed_eq (h : Plain field) : trimmed field = field :=
  Prod.ext h.trimmed_name.trim_eq h.trimmed_value.trim_eq

theorem WellFormed.map_trimmed (h : fields.WellFormed) : fields.map trimmed = fields :=
  (List.map_congr_left fun f hf => (h f hf).trimmed_eq).trans (List.map_id' fields)

/-- The line of a field is cut where its name ends, if there is no colon in the name. -/
theorem cutAt_line (h : ':' ∉ field.1) :
    Text.cutAt ':' (line field) = some (field.1, ' ' :: field.2) :=
  line_eq field ▸ Text.cutAt_append (' ' :: field.2) h

/-- A line is read as its field whenever the colon that separates is its first. -/
theorem ofLines_line (h : ':' ∉ field.1) (more : List Text) :
    ofLines (line field :: more) = (ofLines more).map (trimmed field :: ·) := by
  rw [ofLines, cutAt_line h]
  · simp only [Text.trim_cons (by decide : Text.isBlank ' ' = true)]
    cases ofLines more <;> rfl
  · exact line_ne_nil field

/-- Fields written on lines in front of others are read first, and trimmed. -/
theorem ofLines_append (h : ∀ f ∈ fields, ':' ∉ f.1) (rest : List Text) :
    ofLines (fields.map line ++ rest) = (ofLines rest).map (fields.map trimmed ++ ·) := by
  induction fields with
  | nil =>
    rw [List.map_nil, List.map_nil, List.nil_append]
    cases ofLines rest <;> rfl
  | cons field fields ih =>
    rw [List.map_cons, List.cons_append, ofLines_line (h field List.mem_cons_self),
      ih fun f hf => h f (List.mem_cons_of_mem field hf)]
    cases ofLines rest <;> rfl

/-- A plain field written on a line in front of others is read first, as it is. -/
theorem Plain.ofLines_cons (h : Plain field) (more : List Text) :
    ofLines (line field :: more) = (ofLines more).map (field :: ·) := by
  rw [ofLines_line h.noColon, h.trimmed_eq]

/-- Fields **read as they were written**, up to the first empty line. -/
theorem ofLines_lines (h : fields.WellFormed) (rest : List Text) :
    ofLines (fields.map line ++ [] :: rest) = .ok fields := by
  rw [ofLines_append (fun f hf => (h f hf).noColon), h.map_trimmed]
  simp [ofLines, Except.map]

/-- The fields that are read off lines could have been written. -/
theorem wellFormed_of_ofLines {ls : List Text} (hls : ∀ line ∈ ls, '\n' ∉ line)
    (h : ofLines ls = .ok fields) : fields.WellFormed := by
  fun_induction ofLines ls generalizing fields with
  | case1 | case2 =>
    cases h
    exact fun _ hf => absurd hf List.not_mem_nil
  | case3 => cases h
  | case4 line more _ name value hcut ih =>
    obtain ⟨rest, hrest, heq⟩ : ∃ rest, ofLines more = .ok rest ∧
        (Text.trim name, Text.trim value) :: rest = fields := by
      cases hmore : ofLines more with
      | error defect =>
        rw [hmore] at h
        cases h
      | ok rest =>
        rw [hmore] at h
        exact ⟨rest, rfl, Except.ok.inj h⟩
    -- The first colon parts name and value, so a name has none.
    obtain ⟨rfl, hcolon⟩ := Text.cutAt_eq_some_iff.mp hcut
    have hline := hls _ List.mem_cons_self
    subst heq
    intro field hf
    rcases List.mem_cons.mp hf with rfl | hf
    · exact {
        trimmed_name := Text.trimmed_trim name
        trimmed_value := Text.trimmed_trim value
        noColon := fun hmem => hcolon (Text.mem_of_mem_trim hmem)
        noFeed_name := fun hmem => hline (List.mem_append_left _ (Text.mem_of_mem_trim hmem))
        noFeed_value := fun hmem =>
          hline (List.mem_append_right _ (List.mem_cons_of_mem _ (Text.mem_of_mem_trim hmem))) }
    · exact ih (fun l hl => hls l (List.mem_cons_of_mem _ hl)) hrest field hf

end MediaProxy.Fields
