import MediaProxy.Proofs.Url.Segments
import MediaProxy.Url.Media

/-!
# Appending names to a path

Segments are appended one by one, and dots that show only then make a step back. Once a segment
stands behind a path, no later one reaches the path any more (`pushSegment_append`): what a name
adds to a path is what it comes to at the root, perhaps behind empty segments (`foldl_pushSegment`).
Only the first segment of a name can take something away. Segments that are neither empty nor dots
once tabs and line breaks are gone from them are appended as they are
(`foldl_pushSegment_of_solid`).
-/

namespace MediaProxy.Url

/-- A segment **hides dots** when it comes to two dots once tabs and line breaks are gone from it.
-/
def HidesDots (segment : Text) : Prop := withoutFiller segment = ['.', '.']

/-- A segment is **solid** when it is no dots, and not empty, once tabs and line breaks are gone
from it. -/
structure Solid (segment : Text) : Prop where
  notEmpty : withoutFiller segment ≠ []
  notDot : withoutFiller segment ≠ ['.']
  notDots : ¬HidesDots segment

/-- How a segment is written when it is appended. -/
def written (special : Bool) (segment : Text) : Text :=
  escape (if special then specialSegmentSet else segmentSet) (withoutFiller segment)

/-- What the segments of a name come to **at the root** of a server. -/
def atRoot (special : Bool) (names : List Text) : List Text := names.foldl (pushSegment special) []

variable {special : Bool} {before after later : List Text} {s : Text}

/-! ## Written segments -/

/-- There is no slash within a segment that is written. -/
theorem slash_not_mem_written (special : Bool) (s : Text) : '/' ∉ written special s :=
  slash_not_mem_escape fun _ => by cases special <;> rfl

/-- A segment that is written holds nothing that has to be escaped in a path. -/
theorem clean_written (special : Bool) (s : Text) : Clean pathSet (written special s) := by
  refine clean_escape (by decide) fun c _ hc => ?_
  cases special <;> simp only [Bool.false_eq_true, if_false, if_true, specialSegmentSet, segmentSet,
    Bool.or_eq_false_iff] at hc
  · exact hc.1.1
  · exact hc.1.1.1

/-- A segment is written as one dot exactly if it is one without filler. -/
theorem isOneDot_written_iff (special : Bool) :
    isOneDot (written special s) = true ↔ withoutFiller s = ['.'] := by
  cases special <;> exact isOneDot_escape_iff rfl rfl

/-- A segment is written as two dots exactly if it hides them. -/
theorem isTwoDots_written_iff (special : Bool) : isTwoDots (written special s) = true ↔ HidesDots s := by
  cases special <;> exact isTwoDots_escape_iff rfl rfl

/-- A solid segment is written as something. -/
theorem Solid.written_ne_nil (h : Solid s) (special : Bool) : written special s ≠ [] := by
  intro hnone
  have hset : (if special then specialSegmentSet else segmentSet) '%' = true := by
    cases special <;> rfl
  exact h.notEmpty (eq_of_unescape_escape hset (congrArg unescape hnone))

/-! ## What is appended to -/

theorem withoutTrailingSlash_concat_nil {front : List Text} (h : front ≠ []) :
    withoutTrailingSlash (front ++ [[]]) = front := by
  have hlength : 2 ≤ (front ++ [([] : Text)]).length := by
    have := List.length_pos_iff.mpr h
    rw [List.length_append, List.length_singleton]
    omega
  rw [withoutTrailingSlash, if_pos ⟨hlength, List.getLast?_concat⟩, List.dropLast_concat]

/-- A path without a trailing slash has none taken from it. -/
theorem withoutTrailingSlash_concat {last : Text} (front : List Text) (h : last ≠ []) :
    withoutTrailingSlash (front ++ [last]) = front ++ [last] := by
  rw [withoutTrailingSlash, List.getLast?_concat, if_neg]
  rintro ⟨-, hlast⟩
  exact h (Option.some.inj hlast)

theorem openSegments_of_ne (h : before ≠ [[]]) : openSegments before = before := if_neg h

/-- To open a path is to open what is at its end. -/
theorem openSegments_append (hbefore : before ≠ []) (hafter : after ≠ []) :
    openSegments (before ++ after) = before ++ after := by
  apply openSegments_of_ne
  intro h
  have hlength := congrArg List.length h
  have hfront := List.length_pos_iff.mpr hbefore
  have hback := List.length_pos_iff.mpr hafter
  rw [List.length_append, List.length_singleton] at hlength
  omega

@[simp] theorem openSegments_openSegments (before : List Text) :
    openSegments (openSegments before) = openSegments before := by
  by_cases h : before = [[]]
  · rw [h]
    rfl
  · rw [openSegments_of_ne h, openSegments_of_ne h]

/-! ## One segment -/

/-- To push a segment is to close an open path with what is written of it. -/
theorem pushSegment_eq (special : Bool) (before : List Text) (s : Text) :
    pushSegment special before s = closeSegments (openSegments before) (written special s) := rfl

theorem pushSegment_openSegments (special : Bool) (before : List Text) (s : Text) :
    pushSegment special (openSegments before) s = pushSegment special before s := by
  rw [pushSegment_eq, pushSegment_eq, openSegments_openSegments]

/-- A path is not empty once something has been pushed on it. -/
theorem pushSegment_ne_nil (special : Bool) (before : List Text) (s : Text) :
    pushSegment special before s ≠ [] := closeSegments_ne_nil _ _

/-- A segment that hides no dots only adds to a path. -/
theorem pushSegment_of_not_hidesDots (special : Bool) (h : ¬HidesDots s) (hopen : openSegments before = before) :
    pushSegment special before s = before ++ pushSegment special [] s := by
  rw [← isTwoDots_written_iff special] at h
  rw [pushSegment_eq, hopen, closeSegments_of_not_dots before h]
  rfl

/-- A segment that hides two dots takes the last segment away. -/
theorem pushSegment_of_hidesDots (special : Bool) (before : List Text) (h : HidesDots s) :
    pushSegment special before s = climb (openSegments before) ++ [[]] := by
  rw [← isTwoDots_written_iff special] at h
  rw [pushSegment_eq, closeSegments, if_pos h]

/-- A solid segment is added as it is written. -/
theorem pushSegment_of_solid (special : Bool) (h : Solid s) :
    pushSegment special before s = openSegments before ++ [written special s] := by
  have hdot := h.notDot
  have hdots := h.notDots
  rw [ne_eq, ← isOneDot_written_iff special] at hdot
  rw [← isTwoDots_written_iff special] at hdots
  rw [pushSegment_eq, closeSegments, if_neg hdots, if_neg hdot]

/-- Behind a path, a segment does **what it does without the path**; at most, an empty segment stays
that a root would have given up. -/
theorem pushSegment_append (special : Bool) (s : Text) (hbefore : before ≠ []) (hafter : after ≠ []) :
    ∃ k, pushSegment special (before ++ after) s =
      before ++ List.replicate k [] ++ pushSegment special after s := by
  have hopen := openSegments_append hbefore hafter
  -- A root alone gives its empty segment up, and the same segment behind a path does not.
  by_cases hroot : after = [[]]
  · subst hroot
    rw [← pushSegment_openSegments special [[]]]
    by_cases hdots : HidesDots s
    · refine ⟨0, ?_⟩
      rw [pushSegment_of_hidesDots special _ hdots, pushSegment_of_hidesDots special _ hdots, hopen,
        climb_append _ hafter, List.replicate_zero, List.append_nil, List.append_assoc]
      rfl
    · exact ⟨1, pushSegment_of_not_hidesDots special hdots hopen⟩
  · refine ⟨0, ?_⟩
    rw [List.replicate_zero, List.append_nil, pushSegment_eq, hopen, closeSegments_append _ hafter,
      pushSegment_eq, openSegments_of_ne hroot]

/-- An empty segment behind a path stays where it is. -/
theorem pushSegment_behind_empty (special : Bool) (s : Text) (later : List Text) (hbefore : before ≠ []) :
    ∃ later', pushSegment special (before ++ [] :: later) s = before ++ [] :: later' := by
  have hafter : [] :: later ≠ ([] : List Text) := List.cons_ne_nil _ _
  rw [pushSegment_eq, openSegments_append hbefore hafter, closeSegments_append _ hafter]
  rcases closeSegments_cons [] later (written special s) with h | ⟨later', h⟩
  · exact ⟨[], by rw [h]⟩
  · exact ⟨later', by rw [h]⟩

/-- What is true of all segments is so of one more that is pushed. -/
theorem forall_mem_pushSegment {P : Text → Prop} (hempty : P []) (hbefore : ∀ x ∈ before, P x)
    (hwritten : isOneDot (written special s) = false → isTwoDots (written special s) = false →
      P (written special s)) :
    ∀ x ∈ pushSegment special before s, P x := by
  have hopen : ∀ x ∈ openSegments before, P x := by
    unfold openSegments
    split
    · exact List.forall_mem_nil _
    · exact hbefore
  exact forall_mem_closeSegments hempty hopen hwritten

/-- Segments are ordinary when one more is pushed. -/
theorem ordinary_pushSegment (special : Bool) (s : Text) (h : ∀ x ∈ before, Ordinary x) :
    ∀ x ∈ pushSegment special before s, Ordinary x :=
  forall_mem_pushSegment ordinary_nil h fun hdot hdots => ⟨slash_not_mem_written special s, hdot, hdots⟩

/-- Segments are settled when one more is pushed. -/
theorem settled_pushSegment (special : Bool) (s : Text) (h : ∀ x ∈ before, Settled x) :
    ∀ x ∈ pushSegment special before s, Settled x :=
  forall_mem_pushSegment settled_nil h fun hdot hdots =>
    ⟨⟨slash_not_mem_written special s, hdot, hdots⟩, clean_written special s⟩

/-- A path is **rooted** when an empty segment stands first in it only as the root itself. -/
def Rooted (path : List Text) : Prop := ∀ later, path = [] :: later → later = []

/-- A path stays at its root when a segment is pushed. -/
theorem rooted_pushSegment (special : Bool) (s : Text) (h : Rooted before) :
    Rooted (pushSegment special before s) := by
  have alone : Rooted (closeSegments [] (written special s)) := by
    intro later hlater
    have hlength : (closeSegments [] (written special s)).length = 1 := by
      unfold closeSegments
      split
      · rfl
      · split <;> rfl
    rw [hlater, List.length_cons] at hlength
    exact List.length_eq_zero_iff.mp (Nat.succ.inj hlength)
  rw [pushSegment_eq]
  -- A root gives its empty segment up, so what is pushed behind it stands alone.
  match before, h with
  | [], _ => exact alone
  | [] :: more, h =>
    rw [h more rfl]
    exact alone
  | (c :: letters) :: more, _ =>
    rw [openSegments_of_ne (by simp)]
    rcases closeSegments_cons (c :: letters) more (written special s) with hroot | ⟨later, hlater⟩
    · rw [hroot]
      exact fun later h => (List.cons.inj h).2.symm
    · rw [hlater]
      intro _ h
      cases h

/-! ## All segments of a name -/

/-- What one segment keeps, all segments of a name keep. -/
theorem foldl_pushSegment_induction {P : List Text → Prop} (names : List Text) (hbefore : P before)
    (hstep : ∀ path s, P path → P (pushSegment special path s)) :
    P (names.foldl (pushSegment special) before) := by
  induction names generalizing before with
  | nil => exact hbefore
  | cons s names ih => exact ih (hstep before s hbefore)

/-- Segments that are pushed on a path are those pushed on its end, but for empty ones between. -/
theorem foldl_pushSegment_append (names : List Text) (hbefore : before ≠ []) (hafter : after ≠ []) :
    ∃ k, names.foldl (pushSegment special) (before ++ after) =
      before ++ List.replicate k [] ++ names.foldl (pushSegment special) after := by
  induction names generalizing before after with
  | nil => exact ⟨0, by rw [List.replicate_zero, List.append_nil]; rfl⟩
  | cons s names ih =>
    -- The empty segments that the first step leaves belong to the path from then on.
    obtain ⟨k, hk⟩ := pushSegment_append special s hbefore hafter
    have hfront : before ++ List.replicate k [] ≠ [] := List.append_ne_nil_of_left_ne_nil hbefore _
    obtain ⟨j, hj⟩ := ih hfront (pushSegment_ne_nil special after s)
    refine ⟨k + j, ?_⟩
    rw [List.foldl_cons, List.foldl_cons, hk, hj, List.append_assoc before, List.replicate_append_replicate]

/-- What a name adds to a path is **what it comes to at the root**, behind empty segments if any, as
long as its first segment hides no dots. -/
theorem foldl_pushSegment (special : Bool) (before names : List Text) (hfirst : ¬HidesDots s) :
    ∃ k, (s :: names).foldl (pushSegment special) before =
      openSegments before ++ List.replicate k [] ++ atRoot special (s :: names) := by
  rw [atRoot, List.foldl_cons, List.foldl_cons, ← pushSegment_openSegments special before,
    pushSegment_of_not_hidesDots special hfirst (openSegments_openSegments before)]
  by_cases hroot : openSegments before = []
  · exact ⟨0, by rw [hroot]; rfl⟩
  · exact foldl_pushSegment_append names hroot (pushSegment_ne_nil special [] s)

theorem atRoot_cons_ne_nil (special : Bool) (s : Text) (names : List Text) :
    atRoot special (s :: names) ≠ [] :=
  foldl_pushSegment_induction (P := (· ≠ [])) names (pushSegment_ne_nil special [] s)
    fun path s _ => pushSegment_ne_nil special path s

/-- Segments that are pushed at the root are ordinary. -/
theorem ordinary_atRoot (special : Bool) (names : List Text) : ∀ x ∈ atRoot special names, Ordinary x :=
  foldl_pushSegment_induction (P := fun path => ∀ x ∈ path, Ordinary x) names (List.forall_mem_nil _)
    fun _ s => ordinary_pushSegment special s

/-- Names of **solid** segments are appended as they are. -/
theorem foldl_pushSegment_of_solid {names : List Text} (hsolid : ∀ s ∈ names, Solid s)
    (hopen : openSegments before = before) :
    names.foldl (pushSegment special) before = before ++ names.map (written special) := by
  induction names generalizing before with
  | nil => exact (List.append_nil before).symm
  | cons s names ih =>
    have hs := hsolid s List.mem_cons_self
    -- A solid name leaves a path that is no root, so the next one is put behind it.
    have hstays : openSegments (before ++ [written special s]) = before ++ [written special s] := by
      apply openSegments_of_ne
      intro h
      rcases List.append_eq_singleton_iff.mp h with ⟨-, hwritten⟩ | ⟨-, hwritten⟩
      · exact hs.written_ne_nil special (List.singleton_inj.mp hwritten)
      · cases hwritten
    rw [List.foldl_cons, pushSegment_of_solid special hs, hopen,
      ih (fun s h => hsolid s (List.mem_cons_of_mem _ h)) hstays, List.append_assoc]
    rfl

end MediaProxy.Url
