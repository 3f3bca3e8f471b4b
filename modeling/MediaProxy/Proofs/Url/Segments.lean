import MediaProxy.Proofs.Text.Cutting
import MediaProxy.Proofs.Text.Letters
import MediaProxy.Proofs.Url.Escape
import MediaProxy.Url.Basic
import MediaProxy.Url.Parse

/-!
# Segments of a path

Reading a path drops segments and adds empty ones, nothing else: whatever holds of the empty segment
and of all pieces of a path that are no dots holds of all its segments (`forall_mem_normalise`). So
no segment has a slash in it, and splitting a path at its slashes gives its segments back
(`splitOn_render`). Dots at the end of a path reach no further back than its last segment
(`closeSegments_append`).
-/

namespace MediaProxy.Url

/-- A segment is **ordinary** when it is a step down: it has no slash, and is no spelling of dots.
-/
structure Ordinary (segment : Text) : Prop where
  noSlash : '/' ∉ segment
  noDot : isOneDot segment = false
  noDots : isTwoDots segment = false

theorem ordinary_nil : Ordinary [] := ⟨List.not_mem_nil, rfl, rfl⟩

/-! ## Dots -/

/-- A text that begins with a small letter once all are small began with that or its capital. -/
theorem cons_of_map_toLower {s t : Text} {d : Char} (h : s.map Char.toLower = d :: t) :
    ∃ c rest, s = c :: rest ∧ (c = d ∨ c = d.toUpper) ∧ rest.map Char.toLower = t := by
  obtain ⟨c, rest, rfl, hc, hrest⟩ := List.map_eq_cons_iff.mp h
  exact ⟨c, rest, rfl, Text.eq_or_eq_toUpper_of_toLower_eq hc, hrest⟩

/-- A dot is read back as it is. -/
theorem unescape_dot {s t : Text} (h : s.map Char.toLower = '.' :: t) :
    ∃ rest, rest.map Char.toLower = t ∧ unescape s = 46 :: unescape rest := by
  obtain ⟨c, rest, rfl, hc, hrest⟩ := cons_of_map_toLower h
  obtain rfl : c = '.' := hc.elim id id
  exact ⟨rest, hrest, unescape_cons rest (by decide)⟩

/-- An escaped dot is read back as a dot, whatever the case of its letter. -/
theorem unescape_escapedDot {s t : Text} (h : s.map Char.toLower = '%' :: '2' :: 'e' :: t) :
    ∃ rest, rest.map Char.toLower = t ∧ unescape s = 46 :: unescape rest := by
  obtain ⟨mark, _, rfl, hmark, h⟩ := cons_of_map_toLower h
  obtain ⟨high, _, rfl, hhigh, h⟩ := cons_of_map_toLower h
  obtain ⟨low, rest, rfl, hlow, hrest⟩ := cons_of_map_toLower h
  obtain rfl : mark = '%' := hmark.elim id id
  obtain rfl : high = '2' := hhigh.elim id id
  refine ⟨rest, hrest, ?_⟩
  rcases hlow with rfl | rfl <;> rfl

theorem unescape_of_map_toLower_nil {s : Text} (h : s.map Char.toLower = []) : unescape s = [] := by
  rw [List.map_eq_nil_iff.mp h]
  rfl

/-- However one dot is spelled, it is the octet of a dot. -/
theorem unescape_of_isOneDot {s : Text} (h : isOneDot s = true) : unescape s = Text.toBytes ['.'] := by
  simp only [isOneDot, decide_eq_true_eq] at h
  rcases h with h | h
  · obtain ⟨_, h, hfirst⟩ := unescape_dot h
    rw [hfirst, unescape_of_map_toLower_nil h]
    rfl
  · obtain ⟨_, h, hfirst⟩ := unescape_escapedDot h
    rw [hfirst, unescape_of_map_toLower_nil h]
    rfl

/-- However two dots are spelled, they are the octets of two dots. -/
theorem unescape_of_isTwoDots {s : Text} (h : isTwoDots s = true) :
    unescape s = Text.toBytes ['.', '.'] := by
  simp only [isTwoDots, decide_eq_true_eq] at h
  rcases h with h | h | h | h
  · obtain ⟨_, h, hfirst⟩ := unescape_dot h
    obtain ⟨_, h, hsecond⟩ := unescape_dot h
    rw [hfirst, hsecond, unescape_of_map_toLower_nil h]
    rfl
  · obtain ⟨_, h, hfirst⟩ := unescape_dot h
    obtain ⟨_, h, hsecond⟩ := unescape_escapedDot h
    rw [hfirst, hsecond, unescape_of_map_toLower_nil h]
    rfl
  · obtain ⟨_, h, hfirst⟩ := unescape_escapedDot h
    obtain ⟨_, h, hsecond⟩ := unescape_dot h
    rw [hfirst, hsecond, unescape_of_map_toLower_nil h]
    rfl
  · obtain ⟨_, h, hfirst⟩ := unescape_escapedDot h
    obtain ⟨_, h, hsecond⟩ := unescape_escapedDot h
    rw [hfirst, hsecond, unescape_of_map_toLower_nil h]
    rfl

section Escaped

variable {set : EscapeSet} {t : Text}

/-- Escaping makes no dots: only a dot is escaped as one. -/
theorem isOneDot_escape_iff (hset : set '%' = true) (hdot : set '.' = false) :
    isOneDot (escape set t) = true ↔ t = ['.'] := by
  constructor
  · intro h
    exact eq_of_unescape_escape hset (unescape_of_isOneDot h)
  · rintro rfl
    rw [escape_eq_self (by simpa [Clean] using hdot)]
    rfl

/-- Only two dots are escaped as two dots. -/
theorem isTwoDots_escape_iff (hset : set '%' = true) (hdot : set '.' = false) :
    isTwoDots (escape set t) = true ↔ t = ['.', '.'] := by
  constructor
  · intro h
    exact eq_of_unescape_escape hset (unescape_of_isTwoDots h)
  · rintro rfl
    rw [escape_eq_self (by simpa [Clean] using hdot)]
    rfl

end Escaped

/-! ## Climbing and closing -/

section Closing

variable {P : Text → Prop} {before after : List Text} {segment : Text}

/-- To climb in a path is to climb at its end. -/
theorem climb_append (before : List Text) (h : after ≠ []) : climb (before ++ after) = before ++ climb after := by
  unfold climb
  have hlast : (before ++ after).getLast? = after.getLast? := by
    rw [List.getLast?_append, List.getLast?_eq_some_getLast h, Option.some_or]
  rw [hlast]
  split
  · rfl
  · exact List.dropLast_append_of_ne_nil h

/-- To climb adds nothing. -/
theorem mem_of_mem_climb (h : segment ∈ climb before) : segment ∈ before := by
  unfold climb at h
  split at h
  · exact h
  · exact (List.dropLast_sublist _).mem h

/-- A segment at the end of a path changes no more than the last one before it. -/
theorem closeSegments_append (before : List Text) (h : after ≠ []) (segment : Text) :
    closeSegments (before ++ after) segment = before ++ closeSegments after segment := by
  unfold closeSegments
  rw [climb_append before h]
  split
  · exact List.append_assoc ..
  · split <;> exact List.append_assoc ..

/-- Only two dots at the end of a path take something away from it. -/
theorem closeSegments_of_not_dots (before : List Text) (h : ¬isTwoDots segment = true) :
    closeSegments before segment = before ++ closeSegments [] segment := by
  unfold closeSegments
  rw [if_neg h, if_neg h]
  split <;> rfl

/-- A path that has been closed is not empty. -/
theorem closeSegments_ne_nil (before : List Text) (segment : Text) : closeSegments before segment ≠ [] := by
  unfold closeSegments
  split
  · simp
  · split <;> simp

/-- The first segment of a path stays, or gives way to the root. -/
theorem closeSegments_cons (first : Text) (more : List Text) (segment : Text) :
    closeSegments (first :: more) segment = [[]] ∨
      ∃ later, closeSegments (first :: more) segment = first :: later := by
  cases more with
  | nil =>
    unfold closeSegments climb
    split
    · split
      · exact .inr ⟨_, rfl⟩
      · exact .inl rfl
    · split <;> exact .inr ⟨_, rfl⟩
  | cons next more =>
    right
    rw [← List.singleton_append, closeSegments_append _ (List.cons_ne_nil _ _)]
    exact ⟨_, rfl⟩

/-- What is true of all segments is so when a path is closed with one more. -/
theorem forall_mem_closeSegments (hempty : P []) (hbefore : ∀ s ∈ before, P s)
    (hsegment : isOneDot segment = false → isTwoDots segment = false → P segment) :
    ∀ s ∈ closeSegments before segment, P s := by
  unfold closeSegments
  intro s hs
  split at hs
  next =>
    rcases List.mem_append.mp hs with hs | hs
    · exact hbefore s (mem_of_mem_climb hs)
    · exact List.mem_singleton.mp hs ▸ hempty
  next hdots =>
    split at hs
    next =>
      rcases List.mem_append.mp hs with hs | hs
      · exact hbefore s hs
      · exact List.mem_singleton.mp hs ▸ hempty
    next hdot =>
      rcases List.mem_append.mp hs with hs | hs
      · exact hbefore s hs
      · exact List.mem_singleton.mp hs ▸ hsegment (Bool.eq_false_iff.mpr hdot) (Bool.eq_false_iff.mpr hdots)

/-- What is true of all segments is so when one more is entered. -/
theorem forall_mem_enterSegment (hbefore : ∀ s ∈ before, P s)
    (hsegment : isOneDot segment = false → isTwoDots segment = false → P segment) :
    ∀ s ∈ enterSegment before segment, P s := by
  unfold enterSegment
  intro s hs
  split at hs
  next => exact hbefore s (mem_of_mem_climb hs)
  next hdots =>
    split at hs
    next => exact hbefore s hs
    next hdot =>
      rcases List.mem_append.mp hs with hs | hs
      · exact hbefore s hs
      · exact List.mem_singleton.mp hs ▸ hsegment (Bool.eq_false_iff.mpr hdot) (Bool.eq_false_iff.mpr hdots)

/-- What holds of the empty segment and of the pieces of a path that are no dots holds of its
segments. -/
theorem forall_mem_normalise {pieces : List Text} (hempty : P []) (hbefore : ∀ s ∈ before, P s)
    (hpieces : ∀ s ∈ pieces, isOneDot s = false → isTwoDots s = false → P s) :
    ∀ s ∈ normalise before pieces, P s := by
  fun_induction normalise before pieces with
  | case1 => exact hbefore
  | case2 before last => exact forall_mem_closeSegments hempty hbefore (hpieces last List.mem_cons_self)
  | case3 before piece more _ ih =>
    have hpiece := forall_mem_enterSegment hbefore (hpieces piece List.mem_cons_self)
    exact ih hpiece fun s hs => hpieces s (List.mem_cons_of_mem _ hs)

end Closing

/-- A segment is **settled** when reading it leaves it as it is: it is ordinary, and nothing of it
is to be escaped. -/
structure Settled (segment : Text) : Prop extends Ordinary segment where
  clean : Clean pathSet segment

theorem settled_nil : Settled [] := ⟨ordinary_nil, List.forall_mem_nil _⟩

/-- Segments that have been read are settled. -/
theorem settled_of_mem_readSegments {special : Bool} {t segment : Text}
    (h : segment ∈ readSegments special t) : Settled segment := by
  refine forall_mem_normalise settled_nil (List.forall_mem_nil _) ?_ segment h
  intro s hs hdot hdots
  obtain ⟨piece, hpiece, rfl⟩ := List.mem_map.mp hs
  refine ⟨⟨slash_not_mem_escape fun hslash => ?_, hdot, hdots⟩, clean_escape (by decide) fun _ _ hc => hc⟩
  have hnone : isSlash special '/' = false := (Text.of_mem_splitWhere hpiece hslash).2
  cases hnone

/-- The segments of a path that has been read are settled. -/
theorem settled_of_mem_readPath {special : Bool} {t segment : Text} (h : segment ∈ readPath special t) :
    Settled segment := by
  unfold readPath at h
  split at h
  · split at h
    · exact List.mem_singleton.mp h ▸ settled_nil
    · cases h
  · split at h <;> exact settled_of_mem_readSegments h

/-! ## Paths of read URLs -/

section Reading

variable {scheme t : Text} {u : Url}

/-- What has an authority has a path of segments behind it. -/
theorem readAuthority_ok (h : readAuthority scheme t = .ok u) :
    u.scheme = scheme ∧ ∃ path, u.path = .segments (readPath (isSpecial scheme) path) := by
  unfold readAuthority at h
  simp only [bind, Except.bind, pure, Except.pure, throw, throwThe, MonadExceptOf.throw] at h
  split at h
  · cases h
  · split at h
    · cases h
    · split at h
      · cases h
      · cases h
        exact ⟨rfl, _, rfl⟩

/-- What is read as a file has that scheme. -/
theorem readFile_scheme (h : readFile t = .ok u) : u.scheme = "file".toList := by
  unfold readFile at h
  split at h
  · cases h
    rfl
  · split at h
    · cases h
      rfl
    · unfold readFileHost at h
      simp only [bind, Except.bind, pure, Except.pure] at h
      split at h
      · cases h
        rfl
      · split at h
        · cases h
          rfl
        · split at h
          · cases h
          · split at h
            · cases h
              rfl
            · cases h
              rfl

/-- A URL with a host that is not one of the web's was read behind two slashes. -/
theorem parse_ok (h : parse t = .ok u) (hplain : isSpecial u.scheme = false) (hhost : u.host? ≠ none) :
    ∃ behind, readAuthority u.scheme behind = .ok u := by
  unfold parse at h
  split at h
  · cases h
  next scheme rest _ =>
    have onAuthority : ∀ {behind : Text}, readAuthority scheme behind = .ok u →
        ∃ behind, readAuthority u.scheme behind = .ok u := by
      intro behind h
      exact ⟨behind, (readAuthority_ok h).1 ▸ h⟩
    split at h
    · rw [readFile_scheme h] at hplain
      cases hplain
    · split at h
      · exact onAuthority h
      · split at h
        · exact onAuthority h
        · cases h
          exact (hhost rfl).elim
        · cases h
          exact (hhost rfl).elim

end Reading

/-! ## Written paths -/

section Rendering

variable {list : List Text}

/-- Two paths are written one after the other. -/
theorem render_append (front back : List Text) :
    (UrlPath.segments (front ++ back)).render =
      (UrlPath.segments front).render ++ (UrlPath.segments back).render :=
  List.flatMap_append

theorem render_concat (front : List Text) (last : Text) :
    (UrlPath.segments (front ++ [last])).render = (UrlPath.segments front).render ++ '/' :: last := by
  rw [render_append]
  simp [UrlPath.render]

theorem render_eq (h : list ≠ []) : (UrlPath.segments list).render = '/' :: ['/'].intercalate list := by
  induction list with
  | nil => exact absurd rfl h
  | cons segment more ih =>
    cases more with
    | nil => simp [UrlPath.render]
    | cons next more =>
      have htail := ih (List.cons_ne_nil _ _)
      rw [← List.singleton_append, render_append, htail]
      simp [UrlPath.render, List.intercalate]

/-- A written path **splits** at its slashes into its segments, behind nothing. -/
theorem splitOn_render (hslash : ∀ s ∈ list, '/' ∉ s) :
    Text.splitOn '/' (UrlPath.segments list).render = [] :: list := by
  by_cases h : list = []
  · rw [h]
    rfl
  · rw [render_eq h]
    exact congrArg ([] :: ·) (Text.splitOn_intercalate h hslash)

end Rendering

end MediaProxy.Url
