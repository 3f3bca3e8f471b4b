import MediaProxy.Proofs.Url.Appending
import MediaProxy.Proxy.Basis

/-!
# Names below a URL

A client's media name is meant to address something below the URL that the proxy stands in front of.
It does so wherever that URL points as long as two things hold of the name (`stays_below_iff`): its
first segment hides no dots, which would take away the last segment of the URL's own path, and there
is something left of it at the root. A name that breaks either rule leads out somewhere (`leads_out`
is one that does). A path of two slashes has no names below it, since its second slash gives way to
whatever is appended. Names whose segments are neither empty nor dots once tabs and line breaks are
gone from them always stay below (`below_of_solid`).
-/

namespace MediaProxy

open Url

/-- A text less the slash at its end, if it has one. -/
def withoutLastSlash (t : Text) : Text := if t.getLast? = some '/' then t.dropLast else t

/-- A URL is **below** another when its path is the other's, less a slash at the end, and behind a
slash a remainder in which no segment is a spelling of dots. -/
def Below (base u : Url) : Prop :=
  ∃ remainder, remainder ≠ [] ∧
    u.path.render = withoutLastSlash base.path.render ++ '/' :: remainder ∧
    ∀ segment ∈ Text.splitOn '/' remainder, isOneDot segment = false ∧ isTwoDots segment = false

/-- A name **climbs** when its first segment hides two dots. -/
def Climbs (name : Text) : Prop := ∃ s names, mediaSegments name = s :: names ∧ HidesDots s

/-- A name **vanishes** when at the root of a server it comes to the root itself. -/
def Vanishes (name : Text) : Prop := atRoot false (mediaSegments name) = [[]]

section Paths

variable {base u : Url} {list before added : List Text} {name text : Text}

/-- The base of a proxy is the URL of its settings, read. -/
theorem readUrl_of_ofSettings {settings : Settings} {basis : Basis}
    (h : Basis.ofSettings settings = .ok basis) : Basis.readUrl settings.url = .ok basis.url := by
  unfold Basis.ofSettings at h
  cases hread : Basis.readUrl settings.url with
  | error fault =>
    rw [hread] at h
    cases h
  | ok url =>
    cases hresolve : resolve (joinHostPort settings.relayHost 0) with
    | error fault =>
      rw [hread, hresolve] at h
      cases h
    | ok relayHost =>
      rw [hread, hresolve] at h
      cases h
      rfl

/-- A URL that is accepted was read behind two slashes, and names a host. -/
theorem readAuthority_of_readUrl (h : Basis.readUrl text = .ok base) :
    ∃ behind, readAuthority Basis.scheme behind = .ok base ∧ base.host? ≠ none := by
  unfold Basis.readUrl at h
  cases hparse : Url.parse text with
  | error defect =>
    rw [hparse] at h
    cases h
  | ok url =>
    rw [hparse] at h
    have hchecks : (if url.scheme ≠ Basis.scheme then Except.error _
        else if url.host? = none then Except.error _ else Except.ok url) = Except.ok base := h
    split at hchecks
    · cases hchecks
    next hscheme =>
      split at hchecks
      · cases hchecks
      next hhost =>
        cases hchecks
        have hrtsp := Decidable.not_not.mp hscheme
        obtain ⟨behind, hread⟩ := parse_ok hparse (hrtsp ▸ rfl) hhost
        exact ⟨behind, hrtsp ▸ hread, hhost⟩

/-- A URL that is accepted has a path of segments without slashes. -/
theorem readUrl_ok (h : Basis.readUrl text = .ok base) :
    base.scheme = Basis.scheme ∧ ∃ list, base.path = .segments list ∧ ∀ s ∈ list, '/' ∉ s := by
  obtain ⟨behind, hread, -⟩ := readAuthority_of_readUrl h
  obtain ⟨hscheme, path, hpath⟩ := readAuthority_ok hread
  exact ⟨hscheme, _, hpath, fun s hs => (settled_of_mem_readPath hs).noSlash⟩

/-- The URL of a name below a base is the base with the segments of the name, and there is none if
the name leaves no segments. -/
theorem media_eq (name : Text) (hscheme : base.scheme = Basis.scheme) (hpath : base.path = .segments list) :
    Url.media base name =
      if mediaSegments name = [] then .error (.badUrl name "media name has no path".toList)
      else .ok { base with
        path := .segments ((mediaSegments name).foldl (pushSegment false) (withoutTrailingSlash list))
        query := none, fragment := none } := by
  have hplain : isSpecial base.scheme = false := by
    rw [hscheme]
    rfl
  rw [Url.media, hpath, hplain]
  cases mediaSegments name <;> rfl

/-- A name that leads somewhere leaves segments, and these are pushed on the path of the base. -/
theorem media_ok (hscheme : base.scheme = Basis.scheme) (hpath : base.path = .segments list)
    (h : Url.media base name = .ok u) : mediaSegments name ≠ [] ∧
      u.path = .segments ((mediaSegments name).foldl (pushSegment false) (withoutTrailingSlash list)) := by
  rw [media_eq name hscheme hpath] at h
  split at h
  · cases h
  next hnames =>
    cases h
    exact ⟨hnames, rfl⟩

/-- Only a slash is taken from the end. -/
theorem withoutLastSlash_concat (t : Text) (c : Char) :
    withoutLastSlash (t ++ [c]) = if c = '/' then t else t ++ [c] := by
  simp only [withoutLastSlash, List.getLast?_concat, List.dropLast_concat, Option.some.injEq]

/-- What names are put behind is written like the path less the slash at its end. -/
theorem withoutLastSlash_render (hslash : ∀ s ∈ list, '/' ∉ s) (hdouble : list ≠ [[], []]) :
    withoutLastSlash (UrlPath.segments list).render =
      (UrlPath.segments (openSegments (withoutTrailingSlash list))).render := by
  rcases list.eq_nil_or_concat with rfl | ⟨front, last, hlist⟩
  · rfl
  rw [List.concat_eq_append] at hlist
  subst hlist
  rw [render_concat]
  -- The last slash is there exactly if the last segment is empty.
  rcases last.eq_nil_or_concat with rfl | ⟨letters, c, hlast⟩
  · rw [withoutLastSlash_concat, if_pos rfl]
    by_cases hfront : front = []
    · rw [hfront]
      rfl
    · have hmore : front ≠ [[]] := fun h => hdouble (by rw [h]; rfl)
      rw [withoutTrailingSlash_concat_nil hfront, openSegments_of_ne hmore]
  · rw [List.concat_eq_append] at hlast
    have hne : last ≠ [] := by simp [hlast]
    have hc : c ≠ '/' := by
      rintro rfl
      exact hslash last (by simp) (by simp [hlast])
    have hmore : front ++ [last] ≠ [[]] := by
      intro h
      rcases List.append_eq_singleton_iff.mp h with ⟨-, h⟩ | ⟨-, h⟩
      · exact hne (List.singleton_inj.mp h)
      · cases h
    rw [withoutTrailingSlash_concat front hne, openSegments_of_ne hmore, render_concat, hlast,
      ← List.cons_append, ← List.append_assoc, withoutLastSlash_concat, if_neg hc]

/-- A URL whose path goes on behind a base with ordinary segments is below it, unless a lone slash
is all that was added. -/
theorem below_iff (hbase : withoutLastSlash base.path.render = (UrlPath.segments before).render)
    (hpath : u.path = .segments (before ++ added)) (hadded : added ≠ []) (hordinary : ∀ s ∈ added, Ordinary s) :
    Below base u ↔ added ≠ [[]] := by
  have hsplit := Text.splitOn_intercalate hadded fun s hs => (hordinary s hs).noSlash
  have hwritten : u.path.render =
      withoutLastSlash base.path.render ++ '/' :: ['/'].intercalate added := by
    rw [hpath, hbase, render_append, render_eq hadded]
  constructor
  · rintro ⟨remainder, hremainder, hbelow, -⟩ rfl
    rw [hwritten] at hbelow
    exact hremainder (List.cons.inj (List.append_cancel_left hbelow)).2.symm
  · intro hne
    refine ⟨['/'].intercalate added, ?_, hwritten, ?_⟩
    · intro hnone
      rw [hnone] at hsplit
      exact hne hsplit.symm
    · intro s hs
      rw [hsplit] at hs
      exact ⟨(hordinary s hs).noDot, (hordinary s hs).noDots⟩

/-- Below a path that is not just two slashes, a name that neither climbs nor vanishes stays. -/
theorem below_of_not_climbs (hread : Basis.readUrl text = .ok base) (hdouble : base.path.render ≠ "//".toList)
    (hmedia : Url.media base name = .ok u) (hclimbs : ¬Climbs name) (hvanishes : ¬Vanishes name) :
    Below base u := by
  obtain ⟨hscheme, list, hpath, hslash⟩ := readUrl_ok hread
  obtain ⟨hnames, hresult⟩ := media_ok hscheme hpath hmedia
  obtain ⟨s, names, hcut⟩ := List.exists_cons_of_ne_nil hnames
  have hlist : list ≠ [[], []] := by
    rintro rfl
    exact hdouble (by rw [hpath]; rfl)
  have hbase : withoutLastSlash base.path.render =
      (UrlPath.segments (openSegments (withoutTrailingSlash list))).render := by
    rw [hpath, withoutLastSlash_render hslash hlist]
  have hfirst : ¬HidesDots s := fun hdots => hclimbs ⟨s, names, hcut, hdots⟩
  obtain ⟨k, hadded⟩ := foldl_pushSegment false (withoutTrailingSlash list) names hfirst
  have hroot := atRoot_cons_ne_nil false s names
  rw [hcut, hadded, List.append_assoc] at hresult
  refine (below_iff hbase hresult (List.append_ne_nil_of_right_ne_nil _ hroot) ?_).mpr ?_
  · intro x hx
    rcases List.mem_append.mp hx with hx | hx
    · exact List.eq_of_mem_replicate hx ▸ ordinary_nil
    · exact ordinary_atRoot false _ x hx
  · -- With an empty segment in front, what was added is more than a lone slash anyway.
    intro hlone
    rw [Vanishes, hcut] at hvanishes
    cases k with
    | zero => exact hvanishes hlone
    | succ k => exact hroot (List.append_eq_nil_iff.mp (List.cons.inj hlone).2).2

/-- Solid segments are appended as they are, and so **stay below**. -/
theorem below_of_solid (hread : Basis.readUrl text = .ok base) (hdouble : base.path.render ≠ "//".toList)
    (hmedia : Url.media base name = .ok u) (hsolid : ∀ s ∈ mediaSegments name, Solid s) : Below base u := by
  refine below_of_not_climbs hread hdouble hmedia ?_ ?_
  · rintro ⟨s, names, hcut, hdots⟩
    exact (hsolid s (hcut ▸ List.mem_cons_self)).notDots hdots
  · intro hvanishes
    rw [Vanishes, atRoot, foldl_pushSegment_of_solid hsolid rfl, List.nil_append,
      List.map_eq_singleton_iff] at hvanishes
    obtain ⟨s, hnames, hnone⟩ := hvanishes
    exact (hsolid s (by simp [hnames])).written_ne_nil false hnone

/-- The second slash of a path of two gives way, so that nothing is ever below it. -/
theorem not_below_of_double (hread : Basis.readUrl text = .ok base) (hdouble : base.path.render = "//".toList)
    (hmedia : Url.media base name = .ok u) : ¬Below base u := by
  obtain ⟨hscheme, list, hpath, hslash⟩ := readUrl_ok hread
  obtain ⟨-, hresult⟩ := media_ok hscheme hpath hmedia
  have hlist : list = [[], []] := by
    have hsplit := splitOn_render hslash
    rw [← hpath, hdouble] at hsplit
    exact (List.cons.inj hsplit).2.symm
  subst hlist
  have hordinary : ∀ s ∈ (mediaSegments name).foldl (pushSegment false) [[]], Ordinary s :=
    foldl_pushSegment_induction (P := fun path => ∀ s ∈ path, Ordinary s) _
      (fun s hs => List.mem_singleton.mp hs ▸ ordinary_nil) fun _ s => ordinary_pushSegment false s
  have hrooted : Rooted ((mediaSegments name).foldl (pushSegment false) [[]]) :=
    foldl_pushSegment_induction _ (fun later h => (List.cons.inj h).2.symm)
      fun _ s => rooted_pushSegment false s
  -- Being below would take two slashes in front, which a rooted path never has.
  rintro ⟨remainder, -, hbelow, -⟩
  have hsplit := splitOn_render fun s hs => (hordinary s hs).noSlash
  have hdoubled : u.path.render = '/' :: '/' :: remainder := by
    rw [hbelow, hdouble]
    rfl
  rw [hresult] at hdoubled
  change (UrlPath.segments ((mediaSegments name).foldl (pushSegment false) [[]])).render = _ at hdoubled
  rw [hdoubled] at hsplit
  have hlone := hrooted (Text.splitOn '/' remainder) (List.cons.inj hsplit).2.symm
  rw [Text.splitOn_eq] at hlone
  exact List.splitOn_ne_nil _ _ hlone

end Paths

/-! ## Names that lead out -/

/-- The settings of a proxy in front of a URL. -/
def settingsFor (url : Text) : Settings :=
  { listen := "127.0.0.1:0".toList, url := url, relayHost := "127.0.0.1".toList }

/-- What is kept of them. -/
def basisFor (url : Url) : Basis :=
  { url := url, relayHost := "127.0.0.1".toList, lowest := lowestRelayPort, highest := highestRelayPort,
    logDir := none }

/-- A URL with a path to climb in. -/
def deepUrl : Url :=
  ⟨"rtsp".toList, some ⟨[], none, "h".toList, none⟩, .segments ["a".toList, "b".toList], none, none⟩

/-- A URL with no path. -/
def bareUrl : Url := ⟨"rtsp".toList, some ⟨[], none, "h".toList, none⟩, .segments [], none, none⟩

theorem ofSettings_deepUrl :
    Basis.ofSettings (settingsFor "rtsp://h/a/b".toList) = .ok (basisFor deepUrl) := by rfl

theorem ofSettings_bareUrl :
    Basis.ofSettings (settingsFor "rtsp://h".toList) = .ok (basisFor bareUrl) := by rfl

variable {name : Text}

/-- A name that climbs leads out of a path of two segments. -/
theorem Climbs.not_below (h : Climbs name) : ∃ u, Url.media deepUrl name = .ok u ∧ ¬Below deepUrl u := by
  obtain ⟨s, names, hcut, hdots⟩ := h
  obtain ⟨later, hlater⟩ : ∃ later, names.foldl (pushSegment false) (["a".toList] ++ [] :: []) =
      ["a".toList] ++ [] :: later := by
    refine foldl_pushSegment_induction
      (P := fun path => ∃ later, path = ["a".toList] ++ [] :: later) names ⟨[], rfl⟩ ?_
    rintro _ s ⟨later, rfl⟩
    exact pushSegment_behind_empty false s later (List.cons_ne_nil _ _)
  have hclimbed : pushSegment false ["a".toList, "b".toList] s = ["a".toList] ++ [] :: [] :=
    pushSegment_of_hidesDots false _ hdots
  refine ⟨{ deepUrl with path := .segments (["a".toList] ++ [] :: later) }, ?_, ?_⟩
  · have hresult : (s :: names).foldl (pushSegment false) ["a".toList, "b".toList] =
        ["a".toList] ++ [] :: later := by
      rw [List.foldl_cons, hclimbed, hlater]
    rw [media_eq name rfl rfl, hcut, if_neg (List.cons_ne_nil _ _)]
    exact congrArg (fun path => Except.ok { deepUrl with path := .segments path }) hresult
  · rintro ⟨remainder, -, hbelow, -⟩
    have hslash : '/' :: 'a' :: '/' :: (UrlPath.segments later).render =
        '/' :: 'a' :: '/' :: 'b' :: '/' :: remainder := hbelow
    simp only [List.cons.injEq, true_and] at hslash
    cases later <;> cases hslash

/-- A name that vanishes leads nowhere from the root. -/
theorem Vanishes.not_below (h : Vanishes name) : ∃ u, Url.media bareUrl name = .ok u ∧ ¬Below bareUrl u := by
  refine ⟨{ bareUrl with path := .segments [[]] }, ?_, ?_⟩
  · have hnames : mediaSegments name ≠ [] := by
      intro hnone
      rw [Vanishes, hnone] at h
      cases h
    rw [media_eq name rfl rfl, if_neg hnames]
    exact congrArg (fun path => Except.ok { bareUrl with path := .segments path }) h
  · rintro ⟨remainder, hremainder, hbelow, -⟩
    have hslash : ['/'] = '/' :: remainder := hbelow
    exact hremainder (List.cons.inj hslash).2.symm

/-- **Where names lead.** A name leads below the URL of every proxy, but for one whose path is two
slashes, exactly if it neither climbs nor vanishes. Below two slashes there is nothing. -/
theorem stays_below_iff (name : Text) :
    ((∀ settings basis u, Basis.ofSettings settings = .ok basis → basis.url.path.render ≠ "//".toList →
        Url.media basis.url name = .ok u → Below basis.url u) ↔ ¬Climbs name ∧ ¬Vanishes name) ∧
      ∀ settings basis u, Basis.ofSettings settings = .ok basis → basis.url.path.render = "//".toList →
        Url.media basis.url name = .ok u → ¬Below basis.url u := by
  refine ⟨⟨fun h => ⟨fun hclimbs => ?_, fun hvanishes => ?_⟩, ?_⟩, ?_⟩
  · obtain ⟨u, hmedia, hnot⟩ := hclimbs.not_below
    exact hnot (h _ _ u ofSettings_deepUrl (by decide) hmedia)
  · obtain ⟨u, hmedia, hnot⟩ := hvanishes.not_below
    exact hnot (h _ _ u ofSettings_bareUrl (by decide) hmedia)
  · rintro ⟨hclimbs, hvanishes⟩ settings basis u hbasis hdouble hmedia
    exact below_of_not_climbs (readUrl_of_ofSettings hbasis) hdouble hmedia hclimbs hvanishes
  · intro settings basis u hbasis hdouble hmedia
    exact not_below_of_double (readUrl_of_ofSettings hbasis) hdouble hmedia

/-- A tab hides the two dots of the first segment, and the last segment of the proxy's URL is gone.
-/
theorem leads_out :
    ∃ basis u, Basis.ofSettings (settingsFor "rtsp://media.local:8554/vod/".toList) = .ok basis ∧
      Url.media basis.url ".\t./x".toList = .ok u ∧ u.render = "rtsp://media.local:8554/x".toList ∧
      ¬Below basis.url u := by
  refine ⟨basisFor ⟨"rtsp".toList, some ⟨[], none, "media.local".toList, some 8554⟩,
    .segments ["vod".toList, []], none, none⟩, _, rfl, rfl, rfl, ?_⟩
  rintro ⟨remainder, -, hbelow, -⟩
  -- The path of the one is `/x`, and that of the other begins with `/vod`.
  cases hbelow

end MediaProxy
