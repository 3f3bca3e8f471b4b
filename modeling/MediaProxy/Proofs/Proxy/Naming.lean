import Mathlib.Data.List.Forall2
import MediaProxy.Proofs.Proxy.Addressing

/-!
# What a name asks for

A client's media name asks for the pieces between its slashes, less the empty ones and those of one
or two dots (`mediaSegments`). As long as no tab or line break is in the name, the media server is
asked for just these, below the path of the proxy's URL: a piece of the address for each of them, in
their order, and from each its octets are read back (`asks_for_named`). So names that ask for the
same have one address, and names that do not have two. A piece that looks like an escape is escaped
itself, and is never read as what it looks like.
-/

namespace MediaProxy

open Url

/-- A name is **plain** when no tab or line break is in it. -/
def Plain (name : Text) : Prop := ∀ c ∈ name, isFiller c = false

instance (name : Text) : Decidable (Plain name) := List.decidableBAll _ name

/-- The **pieces** of a URL's path: what stands behind each of its slashes, up to the next. -/
def Url.pieces (u : Url) : List Text := (Text.splitOn '/' u.path.render).tail

/-- Pieces less an empty one at their end. -/
def withoutEmptyEnd (pieces : List Text) : List Text :=
  if pieces.getLast? = some [] then pieces.dropLast else pieces

variable {base u u' : Url} {list : List Text} {name name' text : Text} {s : Text}

/-! ## Plain names -/

/-- There is nothing to leave out of a plain name. -/
theorem withoutFiller_of_plain (h : Plain name) : withoutFiller name = name :=
  List.filter_eq_self.mpr fun c hc => by rw [h c hc]; rfl

/-- The segments of a plain name are plain. -/
theorem plain_of_mem_mediaSegments (h : Plain name) (hs : s ∈ mediaSegments name) : Plain s :=
  fun c hc => h c (Text.of_mem_splitWhere (List.mem_of_mem_filter hs) hc).1

/-- The segments of a plain name are appended as they are. -/
theorem solid_of_mem_mediaSegments (h : Plain name) (hs : s ∈ mediaSegments name) : Solid s := by
  have hplain := withoutFiller_of_plain (plain_of_mem_mediaSegments h hs)
  have hkept := (List.mem_filter.mp hs).2
  simp only [ne_eq, decide_not, Bool.and_eq_true, Bool.not_eq_true', decide_eq_false_iff_not] at hkept
  obtain ⟨⟨hempty, hdot⟩, hdots⟩ := hkept
  refine ⟨?_, ?_, ?_⟩
  · rwa [hplain]
  · rwa [hplain]
  · rwa [HidesDots, hplain]

/-- The segments of a plain name are written by escaping them. -/
theorem map_written_of_plain (h : Plain name) :
    (mediaSegments name).map (written false) = (mediaSegments name).map (escape segmentSet) :=
  List.map_congr_left fun s hs => by
    rw [written, withoutFiller_of_plain (plain_of_mem_mediaSegments h hs)]
    rfl

/-- Escaping tells texts apart, wherever percent signs are escaped too. -/
theorem escape_injective {set : EscapeSet} (hset : set '%' = true) : Function.Injective (escape set) := by
  intro t t' h
  exact eq_of_unescape_escape hset ((congrArg unescape h).trans (unescape_escape hset t'))

/-! ## What stands behind the path of the proxy's URL -/

/-- What names are put behind is the path less an empty piece at its end. -/
theorem openSegments_withoutTrailingSlash (hdouble : list ≠ [[], []]) :
    openSegments (withoutTrailingSlash list) = withoutEmptyEnd list := by
  rcases list.eq_nil_or_concat' with rfl | ⟨front, last, rfl⟩
  · rfl
  by_cases hlast : last = []
  · subst hlast
    rw [withoutEmptyEnd, if_pos List.getLast?_concat, List.dropLast_concat]
    by_cases hfront : front = []
    · rw [hfront]
      rfl
    · have hmore : front ≠ [[]] := fun h => hdouble (by rw [h]; rfl)
      rw [withoutTrailingSlash_concat_nil hfront, openSegments_of_ne hmore]
  · have hmore : front ++ [last] ≠ [[]] := by
      intro h
      rcases List.append_eq_singleton_iff.mp h with ⟨-, h⟩ | ⟨-, h⟩
      · exact hlast (List.singleton_inj.mp h)
      · cases h
    have hend : (front ++ [last]).getLast? ≠ some [] := by
      rw [List.getLast?_concat]
      exact fun h => hlast (Option.some.inj h)
    rw [withoutTrailingSlash_concat front hlast, openSegments_of_ne hmore, withoutEmptyEnd, if_neg hend]

/-- A path of segments without slashes is cut into these. -/
theorem pieces_of_path (hpath : u.path = .segments list) (hslash : ∀ s ∈ list, '/' ∉ s) : u.pieces = list := by
  rw [Url.pieces, hpath, splitOn_render hslash, List.tail_cons]

/-- A plain name **adds its segments**, each escaped for itself. -/
theorem pieces_of_media (hread : Basis.readUrl text = .ok base) (hdouble : base.path.render ≠ "//".toList)
    (hplain : Plain name) (hmedia : Url.media base name = .ok u) :
    u.pieces = withoutEmptyEnd base.pieces ++ (mediaSegments name).map (escape segmentSet) := by
  obtain ⟨hscheme, list, hpath, hslash⟩ := readUrl_ok hread
  obtain ⟨hnames, hresult⟩ := media_ok hscheme hpath hmedia
  have hlist : list ≠ [[], []] := by
    rintro rfl
    exact hdouble (by rw [hpath]; rfl)
  have hopen := openSegments_withoutTrailingSlash hlist
  obtain ⟨s, names, hcut⟩ := List.exists_cons_of_ne_nil hnames
  have hsolid : ∀ s ∈ mediaSegments name, Solid s := fun s hs => solid_of_mem_mediaSegments hplain hs
  -- The root gives its empty segment up to the first segment of the name.
  have happended : (mediaSegments name).foldl (pushSegment false) (withoutTrailingSlash list) =
      withoutEmptyEnd list ++ (mediaSegments name).map (written false) := by
    rw [← hopen, ← foldl_pushSegment_of_solid hsolid (openSegments_openSegments _), hcut, List.foldl_cons,
      List.foldl_cons, pushSegment_openSegments]
  have hkept : ∀ s ∈ withoutEmptyEnd list, '/' ∉ s := by
    unfold withoutEmptyEnd
    split
    · exact fun s hs => hslash s ((List.dropLast_sublist list).mem hs)
    · exact hslash
  rw [happended] at hresult
  rw [pieces_of_path hpath hslash, ← map_written_of_plain hplain]
  refine pieces_of_path hresult fun s hs => ?_
  rcases List.mem_append.mp hs with hs | hs
  · exact hkept s hs
  · obtain ⟨piece, -, rfl⟩ := List.mem_map.mp hs
    exact slash_not_mem_written false piece

/-! ## What is asked for -/

/-- The address of a name reads as it is written, so it is told from others by its text. -/
theorem media_reads_back (hread : Basis.readUrl text = .ok base) (hmedia : Url.media base name = .ok u) :
    Url.parse u.render = .ok u := by
  obtain ⟨hscheme, list, hpath, -⟩ := readUrl_ok hread
  have hname : ¬SaysNothing name := fun hnone =>
    (media_ok hscheme hpath hmedia).1 (mediaSegments_eq_nil_iff.mpr hnone)
  obtain ⟨_, a, _, hmedia', hsame, -, hrests⟩ := media_rests hread hname
  obtain rfl := Except.ok.inj (hmedia.symm.trans hmedia')
  exact hrests.parse_render (hsame.trans hscheme)

/-- Names with the same segments have the same URL. -/
theorem media_congr (hread : Basis.readUrl text = .ok base) (hmedia : Url.media base name = .ok u)
    (hmedia' : Url.media base name' = .ok u') (h : mediaSegments name = mediaSegments name') : u = u' := by
  obtain ⟨hscheme, list, hpath, -⟩ := readUrl_ok hread
  have hnames := (media_ok hscheme hpath hmedia).1
  rw [media_eq name hscheme hpath, if_neg hnames] at hmedia
  rw [media_eq name' hscheme hpath, ← h, if_neg hnames] at hmedia'
  exact Except.ok.inj (hmedia.symm.trans hmedia')

/-- **The media server is asked for what is named.** For a proxy with any settings that are
accepted, and a URL whose path is not just two slashes: the address of a plain name has the pieces
of the URL's path, less an empty one at their end, and behind them one for each segment of the name,
from which the octets of the segment are read back. Two plain names have the same address exactly if
they have the same segments. -/
theorem asks_for_named {settings : Settings} {basis : Basis} (h : Basis.ofSettings settings = .ok basis)
    (hdouble : basis.url.path.render ≠ "//".toList) :
    (∀ name u, Plain name → Url.media basis.url name = .ok u →
      ∃ asked, u.pieces = withoutEmptyEnd basis.url.pieces ++ asked ∧
        List.Forall₂ (fun piece s => unescape piece = Text.toBytes s) asked (mediaSegments name)) ∧
    ∀ name name' u u', Plain name → Plain name' → Url.media basis.url name = .ok u →
      Url.media basis.url name' = .ok u' →
      (u.render = u'.render ↔ mediaSegments name = mediaSegments name') := by
  have hread := readUrl_of_ofSettings h
  refine ⟨fun name u hplain hmedia => ?_, fun name name' u u' hplain hplain' hmedia hmedia' => ⟨?_, ?_⟩⟩
  · refine ⟨_, pieces_of_media hread hdouble hplain hmedia, ?_⟩
    rw [List.forall₂_map_left_iff, List.forall₂_same]
    exact fun s _ => unescape_escape rfl s
  · intro hrender
    have hreads := media_reads_back hread hmedia
    rw [hrender, media_reads_back hread hmedia'] at hreads
    obtain rfl := Except.ok.inj hreads
    have hpieces := pieces_of_media hread hdouble hplain hmedia
    rw [pieces_of_media hread hdouble hplain' hmedia'] at hpieces
    exact (List.map_injective_iff.mpr (escape_injective rfl) (List.append_cancel_left hpieces)).symm
  · intro hsame
    rw [media_congr hread hmedia hmedia' hsame]

/-- A URL with a path that a slash ends. -/
def vodUrl : Url :=
  ⟨"rtsp".toList, some ⟨[], none, "media.local".toList, some 8554⟩, .segments ["vod".toList, []], none, none⟩

/-- A segment that looks like two escaped dots is asked for as that, and one that looks like its
escape as another. -/
theorem asks_for_named_escaped_dots :
    ∃ settings basis u u', Basis.ofSettings settings = .ok basis ∧ basis.url = vodUrl ∧
      Url.media basis.url "%2e%2e/./é\\b".toList = .ok u ∧
      Url.media basis.url "/%252e%252e//é\\b".toList = .ok u' ∧
      (∃ asked, u.pieces = ["vod".toList] ++ asked ∧
        List.Forall₂ (fun piece s => unescape piece = Text.toBytes s) asked
          ["%2e%2e".toList, "é\\b".toList]) ∧
      u.render ≠ u'.render := by
  have hbasis : Basis.ofSettings (settingsFor "rtsp://media.local:8554/vod/".toList) = .ok (basisFor vodUrl) := rfl
  obtain ⟨hasks, htells⟩ := asks_for_named hbasis (by decide)
  have hmedia : ∃ u, Url.media vodUrl "%2e%2e/./é\\b".toList = .ok u := ⟨_, rfl⟩
  have hmedia' : ∃ u', Url.media vodUrl "/%252e%252e//é\\b".toList = .ok u' := ⟨_, rfl⟩
  obtain ⟨u, hu⟩ := hmedia
  obtain ⟨u', hu'⟩ := hmedia'
  refine ⟨_, _, u, u', hbasis, rfl, hu, hu', hasks _ u (by decide) hu, fun hsame => ?_⟩
  have hsegments := (htells _ _ u u' (by decide) (by decide) hu hu').mp hsame
  exact absurd hsegments (by decide)

end MediaProxy
