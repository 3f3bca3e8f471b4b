import MediaProxy.Proofs.Proxy.Confinement
import MediaProxy.Proofs.Url.Rereading

/-!
# Media addresses

What a client names is a path on the media server that the proxy stands in front of, whatever the
name looks like: another server, a query, an escape. The address of the media has the scheme and the
authority of the proxy's URL, neither query nor fragment, and reads as it is written, so that the
media server is told the same as the proxy meant (`address_reads_back`). There is no address for a
name that says nothing, and for no other name.
-/

namespace MediaProxy

open Url

/-- A name **says nothing** when every piece between its slashes is empty, one dot or two dots. -/
def SaysNothing (name : Text) : Prop :=
  ∀ piece ∈ Text.splitOn '/' name, piece = [] ∨ piece = ['.'] ∨ piece = ['.', '.']

instance (name : Text) : Decidable (SaysNothing name) := inferInstanceAs (Decidable (∀ _ ∈ _, _))

variable {base : Url} {a : Authority} {list : List Text} {name text : Text}

/-- A name leaves no segments exactly if it says nothing. -/
theorem mediaSegments_eq_nil_iff : mediaSegments name = [] ↔ SaysNothing name := by
  rw [mediaSegments, List.filter_eq_nil_iff, SaysNothing]
  refine forall₂_congr fun piece _ => ?_
  simp only [ne_eq, decide_not, Bool.and_eq_true, Bool.not_eq_true', decide_eq_false_iff_not, not_and,
    not_not]
  tauto

/-- A path that is settled is so without its trailing slash. -/
theorem settled_withoutTrailingSlash (h : ∀ s ∈ list, Settled s) :
    ∀ s ∈ withoutTrailingSlash list, Settled s := by
  unfold withoutTrailingSlash
  split
  · exact fun s hs => h s ((List.dropLast_sublist list).mem hs)
  · exact h

/-- A name that says something has an address, and reading leaves that alone. -/
theorem media_rests (hread : Basis.readUrl text = .ok base) (hname : ¬SaysNothing name) :
    ∃ u a list, Url.media base name = .ok u ∧ u.scheme = base.scheme ∧ base.authority = some a ∧
      u.Rests a list := by
  obtain ⟨behind, hbehind, hhost⟩ := readAuthority_of_readUrl hread
  obtain ⟨a, list, hauthority, hsettled, hpath, hlist⟩ := settled_of_readAuthority hbehind rfl hhost
  have hopen := settled_withoutTrailingSlash hlist
  have hsegments : ∀ s ∈ (mediaSegments name).foldl (pushSegment false) (withoutTrailingSlash list),
      Settled s :=
    foldl_pushSegment_induction (P := fun path => ∀ s ∈ path, Settled s) _ hopen fun _ s =>
      settled_pushSegment false s
  have hmedia := media_eq name (readUrl_ok hread).1 hpath
  rw [if_neg fun hnone => hname (mediaSegments_eq_nil_iff.mp hnone)] at hmedia
  exact ⟨_, a, _, hmedia, rfl, hauthority, hauthority, hsettled, rfl, hsegments, rfl, rfl⟩

/-- **Media addresses.** For a proxy with any settings that are accepted, a name has no address
exactly if it says nothing. Any other name has an address with the scheme, user name, password, host
and port of the proxy's URL, with neither query nor fragment, and this address reads as it is
written. -/
theorem address_reads_back {settings : Settings} {basis : Basis} (h : Basis.ofSettings settings = .ok basis)
    (name : Text) :
    ((∃ text reason, Url.media basis.url name = .error (.badUrl text reason)) ↔ SaysNothing name) ∧
    (¬SaysNothing name → ∃ u, Url.media basis.url name = .ok u ∧ u.scheme = basis.url.scheme ∧
      u.authority = basis.url.authority ∧ u.query = none ∧ u.fragment = none ∧
      Url.parse u.render = .ok u) := by
  have hread := readUrl_of_ofSettings h
  obtain ⟨hscheme, list, hpath, -⟩ := readUrl_ok hread
  refine ⟨⟨?_, fun hname => ?_⟩, fun hname => ?_⟩
  · rintro ⟨text, reason, hfails⟩
    by_contra hname
    obtain ⟨u, -, -, hmedia, -⟩ := media_rests hread hname
    rw [hmedia] at hfails
    cases hfails
  · rw [media_eq name hscheme hpath, if_pos (mediaSegments_eq_nil_iff.mpr hname)]
    exact ⟨_, _, rfl⟩
  · obtain ⟨u, a, list, hmedia, hsame, hauthority, hrests⟩ := media_rests hread hname
    exact ⟨u, hmedia, hsame, hrests.authority.trans hauthority.symm, hrests.query, hrests.fragment,
      hrests.parse_render (hsame.trans hscheme)⟩

/-- A URL with a user name, a password, an address in brackets and a path that begins with dots. -/
def guardedUrl : Url :=
  ⟨"rtsp".toList, some ⟨"me%40home".toList, some "s%3Acret".toList, "[2001:db8::1]".toList, some 8554⟩,
    .segments [".vod".toList, []], none, none⟩

/-- A name that looks like the address of another server stays a path. -/
theorem guarded_address_reads_back :
    ∃ settings basis u, Basis.ofSettings settings = .ok basis ∧ basis.url = guardedUrl ∧
      Url.media basis.url "rtsp://x@evil:1/%2e%2e/?q#f".toList = .ok u ∧
      u.render = ("rtsp://me%40home:s%3Acret@[2001:db8::1]:8554/.vod/rtsp:/x@evil:1/" ++
        "%252e%252e/%3Fq%23f").toList ∧
      Url.parse u.render = .ok u := by
  have hbasis : Basis.ofSettings (settingsFor "rtsp://me@home:s:cret@[2001:DB8:0::1]:08554/./.vod/".toList) =
      .ok (basisFor guardedUrl) := rfl
  obtain ⟨u, hmedia, -, -, -, -, hreads⟩ :=
    (address_reads_back hbasis "rtsp://x@evil:1/%2e%2e/?q#f".toList).2 (by decide)
  have hu : Url.media guardedUrl "rtsp://x@evil:1/%2e%2e/?q#f".toList = .ok u := hmedia
  refine ⟨_, _, u, hbasis, rfl, hmedia, ?_, hreads⟩
  cases hu
  rfl

end MediaProxy
