import Mathlib.Data.List.TakeWhile
import MediaProxy.Proofs.Net.Groups
import MediaProxy.Proofs.Text.Numerals
import MediaProxy.Proofs.Url.Segments

/-!
# URLs read back

Reading a URL leaves its parts in a form that reading leaves alone (`Authority.Settled`, `Settled`):
what had to be escaped is escaped and is not escaped again, an address in brackets is written in the
one way, and no segment is dots. Nothing of a part can be taken for the mark behind it. So a URL
that is put together from such parts is read as it is (`parse_render`), wherever the parts came
from.

This is about URLs with an authority whose scheme is not one of the web's, and about those that have
neither query nor fragment.
-/

namespace MediaProxy

open Url

variable {set : EscapeSet} {c : Char} {t rest scheme : Text} {list pieces before : List Text}

namespace Url

/-! ## Marks around the parts -/

/-- What is dropped at the ends of a URL or ends its authority. -/
def delimits (c : Char) : Bool := isEdgeFiller c || endsAuthority false c

theorem isEdgeFiller_eq (c : Char) : isEdgeFiller c = (decide (c.toNat < 0x20) || decide (c = ' ')) := by
  have hspace : c = ' ' ↔ c.toNat = 0x20 := ⟨fun h => h ▸ rfl, fun h => Char.toNat_inj.mp h⟩
  rw [isEdgeFiller, ← Bool.decide_or, decide_eq_decide, hspace]
  omega

/-- What may stand in a path does not end an authority, but for a slash. -/
theorem delimits_of_pathSet (h : pathSet c = false) (hslash : c ≠ '/') : delimits c = false := by
  simp only [pathSet, fragmentSet, controls, List.mem_cons, List.not_mem_nil, or_false, Bool.or_eq_false_iff,
    decide_eq_false_iff_not, not_or] at h
  simp only [delimits, isEdgeFiller_eq, endsAuthority, endsPath, isSlash, Bool.false_and, Bool.or_false,
    Bool.or_eq_false_iff, decide_eq_false_iff_not]
  tauto

/-- What may stand in credentials does not end an authority. -/
theorem delimits_of_userinfoSet (h : userinfoSet c = false) : delimits c = false := by
  simp only [userinfoSet, Bool.or_eq_false_iff] at h
  refine delimits_of_pathSet h.1 ?_
  rintro rfl
  exact absurd h.2 (by decide)

/-- What no plain host is written with. -/
def outsideHost : EscapeSet := fun c => endsHost c || controls c

/-- What may stand in a host does not end an authority. -/
theorem delimits_of_outsideHost (h : outsideHost c = false) : delimits c = false := by
  simp only [outsideHost, endsHost, controls, List.mem_cons, List.not_mem_nil, or_false, Bool.or_eq_false_iff,
    decide_eq_false_iff_not, not_or] at h
  simp only [delimits, isEdgeFiller_eq, endsAuthority, endsPath, isSlash, Bool.false_and, Bool.or_false,
    Bool.or_eq_false_iff, decide_eq_false_iff_not]
  tauto

/-- A numeral is clean where digits are. -/
theorem clean_ofNat (hset : ∀ d : Fin 10, set d.val.digitChar = false) (n : Nat) :
    Clean set (Text.ofNat n) := by
  intro c hc
  obtain ⟨d, hd, rfl⟩ := IpAddress.of_mem_toDigits (by decide) hc
  exact hset ⟨d, hd⟩

theorem clean_marked {mark : Char} {part : Option Text} (hmark : set mark = false)
    (h : ∀ t ∈ part, Clean set t) : Clean set (marked mark part) := by
  cases part with
  | none => exact List.forall_mem_nil _
  | some t => exact List.forall_mem_cons.mpr ⟨hmark, h t rfl⟩

/-- Two texts are clean exactly if each of them is. -/
theorem clean_append {s : Text} : Clean set (s ++ t) ↔ Clean set s ∧ Clean set t := List.forall_mem_append

/-- There is nothing to take away from a text without filler. -/
theorem prepare_eq_self (h : Clean isEdgeFiller t) : prepare t = t := by
  have hdrop : ∀ s : Text, Clean isEdgeFiller s → s.dropWhile isEdgeFiller = s := by
    intro s hs
    cases s with
    | nil => rfl
    | cons c s => exact List.dropWhile_cons_of_neg (by simp [hs c List.mem_cons_self])
  have hreverse : Clean isEdgeFiller t.reverse := fun c hc => h c (List.mem_reverse.mp hc)
  rw [prepare, trimEdges, hdrop t h, hdrop _ hreverse, List.reverse_reverse, withoutFiller,
    List.filter_eq_self]
  intro c hc
  have hedge := h c hc
  by_contra hfiller
  simp only [isFiller, Bool.not_eq_true, Bool.not_eq_false', Bool.or_eq_true, decide_eq_true_eq] at hfiller
  rcases hfiller with (rfl | rfl) | rfl <;> exact absurd hedge (by decide)

/-! ## Paths -/

/-- Ordinary segments stay as they are. -/
theorem normalise_of_ordinary (h : ∀ s ∈ pieces, Ordinary s) :
    normalise before pieces = before ++ pieces := by
  fun_induction normalise before pieces with
  | case1 => exact (List.append_nil _).symm
  | case2 before last =>
    have hlast := h last List.mem_cons_self
    rw [closeSegments, hlast.noDots, hlast.noDot]
    rfl
  | case3 before piece more _ ih =>
    have hpiece := h piece List.mem_cons_self
    have henter : enterSegment before piece = before ++ [piece] := by
      rw [enterSegment, hpiece.noDots, hpiece.noDot]
      rfl
    rw [ih fun s hs => h s (List.mem_cons_of_mem _ hs), henter, List.append_assoc]
    rfl

theorem isSlash_false : isSlash false = fun c => decide (c = '/') := by
  funext c
  simp [isSlash]

/-- A path of settled segments is **read as it is written**. -/
theorem readPath_render (h : ∀ s ∈ list, Settled s) :
    readPath false (UrlPath.segments list).render = list := by
  by_cases hlist : list = []
  · rw [hlist]
    rfl
  · have hescaped : list.map (escape pathSet) = list :=
      (List.map_congr_left fun s hs => escape_eq_self (h s hs).clean).trans (List.map_id' list)
    rw [render_eq hlist]
    change readSegments false _ = list
    rw [readSegments, isSlash_false, ← Text.splitOn,
      Text.splitOn_intercalate hlist fun s hs => (h s hs).noSlash, hescaped,
      normalise_of_ordinary fun s hs => (h s hs).toOrdinary, List.nil_append]

/-- A path is clean where its segments and slashes are. -/
theorem clean_render (hslash : set '/' = false) (h : ∀ s ∈ list, Clean set s) :
    Clean set (UrlPath.segments list).render := by
  intro c hc
  obtain ⟨s, hs, hc⟩ := List.mem_flatMap.mp hc
  rcases List.mem_cons.mp hc with rfl | hc
  · exact hslash
  · exact h s hs c hc

/-! ## Hosts -/

/-- A host that **reading leaves alone**: an address in brackets in the one way it is written, or a
plain one with nothing to be escaped. -/
inductive SettledHost : Text → Prop
  | plain {host : Text} (filled : host ≠ []) (clean : Clean outsideHost host) : SettledHost host
  | bracketed {groups : List UInt16} (eight : groups.length = 8) :
      SettledHost ('[' :: IpAddress.compressed groups ++ [']'])

/-- A host that has been read is settled. -/
theorem settledHost_of_readPlainHost {host : Text} (h : readPlainHost t = .ok host) (hne : host ≠ []) :
    SettledHost host := by
  unfold readPlainHost at h
  split at h
  · unfold bracketedHost at h
    split at h
    next =>
      split at h
      next groups hread =>
        cases h
        obtain ⟨_, hgroups, hlength⟩ := IpAddress.length_of_readV6? hread
        cases hgroups
        exact .bracketed hlength
      next => cases h
    next => cases h
  · split at h
    next => cases h
    next hends =>
      cases h
      refine .plain hne (clean_escape (by decide) fun c hc hcontrol => ?_)
      -- What would end the host was refused before, so only controls are left to be escaped.
      have hhost : endsHost c = false := by
        by_contra hbad
        exact hends (List.any_eq_true.mpr ⟨c, hc, Bool.not_eq_false _ ▸ hbad⟩)
      rw [outsideHost, hhost, hcontrol, Bool.or_false]

namespace SettledHost

variable {host : Text}

theorem ne_nil (h : SettledHost host) : host ≠ [] := by
  cases h with
  | plain filled => exact filled
  | bracketed => exact List.cons_ne_nil _ _

/-- A settled host is read back. -/
theorem readPlainHost_eq (h : SettledHost host) : readPlainHost host = .ok host := by
  cases h with
  | @plain host filled clean =>
    have hends : host.any endsHost = false := by
      rw [List.any_eq_false]
      intro c hc
      have := clean c hc
      simp only [outsideHost, Bool.or_eq_false_iff] at this
      simp [this.1]
    have hcontrols : Clean controls host := clean.mono fun c hc => (Bool.or_eq_false_iff.mp hc).2
    have hbracket : ∀ inner, host ≠ '[' :: inner := by
      rintro inner rfl
      exact absurd (clean '[' List.mem_cons_self) (by decide)
    rw [readPlainHost]
    · rw [hends, escape_eq_self hcontrols]
      rfl
    · exact hbracket
  | bracketed eight =>
    rw [List.cons_append, readPlainHost, bracketedHost, List.getLast?_concat, List.dropLast_concat]
    simp only [IpAddress.readV6?_compressed eight]
    rfl

/-- What holds of a host's marks and digits and of what a plain host is written with holds of a
host. -/
theorem clean_of (h : SettledHost host) (hplain : ∀ c, outsideHost c = false → set c = false)
    (hmarks : set '[' = false ∧ set ']' = false ∧ set ':' = false)
    (hdigits : ∀ d : Fin 16, set d.val.digitChar = false) : Clean set host := by
  cases h with
  | plain _ clean => exact clean.mono hplain
  | bracketed =>
    rw [List.cons_append]
    refine List.forall_mem_cons.mpr ⟨hmarks.1, List.forall_mem_append.mpr ⟨?_, ?_⟩⟩
    · exact IpAddress.forall_mem_compressed hmarks.2.2 hdigits
    · exact List.forall_mem_singleton.mpr hmarks.2.1

end SettledHost

/-- What has no brackets, and no colon outside of them, is passed over. -/
theorem cutHost_append (inBrackets : Bool) {front : Text} (h : Clean (fun c => c = '[' || c = ']') front)
    (hcolon : inBrackets = false → ':' ∉ front) (t : Text) :
    cutHost inBrackets (front ++ t) = (front ++ (cutHost inBrackets t).1, (cutHost inBrackets t).2) := by
  induction front with
  | nil => rfl
  | cons c front ih =>
    obtain ⟨hc, hfront⟩ := List.forall_mem_cons.mp h
    simp only [Bool.or_eq_false_iff, decide_eq_false_iff_not] at hc
    have hstop : ¬(c = ':' ∧ (!inBrackets) = true) := by
      rintro ⟨rfl, hout⟩
      exact hcolon (by simpa using hout) List.mem_cons_self
    have hmore := ih hfront fun hout hmem => hcolon hout (List.mem_cons_of_mem _ hmem)
    rw [List.cons_append, cutHost, if_neg hstop, if_neg hc.1, if_neg hc.2, hmore]
    rfl

/-- A host is cut from the port behind it. -/
theorem SettledHost.cutHost_eq {host : Text} (h : SettledHost host) (port : Option Text) :
    cutHost false (host ++ marked ':' port) = (host, marked ':' port) := by
  have hport : cutHost false (marked ':' port) = ([], marked ':' port) := by
    cases port <;> rfl
  cases h with
  | @plain host _ clean =>
    have hbrackets : Clean (fun c => c = '[' || c = ']') host := by
      refine clean.mono fun c hc => ?_
      by_contra hbad
      simp only [Bool.not_eq_false, Bool.or_eq_true, decide_eq_true_eq] at hbad
      rcases hbad with rfl | rfl <;> exact absurd hc (by decide)
    have hcolon : ':' ∉ host := fun hmem => absurd (clean ':' hmem) (by decide)
    rw [cutHost_append false hbrackets fun _ => hcolon, hport, List.append_nil]
  | @bracketed groups eight =>
    have hbrackets : Clean (fun c => c = '[' || c = ']') (IpAddress.compressed groups) :=
      IpAddress.forall_mem_compressed (by decide) (by decide)
    have hclose : cutHost true (']' :: marked ':' port) = ([']'], marked ':' port) := by
      rw [cutHost, if_neg (by simp), if_neg (by decide), if_pos rfl, hport]
    rw [List.cons_append, List.cons_append, List.append_assoc, List.singleton_append, cutHost,
      if_neg (by decide), if_pos rfl, cutHost_append true hbrackets nofun, hclose]

end Url

/-! ## Authorities -/

namespace Authority

/-- The user name and password, without the mark behind them. -/
def credentials (a : Authority) : Text := a.username ++ marked ':' a.password

/-- The host and port. -/
def hostPort (a : Authority) : Text := a.host ++ marked ':' (a.port.map fun port => Text.ofNat port.toNat)

/-- An authority that **reading leaves alone**. -/
structure Settled (a : Authority) : Prop where
  username : Clean userinfoSet a.username
  password : ∀ password ∈ a.password, password ≠ [] ∧ Clean userinfoSet password
  host : SettledHost a.host

variable {a : Authority}

theorem render_eq (a : Authority) : a.render = a.userinfo ++ a.hostPort := by
  cases hport : a.port <;> simp [render, hostPort, hport, marked]

theorem userinfo_eq (a : Authority) :
    a.userinfo = if a.credentials = [] then [] else a.credentials ++ ['@'] := by
  cases hpassword : a.password with
  | none => simp [userinfo, credentials, hpassword, marked]
  | some password => simp [userinfo, credentials, hpassword, marked]

namespace Settled

/-- What no part of an authority holds. -/
theorem clean_credentials (h : a.Settled) (hset : ∀ c, userinfoSet c = false → set c = false)
    (hcolon : set ':' = false) : Clean set a.credentials :=
  clean_append.mpr ⟨h.username.mono hset, clean_marked hcolon fun _ hp => (h.password _ hp).2.mono hset⟩

/-- A settled host with its port is clean where hosts, brackets, colons and digits are. -/
theorem clean_hostPort (h : a.Settled) (hplain : ∀ c, outsideHost c = false → set c = false)
    (hmarks : set '[' = false ∧ set ']' = false ∧ set ':' = false)
    (hdigits : ∀ d : Fin 16, set d.val.digitChar = false) : Clean set a.hostPort := by
  refine clean_append.mpr ⟨h.host.clean_of hplain hmarks hdigits, clean_marked hmarks.2.2 ?_⟩
  intro t ht
  obtain ⟨port, -, rfl⟩ := Option.map_eq_some_iff.mp ht
  exact clean_ofNat (fun d => hdigits ⟨d, by omega⟩) _

/-- A settled authority does not end before its end. -/
theorem clean_render (h : a.Settled) : Clean delimits a.render := by
  have hcredentials : Clean delimits a.credentials :=
    h.clean_credentials (fun _ => delimits_of_userinfoSet) (by decide)
  rw [render_eq, clean_append, userinfo_eq]
  refine ⟨?_, h.clean_hostPort (fun _ => delimits_of_outsideHost) (by decide) (by decide)⟩
  split
  · exact List.forall_mem_nil _
  · exact clean_append.mpr ⟨hcredentials, List.forall_mem_singleton.mpr (by decide)⟩

/-- The last `@` is the one behind the password. -/
theorem cutAtLast_render (h : a.Settled) :
    (Text.cutAtLast '@' a.render).getD ([], a.render) = (a.credentials, a.hostPort) := by
  have hat : '@' ∉ a.hostPort := by
    have hclean : Clean (· = '@') a.hostPort := by
      refine h.clean_hostPort (fun c hc => decide_eq_false ?_) (by decide) (by decide)
      rintro rfl
      exact absurd hc (by decide)
    exact fun hmem => absurd rfl (of_decide_eq_false (hclean '@' hmem))
  rw [render_eq, userinfo_eq]
  split
  next hnone =>
    rw [List.nil_append, Text.cutAtLast_eq_none hat, hnone]
    rfl
  next =>
    rw [List.append_assoc, List.singleton_append, Text.cutAtLast_append _ hat]
    rfl

/-- Settled credentials are read back. -/
theorem readUserinfo_credentials (h : a.Settled) : readUserinfo a.credentials = (a.username, a.password) := by
  have hcolon : ':' ∉ a.username := fun hmem => absurd (h.username ':' hmem) (by decide)
  have husername := escape_eq_self h.username
  cases hpassword : a.password with
  | none =>
    rw [credentials, hpassword, marked, List.append_nil, readUserinfo, Text.cutAt_eq_none hcolon, husername]
  | some password =>
    obtain ⟨hne, hclean⟩ := h.password password hpassword
    obtain ⟨c, more, rfl⟩ := List.exists_cons_of_ne_nil hne
    rw [credentials, hpassword, marked, readUserinfo, Text.cutAt_append _ hcolon]
    simp only [husername, escape_eq_self hclean]

/-- A port is read back where no port is implied. -/
theorem readPort_ofNat (hport : impliedPort? scheme = none) (port : UInt16) :
    readPort scheme (Text.ofNat port.toNat) = .ok (some port, []) := by
  have hdigit : ∀ c ∈ Text.ofNat port.toNat, c.isDigit = true := fun _ hc => Text.isDigit_of_mem_ofNat hc
  have htake : (Text.ofNat port.toNat).takeWhile Char.isDigit = Text.ofNat port.toNat :=
    List.takeWhile_eq_self_iff.mpr hdigit
  have hdrop : (Text.ofNat port.toNat).dropWhile Char.isDigit = [] := List.dropWhile_eq_nil_iff.mpr hdigit
  have hvalue : Nat.ofDigitChars 10 (Text.ofNat port.toNat) 0 = port.toNat := by
    simp [Text.ofNat]
  have hne : Text.ofNat port.toNat ≠ [] := Nat.toDigits_ne_nil
  have hfits : ¬UInt16.size ≤ port.toNat := Nat.not_le.mpr port.toNat_lt
  rw [readPort, htake, hdrop, hvalue, hport]
  simp [hfits, hne]

/-- A settled host with its port is read back. -/
theorem readHostPort_hostPort (h : a.Settled) (hplain : isSpecial scheme = false) :
    readHostPort scheme a.hostPort = .ok (a.host, a.port, []) := by
  have himplied : impliedPort? scheme = none := by
    simpa using (Bool.or_eq_false_iff.mp hplain).1
  rw [readHostPort, hostPort, h.host.cutHost_eq]
  cases hport : a.port with
  | none => simp [hplain, h.host.readPlainHost_eq, marked, bind, Except.bind, pure, Except.pure]
  | some port =>
    simp [hplain, h.host.readPlainHost_eq, h.host.ne_nil, marked, readPort_ofNat himplied, bind, Except.bind,
      pure, Except.pure]

end Settled

end Authority

namespace Url

/-! ## Reading settles -/

variable {u : Url}

theorem escape_ne_nil (h : t ≠ []) : escape set t ≠ [] := by
  obtain ⟨c, rest, rfl⟩ := List.exists_cons_of_ne_nil h
  intro hnone
  have hfirst := List.flatMap_eq_nil_iff.mp hnone c List.mem_cons_self
  split at hfirst
  next =>
    have hencoded : String.utf8EncodeChar c ≠ [] := by
      intro hnil
      have hlength := String.length_utf8EncodeChar c
      have hsize := c.utf8Size_pos
      rw [hnil, List.length_nil] at hlength
      omega
    obtain ⟨b, bytes, hbytes⟩ := List.exists_cons_of_ne_nil hencoded
    rw [hbytes] at hfirst
    cases hfirst
  next => cases hfirst

/-- Escapes in credentials are not escaped again. -/
theorem userinfoSet_spares : SparesEscapes userinfoSet := by decide

/-- Credentials that have been read are settled. -/
theorem settled_readUserinfo {username : Text} {password : Option Text}
    (h : readUserinfo t = (username, password)) :
    Clean userinfoSet username ∧ ∀ p ∈ password, p ≠ [] ∧ Clean userinfoSet p := by
  have hescaped : ∀ s : Text, Clean userinfoSet (escape userinfoSet s) := fun s =>
    clean_escape userinfoSet_spares fun _ _ hc => hc
  unfold readUserinfo at h
  split at h
  · cases h
    exact ⟨hescaped _, nofun⟩
  · cases h
    exact ⟨hescaped _, nofun⟩
  next _ _ password hne _ =>
    cases h
    refine ⟨hescaped _, ?_⟩
    rintro _ ⟨⟩
    exact ⟨escape_ne_nil hne, hescaped _⟩

/-- A host with a port is read as a host alone is. -/
theorem readPlainHost_of_readHostPort {host : Text} {port : Option UInt16} {left : Text}
    (h : readHostPort scheme t = .ok (host, port, left)) (hplain : isSpecial scheme = false) :
    ∃ hostText, readPlainHost hostText = .ok host := by
  unfold readHostPort at h
  refine ⟨(cutHost false t).1, ?_⟩
  simp only [hplain, Bool.false_eq_true, false_and, if_false, bind, Except.bind, pure, Except.pure, throw,
    throwThe, MonadExceptOf.throw] at h
  split at h
  · cases h
  next found hfound =>
    rw [hfound]
    split at h
    · cases h
      rfl
    · split at h
      · cases h
      · split at h
        · cases h
        · cases h
          rfl

/-- The authority of a URL that is not one of the web's is left alone when it is read again,
provided that it names a host. -/
theorem settled_of_readAuthority (h : readAuthority scheme t = .ok u) (hplain : isSpecial scheme = false)
    (hhost : u.host? ≠ none) :
    ∃ a list, u.authority = some a ∧ a.Settled ∧ u.path = .segments list ∧ ∀ s ∈ list, Settled s := by
  unfold readAuthority at h
  simp only [bind, Except.bind, pure, Except.pure, throw, throwThe, MonadExceptOf.throw] at h
  split at h
  · cases h
  · split at h
    · cases h
    next found hfound =>
      split at h
      · cases h
      · cases h
        obtain ⟨hostText, hhostText⟩ := readPlainHost_of_readHostPort hfound hplain
        have hne : found.1 ≠ [] := fun hnone => hhost (by simp [host?, assemble, hnone])
        obtain ⟨husername, hpassword⟩ := settled_readUserinfo (t := _) rfl
        rw [hplain]
        exact ⟨_, _, rfl, ⟨husername, hpassword, settledHost_of_readPlainHost hhostText hne⟩, rfl,
          fun s => settled_of_mem_readPath⟩

/-! ## URLs -/

/-- A URL with no query and no fragment that **reading leaves alone**. -/
structure Rests (u : Url) (a : Authority) (list : List Text) : Prop where
  authority : u.authority = some a
  settled : a.Settled
  path : u.path = .segments list
  segments : ∀ s ∈ list, Settled s
  query : u.query = none
  fragment : u.fragment = none

variable {a : Authority}

/-- What is dropped at the ends of a URL or ends its path. -/
def leavesPath (c : Char) : Bool := isEdgeFiller c || endsPath c

/-- A settled path holds nothing that ends it. -/
theorem clean_leavesPath (h : ∀ s ∈ list, Settled s) : Clean leavesPath (UrlPath.segments list).render := by
  refine clean_render (by decide) fun s hs c hc => ?_
  have hslash : c ≠ '/' := fun hc' => (h s hs).noSlash (hc' ▸ hc)
  have hdelimits := delimits_of_pathSet ((h s hs).clean c hc) hslash
  simp only [delimits, endsAuthority, Bool.or_eq_false_iff] at hdelimits
  rw [leavesPath, hdelimits.1, hdelimits.2.2, Bool.or_false]

/-- A settled path that is written is assembled to the same URL. -/
theorem assemble_render (authority : Option Authority) (h : ∀ s ∈ list, Settled s) :
    assemble scheme authority (fun path => .segments (readPath false path)) (UrlPath.segments list).render =
      ⟨scheme, authority, .segments list, none, none⟩ := by
  have hends : ∀ c ∈ (UrlPath.segments list).render, (!endsPath c) = true := by
    intro c hc
    rw [(Bool.or_eq_false_iff.mp (clean_leavesPath h c hc)).2]
    rfl
  rw [assemble, List.takeWhile_eq_self_iff.mpr hends, List.dropWhile_eq_nil_iff.mpr hends, readPath_render h]
  rfl

/-- A settled authority with a settled path is read back. -/
theorem readAuthority_render (ha : a.Settled) (hlist : ∀ s ∈ list, Settled s)
    (hplain : isSpecial scheme = false) :
    readAuthority scheme (a.render ++ (UrlPath.segments list).render) =
      .ok ⟨scheme, some a, .segments list, none, none⟩ := by
  have hends : ∀ c ∈ a.render, (!endsAuthority false c) = true := by
    intro c hc
    rw [(Bool.or_eq_false_iff.mp (ha.clean_render c hc)).2]
    rfl
  have hfront : (a.render ++ (UrlPath.segments list).render).takeWhile (! endsAuthority false ·) =
      a.render := by
    rw [List.takeWhile_append_of_pos hends]
    cases list <;> simp [UrlPath.render, endsAuthority, isSlash]
  have hback : (a.render ++ (UrlPath.segments list).render).dropWhile (! endsAuthority false ·) =
      (UrlPath.segments list).render := by
    rw [List.dropWhile_append_of_pos hends]
    cases list <;> simp [UrlPath.render, endsAuthority, isSlash]
  have hhostPort : a.hostPort ≠ [] := List.append_ne_nil_of_left_ne_nil ha.host.ne_nil _
  rw [readAuthority, hplain]
  simp only [hfront, hback, ha.cutAtLast_render, ha.readUserinfo_credentials, ha.readHostPort_hostPort hplain,
    hhostPort, ha.host.ne_nil, false_and, and_false, if_false, bind, Except.bind, pure, Except.pure,
    List.nil_append, assemble_render (some a) hlist]

/-- A URL that reading leaves alone **reads as it is written**. -/
theorem Rests.parse_render (h : u.Rests a list) (hscheme : u.scheme = "rtsp".toList) :
    parse u.render = .ok u := by
  obtain ⟨scheme, authority, path, query, fragment⟩ := u
  obtain ⟨rfl, hsettled, rfl, hlist, rfl, rfl⟩ := h
  dsimp only at hscheme
  subst hscheme
  have hrender : render ⟨"rtsp".toList, some a, .segments list, none, none⟩ =
      "rtsp://".toList ++ (a.render ++ (UrlPath.segments list).render) := by
    simp [render, beforePath, marked]
  have hprepare : prepare (render ⟨"rtsp".toList, some a, .segments list, none, none⟩) =
      "rtsp://".toList ++ (a.render ++ (UrlPath.segments list).render) := by
    rw [hrender, prepare_eq_self]
    refine clean_append.mpr ⟨by decide, clean_append.mpr ⟨?_, ?_⟩⟩
    · exact hsettled.clean_render.mono fun c hc => (Bool.or_eq_false_iff.mp hc).1
    · exact (clean_leavesPath hlist).mono fun c hc => (Bool.or_eq_false_iff.mp hc).1
  rw [parse, hprepare]
  exact readAuthority_render hsettled hlist rfl

end Url

end MediaProxy
