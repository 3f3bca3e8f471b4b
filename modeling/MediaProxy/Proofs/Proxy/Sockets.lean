import Mathlib.Data.List.Perm.Basic
import MediaProxy.Proofs.Proxy.Scene

/-!
# Whose the sockets are

Of all the relays that a proxy ever made, those that are open belong to sessions that are registered
(`perm_openOnes`): an entry that is over has closed its relays, and an entry that is not over is
under its key. So the account that every order keeps over all sessions that ever were is an account
over the registered ones. Whatever has happened, the host's sockets are one inbound and one outbound
socket for every open relay of a registered session, next to those of other programs
(`Scene.accounts_run`); and a proxy without sessions leaves every address free that others do not
have.
-/

namespace MediaProxy

open Registry

variable {β : Type}

/-! ## The relays of registered sessions -/

/-- The relays of a session, by its number. -/
def Floor.relaysOf (f : Floor β) (n : SessionId) : List Relay :=
  match f.sessions[n]? with
  | none => []
  | some s => [s.relays.rtp, s.relays.rtcp]

/-- The relays of the sessions that a proxy's clients have. -/
def Proxy.relays (p : Proxy β) : List Relay :=
  p.clients.flatMap fun client =>
    match p.session? client with
    | none => []
    | some (_, s) => [s.relays.rtp, s.relays.rtcp]

/-- The relays of a floor are those of its sessions, one after another. -/
theorem Floor.relays_eq (f : Floor β) :
    f.relays = (List.range f.sessions.length).flatMap f.relaysOf := by
  obtain ⟨_, _, sessions, _⟩ := f
  simp only [relays]
  induction sessions with
  | nil => rfl
  | cons s rest ih =>
    rw [List.flatMap_cons, ih, List.length_cons, List.range_succ_eq_map, List.flatMap_cons,
      List.flatMap_map]
    rfl

/-- What comes to nothing need not be gone through. -/
theorem flatMap_filter_eq {α γ : Type} {f : α → List γ} {q : α → Bool} {l : List α}
    (h : ∀ a ∈ l, q a = false → f a = []) : (l.filter q).flatMap f = l.flatMap f := by
  induction l with
  | nil => rfl
  | cons a rest ih =>
    obtain ⟨ha, hrest⟩ := List.forall_mem_cons.mp h
    rw [List.flatMap_cons, ← ih hrest]
    cases hq : q a with
    | true => rw [List.filter_cons_of_pos hq, List.flatMap_cons]
    | false => rw [List.filter_cons_of_neg (by simp [hq]), ha hq, List.nil_append]

namespace Registry

variable [Backend β] {r : Sessions β}

/-- Only one key is bound to a session. -/
theorem Orderly.ids_nodup (h : Orderly r) : (r.bound.map Prod.snd).Nodup := by
  refine List.Nodup.map_on ?_ (List.Nodup.of_map Prod.fst h.keys_nodup)
  rintro ⟨key, n⟩ hb ⟨key', m⟩ hb' (rfl : n = m)
  obtain ⟨entry, he, rfl, -⟩ := (h.bound_iff key n).mp hb
  obtain ⟨entry', he', rfl, -⟩ := (h.bound_iff key' n).mp hb'
  rw [Option.some.inj (he.symm.trans he')]

/-- A session under no key has no open relay. -/
theorem Orderly.openOnes_relaysOf (h : Orderly r) {n : SessionId} (hn : n ∉ r.bound.map Prod.snd) :
    Relay.openOnes (r.world.relaysOf n) = [] := by
  unfold Floor.relaysOf
  split
  next => rfl
  next s hs =>
    have hlt : n < r.entries.length := h.sessions ▸ (List.getElem?_eq_some_iff.mp hs).1
    obtain ⟨s', hs', hm⟩ := h.matched n _ (List.getElem?_eq_getElem hlt)
    obtain rfl := Option.some.inj (hs.symm.trans hs')
    have hfired : r.entries[n].stage.gate.isFired = true := by
      by_contra hne
      rw [Bool.not_eq_true] at hne
      exact hn (List.mem_map_of_mem (f := Prod.snd)
        ((h.bound_iff _ n).mpr ⟨_, List.getElem?_eq_getElem hlt, rfl, hne⟩))
    obtain ⟨body, hbody⟩ := (isFired_gate_iff _).mp hfired
    have hclosed := (hm.concluded body hbody).2
    have hrtp : s.relays.rtp.closed = true := hclosed false
    have hrtcp : s.relays.rtcp.closed = true := hclosed true
    simp [Relay.openOnes, hrtp, hrtcp]

/-- The open ones among all relays that ever were are those of the sessions under a key. -/
theorem Orderly.perm_openOnes (h : Orderly r) :
    (Relay.openOnes r.world.relays).Perm
      ((r.bound.map Prod.snd).flatMap fun n => Relay.openOnes (r.world.relaysOf n)) := by
  have hids : ((List.range r.world.sessions.length).filter (· ∈ r.bound.map Prod.snd)).Perm
      (r.bound.map Prod.snd) := by
    refine (List.perm_ext_iff_of_nodup (List.nodup_range.filter _) h.ids_nodup).mpr ?_
    intro n
    rw [List.mem_filter, decide_eq_true_eq, List.mem_range, and_iff_right_iff_imp]
    intro hn
    obtain ⟨⟨key, _⟩, hb, rfl⟩ := List.mem_map.mp hn
    exact h.sessions ▸ h.sound.bound_lt _ hb
  rw [Floor.relays_eq, Relay.openOnes, List.filter_flatMap]
  refine .trans (.of_eq (flatMap_filter_eq ?_).symm) (hids.flatMap_right _)
  intro n _ hn
  exact h.openOnes_relaysOf (by simpa using hn)

end Registry

namespace Proxy

variable [Backend β] {p : Proxy β}

/-- What clients have are the sessions under their keys. -/
theorem relays_eq (h : Orderly p.registry) :
    p.relays = (p.registry.bound.map Prod.snd).flatMap p.registry.world.relaysOf := by
  rw [relays, clients, keys, List.flatMap_map, List.flatMap_map]
  refine List.flatMap_congr ?_
  rintro ⟨key, n⟩ hb
  obtain ⟨s, entry, hs, -⟩ := session?_of_bound h hb
  simp [hs, Floor.relaysOf, ((session?_eq_some_iff h).mp hs).2]

/-- The relays that are open are those of the sessions under keys. -/
theorem perm_openOnes (h : Orderly p.registry) :
    (Relay.openOnes p.registry.world.relays).Perm (Relay.openOnes p.relays) := by
  rw [relays_eq h, Relay.openOnes, Relay.openOnes,
    List.filter_flatMap (l := p.registry.bound.map Prod.snd)]
  exact h.perm_openOnes

end Proxy

/-! ## Every run -/

namespace Scene

variable [Backend β] {s : Scene β} {targets : List SocketAddress}

/-- The sockets of a host are **accounted** for: there is one inbound and one outbound socket for
each open relay of a session that a client has, and all others are those of other programs. The
backend of every session is at work. -/
structure Accounts (targets : List SocketAddress) (s : Scene β) : Prop where
  inbound : s.proxy.registry.world.site.host.bound.Perm
    (s.others ++ (Relay.openOnes s.proxy.relays).map Relay.inbound)
  outbound : s.proxy.registry.world.site.host.outbound.Perm
    (targets ++ (Relay.openOnes s.proxy.relays).map Relay.target)
  busy : ∀ client n t, s.proxy.session? client = some (n, t) →
    s.proxy.registry.isFinished t.backend = false
  /-- What can be bound is what neither others nor open relays keep. -/
  free : ∀ a, s.proxy.registry.world.site.host.isFree a = true ↔
    (∀ b ∈ s.others, a.collides b = false) ∧
      ∀ r ∈ Relay.openOnes s.proxy.relays, a.collides r.inbound = false
  vacant : s.proxy.clients = [] → ∀ a, s.proxy.registry.world.site.host.isFree a = true ↔
    ∀ b ∈ s.others, a.collides b = false

/-- The sockets of a fit scene are those of the sessions' relays and those of others. -/
theorem Fit.accounts (h : s.Fit targets) : s.Accounts targets := by
  have hopen := Proxy.perm_openOnes h.orderly
  have hbound := h.holds.bound.trans ((hopen.map Relay.inbound).append_left s.others)
  have hfree : ∀ a, s.proxy.registry.world.site.host.isFree a = true ↔
      (∀ b ∈ s.others, a.collides b = false) ∧
        ∀ r ∈ Relay.openOnes s.proxy.relays, a.collides r.inbound = false := by
    intro a
    simp only [Host.isFree, List.all_eq_true, Bool.not_eq_true', hbound.mem_iff, List.mem_append,
      or_imp, forall_and, List.forall_mem_map]
  refine ⟨hbound, h.holds.outbound.trans ((hopen.map _).append_left _), ?_, hfree, ?_⟩
  · intro client n t ht
    obtain ⟨entry, he, hfired, -, hm⟩ := Proxy.matches_of_session? h.orderly ht
    rw [hm.backend]
    exact (h.orderly.armed h.settled he hfired).2
  · intro hnone a
    have hnil : s.proxy.relays = [] := by rw [Proxy.relays, hnone, List.flatMap_nil]
    simp [hfree, hnil, Relay.openOnes]

/-- **No socket is leaked and none is given up too early.** After every finite sequence of orders,
on any host and in front of any media server, all sockets are accounted for. -/
theorem accounts_run (basis : Basis) (host : Host) (backends : β) (orders : List Order) :
    ((idle basis host backends).run orders).Accounts host.outbound :=
  ((fit_idle basis host backends).run orders).accounts

end Scene

end MediaProxy
