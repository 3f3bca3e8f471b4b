import MediaProxy.Proofs.Proxy.Undisturbed

/-!
# Stops in any order

What the end of one session leaves of the proxy, apart from what is told of it and what the media
server makes of it, is one function of what there was (`Registry.windUp`), and such functions
commute: workers are done, relays are closed and keys are given up in either order with the same
result. So it makes no difference in which order some clients have their sessions stopped
(`Scene.Fit.stops_agree`): each of them still has its session when its turn comes, since no other
stop disturbs it.
-/

namespace MediaProxy

open Registry

/-! ## What completions come to -/

namespace Latch

theorem modify_comm {α : Type} (f : α → α) (i j : Nat) (l : List α) :
    (l.modify i f).modify j f = (l.modify j f).modify i f := by
  by_cases h : i = j
  · rw [h]
  · exact List.modify_modify_ne f f l h

/-- It makes no difference which of two registrations is told first. -/
theorem notify_comm (o : Observers) (a b : Registration) :
    notify (notify o a) b = notify (notify o b) a := by
  cases ha : a.signal <;> cases hb : b.signal <;>
    simp [notify, ha, hb, Observers.done, Observers.raise, modify_comm]

/-- Two latches may be finished in either order. -/
theorem finish_comm (l l' : Latch) (o : Observers) :
    (l'.finish (l.finish o).2.2).2.2 = (l.finish (l'.finish o).2.2).2.2 := by
  have hswap : l'.registrations.foldl notify (l.registrations.foldl notify o) =
      l.registrations.foldl notify (l'.registrations.foldl notify o) := by
    rw [← List.foldl_append, ← List.foldl_append]
    exact List.perm_append_comm.foldl_eq' (fun a _ b _ o => notify_comm o a b) o
  unfold finish
  cases l.isDone <;> cases l'.isDone <;> simp [hswap]

/-- What becomes of a latch that is finished does not depend on the observers. -/
theorem finish_latch (l : Latch) (o o' : Observers) : (l.finish o).2.1 = (l.finish o').2.1 := by
  unfold finish
  cases l.isDone <;> rfl

end Latch

namespace Registry

variable {κ σ : Type}

theorem finish_of_some {r : Registry κ σ} {w : WorkerId} {l : Latch} (hl : r.latches[w]? = some l) :
    (r.finish w).2 = { r with
      latches := r.latches.set w (l.finish r.observers).2.1
      observers := (l.finish r.observers).2.2 } := by
  rw [finish, hl]

/-- Finishing a worker leaves the latches of the others alone. -/
theorem latches_finish_of_ne (r : Registry κ σ) {v w : WorkerId} (hne : v ≠ w) :
    (r.finish v).2.latches[w]? = r.latches[w]? := by
  cases hv : r.latches[v]? with
  | none => rw [finish_of_none hv]
  | some l =>
    rw [finish_of_some hv]
    exact List.getElem?_set_ne hne

/-- It makes no difference which of two workers is done first. -/
theorem finish_comm (r : Registry κ σ) (v w : WorkerId) :
    ((r.finish v).2.finish w).2 = ((r.finish w).2.finish v).2 := by
  by_cases hne : v = w
  · rw [hne]
  have hv' := latches_finish_of_ne r (Ne.symm hne)
  have hw' := latches_finish_of_ne r hne
  cases hv : r.latches[v]? with
  | none => rw [finish_of_none hv, finish_of_none (hv'.trans hv)]
  | some l =>
    cases hw : r.latches[w]? with
    | none => rw [finish_of_none hw, finish_of_none (hw'.trans hw)]
    | some l' =>
      rw [finish_of_some (hw'.trans hw), finish_of_some (hv'.trans hv), finish_of_some hv,
        finish_of_some hw]
      simp only [Latch.finish_comm l l', List.set_comm _ _ hne,
        l.finish_latch (l'.finish r.observers).2.2 r.observers,
        l'.finish_latch (l.finish r.observers).2.2 r.observers]

end Registry

/-! ## What closing relays comes to -/

namespace Relay

/-- What becomes of a relay that is closed does not depend on the host. -/
theorem close_fst (r : Relay) (s s' : Site) : (r.close s).1 = (r.close s').1 := by
  unfold close shutdown
  cases r.closed
  · simp [Latch.finish_latch r.latch s.observers s'.observers]
  · rfl

/-- It makes no difference which of two relays is closed first. -/
theorem close_comm (r r' : Relay) (s : Site) :
    (r'.close (r.close s).2).2 = (r.close (r'.close s).2).2 := by
  unfold close shutdown
  cases r.closed <;> cases r'.closed <;>
    simp [Host.release, Host.disconnect, List.erase_comm, Latch.finish_comm]

namespace Pair

theorem close_fst (p : Pair) (s s' : Site) : (p.close s).1 = (p.close s').1 := by
  rw [close_eq, close_eq, Relay.close_fst p.rtp s s', Relay.close_fst p.rtcp _ (p.rtp.close s').2]

theorem close_snd (p : Pair) (s : Site) :
    (p.close s).2 = [p.rtp, p.rtcp].foldl (fun s r => (r.close s).2) s := rfl

/-- The relays of two sessions may be closed in either order. -/
theorem close_comm (p p' : Pair) (s : Site) :
    (p'.close (p.close s).2).2 = (p.close (p'.close s).2).2 := by
  rw [close_snd, close_snd, close_snd, close_snd, ← List.foldl_append, ← List.foldl_append]
  exact List.perm_append_comm.foldl_eq' (fun r _ r' _ s => Relay.close_comm r r' s) s

end Pair

end Relay

/-- What becomes of a session that is silenced does not depend on the host. -/
theorem Session.silenced_congr (s : Session) (site site' : Site) : s.silenced site = s.silenced site' := by
  rw [silenced, silenced, Relay.Pair.close_fst]

/-! ## The end of a session, without what is told of it -/

namespace Registry

variable {β : Type} {r : Sessions β}

/-- The registry without the media server and without what is written. -/
def bare (r : Sessions β) : Registry ClientKey (Site × List Session) :=
  r.mapWorld fun f => (f.site, f.sessions)

/-- Where relays work after those of a session have been closed, if there is that session. -/
def siteWithout (n : SessionId) (world : Site × List Session) : Site :=
  ((world.2[n]?).map fun s => (s.relays.close world.1).2).getD world.1

/-- What the **end of a session** leaves. -/
def windUp (r : Registry ClientKey (Site × List Session)) (n : SessionId) :
    Registry ClientKey (Site × List Session) :=
  { (r.finish n).2 with
    entries := r.entries.modify n fun entry => { entry with stage := .concluded (.returns none) }
    bound := r.bound.filter (·.2 ≠ n)
    world := (siteWithout n r.world, r.world.2.modify n fun s => s.silenced r.world.1) }

/-- Two sessions may give their sockets back in either order. -/
theorem siteWithout_comm {m n : SessionId} (hne : m ≠ n) (world : Site × List Session)
    (f g : Session → Session) :
    siteWithout n (siteWithout m world, world.2.modify m f) =
      siteWithout m (siteWithout n world, world.2.modify n g) := by
  simp only [siteWithout, List.getElem?_modify, if_neg hne, if_neg hne.symm]
  cases world.2[m]? <;> cases world.2[n]? <;> simp [Relay.Pair.close_comm]

/-- It makes no difference which of two sessions ends first. -/
theorem windUp_comm (r : Registry ClientKey (Site × List Session)) (m n : SessionId) :
    (r.windUp m).windUp n = (r.windUp n).windUp m := by
  by_cases hne : m = n
  · rw [hne]
  have hsilenced : ∀ (site : Site) (s : Session), s.silenced site = s.silenced r.world.1 :=
    fun site s => s.silenced_congr site r.world.1
  have hbound := List.filter_comm (fun b : ClientKey × EntryId => decide (b.2 ≠ n))
    (fun b => decide (b.2 ≠ m)) r.bound
  simp only [windUp, finish_mk, finish_comm r m n, List.modify_modify_ne _ _ r.entries hne, hbound,
    siteWithout_comm hne r.world _ (fun s => s.silenced r.world.1), hsilenced (siteWithout _ _),
    List.modify_modify_ne _ _ r.world.2 hne]

variable [Backend β]

/-- The end of a session, bare of what is written and of the order of sockets, is to wind it up. -/
theorem Orderly.bare_ended {n : SessionId} {entry : Entry ClientKey} (h : Orderly r)
    (he : r.entries[n]? = some entry) (hs : entry.stage = .armed) :
    (r.ended n).bare = r.bare.windUp n := by
  obtain ⟨s, hsession, -⟩ := h.matched n entry he
  have hown : (entry.key, n) ∈ r.bound := (h.bound_iff _ n).mpr ⟨entry, he, rfl, by rw [hs]; rfl⟩
  have hbound : r.bound.filter (·.1 ≠ entry.key) = r.bound.filter (·.2 ≠ n) := by
    refine List.filter_congr fun b hb => decide_eq_decide.mpr (not_congr ⟨?_, ?_⟩)
    · exact fun hkey => h.bound_unique (hkey ▸ hb) hown
    · exact fun hn => h.key_unique (hn ▸ hb) hown
  have hset : r.world.sessions.modify n (fun s => s.silenced r.world.site) =
      r.world.sessions.set n (s.silenced r.world.site) := by
    rw [List.modify_eq_set_getElem?, hsession]
    rfl
  rw [h.ended_eq he hs hsession, hbound]
  simp only [bare, mapWorld, windUp, finish_mk, siteWithout, hsession, hset]
  rfl

end Registry

/-! ## Some stops, one after another -/

/-- The client whose session is to end. -/
def Amp.StopRequest.client (r : Amp.StopRequest) : ClientKey := .of r.host r.port

variable {β : Type} [Backend β]

/-- What the **stops** of the sessions of some numbers have made of a proxy. -/
structure Proxy.Stops (p : Proxy β) (ns : List SessionId) (p' : Proxy β) : Prop where
  basis : p'.basis = p.basis
  bare : p'.registry.bare = ns.foldl windUp p.registry.bare
  backends : p'.registry.world.backends =
    ns.foldl (fun b n => Backend.halt n (Backend.halt n b)) p.registry.world.backends
  journal : p'.registry.world.journal = p.registry.world.journal ++ ns.flatMap (Event.ofEnd · false)

namespace Scene

variable {s : Scene β} {targets : List SocketAddress}

/-- What some orders are **answered** with, one after another. -/
def replies (s : Scene β) : List Order → List Reply
  | [] => []
  | order :: rest => (s.obey order).1 :: (s.obey order).2.replies rest

/-- One stop of a client that has a session. -/
theorem Fit.obey_stop (h : s.Fit targets) {request : Amp.StopRequest} {n : SessionId}
    (hb : (request.client, n) ∈ s.proxy.registry.bound) :
    s.obey (.stop request) = (.stopped, { s with proxy := { s.proxy with
      registry := s.proxy.registry.ended n } }) := by
  rw [Scene.obey, Proxy.stop_eq h.orderly h.settled hb]

/-- Stops of different clients that all have sessions. -/
theorem Fit.run_stops (h : s.Fit targets) {requests : List Amp.StopRequest}
    {number : Amp.StopRequest → SessionId}
    (hnumbers : ∀ request ∈ requests, (request.client, number request) ∈ s.proxy.registry.bound)
    (hnodup : (requests.map Amp.StopRequest.client).Nodup) :
    s.replies (requests.map .stop) = List.replicate requests.length .stopped ∧
    (s.run (requests.map .stop)).others = s.others ∧
    s.proxy.Stops (requests.map number) (s.run (requests.map .stop)).proxy := by
  induction requests generalizing s with
  | nil => exact ⟨rfl, rfl, rfl, rfl, rfl, (List.append_nil _).symm⟩
  | cons request rest ih =>
    obtain ⟨hfresh, hdistinct⟩ := List.nodup_cons.mp hnodup
    obtain ⟨hb, hothers⟩ := List.forall_mem_cons.mp hnumbers
    obtain ⟨entry, he, hkey, harmed, hwork⟩ := h.orderly.entry_of_bound h.settled hb
    obtain ⟨t, ht, -⟩ := h.orderly.matched _ _ he
    have hended := h.orderly.ended_eq he harmed ht
    have hobey := h.obey_stop hb
    have hfit := h.obey (.stop request)
    rw [hobey] at hfit
    -- The key that is gone is none of those whose sessions are still to be stopped.
    have hleft : ∀ request' ∈ rest, (request'.client, number request') ∈
        (s.proxy.registry.ended (number request)).bound := by
      intro request' hrequest'
      have hne : request'.client ≠ entry.key := by
        rw [hkey]
        exact fun heq => hfresh (heq ▸ List.mem_map_of_mem hrequest')
      rw [hended]
      exact List.mem_filter.mpr ⟨hothers request' hrequest', by simpa using hne⟩
    obtain ⟨hreplies, hrest, hstops⟩ := ih hfit hleft hdistinct
    have hrun : s.run ((request :: rest).map .stop) =
        (s.obey (.stop request)).2.run (rest.map .stop) := rfl
    rw [hrun, hobey]
    refine ⟨?_, hrest, hstops.basis, ?_, ?_, ?_⟩
    · rw [List.map_cons, replies, hobey, List.length_cons, List.replicate_succ]
      exact congrArg _ hreplies
    · rw [hstops.bare, h.orderly.bare_ended he harmed]
      rfl
    · rw [hstops.backends, hended]
      rfl
    · rw [hstops.journal, hended, hwork, List.append_assoc]
      rfl

/-- Two scenes **agree**: all is the same, but for the order in which the journal tells of ends. The
media server's side is the same if it makes no difference to that in which order backends are asked
to stop. -/
structure Agree (s s' : Scene β) : Prop where
  basis : s'.proxy.basis = s.proxy.basis
  others : s'.others = s.others
  registry : s'.proxy.registry = { s.proxy.registry with world := s'.proxy.registry.world }
  site : s'.proxy.registry.world.site = s.proxy.registry.world.site
  sessions : s'.proxy.registry.world.sessions = s.proxy.registry.world.sessions
  /-- The same ends are told, each as a whole, in one order or another. -/
  journal : ∃ (before : List Event) (ns ns' : List SessionId),
    s.proxy.registry.world.journal = before ++ ns.flatMap (Event.ofEnd · false) ∧
    s'.proxy.registry.world.journal = before ++ ns'.flatMap (Event.ofEnd · false) ∧ ns'.Perm ns
  backends : (∀ v w (b : β), Backend.halt w (Backend.halt v b) = Backend.halt v (Backend.halt w b)) →
    s'.proxy.registry.world.backends = s.proxy.registry.world.backends

/-- Scenes in which the same sessions have been stopped agree, in whatever order it was. -/
theorem agree_of_stops {s₁ s₂ : Scene β} {ns₁ ns₂ : List SessionId} (hothers : s₂.others = s₁.others)
    (h₁ : s.proxy.Stops ns₁ s₁.proxy) (h₂ : s.proxy.Stops ns₂ s₂.proxy) (hperm : ns₂.Perm ns₁) :
    s₁.Agree s₂ := by
  have hbare : s₂.proxy.registry.bare = s₁.proxy.registry.bare := by
    rw [h₂.bare, h₁.bare]
    exact hperm.foldl_eq' (fun m _ n _ r => windUp_comm r m n) _
  obtain ⟨hentries, hbound, hlatches, hobservers, hworld⟩ := Registry.mk.inj hbare
  obtain ⟨hsite, hsessions⟩ := Prod.mk.inj hworld
  refine ⟨h₂.basis.trans h₁.basis.symm, hothers, ?_, hsite, hsessions,
    ⟨_, ns₁, ns₂, h₁.journal, h₂.journal, hperm⟩, fun hcomm => ?_⟩
  · change _ = Registry.mk s₁.proxy.registry.entries s₁.proxy.registry.bound s₁.proxy.registry.latches
      s₁.proxy.registry.observers s₂.proxy.registry.world
    rw [← hentries, ← hbound, ← hlatches, ← hobservers]
  · rw [h₂.backends, h₁.backends]
    refine hperm.foldl_eq' (fun m _ n _ b => ?_) _
    calc Backend.halt n (Backend.halt n (Backend.halt m (Backend.halt m b)))
        = Backend.halt n (Backend.halt m (Backend.halt m (Backend.halt n b))) := by
          rw [hcomm m n (Backend.halt m b), hcomm m n b]
      _ = Backend.halt m (Backend.halt m (Backend.halt n (Backend.halt n b))) := by
          rw [hcomm m n (Backend.halt m (Backend.halt n b)), hcomm m n (Backend.halt n b)]

/-- **Stops in any order.** Whichever of some clients has its session stopped first, each of them is
answered that it is stopped, and what is left is the same. -/
theorem Fit.stops_agree (h : s.Fit targets) {requests requests' : List Amp.StopRequest}
    (hnodup : (requests.map Amp.StopRequest.client).Nodup)
    (hclients : ∀ request ∈ requests, request.client ∈ s.proxy.clients)
    (hperm : requests.Perm requests') :
    s.replies (requests.map .stop) = List.replicate requests.length .stopped ∧
    s.replies (requests'.map .stop) = List.replicate requests'.length .stopped ∧
    (s.run (requests.map .stop)).Agree (s.run (requests'.map .stop)) := by
  have hnumber : ∀ request ∈ requests,
      (request.client, (s.proxy.registry.lookup request.client).getD 0) ∈ s.proxy.registry.bound := by
    intro request hrequest
    obtain ⟨n, hb⟩ := mem_keys_iff.mp (hclients request hrequest)
    rw [h.orderly.lookup_eq_some_iff.mpr hb]
    exact hb
  obtain ⟨hreplies, hothers, hstops⟩ := h.run_stops hnumber hnodup
  obtain ⟨hreplies', hothers', hstops'⟩ := h.run_stops
    (fun request hrequest => hnumber request (hperm.mem_iff.mpr hrequest)) ((hperm.map _).nodup_iff.mp hnodup)
  exact ⟨hreplies, hreplies',
    agree_of_stops (hothers'.trans hothers.symm) hstops hstops' (hperm.symm.map _)⟩

end Scene

/-- **Clients do not disturb each other.** Whatever has happened to a proxy before, on any host and
in front of any media server: what concerns one client leaves the session of every other
undisturbed, and so the sessions of any clients may be stopped in any order. -/
theorem clients_do_not_disturb (basis : Basis) (host : Host) (backends : β) (orders : List Order) :
    let s := (Scene.idle basis host backends).run orders
    (∀ key order, s.Concerns key order → ∀ client n t, client ≠ key →
      s.proxy.session? client = some (n, t) → s.proxy.Undisturbed (s.obey order).2.proxy client n t) ∧
    ∀ requests requests' : List Amp.StopRequest, (requests.map Amp.StopRequest.client).Nodup →
      (∀ request ∈ requests, request.client ∈ s.proxy.clients) → requests.Perm requests' →
        s.replies (requests.map .stop) = List.replicate requests.length .stopped ∧
        s.replies (requests'.map .stop) = List.replicate requests'.length .stopped ∧
        (s.run (requests.map .stop)).Agree (s.run (requests'.map .stop)) := by
  intro s
  have hfit : s.Fit host.outbound := (Scene.fit_idle basis host backends).run orders
  exact ⟨fun key order hc client n t hne hsession => hfit.undisturbed hc hne hsession,
    fun requests requests' hnodup hclients hperm => hfit.stops_agree hnodup hclients hperm⟩

/-- The relays of a deaf client are closed, and another client has been given their ports. -/
theorem clients_do_not_disturb_deaf :
    (∃ n t, deafServed.proxy.session? (.of loopback 6100) = some (n, t) ∧
      deafServed.proxy.Undisturbed (deafServed.obey (.stop ⟨loopback, 6000⟩)).2.proxy
        (.of loopback 6100) n t) ∧
    deafServed.replies [.stop ⟨loopback, 6100⟩, .stop ⟨loopback, 6000⟩] = [.stopped, .stopped] ∧
    (deafServed.run [.stop ⟨loopback, 6000⟩, .stop ⟨loopback, 6100⟩]).Agree
      (deafServed.run [.stop ⟨loopback, 6100⟩, .stop ⟨loopback, 6000⟩]) := by
  obtain ⟨halone, horder⟩ := clients_do_not_disturb loopbackBasis .idle (⟨[]⟩ : Fates) deafClient
  have hsession : (deafServed.proxy.session? (.of loopback 6100)).isSome = true := by decide +kernel
  obtain ⟨⟨n, t⟩, ht⟩ := Option.isSome_iff_exists.mp hsession
  obtain ⟨-, hreplies, hagree⟩ := horder [⟨loopback, 6000⟩, ⟨loopback, 6100⟩]
    [⟨loopback, 6100⟩, ⟨loopback, 6000⟩] (by decide +kernel) (by decide +kernel) (.swap ..)
  exact ⟨⟨n, t, ht, halone _ _ (.stop rfl) _ n t (by decide +kernel) ht⟩, hreplies, hagree⟩

end MediaProxy
