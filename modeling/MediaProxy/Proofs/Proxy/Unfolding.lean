import MediaProxy.Proofs.Proxy.Moments
import MediaProxy.Proofs.Proxy.Refusals
import MediaProxy.Proofs.Runs

/-!
# Every operation unfolds into moments

The operations of a proxy are made of moments and of nothing else. Each of them takes the proxy from
rest to rest (`Proxy.Becomes`): the two steps of an end are its cues, in the order of the course
(`becomes_trigger`, `becomes_conclude`), so whatever settles a registry or stops sessions is a run
of cues; and a start is the moments of a start (`run_start`), which announce a session exactly if
the start succeeds. So what is true of every run of moments is true of a proxy whatever it is asked
(`Scene.Fit.run_obey`).
-/

namespace MediaProxy

open Registry

variable {β : Type}

/-! ## The end of a session in moments -/

namespace Proxy

variable [Backend β]

/-- A proxy **becomes** another by moments, from rest to rest. -/
def Becomes (p p' : Proxy β) : Prop := ∃ trace, Run Midway.Step p.midway trace p'.midway

variable {p p' p'' : Proxy β} {r : Sessions β} {n : SessionId} {entry : Entry ClientKey} {s : Session}

theorem Becomes.refl (p : Proxy β) : p.Becomes p := ⟨[], .here _⟩

theorem Becomes.trans (h : p.Becomes p') (h' : p'.Becomes p'') : p.Becomes p'' := by
  obtain ⟨trace, hrun⟩ := h
  obtain ⟨trace', hrun'⟩ := h'
  exact ⟨trace ++ trace', hrun.trans hrun'⟩

omit [Backend β] in
/-- An end has come as far as the stage of its entry says. -/
theorem getElem?_ends (he : p.registry.entries[n]? = some entry) :
    p.midway.ends[n]? = some entry.stage.cues := by
  simp [midway, he]

omit [Backend β] in
/-- To change the stage of a session takes its own end further, and no other. -/
theorem cues_setStage (r : Sessions β) (n : EntryId) (stage : Stage) :
    (r.setStage n stage).entries.map (fun entry => entry.stage.cues) =
      (r.entries.map fun entry => entry.stage.cues).set n stage.cues := by
  refine List.ext_getElem? fun m => ?_
  rw [List.getElem?_map, getElem?_setStage, List.getElem?_set, List.getElem?_map, List.length_map]
  by_cases hm : n = m
  · subst hm
    by_cases hlt : n < r.entries.length
    · simp [hlt]
    · simp [hlt]
  · simp only [if_neg hm, Option.map_id']

/-- An end that goes on from rest to rest, while the others stay where they are. -/
theorem becomes_of_run {k k' : Nat} {trace : List Moment} (hends : p.midway.ends[n]? = some k)
    (hends' : p'.midway.ends = p.midway.ends.set n k')
    (hrun : Run Midway.Step ⟨p, .empty, p.midway.ends.set n k⟩ trace
      ⟨p', .empty, p.midway.ends.set n k'⟩) :
    p.Becomes p' := by
  obtain ⟨hlt, rfl⟩ := List.getElem?_eq_some_iff.mp hends
  rw [List.set_getElem_self hlt, ← hends'] at hrun
  exact ⟨trace, hrun⟩

/-- The next cue of an end that has had `k` of them. -/
theorem step_cue (p : Proxy β) (hand : Hand) {ends : List Nat} (k : Nat) (cue : Cue)
    (hn : n < ends.length) (hsession : p.registry.world.sessions[n]? = some s)
    (hnext : ∃ late, (Cue.course late)[k]? = some cue)
    (hawaited : ∀ done, cue = .asked done → p.registry.isFinished s.backend = done) :
    Midway.Step ⟨p, hand, ends.set n k⟩ (.cue n cue)
      ⟨{ p with registry := cue.perform n s p.registry }, hand, ends.set n (k + 1)⟩ := by
  have hstep := Midway.Step.cue (y := ⟨p, hand, ends.set n k⟩) (List.getElem?_set_self hn) hsession
    hnext hawaited
  rwa [List.set_set] at hstep

/-- A backend is over, if that is news. -/
theorem run_finish (p : Proxy β) (hand : Hand) (ends : List Nat) (w : WorkerId) :
    ∃ trace, Run Midway.Step ⟨p, hand, ends⟩ trace
      ⟨{ p with registry := (p.registry.finish w).2 }, hand, ends⟩ := by
  cases hw : p.registry.latches[w]? with
  | none =>
    rw [finish_of_none hw]
    exact ⟨[], .here _⟩
  | some latch =>
    cases hf : p.registry.isFinished w with
    | true =>
      rw [finish_of_isFinished hf]
      exact ⟨[], .here _⟩
    | false =>
      have hlt := (List.getElem?_eq_some_iff.mp hw).1
      exact ⟨[.finished w], .single (.finished (y := ⟨p, hand, ends⟩) hlt hf)⟩

/-- Whoever triggers an end asks the backend to stop, and by that it is over. -/
theorem becomes_trigger (ho : Orderly p.registry) (he : p.registry.entries[n]? = some entry)
    (hs : entry.stage = .armed) :
    p.Becomes { p with registry := trigger Session.contract n p.registry } := by
  obtain ⟨s, hsession, hm⟩ := ho.matched n entry he
  have hends : p.midway.ends[n]? = some 0 := by rw [getElem?_ends he, hs, Stage.cues]
  have hn := (List.getElem?_eq_some_iff.mp hends).1
  have htriggered := step_cue p .empty 0 .triggered hn hsession ⟨true, rfl⟩ fun _ => Cue.noConfusion
  have hasked := step_cue { p with registry := p.registry.setStage n .stopping } .empty 1
    (.asked (p.registry.isFinished n)) hn hsession ⟨_, rfl⟩ fun done h => by
      rw [hm.backend, ← Cue.asked.inj h]
      rfl
  simp only [Cue.perform, hm.backend] at hasked
  obtain ⟨trace, hover⟩ := run_finish { p with registry := { p.registry.setStage n .stopping with
    world := p.registry.world.halt n (p.registry.isFinished n) } } .empty (p.midway.ends.set n 2) n
  have hrun := Run.cons htriggered (.cons hasked hover)
  rw [← ho.trigger_eq he] at hrun
  refine becomes_of_run hends ?_ hrun
  exact (congrArg _ (entries_trigger he)).trans (cues_setStage ..)

/-- A session whose backend is over is released and its end announced. -/
theorem run_release {ends : List Nat} (hn : n < ends.length)
    (hsession : p.registry.world.sessions[n]? = some s)
    (hdone : p.registry.isFinished s.backend = true) :
    Run Midway.Step ⟨p, .empty, ends.set n 2⟩
      [.cue n (.asked true), .cue n .silenced, .cue n .ended]
      ⟨p.withFloor (Session.floorAfter n s p.registry), .empty, ends.set n 5⟩ := by
  have hasked : Midway.Step ⟨p, .empty, ends.set n 2⟩ (.cue n (.asked true))
      ⟨p.withFloor (p.registry.world.halt s.backend true), .empty, ends.set n 3⟩ :=
    step_cue p .empty 2 (.asked true) hn hsession ⟨true, rfl⟩ fun done h => Cue.asked.inj h ▸ hdone
  obtain ⟨w, hw⟩ : ∃ w, p.registry.world.halt s.backend true = w := ⟨_, rfl⟩
  have hsession₁ : w.sessions[n]? = some s := by rwa [← hw, Floor.sessions_halt]
  rw [hw] at hasked
  have hsilenced : Midway.Step ⟨p.withFloor w, .empty, ends.set n 3⟩ (.cue n .silenced)
      ⟨p.withFloor (s.silence n true w), .empty, ends.set n 4⟩ := by
    rw [← hdone]
    exact step_cue (p.withFloor w) .empty 3 .silenced hn hsession₁ ⟨true, rfl⟩ fun _ => Cue.noConfusion
  have hsession₂ : (s.silence n true w).sessions[n]? = some (s.silenced w.site) := by
    rw [Session.sessions_silence]
    exact List.getElem?_set_self (List.getElem?_eq_some_iff.mp hsession₁).1
  have hended : Midway.Step ⟨p.withFloor (s.silence n true w), .empty, ends.set n 4⟩
      (.cue n .ended) ⟨p.withFloor (Session.floorAfter n s p.registry), .empty, ends.set n 5⟩ := by
    have hfarewell := Session.farewell_silenced (r := (p.withFloor w).registry) hsession₁ true
    have hstep := step_cue (s := s.silenced w.site) (p.withFloor (s.silence n true w)) .empty 4 .ended
      hn hsession₂ ⟨true, rfl⟩ fun _ => Cue.noConfusion
    rw [Cue.perform] at hstep
    rw [Session.floorAfter, hdone, hw]
    rw [show Session.farewell n (p.withFloor (s.silence n true w)).registry = _ from hfarewell] at hstep
    exact hdone ▸ hstep
  exact .cons hasked (.cons hsilenced (.single hended))

/-- The cleanup of a session, cue by cue, once its backend is over. -/
theorem becomes_conclude (ho : Orderly p.registry) (he : p.registry.entries[n]? = some entry)
    (hs : entry.stage = .stopping) :
    p.Becomes { p with registry := conclude Session.contract n p.registry } := by
  obtain ⟨s, hsession, hm⟩ := ho.matched n entry he
  have hdone : p.registry.isFinished s.backend = true := by
    rw [hm.backend]
    exact hm.asked (by simp [hs])
  have hends : p.midway.ends[n]? = some 2 := by rw [getElem?_ends he, hs, Stage.cues]
  have hn := (List.getElem?_eq_some_iff.mp hends).1
  have hreleased := run_release hn hsession hdone
  have hsession' : (Session.floorAfter n s p.registry).sessions[n]? =
      some (s.silenced p.registry.world.site) :=
    (Session.getElem?_floorAfter hsession n).trans (if_pos rfl)
  have hremoved := step_cue (p.withFloor (Session.floorAfter n s p.registry)) .empty 5 .removed hn
    hsession' ⟨true, rfl⟩ fun _ => Cue.noConfusion
  have hconcluded := step_cue { p with
    registry := (Cue.removed.perform n (s.silenced p.registry.world.site)
      (p.withFloor (Session.floorAfter n s p.registry)).registry) } .empty 6 .concluded hn
    (by rw [Cue.perform, Session.sessions_leave]; exact hsession') ⟨true, rfl⟩ fun _ => Cue.noConfusion
  have hrun := hreleased.trans (.cons hremoved (.single hconcluded))
  have heq : conclude Session.contract n p.registry =
      (Session.leave n s.client (p.withFloor (Session.floorAfter n s p.registry)).registry).setStage n
        (.concluded (.returns none)) := by
    rw [Registry.conclude_eq he, hm.session]
    simp only [Session.contract, Session.cleanup_eq hsession]
    rfl
  rw [heq]
  refine becomes_of_run hends ?_ hrun
  exact (cues_setStage ..).trans (by rw [Session.entries_leave]; rfl)

/-- Whatever is due is done in moments. -/
theorem becomes_settle (ho : Orderly p.registry) :
    Orderly (settle Session.contract p.registry) ∧
      p.Becomes { p with registry := settle Session.contract p.registry } := by
  refine settle_induction (P := fun r => Orderly r ∧ p.Becomes { p with registry := r })
    ⟨ho, .refl p⟩ ?_
  rintro r n entry ⟨ho, hbecomes⟩ he hdue
  have hstage := stage?_of_getElem? he
  cases hs : entry.stage with
  | armed =>
    rw [hs] at hstage
    rw [proceed_of_armed hstage]
    exact ⟨ho.trigger he hs,
      hbecomes.trans (becomes_trigger (p := { p with registry := r }) ho he hs)⟩
  | stopping =>
    rw [hs] at hstage
    rw [proceed_of_stopping hstage]
    exact ⟨ho.conclude he hs,
      hbecomes.trans (becomes_conclude (p := { p with registry := r }) ho he hs)⟩
  | concluded body =>
    rw [not_isDue_concluded hs] at hdue
    cases hdue

/-- A stop that reaches a session triggers its end, unless somebody has done that. -/
theorem becomes_reach (ho : Orderly p.registry) (n : SessionId) :
    Orderly (reach Session.contract n p.registry).2 ∧
      p.Becomes { p with registry := (reach Session.contract n p.registry).2 } := by
  by_cases hstage : p.registry.stage? n = some .armed
  · obtain ⟨entry, he, hs⟩ := Option.map_eq_some_iff.mp hstage
    rw [reach_of_armed hstage]
    exact ⟨ho.trigger he hs, becomes_trigger ho he hs⟩
  · rw [reach_of_not_armed hstage]
    exact ⟨ho, .refl p⟩

/-! ## Stops in moments -/

/-- A stop that has reached a session, and what is due then. -/
theorem becomes_reach_settle (ho : Orderly p.registry) (n : SessionId) :
    Orderly (settle Session.contract (reach Session.contract n p.registry).2) ∧ p.Becomes { p with
      registry := settle Session.contract (reach Session.contract n p.registry).2 } := by
  obtain ⟨hreach, hbecomes⟩ := becomes_reach ho n
  obtain ⟨hsettle, hbecomes'⟩ :=
    becomes_settle (p := { p with registry := (reach Session.contract n p.registry).2 }) hreach
  exact ⟨hsettle, hbecomes.trans hbecomes'⟩

/-- A request for a stop is a run of moments. -/
theorem becomes_stop (ho : Orderly p.registry) (request : Amp.StopRequest) :
    p.Becomes (p.stop request).2 := by
  unfold stop
  cases hstop : stopOne Session.contract (ClientKey.of request.host request.port) p.registry with
  | none =>
    simp only [hstop]
    exact .refl p
  | some result =>
    obtain ⟨reply, r⟩ := result
    simp only [hstop]
    suffices hr : Orderly r ∧ p.Becomes { p with registry := r } from
      hr.2.trans (becomes_settle (p := { p with registry := r }) hr.1).2
    unfold stopOne beginStop at hstop
    cases hbound : p.registry.boundTo? (ClientKey.of request.host request.port) with
    | none =>
      simp only [hbound, Option.some.injEq, Prod.mk.injEq] at hstop
      exact hstop.2 ▸ ⟨ho, .refl p⟩
    | some n =>
      simp only [hbound] at hstop
      obtain ⟨body, hover, -, hr⟩ := of_finishStop hstop
      rw [entry_reach] at hover hr
      obtain ⟨entry, he, hs⟩ := Option.map_eq_some_iff.mp hover
      obtain ⟨ho', hbecomes⟩ := becomes_reach_settle ho n
      -- The cleanup has removed the session, so the stop finds nothing to remove.
      rw [ho'.remove_of_concluded he hs, ite_self] at hr
      exact hr ▸ ⟨ho', hbecomes⟩

/-- Stopping several sessions is a run of moments. -/
theorem becomes_stopEach (ho : Orderly p.registry) {chosen : List EntryId} {reply : Except Text Unit}
    (h : stopEach Session.contract chosen p.registry = some (reply, r)) :
    p.Becomes { p with registry := r } := by
  induction chosen generalizing p with
  | nil =>
    obtain ⟨-, rfl⟩ : .ok () = reply ∧ p.registry = r := by simpa [stopEach] using h
    exact .refl p
  | cons n rest ih =>
    obtain ⟨body, -, hrest⟩ := stopEach_cons h
    obtain ⟨ho', hbecomes⟩ := becomes_reach_settle ho n
    split at hrest
    · exact hrest.1 ▸ hbecomes
    · exact hbecomes.trans (ih (p := { p with
        registry := settle Session.contract (reach Session.contract n p.registry).2 }) ho' hrest)

/-- Stopping all sessions is a run of moments. -/
theorem becomes_stopAll (ho : Orderly p.registry) (hs : Settled p.registry) :
    p.Becomes p.stopAll.2 := by
  obtain ⟨r, heach, hsettles, hfinished⟩ := ho.stopEach hs (p.registry.bound.map Prod.snd) fun n hn => by
    obtain ⟨b, hb, rfl⟩ := List.mem_map.mp hn
    exact ho.sound.bound_lt b hb
  have hstop : Registry.stopAll Session.contract p.registry =
      some (.ok (p.registry.bound.map Prod.snd).length, r) := by
    rw [Registry.stopAll, heach]
    simp only [hsettles.orderly.foldl_remove hsettles.settled _ hfinished]
  unfold stopAll
  simp only [hstop, settle_of_settled hsettles.settled]
  exact becomes_stopEach ho heach

/-- The end of a backend is a run of moments. -/
theorem becomes_finishSession (ho : Orderly p.registry) (client : ClientKey) :
    p.Becomes (((p.finishSession client).map Prod.snd).getD p) := by
  unfold finishSession
  cases p.session? client with
  | none => exact .refl p
  | some found =>
    obtain ⟨trace, hrun⟩ := run_finish p .empty p.midway.ends found.2.backend
    have hover : p.Becomes { p with registry := (p.registry.finish found.2.backend).2 } := by
      refine ⟨trace, ?_⟩
      rw [midway, midway, entries_finish]
      exact hrun
    exact hover.trans (becomes_settle (p := { p with
      registry := (p.registry.finish found.2.backend).2 }) (ho.finish_unsettled _)).2

/-- Whatever stirs no more than relays is a run of moments. -/
theorem Stirs.becomes (h : p.Stirs p') : p.Becomes p' := by
  obtain ⟨f, rfl, hf⟩ := h
  exact ⟨[.stirred], .single (.stirred (y := p.midway) hf.evolves hf.journal)⟩

/-! ## A start in moments -/

/-- A launched session that has been put under its key. -/
theorem orderly_enlisted (ho : Orderly p.registry) {f : Floor β}
    (hf : f.sessions = p.registry.world.sessions) (done : Bool) (hkey : s.client ∉ p.registry.keys)
    (hbackend : s.backend = p.registry.latches.length) (hfails : s.Fails) :
    Orderly (((p.withFloor f).registry.withSession (if done then .finished else .fresh) s).enlisted
      Session.contract s.client p.registry.entries.length) := by
  have ho' : Orderly (p.withFloor f).registry := ho.refloor (by rw [hf]) fun m t ht =>
    ⟨t, by rw [hf]; exact ht, .refl t, id⟩
  exact ho'.enlist (by cases done <;> rfl) hkey hbackend hfails

/-- A session that has been opened is put under its key, its start is announced, and what is due is
done. -/
theorem run_enroll (ho : Orderly p.registry) {f : Floor β}
    (hf : f.sessions = p.registry.world.sessions) (done : Bool) (hkey : s.client ∉ p.registry.keys)
    (hbackend : s.backend = p.registry.latches.length) (hfails : s.Fails) :
    ∃ trace, Run Midway.Step
      ⟨⟨p.basis, (p.withFloor f).registry.withSession (if done then .finished else .fresh) s⟩,
        .session false, p.midway.ends⟩
      (.registered p.registry.entries.length :: .started p.registry.entries.length :: trace)
      (midway ⟨p.basis, p.registryAfter f s done⟩) := by
  have hnumber : p.midway.ends.length = p.registry.entries.length := List.length_map ..
  generalize hr : (p.withFloor f).registry.withSession (if done then .finished else .fresh) s = r
  have hlatest : r.world.sessions[p.registry.entries.length]? = some s := by
    rw [← ho.sessions, ← hf, ← hr]
    exact getElem?_withSession_self _
  have hfree : s.client ∉ r.keys := by
    rw [← hr]
    exact hkey
  have hregistered : Midway.Step ⟨⟨p.basis, r⟩, .session false, p.midway.ends⟩
      (.registered p.registry.entries.length) ⟨⟨p.basis,
        { r.entered Session.contract s.client p.registry.entries.length with
          world := r.world.note (.registered p.registry.entries.length) }⟩,
        .session true, p.midway.ends⟩ :=
    .registered rfl hnumber hlatest hfree
  have hstarted : Midway.Step ⟨⟨p.basis,
        { r.entered Session.contract s.client p.registry.entries.length with
          world := r.world.note (.registered p.registry.entries.length) }⟩,
        .session true, p.midway.ends⟩ (.started p.registry.entries.length)
      (midway ⟨p.basis, r.enlisted Session.contract s.client p.registry.entries.length⟩) := by
    have hentries : r.entries = p.registry.entries := hr ▸ rfl
    have hends : (midway ⟨p.basis, r.enlisted Session.contract s.client
        p.registry.entries.length⟩).ends = p.midway.ends ++ [0] := by
      simp [midway, enlisted, entered, hentries, Stage.cues]
    rw [show midway ⟨p.basis, r.enlisted Session.contract s.client p.registry.entries.length⟩ =
      ⟨_, .empty, p.midway.ends ++ [0]⟩ from congrArg (Midway.mk _ .empty) hends]
    have henlisted : r.enlisted Session.contract s.client p.registry.entries.length =
        { r.entered Session.contract s.client p.registry.entries.length with
          world := (r.world.note (.registered p.registry.entries.length)).note
            (.started p.registry.entries.length) } := by
      rw [← world_enlisted_session hlatest hfree]
      rfl
    rw [henlisted]
    exact .started rfl hnumber
  -- A backend that has finished by itself is due at once, so an end may follow.
  have ho' := orderly_enlisted ho hf done hkey hbackend hfails
  rw [hr] at ho'
  obtain ⟨-, trace, hsettle⟩ := becomes_settle (p := ⟨p.basis, _⟩) ho'
  refine ⟨trace, .cons hregistered (.cons hstarted ?_)⟩
  rw [registryAfter, hr]
  exact hsettle

/-- The floor on which the media server has been asked for a backend of two relays. -/
def calling (p : Proxy β) (request : Amp.StartRequest) (url : Url) (relays : Relay.Pair) (site : Site) :
    Floor β :=
  (p.launching relays site).registry.world.note (.connecting relays.rtp.inbound.port url.render
    (p.basis.logPath relays.rtp.inbound.port request.media))

/-- What comes of relays that have been started, on the floor where the media server has been asked.
-/
theorem engage_eq (p : Proxy β) (request : Amp.StartRequest) (url : Url) (relays : Relay.Pair)
    (site : Site) : (p.launching relays site).engage request url relays =
      match Backend.connect url relays.rtp.inbound.port
          (p.basis.logPath relays.rtp.inbound.port request.media) p.registry.world.backends with
      | (.error cause, backends) => (.error (.backendRefused cause), p.withFloor
          (Floor.giveUp relays { p.calling request url relays site with backends := backends }))
      | (.ok done, backends) =>
        (p.withFloor { p.calling request url relays site with backends := backends }).enroll
          (.planned request url relays) done := rfl

/-- Two relays have been allocated and started, and the media server has a backend for them or none.
-/
theorem run_engage (ho : Orderly p.registry) {request : Amp.StartRequest} {second : Text} {url : Url}
    {relays : Relay.Pair} {site : Site}
    (hkey : ClientKey.of request.host request.port ∉ p.registry.keys)
    (hprepare : prepare p.basis request = .ok (second, url))
    (hsearch : Relay.search p.basis.relayHost (ClientKey.of request.host request.port).text second
      p.basis.lowest p.basis.highest p.registry.world.site = (.ok relays, site)) :
    ∃ trace, Run Midway.Step p.midway trace
        ((p.launching (relays.start site).1 (relays.start site).2).engage request url
          (relays.start site).1).2.midway ∧
      match ((p.launching (relays.start site).1 (relays.start site).2).engage request url
          (relays.start site).1).1 with
      | .ok () => .started p.registry.world.sessions.length ∈ trace
      | .error _ => ∀ moment ∈ trace, moment.isHook = false := by
  have hfails := (allocated_of_search hsearch).fails
  have hlaunched : Midway.Step p.midway (.launched (relays.start site).1)
      ⟨p.launching (relays.start site).1 (relays.start site).2,
        .relays (.planned request url (relays.start site).1) false, p.midway.ends⟩ :=
    .launched rfl hprepare hsearch
  -- From here on the relays and the site are such as they are, wherever they come from.
  generalize (relays.start site).1 = pair at hlaunched hfails ⊢
  generalize (relays.start site).2 = site at hlaunched ⊢
  have hconnecting : Midway.Step _ _ ⟨p.withFloor (p.calling request url pair site),
      .relays (.planned request url pair) true, p.midway.ends⟩ :=
    .connecting (s := .planned request url pair) (y := ⟨p.launching pair site,
      .relays (.planned request url pair) false, p.midway.ends⟩) rfl
  have hcalled := Run.cons hlaunched (.single hconnecting)
  rw [engage_eq]
  split
  next cause backends hconnect =>
    have hgiven_up := Midway.Step.given_up (y := ⟨p.withFloor (p.calling request url pair site),
      .relays (.planned request url pair) true, p.midway.ends⟩) rfl rfl hconnect
    refine ⟨_, hcalled.trans (.single hgiven_up), ?_⟩
    simp [Moment.isHook]
  next done backends hconnect =>
    have hopened := Midway.Step.opened (y := ⟨p.withFloor (p.calling request url pair site),
      .relays (.planned request url pair) true, p.midway.ends⟩) rfl rfl hconnect
    rw [enroll_eq ho done (by rfl) hkey]
    obtain ⟨trace, henroll⟩ := run_enroll ho rfl done (f := { p.calling request url pair site with
      backends := backends }) (s := { Session.planned request url pair with
        backend := p.registry.latches.length }) hkey rfl hfails
    refine ⟨_, hcalled.trans (.cons hopened henroll), ?_⟩
    simp [ho.sessions]

/-- **A start in moments.** If it is refused, nobody is told of a session; if it is not, the start
of one session more is announced. -/
theorem run_start (ho : Orderly p.registry) (request : Amp.StartRequest) :
    ∃ trace, Run Midway.Step p.midway trace (p.start request).2.midway ∧
      match (p.start request).1 with
      | .ok () => .started p.registry.world.sessions.length ∈ trace
      | .error _ => ∀ moment ∈ trace, moment.isHook = false := by
  unfold start
  by_cases hkey : ClientKey.of request.host request.port ∈ p.registry.keys
  · simp only [if_pos ((isSome_lookup_iff ho _).mpr hkey)]
    exact ⟨[], .here _, List.forall_mem_nil _⟩
  simp only [if_neg (mt (isSome_lookup_iff ho _).mp hkey)]
  split
  next => exact ⟨[], .here _, List.forall_mem_nil _⟩
  next second url hprepare =>
    split
    next fault site hsearch =>
      obtain rfl := Relay.search_error hsearch
      exact ⟨[], .here _, List.forall_mem_nil _⟩
    next relays site hsearch => exact run_engage ho hkey hprepare hsearch

end Proxy

/-! ## Every order in moments -/

/-- Whether some moments **tell** what a start is answered: that the session of a number has
started, or of no session anything. -/
def Reply.ToldBy (n : SessionId) (trace : List Moment) : Order → Reply → Prop
  | .start _, .started _ => .started n ∈ trace
  | .start _, .refused _ => ∀ moment ∈ trace, moment.isHook = false
  | _, _ => True

namespace Scene

variable [Backend β] {s : Scene β} {targets : List SocketAddress}

/-- **What comes of an order comes of it in moments.** -/
theorem Fit.run_obey (h : s.Fit targets) (order : Order) :
    ∃ trace, Run Midway.Step s.proxy.midway trace (s.obey order).2.proxy.midway ∧
      (s.obey order).1.ToldBy s.proxy.registry.world.sessions.length trace order := by
  cases order with
  | start request =>
    obtain ⟨trace, hrun, htold⟩ := s.proxy.run_start h.orderly request
    rw [Scene.obey]
    generalize s.proxy.start request = result at hrun htold ⊢
    obtain ⟨fault | ⟨⟩, p⟩ := result
    · exact ⟨trace, hrun, htold⟩
    · exact ⟨trace, hrun, htold⟩
  | stop request =>
    obtain ⟨trace, hrun⟩ := s.proxy.becomes_stop h.orderly request
    rw [Scene.obey]
    generalize s.proxy.stop request = result at hrun ⊢
    obtain ⟨fault | ⟨⟩, p⟩ := result
    · exact ⟨trace, hrun, trivial⟩
    · exact ⟨trace, hrun, trivial⟩
  | stopAll =>
    obtain ⟨trace, hrun⟩ := Proxy.becomes_stopAll h.orderly h.settled
    exact ⟨trace, hrun, trivial⟩
  | ends client =>
    obtain ⟨trace, hrun⟩ := Proxy.becomes_finishSession h.orderly client
    exact ⟨trace, hrun, trivial⟩
  | media client control datagram =>
    obtain ⟨trace, hrun⟩ := (stirs_media client control datagram s.proxy).becomes
    exact ⟨trace, hrun, trivial⟩
  | fail client control reason =>
    obtain ⟨trace, hrun⟩ := (stirs_fail client control reason s.proxy).becomes
    exact ⟨trace, hrun, trivial⟩
  | occupy address =>
    rw [Scene.obey]
    split
    next bound p hp =>
      obtain ⟨host, -, rfl⟩ := Proxy.seize_ok hp
      exact ⟨[.stirred], .single (.stirred (y := s.proxy.midway) (.of_eq rfl) rfl), trivial⟩
    next => exact ⟨[], .here _, trivial⟩
  | vacate address =>
    rw [Scene.obey]
    split
    next =>
      exact ⟨[.stirred], .single (.stirred (y := s.proxy.midway) (.of_eq rfl) rfl), trivial⟩
    next => exact ⟨[], .here _, trivial⟩

/-- Whatever is ordered is a run of moments. -/
theorem run_midway (h : s.Fit targets) (orders : List Order) :
    ∃ trace, Run Midway.Step s.proxy.midway trace (s.run orders).proxy.midway := by
  induction orders generalizing s with
  | nil => exact ⟨[], .here _⟩
  | cons order rest ih =>
    obtain ⟨trace, hrun, -⟩ := h.run_obey order
    obtain ⟨trace', hrun'⟩ := ih (h.obey order)
    exact ⟨trace ++ trace', hrun.trans hrun'⟩

end Scene

end MediaProxy
