import Mathlib.Data.Finset.Card
import MediaProxy.Proofs.Proxy.Launching

/-!
# The clients that have a session

Seen from outside, a proxy is a set of clients. `Answers` says which reply an order may get when
these clients have sessions, and which clients have sessions then; nothing but the set decides
whether a start is refused because the client has a session, whether a stop is refused because it
has none, and how many sessions a shutdown stops. `Shows` says that the three views of a proxy agree
with the set. Whether a new backend is over already is for the connector to say, and a reply says
what it has said (`TellsTruly`).

Whatever happens to a proxy, it is such a set all the way (`tracks_idle`). It may lose a client by a
stop, by the end of a backend or by a shutdown, and in no other way: not by what its relays do, nor
by a start that fails.
-/

namespace MediaProxy

open Registry

variable {β : Type} [Backend β]

/-- What an order may be **answered** with when some clients have sessions, and which clients have
sessions then. A session whose backend was over as soon as it was open has come and gone. -/
inductive Answers (active : Finset ClientKey) : Order → Reply → Finset ClientKey → Prop where
  | exists_already {request : Amp.StartRequest} (has : .of request.host request.port ∈ active) :
      Answers active (.start request)
        (.refused (.sessionExists (ClientKey.of request.host request.port).text)) active
  | start_fails {request : Amp.StartRequest} (hasNone : .of request.host request.port ∉ active)
      {fault : Fault} (other : ∀ client, fault ≠ .sessionExists client) :
      Answers active (.start request) (.refused fault) active
  | started {request : Amp.StartRequest} (hasNone : .of request.host request.port ∉ active)
      (ended : Bool) :
      Answers active (.start request) (.started ended)
        (if ended then active else insert (.of request.host request.port) active)
  | stopped {request : Amp.StopRequest} (has : .of request.host request.port ∈ active) :
      Answers active (.stop request) .stopped (active.erase (.of request.host request.port))
  | unknown {request : Amp.StopRequest} (hasNone : .of request.host request.port ∉ active) :
      Answers active (.stop request)
        (.refused (.sessionUnknown (ClientKey.of request.host request.port).text)) active
  | all_stopped : Answers active .stopAll (.counted active.card) ∅
  | ended {client : ClientKey} : Answers active (.ends client) .silence (active.erase client)
  | traffic {order : Order} (traffic : order.isTraffic = true) : Answers active order .silence active

/-- A proxy **shows** some clients: its views agree that these have sessions, and no others. -/
structure Shows (active : Finset ClientKey) (p : Proxy β) : Prop where
  nodup : p.clients.Nodup
  clients : ∀ client, client ∈ p.clients ↔ client ∈ active
  count : p.sessionCount = active.card
  session : ∀ client, (p.session? client).isSome = true ↔ client ∈ active
  own : ∀ client n s, p.session? client = some (n, s) → s.client = client

/-- What a reply says of a new backend is **what the connector said** when it was opened. -/
def TellsTruly (s : Scene β) (order : Order) : Reply → Prop
  | .started ended => ∃ request f t, order = .start request ∧ s.proxy.StartSucceeds request f t ended
  | _ => True

/-- Through some orders a scene **tracks** a set of clients: every reply is one that the set allows,
after it the views agree with the set that comes of it, and a client that keeps its session keeps
the same one. -/
def Tracks (active : Finset ClientKey) (s : Scene β) : List Order → Prop
  | [] => Shows active s.proxy
  | order :: rest => Shows active s.proxy ∧ TellsTruly s order (s.obey order).1 ∧
      ∃ active', Answers active order (s.obey order).1 active' ∧
      (∀ client ∈ active, client ∈ active' →
        (s.obey order).2.proxy.registry.lookup client = s.proxy.registry.lookup client) ∧
      Tracks active' (s.obey order).2 rest

/-! ## What is bound after an operation -/

namespace Registry

variable {r r' : Sessions β} {ns : List SessionId} {key : ClientKey} {n : SessionId}

/-- What is under its key after some sessions have ended: all but these. -/
theorem Settles.bound_iff (h : Settles ns r r') (ho : Orderly r)
    (hfinished : ∀ n ∈ ns, r'.isFinished n = true) :
    (key, n) ∈ r'.bound ↔ (key, n) ∈ r.bound ∧ n ∉ ns := by
  rw [h.orderly.bound_iff, ho.bound_iff]
  constructor
  · rintro ⟨entry, he, hkey, hfired⟩
    have hn : n ∉ ns := by
      intro hn
      rw [h.orderly.isFired_of_finished h.settled he (hfinished n hn)] at hfired
      cases hfired
    exact ⟨⟨entry, (h.aside.entries n hn).symm.trans he, hkey, hfired⟩, hn⟩
  · rintro ⟨⟨entry, he, hkey, hfired⟩, hn⟩
    exact ⟨entry, (h.aside.entries n hn).trans he, hkey, hfired⟩

/-- What is under its key after a session has been enlisted: all that was, and the new one unless it
is over. -/
theorem Enlists.bound_iff {s : Session} {ended : Bool} (h : Enlists r r' s ended) (ho : Orderly r) :
    (key, n) ∈ r'.bound ↔ (key, n) ∈ r.bound ∨
      (ended = false ∧ key = s.client ∧ n = r.entries.length) := by
  rw [h.orderly.bound_iff, ho.bound_iff]
  by_cases hn : n = r.entries.length
  · subst hn
    obtain ⟨entry, he, hkey⟩ := h.entry
    have hnone : r.entries[r.entries.length]? = none := List.getElem?_eq_none (Nat.le_refl _)
    have hfired : entry.stage.gate.isFired = ended := by
      cases ended with
      | true => exact h.orderly.isFired_of_finished h.settled he h.finished
      | false =>
        -- If the entry had ended, its backend would be over.
        by_contra hne
        obtain ⟨body, hs⟩ := (isFired_gate_iff _).mp (Bool.not_eq_false _ ▸ hne)
        have := h.orderly.isFinished_of_concluded he hs
        rw [h.finished] at this
        cases this
    constructor
    · rintro ⟨entry', he', rfl, hf⟩
      obtain rfl := Option.some.inj (he.symm.trans he')
      exact .inr ⟨hfired.symm.trans hf, hkey, rfl⟩
    · rintro (⟨entry', he', -⟩ | ⟨rfl, rfl, -⟩)
      · rw [hnone] at he'
        cases he'
      · exact ⟨entry, he, hkey, hfired⟩
  · have hn' : n ∉ [r.entries.length] := by simpa using hn
    simp [h.aside.entries n hn', hn]

omit [Backend β] in
/-- A key is in use exactly if a session is under it. -/
theorem mem_keys_iff : key ∈ r.keys ↔ ∃ n, (key, n) ∈ r.bound := by
  simp [keys]

/-- A key that is bound to one number is bound to no other. -/
theorem Orderly.bound_unique (h : Orderly r) {m : SessionId} (hn : (key, n) ∈ r.bound)
    (hm : (key, m) ∈ r.bound) : n = m :=
  congrArg Prod.snd (List.inj_on_of_nodup_map h.keys_nodup hn hm rfl)

/-- After one session has ended its key is gone, and all other keys are as they were. -/
theorem Settles.mem_keys_iff (h : Settles [n] r r') (ho : Orderly r) (hb : (key, n) ∈ r.bound)
    (hfinished : r'.isFinished n = true) (key' : ClientKey) :
    key' ∈ r'.keys ↔ key' ≠ key ∧ key' ∈ r.keys := by
  have hbound : ∀ m, (key', m) ∈ r'.bound ↔ (key', m) ∈ r.bound ∧ m ≠ n := by
    intro m
    simpa using (h.bound_iff ho (by simpa using hfinished) : (key', m) ∈ r'.bound ↔ _)
  simp only [Registry.mem_keys_iff, hbound]
  constructor
  · rintro ⟨m, hm, hne⟩
    refine ⟨?_, m, hm⟩
    rintro rfl
    exact hne (ho.bound_unique hm hb)
  · rintro ⟨hne, m, hm⟩
    refine ⟨m, hm, ?_⟩
    rintro rfl
    obtain ⟨entry, he, hkey, -⟩ := (ho.bound_iff _ _).mp hm
    obtain ⟨entry', he', hkey', -⟩ := (ho.bound_iff _ _).mp hb
    obtain rfl := Option.some.inj (he.symm.trans he')
    exact hne (hkey.symm.trans hkey')

/-- Enlisting a session puts its key in use, unless the session is over at once. -/
theorem Enlists.mem_keys_iff {s : Session} {ended : Bool} (h : Enlists r r' s ended) (ho : Orderly r) :
    key ∈ r'.keys ↔ key ∈ r.keys ∨ (ended = false ∧ key = s.client) := by
  simp only [Registry.mem_keys_iff, h.bound_iff ho, exists_or, exists_and_left, exists_eq, and_true]

end Registry

/-! ## One order -/

section Order

variable {s : Scene β} {targets : List SocketAddress} {active : Finset ClientKey}

/-- The views of a fit scene agree with the set of its keys. -/
theorem shows_of_fit (h : s.Fit targets)
    (hkeys : ∀ client, client ∈ s.proxy.registry.keys ↔ client ∈ active) :
    Shows active s.proxy := by
  refine ⟨h.orderly.keys_nodup, hkeys, ?_, ?_, ?_⟩
  · have hset : s.proxy.registry.keys.toFinset = active := by
      ext client
      rw [List.mem_toFinset, hkeys]
    rw [← hset, List.toFinset_card_of_nodup h.orderly.keys_nodup]
    simp [Proxy.sessionCount, size, keys]
  · intro client
    rw [← hkeys]
    rcases s.proxy.bound_or_not_mem client with ⟨n, hb⟩ | hkey
    · obtain ⟨t, entry, ht, -⟩ := Proxy.session?_of_bound h.orderly hb
      simpa [ht] using Registry.mem_keys_iff.mpr ⟨n, hb⟩
    · simpa [Proxy.session?_of_not_mem h.orderly hkey] using hkey
  · intro client n t ht
    obtain ⟨entry, -, -, hclient, -⟩ := Proxy.matches_of_session? h.orderly ht
    exact hclient

/-- When a session has ended its client is erased, and whoever is left is bound as before. -/
theorem erases_of_settles (h : s.Fit targets)
    (hkeys : ∀ client, client ∈ s.proxy.registry.keys ↔ client ∈ active) {key : ClientKey}
    {n : SessionId} (hb : (key, n) ∈ s.proxy.registry.bound) {r : Sessions β}
    (hsettles : Settles [n] s.proxy.registry r)
    (hfinished : r.isFinished n = true) :
    (∀ client, client ∈ r.keys ↔ client ∈ active.erase key) ∧
    ∀ client m, (client, m) ∈ s.proxy.registry.bound → client ∈ active.erase key →
      (client, m) ∈ r.bound := by
  have hmem := hsettles.mem_keys_iff h.orderly hb hfinished
  refine ⟨fun client => by rw [hmem, hkeys, Finset.mem_erase], ?_⟩
  intro client m hm hclient
  obtain ⟨m', hm'⟩ := Registry.mem_keys_iff.mp ((hmem client).mpr
    ⟨(Finset.mem_erase.mp hclient).1, Registry.mem_keys_iff.mpr ⟨m, hm⟩⟩)
  have hwas := ((hsettles.bound_iff h.orderly (by simpa using hfinished)).mp hm').1
  exact h.orderly.bound_unique hwas hm ▸ hm'

/-- Whatever is done to a scene whose keys are a set, the reply and the keys after it are those of
the set, and what was bound and is bound still is bound to the same session. -/
theorem answers_of_does {order : Order} {reply : Reply} {s' : Scene β} (h : s.Fit targets)
    (hkeys : ∀ client, client ∈ s.proxy.registry.keys ↔ client ∈ active)
    (hd : s.Does order reply s') :
    ∃ active', Answers active order reply active' ∧
      (∀ client, client ∈ s'.proxy.registry.keys ↔ client ∈ active') ∧
      ∀ client n, (client, n) ∈ s.proxy.registry.bound → client ∈ active' →
        (client, n) ∈ s'.proxy.registry.bound := by
  cases hd with
  | exists_already has =>
    exact ⟨active, .exists_already ((hkeys _).mp has), hkeys, fun _ _ hb _ => hb⟩
  | start_fails hasNone other =>
    exact ⟨active, .start_fails (mt (hkeys _).mpr hasNone) other, hkeys, fun _ _ hb _ => hb⟩
  | @started request f t ended hasNone launched henlists =>
    refine ⟨_, .started (mt (hkeys _).mpr hasNone) ended, ?_, fun client n hb _ =>
      (henlists.bound_iff h.orderly).mpr (.inl hb)⟩
    intro client
    rw [henlists.mem_keys_iff h.orderly, launched.client, hkeys]
    cases ended <;> simp [or_comm]
  | stopped hb hsettles hfinished =>
    exact ⟨_, .stopped ((hkeys _).mp (Registry.mem_keys_iff.mpr ⟨_, hb⟩)),
      erases_of_settles h hkeys hb hsettles hfinished⟩
  | unknown hasNone => exact ⟨active, .unknown (mt (hkeys _).mpr hasNone), hkeys, fun _ _ hb _ => hb⟩
  | all_stopped hsettles hbound =>
    have hcount : s.proxy.registry.bound.length = active.card := (shows_of_fit h hkeys).count
    rw [hcount]
    exact ⟨∅, .all_stopped, by simp [keys, hbound], fun _ _ _ hnone =>
      absurd hnone (Finset.notMem_empty _)⟩
  | ended hb hsettles hfinished => exact ⟨_, .ended, erases_of_settles h hkeys hb hsettles hfinished⟩
  | @nothing client hasNone =>
    refine ⟨active.erase client, .ended, ?_⟩
    rw [Finset.erase_eq_of_notMem (mt (hkeys _).mpr hasNone)]
    exact ⟨hkeys, fun _ _ hb _ => hb⟩
  | traffic htraffic => exact ⟨active, .traffic htraffic, hkeys, fun _ _ hb _ => hb⟩

/-- A session is registered with a backend that is over or not as the connector has said. -/
theorem tellsTruly_of_fit (h : s.Fit targets) (order : Order) : TellsTruly s order (s.obey order).1 := by
  cases order with
  | start request =>
    rw [Scene.obey]
    split
    next p hstart =>
      obtain ⟨f, t, finished, hsucceeds, rfl⟩ := Proxy.of_start_ok h.orderly hstart
      have hlaunched := hsucceeds.launches
      have hfinished := (hlaunched.enlists h.orderly h.settled hsucceeds.client_not_mem finished).1.finished
      rw [← h.orderly.latches] at hfinished
      rw [hfinished]
      exact ⟨request, f, t, rfl, hsucceeds⟩
    next => trivial
  | stop request =>
    rw [Scene.obey]
    split <;> trivial
  | occupy address =>
    rw [Scene.obey]
    split <;> trivial
  | vacate address =>
    rw [Scene.obey]
    split <;> trivial
  | stopAll | ends | media | fail => trivial

end Order

/-! ## Every run -/

/-- A proxy whose keys are an abstract set tracks that set, whatever it is asked. -/
theorem tracks_of_fit {s : Scene β} {targets : List SocketAddress} {active : Finset ClientKey}
    (h : s.Fit targets) (hkeys : ∀ client, client ∈ s.proxy.registry.keys ↔ client ∈ active)
    (orders : List Order) : Tracks active s orders := by
  induction orders generalizing s active with
  | nil => exact shows_of_fit h hkeys
  | cons order rest ih =>
    obtain ⟨active', hanswers, hkeys', hkept⟩ := answers_of_does h hkeys (h.does order)
    have h' := h.obey order
    refine ⟨shows_of_fit h hkeys, tellsTruly_of_fit h order, active', hanswers, ?_, ih h' hkeys'⟩
    intro client hclient hclient'
    obtain ⟨n, hb⟩ := Registry.mem_keys_iff.mp ((hkeys client).mpr hclient)
    rw [h.orderly.lookup_eq_some_iff.mpr hb, h'.orderly.lookup_eq_some_iff]
    exact hkept client n hb hclient'

/-- **A proxy is the set of its clients.** Through every finite sequence of orders a proxy that
begins without sessions tracks the set that begins empty. -/
theorem tracks_idle (basis : Basis) (host : Host) (backends : β) (orders : List Order) :
    Tracks ∅ (Scene.idle basis host backends) orders :=
  tracks_of_fit (Scene.fit_idle basis host backends)
    (by simp [Scene.idle, Proxy.idle, Registry.empty, keys]) orders

end MediaProxy
