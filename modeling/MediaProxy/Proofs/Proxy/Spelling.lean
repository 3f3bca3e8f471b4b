import MediaProxy.Proofs.Proxy.Routing

/-!
# Spellings of a client

A client is known by one text, which joins the host and the port of its requests. A numeral holds no
colon, so the text comes apart where it was joined, and all that two requests of one client can
differ in is the brackets around the colons of the host (`ClientKey.of_eq_iff`). So no host can be
written such that its text is that of another client.

A proxy finds the session of a client under all spellings of its host and under nothing else. Under
each of them the session is stopped and no second one is started; what is asked under any other host
or port leaves it undisturbed (`Proxy.Recognises`, `spellings_name_one_client`).
-/

namespace MediaProxy

open Registry

/-! ## Hosts -/

/-- A host that is **bare**: there are colons in it and no bracket in front of it. -/
def IsBare (host : Text) : Prop := ':' ∈ host ∧ host.head? ≠ some '['

instance (host : Text) : Decidable (IsBare host) := inferInstanceAs (Decidable (_ ∧ _))

/-- Two **spellings of one host**: a bare host may stand in brackets or not. -/
inductive SameHost : Text → Text → Prop
  | same (host : Text) : SameHost host host
  | bracketed {host : Text} (h : IsBare host) : SameHost host ('[' :: host ++ [']'])
  | unbracketed {host : Text} (h : IsBare host) : SameHost ('[' :: host ++ [']']) host

section Hosts

variable {host host' : Text} {port port' : UInt16}

/-- A host that needs brackets is written in them. -/
theorem hostText_of_isBare (h : IsBare host) : hostText host = '[' :: host ++ [']'] := if_pos h

/-- Any other host is written as it is. -/
theorem hostText_of_not_isBare (h : ¬IsBare host) : hostText host = host := if_neg h

/-- A host in brackets needs no others. -/
theorem not_isBare_bracketed (host : Text) : ¬IsBare ('[' :: host ++ [']']) := fun h => h.2 rfl

/-- Hosts are written the same in front of a port exactly if they are spellings of one host. -/
theorem hostText_eq_iff : hostText host = hostText host' ↔ SameHost host host' := by
  constructor
  · intro heq
    by_cases h : IsBare host <;> by_cases h' : IsBare host'
    · rw [hostText_of_isBare h, hostText_of_isBare h'] at heq
      obtain rfl : host = host' := List.append_cancel_right (List.cons.inj heq).2
      exact .same host
    · rw [hostText_of_isBare h, hostText_of_not_isBare h'] at heq
      exact heq ▸ .bracketed h
    · rw [hostText_of_not_isBare h, hostText_of_isBare h'] at heq
      exact heq ▸ .unbracketed h'
    · rw [hostText_of_not_isBare h, hostText_of_not_isBare h'] at heq
      exact heq ▸ .same host
  · intro hsame
    cases hsame with
    | same => rfl
    | bracketed h => rw [hostText_of_isBare h, hostText_of_not_isBare (not_isBare_bracketed host)]
    | unbracketed h => rw [hostText_of_isBare h, hostText_of_not_isBare (not_isBare_bracketed host')]

/-- What joins a host and a port comes apart at its last colon. -/
theorem joinHostPort_eq_iff :
    joinHostPort host port = joinHostPort host' port' ↔ hostText host = hostText host' ∧ port = port' := by
  have hcut (host : Text) (port : UInt16) : Text.cutAtLast ':' (joinHostPort host port) =
      some (hostText host, Text.ofNat port.toNat) :=
    Text.cutAtLast_append (hostText host) (Text.not_mem_ofNat (by decide) _)
  constructor
  · intro heq
    have hparts := (hcut host port).symm.trans (heq ▸ hcut host' port')
    obtain ⟨htext, hnumeral⟩ := Prod.mk.inj (Option.some.inj hparts)
    have hport : some port = some port' := by
      rw [← Text.readUInt16?_ofNat port, hnumeral, Text.readUInt16?_ofNat]
    exact ⟨htext, Option.some.inj hport⟩
  · rintro ⟨htext, rfl⟩
    exact congrArg (· ++ ':' :: Text.ofNat port.toNat) htext

/-- **A client is its port and its host**, however the host is spelled. -/
theorem ClientKey.of_eq_iff :
    ClientKey.of host port = .of host' port' ↔ port = port' ∧ SameHost host host' := by
  rw [← hostText_eq_iff, and_comm, ← joinHostPort_eq_iff]
  exact ClientKey.mk.injEq _ _ ▸ Iff.rfl

end Hosts

/-! ## Sessions -/

variable {β : Type} [Backend β]

/-- A proxy **recognises** the client that has a session. -/
structure Proxy.Recognises (p : Proxy β) (host : Text) (port : UInt16) (n : SessionId) (t : Session) :
    Prop where
  /-- The session is found under the spellings of the host, with the port, and under nothing else.
  -/
  found : ∀ host' port', p.session? (.of host' port') = some (n, t) ↔ port = port' ∧ SameHost host host'
  /-- Under each spelling this session is stopped, and no other. -/
  stops : ∀ host', SameHost host host' →
    ∃ q, p.stop ⟨host', port⟩ = (.ok (), q) ∧ p.StopsOnly (.of host port) n q
  /-- Under each spelling no second session is started. -/
  refuses : ∀ host' media, SameHost host host' →
    p.start ⟨host', port, media⟩ = (.error (.sessionExists (ClientKey.of host port).text), p)
  /-- What is asked by any other client leaves the session undisturbed. -/
  spares : ∀ host' port', ¬(port = port' ∧ SameHost host host') →
    p.Undisturbed (p.stop ⟨host', port'⟩).2 (.of host port) n t ∧
      ∀ media, p.Undisturbed (p.start ⟨host', port', media⟩).2 (.of host port) n t

namespace Scene

variable {s : Scene β} {targets : List SocketAddress} {host : Text} {port : UInt16} {n : SessionId}
  {t : Session}

/-- A session is found under all spellings of its client, and under no other. -/
theorem Fit.recognises (h : s.Fit targets) (hsession : s.proxy.session? (.of host port) = some (n, t)) :
    s.proxy.Recognises host port n t := by
  have hbound := ((Proxy.session?_eq_some_iff h.orderly).mp hsession).1
  -- All that the proxy asks of a client is its key, so two spellings of one key cannot differ.
  have hkey {host' : Text} (hsame : SameHost host host') : ClientKey.of host port = .of host' port :=
    ClientKey.of_eq_iff.mpr ⟨rfl, hsame⟩
  have hother {host' : Text} {port' : UInt16} (hdiffer : ¬(port = port' ∧ SameHost host host')) :
      ClientKey.of host port ≠ .of host' port' := mt ClientKey.of_eq_iff.mp hdiffer
  constructor
  · intro host' port'
    rw [← ClientKey.of_eq_iff]
    constructor
    · intro hsession'
      exact h.orderly.key_unique hbound ((Proxy.session?_eq_some_iff h.orderly).mp hsession').1
    · intro heq
      rwa [← heq]
  · intro host' hsame
    rw [hkey hsame] at hsession ⊢
    exact h.stopsOnly hsession
  · intro host' media hsame
    have hlookup : (s.proxy.registry.lookup (.of host' port)).isSome = true := by
      rw [← hkey hsame, h.orderly.lookup_eq_some_iff.mpr hbound]
      rfl
    rw [Proxy.start, if_pos hlookup, hkey hsame]
  · intro host' port' hdiffer
    constructor
    · rw [← proxy_obey_stop]
      exact h.undisturbed (.stop rfl) (hother hdiffer) hsession
    · intro media
      rw [← proxy_obey_start]
      exact h.undisturbed (.start rfl) (hother hdiffer) hsession

/-- A start that has left a session behind has put it under the client that asked. -/
theorem Fit.session_of_started {request : Amp.StartRequest} (h : s.Fit targets)
    (hstarted : (s.obey (.start request)).1 = .started false) :
    ∃ n t, (s.obey (.start request)).2.proxy.session? (.of request.host request.port) = some (n, t) := by
  have hdoes := h.does (.start request)
  have hfit := h.obey (.start request)
  rw [hstarted] at hdoes
  generalize (s.obey (.start request)).2 = s' at hdoes hfit
  cases hdoes with
  | started _ launched enlists =>
    have hbound := (enlists.bound_iff h.orderly).mpr (.inr ⟨rfl, rfl, rfl⟩)
    obtain ⟨u, _, hsession, -⟩ := Proxy.session?_of_bound hfit.orderly hbound
    exact ⟨_, u, launched.client ▸ hsession⟩

end Scene

/-- **The spellings of a host name one client.** Two requests are by one client exactly if they have
one port and their hosts are equal, or one of the hosts has colons and no bracket in front and the
other is that host in brackets. Whatever has happened to a proxy before, on any host and in front of
any media server: it recognises every client that has a session, and a start that has left a session
behind has made its client one of these. -/
theorem spellings_name_one_client (basis : Basis) (host : Host) (backends : β) (orders : List Order) :
    (∀ host₁ host₂ port₁ port₂, ClientKey.of host₁ port₁ = .of host₂ port₂ ↔
      port₁ = port₂ ∧ SameHost host₁ host₂) ∧
    let s := (Scene.idle basis host backends).run orders
    (∀ host port n t, s.proxy.session? (.of host port) = some (n, t) →
      s.proxy.Recognises host port n t) ∧
    ∀ request, (s.obey (.start request)).1 = .started false →
      ∃ n t, (s.obey (.start request)).2.proxy.Recognises request.host request.port n t := by
  refine ⟨fun _ _ _ _ => ClientKey.of_eq_iff, ?_⟩
  intro s
  have hfit : s.Fit host.outbound := (Scene.fit_idle basis host backends).run orders
  constructor
  · intro host port n t hsession
    exact hfit.recognises hsession
  · intro request hstarted
    obtain ⟨n, t, hsession⟩ := hfit.session_of_started hstarted
    exact ⟨n, t, (hfit.obey (.start request)).recognises hsession⟩

/-- A session of a literal without brackets is stopped under the literal with brackets. -/
theorem spellings_name_loopback :
    (deafServed.obey (.start ⟨"::1".toList, 6200, "c.ts".toList⟩)).1 = .started false ∧
    SameHost "::1".toList "[::1]".toList ∧
    ∃ n q, (deafServed.obey (.start ⟨"::1".toList, 6200, "c.ts".toList⟩)).2.proxy.stop
        ⟨"[::1]".toList, 6200⟩ = (.ok (), q) ∧
      (deafServed.obey (.start ⟨"::1".toList, 6200, "c.ts".toList⟩)).2.proxy.StopsOnly
        (.of "::1".toList 6200) n q := by
  have hstarted : (deafServed.obey (.start ⟨"::1".toList, 6200, "c.ts".toList⟩)).1 = .started false := by
    decide +kernel
  have hsame : SameHost "::1".toList "[::1]".toList := .bracketed (by decide)
  obtain ⟨-, -, hstart⟩ := spellings_name_one_client loopbackBasis .idle (⟨[]⟩ : Fates) deafClient
  obtain ⟨n, t, hrecognises⟩ := hstart _ hstarted
  exact ⟨hstarted, hsame, n, hrecognises.stops _ hsame⟩

end MediaProxy
