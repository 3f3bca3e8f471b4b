import MediaProxy.Proofs.Text.Cutting
import MediaProxy.Proofs.Text.Numerals
import MediaProxy.Rtsp.Transport

/-!
# A transport among other parameters

Which ports a header value gives a side is decided by its last parameter with the name of that side,
also when no ports can be read from it (`parse?_eq`). Parameters of other names say nothing about
either side, and white space around a parameter is not part of it. So whatever a server puts between
the parameters of a transport and around them, the transport is read from the value
(`Interspersed`), and what was read from any value is written in a form that is read the same.
-/

namespace MediaProxy.Rtsp.Transport

/-- What a parameter starts with that gives the ports of the receiver. -/
def clientName : Text := "client_port=".toList

/-- What a parameter starts with that gives the ports of the server. -/
def serverName : Text := "server_port=".toList

section Counting

variable {parameter name rest : Text} {parameters : List Text}

/-- The **ports given** under a name: those in the last parameter that starts with it. -/
def portsGiven (name : Text) (parameters : List Text) : Option (UInt16 × UInt16) :=
  (parameters.filterMap fun parameter => Text.after? name (Text.trim parameter)).getLast?.bind readPortPair?

/-- A later parameter of a name takes the place of earlier ones. -/
theorem portsGiven_concat_of_some (h : Text.after? name (Text.trim parameter) = some rest) :
    portsGiven name (parameters ++ [parameter]) = readPortPair? rest := by
  rw [portsGiven, List.filterMap_append, List.filterMap_cons, h, List.filterMap_nil, List.getLast?_concat,
    Option.bind_some]

/-- A parameter of another name changes nothing. -/
theorem portsGiven_concat_of_none (h : Text.after? name (Text.trim parameter) = none) :
    portsGiven name (parameters ++ [parameter]) = portsGiven name parameters := by
  rw [portsGiven, List.filterMap_append, List.filterMap_cons, h, List.filterMap_nil, List.append_nil,
    portsGiven]

/-- No parameter gives the ports of both sides. -/
theorem not_serverName_of_clientName (h : clientName <+: parameter) : ¬ serverName <+: parameter :=
  fun hserver => absurd (List.prefix_of_prefix_length_le h hserver (by decide)) (by decide)

theorem read_eq (pairs : Pairs) (parameter : Text) : pairs.read parameter =
    match Text.after? clientName (Text.trim parameter) with
    | some ports => { pairs with client := readPortPair? ports }
    | none =>
      match Text.after? serverName (Text.trim parameter) with
      | some ports => { pairs with server := readPortPair? ports }
      | none => pairs := rfl

/-- Of all that was read, what the last parameter of each name says is left. -/
theorem foldl_read_eq (parameters : List Text) : parameters.foldl Pairs.read ⟨none, none⟩ =
    ⟨portsGiven clientName parameters, portsGiven serverName parameters⟩ := by
  -- By induction from the end: the last of the parameters that give a port is the one that counts.
  induction parameters using List.reverseRecOn with
  | nil => rfl
  | append_singleton parameters parameter ih =>
    rw [List.foldl_concat, ih, read_eq]
    cases hclient : Text.after? clientName (Text.trim parameter) with
    | some rest =>
      have hserver : Text.after? serverName (Text.trim parameter) = none :=
        Text.after?_eq_none_iff.mpr
          (not_serverName_of_clientName ⟨rest, (Text.after?_eq_some_iff.mp hclient).symm⟩)
      rw [portsGiven_concat_of_some hclient, portsGiven_concat_of_none hserver]
    | none =>
      rw [portsGiven_concat_of_none hclient]
      cases hserver : Text.after? serverName (Text.trim parameter) with
      | some rest => rw [portsGiven_concat_of_some hserver]
      | none => rw [portsGiven_concat_of_none hserver]

/-- A header reads as the last ports given for the client and the last ones for the server. -/
theorem parse?_eq (value : Text) : parse? value =
    (portsGiven clientName (Text.splitOn ';' value)).map fun (rtp, rtcp) =>
      ⟨rtp, rtcp, portsGiven serverName (Text.splitOn ';' value)⟩ := by
  rw [parse?, foldl_read_eq]

end Counting

section Interspersing

variable {parameter name value : Text} {own pieces : List Text}

/-- A **foreign** parameter: whatever it says, it gives the ports of neither side. -/
structure Foreign (parameter : Text) : Prop where
  undivided : ';' ∉ parameter
  notClient : ¬ clientName <+: Text.trim parameter
  notServer : ¬ serverName <+: Text.trim parameter

instance (parameter : Text) : Decidable (Foreign parameter) :=
  decidable_of_iff (';' ∉ parameter ∧ ¬ clientName <+: Text.trim parameter ∧
    ¬ serverName <+: Text.trim parameter)
    ⟨fun ⟨h₁, h₂, h₃⟩ => ⟨h₁, h₂, h₃⟩, fun ⟨h₁, h₂, h₃⟩ => ⟨h₁, h₂, h₃⟩⟩

/-- Parameters in their order with **foreign ones in between**, in front and behind, and with any
white space around each. -/
inductive Interspersed : List Text → List Text → Prop
  | bare : Interspersed [] []
  | own {front parameter back : Text} {own pieces : List Text} (hfront : Text.isBlankText front = true)
      (hback : Text.isBlankText back = true) (rest : Interspersed own pieces) :
      Interspersed (parameter :: own) ((front ++ parameter ++ back) :: pieces)
  | foreign {parameter : Text} {own pieces : List Text} (hforeign : Foreign parameter)
      (rest : Interspersed own pieces) : Interspersed own (parameter :: pieces)

namespace Interspersed

/-- Foreign parameters say nothing under a name that none of them starts with, and white space
around a parameter says nothing at all. -/
theorem portsGiven_eq (h : Interspersed own pieces)
    (hname : ∀ parameter, Foreign parameter → ¬ name <+: Text.trim parameter) :
    portsGiven name pieces = portsGiven name own := by
  have hsame : (pieces.filterMap fun parameter => Text.after? name (Text.trim parameter)) =
      own.filterMap fun parameter => Text.after? name (Text.trim parameter) := by
    induction h with
    | bare => rfl
    | own hfront hback _ ih =>
      rw [List.filterMap_cons, List.filterMap_cons, Text.trim_padded hfront hback, ih]
    | foreign hforeign _ ih =>
      rw [List.filterMap_cons, Text.after?_eq_none_iff.mpr (hname _ hforeign), ih]
  rw [portsGiven, hsame, portsGiven]

/-- Parameters that are interspersed stay without separators. -/
theorem undivided (h : Interspersed own pieces) (hown : ∀ parameter ∈ own, ';' ∉ parameter) :
    ∀ piece ∈ pieces, ';' ∉ piece := by
  induction h with
  | bare => exact hown
  | @own front parameter back own pieces hfront hback _ ih =>
    have hsemicolon {blank : Text} (hblank : Text.isBlankText blank = true) : ';' ∉ blank := fun hmem =>
      absurd (Text.isBlankText_iff.mp hblank ';' hmem) (by decide)
    obtain ⟨hparameter, hown⟩ := List.forall_mem_cons.mp hown
    refine List.forall_mem_cons.mpr ⟨?_, ih hown⟩
    simp only [List.mem_append, not_or]
    exact ⟨⟨hsemicolon hfront, hparameter⟩, hsemicolon hback⟩
  | foreign hforeign _ ih => exact List.forall_mem_cons.mpr ⟨hforeign.undivided, ih hown⟩

theorem ne_nil (h : Interspersed own pieces) (hown : own ≠ []) : pieces ≠ [] := by
  cases h with
  | bare => exact hown
  | own => exact List.cons_ne_nil _ _
  | foreign => exact List.cons_ne_nil _ _

/-- Foreign parameters and white space do not matter to what a value says. -/
theorem parse?_eq (h : Interspersed (Text.splitOn ';' value) pieces) :
    parse? (Text.join [';'] pieces) = parse? value := by
  have hne : Text.splitOn ';' value ≠ [] :=
    Text.splitOn_eq ';' value ▸ List.splitOn_ne_nil ';' value
  have hundivided : ∀ parameter ∈ Text.splitOn ';' value, ';' ∉ parameter := fun parameter hmem hc =>
    absurd (Text.of_mem_splitWhere hmem hc).2 (by decide)
  have hsplit : Text.splitOn ';' (Text.join [';'] pieces) = pieces :=
    Text.splitOn_intercalate (h.ne_nil hne) (h.undivided hundivided)
  rw [Transport.parse?_eq, hsplit, h.portsGiven_eq fun _ hforeign => hforeign.notClient,
    h.portsGiven_eq fun _ hforeign => hforeign.notServer, ← Transport.parse?_eq]

end Interspersed

end Interspersing

section Rendering

variable {name : Text} {parameters : List Text}

/-- Two ports are read back from what is written of them. -/
theorem readPortPair?_portPair (ports : UInt16 × UInt16) : readPortPair? (portPair ports) = some ports := by
  have hjoin : portPair ports = ['-'].intercalate [Text.ofNat ports.1.toNat, Text.ofNat ports.2.toNat] := by
    simp [portPair]
  have hhyphen (n : Nat) : '-' ∉ Text.ofNat n := Text.not_mem_ofNat (by decide) n
  rw [readPortPair?, hjoin, Text.splitOn_intercalate (by simp) (by simp [hhyphen])]
  simp [(Text.isWord_ofNat _).trimmed.trim_eq, Text.readUInt16?_ofNat]

/-- The parameters that a transport is written with. -/
def written (t : Transport) : List Text :=
  ["RTP/AVP".toList, "unicast".toList] ++ [clientName ++ portPair (t.rtp, t.rtcp)]
    ++ (t.server.map fun ports => serverName ++ portPair ports).toList

theorem render_eq (t : Transport) : t.render = [';'].intercalate t.written := by
  have hfront : "RTP/AVP;unicast;client_port=".toList =
      "RTP/AVP".toList ++ ';' :: ("unicast".toList ++ ';' :: clientName) := by decide
  have hserver : ";server_port=".toList = ';' :: serverName := by decide
  have hrender : t.render = "RTP/AVP;unicast;client_port=".toList ++ portPair (t.rtp, t.rtcp) ++
      (t.server.elim [] fun ports => ";server_port=".toList ++ portPair ports) := by
    obtain ⟨rtp, rtcp, _ | ports⟩ := t <;> rfl
  rw [hrender, hfront, hserver, written]
  cases t.server <;> simp [List.intercalate_cons_cons]

/-- What is written of a header is split into its parameters again. -/
theorem splitOn_render (t : Transport) : Text.splitOn ';' t.render = t.written := by
  have hports (ports : UInt16 × UInt16) : ';' ∉ portPair ports := by
    simp [portPair, Text.not_mem_ofNat]
  have hnames : ';' ∉ clientName ∧ ';' ∉ serverName := by decide
  rw [render_eq]
  refine Text.splitOn_intercalate (List.cons_ne_nil _ _) ?_
  rw [written]
  cases t.server <;> simp [hports, hnames]

/-- There is nothing to trim from a parameter that is written. -/
theorem trim_portPair (hname : Text.IsWord name) (ports : UInt16 × UInt16) :
    Text.trim (name ++ portPair ports) = name ++ portPair ports := by
  have hword : Text.IsWord (name ++ portPair ports) := by
    refine ⟨List.append_ne_nil_of_left_ne_nil hname.1 _, fun c hc => ?_⟩
    simp only [portPair, List.mem_append] at hc
    rcases hc with hc | (hc | hc) | hc
    · exact hname.2 c hc
    · exact (Text.isWord_ofNat _).2 c hc
    · exact List.mem_singleton.mp hc ▸ by decide
    · exact (Text.isWord_ofNat _).2 c hc
  exact hword.trimmed.trim_eq

/-- The last parameter of a name gives the ports that were written. -/
theorem portsGiven_concat_own (hname : Text.IsWord name) (ports : UInt16 × UInt16) :
    portsGiven name (parameters ++ [name ++ portPair ports]) = some ports := by
  have hports : Text.after? name (Text.trim (name ++ portPair ports)) = some (portPair ports) := by
    rw [trim_portPair hname, Text.after?_append]
  rw [portsGiven_concat_of_some hports, readPortPair?_portPair]

/-- The ports of the server say nothing of the client's. -/
theorem portsGiven_concat_server (ports : UInt16 × UInt16) :
    portsGiven clientName (parameters ++ [serverName ++ portPair ports]) = portsGiven clientName parameters := by
  refine portsGiven_concat_of_none ?_
  rw [trim_portPair (by decide), Text.after?_eq_none_iff]
  exact fun h => not_serverName_of_clientName h (List.prefix_append _ _)

/-- The ports of the client say nothing of the server's. -/
theorem portsGiven_concat_client (ports : UInt16 × UInt16) :
    portsGiven serverName (parameters ++ [clientName ++ portPair ports]) = portsGiven serverName parameters := by
  refine portsGiven_concat_of_none ?_
  rw [trim_portPair (by decide), Text.after?_eq_none_iff]
  exact not_serverName_of_clientName (List.prefix_append _ _)

/-- Every transport is **read back** from its header value. -/
theorem parse?_render (t : Transport) : parse? t.render = some t := by
  have hclient : Text.IsWord clientName := by decide
  have hserver : Text.IsWord serverName := by decide
  have hneither : portsGiven serverName ["RTP/AVP".toList, "unicast".toList] = none := by decide
  rw [parse?_eq, splitOn_render, Transport.written]
  obtain ⟨rtp, rtcp, _ | ports⟩ := t
  · rw [Option.map_none, Option.toList_none, List.append_nil, portsGiven_concat_own hclient,
      portsGiven_concat_client, hneither]
    rfl
  · rw [Option.map_some, Option.toList_some, portsGiven_concat_server, portsGiven_concat_own hclient,
      portsGiven_concat_own hserver]
    rfl

/-- A transport is **read back among foreign parameters**: whatever stands between its own, in front
of them or behind, and whatever white space is around each, the value says what it said without.
What was read from any value at all is written in a form that is read the same. -/
theorem interspersed_reads_back :
    (∀ (t : Transport) (pieces : List Text), Interspersed (Text.splitOn ';' t.render) pieces →
      parse? (Text.join [';'] pieces) = some t) ∧
    ∀ (value : Text) (t : Transport), parse? value = some t → parse? t.render = some t :=
  ⟨fun t _ h => h.parse?_eq.trans (parse?_render t), fun _ t _ => parse?_render t⟩

example : parse? ("RTP/AVP; ttl=16; unicast;\tclient_port=8000-8001 ;" ++
    "xclient_port=1-2;server_port=5000-5001;mode=play").toList = some ⟨8000, 8001, some (5000, 5001)⟩ := by
  decide

/-- What a server may have answered, with more in its reply than the ports. -/
def reply : Transport := ⟨8000, 8001, some (5000, 5001)⟩

/-- The parameters of the reply as the server sends them. -/
def replyPieces : List Text :=
  [[] ++ "RTP/AVP".toList ++ [], " ttl=16".toList, [' '] ++ "unicast".toList ++ [],
    ['\t'] ++ (clientName ++ portPair (8000, 8001)) ++ [' '], "xclient_port=1-2".toList,
    [] ++ (serverName ++ portPair (5000, 5001)) ++ [], "mode=play".toList]

theorem reply_reads_back :
    Interspersed (Text.splitOn ';' reply.render) replyPieces ∧
      parse? (Text.join [';'] replyPieces) = some reply ∧
      parse? "client_port=+7-08;server_port=9".toList = some ⟨7, 8, none⟩ ∧
      parse? (render ⟨7, 8, none⟩) = some ⟨7, 8, none⟩ := by
  have hpieces : Interspersed (Text.splitOn ';' reply.render) replyPieces := by
    rw [splitOn_render]
    exact .own rfl rfl <| .foreign (by decide) <| .own (by decide) rfl <| .own (by decide) (by decide) <|
      .foreign (by decide) <| .own rfl rfl <| .foreign (by decide) .bare
  have hread : parse? "client_port=+7-08;server_port=9".toList = some ⟨7, 8, none⟩ := by decide
  exact ⟨hpieces, interspersed_reads_back.1 reply replyPieces hpieces, hread,
    interspersed_reads_back.2 _ ⟨7, 8, none⟩ hread⟩

end Rendering

end MediaProxy.Rtsp.Transport
