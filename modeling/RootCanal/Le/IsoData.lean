import RootCanal.Le.Isochronous

/-!
# Where isochronous data goes

**Received data.**  A PDU names its CIS by the CIG and CIS identifiers alone.  `DeliversToSender`
says that what reaches the host for it is on a connected CIS of the link to the sender; the lookup
asks only for the identifiers, so this holds exactly when no other CIS carries them
(`deliversToSender_iff`), and a peer can put data on the stream of another
(`pdu_reaches_other_peer`).

**Data of the host.**  The fragments of all CISes are collected in one buffer.  A run of fragments
is `Lib.Reassembly.assemble` of them (`exec_iso`), so that **each CIS transmits what its host sent
when the CISes take turns** (`transmits_exclusive`).  A packet of one CIS between two fragments of
another can cost the second its SDU (`interleaved_sdu_corrupted`).

Source: `le_controller.cc`
-/

namespace RootCanal.Le

open Lib RootCanal.Hci RootCanal.Llcp RootCanal.Iso

namespace LeController

/-! ## Received data -/

/-- The handle is that of a connected CIS with the identifiers, on a link to the peer. -/
def ConnectedTo (s : LeController) (peer own : Address) (cigId cisId : UInt8) (handle : UInt16) :
    Prop :=
  ∃ cis a connection, s.ll.cisConnections[handle]? = some cis ∧ cis.state = .connected ∧
    cis.cigId = cigId ∧ cis.cisId = cisId ∧ cis.aclConnectionHandle = some a ∧
    s.leAclConnections[a]? = some connection ∧ connection.address = peer ∧
    connection.ownAddress = own

/-- Whatever reaches the host for the PDU is on a connected CIS with its identifiers on the link to
the sender, in every order the hash maps may be visited in. -/
def DeliversToSender (s : LeController) (peer own : Address) (cigId cisId : UInt8)
    (sequenceNumber : UInt16) (data : List UInt8) : Prop :=
  ∀ env s' out packet, leController.step s (env, .incoming ⟨peer, own,
    .leConnectedIsochronousPdu cigId cisId sequenceNumber data⟩) = .ok (s', out) →
    .iso packet ∈ out → s.ConnectedTo peer own cigId cisId packet.connectionHandle

/-- There is an LE-ACL connection between the two addresses. -/
def LinkedTo (s : LeController) (peer own : Address) : Prop :=
  ∃ (a : UInt16) (connection : LeAclConnection), s.leAclConnections[a]? = some connection ∧
    connection.address = peer ∧ connection.ownAddress = own

variable {env : Env} {s : LeController} {peer own : Address} {cigId cisId : UInt8}
  {sequenceNumber : UInt16} {data : List UInt8}

theorem getLeAclConnectionHandle_isSome (env : Env) (hlkd : s.LinkedTo peer own) :
    ∃ a, s.getLeAclConnectionHandle env own peer = some a := by
  obtain ⟨a, connection, ha, hp, hown⟩ := hlkd
  rw [← Option.ne_none_iff_exists']
  intro hn
  have := HashMap.head?_keysWhere_eq_none.mp hn a connection ha
  simp [hp, hown] at this

/-- At least one fragment of an SDU is sent. -/
theorem fragments_ne_nil (sdu : List UInt8) : fragments sdu ≠ [] := by
  nofun

/-- A PDU from a peer without a connection is dropped. -/
theorem step_pdu_unlinked (h : s.getLeAclConnectionHandle env own peer = none) :
    leController.step s (env, .incoming ⟨peer, own,
      .leConnectedIsochronousPdu cigId cisId sequenceNumber data⟩) = .ok (s, []) := by
  change s.incomingPacket env _ = _
  unfold incomingPacket
  rw [h]

/-- A PDU from a connected peer is handled whichever connection it came on. -/
theorem step_pdu_linked {a} (h : s.getLeAclConnectionHandle env own peer = some a) :
    leController.step s
      (env, .incoming ⟨peer, own, .leConnectedIsochronousPdu cigId cisId sequenceNumber data⟩) =
      .ok (s.incomingLeConnectedIsochronousPdu env cigId cisId sequenceNumber data) := by
  change s.incomingPacket env _ = _
  unfold incomingPacket
  rw [h]

/-- What reaches the host is on the CIS that was found. -/
theorem mem_incomingPdu {packet} (h : .iso packet ∈
      (s.incomingLeConnectedIsochronousPdu env cigId cisId sequenceNumber data).2) :
    s.getCisConnectionHandle env cigId cisId = some packet.connectionHandle := by
  unfold incomingLeConnectedIsochronousPdu at h
  cases hcis : s.getCisConnectionHandle env cigId cisId with
  | none =>
    rw [hcis] at h
    cases h
  | some =>
    rw [hcis] at h
    obtain ⟨_, -, hpkt⟩ := List.mem_map.mp h
    rw [← Output.iso.inj hpkt]

/-- Something reaches the host on the CIS that is found. -/
theorem exists_mem_incomingPdu (sequenceNumber : UInt16) (data : List UInt8) {k}
    (h : s.getCisConnectionHandle env cigId cisId = some k) :
    ∃ packet, packet.connectionHandle = k ∧ .iso packet ∈
      (s.incomingLeConnectedIsochronousPdu env cigId cisId sequenceNumber data).2 := by
  obtain ⟨⟨flag, fragment⟩, hmem⟩ := List.exists_mem_of_ne_nil _ (fragments_ne_nil data)
  unfold incomingLeConnectedIsochronousPdu
  rw [h]
  exact ⟨_, rfl, List.mem_map.mpr ⟨(flag, fragment), hmem, rfl⟩⟩

/-- **A PDU is delivered to its sender's CIS exactly when every CIS that carries its identifiers is
a connected one of the link to the sender.** -/
theorem deliversToSender_iff : s.DeliversToSender peer own cigId cisId sequenceNumber data ↔
    (s.LinkedTo peer own → ∀ (k : UInt16) cis, s.ll.cisConnections[k]? = some cis →
      cis.cigId = cigId → cis.cisId = cisId → s.ConnectedTo peer own cigId cisId k) := by
  constructor
  · intro hdelivers hlkd k cis hk hg hi
    -- the order in which this CIS is found first
    obtain ⟨order, horder⟩ := HashMap.exists_head?_keysWhere
      (p := fun cis => decide (cis.cigId = cigId ∧ cis.cisId = cisId)) hk (by simp [hg, hi])
    let env : Env := ⟨⟨0, fun _ => none, order, true, fun _ _ => none⟩, IterOrder.id _, 0, true⟩
    obtain ⟨a, ha⟩ := getLeAclConnectionHandle_isSome env hlkd
    obtain ⟨packet, hpkt, hmem⟩ := exists_mem_incomingPdu sequenceNumber data (show
      s.getCisConnectionHandle env cigId cisId = some k from horder)
    have := hdelivers env _ _ packet (step_pdu_linked ha) hmem
    rwa [hpkt] at this
  · intro hall env s' out packet hstep hpkt
    cases hl : s.getLeAclConnectionHandle env own peer with
    | none =>
      rw [step_pdu_unlinked hl] at hstep
      cases hstep
      cases hpkt
    | some a =>
      rw [step_pdu_linked hl] at hstep
      rw [← (Prod.mk.inj (Except.ok.inj hstep)).2] at hpkt
      obtain ⟨connection, ha, hmatch⟩ := HashMap.head?_keysWhere_eq_some hl
      obtain ⟨hp, hown⟩ := of_decide_eq_true hmatch
      obtain ⟨cis, hk, hids⟩ := HashMap.head?_keysWhere_eq_some (mem_incomingPdu hpkt)
      obtain ⟨hg, hi⟩ := of_decide_eq_true hids
      exact hall ⟨a, connection, ha, hp, hown⟩ _ cis hk hg hi

/-- An environment with the ISO data buffers of the default configuration. -/
def sampleEnv : Env where
  iso := ⟨LLFeaturesBits.connectedIsochronousStreamHostSupport, fun _ => none, IterOrder.id _, true,
    fun a b => some (.ofNat (a.toNat.lcm b.toNat))⟩
  order := IterOrder.id _
  isoDataPacketLength := 1021
  disconnectionCompleteUnmasked := true

/-- A Central connects. -/
def centralConnects (peer : Address) : Env × Input := (sampleEnv, .leConnection peer 1 .peripheral)

/-- A peer sends an LLCP packet. -/
def llcpFrom (peer : Address) (packet : LlcpPacket) : Env × Input :=
  (sampleEnv, .incoming ⟨peer, 1, .llcp packet⟩)

/-- The LL_CIS_REQ of a Central, for SDUs of 100 octets in both directions. -/
def sampleRequest (cigId cisId : UInt8) : LlcpPacket :=
  .cisReq {
    cigId := cigId
    cisId := cisId
    phyCToP := 1
    phyPToC := 1
    framed := 0
    maxSduCToP := 100
    maxSduPToC := 100
    sduIntervalCToP := 10000
    sduIntervalPToC := 10000
    maxPduCToP := 251
    maxPduPToC := 251
    nse := 1
    subInterval := 10000
    bnCToP := 1
    bnPToC := 1
    ftCToP := 1
    ftPToC := 1
    isoInterval := 8
    cisOffsetMin := 0
    cisOffsetMax := 0
    connEventCount := 0 }

/-- A Central requests a CIS, the host accepts it under the handle, and it is established. -/
def establish (peer : Address) (cigId cisId : UInt8) (handle : UInt16) : List (Env × Input) :=
  [llcpFrom peer (sampleRequest cigId cisId),
    (sampleEnv, .command (.leAcceptCisRequest ⟨handle⟩)), llcpFrom peer (.cisInd ⟨0, 0, 0, 0, 0⟩)]

/-- Two Centrals are connected, and the first has established a CIS. -/
def twoCentrals : List (Env × Input) :=
  [centralConnects 2, centralConnects 3] ++ establish 2 1 1 0xe00

/-- The second Central sends a PDU with the identifiers of that CIS. -/
def pduOfSecond : Env × Input :=
  (sampleEnv, .incoming ⟨3, 1, .leConnectedIsochronousPdu 1 1 0 [0x2a]⟩)

/-- A PDU of the second Central reaches the host on the CIS of the first. -/
theorem pdu_reaches_other_peer : ∃ tr s, leController.Run (fun _ _ => True) new tr s ∧
    ¬ s.DeliversToSender 3 1 1 1 0 [0x2a] := by
  have hx : leController.ExecTo (fun _ s =>
      (leController.step s pduOfSecond).toOption.map Prod.snd =
        some [.iso ⟨0xe00, .completeSdu, none, 0, 1, [0x2a]⟩] ∧
      (s.ll.cisConnections[(0xe00 : UInt16)]?).map Cis.aclConnectionHandle = some (some 0x200) ∧
      (s.leAclConnections[(0x200 : UInt16)]?).map LeAclConnection.address = some 2) new
      twoCentrals := by
    decide +kernel
  obtain ⟨tr, s, hrun, hstep, hacl, haddr⟩ := leController.exists_free_run hx
  refine ⟨tr, s, hrun, ?_⟩
  intro hdelivers
  obtain ⟨⟨s', out⟩, hok, rfl⟩ := Option.map_eq_some_iff.mp hstep
  obtain ⟨cis, a, connection, hcis, -, -, -, ha, hconnection, hp, -⟩ :=
    hdelivers sampleEnv s' _ _ (toOption_eq_some.mp hok) (List.mem_singleton.mpr rfl)
  -- the CIS is on the link to the first Central
  rw [hcis, Option.map_some, ha, Option.some.injEq, Option.some.injEq] at hacl
  rw [hacl] at hconnection
  rw [hconnection, Option.map_some, hp] at haddr
  cases haddr

/-! ## Data of the host -/

end LeController

/-- Where a packet stands in its SDU. -/
def IsoPacketBoundaryFlag.boundary : IsoPacketBoundaryFlag → Reassembly.Boundary
  | .firstFragment => .first
  | .continuationFragment => .continuation
  | .completeSdu => .complete
  | .lastFragment => .last

@[simp] theorem IsoPacketBoundaryFlag.boundary_starts (flag : IsoPacketBoundaryFlag) :
    flag.boundary.starts = flag.starts := by
  cases flag <;> rfl

@[simp] theorem IsoPacketBoundaryFlag.boundary_ends (flag : IsoPacketBoundaryFlag) :
    flag.boundary.ends = flag.ends := by
  cases flag <;> rfl

/-- A packet of the host as a fragment of the stream of its CIS, labelled with its sequence
number. -/
def IsoPacket.fragment (iso : IsoPacket) : Reassembly.Fragment UInt16 UInt16 UInt8 where
  key := iso.connectionHandle
  boundary := iso.pbFlag.boundary
  label := iso.packetSequenceNumber
  payload := iso.payload

/-- What an output sends to a peer. -/
def Output.remote? : Output → Option (LinkLayerPacket LeBody)
  | .remote packet => some packet
  | _ => none

namespace LeController

open Reassembly (assemble collect finished pending project Exclusive Fragmentation)

/-- The packet that carries an SDU of a CIS to the peer. -/
def pduOf (cis : Cis) (connection : LeAclConnection) (sequenceNumber : UInt16) (sdu : List UInt8) :
    LinkLayerPacket LeBody :=
  ⟨connection.ownAddress, connection.address,
    .leConnectedIsochronousPdu cis.cigId cis.cisId sequenceNumber sdu⟩

/-- What is sent to a peer in the steps that take ISO data for the handle. -/
def sentOn (handle : UInt16) (tr : List ((Env × Input) × List Output)) :
    List (LinkLayerPacket LeBody) :=
  tr.flatMap fun entry =>
    match entry.1.2 with
    | .iso packet =>
      if packet.connectionHandle = handle then entry.2.filterMap Output.remote? else []
    | _ => []

/-- **One packet of the host.**  It is collected in the buffer, and the SDU it ends, if it is not
too long, is sent to the peer of its CIS. -/
theorem handleIso_eq {env : Env} {s : LeController} {iso : IsoPacket} {cis : Cis}
    {connection : LeAclConnection} (hacc : acceptsIso env iso = true)
    (hcis : s.cisInformation iso.connectionHandle = some (cis, connection))
    (hfits : ∀ u ∈ finished s.isoSdu iso.fragment, u.2.length ≤ (maxSduTx cis).toNat) :
    s.handleIso env iso = .ok ({ s with isoSdu := pending s.isoSdu iso.fragment },
      .numberOfCompletedPackets iso.connectionHandle :: (finished s.isoSdu iso.fragment).map
        fun u => .remote (pduOf cis connection u.1.label u.2)) := by
  have hcollect : (if iso.pbFlag.starts then [] else s.isoSdu) ++ iso.payload =
      collect s.isoSdu iso.fragment := by
    unfold collect
    rw [show iso.fragment.boundary.starts = iso.pbFlag.starts
      from IsoPacketBoundaryFlag.boundary_starts _]
    split <;> rfl
  have hends : iso.fragment.boundary.ends = iso.pbFlag.ends := IsoPacketBoundaryFlag.boundary_ends _
  unfold handleIso
  rw [if_neg (by simpa using hacc), hcis]
  rw [hcollect]
  unfold finished pending at *
  rw [hends] at hfits ⊢
  by_cases h : iso.pbFlag.ends = true
  · simp only [if_pos h, List.mem_singleton, forall_eq] at hfits ⊢
    rw [if_neg (Nat.not_lt.mpr hfits)]
    rfl
  · simp only [if_neg h, List.map_nil]

/-- The packets sent in a step that takes ISO data. -/
theorem sentOn_cons_iso {handle env iso out tr} : sentOn handle (((env, .iso iso), out) :: tr) =
      (if iso.connectionHandle = handle then out.filterMap Output.remote? else []) ++
        sentOn handle tr :=
  List.flatMap_cons

/-- **A run of packets is the assembly of their fragments in one buffer.** -/
theorem exec_iso {packets : List (Env × IsoPacket)} :
    ∀ {s : LeController}, (∀ p ∈ packets, acceptsIso p.1 p.2 = true) →
      (∀ p ∈ packets, ∃ cis connection,
        s.cisInformation p.2.connectionHandle = some (cis, connection)) →
      (∀ u ∈ assemble s.isoSdu (packets.map fun p => p.2.fragment), ∀ cis connection,
        s.cisInformation u.1.key = some (cis, connection) → u.2.length ≤ (maxSduTx cis).toNat) →
      ∃ tr s', leController.exec s (packets.map fun p => (p.1, .iso p.2)) = .ok (tr, s') ∧
        ∀ handle cis connection, s.cisInformation handle = some (cis, connection) →
          sentOn handle tr = ((assemble s.isoSdu (packets.map fun p => p.2.fragment)).filter
              fun u => u.1.key = handle).map fun u => pduOf cis connection u.1.label u.2 := by
  induction packets with
  | nil =>
    intro s _ _ _
    exact ⟨[], s, rfl, fun _ _ _ _ => rfl⟩
  | cons p packets ih =>
    intro s hacc hkn hfits
    obtain ⟨env, iso⟩ := p
    obtain ⟨cis, connection, hcis⟩ := hkn (env, iso) (List.mem_cons_self ..)
    have hasm : assemble s.isoSdu (((env, iso) :: packets).map fun p => p.2.fragment) =
        finished s.isoSdu iso.fragment ++
          assemble (pending s.isoSdu iso.fragment) (packets.map fun p => p.2.fragment) := rfl
    rw [hasm] at hfits ⊢
    -- every unit the packet finishes is one of its own CIS
    have hkey : ∀ u ∈ finished s.isoSdu iso.fragment, u.1.key = iso.connectionHandle := by
      intro u hu
      unfold finished at hu
      split at hu
      · rw [List.mem_singleton.mp hu]
        rfl
      · cases hu
    have hstep := handleIso_eq (hacc (env, iso) (List.mem_cons_self ..)) hcis
      fun u hu => hfits u (List.mem_append_left _ hu) cis connection (by rw [hkey u hu]; exact hcis)
    obtain ⟨tr, s', hx, hsent⟩ := ih (s := { s with isoSdu := pending s.isoSdu iso.fragment })
      (fun q hq => hacc q (List.mem_cons_of_mem _ hq))
      (fun q hq => hkn q (List.mem_cons_of_mem _ hq))
      (fun u hu => hfits u (List.mem_append_right _ hu))
    refine ⟨((env, .iso iso), .numberOfCompletedPackets iso.connectionHandle ::
      (finished s.isoSdu iso.fragment).map
        fun u => .remote (pduOf cis connection u.1.label u.2)) :: tr, s', ?_, ?_⟩
    · exact bind_eq_ok.mpr ⟨_, hstep, bind_eq_ok.mpr ⟨(tr, s'), hx, rfl⟩⟩
    · intro handle cis' connection' hcis'
      rw [sentOn_cons_iso, List.filter_append, List.map_append, hsent handle cis' connection' hcis']
      congr 1
      by_cases hh : iso.connectionHandle = handle
      · subst hh
        rw [hcis'] at hcis
        cases hcis
        rw [if_pos rfl, List.filter_eq_self.mpr fun u hu => by simpa using hkey u hu,
          List.filterMap_cons_none rfl, List.filterMap_map]
        exact congrFun List.filterMap_eq_map' _
      · rw [if_neg hh, List.filter_eq_nil_iff.mpr fun u hu => by
          rw [hkey u hu]
          simpa using hh]
        rfl

/-- What the host sends: on each CIS a sequence of SDUs, none longer than the Max_SDU of the CIS,
each whole or cut into fragments, in packets that the controller accepts. -/
structure HostSends (s : LeController) (packets : List (Env × IsoPacket))
    (sdus : UInt16 → List (List UInt8)) : Prop where
  /-- The packets are for CISes of the controller. -/
  known : ∀ p ∈ packets, ∃ cis connection,
    s.cisInformation p.2.connectionHandle = some (cis, connection)
  /-- The packets of each CIS are fragments of its SDUs. -/
  fragmented : ∀ handle,
    Fragmentation (project handle (packets.map fun p => p.2.fragment)) (sdus handle)
  /-- An SDU fits the Max_SDU of its CIS. -/
  fits : ∀ handle cis connection, s.cisInformation handle = some (cis, connection) →
    ∀ sdu ∈ sdus handle, sdu.length ≤ (maxSduTx cis).toNat
  /-- The controller does not abort on a packet. -/
  accepted : ∀ p ∈ packets, acceptsIso p.1 p.2 = true

/-- Taking the packets, the controller transmits on each CIS exactly its SDUs, in order and octet
for octet, to the peer of its link. -/
def Transmits (s : LeController) (packets : List (Env × IsoPacket))
    (sdus : UInt16 → List (List UInt8)) : Prop :=
  ∃ tr s', leController.exec s (packets.map fun p => (p.1, .iso p.2)) = .ok (tr, s') ∧
    ∀ handle cis connection, s.cisInformation handle = some (cis, connection) →
      ∃ units : List (UInt16 × List UInt8), units.map Prod.snd = sdus handle ∧
        sentOn handle tr = units.map fun u => pduOf cis connection u.1 u.2

/-- **Each CIS transmits what its host sent, when the CISes take turns**: when no packet of another
CIS comes between the fragments of an SDU. -/
theorem transmits_exclusive {s : LeController} {packets : List (Env × IsoPacket)}
    {sdus : UInt16 → List (List UInt8)} (hsends : s.HostSends packets sdus)
    (hexclusive : Exclusive none (packets.map fun p => p.2.fragment)) :
    s.Transmits packets sdus := by
  -- a unit starts first, so that it does not matter what the buffer held
  have hbuffer : assemble s.isoSdu (packets.map fun p => p.2.fragment) =
      assemble [] (packets.map fun p => p.2.fragment) := by
    cases packets with
    | nil => rfl
    | cons p =>
      have h1 := hsends.fragmented p.2.fragment.key
      rw [List.map_cons, Reassembly.project_cons_self rfl] at h1
      exact Reassembly.assemble_of_starts h1.starts _
  have hproject : ∀ handle, (assemble s.isoSdu (packets.map fun p => p.2.fragment)).filter
      (fun u => u.1.key = handle) = assemble []
        (project handle (packets.map fun p => p.2.fragment)) := by
    intro handle
    rw [hbuffer, Reassembly.assemble_project (fun _ => rfl) hexclusive handle]
    rfl
  obtain ⟨tr, s', hx, hsent⟩ := exec_iso hsends.accepted hsends.known (by
    intro u hu cis connection hcis
    have hmem : u ∈ assemble [] (project u.1.key (packets.map fun p => p.2.fragment)) := by
      rw [← hproject]
      exact List.mem_filter.mpr ⟨hu, by simp⟩
    have hsdu : u.2 ∈ sdus u.1.key := by
      rw [← Reassembly.assemble_of_fragmentation (hsends.fragmented u.1.key) []]
      exact List.mem_map.mpr ⟨u, hmem, rfl⟩
    exact hsends.fits u.1.key cis connection hcis u.2 hsdu)
  refine ⟨tr, s', hx, ?_⟩
  intro handle cis connection hcis
  refine ⟨(assemble [] (project handle (packets.map fun p => p.2.fragment))).map fun u =>
    (u.1.label, u.2), ?_, ?_⟩
  · rw [List.map_map]
    exact Reassembly.assemble_of_fragmentation (hsends.fragmented handle) []
  · rw [hsent handle cis connection hcis, hproject, List.map_map]
    rfl

/-- The host sets up the data path it sends ISO data on. -/
def setupInput (handle : UInt16) : Env × Input :=
  (sampleEnv, .command (.leSetupIsoDataPath ⟨handle, .input, 0, []⟩))

/-- Two Centrals have each a CIS with the controller, and the host has set up their data paths. -/
def twoStreams : List (Env × Input) :=
  [centralConnects 2, centralConnects 3] ++ establish 2 1 1 0xe00 ++ establish 3 1 2 0xe01 ++
    [setupInput 0xe00, setupInput 0xe01]

/-- The host's SDUs: one of four octets on the first CIS, one of a single octet on the second. -/
def twoSdus (handle : UInt16) : List (List UInt8) :=
  if handle = 0xe00 then [[1, 2, 3, 4]] else if handle = 0xe01 then [[9]] else []

def firstHalf : Env × IsoPacket := (sampleEnv, ⟨0xe00, .firstFragment, none, 0, 4, [1, 2]⟩)

def secondHalf : Env × IsoPacket := (sampleEnv, ⟨0xe00, .lastFragment, none, 0, 4, [3, 4]⟩)

def otherSdu : Env × IsoPacket := (sampleEnv, ⟨0xe01, .completeSdu, none, 0, 1, [9]⟩)

/-- The Max_SDU of the CIS of a handle. -/
def maxSduOf (s : LeController) (handle : UInt16) : Option UInt16 :=
  (s.cisInformation handle).map fun information => maxSduTx information.1

/-- A state in which both CISes exist is reached. -/
theorem exists_twoStreams : ∃ tr s, leController.Run (fun _ _ => True) new tr s ∧
    s.maxSduOf 0xe00 = some 100 ∧ s.maxSduOf 0xe01 = some 100 ∧
    (leController.exec s
      ([firstHalf, otherSdu, secondHalf].map fun p => (p.1, .iso p.2))).toOption.map
      (fun r => sentOn 0xe00 r.1) = some [⟨1, 2, .leConnectedIsochronousPdu 1 1 0 [3, 4]⟩] := by
  exact leController.exists_run
    (show leController.Meets _ _ twoStreams from by decide +kernel) (by decide +kernel)

/-- The host sends the two SDUs, in whatever order the three packets are interleaved. -/
theorem hostSends_twoSdus {s : LeController} {packets : List (Env × IsoPacket)}
    (hfirst : s.maxSduOf 0xe00 = some 100) (h2 : s.maxSduOf 0xe01 = some 100)
    (hmem : ∀ p ∈ packets, p = firstHalf ∨ p = otherSdu ∨ p = secondHalf)
    (hfirsts : project 0xe00 (packets.map fun p => p.2.fragment) =
      [firstHalf.2.fragment, secondHalf.2.fragment])
    (hothers : project 0xe01 (packets.map fun p => p.2.fragment) = [otherSdu.2.fragment]) :
    s.HostSends packets twoSdus where
  known := by
    intro p hp
    obtain ⟨⟨cis, connection⟩, h0, -⟩ := Option.map_eq_some_iff.mp hfirst
    obtain ⟨⟨cis', connection'⟩, h1, -⟩ := Option.map_eq_some_iff.mp h2
    rcases hmem p hp with rfl | rfl | rfl
    · exact ⟨cis, connection, h0⟩
    · exact ⟨cis', connection', h1⟩
    · exact ⟨cis, connection, h0⟩
  fragmented := by
    intro handle
    unfold twoSdus
    split
    · next h =>
        rw [h, hfirsts]
        exact @Fragmentation.fragmented _ _ _ _ _ [] _ _ rfl (List.forall_mem_nil _) rfl .nil
    · next h =>
        split
        · next h1 =>
            rw [h1, hothers]
            exact .complete rfl .nil
        · next h1 =>
            rw [project, List.filter_eq_nil_iff.mpr]
            · exact .nil
            · intro f hf
              obtain ⟨p, hp, rfl⟩ := List.mem_map.mp hf
              rcases hmem p hp with rfl | rfl | rfl
              · exact fun hkey => h (of_decide_eq_true hkey).symm
              · exact fun hkey => h1 (of_decide_eq_true hkey).symm
              · exact fun hkey => h (of_decide_eq_true hkey).symm
  fits := by
    intro handle cis connection hcis sdu hsdu
    unfold twoSdus at hsdu
    split at hsdu
    · next h =>
        rw [maxSduOf, ← h, hcis, Option.map_some, Option.some.injEq] at hfirst
        rw [List.mem_singleton.mp hsdu, hfirst]
        decide
    · split at hsdu
      · next h =>
          rw [maxSduOf, ← h, hcis, Option.map_some, Option.some.injEq] at h2
          rw [List.mem_singleton.mp hsdu, h2]
          decide
      · cases hsdu
  accepted := by
    intro p hp
    rcases hmem p hp with rfl | rfl | rfl <;> decide

/-- The two CISes take turns: the second sends after the first has finished its SDU. -/
theorem transmits_exclusive_turns : ∃ tr s, leController.Run (fun _ _ => True) new tr s ∧
    s.Transmits [firstHalf, secondHalf, otherSdu] twoSdus := by
  obtain ⟨tr, s, hrun, h1, h2, -⟩ := exists_twoStreams
  refine ⟨tr, s, hrun, transmits_exclusive (hostSends_twoSdus h1 h2 (by simp) (by rfl) (by rfl)) ?_⟩
  exact ⟨.inl rfl, .inr rfl, .inl rfl, trivial⟩

/-- The second CIS sends between the two fragments of the first: half of the SDU is lost. -/
theorem interleaved_sdu_corrupted : ∃ tr s, leController.Run (fun _ _ => True) new tr s ∧
    s.HostSends [firstHalf, otherSdu, secondHalf] twoSdus ∧
    ¬ s.Transmits [firstHalf, otherSdu, secondHalf] twoSdus := by
  obtain ⟨tr, s, hrun, h1, h2, hsent⟩ := exists_twoStreams
  refine ⟨tr, s, hrun, hostSends_twoSdus h1 h2 (by simp) (by rfl) (by rfl), ?_⟩
  rintro ⟨tr', s', hx, htransmits⟩
  obtain ⟨⟨cis, connection⟩, hcis, -⟩ := Option.map_eq_some_iff.mp h1
  obtain ⟨units, hun, hpkts⟩ := htransmits 0xe00 cis connection hcis
  obtain ⟨⟨number, sdu⟩, rfl⟩ := List.length_eq_one_iff.mp
    ((List.length_map Prod.snd).symm.trans (congrArg List.length hun))
  rw [hx] at hsent
  -- the packet sent carries the second half only
  have hpkt := (Option.some.inj hsent).symm.trans hpkts
  have hsdu : [3, 4] = sdu := by
    injection (List.cons.inj hpkt).1 with _ _ hb
    injection hb
  rw [← hsdu] at hun
  have hlost : [[3, 4]] = twoSdus 0xe00 := hun
  exact absurd hlost (by decide)

end LeController

end RootCanal.Le
