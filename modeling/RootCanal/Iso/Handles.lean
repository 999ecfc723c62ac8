import RootCanal.Iso.Tables

/-!
# Allocation of connection handles

A CIS handle is the first unused one of `cisHandles`, a BIS handle the first unused one of
`bisHandles`; the search ends in `unwrap`, so a full range is a panic and not an error code.

* `configureCises_lookups`, `createBises_lookups`: **a command finds its handles exactly when as
  many are free as it needs**, one for each CIS that has no Central connection yet, one for each
  BIS.
* `hasRoom` is that condition on an input, in the state it is received in.
* `allocation_lookups_iff`: from any state a run reaches, a list of inputs that starts no request
  runs without a failed lookup exactly when each of its inputs finds room.
* `peer_exhausts_handles`: a peer that keeps requesting CISes gets there by itself.

Source: `rust/src/llcp/iso.rs`
-/

namespace RootCanal.Iso

open Lib RootCanal.Hci RootCanal.Llcp

namespace IsoManager

/-! ## The two ranges -/

/-- The range searched for a CIS handle.
Source: `new_cis_connection_handle` -/
def cisHandles : List UInt16 := (List.range' 0xe00 0xfe).map UInt16.ofNat

/-- The range searched for a BIS handle.
Source: `new_bis_connection_handle` -/
def bisHandles : List UInt16 := (List.range' 0xd00 0xff).map UInt16.ofNat

/-- How many CIS handles are unused. -/
def freeCisHandles (s : IsoManager) : Nat := HashMap.free cisHandles s.cisConnections

/-- How many BIS handles are unused. -/
def freeBisHandles (s : IsoManager) : Nat := HashMap.free bisHandles s.bisConnections

/-- A range of 16 bit handles has no repetition. -/
theorem nodup_handles {first n : Nat} (h : first + n ≤ 2 ^ 16) :
    ((List.range' first n).map UInt16.ofNat).Nodup := by
  apply List.Nodup.map_on _ List.nodup_range'
  intro x hx y hy hxy
  have hx := (List.mem_range'_1.mp hx).2
  have hy := (List.mem_range'_1.mp hy).2
  have hval := congrArg UInt16.toNat hxy
  rwa [UInt16.toNat_ofNat_of_lt' (by show x < 2 ^ 16; omega),
    UInt16.toNat_ofNat_of_lt' (by show y < 2 ^ 16; omega)] at hval

/-- What needs `n` handles, the first unused one of the range among them, finds them exactly when as
many are free. -/
theorem firstUnused_bind_lookups {α β : Type} {range : List UInt16} {m : HashMap UInt16 α}
    {f : UInt16 → Except Panic β}
    {n : Nat} (hn : 0 < n) (hf : ∀ h, range.find? (fun h => !m.contains h) = some h →
      (LookupsFound (f h) ↔ n ≤ HashMap.free range m)) :
    LookupsFound (unwrap (range.find? fun h => !m.contains h) >>= f) ↔
      n ≤ HashMap.free range m := by
  cases hfind : range.find? fun h => !m.contains h with
  | none =>
    rw [HashMap.find?_free_eq_none.mp hfind]
    exact iff_of_false (fun h => h rfl) (by omega)
  | some h => exact hf h hfind

variable {env : Env} {s s' : IsoManager}

/-- Storing a CIS under the handle allocated for it leaves one less. -/
theorem freeCisHandles_insertCis (cis : Cis)
    (heq : s.newCisConnectionHandle = .ok cis.cisConnectionHandle) :
    (s.insertCis cis).freeCisHandles + 1 = s.freeCisHandles :=
  HashMap.free_insert (nodup_handles (by decide)) (unwrap_eq_ok.mp heq) cis

/-! ## The handles of a CIG -/

/-- A Central connection exists for the identifiers.
Source: `new_cis_connection` -/
def hasCentral (s : IsoManager) (g i : UInt8) : Bool :=
  s.cisConnections.any fun _ c => decide (c.cigId = g ∧ c.cisId = i ∧ c.role = .central)

/-- The CISes of a CIG command that have no Central connection yet. -/
def missingCises (s : IsoManager) (g : UInt8) (ids : List UInt8) : Finset UInt8 :=
  ids.toFinset.filter fun i => s.hasCentral g i = false

variable {g i : UInt8}

/-- An existing connection is taken as it is. -/
theorem newCisConnection_existing (env : Env) (hc : s.hasCentral g i = true) :
    ∃ h, s.newCisConnection env g i .central = .ok (s, h) := by
  obtain ⟨k, c, hk, hc⟩ := HashMap.any_eq_true.mp hc
  unfold newCisConnection
  split
  · rename_i c' _
    exact ⟨c'.cisConnectionHandle, rfl⟩
  · rename_i hn
    have := HashMap.find?_values_eq_none.mp hn k c hk
    rw [hc] at this
    cases this

/-- A missing connection is created under a new handle. -/
theorem newCisConnection_missing (env : Env) (hc : s.hasCentral g i = false) :
    s.newCisConnection env g i .central = s.newCisConnectionHandle >>= fun h =>
      .ok (s.insertCis (configuredCis g i .central h), h) := by
  unfold newCisConnection
  split
  · rename_i c hsome
    obtain ⟨⟨k, hk⟩, hp⟩ := HashMap.find?_values_eq_some hsome
    have := HashMap.any_eq_false.mp hc k c hk
    rw [hp] at this
    cases this
  · rfl

theorem hasCentral_insertCis {h} (heq : s.newCisConnectionHandle = .ok h) (j : UInt8) :
    (s.insertCis (configuredCis g i .central h)).hasCentral g j =
    (decide (i = j) || s.hasCentral g j) := by
  have hfree : s.cisConnections[(configuredCis g i .central h).cisConnectionHandle]? = none :=
    (newCisConnectionHandle_ok heq).1
  rw [Bool.eq_iff_iff, Bool.or_eq_true, decide_eq_true_eq]
  unfold hasCentral
  simp only [HashMap.any_eq_true, insertCis_eq_some _ _ hfree, decide_eq_true_eq]
  constructor
  · rintro ⟨k, c, ⟨-, rfl⟩ | hk, hg, hj, hr⟩
    · exact Or.inl hj
    · exact Or.inr ⟨k, c, hk, hg, hj, hr⟩
  · rintro (rfl | ⟨k, c, hk, hc⟩)
    · exact ⟨_, _, Or.inl ⟨rfl, rfl⟩, rfl, rfl, rfl⟩
    · exact ⟨k, c, Or.inr hk, hc⟩

theorem missingCises_cons_existing {ids} (hc : s.hasCentral g i = true) : s.missingCises g
    (i :: ids) = s.missingCises g ids := by
  unfold missingCises
  rw [List.toFinset_cons, Finset.filter_insert, if_neg (by rw [hc]; decide)]

/-- Once the first missing connection is created, one less is missing. -/
theorem missingCises_cons_missing {ids h} (hc : s.hasCentral g i = false)
    (heq : s.newCisConnectionHandle = .ok h) : (s.missingCises g (i :: ids)).card =
      ((s.insertCis (configuredCis g i .central h)).missingCises g ids).card + 1 := by
  have hsplit : s.missingCises g (i :: ids) =
      insert i ((s.insertCis (configuredCis g i .central h)).missingCises g ids) := by
    ext j
    simp only [missingCises, List.toFinset_cons, Finset.mem_filter, Finset.mem_insert,
      List.mem_toFinset, hasCentral_insertCis heq, Bool.or_eq_false_iff, decide_eq_false_iff_not]
    by_cases hij : j = i
    · subst hij
      simp [hc]
    · simp [hij, Ne.symm hij]
  rw [hsplit, Finset.card_insert_of_notMem]
  simp [missingCises, hasCentral_insertCis heq]

variable {cises : List (UInt8 × CisConfig)}

/-- The first CIS of a CIG command, then the others. -/
theorem configureCises_cons_lookups {cfg} :
    LookupsFound (configureCises env g ((i, cfg) :: cises) s) ↔
      LookupsFound
        (newCisConnection env { s with cisConfig := s.cisConfig.insert (g, i) cfg } g i .central >>=
        fun r => configureCises env g cises r.1) := by
  rw [configureCises, lookupsFound_bind_iff, lookupsFound_bind_iff]
  refine and_congr_right fun _ => forall₂_congr fun r _ => ?_
  exact lookupsFound_bind_iff.trans (and_iff_left fun _ _ => LookupsFound.ok _)

/-- **The CISes of a CIG command find their handles exactly when enough are free.** -/
theorem configureCises_lookups {g : UInt8} :
    ∀ {s : IsoManager}, LookupsFound (configureCises env g cises s) ↔
      (s.missingCises g (cises.map Prod.fst)).card ≤ s.freeCisHandles := by
  induction cises with
  | nil =>
    refine iff_of_true (LookupsFound.ok _) ?_
    simp [missingCises]
  | cons entry cises ih =>
    intro s
    obtain ⟨i, cfg⟩ := entry
    -- storing the configuration changes neither the connections nor the free handles
    let s₁ : IsoManager := { s with cisConfig := s.cisConfig.insert (g, i) cfg }
    rw [configureCises_cons_lookups, List.map_cons]
    by_cases hc : s.hasCentral g i = true
    · obtain ⟨h, hnew⟩ := newCisConnection_existing (s := s₁) env hc
      rw [missingCises_cons_existing hc, hnew]
      exact ih (s := s₁)
    · rw [Bool.not_eq_true] at hc
      rw [newCisConnection_missing (s := s₁) env hc, bind_assoc]
      have hpos : 0 < (s.missingCises g (i :: cises.map Prod.fst)).card :=
        Finset.card_pos.mpr ⟨i, by simp [missingCises, hc]⟩
      refine firstUnused_bind_lookups hpos fun h hh => ?_
      have hnew : s₁.newCisConnectionHandle = .ok h := unwrap_eq_ok.mpr hh
      rw [missingCises_cons_missing hc hnew]
      refine ih.trans ?_
      rw [← Nat.add_le_add_iff_right (n := 1), freeCisHandles_insertCis (s := s₁)
        (configuredCis g i .central h) hnew]
      rfl

/-! ## The handles of a BIG -/

/-- **The BISes of a BIG find their handles exactly when enough are free.** -/
theorem createBises_lookups {packet : LeCreateBig} {ids : List UInt8} :
    ∀ {s : IsoManager}, LookupsFound (createBises packet ids s) ↔
      ids.length ≤ s.freeBisHandles := by
  induction ids with
  | nil =>
    exact iff_of_true (LookupsFound.ok _) (Nat.zero_le _)
  | cons _ _ ih =>
    intro s
    refine firstUnused_bind_lookups (Nat.succ_pos _) fun h hh => ?_
    refine (lookupsFound_bind_iff.trans (and_iff_left fun _ _ => LookupsFound.ok _)).trans
      (ih.trans ?_)
    rw [← Nat.add_le_add_iff_right (n := 1)]
    exact Iff.of_eq (congrArg _ (HashMap.free_insert (nodup_handles (by decide)) hh _))

/-! ## Room for an input -/

/-- LE Set CIG Parameters passes its checks and has an ISO interval, so that it configures the CIG.
Source: `hci_le_set_cig_parameters` -/
def acceptsCig (env : Env) (s : IsoManager) (packet : LeSetCigParameters) : Bool :=
  let cises := packet.cisConfig.map cisParametersConfig
  decide (s.checkCig env packet.cigId packet.sduIntervalCToP packet.sduIntervalPToC
    cises = .ok ()) && !decide ((s.configuresCToP packet.cigId cises ∧
          ¬ (0x5 ≤ packet.maxTransportLatencyCToP ∧ packet.maxTransportLatencyCToP ≤ 0xfa0)) ∨
        (s.configuresPToC packet.cigId cises ∧
          ¬ (0x5 ≤ packet.maxTransportLatencyPToC ∧ packet.maxTransportLatencyPToC ≤ 0xfa0))) &&
    match isoInterval env.overflowChecks env.lcm packet.sduIntervalCToP packet.sduIntervalPToC
        (packet.framing = .enabled) (packet.maxTransportLatencyCToP.toUInt32 * 1000)
        (packet.maxTransportLatencyPToC.toUInt32 * 1000) with
    | .ok (some _) => true
    | _ => false

/-- LE Set CIG Parameters Test passes its checks.
Source: `hci_le_set_cig_parameters_test` -/
def acceptsCigTest (env : Env) (s : IsoManager) (packet : LeSetCigParametersTest) : Bool :=
  decide (s.checkCig env packet.cigId packet.sduIntervalCToP packet.sduIntervalPToC
    (packet.cisConfig.map leCisParametersTestConfig) = .ok ())

/-- There are as many free handles as the input needs: one for an LL_CIS_REQ, one for each CIS of an
accepted CIG command that has no Central connection, one for each BIS of an accepted LE Create
BIG. -/
def hasRoom (s : IsoManager) : Env × Input → Bool
  | (env, .hci (.leSetCigParameters p)) => !s.acceptsCig env p ||
      decide ((s.missingCises p.cigId (p.cisConfig.map CisParametersConfig.cisId)).card ≤
        s.freeCisHandles)
  | (env, .hci (.leSetCigParametersTest p)) => !s.acceptsCigTest env p ||
      decide ((s.missingCises p.cigId (p.cisConfig.map LeCisParametersTestConfig.cisId)).card ≤
        s.freeCisHandles)
  | (env, .hci (.leCreateBig p)) => !decide (s.checkBig env p = .ok ()) ||
      decide (p.numBis.toNat ≤ s.freeBisHandles)
  | (_, .llcp _ (.cisReq _)) => decide (0 < s.freeCisHandles)
  | _ => true

/-! ## The lookups of each handler -/

theorem isoInterval_lookups {chk framed : Bool} {lcm a b c d} :
    LookupsFound (isoInterval chk lcm a b framed c d) := by
  unfold isoInterval
  split
  · exact LookupsFound.ok _
  -- whichever SDU interval is taken, the rest is arithmetic
  have hrs : ∀ {x : Except Panic UInt32} {f : UInt32 → UInt32 → UInt32 → Option UInt16},
      LookupsFound x → LookupsFound (do
        let sduInterval ← x
        let interval ← Checked.trapped (lcm 1250 sduInterval)
        let twice ← Checked.mul chk 2 interval
        let latencyCToP ← Checked.sub chk twice a
        let latencyPToC ← Checked.sub chk twice b
        .ok (f interval latencyCToP latencyPToC)) := by
    intro x f hx
    refine hx.bind fun _ _ => Checked.trapped_lookups.bind fun _ _ => ?_
    refine Checked.mul_lookups.bind fun _ _ => Checked.sub_lookups.bind fun _ _ => ?_
    exact Checked.sub_lookups.bind fun _ _ => LookupsFound.ok _
  simp only [← apply_ite Except.ok]
  split_ifs
  · exact hrs (x := .error .explicit) nofun
  · exact hrs (x := .ok b) (LookupsFound.ok _)
  · exact hrs (x := .ok a) (LookupsFound.ok _)
  · exact hrs Checked.trapped_lookups

/-- Configuring a CIG and answering the command: only the handles can be missing. -/
theorem configureCig_reply_lookups {g update} (answer : List UInt16 → Event) :
    LookupsFound (s.configureCig env g update cises >>= fun r => reply r.1 (answer r.2)) ↔
      (s.missingCises g (cises.map Prod.fst)).card ≤ s.freeCisHandles := by
  rw [lookupsFound_bind_iff, configureCig, configureCises_lookups]
  exact and_iff_left fun _ _ => reply_lookups

theorem hciLeSetCigParameters_lookups {packet} : LookupsFound (s.hciLeSetCigParameters env packet) ↔
      s.hasRoom (env, .hci (.leSetCigParameters packet)) = true := by
  have hids : (packet.cisConfig.map cisParametersConfig).map Prod.fst =
      packet.cisConfig.map CisParametersConfig.cisId := by
    rw [List.map_map]
    rfl
  unfold hasRoom acceptsCig hciLeSetCigParameters
  dsimp only
  cases hchk : s.checkCig env packet.cigId packet.sduIntervalCToP packet.sduIntervalPToC
      (packet.cisConfig.map cisParametersConfig) with
  | error => exact iff_of_true reply_lookups (by simp)
  | ok =>
    split_ifs with hlat
    · exact iff_of_true reply_lookups (by rw [decide_eq_true hlat]; simp)
    · rw [lookupsFound_bind_iff, and_iff_right isoInterval_lookups]
      cases hint : isoInterval env.overflowChecks env.lcm packet.sduIntervalCToP
          packet.sduIntervalPToC (decide (packet.framing = .enabled))
          (packet.maxTransportLatencyCToP.toUInt32 * 1000)
          (packet.maxTransportLatencyPToC.toUInt32 * 1000) with
      | error => exact iff_of_true nofun (by simp)
      | ok interval =>
        cases interval with
        | none =>
          refine iff_of_true ?_ (by simp)
          rintro a ⟨⟩
          exact reply_lookups
        | some =>
          simp only [Except.ok.injEq, forall_eq', hlat, decide_false, Bool.not_false,
            decide_true, Bool.and_self, Bool.not_true, Bool.false_or, decide_eq_true_eq,
            ← hids]
          exact configureCig_reply_lookups (fun handles =>
              .leSetCigParametersComplete ⟨.success, packet.cigId, handles, 1⟩)

theorem hciLeSetCigParametersTest_lookups {packet} :
    LookupsFound (s.hciLeSetCigParametersTest env packet) ↔
      s.hasRoom (env, .hci (.leSetCigParametersTest packet)) = true := by
  have hids : (packet.cisConfig.map leCisParametersTestConfig).map Prod.fst =
      packet.cisConfig.map LeCisParametersTestConfig.cisId := by
    rw [List.map_map]
    rfl
  unfold hasRoom acceptsCigTest hciLeSetCigParametersTest
  dsimp only
  cases hchk : s.checkCig env packet.cigId packet.sduIntervalCToP packet.sduIntervalPToC
      (packet.cisConfig.map leCisParametersTestConfig) with
  | error => exact iff_of_true reply_lookups (by simp)
  | ok =>
    simp only [decide_true, Bool.not_true, Bool.false_or, decide_eq_true_eq, ← hids]
    exact configureCig_reply_lookups (fun handles =>
        .leSetCigParametersTestComplete ⟨.success, packet.cigId, handles, 1⟩)

/-- LE Create BIG needs room for the handles. -/
theorem hciLeCreateBig_lookups {packet} : LookupsFound (s.hciLeCreateBig env packet) ↔
      s.hasRoom (env, .hci (.leCreateBig packet)) = true := by
  unfold hasRoom hciLeCreateBig
  dsimp only
  cases hchk : s.checkBig env packet with
  | error => exact iff_of_true reply_lookups (by simp)
  | ok =>
    -- the status event always fits, so that the BISes are created
    have hsent : sendHciEvent (.leCreateBigStatus ⟨.success, 1⟩) =
        .ok (.hci (.leCreateBigStatus ⟨.success, 1⟩)) := rfl
    simp only [decide_true, Bool.not_true, Bool.false_or, decide_eq_true_eq]
    rw [lookupsFound_bind_iff, hsent, and_iff_right (LookupsFound.ok _)]
    simp only [Except.ok.injEq, forall_eq']
    rw [lookupsFound_bind_iff, createBises_lookups, and_iff_left]
    · rw [List.length_map, List.length_range']
      rfl
    · intro r _
      split_ifs
      · exact sendHciEvent_lookups.bind fun _ _ => LookupsFound.ok _
      · exact sendHciEvent_lookups.bind fun _ _ => LookupsFound.ok _

variable {a : UInt16}

/-- A request needs room for a handle. -/
theorem llCisReq_lookups (env : Env) {packet : CisReq} :
    LookupsFound (s.llCisReq a packet) ↔ s.hasRoom (env, .llcp a (.cisReq packet)) = true := by
  refine (firstUnused_bind_lookups Nat.one_pos fun h hh => iff_of_true reply_lookups ?_).trans
    decide_eq_true_iff.symm
  exact Nat.pos_iff_ne_zero.mpr fun h0 => by simp [HashMap.find?_free_eq_none.mpr h0] at hh

theorem mapM_sendHciEvent_lookups {events : List Event} :
    LookupsFound (events.mapM sendHciEvent) := by
  induction events with
  | nil => exact LookupsFound.ok _
  | cons _ _ ih =>
    rw [List.mapM_cons]
    exact sendHciEvent_lookups.bind fun _ _ => ih.bind fun _ _ => LookupsFound.ok _

/-- An entry that is out of configuration has its ACL link. -/
theorem Coherent.link_lookups {k : UInt16} {c : Cis} (hs : Coherent s)
    (hk : s.cisConnections[k]? = some c) (hst : c.state ≠ .configuration) :
    LookupsFound (unwrap c.aclConnectionHandle) :=
  LookupsFound.unwrap ((hs.entry k c hk).link hst)

theorem hciDisconnect_lookups {packet : Disconnect} (hs : Coherent s) :
    LookupsFound (s.hciDisconnect packet) := by
  unfold hciDisconnect
  split
  · exact reply_lookups
  rename_i c hc
  split
  · exact reply_lookups
  rename_i hst
  have hconn : c.state ≠ .configuration := by
    intro h
    rw [h] at hst
    simp at hst
  refine (hs.link_lookups hc hconn).bind fun _ _ => ?_
  refine sendLlcpPacket_lookups.bind fun _ _ => ?_
  exact sendHciEvent_lookups.bind fun _ _ => sendHciEvent_lookups.bind fun _ _ => LookupsFound.ok _

theorem hciLeAcceptCisRequest_lookups {packet : LeAcceptCisRequest} (hs : Coherent s) :
    LookupsFound (s.hciLeAcceptCisRequest packet) := by
  unfold hciLeAcceptCisRequest
  split
  · exact reply_lookups
  rename_i c hc
  split_ifs with _ hst
  · exact reply_lookups
  · exact reply_lookups
  have hpend : c.state ≠ .configuration := by
    rw [not_not] at hst
    rw [hst]
    decide
  refine (hs.link_lookups hc hpend).bind fun _ _ => ?_
  exact sendLlcpPacket_lookups.bind fun _ _ => sendHciEvent_lookups.bind fun _ _ =>
    LookupsFound.ok _

theorem hciLeRejectCisRequest_lookups {packet : LeRejectCisRequest} (hs : Coherent s) :
    LookupsFound (s.hciLeRejectCisRequest packet) := by
  unfold hciLeRejectCisRequest
  split
  · exact reply_lookups
  rename_i c hc
  split
  · exact reply_lookups
  split
  · exact reply_lookups
  rename_i hst
  have hpend : c.state ≠ .configuration := by
    rw [not_not] at hst
    rw [hst]
    decide
  refine (hs.link_lookups hc hpend).bind fun _ _ => ?_
  exact sendLlcpPacket_lookups.bind fun _ _ => sendHciEvent_lookups.bind fun _ _ =>
    LookupsFound.ok _

theorem hciLeTerminateBig_lookups {packet} : LookupsFound (s.hciLeTerminateBig packet) := by
  unfold hciLeTerminateBig
  split
  · exact reply_lookups
  split
  · exact reply_lookups
  exact sendHciEvent_lookups.bind fun _ _ => sendHciEvent_lookups.bind fun _ _ => LookupsFound.ok _

theorem hciLeRemoveCig_lookups {packet} : LookupsFound (s.hciLeRemoveCig packet) := by
  unfold hciLeRemoveCig
  split_ifs <;> exact reply_lookups

theorem hciLeSetupIsoDataPath_lookups {packet} : LookupsFound (s.hciLeSetupIsoDataPath packet) := by
  unfold hciLeSetupIsoDataPath
  dsimp only
  split
  · exact reply_lookups
  split
  · split_ifs <;> exact reply_lookups
  · split_ifs <;> exact reply_lookups
  · exact reply_lookups

theorem hciLeRemoveIsoDataPath_lookups {packet} :
    LookupsFound (s.hciLeRemoveIsoDataPath packet) := by
  unfold hciLeRemoveIsoDataPath
  dsimp only
  split
  · split_ifs <;> exact reply_lookups
  · split_ifs <;> exact reply_lookups
  · exact reply_lookups

theorem establishedPeripheral_lookups {chk : Bool} {h p} :
    LookupsFound (establishedPeripheral chk h p) := by
  refine LookupsFound.bind transportLatency_lookups fun _ _ => ?_
  refine LookupsFound.bind transportLatency_lookups fun _ _ => ?_
  exact phyType_lookups.bind fun _ _ => phyType_lookups.bind fun _ _ => LookupsFound.ok _

theorem llCisInd_lookups {packet} (hs : Coherent s) : LookupsFound (s.llCisInd env a packet) := by
  unfold llCisInd
  split
  · exact LookupsFound.ok _
  rename_i h hfind
  obtain ⟨c, hc, hp⟩ := HashMap.head?_keysWhere_eq_some hfind
  obtain ⟨-, -, hst⟩ := of_decide_eq_true hp
  have hpar : c.parameters.isSome := (hs.entry h c hc).parameters (by rw [hst]; decide)
  rw [hc]
  refine LookupsFound.bind (x := .ok c) (LookupsFound.ok _) ?_
  rintro _ ⟨⟩
  refine (LookupsFound.unwrap hpar).bind fun _ _ => ?_
  exact establishedPeripheral_lookups.bind fun _ _ => reply_lookups

theorem llCisTerminateInd_lookups {packet} : LookupsFound (s.llCisTerminateInd env a packet) := by
  unfold llCisTerminateInd
  split
  · exact LookupsFound.ok _
  refine unwrapResult_lookups.bind fun _ _ => ?_
  exact sendHciEvent_lookups.bind fun _ _ => LookupsFound.ok _

theorem removeAclConnection_lookups {reason : ErrorCode} :
    LookupsFound (s.removeAclConnection env a reason) :=
  mapM_sendHciEvent_lookups.bind fun _ _ => LookupsFound.ok _

/-- **An input that takes no request from the queue fails a lookup exactly when it finds no
room.** -/
theorem step_lookups_iff {i} (hs : Coherent s) (hi : takesNext i.2 = false) :
    LookupsFound (isoManager.step s i) ↔ s.hasRoom i = true := by
  obtain ⟨env, input⟩ := i
  cases input with
  | hci command =>
    cases command with
    | disconnect => exact iff_of_true (hciDisconnect_lookups hs) rfl
    | leSetCigParameters => exact hciLeSetCigParameters_lookups
    | leSetCigParametersTest => exact hciLeSetCigParametersTest_lookups
    | leCreateCis => cases hi
    | leRemoveCig => exact iff_of_true hciLeRemoveCig_lookups rfl
    | leAcceptCisRequest => exact iff_of_true (hciLeAcceptCisRequest_lookups hs) rfl
    | leRejectCisRequest => exact iff_of_true (hciLeRejectCisRequest_lookups hs) rfl
    | leSetupIsoDataPath => exact iff_of_true hciLeSetupIsoDataPath_lookups rfl
    | leRemoveIsoDataPath => exact iff_of_true hciLeRemoveIsoDataPath_lookups rfl
    | leCreateBig => exact hciLeCreateBig_lookups
    | leTerminateBig => exact iff_of_true hciLeTerminateBig_lookups rfl
  | llcp _ packet =>
    cases packet with
    | rejectExtInd | cisRsp => cases hi
    | cisReq => exact llCisReq_lookups env
    | cisInd => exact iff_of_true (llCisInd_lookups hs) rfl
    | cisTerminateInd => exact iff_of_true llCisTerminateInd_lookups rfl
  | addAclConnection => exact iff_of_true (LookupsFound.ok _) rfl
  | removeAclConnection => exact iff_of_true removeAclConnection_lookups rfl

/-- **Allocation panics exactly when it finds no room.**  From any state a run reaches, a list of
inputs that starts no request (commands that configure a CIG or create a BIG, requests of the peers,
removals, data paths, changes of the links) runs without a failed lookup exactly when each of its
inputs finds room in the state it is received in. -/
theorem allocation_lookups_iff {tr : List ((Env × Input) × List Output)} {s : IsoManager}
    (hrun : isoManager.Run (fun _ _ => True) new tr s) {is : List (Env × Input)}
    (his : ∀ i ∈ is, takesNext i.2 = false) :
    LookupsFound (isoManager.exec s is) ↔ isoManager.Meets (fun s i => s.hasRoom i = true) s is :=
  Machine.exec_avoids_iff (P := Coherent) (K := fun i => takesNext i.2 = false)
    (fun _ _ hs hi => step_lookups_iff hs hi)
    (fun _ _ _ _ hs _ hstep => hs.step (effect_of_step hstep)) (run_coherent hrun) his

/-- A CIG with two CISes, a request of the peer, and the removal of the CIG. -/
theorem allocation_lookups_two_cises : LookupsFound (isoManager.exec new
    [linkUp, configureCommand 1 [1, 2], requestReceived 1 1,
      (sampleEnv, .hci (.leRemoveCig ⟨1⟩))]) :=
  (allocation_lookups_iff .nil (by decide)).mpr (by decide +kernel)

/-! ## A peer uses up the handles -/

/-- A request of the peer takes one handle. -/
theorem llCisReq_step (env : Env) (packet : CisReq) (ha : a.toNat < 2 ^ 12)
    (hpos : 0 < s.freeCisHandles) :
    ∃ s' out, isoManager.step s (env, .llcp a (.cisReq packet)) = .ok (s', out) ∧
      s'.freeCisHandles + 1 = s.freeCisHandles := by
  obtain ⟨h, hh⟩ : Returns s.newCisConnectionHandle :=
    unwrap_returns_iff.mpr fun hn => hpos.ne' (HashMap.find?_free_eq_none.mp hn)
  obtain ⟨-, -, hlt⟩ := newCisConnectionHandle_ok hh
  have hfits : (Event.leCisRequest ⟨a, h, packet.cigId, packet.cisId⟩).fits = true := by
    simp only [Event.fits, Bool.and_eq_true, decide_eq_true_eq]
    omega
  exact ⟨s.insertCis (requestedCis a h packet), _, bind_eq_ok.mpr
    ⟨h, hh, reply_eq_ok.mpr ⟨hfits, rfl, rfl⟩⟩,
    freeCisHandles_insertCis (requestedCis a h packet) hh⟩

/-- From every state, enough requests of the peer leave no handle free. -/
theorem requests_exhaust (env : Env) {packet} (ha : a.toNat < 2 ^ 12) (n : Nat) :
    ∀ s : IsoManager, s.freeCisHandles = n → ∃ tr s',
      isoManager.Run (fun _ i => i = (env, .llcp a (.cisReq packet))) s tr s' ∧
        s'.freeCisHandles = 0 := by
  induction n with
  | zero =>
    intro s hs
    exact ⟨[], s, .nil, hs⟩
  | succ _ ih =>
    intro s hs
    have hpos : 0 < s.freeCisHandles := by omega
    obtain ⟨s₁, out, hstep, hfree⟩ := llCisReq_step env packet ha hpos
    obtain ⟨tr, s', hrun, hzero⟩ := ih s₁ (by omega)
    have hone : isoManager.Run (fun _ i => i = (env, .llcp a (.cisReq packet))) s
        [((env, .llcp a (.cisReq packet)), out)] s₁ := .snoc .nil rfl hstep
    exact ⟨_, s', hone.append hrun, hzero⟩

/-- A peer that sends LL_CIS_REQ until the range is full makes the next one panic: the handle search
ends in `unwrap` on `None`. -/
theorem peer_exhausts_handles :
    ∃ tr s, isoManager.Run (fun _ i => i = linkUp ∨ i = requestReceived 1 1) new tr s ∧
      isoManager.step s (requestReceived 1 1) = .error .unwrapNone := by
  obtain ⟨tr, s, hrun, hzero⟩ := requests_exhaust sampleEnv (a := 0x40) (by decide) _
    (new.addAclConnection 0x40 .central) rfl
  have hl : isoManager.Run (fun _ i => i = linkUp ∨ i = requestReceived 1 1) new [(linkUp, [])]
      (new.addAclConnection 0x40 .central) := .snoc .nil (Or.inl rfl) rfl
  refine ⟨_, s, hl.append (hrun.mono fun _ _ h => Or.inr h), ?_⟩
  have hfail : ¬ LookupsFound (isoManager.step s (requestReceived 1 1)) := by
    rw [show isoManager.step s (requestReceived 1 1) = s.llCisReq 0x40 _ from rfl,
      llCisReq_lookups sampleEnv]
    simp [hasRoom, hzero]
  exact not_not.mp hfail

end IsoManager

end RootCanal.Iso
