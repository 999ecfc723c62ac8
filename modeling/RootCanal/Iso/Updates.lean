import RootCanal.Iso.Procedures

/-!
# State updates of the ISO manager

The specification of each helper the handlers are built from, so that no later proof unfolds
one.

* The lookup lemmas say what each state update does to the entry of a handle, and that it
  leaves the other tables alone.
* A send returns exactly when the packet fits, and gives the packet
  (`sendHciEvent_eq_ok`, `sendLlcpPacket_eq_ok`).
* Allocation gives an unused handle (`newCisConnectionHandle_ok`), and
  **`configureCises_induct` is the induction over the CISes of a CIG command**.
* `Requestable` is what LE Create CIS checks of each of its elements (`checkCisRequests_ok`).
-/

namespace RootCanal.Iso

open Lib RootCanal.Hci RootCanal.Llcp

namespace IsoManager

/-! ## Lookups after an update -/

section lookups

variable (s : IsoManager) (h k : UInt16) (f : Cis → Cis)

@[simp] theorem modifyCis_getElem? : (s.modifyCis h f).cisConnections[k]? =
      if h = k then (s.cisConnections[h]?).map f else s.cisConnections[k]? :=
  HashMap.getElem?_modify' _ _ _ _

@[simp] theorem removeCis_getElem? :
    (s.removeCis h).cisConnections[k]? = if h = k then none else s.cisConnections[k]? :=
  HashMap.getElem?_erase' _ _ _

@[simp] theorem insertCis_getElem? (cis : Cis) : (s.insertCis cis).cisConnections[k]? =
      if cis.cisConnectionHandle = k then some cis else s.cisConnections[k]? :=
  HashMap.getElem?_insert' _ _ _ _

/-- What the table holds after an insertion. -/
theorem insertCis_eq_some {cis c} (hfree : s.cisConnections[cis.cisConnectionHandle]? = none) :
    (s.insertCis cis).cisConnections[k]? = some c ↔
      (k = cis.cisConnectionHandle ∧ c = cis) ∨ s.cisConnections[k]? = some c := by
  rw [insertCis_getElem?]
  by_cases hk : cis.cisConnectionHandle = k
  · subst hk
    rw [if_pos rfl, hfree]
    simp [eq_comm]
  · rw [if_neg hk]
    simp [Ne.symm hk]

@[simp] theorem startRequest_getElem? (r : CisRequest) (p : CisParameters) :
    (s.startRequest r p).cisConnections[k]? =
      if r.cisConnectionHandle = k then
        (s.cisConnections[r.cisConnectionHandle]?).map (requested r.aclConnectionHandle p)
      else s.cisConnections[k]? :=
  HashMap.getElem?_modify' _ _ _ _

/-- What a removed group leaves of an entry. -/
theorem dropCig_entry {g} : (s.dropCig g).cisConnections[k]? =
    (s.cisConnections[k]?).filter fun c => c.role ≠ .central ∨ c.cigId ≠ g :=
  HashMap.getElem?_retain ..

/-- What a lost ACL connection leaves of an entry. -/
theorem dropLink_entry {a} :
    (s.dropLink a).cisConnections[k]? = ((s.cisConnections[k]?).filter fun c =>
    c.role = .central ∨ c.aclConnectionHandle ≠ some a).map (unlink a) := by
  rw [← HashMap.getElem?_retain s.cisConnections
    (fun _ c => c.role = .central ∨ c.aclConnectionHandle ≠ some a) k]
  exact Std.ExtTreeMap.getElem?_map

/-- A CIS survives the removal of a CIG unless it is a Central one of that CIG. -/
theorem dropCig_getElem? {g c} : (s.dropCig g).cisConnections[k]? = some c ↔
      s.cisConnections[k]? = some c ∧ (c.role ≠ .central ∨ c.cigId ≠ g) := by
  unfold dropCig
  rw [HashMap.mem_retain_iff, decide_eq_true_eq]

/-- Ending a CIS resets a Central entry and drops a Peripheral one. -/
theorem endCis_getElem? {c} (hc : s.cisConnections[h]? = some c) :
    (s.endCis h c).cisConnections[k]? = if h = k then
        (if c.role = .central then some { c with state := .configuration } else none)
      else s.cisConnections[k]? := by
  unfold endCis
  by_cases hr : c.role = .central
  · rw [if_pos hr, modifyCis_getElem?, hc]
    simp [hr]
  · simp [hr]

end lookups

/-! ## The other tables -/

section frame

variable (s : IsoManager) (h : UInt16) (f : Cis → Cis)

@[simp] theorem modifyCis_cigConfig : (s.modifyCis h f).cigConfig = s.cigConfig := rfl
@[simp] theorem modifyCis_cisConfig : (s.modifyCis h f).cisConfig = s.cisConfig := rfl

@[simp] theorem startRequest_requests (r : CisRequest) (p : CisParameters) :
    (s.startRequest r p).cisConnectionRequests = s.cisConnectionRequests.dropLast := rfl

@[simp] theorem endCis_cigConfig (c : Cis) : (s.endCis h c).cigConfig = s.cigConfig := by
  unfold endCis; split <;> rfl
@[simp] theorem endCis_cisConfig (c : Cis) : (s.endCis h c).cisConfig = s.cisConfig := by
  unfold endCis; split <;> rfl
@[simp] theorem endCis_aclConnections (c : Cis) :
    (s.endCis h c).aclConnections = s.aclConnections := by
  unfold endCis; split <;> rfl
@[simp] theorem endCis_requests (c : Cis) :
    (s.endCis h c).cisConnectionRequests = s.cisConnectionRequests := by
  unfold endCis; split <;> rfl

end frame

/-! ## Sending -/

theorem sendHciEvent_eq_ok {e o} : sendHciEvent e = .ok o ↔ e.fits ∧ o = .hci e := by
  unfold sendHciEvent
  by_cases hfits : e.fits
  · simp [hfits, eq_comm]
  · simp [hfits]

theorem sendLlcpPacket_eq_ok {a p o} : sendLlcpPacket a p = .ok o ↔ p.fits ∧ o = .llcp a p := by
  unfold sendLlcpPacket
  by_cases hfits : p.fits
  · simp [hfits, eq_comm]
  · simp [hfits]

theorem reply_eq_ok {s s' e out} :
    reply s e = .ok (s', out) ↔ e.fits ∧ s' = s ∧ out = [.hci e] := by
  unfold reply
  rw [bind_eq_ok]
  constructor
  · rintro ⟨o, ho, h⟩
    obtain ⟨hfits, rfl⟩ := sendHciEvent_eq_ok.mp ho
    cases h
    exact ⟨hfits, rfl, rfl⟩
  · rintro ⟨hfits, rfl, rfl⟩
    exact ⟨.hci e, sendHciEvent_eq_ok.mpr ⟨hfits, rfl⟩, rfl⟩

section yields

variable {β : Type} {P : β → Prop} {f : Output → Except Panic β}

theorem yields_event {e} (h : Yields (f (.hci e)) P) : Yields (sendHciEvent e >>= f) P :=
  .bind fun _ ho => (sendHciEvent_eq_ok.mp ho).2 ▸ h

theorem yields_packet {a p} (h : Yields (f (.llcp a p)) P) : Yields (sendLlcpPacket a p >>= f) P :=
  .bind fun _ ho => (sendLlcpPacket_eq_ok.mp ho).2 ▸ h

theorem yields_reply {P s e} (h : P (s, [.hci e])) : Yields (reply s e) P := yields_event (.ok h)

end yields

/-- A list of events was sent, so each of them was, in order. -/
theorem mapM_sendHciEvent {es : List Event} : Yields (es.mapM sendHciEvent) (· = es.map .hci) := by
  induction es with
  | nil => exact .ok rfl
  | cons _ _ ih =>
    rw [List.mapM_cons]
    refine yields_event (.seq ih ?_)
    rintro _ rfl
    exact .ok rfl

/-- The event reports that the CIS of the handle is established. -/
def Establishes (h : UInt16) (ev : LeCisEstablishedV1) : Prop :=
  ev.connectionHandle = h ∧ ev.status = .success

theorem establishedCentral_ok {chk h p} : Yields (establishedCentral chk h p) (Establishes h) := by
  iterate 4 refine .bind fun _ _ => ?_
  exact .ok ⟨rfl, rfl⟩

theorem establishedPeripheral_ok {chk h p} :
    Yields (establishedPeripheral chk h p) (Establishes h) := by
  iterate 4 refine .bind fun _ _ => ?_
  exact .ok ⟨rfl, rfl⟩

/-! ## Allocation -/

/-- A new handle is unused and in the range. -/
theorem newCisConnectionHandle_ok {s : IsoManager} {h : UInt16}
    (heq : s.newCisConnectionHandle = .ok h) :
    s.cisConnections[h]? = none ∧ 0xe00 ≤ h.toNat ∧ h.toNat < 0xefe := by
  unfold newCisConnectionHandle at heq
  rw [unwrap_eq_ok] at heq
  have hfree := List.find?_some heq
  obtain ⟨n, hn, rfl⟩ := List.mem_map.mp (List.mem_of_find?_eq_some heq)
  have hrg : 0xe00 ≤ n ∧ n < 0xe00 + 0xfe := List.mem_range'_1.mp hn
  have hval : (UInt16.ofNat n).toNat = n := UInt16.toNat_ofNat_of_lt (by show n < 2 ^ 16; omega)
  rw [Bool.not_eq_true', HashMap.contains_eq_false] at hfree
  rw [hval]
  exact ⟨hfree, hrg.1, hrg.2⟩

/-- A connection for a pair of identifiers is the one that exists, or a new one. -/
theorem newCisConnection_ok {env : Env} {s s' : IsoManager} {g i : UInt8} {role : Role}
    {h : UInt16} (heq : s.newCisConnection env g i role = .ok (s', h)) :
    (s' = s ∧ ∃ (k : UInt16) (c : Cis), s.cisConnections[k]? = some c ∧ c.cigId = g ∧
        c.cisId = i ∧ c.role = role ∧ c.cisConnectionHandle = h) ∨
      (s.newCisConnectionHandle = .ok h ∧ s' = s.insertCis (configuredCis g i role h) ∧
        ∀ (k : UInt16) c, s.cisConnections[k]? = some c →
          ¬ (c.cigId = g ∧ c.cisId = i ∧ c.role = role)) := by
  unfold newCisConnection at heq
  split at heq
  · rename_i c hfind
    cases heq
    obtain ⟨⟨k, hk⟩, hc⟩ := HashMap.find?_values_eq_some hfind
    obtain ⟨hg, hi, hr⟩ := of_decide_eq_true hc
    exact Or.inl ⟨rfl, k, c, hk, hg, hi, hr, rfl⟩
  · rename_i hfind
    obtain ⟨k, hk, heq⟩ := bind_eq_ok.mp heq
    cases heq
    refine Or.inr ⟨hk, rfl, ?_⟩
    intro k' c hc
    exact of_decide_eq_false (HashMap.find?_values_eq_none.mp hfind k' c hc)

/-- **Induction over the CISes of a CIG command.** What storing one configuration and providing
one connection preserves, storing all of them preserves. -/
theorem configureCises_induct {env g} (P : IsoManager → Prop) :
    ∀ {cises : List (UInt8 × CisConfig)} {s s' : IsoManager} {hs : List UInt16},
      (∀ s s' h i cfg, (i, cfg) ∈ cises → P s →
        newCisConnection env { s with cisConfig := s.cisConfig.insert (g, i) cfg } g i .central =
          .ok (s', h) → P s') →
      P s → configureCises env g cises s = .ok (s', hs) → P s' := by
  intro cises
  induction cises with
  | nil =>
    intro s s' hs _ hP heq
    cases heq
    exact hP
  | cons entry _ ih =>
    intro s s' hs hstep hP heq
    obtain ⟨i, cfg⟩ := entry
    obtain ⟨⟨s₁, h⟩, hone, heq⟩ := bind_eq_ok.mp heq
    obtain ⟨⟨s₂, hs₂⟩, hrs, heq⟩ := bind_eq_ok.mp heq
    cases heq
    have hP₁ : P s₁ := hstep s s₁ h i cfg (List.mem_cons_self ..) hP hone
    refine ih ?_ hP₁ hrs
    intro s s' h i cfg hmem
    exact hstep s s' h i cfg (List.mem_cons_of_mem _ hmem)

/-! ## The requests of LE Create CIS -/

/-- What LE Create CIS checks of each element: the link is a Central one, and the handle is that
of a CIS in configuration, whose identifiers the request takes. -/
structure Requestable (s : IsoManager) (r : CisRequest) : Prop where
  link : s.aclConnections[r.aclConnectionHandle]? = some .central
  entry : ∃ c, s.cisConnections[r.cisConnectionHandle]? = some c ∧ c.state = .configuration ∧
    c.cigId = r.cigId ∧ c.cisId = r.cisId

/-- The accepted requests are those of the command, in order, without repetition, and each can
be requested. -/
theorem checkCisRequests_ok {s : IsoManager} :
    ∀ {configs : List LeCreateCisConfig} {acc rs : List CisRequest},
      s.checkCisRequests configs acc = .ok rs →
      (acc.map CisRequest.cisConnectionHandle).Nodup → (∀ r ∈ acc, s.Requestable r) →
      rs.map CisRequest.cisConnectionHandle = acc.map CisRequest.cisConnectionHandle ++
          configs.map LeCreateCisConfig.cisConnectionHandle ∧
        (rs.map CisRequest.cisConnectionHandle).Nodup ∧ ∀ r ∈ rs, s.Requestable r := by
  intro configs
  induction configs with
  | nil =>
    intro acc rs heq hnodup hacc
    cases heq
    exact ⟨by simp, hnodup, hacc⟩
  | cons config _ ih =>
    intro acc rs heq hnodup hacc
    unfold checkCisRequests at heq
    split at heq
    · cases heq
    · cases heq
    rename_i hl
    split at heq
    · cases heq
    rename_i cis hcis
    split_ifs at heq with hst hdup
    have hnew : config.cisConnectionHandle ∉ acc.map CisRequest.cisConnectionHandle := by
      intro hmem
      obtain ⟨r, hr, hrh⟩ := List.mem_map.mp hmem
      exact hdup (List.any_eq_true.mpr ⟨r, hr, decide_eq_true hrh⟩)
    have hreq : s.Requestable ⟨cis.cigId, cis.cisId, config.aclConnectionHandle,
        config.cisConnectionHandle⟩ := ⟨hl, cis, hcis, by simpa using hst, rfl, rfl⟩
    have hmore := ih heq ?_ ?_
    · obtain ⟨hmap, hnd, hall⟩ := hmore
      refine ⟨?_, hnd, hall⟩
      rw [hmap]
      simp
    · rw [List.map_append, List.nodup_append]
      refine ⟨hnodup, List.nodup_singleton _, ?_⟩
      intro x hx y hy hxy
      rw [hxy, List.mem_singleton.mp hy] at hx
      exact hnew hx
    · intro r hr
      rcases List.mem_append.mp hr with hr | hr
      · exact hacc r hr
      · rw [List.mem_singleton.mp hr]
        exact hreq

theorem tagNotConfigurable_ok : ∀ {rs : List CisRequest} {m m' : HashMap UInt8 CigConfig},
      tagNotConfigurable rs m = .ok m' →
      ∀ g : UInt8, (m'[g]?).map (fun cig => { cig with configurable := false }) =
        (m[g]?).map (fun cig => { cig with configurable := false }) := by
  intro rs
  induction rs with
  | nil =>
    intro m m' heq g
    cases heq
    rfl
  | cons r _ ih =>
    intro m m' heq g
    obtain ⟨cig, -, heq⟩ := bind_eq_ok.mp heq
    rw [ih heq g, HashMap.getElem?_modify']
    by_cases hg : r.cigId = g
    · rw [if_pos hg, hg, Option.map_map]
      rfl
    · rw [if_neg hg]

/-- Tagging returns if every group is known. -/
theorem tagNotConfigurable_returns : ∀ {rs : List CisRequest} {m : HashMap UInt8 CigConfig},
      (∀ r ∈ rs, (m[r.cigId]?).isSome) → ∃ m', tagNotConfigurable rs m = .ok m' := by
  intro rs
  induction rs with
  | nil =>
    intro m _
    exact ⟨m, rfl⟩
  | cons r rs ih =>
    intro m hall
    obtain ⟨cig, hcig⟩ := Option.isSome_iff_exists.mp (hall r (List.mem_cons_self ..))
    have hrs : ∀ r' ∈ rs, ((m.modify r.cigId fun cig =>
        { cig with configurable := false })[r'.cigId]?).isSome := by
      intro r' hr'
      rw [HashMap.getElem?_modify']
      split
      · rw [hcig]
        rfl
      · exact hall r' (List.mem_cons_of_mem _ hr')
    obtain ⟨m', hm'⟩ := ih hrs
    refine ⟨m', ?_⟩
    unfold tagNotConfigurable
    rw [hcig]
    exact hm'

theorem tagNotConfigurable_isSome {rs m m'} (heq : tagNotConfigurable rs m = .ok m') (g : UInt8) :
    (m'[g]?).isSome = (m[g]?).isSome := by
  have h := congrArg Option.isSome (tagNotConfigurable_ok heq g)
  rwa [Option.isSome_map, Option.isSome_map] at h

end IsoManager

end RootCanal.Iso
