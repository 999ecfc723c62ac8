import RootCanal.Iso.Link

/-!
# The managers as parties of the handshake

What one input makes of a manager, in the terms of the handshake: which CISes stop or start being
pending, connected, offered or held, and which messages are sent.

* `CentralMove`: a command of the host forgets CISes, ends one or requests one
  (`CentralSide.command`); `AnswerMove`: an answer of the peer concludes what is pending and may
  let the next request start (`CentralSide.response`, `CentralSide.rejection`).
* `PeripheralMove`: a command of the host answers an offer or gives up a CIS
  (`Endpoint.command`); what the Central sends is offered to the host (`Endpoint.requested`) or
  ends at most the CIS it names (`Endpoint.delivered`).
-/

namespace RootCanal.Iso

open Lib RootCanal.Hci RootCanal.Llcp

namespace IsoManager

open Lib.Handshake

/-! ## The Central -/

/-- What holds of the Central: it never has a CIS of the other role. -/
structure CentralSide (a : UInt16) (s : IsoManager) : Prop where
  endpoint : Endpoint a .central s
  central : ∀ (k : UInt16) c, s.cisConnections[k]? = some c → c.role = .central

section central

variable {env : Env} {s s' : IsoManager} {out : List Output} {input : Input} {a h k : UInt16}
  {c c' : Cis} {state : CisState}

theorem CentralSide.step (hs : CentralSide a s) (hinput : onLink input = true)
    (hl : ∀ x packet, input = .llcp x packet → x = a)
    (hkeep : s.keepsQueued (env, input) = true) (hreq : ∀ x q, input ≠ .llcp x (.cisReq q))
    (he : Effect env s input s' out) : CentralSide a s' := by
  refine ⟨hs.endpoint.step hinput hl hkeep he, ?_⟩
  intro k c' hk
  cases he.origin hk with
  | kept hc hsteps => rw [hsteps.same.role, hs.central k _ hc]
  | configured => rfl
  | requested hinput => exact absurd hinput (hreq _ _)

/-- The identifiers tell the CISes of the Central apart. -/
theorem CentralSide.unique (hs : CentralSide a s) (hc : s.cisConnections[h]? = some c)
    (hc' : s.cisConnections[k]? = some c') (hids : ids c = ids c') : h = k :=
  hs.endpoint.coherent.unique h k c c' hc hc' (hs.central h c hc) (hs.central k c' hc')
    (congrArg Prod.fst hids) (congrArg Prod.snd hids)

theorem inState_subset (hstate : ∀ (k : UInt16) c', s'.cisConnections[k]? = some c' →
    c'.state = state → ∃ c, s.cisConnections[k]? = some c ∧ c.state = state ∧ ids c = ids c') :
    s'.inState state ⊆ s.inState state := by
  rintro i ⟨k, c', hk, hc', rfl⟩
  obtain ⟨c, hc, hst, hids⟩ := hstate k c' hk hc'
  exact ⟨k, c, hc, hst, hids⟩

/-- Taking the next request sends it, and its CIS is pending. -/
theorem Started.move (hstr : Started env s s' out) (hq : QueueOk s)
    (hacl : ∀ r ∈ s.cisConnectionRequests, r.aclConnectionHandle = a) :
    (s' = s ∧ out = []) ∨ ∃ i, messages a out = [.request i] ∧
      s'.inState .pendingRsp ⊆ insert i (s.inState .pendingRsp) ∧
      s'.inState .connected ⊆ s.inState .connected := by
  cases hstr with
  | idle => exact Or.inl ⟨rfl, rfl⟩
  | @sent r _ _ _ _ c hrs _ _ _ hc =>
    have hmem : r ∈ s.cisConnectionRequests := by
      rw [hrs]
      exact List.mem_append_right _ (List.mem_singleton_self r)
    obtain ⟨c₀, hc₀, -, -, hg, hi⟩ := hq.queued r hmem
    obtain rfl : c = c₀ := Option.some.inj (hc.symm.trans hc₀)
    refine Or.inr ⟨(r.cigId, r.cisId), ?_, ?_, ?_⟩
    · rw [hacl r hmem, messages_llcp]
      rfl
    · rintro i ⟨k, c', hk, hst, rfl⟩
      rw [startRequest_getElem?] at hk
      split at hk
      · rw [hc] at hk
        cases hk
        exact Or.inl (Prod.ext hg hi)
      · exact Or.inr ⟨k, c', hk, hst, rfl⟩
    · refine inState_subset ?_
      intro k c' hk hst
      rw [startRequest_getElem?] at hk
      split at hk
      · rw [hc] at hk
        cases hk
        cases hst
      · exact ⟨c', hk, hst, rfl⟩

/-- What a command of its host makes of the Central, as a party of the handshake. -/
inductive CentralMove (s s' : IsoManager) : List (Msg Ids) → Prop
  | quiet : s'.inState .pendingRsp ⊆ s.inState .pendingRsp →
      s'.inState .connected ⊆ s.inState .connected → CentralMove s s' []
  | close {i : Ids} : s'.inState .pendingRsp ⊆ s.inState .pendingRsp \ {i} →
      s'.inState .connected ⊆ s.inState .connected \ {i} → CentralMove s s' [.terminate i]
  | start {i : Ids} : s'.inState .pendingRsp ⊆ insert i (s.inState .pendingRsp) →
      s'.inState .connected ⊆ s.inState .connected → CentralMove s s' [.request i]

/-- Dropping or resetting the one entry with these identifiers leaves no CIS in a state with
them. -/
theorem CentralSide.inState_without (hs : CentralSide a s) (hc : s.cisConnections[h]? = some c)
    (hst : state ≠ .configuration)
    (hoth : ∀ (k : UInt16) c', s'.cisConnections[k]? = some c' → c'.state ≠ .configuration →
      h ≠ k ∧ s.cisConnections[k]? = some c') :
    s'.inState state ⊆ s.inState state \ {ids c} := by
  rintro i ⟨k, c', hk, rfl, rfl⟩
  obtain ⟨hne, hk⟩ := hoth k c' hk hst
  refine ⟨⟨k, c', hk, rfl, rfl⟩, ?_⟩
  intro hids
  exact hne (hs.unique hc hk hids.symm)

/-- Ending a CIS of the Central resets its entry. -/
theorem CentralSide.endCis_entry (hs : CentralSide a s) (hc : s.cisConnections[h]? = some c)
    (hk : (s.endCis h c).cisConnections[k]? = some c') (hst : c'.state ≠ .configuration) :
    h ≠ k ∧ s.cisConnections[k]? = some c' := by
  rw [endCis_getElem? _ _ _ hc, if_pos (hs.central h c hc)] at hk
  split at hk
  · cases hk
    exact absurd rfl hst
  · rename_i hne
    exact ⟨hne, hk⟩

/-- An LE Create CIS sends at most a request, and none unless it passes its checks. -/
theorem CentralSide.created (hs : CentralSide a s) {p rs cigs}
    (hchk : s.checkCisRequests p.cisConfig [] = .ok rs)
    (hemp : s.cisConnectionRequests = []) (hhost : env.connectedIsochronousStreamHostSupport = true)
    (hstr : Started env { s with cigConfig := cigs, cisConnectionRequests := rs.reverse } s' out) :
    CentralMove s s' (messages a out) ∧
      (Link.startsRequest env s (.leCreateCis p) = false → ∀ i, messages a out ≠ [.request i]) := by
  obtain ⟨-, -, hall⟩ := checkCisRequests_ok hchk List.nodup_nil nofun
  have hacl : ∀ r ∈ rs.reverse, r.aclConnectionHandle = a := fun r hr =>
    ((hs.endpoint.link _ _).mp (hall r (List.mem_reverse.mp hr)).link).1
  rcases hstr.move (queueOk_of_check hs.endpoint.coherent hchk cigs) hacl with
    ⟨rfl, rfl⟩ | ⟨i, hmsg, hpend, hconn⟩
  · exact ⟨.quiet subset_rfl subset_rfl, fun _ i => by simp⟩
  · rw [hmsg]
    refine ⟨.start hpend hconn, ?_⟩
    intro hstarts
    -- the command was accepted, so it had no request to start
    have hnil : rs = [] := by
      unfold Link.startsRequest at hstarts
      simpa [hchk, hemp, hhost] using hstarts
    subst hnil
    cases hstr with
    | idle => cases hmsg
    | sent hrs => exact absurd hrs (by simp)

/-- **A command of its host makes the Central a move of the handshake**, a request only when it is
an accepted LE Create CIS. -/
theorem CentralSide.command {cmd} (hs : CentralSide a s) (he : Effect env s (.hci cmd) s' out) :
    CentralMove s s' (messages a out) ∧
      (Link.startsRequest env s cmd = false → ∀ i, messages a out ≠ [.request i]) := by
  have quiet (hmsg : messages a out = [])
      (hsub : ∀ state, state ≠ .configuration → s'.inState state ⊆ s.inState state) :
      CentralMove s s' (messages a out) ∧
        (Link.startsRequest env s cmd = false → ∀ i, messages a out ≠ [.request i]) := by
    rw [hmsg]
    exact ⟨.quiet (hsub _ (by decide)) (hsub _ (by decide)), fun _ i => by simp⟩
  cases he with
  | refused => exact quiet rfl fun _ _ => subset_rfl
  | configured _ _ _ hconf =>
    refine quiet rfl fun state hst => inState_subset ?_
    intro k c' hk hc'
    rcases (configureCig_spec hconf).new k c' hk with hk | ⟨-, -, i, rfl, -⟩
    · exact ⟨c', hk, hc', rfl⟩
    · exact absurd hc'.symm hst
  | removedCig =>
    refine quiet rfl fun state _ => inState_subset ?_
    intro k c' hk hc'
    exact ⟨c', ((dropCig_getElem? _ _).mp hk).1, hc', rfl⟩
  | created hchk hemp _ hstr hhost =>
    rw [messages_append, messages_hci, messages_nil, List.append_nil]
    exact hs.created hchk hemp hhost hstr
  | accepted hc hr | rejected hc hr =>
    rw [hs.central _ _ hc] at hr
    cases hr
  | @dataPath _ _ _ _ _ _ hf =>
    refine quiet rfl fun state _ => inState_subset ?_
    intro k c' hk hc'
    rw [modifyCis_getElem?] at hk
    split at hk
    · rename_i hhk
      obtain ⟨c, hc, rfl⟩ := Option.map_eq_some_iff.mp hk
      rw [hf c] at hc' ⊢
      exact ⟨c, hhk ▸ hc, hc', rfl⟩
    · exact ⟨c', hk, hc', rfl⟩
  | broadcast => exact quiet messages_events fun _ _ => subset_rfl
  | @disconnected p c a' hc hst hacl =>
    have hne : c.state ≠ .configuration := by
      rcases hst with hst | hst <;> rw [hst] <;> decide
    obtain rfl : a = a' := Option.some.inj ((hs.endpoint.acl hc hne).symm.trans hacl)
    have hwithout : ∀ state, state ≠ .configuration →
        (s.endCis p.connectionHandle c).inState state ⊆ s.inState state \ {ids c} :=
      fun state hst => hs.inState_without hc hst fun k c' hk hc' => hs.endCis_entry hc hk hc'
    rw [messages_llcp, messages_hci, messages_hci, messages_nil]
    exact ⟨.close (hwithout _ (by decide)) (hwithout _ (by decide)), fun _ i => by simp [msg?]⟩

/-- What the answer `m` of the peer makes of the Central: nothing is pending, a pending CIS may be
connected, and the next request may be sent. -/
inductive AnswerMove (s s' : IsoManager) (m : Msg Ids) : List (Msg Ids) → Prop
  | done {K : Set Ids} {sent : List (Msg Ids)} : (∀ x ∈ sent, x = .confirm) →
      (∀ j ∈ K, j ∈ s.inState .connected ∨ (j ∈ s.inState .pendingRsp ∧ m = .accept)) →
      s'.inState .pendingRsp = ∅ → s'.inState .connected = K → AnswerMove s s' m sent
  | next {K : Set Ids} {sent : List (Msg Ids)} {i : Ids} : (∀ x ∈ sent, x = .confirm) →
      (∀ j ∈ K, j ∈ s.inState .connected ∨ (j ∈ s.inState .pendingRsp ∧ m = .accept)) →
      s'.inState .pendingRsp ⊆ {i} → s'.inState .connected ⊆ K →
      AnswerMove s s' m (sent ++ [.request i])

variable {m : Msg Ids} {f : Cis → Cis} {sent : List (Msg Ids)}

variable (hs : CentralSide a s)
include hs

/-- An answer that finds no CIS waiting for it changes nothing. -/
theorem CentralSide.skips
    (hskips : ∀ (k : UInt16) c, s.cisConnections[k]? = some c → awaitsRsp a c = false) :
    AnswerMove s s m [] := by
  refine .done (by simp) (fun j hj => Or.inl hj) ?_ rfl
  apply Set.eq_empty_iff_forall_notMem.mpr
  rintro i ⟨k, c, hk, hst, rfl⟩
  have hacl := hs.endpoint.acl hk (by rw [hst]; decide)
  have haw := awaitsRsp_iff.mpr ⟨hacl, hs.central k c hk, hst⟩
  rw [hskips k c hk] at haw
  cases haw

/-- The termination of a CIS leaves none with its identifiers. -/
theorem CentralSide.terminated {q} (hst : state ≠ .configuration)
    (he : Effect env s (.llcp a (.cisTerminateInd q)) s' out) :
    messages a out = [] ∧ s'.inState state ⊆ s.inState state \ {(q.cigId, q.cisId)} := by
  cases he with
  | skipped hskips =>
    refine ⟨rfl, ?_⟩
    rintro i ⟨k, c, hk, hc, rfl⟩
    refine ⟨⟨k, c, hk, hc, rfl⟩, ?_⟩
    intro hids
    have hacl := hs.endpoint.acl hk (by rw [hc]; exact hst)
    have hterm := terminates_iff.mpr ⟨hacl, congrArg Prod.fst hids, congrArg Prod.snd hids⟩
    rw [hskips k c hk] at hterm
    cases hterm
  | terminated hc hterm =>
    obtain ⟨-, hg, hi⟩ := terminates_iff.mp hterm
    refine ⟨rfl, ?_⟩
    rw [← hg, ← hi]
    refine hs.inState_without hc hst ?_
    intro k c' hk _
    rw [removeCis_getElem?] at hk
    split at hk
    · cases hk
    · rename_i hne
      exact ⟨hne, hk⟩

variable (hone : (s.inState .pendingRsp).Subsingleton)
include hone

/-- An answer ends the wait of the one CIS that is pending. -/
theorem CentralSide.answered (hc : s.cisConnections[h]? = some c)
    (haw : awaitsRsp a c = true) (hids : ids (f c) = ids c)
    (hf : (f c).state = .configuration ∨ ((f c).state = .connected ∧ m = .accept))
    (hsent : ∀ x ∈ sent, x = .confirm) (hstr : Started env (s.modifyCis h f) s' out) :
    AnswerMove s s' m (sent ++ messages a out) := by
  obtain ⟨-, -, hst⟩ := awaitsRsp_iff.mp haw
  have hpd : ids c ∈ s.inState .pendingRsp := ⟨h, c, hc, hst, rfl⟩
  have hemp : (s.modifyCis h f).inState .pendingRsp = ∅ := by
    apply Set.eq_empty_iff_forall_notMem.mpr
    rintro i ⟨k, c', hk, hc', rfl⟩
    rw [modifyCis_getElem?] at hk
    split at hk
    · rw [hc] at hk
      cases hk
      rcases hf with hf | ⟨hf, -⟩ <;> rw [hc'] at hf <;> cases hf
    · rename_i hne
      exact hne (hs.unique hc hk (hone hpd ⟨k, c', hk, hc', rfl⟩))
  have hconnected : ∀ j ∈ (s.modifyCis h f).inState .connected,
      j ∈ s.inState .connected ∨ (j ∈ s.inState .pendingRsp ∧ m = .accept) := by
    rintro j ⟨k, c', hk, hc', rfl⟩
    rw [modifyCis_getElem?] at hk
    split at hk
    · rw [hc] at hk
      cases hk
      rcases hf with hf | ⟨-, hm⟩
      · rw [hc'] at hf
        cases hf
      · rw [hids]
        exact Or.inr ⟨hpd, hm⟩
    · exact Or.inl ⟨k, c', hk, hc', rfl⟩
  have hqu : QueueOk (s.modifyCis h f) := hs.endpoint.queue.answered hc haw
  rcases hstr.move hqu fun r hr => (hs.endpoint.request_link hr).1 with
    ⟨rfl, rfl⟩ | ⟨i, hmsg, hpend, hconn⟩
  · rw [messages_nil, List.append_nil]
    exact .done hsent hconnected hemp rfl
  · rw [hmsg]
    refine .next hsent hconnected ?_ hconn
    rwa [hemp, insert_empty_eq] at hpend

theorem CentralSide.response {q} (he : Effect env s (.llcp a (.cisRsp q)) s' out) :
    AnswerMove s s' .accept (messages a out) := by
  cases he with
  | skipped hskips => exact hs.skips hskips
  | established hc haw _ _ hstr =>
    rw [messages_llcp, messages_hci]
    exact hs.answered hone hc haw rfl (Or.inr ⟨rfl, rfl⟩) (by simp [msg?]) hstr

theorem CentralSide.rejection {q} (hop : q.rejectOpcode = Opcode.llCisReq)
    (he : Effect env s (.llcp a (.rejectExtInd q)) s' out) :
    AnswerMove s s' .refuse (messages a out) := by
  cases he with
  | skipped hskips => exact hs.skips (hskips hop)
  | failed hc haw _ hstr =>
    rw [messages_hci, ← List.nil_append (messages a _)]
    exact hs.answered hone hc haw rfl (Or.inl rfl) (by simp) hstr

end central

/-! ## The Peripheral -/

/-- What a command of its host makes of the Peripheral, as a party of the handshake. -/
inductive PeripheralMove (b : UInt16) (s s' : IsoManager) : List (Msg Ids) → Prop
  | keep : s'.offers = s.offers → s.holds b ⊆ s'.holds b → PeripheralMove b s s' []
  | answer {k : UInt16} {i : Ids} {m : Msg Ids} : m.isAnswer = true → (k, i) ∈ s.offers →
      s'.offers ⊆ s.offers \ {(k, i)} → s.holds b ⊆ s'.holds b → (m = .accept → i ∈ s'.holds b) →
      PeripheralMove b s s' [m]
  | abandon {i : Ids} : s'.offers = s.offers → s.holds b \ {i} ⊆ s'.holds b →
      PeripheralMove b s s' [.terminate i]

section peripheral

variable {env : Env} {s s' : IsoManager} {out : List Output} {b h : UInt16} {c : Cis}

section others

variable (hoth : ∀ k : UInt16, h ≠ k → s'.cisConnections[k]? = s.cisConnections[k]?)

include hoth

/-- Offers stay when only an entry changes that is no offer before or after. -/
theorem offers_eq (hpre : ∀ c, s.cisConnections[h]? = some c → c.state ≠ .pendingAccept)
    (hpost : ∀ c, s'.cisConnections[h]? = some c → c.state ≠ .pendingAccept) :
    s'.offers = s.offers := by
  ext ⟨k, i⟩
  by_cases hk : h = k
  · subst hk
    refine iff_of_false ?_ ?_
    · rintro ⟨c, hc, hst, -⟩
      exact hpost c hc hst
    · rintro ⟨c, hc, hst, -⟩
      exact hpre c hc hst
  · constructor
    · rintro ⟨c, hc, hrs⟩
      exact ⟨c, (hoth k hk).symm.trans hc, hrs⟩
    · rintro ⟨c, hc, hrs⟩
      exact ⟨c, (hoth k hk).trans hc, hrs⟩

/-- An offer that is taken up or dropped is gone, and no other comes. -/
theorem offers_without
    (hpost : ∀ c, s'.cisConnections[h]? = some c → c.state ≠ .pendingAccept) (i : Ids) :
    s'.offers ⊆ s.offers \ {(h, i)} := by
  rintro ⟨k, j⟩ ⟨c, hc, hst, hids⟩
  by_cases hk : h = k
  · subst hk
    exact absurd hst (hpost c hc)
  · refine ⟨⟨c, (hoth k hk).symm.trans hc, hst, hids⟩, ?_⟩
    intro heq
    exact hk (congrArg Prod.fst heq).symm

/-- What is held stays when another entry changes. -/
theorem holds_without (hc : s.cisConnections[h]? = some c) : s.holds b \ {ids c} ⊆ s'.holds b := by
  rintro i ⟨⟨k, c', hk, hrs⟩, hne⟩
  refine ⟨k, c', ?_, hrs⟩
  rw [hoth k ?_]
  · exact hk
  · rintro rfl
    obtain rfl : c = c' := Option.some.inj (hc.symm.trans hk)
    exact hne hrs.2.2.2.symm

theorem holds_subset (hpre : ∀ c, s.cisConnections[h]? = some c →
      ¬ (c.state = .pendingInd ∨ c.state = .connected)) : s.holds b ⊆ s'.holds b := by
  rintro i ⟨k, c, hk, hr, hacl, hst, hids⟩
  refine ⟨k, c, ?_, hr, hacl, hst, hids⟩
  rw [hoth k ?_]
  · exact hk
  · rintro rfl
    exact hpre c hk hst

end others

theorem modifyCis_other {f} (k : UInt16) (hk : h ≠ k) :
    (s.modifyCis h f).cisConnections[k]? = s.cisConnections[k]? := by
  rw [modifyCis_getElem?, if_neg hk]

theorem removeCis_other (k : UInt16) (hk : h ≠ k) :
    (s.removeCis h).cisConnections[k]? = s.cisConnections[k]? := by
  rw [removeCis_getElem?, if_neg hk]

/-- The host of the Peripheral answers an offer. -/
theorem Endpoint.accepted (hs : Endpoint b .peripheral s) (hc : s.cisConnections[h]? = some c)
    (hr : c.role = .peripheral) (hst : c.state = .pendingAccept) :
    PeripheralMove b s (s.modifyCis h fun c => { c with state := .pendingInd }) [.accept] := by
  have hacl : c.aclConnectionHandle = some b := hs.acl hc (by rw [hst]; decide)
  have hent : (s.modifyCis h fun c => { c with state := .pendingInd }).cisConnections[h]? =
      some { c with state := .pendingInd } := by
    rw [modifyCis_getElem?, if_pos rfl, hc]
    rfl
  refine .answer (k := h) (i := ids c) rfl ⟨c, hc, hst, rfl⟩ (offers_without modifyCis_other ?_ _)
    (holds_subset modifyCis_other ?_) ?_
  · intro c' hc'
    rw [hent] at hc'
    cases hc'
    nofun
  · intro c' hc'
    obtain rfl : c = c' := Option.some.inj (hc.symm.trans hc')
    rw [hst]
    decide
  · intro _
    exact ⟨h, _, hent, hr, hacl, Or.inl rfl, rfl⟩

theorem Endpoint.rejected (hc : s.cisConnections[h]? = some c) (hst : c.state = .pendingAccept) :
    PeripheralMove b s (s.removeCis h) [.refuse] := by
  refine .answer (k := h) (i := ids c) rfl ⟨c, hc, hst, rfl⟩ (offers_without removeCis_other ?_ _)
    (holds_subset removeCis_other ?_) nofun
  · intro c' hc'
    rw [removeCis_getElem?, if_pos rfl] at hc'
    cases hc'
  · intro c' hc'
    obtain rfl : c = c' := Option.some.inj (hc.symm.trans hc')
    rw [hst]
    decide

/-- The Peripheral has no link on which an LE Create CIS could be accepted. -/
theorem Endpoint.requests_nil (hs : Endpoint b .peripheral s) {p : LeCreateCis}
    {rs : List CisRequest} (hchk : s.checkCisRequests p.cisConfig [] = .ok rs) : rs = [] := by
  obtain ⟨-, -, hall⟩ := checkCisRequests_ok hchk List.nodup_nil nofun
  apply List.eq_nil_iff_forall_not_mem.mpr
  intro r hr
  cases ((hs.link _ _).mp (hall r hr).link).2

/-- Only a Peripheral CIS waits for its host. -/
theorem Endpoint.offer_role {role} (hs : Endpoint b role s)
    (hc : s.cisConnections[h]? = some c) (hstate : c.state = .pendingAccept) :
    c.role ≠ .central := by
  intro hcen
  rcases (hs.coherent.entry h c hc).central hcen with hst | hst | hst <;>
    rw [hstate] at hst <;> cases hst

/-- The data paths of a CIS are no part of the handshake. -/
theorem dataPath_move {f} (hf : ∀ c, f c = { c with
      isoDataPathCToP := (f c).isoDataPathCToP
      isoDataPathPToC := (f c).isoDataPathPToC }) :
    PeripheralMove b s (s.modifyCis h f) [] := by
  have hent : ∀ (k : UInt16) c, s.cisConnections[k]? = some c →
      ∃ c', (s.modifyCis h f).cisConnections[k]? = some c' ∧ c' = { c with
        isoDataPathCToP := c'.isoDataPathCToP, isoDataPathPToC := c'.isoDataPathPToC } := by
    intro k c hc
    rw [modifyCis_getElem?]
    split
    · rename_i hhk
      rw [hhk, hc]
      exact ⟨f c, rfl, hf c⟩
    · exact ⟨c, hc, rfl⟩
  refine .keep (Set.Subset.antisymm ?_ ?_) ?_
  · rintro ⟨k, i⟩ ⟨c, hc, hst, hids⟩
    rw [modifyCis_getElem?] at hc
    split at hc
    · rename_i hhk
      obtain ⟨c₀, hc₀, rfl⟩ := Option.map_eq_some_iff.mp hc
      rw [hf c₀] at hst hids
      exact ⟨c₀, hhk ▸ hc₀, hst, hids⟩
    · exact ⟨c, hc, hst, hids⟩
  · rintro ⟨k, i⟩ ⟨c, hc, hst, hids⟩
    obtain ⟨c', hc', heq⟩ := hent k c hc
    exact ⟨c', hc', by rw [heq]; exact hst, by rw [heq]; exact hids⟩
  · rintro i ⟨k, c, hc, hrs⟩
    obtain ⟨c', hc', heq⟩ := hent k c hc
    exact ⟨k, c', hc', by rw [heq]; exact hrs⟩

/-- **A command of its host makes the Peripheral a move of the handshake.** -/
theorem Endpoint.command {cmd : Command} (hs : Endpoint b .peripheral s)
    (he : Effect env s (.hci cmd) s' out) : PeripheralMove b s s' (messages b out) := by
  cases he with
  | refused => exact .keep rfl subset_rfl
  | configured _ _ _ hconf =>
    have hspec := configureCig_spec hconf
    refine .keep (Set.Subset.antisymm ?_ ?_) ?_
    · rintro ⟨k, i⟩ ⟨c, hc, hst, hids⟩
      rcases hspec.new k c hc with hc | ⟨-, -, j, rfl, -⟩
      · exact ⟨c, hc, hst, hids⟩
      · cases hst
    · rintro ⟨k, i⟩ ⟨c, hc, hrest⟩
      exact ⟨c, hspec.kept k c hc, hrest⟩
    · rintro i ⟨k, c, hc, hrest⟩
      exact ⟨k, c, hspec.kept k c hc, hrest⟩
  | removedCig =>
    refine .keep (Set.Subset.antisymm ?_ ?_) ?_
    · rintro ⟨k, i⟩ ⟨c, hc, hrest⟩
      exact ⟨c, ((dropCig_getElem? _ _).mp hc).1, hrest⟩
    · rintro ⟨k, i⟩ ⟨c, hc, hst, hids⟩
      have hr := hs.offer_role hc hst
      exact ⟨c, (dropCig_getElem? _ _).mpr ⟨hc, Or.inl hr⟩, hst, hids⟩
    · rintro i ⟨k, c, hc, hr, hrest⟩
      refine ⟨k, c, (dropCig_getElem? _ _).mpr ⟨hc, Or.inl ?_⟩, hr, hrest⟩
      rw [hr]
      decide
  | created hchk _ _ hstr =>
    obtain rfl := hs.requests_nil hchk
    cases hstr with
    | idle => exact .keep rfl subset_rfl
    | sent hrs => exact absurd hrs (by simp)
  | @accepted _ _ a hc hr hst hacl =>
    have hl := hs.acl hc (by rw [hst]; decide)
    obtain rfl : b = a := Option.some.inj (hl.symm.trans hacl)
    rw [messages_llcp, messages_hci, messages_nil]
    exact hs.accepted hc hr hst
  | @rejected _ _ a _ hc _ hst hacl =>
    have hl := hs.acl hc (by rw [hst]; decide)
    obtain rfl : b = a := Option.some.inj (hl.symm.trans hacl)
    rw [messages_llcp, messages_hci, messages_nil]
    exact Endpoint.rejected hc hst
  | dataPath _ _ hf => exact dataPath_move hf
  | broadcast =>
    rw [messages_events]
    exact .keep rfl subset_rfl
  | @disconnected p c a hc hst hacl =>
    have hne : c.state ≠ .configuration := by
      rcases hst with hst | hst <;> rw [hst] <;> decide
    obtain rfl : b = a := Option.some.inj ((hs.acl hc hne).symm.trans hacl)
    have hoth : ∀ k : UInt16, p.connectionHandle ≠ k →
        (s.endCis p.connectionHandle c).cisConnections[k]? = s.cisConnections[k]? := by
      intro k hk
      rw [endCis_getElem? _ _ _ hc, if_neg hk]
    rw [messages_llcp, messages_hci, messages_hci, messages_nil]
    refine .abandon (offers_eq hoth ?_ ?_) (holds_without hoth hc)
    · intro c' hc'
      obtain rfl : c = c' := Option.some.inj (hc.symm.trans hc')
      rcases hst with hst | hst <;> rw [hst] <;> decide
    · intro c' hc'
      rw [endCis_getElem? _ _ _ hc, if_pos rfl] at hc'
      split at hc'
      · cases hc'
        nofun
      · cases hc'

/-- The request of the Central is offered to the host. -/
theorem Endpoint.requested {q} (he : Effect env s (.llcp b (.cisReq q)) s' out) :
    messages b out = [] ∧ s.holds b ⊆ s'.holds b ∧
      ∃ k, s'.offers = insert (k, (q.cigId, q.cisId)) s.offers := by
  cases he with
  | skipped hskips => exact hskips.elim
  | @requestReceived _ h _ hh =>
    have hfree : s.cisConnections[(requestedCis b h q).cisConnectionHandle]? = none :=
      (newCisConnectionHandle_ok hh).1
    refine ⟨rfl, ?_, h, ?_⟩
    · rintro i ⟨k, c, hk, hrs⟩
      exact ⟨k, c, (insertCis_eq_some _ _ hfree).mpr (Or.inr hk), hrs⟩
    · ext ⟨k, i⟩
      constructor
      · rintro ⟨c, hc, hst, hids⟩
        rcases (insertCis_eq_some _ _ hfree).mp hc with ⟨hk, rfl⟩ | hc
        · exact Or.inl (Prod.ext hk hids.symm)
        · exact Or.inr ⟨c, hc, hst, hids⟩
      · rintro (heq | ⟨c, hc, hrs⟩)
        · cases heq
          exact ⟨_, (insertCis_eq_some _ _ hfree).mpr (Or.inl ⟨rfl, rfl⟩), rfl, rfl⟩
        · exact ⟨c, (insertCis_eq_some _ _ hfree).mpr (Or.inr hc), hrs⟩

/-- A CIS that is confirmed was accepted before. -/
theorem Endpoint.confirmed (p : Option CisParameters) (hc : s.cisConnections[h]? = some c)
    (haw : awaitsInd b c = true) :
    (s.modifyCis h fun c => { c with state := .connected, parameters := p }).offers =
      s.offers ∧ s.holds b ⊆
        (s.modifyCis h fun c => { c with state := .connected, parameters := p }).holds b := by
  obtain ⟨hacl, hr, hst⟩ := awaitsInd_iff.mp haw
  have hent :
      (s.modifyCis h fun c => { c with state := .connected, parameters := p }).cisConnections[h]? =
        some { c with state := .connected, parameters := p } := by
    rw [modifyCis_getElem?, if_pos rfl, hc]
    rfl
  constructor
  · refine offers_eq modifyCis_other ?_ ?_
    · intro c' hc'
      obtain rfl : c = c' := Option.some.inj (hc.symm.trans hc')
      rw [hst]
      decide
    · intro c' hc'
      rw [hent] at hc'
      cases hc'
      nofun
  · intro j hj
    by_cases hids : j = ids c
    · rw [hids]
      exact ⟨h, _, hent, hr, hacl, Or.inr rfl, rfl⟩
    · exact holds_without modifyCis_other hc ⟨hj, hids⟩

/-- Anything else the Central sends ends at most the CIS it names. -/
theorem Endpoint.delivered {packet m} (hm : msg? packet = some m)
    (hreq : m.isRequest = false) (hfrom : m.fromInitiator = true)
    (he : Effect env s (.llcp b packet) s' out) :
    messages b out = [] ∧ s'.offers ⊆ s.offers ∧
      (∀ k j, (k, j) ∈ s.offers → m ≠ .terminate j → (k, j) ∈ s'.offers) ∧
      ∀ j ∈ s.holds b, m ≠ .terminate j → j ∈ s'.holds b := by
  cases he with
  | skipped => exact ⟨rfl, subset_rfl, fun _ _ hk _ => hk, fun _ hj _ => hj⟩
  | requestReceived =>
    cases hm
    cases hreq
  | established =>
    cases hm
    cases hfrom
  | failed _ _ hop =>
    rw [msg?_reject hop] at hm
    cases hm
    cases hfrom
  | @confirmed _ _ q _ p _ hc haw =>
    obtain ⟨hoffers, hholds⟩ := Endpoint.confirmed (some { p with
      cigSyncDelay := q.cigSyncDelay, cisSyncDelay := q.cisSyncDelay }) hc haw
    exact ⟨rfl, hoffers.subset, fun k j hk _ => hoffers ▸ hk, fun j hj _ => hholds hj⟩
  | @terminated _ _ q c _ hc hterm =>
    cases hm
    obtain ⟨-, hg, hi⟩ := terminates_iff.mp hterm
    have hids : ids c = (q.cigId, q.cisId) := Prod.ext hg hi
    refine ⟨rfl, ?_, ?_, ?_⟩
    · rintro ⟨k, i⟩ ⟨c', hc', hrs⟩
      rw [removeCis_getElem?] at hc'
      split at hc'
      · cases hc'
      · exact ⟨c', hc', hrs⟩
    · rintro k j ⟨c', hc', hst, rfl⟩ hne
      refine ⟨c', ?_, hst, rfl⟩
      rw [removeCis_other]
      · exact hc'
      · rintro rfl
        obtain rfl : c = c' := Option.some.inj (hc.symm.trans hc')
        exact hne (congrArg Msg.terminate hids.symm)
    · intro j hj hne
      refine holds_without removeCis_other hc ⟨hj, ?_⟩
      rintro rfl
      exact hne (congrArg Msg.terminate hids.symm)

end peripheral

/-- A packet that says nothing to the handshake is skipped. -/
theorem Effect.of_msg?_eq_none {env s s' out a packet} (hm : msg? packet = none)
    (he : Effect env s (.llcp a packet) s' out) :
    s' = s ∧ out = [] := by
  cases he with
  | skipped => exact ⟨rfl, rfl⟩
  | failed _ _ hop =>
    rw [msg?_reject hop] at hm
    cases hm
  | requestReceived | established | confirmed | terminated => cases hm

end IsoManager

end RootCanal.Iso
