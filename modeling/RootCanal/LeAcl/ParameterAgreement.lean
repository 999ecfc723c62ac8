import RootCanal.LeAcl.Pair

/-!
# The ends of a connection agree on its parameters

The Central changes the parameters and tells the Peripheral: by LE_CONNECTION_PARAMETER_UPDATE when
its host replies to a request, and by LL_SUBRATE_IND for the subrate.  It has changed its own by
then, so that the Peripheral, once what is on its way has arrived, has the parameters of the
Central.

LE Connection Update is the exception.  The Central sends the update with the new parameters and
reports them to its host, and keeps its own: `update_leaves_central` ends with different intervals
and nothing in flight.  Two more ways to disagree are left to the hosts: a negative reply whose
reason is SUCCESS is sent as an update to zeros, and a Peripheral, which is never asked, can reply
and send an update of its own.

**`parameters_agree`: in the runs without these (`InStep`), the ends have the same parameters
whenever nothing is in flight.**

Source: `le_controller.cc` `LeConnectionUpdate`, `LeRemoteConnectionParameterRequestReply`,
`LeRemoteConnectionParameterRequestNegativeReply`, `IncomingLeConnectionParameterUpdate`,
`LeSubrateRequest`, `IncomingLlSubrateReq`, `IncomingLlSubrateInd`
-/

namespace RootCanal.LeAcl

open Lib RootCanal.Hci RootCanal.Gap

/-- The parameters of the Peripheral after a packet. -/
def applyParameters (p : LeAclConnectionParameters) : Body → LeAclConnectionParameters
  | .leConnectionParameterUpdate status interval latency timeout =>
    if status = ErrorCode.success.toUInt8 then .plain interval latency timeout else p
  | .llSubrateInd status subrateFactor _ latency continuationNumber timeout =>
    if status = ErrorCode.success.toUInt8 then
      { p with
        connSubrateFactor := subrateFactor
        connContinuationNumber := continuationNumber
        connPeripheralLatency := latency
        connSupervisionTimeout := timeout }
    else p
  | _ => p

/-- The packet makes whoever receives it change its connection parameters. -/
def Body.updates : Body → Bool
  | .leConnectionParameterUpdate status _ _ _ => status = ErrorCode.success.toUInt8
  | _ => false

/-- A host updates a connection as Central only to the parameters it has, refuses a request for a
reason, and replies to one only as Central. -/
def Request.inStep (x : Side) (c : LeAclConnection) : Request → Prop
  | .leConnectionUpdate _ intervalMax latency timeout =>
    x = .left → c.parameters = .plain intervalMax latency timeout
  | .leRemoteConnectionParameterRequestReply .. => x = .left
  | .leRemoteConnectionParameterRequestNegativeReply reason => reason ≠ .success
  | _ => True

instance Request.inStep.decidable (x : Side) (c : LeAclConnection) :
    (request : Request) → Decidable (request.inStep x c)
  | .leConnectionUpdate _ _ _ _ => inferInstanceAs (Decidable (_ → _ = _))
  | .leRemoteConnectionParameterRequestReply .. => inferInstanceAs (Decidable (_ = _))
  | .leRemoteConnectionParameterRequestNegativeReply _ => inferInstanceAs (Decidable (_ ≠ _))
  | .leSubrateRequest .. | .leEnableEncryption .. | .leLongTermKeyRequestReply _
  | .leLongTermKeyRequestNegativeReply => isTrue trivial

/-- The commands of the hosts keep the ends in step. -/
def InStep (s : Pair) (i : Duplex.Input Input Env) : Prop := Link.Meets Request.inStep s i

instance InStep.decidable (s : Pair) (i : Duplex.Input Input Env) : Decidable (InStep s i) :=
  Link.Meets.decidable Request.inStep s i

/-! ## The two ends -/

theorem toUInt8_ne_success {reason : ErrorCode} (h : reason ≠ .success) :
    reason.toUInt8 ≠ ErrorCode.success.toUInt8 := by
  cases reason <;> first | exact absurd rfl h | decide

variable {s s' : LeController} {handle : UInt16} {c c' : LeAclConnection} {a : Action}
  {bodies : List Body} {request : Request}

/-- The commands of a turn keep in step. -/
def Action.inStep (x : Side) (handle : UInt16) (c : LeAclConnection) (a : Action) : Prop :=
  ∀ request, a = .command (.onConnection handle request) → request.inStep x c

/-- **The Central tells of the parameters it changes.** -/
theorem Asked.tells_parameters (h : Asked c request c' bodies) (hr : c.role = .central)
    (hstep : request.inStep .left c) :
    bodies.foldl applyParameters c.parameters = c'.parameters := by
  cases h with
  | update => exact (hstep rfl).symm
  | updateRequest hper | subrateRequest hper => cases hr.symm.trans hper
  | negativeReply => exact if_neg (toUInt8_ne_success hstep)
  | reply | subrate | enable | keyReply | negativeKeyReply => rfl

theorem Answered.tells_parameters {body} (h : Answered s c body c' bodies)
    (hr : c.role = .central) (hb : body.updates = false) :
    bodies.foldl applyParameters c.parameters = c'.parameters := by
  cases h with
  | parameterUpdate => rw [if_neg (of_decide_eq_false hb), List.foldl_nil]
  | phyReply hper | phyUpdate hper | subrateUpdate hper =>
    cases hr.symm.trans hper
  | _ => rfl

theorem Turn.tells_parameters (h : Turn s handle c a s' c' bodies) (hr : c.role = .central)
    (hstep : a.inStep .left handle c) (hb : ∀ p, a = .packet p → p.body.updates = false) :
    bodies.foldl applyParameters c.parameters = c'.parameters := by
  cases h with
  | aside _ hc _ hbs | ran _ hc _ hbs | phyRequested _ hc _ hbs
  | encrypting _ _ hc _ hbs =>
    rw [hc, hbs]
    rfl
  | requested ha hask => exact hask.tells_parameters hr (hstep _ ha)
  | received ha hp hansd => exact hansd.tells_parameters hr (hp ▸ hb _ ha)

/-- **The Peripheral takes the parameters it is told, and sends no update of its own.** -/
theorem Turn.takes_parameters (h : Turn s handle c a s' c' bodies) (hr : c.role = .peripheral)
    (hstep : a.inStep .right handle c) :
    c'.parameters = Link.arrives applyParameters c.parameters a := by
  cases h with
  | aside ha hc | ran ha hc | phyRequested ha hc | encrypting ha _ hc =>
    rw [ha, hc]
    rfl
  | requested ha hask =>
    have hreq := hstep _ ha
    rw [ha]
    cases hask with
    | reply => cases hreq
    | update hcen | subrate hcen => cases hr.symm.trans hcen
    | _ => rfl
  | received ha hb hansd =>
    rw [ha, Link.arrives, hb]
    cases hansd with
    | phySelect hcen | phyResponse hcen | subrateAccepted hcen | subrateRefused hcen =>
      cases hr.symm.trans hcen
    | parameterUpdate | subrateUpdate => exact apply_ite LeAclConnection.parameters ..
    | _ => rfl

theorem Turn.sends_no_update (h : Turn s handle c a s' c' bodies) (hr : c.role = .peripheral)
    (hstep : a.inStep .right handle c) : ∀ body ∈ bodies, body.updates = false := by
  cases h with
  | aside _ _ _ hbs | ran _ _ _ hbs =>
    rw [hbs]
    exact List.forall_mem_nil _
  | phyRequested _ _ _ hbs | encrypting _ _ _ _ hbs =>
    rw [hbs]
    exact List.forall_mem_singleton.mpr rfl
  | requested ha hask =>
    have hreq := hstep _ ha
    cases hask with
    | reply => cases hreq
    | update hcen | subrate hcen => cases hr.symm.trans hcen
    | negativeReply =>
      exact List.forall_mem_singleton.mpr (decide_eq_false (toUInt8_ne_success hreq))
    | enable => exact List.forall_mem_nil _
    | _ => exact List.forall_mem_singleton.mpr rfl
  | received _ _ hansd =>
    cases hansd with
    | parameterRefused | phyReply | phySelect | phyResponse | subrateAccepted | subrateRefused =>
      exact List.forall_mem_singleton.mpr rfl
    | _ => exact List.forall_mem_nil _

/-! ## Runs -/

/-- The parameters of the Peripheral follow those of the Central, which is sent no update. -/
structure ParametersFollow (t : Link) : Prop where
  follows : Duplex.Follows (fun p packet => applyParameters p packet.body)
    LeAclConnection.parameters
    LeAclConnection.parameters .left t
  unsent : Duplex.Carries (fun x p => x = .left → p.body.updates = false) t

theorem ParametersFollow.made {t} (h : t.Made) : ParametersFollow t := by
  refine ⟨?_, ?_⟩
  · unfold Duplex.Follows
    rw [h.inbox]
    exact h.parameters
  · intro x p hp
    rw [h.inbox x] at hp
    cases hp

section moves

variable {s s' : Pair} {handle : Side → UInt16} {t t' : Link} {i : Duplex.Input Input Env}

theorem ParametersFollow.moves (h : ParametersFollow t) (hs : s.Links handle t) (ht : t.Coherent)
    (hi : InStep s i) (hmv : Link.Moves s handle t i s' t') : ParametersFollow t' := by
  -- what the Central receives is no update
  have hb : ∀ {a}, Link.Occurs t .left a i → ∀ p, a = .packet p → p.body.updates = false := by
    rintro a ha p rfl
    obtain ⟨q, hq⟩ := ha.head hi.1
    exact h.unsent.head hq rfl
  have hstep : ∀ {x a}, Link.Occurs t x a i → a.inStep x (handle x) (t.node x) := by
    rintro x a ha request rfl
    exact hi.occurs hs ha
  -- and what the Peripheral sends is none
  have hsends : ∀ {x a v c bodies}, Link.Occurs t x a i →
      Turn (s.node x) (handle x) (t.node x) a v c bodies →
      ∀ p ∈ bodies.map (t.node x).sends, x.other = .left → p.body.updates = false := by
    intro x a v c bodies ha hturn p hp hx
    obtain ⟨body, hb, rfl⟩ := List.mem_map.mp hp
    cases x with
    | left => cases hx
    | right => exact hturn.sends_no_update (ht.role .right) (hstep ha) body hb
  refine ⟨?_, ?_⟩
  · exact Link.follows_of_moves h.follows hi.1
      (fun ha hturn => hturn.tells_parameters (ht.role .left) (hstep ha) (hb ha))
      (fun ha hturn => hturn.takes_parameters (ht.role .right) (hstep ha)) hmv
  · cases hmv with
    | act hturn => exact h.unsent.act (hsends ⟨rfl, rfl⟩ hturn)
    | idle => exact h.unsent
    | deliver hq hturn => exact (h.unsent.take hq).act (hsends ⟨rfl, _, _, hq, rfl⟩ hturn)

end moves

/-- **The ends of a connection have the same parameters whenever nothing is in flight.** -/
theorem parameters_agree {s₀ s : Pair} {handle : Side → UInt16} {t₀ : Link}
    {tr : Link.Trace} (hs₀ : s₀.Links handle t₀)
    (hmade : t₀.Made) (h : pair.Run InStep s₀ tr s) :
    ∃ t, s.Links handle t ∧
      ((∀ x, s.inbox x = []) → (t.node .right).parameters = (t.node .left).parameters) := by
  obtain ⟨t, hlinks, -, hfollow⟩ := Link.exists_link (fun _ _ t => ParametersFollow t)
    (fun _ _ hi => hi.1) hs₀ hmade.coherent (.made hmade)
    (fun _ _ _ _ _ _ _ hs ht hfollow hi hmv => hfollow.moves hs ht hi hmv) h
  refine ⟨t, hlinks, ?_⟩
  intro hemp
  have hfollows := hfollow.follows
  unfold Duplex.Follows at hfollows
  rw [hlinks.inbox, show s.inbox Side.left.other = [] from hemp .right] at hfollows
  exact hfollows

/-- The host of the Central replies with other parameters and then asks for a subrate. -/
theorem parameters_agree_subrated : ∃ tr s t, pair.Run InStep Link.joined tr s ∧
    s.Links (fun _ => 0x200) t ∧ (∀ x, s.inbox x = []) ∧
    (t.node .left).parameters = ⟨40, 4, 1, 0, 400⟩ ∧
    (t.node .right).parameters = ⟨40, 4, 1, 0, 400⟩ := by
  have hx : pair.ExecTo (fun _ s => (∀ x, s.inbox x = []) ∧
      (s.node .left).leAclConnections[(0x200 : UInt16)]?.map LeAclConnection.parameters =
        some ⟨40, 4, 1, 0, 400⟩) Link.joined
      [.act .right ⟨.bare 0, .command (.onConnection 0x200 (.leConnectionUpdate 40 40 0 200))⟩,
        .deliver .left (.bare 0),
        .act .left ⟨.bare 0, .command (.onConnection 0x200
          (.leRemoteConnectionParameterRequestReply 40 40 200 0 0 0))⟩,
        .act .left ⟨.bare 0, .command (.onConnection 0x200 (.leSubrateRequest 1 4 0 1 400))⟩,
        .deliver .right (.bare 0), .deliver .right (.bare 0), .deliver .right (.bare 0)] := by
    decide +kernel
  obtain ⟨tr, s, hrun, hemp, hpar⟩ := pair.exists_run (C := InStep) (by decide +kernel) hx
  obtain ⟨t, hlinks, hagree⟩ := parameters_agree Link.joined_links Link.oneToTwo_made hrun
  rw [(hlinks.sole .left).get] at hpar
  have hcen : (t.node .left).parameters = ⟨40, 4, 1, 0, 400⟩ := Option.some.inj hpar
  exact ⟨tr, s, t, hrun, hlinks, hemp, hcen, (hagree hemp).trans hcen⟩

/-- The host of the Central updates the connection, and the Central keeps the parameters it had. -/
theorem update_leaves_central :
    ∃ tr s, pair.Run (fun _ i => OnLink i) Link.joined tr s ∧ (∀ x, s.inbox x = []) ∧
    (s.node .left).leAclConnections[(0x200 : UInt16)]?.map LeAclConnection.parameters = some
      ⟨24, 1, 0, 0, 100⟩ ∧
    (s.node .right).leAclConnections[(0x200 : UInt16)]?.map LeAclConnection.parameters = some
      ⟨40, 1, 0, 0, 200⟩ := by
  refine pair.exists_run (show pair.Meets _ _
    [.act .left ⟨.bare 0, .command (.onConnection 0x200 (.leConnectionUpdate 40 40 0 200))⟩,
      .deliver .right (.bare 0)] from ?_) ?_
  · decide +kernel
  · decide +kernel

end RootCanal.LeAcl
