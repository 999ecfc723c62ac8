import RootCanal.LeAcl.Pair

/-!
# Encryption with one key at a time

The Central sends the key of its host in LE_ENCRYPT_CONNECTION, and the Peripheral keeps it and asks
its host.  When the host replies with a key, the Peripheral turns encryption on and sends that key
back; the Central compares it with its own and only then turns encryption on.  The Peripheral
compares nothing: `reply_with_another_key` leaves it encrypted alone, with a key that its peer does
not have.  Nor does it look whether it was asked at all.

* `OneKey`: the host of the Central gives a key, and the host of the Peripheral replies with the key
  that was received, only when no other key is on its way; so that the key may change between two
  exchanges.
* `Keyed k`: the keys that are on their way are all `k`.
* `KeyView.Safe`: where the key may be, and what each end may have made of it.

**`encrypted_together`: under `OneKey` every reply is with a key that the host of the Central gave,
an end is encrypted only if both hosts gave a key that is the same, and when nothing is in flight
one end is encrypted if and only if the other is.**

Source: `le_controller.cc` `LeEnableEncryption`, `HandleLeEnableEncryption`,
`IncomingLeEncryptConnection`, `LeLongTermKeyRequestReply`, `IncomingLeEncryptConnectionResponse`
-/

namespace RootCanal.LeAcl

open Lib RootCanal.Hci RootCanal.Gap

/-- The key that a packet carries, if it is to be used. -/
def Body.key? : Body → Option Ltk
  | .leEncryptConnection _ _ ltk => some ltk
  | .leEncryptConnectionResponse status _ _ ltk =>
    if status = ErrorCode.success.toUInt8 then some ltk else none
  | _ => none

/-- The packet carries a key that is to be used. -/
def Body.keyed (body : Body) : Bool := body.key?.isSome

theorem Body.keyed_response {status : UInt8} {rand : UInt64} {ediv : UInt16} {ltk : Ltk} :
    (Body.leEncryptConnectionResponse status rand ediv ltk).keyed =
      decide (status = ErrorCode.success.toUInt8) := by
  by_cases h : status = ErrorCode.success.toUInt8
  · rw [decide_eq_true h]
    exact congrArg Option.isSome (if_pos h)
  · rw [decide_eq_false h]
    exact congrArg Option.isSome (if_neg h)

/-- The key with which a task is to enable encryption. -/
def Task.key? : Task → Option Ltk
  | .handleLeEnableEncryption _ _ _ ltk => some ltk
  | .sendEvent _ => none

/-- No other key than `k` is on its way: none is to be sent, and none is in flight. -/
def OnItsWay (k : Ltk) (s : Pair) : Prop :=
  (∀ x, ∀ task ∈ (s.node x).tasks, ∀ ltk ∈ task.key?, ltk = k) ∧
  ∀ x, ∀ p ∈ s.inbox x, ∀ ltk ∈ p.body.key?, ltk = k

instance OnItsWay.decidable (k : Ltk) (s : Pair) : Decidable (OnItsWay k s) :=
  inferInstanceAs (Decidable (_ ∧ _))

/-- The host of the Central gives a key, or the host of the Peripheral replies with the one that was
received, and no other is on its way. -/
def Request.oneKey (s : Pair) (x : Side) (c : LeAclConnection) : Request → Prop
  | .leEnableEncryption _ _ ltk => x = .left ∧ OnItsWay ltk s
  | .leLongTermKeyRequestReply ltk => x = .right ∧ c.ltk = some ltk ∧ OnItsWay ltk s
  | _ => True

instance Request.oneKey.decidable (s : Pair) (x : Side) (c : LeAclConnection) :
    (request : Request) → Decidable (request.oneKey s x c)
  | .leEnableEncryption .. => inferInstanceAs (Decidable (_ ∧ _))
  | .leLongTermKeyRequestReply _ => inferInstanceAs (Decidable (_ ∧ _ ∧ _))
  | .leConnectionUpdate .. | .leRemoteConnectionParameterRequestReply ..
  | .leRemoteConnectionParameterRequestNegativeReply _ | .leSubrateRequest ..
  | .leLongTermKeyRequestNegativeReply => isTrue trivial

/-- The hosts use one key at a time. -/
def OneKey (s : Pair) (i : Duplex.Input Input Env) : Prop := Link.Meets (Request.oneKey s) s i

instance OneKey.decidable (s : Pair) (i : Duplex.Input Input Env) : Decidable (OneKey s i) :=
  Link.Meets.decidable (Request.oneKey s) s i

/-- The command is not about a key, or about `k`: that of the host of the Central, or the one that
the Peripheral has received. -/
def Request.usesKey (k : Ltk) (x : Side) (c : LeAclConnection) : Request → Prop
  | .leEnableEncryption _ _ ltk => x = .left ∧ ltk = k
  | .leLongTermKeyRequestReply ltk => x = .right ∧ ltk = k ∧ c.ltk = some k
  | _ => True

/-! ## What a turn does with keys -/

/-- What a turn of a side does with the key `k`. -/
inductive KeyTurn (k : Ltk) (x : Side) (handle : UInt16) (c : LeAclConnection) (a : Action)
    (c' : LeAclConnection) (bodies : List Body) (tasks tasks' : List Task) : Prop
  /-- Nothing. -/
  | still : c'.ltk = c.ltk → c'.encrypted = c.encrypted → (∀ body ∈ bodies, body.keyed = false) →
      (∀ p, a = .packet p → p.body.keyed = false) → (∀ t ∈ tasks', t ∈ tasks ∨ t.isEvent) →
      KeyTurn k x handle c a c' bodies tasks tasks'
  /-- The host of the Central gives it. -/
  | enabled {rand : UInt64} {ediv : UInt16} : x = .left →
      a = .command (.onConnection handle (.leEnableEncryption rand ediv k)) → c' = c → bodies = [] →
      (∀ t ∈ tasks', t ∈ tasks ∨ t.isEvent ∨ ∃ h r e, t = .handleLeEnableEncryption h r e k) →
      KeyTurn k x handle c a c' bodies tasks tasks'
  /-- The Central sends it. -/
  | started {rand : UInt64} {ediv : UInt16} : x = .left → a = .runTask →
      c' = { c with ltk := some k } → bodies = [.leEncryptConnection rand ediv k] →
      (∃ t ∈ tasks, t.isEvent = false) → (∀ t ∈ tasks', t ∈ tasks) →
        KeyTurn k x handle c a c' bodies tasks tasks'
  /-- The Peripheral receives it. -/
  | told : x = .right → (∃ p, a = .packet p ∧ p.body.keyed) → c' = { c with ltk := some k } →
      bodies = [] → (∀ t ∈ tasks', t ∈ tasks ∨ t.isEvent) →
      KeyTurn k x handle c a c' bodies tasks tasks'
  /-- The host of the Peripheral replies with it. -/
  | replied : x = .right →
      a = .command (.onConnection handle (.leLongTermKeyRequestReply k)) → c.ltk = some k →
      c' = { c with encrypted := true } →
      bodies = [.leEncryptConnectionResponse ErrorCode.success.toUInt8 0 0 k] →
      (∀ t ∈ tasks', t ∈ tasks ∨ t.isEvent) → KeyTurn k x handle c a c' bodies tasks tasks'
  /-- The Central gets it back. -/
  | answered : x = .left → (∃ p, a = .packet p ∧ p.body.keyed) → c' = { c with encrypted := true } →
      bodies = [] → (∀ t ∈ tasks', t ∈ tasks ∨ t.isEvent) →
        KeyTurn k x handle c a c' bodies tasks tasks'

section turn

variable {s s' : LeController} {handle : UInt16} {c c' : LeAclConnection} {a : Action}
  {bodies : List Body} {k : Ltk} {x : Side}

/-- What is said of the packet that arrives, if the action is another. -/
theorem not_packet {Q : Packet → Prop} (h : Link.packetOf a = none) : ∀ p, a = .packet p → Q p := by
  rintro p rfl
  cases h

theorem mem_or_isEvent {tasks tasks' ts : List Task} (h : tasks' = tasks ++ ts)
    (hts : ∀ t ∈ ts, t.isEvent) : ∀ t ∈ tasks', t ∈ tasks ∨ t.isEvent := by
  intro t ht
  rw [h] at ht
  exact (List.mem_append.mp ht).imp_right (hts t)

theorem Scheduled.events {request ts} (h : Scheduled handle request ts)
    (hreq : ∀ rand ediv ltk, request ≠ .leEnableEncryption rand ediv ltk) :
    ∀ t ∈ ts, t.isEvent := by
  intro t ht
  rcases h t ht with hevent | ⟨rand, ediv, ltk, heq, -⟩
  · exact hevent
  · exact absurd heq (hreq rand ediv ltk)

/-- The tasks of a side that enable encryption are the Central's, with the key `k`. -/
def TasksKeyed (k : Ltk) (x : Side) (tasks : List Task) : Prop :=
  ∀ t ∈ tasks, t.isEvent ∨ x = .left ∧ ∃ h r e, t = .handleLeEnableEncryption h r e k

/-- The packet, if it carries a key to be used, carries `k`: from the Central, or back to it. -/
def BodyKeyed (k : Ltk) (x : Side) (body : Body) : Prop :=
  body.keyed → (x = .right ∧ ∃ r e, body = .leEncryptConnection r e k) ∨
    (x = .left ∧ ∃ r e, body = .leEncryptConnectionResponse ErrorCode.success.toUInt8 r e k)

/-- A success is one for an end that has the key. -/
theorem responseStatus_success (hltk : c.ltk = some k) :
    LeController.responseStatus c ErrorCode.success.toUInt8 k = ErrorCode.success.toUInt8 := by
  unfold LeController.responseStatus
  rw [hltk]
  simp [show ErrorCode.success.toUInt8 = 0 from rfl]

/-- A response that fails reports a failure. -/
theorem responseStatus_failure {status ltk} (h : status ≠ ErrorCode.success.toUInt8) :
    LeController.responseStatus c status ltk ≠ ErrorCode.success.toUInt8 := by
  unfold LeController.responseStatus
  rw [if_pos (show status ≠ 0 from h)]
  exact h

/-- A command of the host is a turn of the key. -/
theorem Asked.keyTurn {request : Request} {ts : List Task} (h : Asked c request c' bodies)
    (hsched : Scheduled handle request ts) (hreq : request.usesKey k x c) {tasks : List Task} :
    KeyTurn k x handle c (.command (.onConnection handle request)) c' bodies tasks
      (tasks ++ ts) := by
  have hevs : (∀ rand ediv ltk, request ≠ .leEnableEncryption rand ediv ltk) →
      ∀ t ∈ tasks ++ ts, t ∈ tasks ∨ t.isEvent :=
    fun hne => mem_or_isEvent rfl (hsched.events hne)
  cases h with
  | enable =>
    obtain ⟨hx, rfl⟩ := hreq
    refine .enabled hx rfl rfl rfl fun t ht => ?_
    refine (List.mem_append.mp ht).imp_right fun ht => (hsched t ht).imp_right ?_
    rintro ⟨rand, ediv, ltk, heq, rfl⟩
    cases heq
    exact ⟨_, _, _, rfl⟩
  | keyReply =>
    obtain ⟨hx, rfl, hc⟩ := hreq
    exact .replied hx rfl hc rfl rfl (hevs nofun)
  | update | updateRequest | reply | negativeReply | subrate | subrateRequest | negativeKeyReply =>
    exact .still rfl rfl (List.forall_mem_singleton.mpr rfl) (not_packet rfl) (hevs nofun)

/-- A PDU of the peer is a turn of the key. -/
theorem Answered.keyTurn {p : Packet} {body : Body} {ts tasks : List Task}
    (h : Answered s c body c' bodies) (hbody : p.body = body) (hts : ∀ t ∈ ts, t.isEvent)
    (hback : x = .left → p.body.keyed → c.ltk = some k) (hkeyed : BodyKeyed k x p.body) :
    KeyTurn k x handle c (.packet p) c' bodies tasks (tasks ++ ts) := by
  have hevs : ∀ t ∈ tasks ++ ts, t ∈ tasks ∨ t.isEvent := mem_or_isEvent rfl hts
  have hstill : ∀ {b}, p.body = b → b.keyed = false → ∀ p', Action.packet p = .packet p' →
      p'.body.keyed = false := by
    rintro _ rfl hb p' heq
    cases heq
    exact hb
  rw [hbody] at hkeyed hback
  cases h with
  | encrypt =>
    rcases hkeyed rfl with ⟨hx, _, _, heq⟩ | ⟨-, _, _, heq⟩
    · cases heq
      refine .told hx ⟨p, rfl, ?_⟩ rfl rfl hevs
      rw [hbody]
      rfl
    · cases heq
  | @encryptResponse status =>
    by_cases hst : status = ErrorCode.success.toUInt8
    · rcases hkeyed (Body.keyed_response.trans (decide_eq_true hst))
        with ⟨-, _, _, heq⟩ | ⟨hx, _, _, heq⟩
      · cases heq
      · cases heq
        refine .answered hx ⟨p, rfl, ?_⟩ ?_ rfl hevs
        · rw [hbody]
          rfl
        · rw [responseStatus_success (hback hx rfl), decide_eq_true rfl, Bool.or_true]
    · refine .still rfl ?_ (List.forall_mem_nil _)
        (hstill hbody (Body.keyed_response.trans (decide_eq_false hst))) hevs
      exact (congrArg (c.encrypted || ·) (decide_eq_false (responseStatus_failure hst))).trans
        (Bool.or_false _)
  | parameterUpdate | subrateUpdate =>
    split
    · exact .still rfl rfl (List.forall_mem_nil _) (hstill hbody rfl) hevs
    · exact .still rfl rfl (List.forall_mem_nil _) (hstill hbody rfl) hevs
  | parameterRequest | phyUpdate =>
    exact .still rfl rfl (List.forall_mem_nil _) (hstill hbody rfl) hevs
  | parameterRefused | phyReply | phySelect | phyResponse | subrateAccepted | subrateRefused =>
    exact .still rfl rfl (List.forall_mem_singleton.mpr rfl) (hstill hbody rfl) hevs

/-- **When the keys on their way are one key, a turn does with it one of these.** -/
theorem Turn.keyTurn (h : Turn s handle c a s' c' bodies) (htasks : TasksKeyed k x s.tasks)
    (hback : ∀ p, a = .packet p → x = .left → p.body.keyed → c.ltk = some k)
    (hpkt : ∀ p, a = .packet p → BodyKeyed k x p.body)
    (hreq : ∀ request, a = .command (.onConnection handle request) → request.usesKey k x c) :
    KeyTurn k x handle c a c' bodies s.tasks s'.tasks := by
  cases h with
  | aside ha hc hs' hbs =>
    subst ha hc hbs
    exact .still rfl rfl (List.forall_mem_nil _) (not_packet rfl) fun t ht => .inl (hs' ▸ ht)
  | phyRequested ha hc hs' hbs =>
    subst ha hc hbs
    exact .still rfl rfl (List.forall_mem_singleton.mpr rfl) (not_packet rfl) fun t ht =>
      .inl (hs' ▸ ht)
  | ran ha hc hs' hbs =>
    subst ha hc hbs
    exact .still rfl rfl (List.forall_mem_nil _) (not_packet rfl) fun t ht =>
      .inl (List.mem_of_mem_tail (hs' ▸ ht))
  | requested ha hask hs' hsched =>
    have hone := hreq _ ha
    subst ha
    rw [hs']
    exact hask.keyTurn hsched hone
  | received ha hb hansd hs' hts =>
    have hkeyed := hpkt _ ha
    have hltk := hback _ ha
    subst ha
    rw [hs']
    exact hansd.keyTurn hb hts hltk hkeyed
  | encrypting ha htask hc hs' hbs =>
    rcases htasks _ (htask ▸ List.mem_cons_self) with hevent | ⟨hx, _, _, _, heq⟩
    · cases hevent
    · cases heq
      refine .started hx ha hc hbs ⟨_, htask ▸ List.mem_cons_self, rfl⟩ fun t ht => ?_
      rw [htask]
      exact List.mem_cons_of_mem _ (hs' ▸ ht)

end turn

/-! ## Where the key is -/

/-- Where the key is, and which ends use it. -/
@[ext] structure KeyView where
  /-- The Central is to send it. -/
  pending : Bool
  /-- It is on its way to the Peripheral. -/
  sent : Bool
  /-- The key with which the Central compares. -/
  held : Option Ltk
  /-- The key that the Peripheral has. -/
  kept : Option Ltk
  /-- It is on its way back. -/
  back : Bool
  central : Bool
  peripheral : Bool
deriving DecidableEq, Repr

namespace KeyView

/-- How the key `k` moves, when the host of the Central gives it (`e`) or that of the Peripheral
replies with it (`r`) or neither. -/
inductive Moves (k : Ltk) (v v' : KeyView) (e r : Prop) : Prop
  | still : (v'.pending → v.pending) → v' = { v with pending := v'.pending } → Moves k v v' e r
  | enabled : e → v' = { v with pending := v'.pending } → Moves k v v' e r
  | started : v.pending → v' = { v with pending := v'.pending, sent := true, held := some k } →
      Moves k v v' e r
  | told : v.sent → v' = { v with sent := v'.sent, kept := some k } → Moves k v v' e r
  | replied :
      r → v.kept = some k → v' = { v with back := true, peripheral := true } → Moves k v v' e r
  | answered : v.back → (v'.pending → v.pending) →
      v' = { v with pending := v'.pending, back := v'.back, central := true } → Moves k v v' e r

/-- The keys on their way and the one that the Peripheral has were given by the host of the Central
(`E`). A key on its way is the one with which the Central compares, and when none is on its way to
the Peripheral the two ends have the same. An end uses a key only when both hosts gave one that is
the same (`E`, `R`), the Central only if the Peripheral does, and the Peripheral only if the Central
does or the key is on its way back. -/
structure Safe (k : Ltk) (v : KeyView) (E R : Ltk → Prop) : Prop where
  pending : v.pending → E k
  sent : v.sent → E k
  kept : ∀ ltk, v.kept = some ltk → E ltk
  held_of_sent : v.sent → v.held = some k
  held_of_back : v.back → v.held = some k
  settled : v.sent = false → v.kept = v.held
  back : v.back → v.peripheral
  central : v.central → v.peripheral
  peripheral : v.peripheral → (∃ ltk, E ltk ∧ R ltk) ∧ (v.central ∨ v.back)

variable {k : Ltk} {v v' : KeyView} {E R E' R' : Ltk → Prop}

theorem Safe.mono (h : v.Safe k E R) (hE : ∀ ltk, E ltk → E' ltk) (hR : ∀ ltk, R ltk → R' ltk) :
    v.Safe k E' R' where
  pending hv := hE k (h.pending hv)
  sent hv := hE k (h.sent hv)
  kept ltk hv := hE ltk (h.kept ltk hv)
  held_of_sent := h.held_of_sent
  held_of_back := h.held_of_back
  settled := h.settled
  back := h.back
  central := h.central
  peripheral hv :=
    (h.peripheral hv).imp_left (Exists.imp fun ltk hltk => ⟨hE ltk hltk.1, hR ltk hltk.2⟩)

/-- **The moves of the key keep it safe.** -/
theorem Safe.moves {e r : Ltk → Prop} (h : v.Safe k E R) (hmv : v.Moves k v' (e k) (r k)) :
    v'.Safe k (fun ltk => E ltk ∨ e ltk) (fun ltk => R ltk ∨ r ltk) := by
  have h' : v.Safe k (fun ltk => E ltk ∨ e ltk) (fun ltk => R ltk ∨ r ltk) :=
    h.mono (fun _ => .inl) (fun _ => .inl)
  cases hmv with
  | still hpend hv =>
    rw [hv]
    exact { h' with pending := fun hv => h'.pending (hpend hv) }
  | enabled he hv =>
    rw [hv]
    exact { h' with pending := fun _ => .inr he }
  | started hpend hv =>
    rw [hv]
    exact { h' with
      pending := fun _ => h'.pending hpend
      sent := fun _ => h'.pending hpend
      held_of_sent := fun _ => rfl
      held_of_back := fun _ => rfl
      settled := nofun }
  | told hsent hv =>
    rw [hv]
    refine { h' with
      sent := fun _ => h'.sent hsent
      kept := fun ltk hkept => ?_
      held_of_sent := fun _ => h'.held_of_sent hsent
      settled := fun _ => (h'.held_of_sent hsent).symm }
    cases hkept
    exact h'.sent hsent
  | replied hr hkept hv =>
    have hheld : v.held = some k := by
      cases hsent : v.sent with
      | false => exact (h'.settled hsent).symm.trans hkept
      | true => exact h'.held_of_sent hsent
    rw [hv]
    exact { h' with
      held_of_back := fun _ => hheld
      back := fun _ => rfl
      central := fun _ => rfl
      peripheral := fun _ => ⟨⟨k, h'.kept k hkept, .inr hr⟩, .inr rfl⟩ }
  | answered hback hpend hv =>
    have hper := h'.back hback
    rw [hv]
    exact { h' with
      pending := fun hv => h'.pending (hpend hv)
      held_of_back := fun _ => h'.held_of_back hback
      back := fun _ => hper
      central := fun _ => hper
      peripheral := fun hv => ⟨(h'.peripheral hv).1, .inl rfl⟩ }

end KeyView

/-- Where the key is in the two controllers. -/
def keyView (s : Pair) (t : Link) : KeyView where
  pending := (s.node .left).tasks.any (!·.isEvent)
  sent := (t.inbox .right).any (·.body.keyed)
  held := (t.node .left).ltk
  kept := (t.node .right).ltk
  back := (t.inbox .left).any (·.body.keyed)
  central := (t.node .left).encrypted
  peripheral := (t.node .right).encrypted

/-- Every key on its way is `k`. -/
structure Keyed (k : Ltk) (s : Pair) (t : Link) : Prop where
  tasks : ∀ x, TasksKeyed k x (s.node x).tasks
  carries : Duplex.Carries (fun x p => BodyKeyed k x p.body) t

/-- The host of the Central gives the key. -/
def Enables (handle : Side → UInt16) (k : Ltk) (i : Duplex.Input Input Env) : Prop :=
  ∃ rand ediv, Link.requestOf i = some (.left, handle .left, .leEnableEncryption rand ediv k)

/-- The host of the Peripheral replies with the key. -/
def Replies (handle : Side → UInt16) (k : Ltk) (i : Duplex.Input Input Env) : Prop :=
  Link.requestOf i = some (.right, handle .right, .leLongTermKeyRequestReply k)

section link

variable {k : Ltk} {handle : Side → UInt16} {s s' : Pair} {t t' : Link} {x : Side} {a : Action}
  {v : LeController} {c : LeAclConnection} {bodies : List Body} {i : Duplex.Input Input Env}

variable {d : LeAclConnection}

theorem any_keyed_sends {bodies : List Body} :
    (bodies.map d.sends).any (·.body.keyed) = bodies.any Body.keyed := by
  rw [List.any_map]
  rfl

variable {h : UInt16}

theorem requestOf_occurs {request} (ha : Link.Occurs t x (.command (.onConnection h request)) i) :
    Link.requestOf i = some (x, h, request) := by
  cases i with
  | act _ i =>
    obtain ⟨env, action⟩ := i
    obtain ⟨rfl, rfl⟩ := ha
    rfl
  | deliver =>
    obtain ⟨-, p, q, -, hp⟩ := ha
    cases hp

variable {tasks tasks' : List Task}

/-- A turn schedules the one key only. -/
theorem KeyTurn.tasksKeyed (hturn : KeyTurn k x h d a c bodies tasks tasks')
    (htasks : TasksKeyed k x tasks) : TasksKeyed k x tasks' := by
  intro task ht
  have hevent : task ∈ tasks ∨ task.isEvent →
      task.isEvent ∨ x = .left ∧ ∃ h r e, task = .handleLeEnableEncryption h r e k :=
    fun h => h.elim (htasks task) .inl
  cases hturn with
  | still _ _ _ _ hts | told _ _ _ _ hts | replied _ _ _ _ _ hts | answered _ _ _ _ hts =>
    exact hevent (hts task ht)
  | started _ _ _ _ _ hts => exact htasks task (hts task ht)
  | enabled hx _ _ _ hts =>
    rcases hts task ht with hmem | hisEvent | hkey
    · exact htasks task hmem
    · exact .inl hisEvent
    · exact .inr ⟨hx, hkey⟩

/-- A turn sends the one key only. -/
theorem KeyTurn.bodyKeyed (hturn : KeyTurn k x h d a c bodies tasks tasks') :
    ∀ body ∈ bodies, BodyKeyed k x.other body := by
  intro body hb hkeyed
  cases hturn with
  | still _ _ hbs => cases (hbs body hb).symm.trans hkeyed
  | started hx _ _ hbs =>
    subst hx hbs
    cases List.mem_singleton.mp hb
    exact .inl ⟨rfl, _, _, rfl⟩
  | replied hx _ _ _ hbs =>
    subst hx hbs
    cases List.mem_singleton.mp hb
    exact .inr ⟨rfl, _, _, rfl⟩
  | enabled _ _ _ hbs | told _ _ _ hbs | answered _ _ _ hbs =>
    subst hbs
    cases hb

theorem any_pending (h : ∀ task ∈ tasks', task ∈ tasks ∨ task.isEvent)
    (hpend : tasks'.any (!·.isEvent)) : tasks.any (!·.isEvent) := by
  obtain ⟨task, hmem, htask⟩ := List.any_eq_true.mp hpend
  rcases h task hmem with hmem | hevent
  · exact List.any_eq_true.mpr ⟨task, hmem, htask⟩
  · rw [hevent] at htask
    cases htask

section

variable (htk : Link.Taken s t x a v c bodies s' t')
include htk

/-- A turn keeps the key. -/
theorem Keyed.taken (hs : Keyed k s t)
    (hturn : KeyTurn k x h (t.node x) a c bodies (s.node x).tasks v.tasks) : Keyed k s' t' := by
  refine ⟨(Side.forall_iff x).mpr ⟨?_, ?_⟩, (Side.forall_iff x).mpr ⟨?_, ?_⟩⟩
  · rw [htk.self]
    exact hturn.tasksKeyed (hs.tasks x)
  · rw [htk.other]
    exact hs.tasks x.other
  · intro p hp
    refine hs.carries x p ?_
    rw [htk.took]
    exact List.mem_append_right _ hp
  · intro p hp
    rw [htk.sent] at hp
    rcases List.mem_append.mp hp with hp | hp
    · exact hs.carries x.other p hp
    · obtain ⟨body, hb, rfl⟩ := List.mem_map.mp hp
      exact hturn.bodyKeyed body hb

/-- The key is on its way to a side before its turn if it takes it or leaves it there. -/
theorem any_keyed_took : (t.inbox x).any (·.body.keyed) =
      ((Link.packetOf a).any (·.body.keyed) || (t'.inbox x).any (·.body.keyed)) := by
  rw [htk.took, List.any_append]
  cases Link.packetOf a with
  | none => rfl
  | some => simp

theorem any_keyed_sent : (t'.inbox x.other).any (·.body.keyed) =
      ((t.inbox x.other).any (·.body.keyed) || bodies.any Body.keyed) := by
  rw [htk.sent, List.any_append, any_keyed_sends]

/-- The key stays on its way to a side that does not take it. -/
theorem any_keyed_kept (hpkt : ∀ p, a = .packet p → p.body.keyed = false) :
    (t'.inbox x).any (·.body.keyed) = (t.inbox x).any (·.body.keyed) := by
  have hn : (Link.packetOf a).any (·.body.keyed) = false := by
    cases a with
    | packet p => exact hpkt p rfl
    | _ => rfl
  rw [any_keyed_took htk, hn, Bool.false_or]

theorem any_keyed_of_took (hpkt : ∃ p, a = .packet p ∧ p.body.keyed) :
    (t.inbox x).any (·.body.keyed) = true := by
  obtain ⟨p, rfl, hkeyed⟩ := hpkt
  rw [any_keyed_took htk]
  exact Bool.or_eq_true_iff.mpr (.inl hkeyed)

end

/-- What a turn of the Central makes of where the key is. -/
theorem keyView_left (htk : Link.Taken s t .left a v c bodies s' t') :
    keyView s' t' = { keyView s t with
      pending := v.tasks.any (!·.isEvent)
      sent := (keyView s t).sent || bodies.any Body.keyed
      held := c.ltk
      back := (keyView s' t').back
      central := c.encrypted } := by
  refine KeyView.ext ?_ (any_keyed_sent htk) ?_ ?_ rfl ?_ ?_
  · exact congrArg (fun w : LeController => w.tasks.any (!·.isEvent)) htk.self
  · exact congrArg LeAclConnection.ltk htk.linkSelf
  · exact congrArg LeAclConnection.ltk htk.linkOther
  · exact congrArg LeAclConnection.encrypted htk.linkSelf
  · exact congrArg LeAclConnection.encrypted htk.linkOther

/-- What a turn of the Peripheral makes of where the key is. -/
theorem keyView_right (htk : Link.Taken s t .right a v c bodies s' t') :
    keyView s' t' = { keyView s t with
      sent := (keyView s' t').sent
      kept := c.ltk
      back := (keyView s t).back || bodies.any Body.keyed
      peripheral := c.encrypted } := by
  refine KeyView.ext ?_ rfl ?_ ?_ (any_keyed_sent htk) ?_ ?_
  · exact congrArg (fun w : LeController => w.tasks.any (!·.isEvent)) htk.other
  · exact congrArg LeAclConnection.ltk htk.linkOther
  · exact congrArg LeAclConnection.ltk htk.linkSelf
  · exact congrArg LeAclConnection.encrypted htk.linkOther
  · exact congrArg LeAclConnection.encrypted htk.linkSelf

/-- **What a turn does with the key is a move of it.** -/
theorem keyView_moves (htk : Link.Taken s t x a v c bodies s' t')
    (hturn : KeyTurn k x (handle x) (t.node x) a c bodies (s.node x).tasks v.tasks)
    (ha : Link.Occurs t x a i) :
    (keyView s t).Moves k (keyView s' t') (Enables handle k i) (Replies handle k i) := by
  cases hturn with
  | still hltk henc hbs hpkt hts =>
    have hsent : bodies.any Body.keyed = false := List.any_eq_false.mpr
        fun body hb => by simp [hbs body hb]
    have hkept := any_keyed_kept htk hpkt
    cases x with
    | left =>
      refine .still ?_ ?_
      · rw [keyView_left htk]
        exact any_pending hts
      · refine (keyView_left htk).trans (KeyView.ext ?_ ?_ hltk rfl hkept henc rfl)
        · rw [keyView_left htk]
        · rw [hsent, Bool.or_false]
    | right =>
      refine .still ?_ ?_
      · rw [keyView_right htk]
        exact id
      · refine (keyView_right htk).trans (KeyView.ext ?_ hkept rfl hltk ?_ rfl henc)
        · rw [keyView_right htk]
        · exact (congrArg ((keyView s t).back || ·) hsent).trans (Bool.or_false _)
  | enabled hx hact hc hbs =>
    subst hx hact hc hbs
    refine .enabled ⟨_, _, requestOf_occurs ha⟩ ?_
    refine (keyView_left htk).trans (KeyView.ext ?_ ?_ rfl rfl ?_ rfl rfl)
    · rw [keyView_left htk]
    · exact Bool.or_false _
    · exact any_keyed_kept htk (not_packet rfl)
  | started hx hact hc hbs hpend =>
    subst hx hact hc hbs
    obtain ⟨task, hmem, htask⟩ := hpend
    refine .started (List.any_eq_true.mpr ⟨task, hmem, by rw [htask]; rfl⟩) ?_
    refine (keyView_left htk).trans (KeyView.ext ?_ ?_ rfl rfl ?_ rfl rfl)
    · rw [keyView_left htk]
    · exact Bool.or_true _
    · exact any_keyed_kept htk (not_packet rfl)
  | told hx hpkt hc hbs =>
    subst hx hc hbs
    refine .told (any_keyed_of_took htk hpkt) ?_
    refine (keyView_right htk).trans (KeyView.ext rfl rfl rfl rfl ?_ rfl rfl)
    exact Bool.or_false _
  | replied hx hact hltk hc hbs =>
    subst hx hact hc hbs
    refine .replied (requestOf_occurs ha) hltk ?_
    refine (keyView_right htk).trans (KeyView.ext rfl ?_ rfl rfl ?_ rfl rfl)
    · exact any_keyed_kept htk (not_packet rfl)
    · exact Bool.or_true _
  | answered hx hpkt hc hbs hts =>
    subst hx hc hbs
    refine .answered (any_keyed_of_took htk hpkt) ?_ ?_
    · rw [keyView_left htk]
      exact any_pending hts
    · refine (keyView_left htk).trans (KeyView.ext ?_ ?_ rfl rfl rfl rfl rfl)
      · rw [keyView_left htk]
      · exact Bool.or_false _

/-! ## Another key -/

variable {k' : Ltk} {E R : Ltk → Prop}

/-- A pending key is the one on its way. -/
theorem Keyed.eq_of_pending (h : Keyed k s t) (hway : OnItsWay k' s)
    (hpend : (keyView s t).pending = true) : k = k' := by
  obtain ⟨task, hmem, htask⟩ := List.any_eq_true.mp hpend
  rcases h.tasks .left task hmem with hevent | ⟨-, _, _, _, rfl⟩
  · rw [hevent] at htask
    cases htask
  · exact hway.1 .left _ hmem k rfl

theorem BodyKeyed.key?_eq {body : Body} (h : BodyKeyed k x body) (hkeyed : body.keyed) :
    body.key? = some k := by
  rcases h hkeyed with ⟨-, _, _, rfl⟩ | ⟨-, _, _, rfl⟩
  · rfl
  · rfl

/-- A key in flight is the one on its way. -/
theorem Keyed.eq_of_inFlight (h : Keyed k s t) (hs : s.Links handle t) (hway : OnItsWay k' s)
    (hfl : (t.inbox x).any (·.body.keyed) = true) : k = k' := by
  obtain ⟨p, hmem, hkeyed⟩ := List.any_eq_true.mp hfl
  refine hway.2 x p ?_ k ((h.carries x p hmem).key?_eq hkeyed)
  rw [← hs.inbox]
  exact hmem

/-- When no other key than `k'` is on its way, the one that is on its way is `k'`. -/
theorem Keyed.rekey (h : Keyed k s t) (hs : s.Links handle t) (hway : OnItsWay k' s) :
    Keyed k' s t := by
  constructor
  · intro x task hmem
    rcases h.tasks x task hmem with hevent | ⟨hx, _, _, _, rfl⟩
    · exact .inl hevent
    · cases hway.1 x _ hmem k rfl
      exact .inr ⟨hx, _, _, _, rfl⟩
  · intro x p hmem hkeyed
    cases h.eq_of_inFlight hs hway (List.any_eq_true.mpr ⟨p, hmem, hkeyed⟩)
    exact h.carries x p hmem hkeyed

/-- The invariant passes to a key that is the only one on its way. -/
theorem Keyed.safe_rekey (h : Keyed k s t) (hs : s.Links handle t) (hway : OnItsWay k' s)
    (hsafe : (keyView s t).Safe k E R) : (keyView s t).Safe k' E R :=
  { hsafe with
    pending := fun hv => h.eq_of_pending hway hv ▸ hsafe.pending hv
    sent := fun hv => h.eq_of_inFlight hs hway hv ▸ hsafe.sent hv
    held_of_sent := fun hv => h.eq_of_inFlight hs hway hv ▸ hsafe.held_of_sent hv
    held_of_back := fun hv => h.eq_of_inFlight hs hway hv ▸ hsafe.held_of_back hv }

/-- **Each step is about one key.** -/
theorem Keyed.exists_key (h : Keyed k s t) (hs : s.Links handle t)
    (hsafe : (keyView s t).Safe k E R) (hi : OneKey s i) :
    ∃ k, Keyed k s t ∧ (keyView s t).Safe k E R ∧ Link.Meets (Request.usesKey k) s i := by
  obtain ⟨hon, hreq⟩ := hi
  cases hr : Link.requestOf i with
  | none =>
    refine ⟨k, h, hsafe, hon, ?_⟩
    rw [hr]
    nofun
  | some r =>
    obtain ⟨x, handle', request⟩ := r
    cases hc : (s.node x).leAclConnections[handle']? with
    | none =>
      refine ⟨k, h, hsafe, hon, ?_⟩
      intro r hr' c hc'
      cases hr.symm.trans hr'
      cases hc.symm.trans hc'
    | some c =>
      have hmeets : ∀ {k}, request.usesKey k x c → Link.Meets (Request.usesKey k) s i := by
        intro k huses
        refine ⟨hon, ?_⟩
        intro r hr' c' hc'
        cases hr.symm.trans hr'
        cases hc.symm.trans hc'
        exact huses
      have hone := hreq _ hr c hc
      cases request with
      | leEnableEncryption rand ediv ltk =>
        obtain ⟨hx, hway⟩ := hone
        exact ⟨ltk, h.rekey hs hway, h.safe_rekey hs hway hsafe, hmeets ⟨hx, rfl⟩⟩
      | leLongTermKeyRequestReply ltk =>
        obtain ⟨hx, hltk, hway⟩ := hone
        exact ⟨ltk, h.rekey hs hway, h.safe_rekey hs hway hsafe, hmeets ⟨hx, rfl, hltk⟩⟩
      | _ => exact ⟨k, h, hsafe, hmeets trivial⟩

end link

/-! ## Runs -/

/-- The keys that the host of the Central has given. -/
def enableKeys (handle : Side → UInt16) (tr : Link.Trace) : List Ltk :=
  tr.filterMap fun e =>
    match Link.requestOf e.1 with
    | some (.left, h, .leEnableEncryption _ _ ltk) => if h = handle .left then some ltk else none
    | _ => none

/-- The keys with which the host of the Peripheral has replied. -/
def replyKeys (handle : Side → UInt16) (tr : Link.Trace) : List Ltk :=
  tr.filterMap fun e =>
    match Link.requestOf e.1 with
    | some (.right, h, .leLongTermKeyRequestReply ltk) =>
      if h = handle .right then some ltk else none
    | _ => none

/-- The keys on their way are one key, a key is used only as both hosts gave it, and the host of the
Peripheral replies only with a key that the other gave. -/
structure KeySafe (handle : Side → UInt16) (tr : Link.Trace) (s : Pair) (t : Link) : Prop where
  safe : ∃ k, Keyed k s t ∧
    (keyView s t).Safe k (· ∈ enableKeys handle tr) (· ∈ replyKeys handle tr)
  replies : ∀ ltk ∈ replyKeys handle tr, ltk ∈ enableKeys handle tr

section run

variable {k ltk : Ltk} {handle : Side → UInt16} {s s' : Pair} {t t' : Link} {tr : Link.Trace}
  {i : Duplex.Input Input Env} {outs : List (Side × Output)}

theorem mem_enableKeys_snoc : ltk ∈ enableKeys handle (tr ++ [(i, outs)]) ↔
    ltk ∈ enableKeys handle tr ∨ Enables handle ltk i := by
  unfold enableKeys Enables
  rw [List.filterMap_append, List.mem_append]
  refine or_congr_right ?_
  rw [List.mem_filterMap]
  simp only [List.mem_singleton, exists_eq_left]
  constructor
  · intro h
    split at h
    · rename_i rand ediv key heq
      split at h
      · rename_i hh
        cases h
        cases hh
        exact ⟨rand, ediv, heq⟩
      · cases h
    · cases h
  · rintro ⟨rand, ediv, heq⟩
    rw [heq]
    exact if_pos rfl

theorem mem_replyKeys_snoc : ltk ∈ replyKeys handle (tr ++ [(i, outs)]) ↔
    ltk ∈ replyKeys handle tr ∨ Replies handle ltk i := by
  unfold replyKeys Replies
  rw [List.filterMap_append, List.mem_append]
  refine or_congr_right ?_
  rw [List.mem_filterMap]
  simp only [List.mem_singleton, exists_eq_left]
  constructor
  · intro h
    split at h
    · rename_i key heq
      split at h
      · rename_i hh
        cases h
        cases hh
        exact heq
      · cases h
    · cases h
  · intro heq
    rw [heq]
    exact if_pos rfl

/-- **A step keeps the keys safe.** -/
theorem KeySafe.moves (h : KeySafe handle tr s t) (hs : s.Links handle t) (hi : OneKey s i)
    (hmv : Link.Moves s handle t i s' t') : KeySafe handle (tr ++ [(i, outs)]) s' t' := by
  obtain ⟨_, hkeyed, hsafe⟩ := h.safe
  obtain ⟨k, hkeyed, hsafe, huses⟩ := hkeyed.exists_key hs hsafe hi
  have hkeys : Keyed k s' t' ∧
      (keyView s t).Moves k (keyView s' t') (Enables handle k i) (Replies handle k i) := by
    rcases hmv.taken hi.1 with ⟨rfl, rfl⟩ | ⟨x, a, v, c, bodies, ha, hturn, htk⟩
    · exact ⟨hkeyed, .still id rfl⟩
    · have hkey := hturn.keyTurn (hkeyed.tasks x) (by
        rintro p rfl rfl hp
        obtain ⟨q, hq⟩ := ha.head hi.1
        refine hsafe.held_of_back (List.any_eq_true.mpr ⟨p, ?_, hp⟩)
        rw [hq]
        exact List.mem_cons_self) (by
        rintro p rfl
        obtain ⟨q, hq⟩ := ha.head hi.1
        exact hkeyed.carries.head hq) (by
        rintro request rfl
        exact huses.occurs hs ha)
      exact ⟨hkeyed.taken htk hkey, keyView_moves htk hkey ha⟩
  refine ⟨⟨k, hkeys.1, ?_⟩, ?_⟩
  · simp only [mem_enableKeys_snoc, mem_replyKeys_snoc]
    exact hsafe.moves hkeys.2
  · intro ltk hltk
    rw [mem_enableKeys_snoc]
    rcases mem_replyKeys_snoc.mp hltk with hmem | hreplies
    · exact .inl (h.replies ltk hmem)
    · obtain ⟨-, rfl, hltk⟩ := huses.2 _ hreplies (t.node .right) (hs.sole .right).get
      exact .inl (hsafe.kept _ hltk)

end run

/-- A link that has just been made, of controllers that are not to enable encryption. -/
theorem KeySafe.made {handle s t} (h : t.Made)
    (hts : ∀ x, ∀ task ∈ (s.node x).tasks, task.isEvent) : KeySafe handle [] s t := by
  have hpend : (s.node .left).tasks.any (!·.isEvent) = false := by
    refine List.any_eq_false.mpr fun task hmem => ?_
    rw [hts .left task hmem]
    nofun
  refine ⟨⟨0, ⟨fun x task hmem => .inl (hts x task hmem), ?_⟩, ?_⟩, List.forall_mem_nil _⟩
  · intro x p hp
    rw [h.inbox x] at hp
    cases hp
  · have hview : keyView s t = ⟨false, false, none, none, false, false, false⟩ := by
      refine KeyView.ext hpend ?_ (h.key .left).1 (h.key .right).1 ?_ (h.key .left).2
        (h.key .right).2
      · exact congrArg (List.any · (·.body.keyed)) (h.inbox .right)
      · exact congrArg (List.any · (·.body.keyed)) (h.inbox .left)
    rw [hview]
    exact ⟨nofun, nofun, nofun, nofun, nofun, fun _ => rfl, nofun, nofun, nofun⟩

/-- **Every reply is with a key that the host of the Central gave, an end is encrypted only if both
hosts gave one that is the same, and when nothing is in flight, the Central is encrypted if and only
if the Peripheral is.** -/
theorem encrypted_together {s₀ s : Pair} {handle : Side → UInt16} {t₀ : Link}
    {tr : Link.Trace} (hs₀ : s₀.Links handle t₀) (hmade : t₀.Made)
    (htasks : ∀ x, ∀ task ∈ (s₀.node x).tasks, task.isEvent) (h : pair.Run OneKey s₀ tr s) :
    ∃ t, s.Links handle t ∧ (∀ replied ∈ replyKeys handle tr, replied ∈ enableKeys handle tr) ∧
      (∀ x, (t.node x).encrypted = true → ∃ key, key ∈ enableKeys handle tr ∧
        key ∈ replyKeys handle tr) ∧
      ((∀ x, s.inbox x = []) → (t.node .left).encrypted = (t.node .right).encrypted) := by
  obtain ⟨t, hlinks, -, hkeys⟩ := Link.exists_link (KeySafe handle) (fun _ _ hi => hi.1) hs₀
    hmade.coherent (.made hmade htasks)
    (fun _ _ _ _ _ _ _ hs _ hsafe hi hmv => hsafe.moves hs hi hmv) h
  obtain ⟨k, -, hsafe⟩ := hkeys.safe
  have hcen : (t.node .left).encrypted = true → (t.node .right).encrypted = true := hsafe.central
  refine ⟨t, hlinks, hkeys.replies, ?_, ?_⟩
  · intro x hx
    have hper : (t.node .right).encrypted = true := by
      cases x with
      | left => exact hcen hx
      | right => exact hx
    exact (hsafe.peripheral hper).1
  · intro hemp
    refine Bool.eq_iff_iff.mpr ⟨hcen, ?_⟩
    intro hper
    rcases (hsafe.peripheral hper).2 with henc | hback
    · exact henc
    · have hn : (keyView s t).back = false := by
        unfold keyView
        rw [hlinks.inbox, hemp .left]
        rfl
      cases hn.symm.trans hback

/-- The host of the Central gives a key, and the host of the Peripheral replies with one. -/
def encrypts (given replied : Ltk) : List (Duplex.Input Input Env) :=
  [.act .left ⟨.bare 0, .command (.onConnection 0x200 (.leEnableEncryption 0 0 given))⟩,
    .act .left ⟨.bare 0, .runTask⟩, .deliver .right (.bare 0),
    .act .right ⟨.bare 0, .command (.onConnection 0x200 (.leLongTermKeyRequestReply replied))⟩,
    .deliver .left (.bare 0)]

/-- The hosts use one key, and then another. -/
theorem encrypted_together_same_key : ∃ tr s t, pair.Run OneKey Link.joined tr s ∧
    s.Links (fun _ => 0x200) t ∧ (∀ x, s.inbox x = []) ∧ enableKeys (fun _ => 0x200) tr = [5, 7] ∧
    (t.node .left).encrypted = true ∧ (t.node .right).encrypted = true ∧
    ∀ replied ∈ replyKeys (fun _ => 0x200) tr, replied ∈ [(5 : Ltk), 7] := by
  have hx : pair.ExecTo (fun tr s => (∀ x, s.inbox x = []) ∧
      enableKeys (fun _ => 0x200) tr = [5, 7] ∧
      (s.node .left).leAclConnections[(0x200 : UInt16)]?.map LeAclConnection.encrypted = some true)
      Link.joined (encrypts 5 5 ++ encrypts 7 7) := by
    decide +kernel
  obtain ⟨tr, s, hrun, hemp, hgiven, henc⟩ := pair.exists_run (C := OneKey) (by decide +kernel) hx
  obtain ⟨t, hlinks, hreplies, -, htogether⟩ :=
    encrypted_together Link.joined_links Link.oneToTwo_made (fun _ => List.forall_mem_nil _) hrun
  rw [(hlinks.sole .left).get] at henc
  have hcen : (t.node .left).encrypted = true := Option.some.inj henc
  refine ⟨tr, s, t, hrun, hlinks, hemp, hgiven, hcen, (htogether hemp).symm.trans hcen, ?_⟩
  rw [← hgiven]
  exact hreplies

/-- The host of the Peripheral replies with another key than the Central sent: the Peripheral is
encrypted, and alone. -/
theorem reply_with_another_key : ∃ tr s, pair.Run (fun _ i => OnLink i) Link.joined tr s ∧
    (∀ x, s.inbox x = []) ∧ enableKeys (fun _ => 0x200) tr = [5] ∧ replyKeys
    (fun _ => 0x200) tr = [6] ∧
    (s.node .left).leAclConnections[(0x200 : UInt16)]?.map LeAclConnection.encrypted = some false ∧
    (s.node .right).leAclConnections[(0x200 : UInt16)]?.map
      LeAclConnection.encrypted = some true := by
  exact pair.exists_run
    (show pair.Meets _ _ (encrypts 5 6) from by decide +kernel) (by decide +kernel)

end RootCanal.LeAcl
