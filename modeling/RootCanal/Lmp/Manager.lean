import RootCanal.Lmp.LinkManager
import RootCanal.Packets.LinkLayer

/-!
# The link manager of a controller

A link manager has room for seven links.  The slots of links that are not in use are in the same
array; they are told by their address, which is empty.  A command of the host is given to the link
that its address or handle stands for, and answered with an error if there is none.

* `unidentified_refused_iff`: when a command that stands for no registered link is answered at once.
  **It is not if its address is empty and a slot is free**, because then the lookup finds the free
  slot: the command is left there, where the next link finds it (`empty_address_left_in_free_slot`).
  Nor if its parameters cannot be decoded, or if it is of the one forwarded type that the link
  manager does not know.

Source: `lmp/manager.rs`, `packets.rs` `command_remote_device_address`, `ffi.rs`
`ControllerOps::get_address`
-/

namespace RootCanal.Lmp

open Lib
open RootCanal.Hci (ErrorCode)

/-! ## Commands -/

/-- A command as it is forwarded, with the field that says which link it is for: for two commands
the handle, for the others the address. -/
structure HciCommand where
  /-- What `specialize` gives.  If the parameters cannot be decoded only the type of the command is
  known. -/
  specialize : Except OpCode Command
  connectionHandle : UInt16
  bdAddr : Address
  deriving DecidableEq, Repr

/-- Which command it is. -/
def HciCommand.opCode (c : HciCommand) : OpCode :=
  match c.specialize with
  | .ok command => command.opCode
  | .error opCode => opCode

/-- The peer a command names. -/
def HciCommand.commandRemoteDeviceAddress (c : HciCommand) : Option Address :=
  match c.specialize.map Command.opCode with
  | .ok .linkKeyRequestReply => some c.bdAddr
  | .ok .linkKeyRequestNegativeReply => some c.bdAddr
  | .ok .pinCodeRequestReply => some c.bdAddr
  | .ok .pinCodeRequestNegativeReply => some c.bdAddr
  | .ok .ioCapabilityRequestReply => some c.bdAddr
  | .ok .ioCapabilityRequestNegativeReply => some c.bdAddr
  | .ok .userConfirmationRequestReply => some c.bdAddr
  | .ok .userConfirmationRequestNegativeReply => some c.bdAddr
  | .ok .userPasskeyRequestReply => some c.bdAddr
  | .ok .userPasskeyRequestNegativeReply => some c.bdAddr
  | .ok .remoteOobDataRequestReply => some c.bdAddr
  | .ok .remoteOobDataRequestNegativeReply => some c.bdAddr
  | .ok .sendKeypressNotification => some c.bdAddr
  | _ => none

/-- The commands that are for a handle. -/
def OpCode.hasHandle (opCode : OpCode) : Bool :=
  opCode ∈ [.authenticationRequested, .setConnectionEncryption]

/-- The handle a command names. -/
def HciCommand.commandConnectionHandle (c : HciCommand) : Option UInt16 :=
  match c.specialize.map Command.opCode with
  | .ok .authenticationRequested => some c.connectionHandle
  | .ok .setConnectionEncryption => some c.connectionHandle
  | _ => none

/-- The parameters are decoded, and the type is one that the link manager knows. -/
def HciCommand.Known (c : HciCommand) : Prop :=
  ∃ command, c.specialize = .ok command ∧ command.opCode ≠ .remoteOobExtendedDataRequestReply

instance HciCommand.Known.decidable (c : HciCommand) : Decidable c.Known :=
  match h : c.specialize with
  | .ok command => decidable_of_iff (command.opCode ≠ .remoteOobExtendedDataRequestReply) (by
      simp [HciCommand.Known, h])
  | .error _ => isFalse (by simp [HciCommand.Known, h])

/-- The address of the link that the command is for. -/
def HciCommand.target (c : HciCommand) (addresses : UInt16 → Address) : Address :=
  if c.opCode.hasHandle then addresses c.connectionHandle else c.bdAddr

/-- `addresses` is what the controller says of its connections. -/
def getAddress (addresses : UInt16 → Address) (handle : UInt16) : Option Address :=
  if addresses handle ≠ .kEmpty then some (addresses handle) else none

/-! ## The link manager -/

/-- The number of links. -/
abbrev maxPeerNumber : ℕ := 7

/-- A link with its address, and the procedures that run for it, if any. -/
structure Slot where
  peer : Address
  link : Link

/-- Why a packet is refused. -/
inductive LinkManagerError
  | unknownPeer
  | unhandledHciPacket
  deriving DecidableEq, Repr

/-- The links, one for each peer. -/
structure LinkManager where
  links : Fin maxPeerNumber → Slot

namespace LinkManager

/-- Source: `LinkManager::new`, `Link::default` -/
def new : LinkManager where
  links _ := ⟨.kEmpty, ⟨[], none, []⟩⟩

/-- A slot changes. -/
def set (m : LinkManager) (i : Fin maxPeerNumber) (slot : Slot) : LinkManager :=
  ⟨Function.update m.links i slot⟩

/-- The first slot with the address. -/
def getLink (m : LinkManager) (peer : Address) : Option (Fin maxPeerNumber) :=
  (List.finRange maxPeerNumber).find? fun i => (m.links i).peer = peer

/-- An LMP packet of the peer is queued. -/
def ingestLmp (m : LinkManager) (peer : Address) (p : Packet) : LinkManager :=
  match m.getLink peer with
  | some i => m.set i { m.links i with link := (m.links i).link.ingestLmp p }
  | none => m

/-- The answer to a command that no link takes. -/
def sendCommandCompleteEvent (c : Except OpCode Command) (status : ErrorCode) :
    Except LinkManagerError (List Output) :=
  match c.map Command.opCode with
  | .ok .authenticationRequested => .ok [.event (.commandStatus .authenticationRequested status)]
  | .ok .setConnectionEncryption => .ok [.event (.commandStatus .setConnectionEncryption status)]
  | .ok .remoteOobExtendedDataRequestReply => .error .unhandledHciPacket
  | .ok opCode => .ok [.event (.commandComplete opCode status)]
  | .error _ => .error .unhandledHciPacket

/-- The slot that a command is for.
Source: `ingest_hci` (the lookup) -/
def linkOf (m : LinkManager) (addresses : UInt16 → Address) (c : HciCommand) :
    Option (Fin maxPeerNumber) :=
  ((c.commandConnectionHandle.bind (getAddress addresses)).or c.commandRemoteDeviceAddress).bind
    m.getLink

/-- A link is found only for a command that has been decoded (`specialize_of_linkOf`). -/
def ingestHci (m : LinkManager) (addresses : UInt16 → Address) (c : HciCommand) :
    Except Panic (LinkManager × Except LinkManagerError (List Output)) :=
  match m.linkOf addresses c, c.specialize with
  | some i, .ok command => do
    let link ← (m.links i).link.ingestHci command
    .ok (m.set i { m.links i with link }, .ok [])
  | _, specialized => .ok (m, sendCommandCompleteEvent specialized .invalidHciCommandParameters)

/-- The first free slot is used. Its queue and its command are left as they are. -/
def addLink (m : LinkManager) (ctx : Context) (peer : Address) :
    Except LinkManagerError LinkManager :=
  match m.getLink .kEmpty with
  | some i => .ok (m.set i ⟨peer, { (m.links i).link with tasks := (procedures ctx).map .new }⟩)
  | none => .error .unhandledHciPacket

/-- A command that has not been answered is answered with an error. -/
def removeLink (m : LinkManager) (peer : Address) :
    LinkManager × Except LinkManagerError (List Output) :=
  match m.getLink peer with
  | some i =>
    let answer := match (m.links i).link.hci with
      | some c => sendCommandCompleteEvent (.ok c) .unknownConnection
      | none => .ok []
    match answer with
    | .ok outs => (m.set i ⟨.kEmpty, ⟨[], none, []⟩⟩, .ok outs)
    | .error e =>
      (m.set i { m.links i with link := { (m.links i).link with hci := none } }, .error e)
  | none => (m, .error .unknownPeer)

/-- The procedures of the links are polled, one link after the other.
Source: `LinkManager::tick` (the loop) -/
def tickLinks : List (Fin maxPeerNumber) → LinkManager → Except Panic (LinkManager × List Output)
  | [], m => .ok (m, [])
  | i :: is, m => do
    let (link, outs) ← (m.links i).link.tick
    let (m, rest) ← tickLinks is (m.set i { m.links i with link })
    .ok (m, outs ++ rest)

/-- Every link is polled. -/
def tick (m : LinkManager) : Except Panic (LinkManager × List Output) :=
  tickLinks (List.finRange maxPeerNumber) m

/-! ## Looking up a link -/

section lookup

variable {m : LinkManager} {peer : Address} {i j : Fin maxPeerNumber} {slot : Slot}

@[simp] theorem set_links_self : (m.set i slot).links i = slot := by
  simp [set]

theorem set_links_of_ne (h : j ≠ i) : (m.set i slot).links j = m.links j := by
  simp [set, h]

theorem peer_of_getLink (h : m.getLink peer = some i) : (m.links i).peer = peer := by
  have hi := List.find?_some h
  exact of_decide_eq_true hi

theorem getLink_eq_none : m.getLink peer = none ↔ ∀ i, (m.links i).peer ≠ peer := by
  simp [getLink]

end lookup

/-! ## Commands that are for no link -/

/-- The slot is that of a link. -/
def Registered (m : LinkManager) (i : Fin maxPeerNumber) : Prop := (m.links i).peer ≠ .kEmpty

instance Registered.decidable (m : LinkManager) (i : Fin maxPeerNumber) :
    Decidable (m.Registered i) :=
  inferInstanceAs (Decidable (_ ≠ _))

/-- The address or the handle of the command stands for a link. -/
def Identifies (m : LinkManager) (addresses : UInt16 → Address) (c : HciCommand) : Prop :=
  ∃ i, m.Registered i ∧ (m.links i).peer = c.target addresses

/-- The command is answered with an error, and nothing changes. -/
def RefusedAtOnce (m : LinkManager) (addresses : UInt16 → Address) (c : HciCommand) : Prop :=
  ∃ e status, m.ingestHci addresses c = .ok (m, .ok [.event e]) ∧
    (e = .commandStatus c.opCode status ∨ e = .commandComplete c.opCode status) ∧ status ≠ .success

section unidentified

variable {m : LinkManager} {addresses : UInt16 → Address} {c : HciCommand} {i : Fin maxPeerNumber}

/-- The lookup for a command: none for one that is not known, and for a handle without address;
otherwise it is a lookup of the address. -/
theorem linkOf_eq (m : LinkManager) (addresses : UInt16 → Address) (c : HciCommand) :
    m.linkOf addresses c = if ¬ c.Known ∨
    (c.opCode.hasHandle = true ∧ c.target addresses = .kEmpty) then none
    else m.getLink (c.target addresses) := by
  obtain ⟨specialized, handle, bdAddr⟩ := c
  cases specialized with
  | error => exact (if_pos (.inl fun h => by simp [HciCommand.Known] at h)).symm
  | ok command =>
    unfold linkOf HciCommand.target HciCommand.commandConnectionHandle
      HciCommand.commandRemoteDeviceAddress getAddress HciCommand.opCode
    simp only [Except.map, HciCommand.Known, Except.ok.injEq, exists_eq_left']
    cases command.opCode with
    | authenticationRequested | setConnectionEncryption =>
      by_cases h : addresses handle = .kEmpty <;> simp [OpCode.hasHandle, h]
    | _ => simp [OpCode.hasHandle]

theorem known_of_linkOf (h : m.linkOf addresses c = some i) : c.Known := by
  by_contra hkn
  rw [linkOf_eq, if_pos (.inl hkn)] at h
  cases h

theorem specialize_of_linkOf (h : m.linkOf addresses c = some i) :
    ∃ command, c.specialize = .ok command := by
  obtain ⟨command, hc, -⟩ := known_of_linkOf h
  exact ⟨command, hc⟩

/-- Every command that is known can be answered. -/
theorem sendCommandCompleteEvent_eq {command : Command}
    (h : command.opCode ≠ .remoteOobExtendedDataRequestReply) (status : ErrorCode) :
    ∃ e, sendCommandCompleteEvent (.ok command) status = .ok [.event e] ∧
      (e = .commandStatus command.opCode status ∨ e = .commandComplete command.opCode status) := by
  unfold sendCommandCompleteEvent
  simp only [Except.map]
  cases hc : command.opCode with
  | authenticationRequested | setConnectionEncryption => exact ⟨_, rfl, .inl rfl⟩
  | remoteOobExtendedDataRequestReply => exact absurd hc h
  | _ => exact ⟨_, rfl, .inr rfl⟩

/-- One that is not known cannot. -/
theorem sendCommandCompleteEvent_of_not_known (h : ¬ c.Known) (status : ErrorCode) :
    sendCommandCompleteEvent c.specialize status = .error .unhandledHciPacket := by
  obtain ⟨specialized, handle, bdAddr⟩ := c
  cases specialized with
  | error => rfl
  | ok command =>
    have hc : command.opCode =
        .remoteOobExtendedDataRequestReply := by simpa [HciCommand.Known] using h
    unfold sendCommandCompleteEvent
    simp only [Except.map, hc]

theorem ingestHci_of_linkOf_eq_none (h : m.linkOf addresses c = none) :
    m.ingestHci addresses c =
      .ok (m, sendCommandCompleteEvent c.specialize .invalidHciCommandParameters) := by
  unfold ingestHci
  rw [h]

/-- A command for which no link is found is refused, if it is known. -/
theorem refused_of_linkOf_eq_none (h : m.linkOf addresses c = none) (hkn : c.Known) :
    m.RefusedAtOnce addresses c := by
  obtain ⟨command, hc, hkn⟩ := hkn
  obtain ⟨e, hsend, he⟩ := sendCommandCompleteEvent_eq hkn .invalidHciCommandParameters
  have hop : c.opCode = command.opCode := by
    unfold HciCommand.opCode
    rw [hc]
  refine ⟨e, .invalidHciCommandParameters, ?_, hop ▸ he, nofun⟩
  rw [ingestHci_of_linkOf_eq_none h, hc, hsend]

theorem not_refused_of_linkOf (h : m.linkOf addresses c = some i) :
    ¬ m.RefusedAtOnce addresses c := by
  rintro ⟨e, status, hing, -, -⟩
  obtain ⟨command, hc⟩ := specialize_of_linkOf h
  unfold ingestHci at hing
  rw [h, hc] at hing
  obtain ⟨link, -, hl⟩ := bind_eq_ok.mp hing
  have hans := congrArg Prod.snd (Except.ok.inj hl)
  cases hans

end unidentified

/-- **When a command that stands for no link is refused at once**: if its parameters can be decoded,
it is of a type that the link manager knows, and it does not give the empty address while a slot is
free. -/
theorem unidentified_refused_iff (m : LinkManager) (addresses : UInt16 → Address) (c : HciCommand)
    (h : ¬ m.Identifies addresses c) : m.RefusedAtOnce addresses c ↔
      c.Known ∧ ¬ (c.opCode.hasHandle = false ∧ c.bdAddr = .kEmpty ∧ ∃ i, ¬ m.Registered i) := by
  by_cases hkn : c.Known
  · rw [and_iff_right hkn]
    by_cases hemp : c.opCode.hasHandle = false ∧ c.bdAddr = .kEmpty
    · -- the lookup goes through the free slots
      have htgt : c.target addresses = .kEmpty := by
        unfold HciCommand.target
        rw [hemp.1, hemp.2]
        rfl
      have hl : m.linkOf addresses c = m.getLink .kEmpty := by
        rw [linkOf_eq, htgt, if_neg]
        simp [hkn, hemp.1]
      cases hfree : m.getLink .kEmpty with
      | none =>
        refine iff_of_true (refused_of_linkOf_eq_none (hl.trans hfree) hkn) ?_
        rintro ⟨-, -, i, hi⟩
        exact hi (getLink_eq_none.mp hfree i)
      | some i =>
        refine iff_of_false (not_refused_of_linkOf (hl.trans hfree)) (not_not.mpr ?_)
        exact ⟨hemp.1, hemp.2, i, not_not.mpr (peer_of_getLink hfree)⟩
    · refine iff_of_true (refused_of_linkOf_eq_none ?_ hkn) fun h => hemp ⟨h.1, h.2.1⟩
      rw [linkOf_eq]
      split
      · rfl
      · rename_i hlookup
        refine getLink_eq_none.mpr fun i hi => h ⟨i, ?_, hi⟩
        -- the address that is looked up is not empty
        intro hp
        have htgt : c.target addresses = .kEmpty := hi.symm.trans hp
        cases hh : c.opCode.hasHandle with
        | true => exact hlookup (.inr ⟨hh, htgt⟩)
        | false =>
          refine hemp ⟨hh, ?_⟩
          unfold HciCommand.target at htgt
          rwa [hh] at htgt
  · -- the answer itself fails
    refine iff_of_false ?_ fun h => hkn h.1
    rintro ⟨e, status, hing, -, -⟩
    have hl : m.linkOf addresses c = none := by rw [linkOf_eq, if_pos (.inl hkn)]
    rw [ingestHci_of_linkOf_eq_none hl, sendCommandCompleteEvent_of_not_known hkn] at hing
    cases hing

/-- A reply for an address that is not empty and that no link has. -/
theorem unidentified_refused_new :
    ¬ new.Identifies (fun _ => .kEmpty) ⟨.ok .linkKeyRequestReply, 0, 1⟩ ∧
      new.RefusedAtOnce (fun _ => .kEmpty) ⟨.ok .linkKeyRequestReply, 0, 1⟩ := by
  have hn : ¬ new.Identifies (fun _ => .kEmpty) ⟨.ok .linkKeyRequestReply, 0, 1⟩ :=
      fun ⟨_, h, _⟩ => h rfl
  refine ⟨hn, (unidentified_refused_iff _ _ _ hn).mpr ⟨⟨_, rfl, by decide⟩, ?_⟩⟩
  rintro ⟨-, h, -⟩
  exact absurd h (by decide)

/-- **A command for the empty address is left in a free slot**: it is not answered, the slot has
changed, and the next link has the command.  A reply with out-of-band data for two curves makes the
link manager fail, and so does a reply with capabilities that cannot be decoded. -/
theorem empty_address_left_in_free_slot :
    ¬ new.Identifies (fun _ => .kEmpty) ⟨.ok .linkKeyRequestReply, 0, .kEmpty⟩ ∧
    (∃ m, new.ingestHci (fun _ => .kEmpty) ⟨.ok .linkKeyRequestReply, 0, .kEmpty⟩ =
      .ok (m, .ok []) ∧
      (m.links 0).link.hci = some .linkKeyRequestReply ∧
      ∀ ctx, ∃ m', m.addLink ctx 1 = .ok m' ∧ (m'.links 0).peer = 1 ∧
        (m'.links 0).link.hci = some .linkKeyRequestReply) ∧
    ∀ c ∈ [HciCommand.mk (.ok .remoteOobExtendedDataRequestReply) 0 1,
      ⟨.error .ioCapabilityRequestReply, 0, 1⟩], ¬ new.Identifies (fun _ => .kEmpty) c ∧
        new.ingestHci (fun _ => .kEmpty) c = .ok (new, .error .unhandledHciPacket) := by
  refine ⟨fun ⟨_, h, _⟩ => h rfl, ⟨_, rfl, rfl, fun ctx => ⟨_, rfl, rfl, rfl⟩⟩, ?_⟩
  simp only [List.forall_mem_cons]
  exact ⟨⟨fun ⟨_, h, _⟩ => h rfl, rfl⟩, ⟨fun ⟨_, h, _⟩ => h rfl, rfl⟩, nofun⟩

end LinkManager

end RootCanal.Lmp
