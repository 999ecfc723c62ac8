import RootCanal.Lib.Machine
import RootCanal.Gap.Scanning

/-!
# The machine of the LE controller outside of its connections

The commands of the host, the packets that arrive and the passing of time, as the steps of one
machine.  A command belongs to legacy or to extended advertising, or to both (`Command.kind`); the
first of one kind excludes the other until the next reset, even if it is refused.

Source: `le_controller.cc`, `dual_mode_controller.cc`
-/

namespace RootCanal.Gap

open Lib RootCanal.Hci

/-- A command of the host. -/
inductive Command
  | reset
  | setEventMask (mask : UInt64)
  | leSetEventMask (mask : UInt64)
  | leSetRandomAddress (randomAddress : Address)
  | resolvingList (command : ResolvingListCommand)
  | filterAcceptList (command : FilterAcceptListCommand)
  | periodicAdvertiserList (command : PeriodicAdvertiserListCommand)
  | legacyAdvertising (command : LegacyAdvertisingCommand)
  | advertisingSets (command : AdvertisingSetCommand)
  | scan (command : ScanCommand)
  | initiate (command : InitiateCommand)
  | leCreateConnectionCancel
  | sync (command : SyncCommand)
  | lePeriodicAdvertisingCreateSyncCancel
deriving DecidableEq, Repr

/-- What happens to the controller. -/
inductive Action
  | command (command : Command)
  /-- A packet arrives, with its bytes and the strength of the signal. -/
  | packet (bytes : List UInt8) (rssi : UInt8) (packet : Packet)
  /-- Source: `LeController::Tick` -/
  | tick
deriving DecidableEq, Repr

/-- An input of the controller. -/
structure Input where
  env : Env
  action : Action

/-- The host sends a command at the time 0. -/
def Input.host (c : Command) : Input := ⟨.at 0, .command c⟩

/-! ## Legacy and extended advertising -/

/-- The advertising commands that a command belongs to. -/
inductive Kind
  | legacy
  | extended
  | either
deriving DecidableEq, Repr

/-- The kind of a command about advertising sets. -/
def AdvertisingSetCommand.kind : AdvertisingSetCommand → Kind
  | .leSetExtendedAdvertisingParameters .. | .leSetExtendedAdvertisingData ..
  | .leSetExtendedScanResponseData .. | .leSetExtendedAdvertisingEnable .. => .extended
  | .leSetAdvertisingSetRandomAddress .. | .leRemoveAdvertisingSet _ | .leClearAdvertisingSets
  | .leSetPeriodicAdvertisingParameters .. | .leSetPeriodicAdvertisingData ..
  | .leSetPeriodicAdvertisingEnable .. => .either

/-- The kind of a scan command. -/
def ScanCommand.kind : ScanCommand → Kind
  | .leSetScanParameters .. | .leSetScanEnable .. => .legacy
  | .leSetExtendedScanParameters .. | .leSetExtendedScanEnable .. => .extended

/-- The kind of a connection command. -/
def InitiateCommand.kind : InitiateCommand → Kind
  | .leCreateConnection .. => .legacy
  | .leExtendedCreateConnection .. => .extended

/-- Source: the calls of `SelectLegacyAdvertising` and
`SelectExtendedAdvertising` -/
def Command.kind : Command → Kind
  | .legacyAdvertising _ => .legacy
  | .advertisingSets c => c.kind
  | .scan c => c.kind
  | .initiate c => c.kind
  | _ => .either

namespace LeController

/-- Source: `SelectLegacyAdvertising`,
`SelectExtendedAdvertising` -/
def select (s : LeController) : Kind → Option LeController
  | .legacy =>
    if s.extendedAdvertisingInUse then none else some { s with legacyAdvertisingInUse := true }
  | .extended =>
    if s.legacyAdvertisingInUse then none else some { s with extendedAdvertisingInUse := true }
  | .either => some s

/-! ## Commands -/

/-- The state after a command about one part of it, with the status. -/
def answer {α : Type} (s : LeController) (set : α → LeController) :
    Except ErrorCode α → LeController × List Output
  | .ok a => (set a, [.event (.status .success)])
  | .error status => (s, [.event (.status status)])

/-- The state after a command of the advertising sets, with the status. -/
def answerSets (s : LeController) : Except ErrorCode (Sets × ErrorCode) → LeController × List Output
  | .ok (extendedAdvertisers, status) => ({ s with extendedAdvertisers }, [.event (.status status)])
  | .error status => (s, [.event (.status status)])

/-- The state after a reset. -/
def reset (s : LeController) : LeController :=
  { new s.address s.properties with tasks := s.tasks }

/-- Source: `HandleCommand` -/
def execute (s : LeController) (env : Env) : Command → LeController × List Output
  | .reset => s.answer id (.ok s.reset)
  | .setEventMask eventMask => s.answer (fun eventMask => { s with eventMask }) (.ok eventMask)
  | .leSetEventMask leEventMask =>
    s.answer (fun leEventMask => { s with leEventMask }) (.ok leEventMask)
  | .leSetRandomAddress a =>
    s.answer (fun randomAddress => { s with randomAddress }) (s.leSetRandomAddress a)
  | .resolvingList c => s.answer (fun toPrivacy => { s with toPrivacy }) (s.resolvingList c)
  | .filterAcceptList c =>
    s.answer (fun leFilterAcceptList => { s with leFilterAcceptList }) (s.filterAcceptList c)
  | .periodicAdvertiserList c =>
    s.answer (fun lePeriodicAdvertiserList => { s with lePeriodicAdvertiserList })
      (s.periodicAdvertiserList c)
  | .legacyAdvertising c =>
    s.answer (fun legacyAdvertiser => { s with legacyAdvertiser }) (s.legacyAdvertising env c)
  | .advertisingSets c => s.answerSets (s.advertisingSets env c)
  | .scan c => s.answer (fun scanner => { s with scanner }) (s.scan env c)
  | .initiate c => s.answer (fun initiator => { s with initiator }) (s.initiate env c)
  | .leCreateConnectionCancel =>
    s.answer (fun r => { s with initiator := r.1, tasks := s.tasks ++ r.2 })
      s.leCreateConnectionCancel
  | .sync c => s.answer (fun toSynchronization => { s with toSynchronization }) (s.sync c)
  | .lePeriodicAdvertisingCreateSyncCancel =>
    s.answer (fun r => { s with toSynchronization := r.1, tasks := s.tasks ++ r.2 })
      s.lePeriodicAdvertisingCreateSyncCancel

/-- A command, unless it is of the kind that is excluded. -/
def command (s : LeController) (env : Env) (c : Command) : LeController × List Output :=
  match s.select c.kind with
  | none => (s, [.event (.status .commandDisallowed)])
  | some s => s.execute env c

/-! ## Packets and time -/

/-- Source: `IncomingLeLegacyAdvertisingPdu`,
`IncomingLeExtendedAdvertisingPdu` -/
def afterPdu (s : LeController) (scanned : Except Panic (Scanner × List Output))
    (connected : Except Panic (Initiator × List Output)) : Except Panic
    (LeController × List Output) := do
  let (scanner, reports) ← scanned
  let (initiator, requests) ← connected
  .ok ({ s with scanner, initiator }, reports ++ requests)

/-- What arrives, by the packet's body. -/
def incomingPacket (s : LeController) (env : Env) (bytes : List UInt8) (rssi : UInt8)
    (incoming : Packet) : Except Panic (LeController × List Output) :=
  let source := incoming.sourceAddress
  let destination := incoming.destinationAddress
  match incoming.body with
  | .leLegacyAdvertisingPdu advertisingAddressType targetAddressType type data =>
    s.afterPdu
      (s.scanIncomingLeLegacyAdvertisingPdu env bytes rssi ⟨source, advertisingAddressType⟩
        ⟨destination, targetAddressType⟩ type data)
      (s.connectIncomingLeLegacyAdvertisingPdu env ⟨source, advertisingAddressType⟩
        ⟨destination, targetAddressType⟩ type)
  | .leExtendedAdvertisingPdu advertisingAddressType targetAddressType connectable
    scannable directed sid txPower primaryPhy secondaryPhy interval data =>
      s.afterPdu
        (s.scanIncomingLeExtendedAdvertisingPdu env bytes rssi ⟨source, advertisingAddressType⟩
          ⟨destination, targetAddressType⟩ connectable scannable directed sid txPower primaryPhy
          secondaryPhy interval data)
        (s.connectIncomingLeExtendedAdvertisingPdu env ⟨source, advertisingAddressType⟩
          ⟨destination, targetAddressType⟩ connectable directed)
  | .lePeriodicAdvertisingPdu advertisingAddressType sid txPower interval data => do
    let (toSynchronization, out) ← s.incomingLePeriodicAdvertisingPdu env rssi
      ⟨source, advertisingAddressType⟩ sid txPower interval data
    .ok ({ s with toSynchronization }, out)
  | .leScan scanningAddressType advertisingAddressType =>
    .ok
      (s, s.incomingLeScanPacket env ⟨source, scanningAddressType⟩
      ⟨destination, advertisingAddressType⟩)
  | .leScanResponse advertisingAddressType data =>
    let r := s.incomingLeScanResponsePacket env bytes rssi ⟨source, advertisingAddressType⟩ data
    .ok ({ s with scanner := r.1 }, r.2)
  | .leConnect initiatingAddressType advertisingAddressType interval latency timeout =>
    let r := s.incomingLeConnectPacket env ⟨source, initiatingAddressType⟩
      ⟨destination, advertisingAddressType⟩ interval latency timeout
    .ok ({ s with toAdvertisers := r.1 }, r.2)
  | .leConnectComplete initiatingAddressType advertisingAddressType interval latency timeout =>
    let r := s.incomingLeConnectCompletePacket env ⟨destination, initiatingAddressType⟩
      ⟨source, advertisingAddressType⟩ interval latency timeout
    .ok ({ s with initiator := r.1 }, r.2)

/-- The scheduled events, then the advertisers and the scanner. -/
def tick (s : LeController) (env : Env) : Except Panic (LeController × List Output) := do
  let (toAdvertisers, advertised) ← s.leAdvertising env
  let (scanner, scanned) := s.leScanning env.now
  .ok ({ s with toAdvertisers, scanner, tasks := [] }, s.tasks.map .event ++ advertised ++ scanned)

/-- One step of the controller. -/
def step (s : LeController) (i : Input) : Except Panic (LeController × List Output) :=
  match i.action with
  | .command c => .ok (s.command i.env c)
  | .packet bytes rssi p => s.incomingPacket i.env bytes rssi p
  | .tick => s.tick i.env

end LeController

/-- The LE controller outside of its connections. -/
def machine : Machine LeController Input Output where
  step := LeController.step

end RootCanal.Gap
