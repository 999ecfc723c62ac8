import RootCanal.Gap.Handlers

/-!
# The data commands of a set

An advertising set has three buffers of data (`DataKind`), each with a command of its own.  The
commands differ in their checks.  After these they do the same to their buffer
(`DataBuffer.Receives`): it receives the data, or it is emptied as there would be more than the
capacity of the controller or than fits in the PDUs. **`setData_eq_ok`: a data command that passes
its checks does this to its buffer and nothing else to the set.**

Source: `le_advertiser.cc`
-/

namespace RootCanal.Gap

open Lib RootCanal.Hci

/-- What a data command makes of its buffer, with its status. -/
inductive DataBuffer.Receives (old : DataBuffer) (capacity limit : Nat) (operation : Operation)
    (data : List UInt8) : ErrorCode → DataBuffer → Prop
  | exceeded : capacity < (old.receive data operation).data.length →
      Receives old capacity limit operation data .memoryCapacityExceeded {}
  | tooLong : (old.receive data operation).data.length ≤ capacity →
      limit < (old.receive data operation).data.length →
      Receives old capacity limit operation data .packetTooLong {}
  | taken : (old.receive data operation).data.length ≤ capacity →
      (old.receive data operation).data.length ≤ limit →
      Receives old capacity limit operation data .success (old.receive data operation)

namespace ExtendedAdvertiser

variable {a b : ExtendedAdvertiser} {properties : ControllerProperties} {status : ErrorCode}
  {operation : Operation} {data : List UInt8}

/-! ## Each command -/

theorem receives_of_ite {old : DataBuffer} {m n : Nat} {set : DataBuffer → ExtendedAdvertiser}
    (h : (if m < (old.receive data operation).data.length then .ok (set {}, .memoryCapacityExceeded)
      else if n < (old.receive data operation).data.length then .ok (set {}, .packetTooLong)
      else .ok (set (old.receive data operation), .success) :
      Except ErrorCode (ExtendedAdvertiser × ErrorCode)) = .ok (b, status)) :
    ∃ new, b = set new ∧ old.Receives m n operation data status new := by
  split at h
  · rename_i hm
    cases h
    exact ⟨{}, rfl, .exceeded hm⟩
  · split at h
    · rename_i hn
      cases h
      exact ⟨{}, rfl, .tooLong (by omega) hn⟩
    · cases h
      exact ⟨_, rfl, .taken (by omega) (by omega)⟩

/-- A set that is not enabled has no limit but the capacity of the controller. -/
def advertisingDataLimit (operation : Operation) (data : List UInt8) (a : ExtendedAdvertiser) :
    Nat :=
  if a.advertisingEnable then getMaxAdvertisingDataLength a.advertisingEventProperties
  else (a.advertisingData.receive data operation).data.length

theorem leSetExtendedAdvertisingData_eq_ok
    (h : a.leSetExtendedAdvertisingData properties operation data = .ok (b, status)) :
    canHaveAdvertisingData a.advertisingEventProperties = true ∧
    (a.advertisingEventProperties.legacy = true →
      operation = .completeAdvertisement ∧ data.length ≤ maxLegacyAdvertisingPduSize) ∧
    (a.advertisingEnable = true → operation = .completeAdvertisement ∨ operation = .unchangedData ∧
      data = []) ∧
    ∃ new, b = { a with advertisingData := new } ∧
      a.advertisingData.Receives properties.leMaxAdvertisingDataLength.toNat
        (a.advertisingDataLimit operation data) operation data status new := by
  simp only [leSetExtendedAdvertisingData, bind_eq_ok, require_eq_ok, exists_const,
    decide_eq_true_eq, Bool.not_eq_true'] at h
  obtain ⟨hcan, hleg, hunchanged, -, hena, h⟩ := h
  refine ⟨hcan, fun hl => by simpa [hl] using hleg, fun he => ?_, ?_⟩
  · rcases hena with hdis | hcomp | hop
    · rw [he] at hdis
      cases hdis
    · exact .inl hcomp
    · exact .inr ⟨hop, (hunchanged.resolve_left fun hne => hne hop).2.2.2⟩
  · refine receives_of_ite ?_
    cases he : a.advertisingEnable <;> simpa [advertisingDataLimit, he] using h

theorem leSetExtendedScanResponseData_eq_ok
    (h : a.leSetExtendedScanResponseData properties operation data = .ok (b, status)) :
    (a.advertisingEventProperties.scannable = false → operation = .completeAdvertisement ∧
      data = []) ∧
    (a.advertisingEventProperties.scannable = true → a.advertisingEventProperties.legacy = true →
      operation = .completeAdvertisement ∧ data.length ≤ maxLegacyAdvertisingPduSize) ∧
    (a.advertisingEnable = true → operation = .completeAdvertisement) ∧
    (a.advertisingEnable = true → a.advertisingEventProperties.scannable = true →
      a.advertisingEventProperties.legacy = false → data ≠ []) ∧
    ∃ new, b = { a with scanResponseData := new } ∧
      a.scanResponseData.Receives properties.leMaxAdvertisingDataLength.toNat
        maxExtendedAdvertisingPduSize operation data status new := by
  simp only [leSetExtendedScanResponseData, bind_eq_ok, require_eq_ok, exists_const,
    decide_eq_true_eq, Bool.not_eq_true'] at h
  obtain ⟨hscan, hleg, hemp, hena, hkeep, -, h⟩ := h
  refine ⟨fun hs =>
    ?_, fun hs hl => by simpa [hs, hl] using hleg, fun he => by simpa [he] using hena,
    fun he hs hl => by simpa [he, hs, hl] using hkeep, receives_of_ite h⟩
  have hdata : data = [] := by simpa [hs] using hscan
  exact ⟨by simpa [hdata] using hemp, hdata⟩

theorem leSetPeriodicAdvertisingData_eq_ok
    (h : a.leSetPeriodicAdvertisingData properties operation data = .ok (b, status)) :
    (a.periodicAdvertisingEnable = true → operation = .completeAdvertisement ∨
      operation = .unchangedData) ∧
    ∃ new, b = { a with periodicAdvertisingData := new } ∧
      a.periodicAdvertisingData.Receives properties.leMaxAdvertisingDataLength.toNat
        (getMaxPeriodicAdvertisingDataLength a.periodicAdvertisingInterval) operation
          data status new := by
  simp only [leSetPeriodicAdvertisingData, bind_eq_ok, require_eq_ok, exists_const,
    decide_eq_true_eq, Bool.not_eq_true'] at h
  obtain ⟨-, hena, -, -, h⟩ := h
  exact ⟨fun he => by simpa [he] using hena, receives_of_ite h⟩

end ExtendedAdvertiser

/-! ## The three commands as one -/

/-- The buffers of a set. -/
inductive DataKind
  | advertising
  | scanResponse
  | periodic
deriving DecidableEq, Repr

/-- The octets of data that fit in one command. -/
def DataKind.room : DataKind → Nat
  | .advertising | .scanResponse => 251
  | .periodic => 252

/-- A data command. -/
structure DataCommand where
  kind : DataKind
  handle : UInt8
  operation : Operation
  data : List UInt8
  fits : data.length ≤ kind.room

/-- The data command, if it is one. -/
def AdvertisingSetCommand.data? : AdvertisingSetCommand → Option DataCommand
  | .leSetExtendedAdvertisingData handle operation d =>
    some ⟨.advertising, handle, operation, d.octets, d.fits⟩
  | .leSetExtendedScanResponseData handle operation d =>
    some ⟨.scanResponse, handle, operation, d.octets, d.fits⟩
  | .leSetPeriodicAdvertisingData handle operation d =>
    some ⟨.periodic, handle, operation, d.octets, d.fits⟩
  | _ => none

namespace ExtendedAdvertiser

variable {a b : ExtendedAdvertiser} {properties : ControllerProperties} {status : ErrorCode}

/-- The data of the kind. -/
def buffer (a : ExtendedAdvertiser) : DataKind → DataBuffer
  | .advertising => a.advertisingData
  | .scanResponse => a.scanResponseData
  | .periodic => a.periodicAdvertisingData

/-- A set with another buffer. -/
def withBuffer (a : ExtendedAdvertiser) (buffer : DataBuffer) : DataKind → ExtendedAdvertiser
  | .advertising => { a with advertisingData := buffer }
  | .scanResponse => { a with scanResponseData := buffer }
  | .periodic => { a with periodicAdvertisingData := buffer }

/-- What a data command makes of its set. -/
def setData (properties : ControllerProperties) (d : DataCommand) (a : ExtendedAdvertiser) :
    Except ErrorCode (ExtendedAdvertiser × ErrorCode) :=
  match d.kind with
  | .advertising => a.leSetExtendedAdvertisingData properties d.operation d.data
  | .scanResponse => a.leSetExtendedScanResponseData properties d.operation d.data
  | .periodic => a.leSetPeriodicAdvertisingData properties d.operation d.data

/-- The data that fits in the PDUs. -/
def limit (d : DataCommand) (a : ExtendedAdvertiser) : Nat :=
  match d.kind with
  | .advertising => a.advertisingDataLimit d.operation d.data
  | .scanResponse => maxExtendedAdvertisingPduSize
  | .periodic => getMaxPeriodicAdvertisingDataLength a.periodicAdvertisingInterval

theorem buffer_withBuffer (a : ExtendedAdvertiser) (buffer : DataBuffer) (k k' : DataKind) :
    (a.withBuffer buffer k).buffer k' = if k' = k then buffer else a.buffer k' := by
  cases k <;> cases k' <;> rfl

/-- **What a data command makes of its set**, if it passes the checks. -/
theorem setData_eq_ok {d} (h : a.setData properties d = .ok (b, status)) :
    ∃ new, b = a.withBuffer new d.kind ∧
      (a.buffer d.kind).Receives properties.leMaxAdvertisingDataLength.toNat
        (a.limit d) d.operation d.data status new := by
  obtain ⟨k, handle, operation, data, hfits⟩ := d
  cases k with
  | advertising => exact (leSetExtendedAdvertisingData_eq_ok h).2.2.2
  | scanResponse => exact (leSetExtendedScanResponseData_eq_ok h).2.2.2.2
  | periodic => exact (leSetPeriodicAdvertisingData_eq_ok h).2

/-- A data command leaves the rest of its set as it is. -/
theorem withBuffer_periodic (a : ExtendedAdvertiser) (buffer : DataBuffer) (k : DataKind) :
    (a.withBuffer buffer k).periodicAdvertisingEnable = a.periodicAdvertisingEnable ∧
    (a.withBuffer buffer k).periodicAdvertisingEnableLatch = a.periodicAdvertisingEnableLatch := by
  cases k <;> exact ⟨rfl, rfl⟩

end ExtendedAdvertiser

namespace LeController

variable {s : LeController} {env : Env} {handle : UInt8} {status : ErrorCode}

theorem onSet_eq_ok {f sets} (h : s.onSet handle f = .ok (sets, status)) :
    ∃ a b, s.extendedAdvertisers[handle]? = some a ∧ f a = .ok (b, status) ∧
      sets = s.extendedAdvertisers.insert handle b := by
  unfold onSet at h
  split at h
  · cases h
  · rename_i a ha
    obtain ⟨b, hb, h⟩ := bind_eq_ok.mp h
    cases h
    exact ⟨a, b.1, ha, hb, rfl⟩

theorem advertisingSets_data {c d} (h : c.data? = some d) :
    s.advertisingSets env c = s.onSet d.handle (·.setData s.properties d) := by
  cases c <;> cases h <;> rfl

end LeController

end RootCanal.Gap
