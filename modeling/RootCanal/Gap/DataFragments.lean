import RootCanal.Gap.AdvertisingSets
import RootCanal.Lib.Reassembly

/-!
# The data of a set, and the fragments it came in

The host sends the data of a set whole or in fragments.  A buffer that is not partial is to hold a
payload that the host sent completely.

* `accepted kind handle tr` are the fragments of a buffer that were accepted, over a run.
* A last fragment is accepted whether or not a first one came before it: after a payload that was
  complete, or after the controller discarded what it had (`data_without_start`).  The buffer is not
  partial then, and the set can be enabled with the rest of a payload.
* **`data_complete`: if the host goes on with a payload only while the buffer is partial
  (`continuesPartial`), then every buffer that is not partial is empty or holds a payload that was
  carried by accepted fragments.**

Source: `le_advertiser.cc`
-/

namespace RootCanal.Gap

open Lib Lib.Reassembly RootCanal.Hci

/-- Where a fragment stands in its payload; unchanged data is no fragment. -/
def Operation.boundary? : Operation → Option Boundary
  | .intermediateFragment => some .continuation
  | .firstFragment => some .first
  | .lastFragment => some .last
  | .completeAdvertisement => some .complete
  | .unchangedData => none

/-- The fragment a data command gives. -/
def DataCommand.fragment? (d : DataCommand) : Option (Fragment Unit Unit UInt8) :=
  d.operation.boundary?.map (⟨(), ·, (), d.data⟩)

/-- The operation goes on with a payload. -/
def Operation.goesOn : Operation → Bool
  | .intermediateFragment | .lastFragment => true
  | _ => false

/-- The fragment of a buffer that a step has accepted. -/
def accepted? (kind : DataKind) (handle : UInt8) (e : Input × List Output) :
    Option (Fragment Unit Unit UInt8) :=
  match e.1.action with
  | .command (.advertisingSets c) =>
    if e.2 = [.event (.status .success)] then
      (c.data?.filter fun d => d.kind = kind ∧ d.handle = handle).bind (·.fragment?)
    else none
  | _ => none

/-- The fragments of a buffer that were accepted. -/
def accepted (kind : DataKind) (handle : UInt8) (tr : List (Input × List Output)) :
    List (Fragment Unit Unit UInt8) :=
  tr.filterMap (accepted? kind handle)

/-! ## One buffer -/

/-- The buffer holds a payload, or what has come of one. -/
structure DataBuffer.Faithful (fs : List (Fragment Unit Unit UInt8)) (b : DataBuffer) : Prop where
  whole : b.isPartial = false → b.data = [] ∨ Carries fs b.data
  begun : b.isPartial = true → Begun fs b.data

namespace DataBuffer

variable {fs : List (Fragment Unit Unit UInt8)} {b : DataBuffer}

theorem faithful_empty : Faithful fs {} := ⟨fun _ => .inl rfl, nofun⟩

theorem Faithful.receive {operation boundary data}
    (hb : b.Faithful fs) (hgoesOn : operation.goesOn = true → b.isPartial = true)
    (hbd : operation.boundary? = some boundary) :
    (b.receive data operation).Faithful (fs ++ [⟨(), boundary, (), data⟩]) := by
  cases operation with
  | intermediateFragment =>
    cases hbd
    exact ⟨nofun, fun _ => (hb.begun (hgoesOn rfl)).continuation rfl⟩
  | firstFragment =>
    cases hbd
    exact ⟨nofun, fun _ => begun_first rfl⟩
  | lastFragment =>
    cases hbd
    exact ⟨fun _ => .inr ((hb.begun (hgoesOn rfl)).last rfl), nofun⟩
  | completeAdvertisement =>
    cases hbd
    exact ⟨fun _ => .inr (carries_complete rfl), nofun⟩
  | unchangedData => cases hbd

end DataBuffer

namespace LeController

variable {s s' : LeController} {i : Input} {out : List Output} {handle : UInt8} {kind : DataKind}
  {tr : List (Input × List Output)}

/-- The host goes on with a payload only while the buffer is partial. -/
def continuesPartial (s : LeController) (i : Input) : Bool :=
  match i.action with
  | .command (.advertisingSets c) => c.data?.all fun d =>
    !d.operation.goesOn || s.extendedAdvertisers[d.handle]?.all fun a => (a.buffer d.kind).isPartial
  | _ => true

/-! ## Steps -/

theorem buffer_of_parameters {a b : ExtendedAdvertiser} {parameters : ExtendedAdvertisingParameters}
    (h : a.leSetExtendedAdvertisingParameters parameters = .ok b) : b.buffer kind =
      a.buffer kind := by
  simp only [ExtendedAdvertiser.leSetExtendedAdvertisingParameters, bind_eq_ok, require_eq_ok,
    exists_const, Except.ok.injEq] at h
  obtain ⟨-, -, -, -, -, -, -, -, -, -, -, -, -, -, rfl⟩ := h
  cases kind <;> rfl

/-- A step that is no data command of the buffer leaves it as it is, or the set is new. -/
theorem SetStep.buffer {o o' : Option ExtendedAdvertiser} (h : SetStep s i handle o o')
    (hoth : ∀ c d, i.action = .command (.advertisingSets c) → c.data? = some d → d.handle = handle →
      d.kind ≠ kind) : ∀ b ∈ o', (∃ a ∈ o, b.buffer kind = a.buffer kind) ∨ b.buffer kind = {} := by
  intro b hb
  cases h with
  | absent | reset | removed | cleared => cases hb
  | kept a _ hkeep =>
    cases hb
    refine .inl ⟨a, rfl, ?_⟩
    cases kind
    · exact hkeep.advertisingData
    · exact hkeep.scanResponseData
    · exact hkeep.periodicAdvertisingData
  | parameters o _ _ _ hok =>
    cases hb
    cases o with
    | none =>
      right
      rw [buffer_of_parameters hok]
      cases kind <;> rfl
    | some a => exact .inl ⟨a, rfl, buffer_of_parameters hok⟩
  | data a _ _ c d hi hd hh hok =>
    cases hb
    obtain ⟨new, rfl, -⟩ := ExtendedAdvertiser.setData_eq_ok hok
    refine .inl ⟨a, rfl, ?_⟩
    rw [ExtendedAdvertiser.buffer_withBuffer, if_neg (hoth c d hi hd hh).symm]
  | periodicParameters a _ _ _ _ hok =>
    cases hb
    obtain ⟨-, rfl⟩ := ExtendedAdvertiser.leSetPeriodicAdvertisingParameters_eq_ok hok
    exact .inl ⟨a, rfl, by cases kind <;> rfl⟩
  | periodicEnable a _ _ _ _ _ hok =>
    cases hb
    refine .inl ⟨a, rfl, ?_⟩
    obtain ⟨-, rfl⟩ | ⟨-, -, rfl⟩ := ExtendedAdvertiser.leSetPeriodicAdvertisingEnable_eq_ok hok
    · cases kind <;> rfl
    · cases kind <;> rfl
  | enabled a _ _ _ henables =>
    cases hb
    refine .inl ⟨a, rfl, ?_⟩
    cases kind
    · exact henables.advertisingData
    · exact henables.scanResponseData
    · exact henables.periodicAdvertisingData

/-- What comes after the checks of a data command is no refusal. -/
theorem store_ne_success {p q} [Decidable p] [Decidable q] {x y z} :
    (if p then .ok x else if q then .ok y else .ok z : Except ErrorCode
      (ExtendedAdvertiser × ErrorCode)) ≠
      .error .success := by
  split
  · nofun
  · split <;> nofun

/-- Nothing is refused with a success. -/
theorem setData_ne_success (properties : ControllerProperties) (d : DataCommand)
    (a : ExtendedAdvertiser) : a.setData properties d ≠ .error .success := by
  obtain ⟨k, handle, operation, data, hfits⟩ := d
  cases k with
  | advertising =>
    iterate 5 refine require_bind_ne_success (by decide) fun _ => ?_
    exact store_ne_success
  | scanResponse =>
    iterate 6 refine require_bind_ne_success (by decide) fun _ => ?_
    exact store_ne_success
  | periodic =>
    iterate 4 refine require_bind_ne_success (by decide) fun _ => ?_
    exact store_ne_success

theorem onSet_ne_success {f} (hf : ∀ a, f a ≠ .error .success) :
    s.onSet handle f ≠ .error .success := by
  unfold onSet
  split
  · nofun
  · exact bind_ne_error_iff.mpr ⟨hf _, fun _ _ => nofun⟩

/-- What a data command does to its buffer, and what it answers. -/
theorem data_step {env c d} (hd : c.data? = some d)
    (h : s.step ⟨env, .command (.advertisingSets c)⟩ = .ok (s', out)) :
    (out ≠ [.event (.status .success)] ∧
      s'.extendedAdvertisers[d.handle]? = s.extendedAdvertisers[d.handle]?) ∨
    ∃ a new, s.extendedAdvertisers[d.handle]? = some a ∧
      s'.extendedAdvertisers[d.handle]? = some (a.withBuffer new d.kind) ∧
      ((out ≠ [.event (.status .success)] ∧ new = {}) ∨
        (out = [.event (.status .success)] ∧
          new = (a.buffer d.kind).receive d.data d.operation)) := by
  obtain ⟨status, rfl, hans⟩ := setsAnswer_of_step h
  cases hans with
  | excluded => exact .inl ⟨by decide, rfl⟩
  | refused _ _ _ hrefused =>
    refine .inl ⟨fun heq => ?_, rfl⟩
    rw [advertisingSets_data hd] at hrefused
    cases heq
    exact onSet_ne_success (setData_ne_success s.properties d) hrefused
  | applied _ _ _ _ _ hok =>
    rw [advertisingSets_data hd] at hok
    obtain ⟨a, b, ha, hb, rfl⟩ := onSet_eq_ok hok
    obtain ⟨new, rfl, hnew⟩ := ExtendedAdvertiser.setData_eq_ok hb
    refine .inr ⟨a, new, ha, by rw [HashMap.getElem?_insert', if_pos rfl], ?_⟩
    cases hnew with
    | exceeded | tooLong => exact .inl ⟨by decide, rfl⟩
    | taken => exact .inr ⟨rfl, rfl⟩

/-- Every buffer holds a payload, or what has come of one. -/
def Faithful (tr : List (Input × List Output)) (s : LeController) : Prop :=
  ∀ (handle : UInt8) a, s.extendedAdvertisers[handle]? = some a → ∀ kind,
    (a.buffer kind).Faithful (accepted kind handle tr)

theorem accepted_append (e : Input × List Output) :
    accepted kind handle (tr ++ [e]) = accepted kind handle tr ++
      (accepted? kind handle e).toList := by
  simp only [accepted, List.filterMap_append, List.filterMap_cons, List.filterMap_nil]
  cases accepted? kind handle e <;> rfl

theorem Faithful.data {env c d b} (hs : Faithful tr s) (hd : c.data? = some d)
    (h : s.step ⟨env, .command (.advertisingSets c)⟩ = .ok (s', out))
    (hcont : s.continuesPartial ⟨env, .command (.advertisingSets c)⟩ = true)
    (hb : s'.extendedAdvertisers[d.handle]? = some b) :
    (b.buffer d.kind).Faithful
    (accepted d.kind d.handle (tr ++ [(⟨env, .command (.advertisingSets c)⟩, out)])) := by
  rw [accepted_append]
  rcases data_step hd h with ⟨hrefused, hsame⟩ | ⟨a, new, ha, hset, hnew⟩
  · have hn : accepted? d.kind d.handle (⟨env, .command (.advertisingSets c)⟩, out) = none := by
      simp [accepted?, hrefused]
    rw [hn, Option.toList_none, List.append_nil]
    exact hs d.handle b (hsame ▸ hb) d.kind
  · cases hset.symm.trans hb
    rw [ExtendedAdvertiser.buffer_withBuffer, if_pos rfl]
    rcases hnew with ⟨hrefused, rfl⟩ | ⟨hok, rfl⟩
    · exact DataBuffer.faithful_empty
    · have hfragment : accepted? d.kind d.handle
          (⟨env, .command (.advertisingSets c)⟩, out) = d.fragment? := by
        simp [accepted?, hok, hd, Option.filter]
      rw [hfragment]
      cases hbd : d.operation.boundary? with
      | none =>
        -- unchanged data
        have hoperation : d.operation = .unchangedData := by
          cases hop : d.operation <;> rw [hop] at hbd <;> first | rfl | cases hbd
        rw [DataCommand.fragment?, hbd, hoperation]
        simpa [DataBuffer.receive] using hs d.handle a ha d.kind
      | some =>
        rw [DataCommand.fragment?, hbd]
        refine (hs d.handle a ha d.kind).receive (fun hgoesOn => ?_) hbd
        simpa [continuesPartial, hd, hgoesOn, ha] using hcont

theorem Faithful.step (hs : Faithful tr s) (hcont : s.continuesPartial i = true)
    (h : s.step i = .ok (s', out)) : Faithful (tr ++ [(i, out)]) s' := by
  intro handle b hb kind
  by_cases hdata : ∃ c d, i.action = .command (.advertisingSets c) ∧ c.data? = some d ∧
      d.handle = handle ∧ d.kind = kind
  · obtain ⟨c, d, hi, hd, rfl, rfl⟩ := hdata
    obtain ⟨env, a⟩ := i
    cases (show a = _ from hi)
    exact hs.data hd h hcont hb
  · have hn : accepted? kind handle (i, out) = none := by
      unfold accepted?
      split
      · rename_i c hi
        split
        · cases hd : c.data? with
          | none => rfl
          | some d =>
            have hoth : ¬ (d.kind = kind ∧ d.handle = handle) := fun hsame =>
                hdata ⟨c, d, hi, hd, hsame.2, hsame.1⟩
            simp [Option.filter, hoth]
        · rfl
      · rfl
    rw [accepted_append, hn, Option.toList_none, List.append_nil]
    have hoth : ∀ c d, i.action = .command (.advertisingSets c) → c.data? = some d →
        d.handle = handle → d.kind ≠ kind := fun c d hi hd hh hkind =>
        hdata ⟨c, d, hi, hd, hh, hkind⟩
    rcases (set_step h handle).buffer hoth b hb with ⟨a, ha, hsame⟩ | hemp
    · rw [hsame]
      exact hs handle a ha kind
    · rw [hemp]
      exact DataBuffer.faithful_empty

/-- **A buffer that is not partial is empty or holds a payload that the host sent completely**, if
the host goes on with a payload only while the buffer is partial. -/
theorem data_complete {own : Address} {properties : ControllerProperties} {a : ExtendedAdvertiser}
    (h : machine.Run (fun s i => s.continuesPartial i = true) (new own properties) tr s)
    (ha : s.extendedAdvertisers[handle]? = some a) (kind : DataKind)
    (hwhole : (a.buffer kind).isPartial = false) :
    (a.buffer kind).data = [] ∨ Carries (accepted kind handle tr) (a.buffer kind).data := by
  have hs : Faithful tr s := by
    refine h.invariant_trace Faithful (fun handle a ha => ?_) ?_
    · cases ha
    · intro tr s i s' out hs hcont hstep
      exact hs.step hcont hstep
  exact (hs handle a ha kind).whole hwhole

/-- The host makes a set, and sends these operations with these octets as its advertising data. -/
def sendsData (fragments : List (Operation × Payload 251)) : List Input :=
  .host (.advertisingSets (.leSetExtendedAdvertisingParameters 0 periodicParameters)) ::
    fragments.map fun f => .host (.advertisingSets (.leSetExtendedAdvertisingData 0 f.1 f.2))

/-- Two fragments make the data of a set. -/
theorem data_complete_fragments :
    ∃ tr s a, machine.Run (fun s i => s.continuesPartial i = true) (new 1 {}) tr s ∧
    s.extendedAdvertisers[(0 : UInt8)]? = some a ∧ a.advertisingData = ⟨[1, 2], false⟩ ∧
    (a.advertisingData.data = [] ∨
      Carries (accepted .advertising 0 tr) a.advertisingData.data) := by
  have hx : machine.ExecTo (fun _ s => ∃ a ∈ s.extendedAdvertisers[(0 : UInt8)]?,
      a.advertisingData = ⟨[1, 2], false⟩) (new 1 {})
      (sendsData [(.firstFragment, ⟨[1], by decide⟩), (.lastFragment, ⟨[2], by decide⟩)]) := by
    decide +kernel
  obtain ⟨tr, s, hrun, a, ha, hdata⟩ :=
    machine.exists_run (C := fun s i => s.continuesPartial i = true) (by decide +kernel) hx
  refine ⟨tr, s, a, hrun, ha, hdata, data_complete hrun ha .advertising ?_⟩
  rw [ExtendedAdvertiser.buffer, hdata]

/-- As many octets as fit in one command. -/
def fullPayload : Payload 251 := ⟨List.replicate 251 1, by rw [List.length_replicate]⟩

/-- The host sends four fragments, of which the third is one too many. -/
def sendsFour : List Input :=
  sendsData [(.firstFragment, fullPayload), (.intermediateFragment, fullPayload),
    (.intermediateFragment, fullPayload), (.lastFragment, ⟨[2], by decide⟩)]

/-- What came is discarded.  The last fragment is accepted all the same: the set has its octets for
data and can be enabled. -/
theorem data_without_start : ∃ tr s a, machine.Run (fun _ _ => True) (new 1 {}) tr s ∧
    s.extendedAdvertisers[(0 : UInt8)]? = some a ∧ a.advertisingData = ⟨[2], false⟩ ∧
    ¬ Carries (accepted .advertising 0 tr) [2] ∧
    ∃ r ∈
      (s.step
      (.host (.advertisingSets (.leSetExtendedAdvertisingEnable true [⟨0, 0, 0⟩])))).toOption,
      r.2 = [.event (.status .success)] := by
  obtain ⟨tr, s, hrun, ⟨a, ha, hdata⟩, hn, hena⟩ := machine.exists_run
    (P := fun tr s =>
      (∃ a ∈ s.extendedAdvertisers[(0 : UInt8)]?, a.advertisingData = ⟨[2], false⟩) ∧
      (∀ f ∈ accepted .advertising 0 tr, ¬ (f.boundary.starts = true ∧ f.payload <+: [2])) ∧
      ∃ r ∈
        (s.step
        (.host (.advertisingSets (.leSetExtendedAdvertisingEnable true [⟨0, 0, 0⟩])))).toOption,
        r.2 = [.event (.status .success)])
    (show machine.Meets (fun _ _ => True) (new 1 {}) sendsFour by decide +kernel)
    (by decide +kernel)
  refine ⟨tr, s, a, hrun, ha, hdata, fun hcar => ?_, hena⟩
  obtain ⟨f, hf, hstarts⟩ := hcar.starts
  exact hn f hf hstarts

end LeController

end RootCanal.Gap
