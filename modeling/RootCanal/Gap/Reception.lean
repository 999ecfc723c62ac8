import RootCanal.Gap.Effects

/-!
# What the scanner and the initiator make of a PDU

* `Scanner.Takes` says what the three handlers of the scanner have in common: a PDU is ignored, or
  its bytes are recorded, and then nothing is sent unless they are new.
* **`reports_distinct`: as long as duplicates are filtered, and between two clearings of the
  history, no two PDUs that are reported have the same bytes.**  The history is cleared when
  scanning starts, and at the end of a period if the host asked for it (`clearsHistory`); it is also
  lost when scanning stops, but nothing is reported then.
* The scanner and the initiator use the random address if they are told to, and assert that there is
  one. For the scanner this was checked when it was enabled.  For the initiator it was checked only
  if it connects to one given peer that is not in the resolving list (`create_connection_aborts`).
  **`random_address_set`: the assertions hold while a connection from a resolvable or random address
  is only created when the random address is set (`BringsRandomAddress`).**

Source: `le_controller.cc`
-/

namespace RootCanal.Gap

open Lib RootCanal.Hci

/-! ## The scanner -/

namespace Scanner

/-- What a handler makes of a PDU: nothing, or the bytes are recorded and a scan request may be
pending. -/
inductive Takes (scanner : Scanner) (bytes : List UInt8) : Scanner × List Output → Prop
  | ignored : Takes scanner bytes (scanner, [])
  | taken (pending : List (AddressWithType × ScanRequest)) (out : List Output) :
      scanner.scanEnable = true → (scanner.isFresh bytes = false → out = []) →
      Takes scanner bytes ({ scanner.record bytes with pendingScanRequests := pending }, out)

/-- The scanner goes on as it was set up, or stops. -/
structure Continues (a b : Scanner) : Prop where
  scanEnable : b.scanEnable = true → a.scanEnable = true
  ownAddressType : b.ownAddressType = a.ownAddressType
  filterDuplicates : b.filterDuplicates = a.filterDuplicates

variable {scanner : Scanner} {bytes : List UInt8} {r : Scanner × List Output}

theorem Continues.refl (a : Scanner) : a.Continues a := ⟨fun h => h, rfl, rfl⟩

@[simp] theorem record_ownAddressType :
    (scanner.record bytes).ownAddressType = scanner.ownAddressType := by
  unfold record
  split <;> rfl

@[simp] theorem record_filterDuplicates :
    (scanner.record bytes).filterDuplicates = scanner.filterDuplicates := by
  unfold record
  split <;> rfl

/-- The bytes that are recorded, if duplicates are filtered. -/
theorem mem_history_record {bytes'} : bytes' ∈ (scanner.record bytes).history ↔
    bytes' ∈ scanner.history ∨ bytes' = bytes ∧ scanner.filterDuplicates ≠ .disabled := by
  unfold record
  by_cases hfil : scanner.filterDuplicates = .disabled
  · simp [hfil]
  · by_cases hfresh : bytes ∈ scanner.history
    · simp only [isFresh, hfil, hfresh, ne_eq, not_false_eq_true, decide_true, not_true_eq_false,
        decide_false, Bool.or_self, Bool.and_false, Bool.false_eq_true, if_false, and_true]
      refine ⟨.inl, ?_⟩
      rintro (h | rfl)
      · exact h
      · exact hfresh
    · simp [isFresh, hfil, hfresh]

/-- Recording does not depend on the scan requests that are pending. -/
theorem record_pendingScanRequests (pending : List (AddressWithType × ScanRequest)) :
    ({ scanner with pendingScanRequests := pending } : Scanner).record bytes =
      { scanner.record bytes with pendingScanRequests := pending } := by
  unfold record isFresh
  split <;> rfl

theorem Takes.continues (h : scanner.Takes bytes r) : scanner.Continues r.1 := by
  cases h with
  | ignored => exact .refl scanner
  | taken _ _ hena =>
    exact ⟨fun _ => hena, record_ownAddressType, record_filterDuplicates⟩

theorem Takes.history (h : scanner.Takes bytes r) :
    ∀ bytes' ∈ scanner.history, bytes' ∈ r.1.history := by
  intro bytes' hmem
  cases h with
  | ignored => exact hmem
  | taken => exact mem_history_record.mpr (.inl hmem)

/-- Something is sent only for bytes that are new, and they are recorded. -/
theorem Takes.fresh (h : scanner.Takes bytes r) (hfil : scanner.filterDuplicates ≠ .disabled)
    (hsent : r.2 ≠ []) : bytes ∉ scanner.history ∧ bytes ∈ r.1.history := by
  cases h with
  | ignored => exact absurd rfl hsent
  | taken _ _ _ hfresh =>
    refine ⟨fun hmem => ?_, mem_history_record.mpr (.inr ⟨rfl, hfil⟩)⟩
    exact hsent (hfresh (by simp [isFresh, hfil, hmem]))

theorem Takes.enabled (h : scanner.Takes bytes r) (hsent : r.2 ≠ []) :
    scanner.scanEnable = true := by
  cases h with
  | ignored => exact absurd rfl hsent
  | taken _ _ hena => exact hena

end Scanner

namespace LeController

variable {s s' : LeController} {env : Env} {i : Input} {out : List Output}

variable {advertising resolved : AddressWithType} {r : Scanner × List Output}
  {request : ScanRequest}
  {scannable shouldSend : Bool} {scanner : Scanner}

theorem scanRequest_ok :
    Yields (s.scanRequest env scanner advertising resolved scannable shouldSend request) fun r =>
      (∃ pending, r.1 = { scanner with pendingScanRequests := pending }) ∧
        (shouldSend = false → r.2 = []) := by
  refine .ite (fun hsend => .bind fun _ _ => .ok ⟨⟨_, rfl⟩, fun hno => ?_⟩) fun _ =>
    .ok ⟨⟨_, rfl⟩, fun _ => rfl⟩
  simp [hno] at hsend

variable {bytes : List UInt8}

/-- What is recorded and reported, then asked for. -/
theorem takes_of_scanRequest {reports} (hena : s.scanner.scanEnable = true) : Yields (do
      let r ← s.scanRequest env (s.scanner.record bytes) advertising resolved scannable
          (s.scanner.isFresh bytes) request
      .ok (r.1, (if s.scanner.isFresh bytes then reports else []) ++ r.2))
        (s.scanner.Takes bytes) := by
  refine .seq scanRequest_ok ?_
  rintro ⟨_, out⟩ ⟨⟨pending, rfl⟩, hn⟩
  refine .ok (.taken pending _ hena fun hstale => ?_)
  simpa [hstale] using hn hstale

variable {data : List UInt8} {rssi : UInt8} {target : AddressWithType} {connectable directed : Bool}

/-- A legacy PDU is taken or ignored. -/
theorem takes_of_legacyPdu {type} :
    Yields (s.scanIncomingLeLegacyAdvertisingPdu env bytes rssi advertising target type data)
      (s.scanner.Takes bytes) := by
  exact .ite (fun hscans => takes_of_scanRequest (Bool.and_eq_true_iff.mp hscans).1) fun _ =>
    .ok .ignored

/-- An extended PDU is taken or ignored. -/
theorem takes_of_extendedPdu {sid txPower primaryPhy secondaryPhy interval} :
    Yields
      (s.scanIncomingLeExtendedAdvertisingPdu env bytes rssi advertising target connectable
      scannable directed sid txPower primaryPhy secondaryPhy interval data)
      (s.scanner.Takes bytes) := by
  refine .ite (fun hscans => ?_) fun _ => .ok .ignored
  simp only [Bool.and_eq_true] at hscans
  exact takes_of_scanRequest hscans.1.1.1

/-- A scan response is taken or ignored. -/
theorem takes_of_scanResponse (bytes : List UInt8) (rssi : UInt8) (advertising : AddressWithType)
    (data : List UInt8) :
    s.scanner.Takes bytes (s.incomingLeScanResponsePacket env bytes rssi advertising data) := by
  unfold incomingLeScanResponsePacket
  split
  · rename_i hena
    split
    · exact .ignored
    · dsimp only
      rw [Scanner.record_pendingScanRequests]
      refine .taken _ _ hena fun hstale => ?_
      exact if_neg (by simpa [Scanner.isFresh] using hstale)
  · exact .ignored

/-! ## Reports of duplicates -/

/-- A period of the scanner ends, and so does the scan in it.
Source: `LeScanning` -/
def periodEnds (scanner : Scanner) (now : Nat) : Bool :=
  scanner.periodicalTimeout.any (· ≤ now) && scanner.timeout.all (· ≤ now)

theorem continues_of_leScanning (now : Nat) : s.scanner.Continues (s.leScanning now).1 := by
  constructor
  · unfold leScanning
    split_ifs with hena
    · intro _
      exact hena
    · exact fun h => h
  · unfold leScanning
    dsimp only
    split_ifs <;> rfl
  · unfold leScanning
    dsimp only
    split_ifs <;> rfl

/-- What was received is remembered until scanning stops or a period ends. -/
theorem mem_history_leScanning {now : Nat} (h : bytes ∈ s.scanner.history)
    (hena : (s.leScanning now).1.scanEnable = true)
    (hperiod : ¬ (s.scanner.filterDuplicates = .resetEachPeriod ∧
      periodEnds s.scanner now = true)) :
    bytes ∈ (s.leScanning now).1.history := by
  have hscans := (continues_of_leScanning now).scanEnable hena
  unfold leScanning at hena ⊢
  rw [if_pos hscans] at hena ⊢
  dsimp only at hena ⊢
  by_cases hend : scanEnded s.scanner now = true
  · simp only [hend, if_true, Scanner.clear] at hena
    split_ifs at hena
  · simp only [hend, Bool.false_eq_true, if_false]
    split_ifs with hto hperiodical hfil hperiodical hfil
    · have hall : s.scanner.timeout.all (· ≤ now) = true := by
        cases htime : s.scanner.timeout with
        | none => rfl
        | some => simpa [htime] using (Bool.and_eq_true_iff.mp hto).1
      exact absurd ⟨hfil, by simpa [periodEnds, hall] using hperiodical⟩ hperiod
    · exact h
    · exact h
    · simp only [Bool.and_eq_true, Option.isNone_iff_eq_none] at hperiodical
      exact absurd ⟨hfil, by simp [periodEnds, hperiodical]⟩ hperiod
    · exact h
    · exact h

/-- The command starts scanning. -/
def startsScanning : ScanCommand → Bool
  | .leSetScanEnable enable _ => enable
  | .leSetExtendedScanEnable enable _ _ _ => enable
  | .leSetScanParameters .. | .leSetExtendedScanParameters .. => false

/-- The duplicate history is cleared and scanning goes on: scanning is started, or a period ends at
which the host wants duplicates again. -/
def clearsHistory (s : LeController) (i : Input) : Bool :=
  match i.action with
  | .command (.scan c) =>
    startsScanning c && (s.command i.env (.scan c)).2 = [.event (.status .success)]
  | .tick => s.scanner.scanEnable && s.scanner.filterDuplicates = .resetEachPeriod &&
      periodEnds s.scanner i.env.now
  | _ => false

/-- An advertising report or a scan response report. -/
def isReport : Output → Bool
  | .event (.leAdvertisingReport ..) | .event (.leDirectedAdvertisingReport ..)
  | .event (.leExtendedAdvertisingReport ..) => true
  | _ => false

/-- The bytes of a PDU that was reported. -/
def reportedBytes (e : Input × List Output) : Option (List UInt8) :=
  match e.1.action with
  | .packet bytes _ _ => if e.2.any isReport then some bytes else none
  | _ => none

/-- The PDUs that were reported, by their bytes. -/
def reported (tr : List (Input × List Output)) : List (List UInt8) := tr.filterMap reportedBytes

/-- A command that does not start scanning leaves the scanner as it is unless it is disabled. -/
theorem scanEnable_of_scan {c} (hc : startsScanning c = false) (h : s.scan env c = .ok scanner) :
    scanner.scanEnable = false := by
  cases c with
  | leSetScanParameters =>
    simp only [scan, leSetScanParameters, bind_eq_ok, require_eq_ok, exists_const,
      Bool.not_eq_true'] at h
    obtain ⟨hidle, -, -, h⟩ := h
    cases h
    exact hidle
  | leSetScanEnable enable | leSetExtendedScanEnable enable =>
    cases (show enable = false from hc)
    cases h
    rfl
  | leSetExtendedScanParameters =>
    simp only [scan, leSetExtendedScanParameters, bind_eq_ok, require_eq_ok, exists_const,
      Bool.not_eq_true'] at h
    obtain ⟨hidle, -, -, -, -, -, h⟩ := h
    cases h
    exact hidle

/-- A command of the scanner is refused, or answered with success. -/
theorem command_scan (s : LeController) (env : Env) (c : ScanCommand) :
    (s.command env (.scan c)).1.scanner = s.scanner ∨
      s.scan env c = .ok (s.command env (.scan c)).1.scanner ∧
        (s.command env (.scan c)).2 = [.event (.status .success)] := by
  unfold command
  cases hk : s.select (Command.scan c).kind with
  | none => exact .inl rfl
  | some =>
    obtain ⟨l, e, rfl⟩ := select_eq_some hk
    have hsame : (s.withKinds l e).scan env c = s.scan env c := rfl
    simp only [execute, hsame]
    cases hc : s.scan env c with
    | error => exact .inl rfl
    | ok => exact .inr ⟨rfl, rfl⟩

/-- A command that does not clear the history leaves the scanner as it is, or it is disabled. -/
theorem scanner_of_command {c} (hi : i.action = .command c) (hclears : s.clearsHistory i = false)
    (h : s.step i = .ok (s', out)) : s'.scanner = s.scanner ∨ s'.scanner.scanEnable = false := by
  obtain ⟨env, a⟩ := i
  cases (show a = _ from hi)
  by_cases hscan : ∃ c', c = .scan c'
  · obtain ⟨c', rfl⟩ := hscan
    have hst : (s.command env (.scan c')).1 = s' := congrArg Prod.fst (Except.ok.inj h)
    rcases command_scan s env c' with hsame | ⟨hok, hsuccess⟩
    · exact .inl (hst ▸ hsame)
    · right
      -- one that starts scanning would have cleared the history
      have hstarts : startsScanning c' = false := by simpa [clearsHistory, hsuccess] using hclears
      rw [hst] at hok
      exact scanEnable_of_scan hstarts hok
  · have heff := effect_of_step h
    cases heff with
    | reset => exact .inr rfl
    | scan _ _ c' => exact absurd ⟨c', rfl⟩ hscan
    | _ => exact .inl rfl

/-- The initiator goes on, or stops, and reports nothing. -/
theorem connectIncomingPdu_ok :
    Yields (s.connectIncomingPdu env advertising target connectable directed) fun r =>
      r.2.any isReport = false ∧ r.1.connectEnable = s.initiator.connectEnable ∧
      r.1.ownAddressType = s.initiator.ownAddressType := by
  exact .ite (fun _ => .bind fun _ _ => .ok ⟨rfl, rfl, rfl⟩) fun _ => .ok ⟨rfl, rfl, rfl⟩

theorem any_isReport_sendLeEvent {code event} (h : isReport (.event event) = false) :
    (s.sendLeEvent code event).any isReport = false := by
  unfold sendLeEvent
  split
  · simpa using h
  · rfl

/-- Periodic advertising is reported in other events. -/
theorem any_isReport_periodic {advertiser sid txPower interval} :
    Yields (s.incomingLePeriodicAdvertisingPdu env rssi advertiser sid txPower interval data)
      fun r => r.2.any isReport = false := by
  unfold incomingLePeriodicAdvertisingPdu
  refine .ite (fun _ => .ok rfl) fun _ => ?_
  split
  · exact .bind fun _ _ => .ok (any_isReport_sendLeEvent rfl)
  · refine .ok ?_
    simp only [reportPeriodic, periodicReports, List.any_flatMap, List.any_eq_false]
    intro sync _
    rw [List.any_eq_true]
    rintro ⟨f, -, hf⟩
    rw [any_isReport_sendLeEvent rfl] at hf
    cases hf

/-- Scan requests are answered with packets. -/
theorem any_isReport_scan (scanning advertising : AddressWithType) :
    (s.incomingLeScanPacket env scanning advertising).any isReport = false := by
  have hleg : ∀ resolved,
      (s.processIncomingLegacyScanRequest scanning resolved advertising).any isReport = false := by
    intro resolved
    unfold processIncomingLegacyScanRequest
    dsimp only
    split <;> rfl
  have hext : ∀ resolved advertiser,
      (s.processIncomingExtendedScanRequest scanning resolved advertising advertiser).any isReport =
        false := by
    intro resolved advertiser
    unfold processIncomingExtendedScanRequest
    dsimp only
    split <;> rfl
  simp [incomingLeScanPacket, hleg, hext]

/-- Connect requests are answered with a connection, a packet and the event of a set that ends. -/
theorem any_isReport_connect (initiating advertising : AddressWithType)
    (interval latency timeout : UInt16) :
    (s.incomingLeConnectPacket env initiating advertising interval latency timeout).2.any
      isReport = false := by
  unfold incomingLeConnectPacket
  dsimp only
  split
  · rfl
  · split
    · rfl
    · split
      · rfl
      · rw [List.any_append, any_isReport_sendLeEvent rfl]
        rfl

theorem any_isReport_connectComplete (initiating advertising : AddressWithType)
    (interval latency timeout : UInt16) :
    (s.incomingLeConnectCompletePacket env initiating advertising interval latency timeout).2.any
      isReport =
      false := by
  unfold incomingLeConnectCompletePacket
  split <;> rfl

/-- What the scanner makes of a packet. Only what it takes in is reported. -/
theorem takes_of_packet {p} (h : s.incomingPacket env bytes rssi p = .ok (s', out)) :
    ∃ reports, s.scanner.Takes bytes (s'.scanner, reports) ∧
      out.any isReport = reports.any isReport := by
  obtain ⟨source, destination, body⟩ := p
  cases body with
  | leLegacyAdvertisingPdu =>
    obtain ⟨a, b, ha, hb, h⟩ := afterPdu_eq_ok.mp h
    cases h
    exact ⟨a.2, takes_of_legacyPdu _ ha, by simp [(connectIncomingPdu_ok _ hb).1]⟩
  | leExtendedAdvertisingPdu aType tType connectable scannable directed sid txPower primaryPhy
    secondaryPhy interval data =>
      obtain ⟨a, b, ha, hb, h⟩ := afterPdu_eq_ok.mp h
      cases h
      exact ⟨a.2, takes_of_extendedPdu _ ha, by simp [(connectIncomingPdu_ok _ hb).1]⟩
  | lePeriodicAdvertisingPdu =>
    obtain ⟨y, hy, h⟩ := bind_eq_ok.mp h
    cases h
    exact ⟨[], .ignored, any_isReport_periodic _ hy⟩
  | leScan =>
    cases h
    exact ⟨[], .ignored, any_isReport_scan ..⟩
  | leScanResponse =>
    cases h
    exact ⟨_, takes_of_scanResponse .., rfl⟩
  | leConnect =>
    cases h
    exact ⟨[], .ignored, any_isReport_connect ..⟩
  | leConnectComplete =>
    cases h
    exact ⟨[], .ignored, any_isReport_connectComplete ..⟩

/-- What was reported is in the history, as long as the scanner is enabled, and was reported
once. -/
structure Remembers (tr : List (Input × List Output)) (s : LeController) : Prop where
  nodup : (reported tr).Nodup
  filter : s.scanner.scanEnable = true → s.scanner.filterDuplicates ≠ .disabled
  history : s.scanner.scanEnable = true → ∀ bytes ∈ reported tr, bytes ∈ s.scanner.history

theorem reported_snoc (tr : List (Input × List Output)) (e : Input × List Output) :
    reported (tr ++ [e]) = reported tr ++ (reportedBytes e).toList := by
  unfold reported
  cases h : reportedBytes e <;> simp [h]

variable {tr : List (Input × List Output)}

/-- A step that reports nothing and goes on with the same history. -/
theorem Remembers.silent (hs : Remembers tr s) (hn : reportedBytes (i, out) = none)
    (hcont : s.scanner.Continues s'.scanner)
    (hhistory : s'.scanner.scanEnable = true → ∀ bytes ∈ s.scanner.history,
      bytes ∈ s'.scanner.history) :
    Remembers (tr ++ [(i, out)]) s' := by
  have hrep : reported (tr ++ [(i, out)]) = reported tr := by simp [reported_snoc, hn]
  refine ⟨hrep ▸ hs.nodup, fun hena => ?_, fun hena bytes hmem => ?_⟩
  · rw [hcont.filterDuplicates]
    exact hs.filter (hcont.scanEnable hena)
  · rw [hrep] at hmem
    exact hhistory hena bytes (hs.history (hcont.scanEnable hena) bytes hmem)

/-- A PDU that the scanner takes is reported only if its bytes were not. -/
theorem Remembers.packet {p reports} (hs : Remembers tr s) (hi : i.action = .packet bytes rssi p)
    (htk : s.scanner.Takes bytes (s'.scanner, reports))
    (hany : out.any isReport = reports.any isReport) :
    Remembers (tr ++ [(i, out)]) s' := by
  by_cases hrep : out.any isReport = true
  · have hsent : reports ≠ [] := by
      rintro rfl
      rw [hrep] at hany
      cases hany
    have hen := htk.enabled hsent
    obtain ⟨hnew, hrecorded⟩ := htk.fresh (hs.filter hen) hsent
    have hreported : reported (tr ++ [(i, out)]) = reported tr ++ [bytes] := by
      simp [reported_snoc, reportedBytes, hi, hrep]
    refine ⟨?_, fun _ => ?_, fun _ bytes' hmem => ?_⟩
    · rw [hreported, ← List.concat_eq_append]
      exact hs.nodup.concat fun hold => hnew (hs.history hen bytes hold)
    · rw [htk.continues.filterDuplicates]
      exact hs.filter hen
    · rw [hreported, List.mem_append, List.mem_singleton] at hmem
      rcases hmem with hold | rfl
      · exact htk.history bytes' (hs.history hen bytes' hold)
      · exact hrecorded
  · refine hs.silent ?_ htk.continues fun _ => htk.history
    simp [reportedBytes, hi, hrep]

/-- A step that does not clear the history. -/
theorem Remembers.step (hs : Remembers tr s) (hclears : s.clearsHistory i = false)
    (h : s.step i = .ok (s', out)) : Remembers (tr ++ [(i, out)]) s' := by
  cases ha : i.action with
  | command =>
    have hn : reportedBytes (i, out) = none := by simp [reportedBytes, ha]
    rcases scanner_of_command ha hclears h with hsame | hdis
    · exact hs.silent hn (hsame ▸ .refl _) fun _ bytes hmem => hsame ▸ hmem
    · -- nothing is said of a scanner that is disabled
      have hrep : reported (tr ++ [(i, out)]) = reported tr := by simp [reported_snoc, hn]
      have hnever : s'.scanner.scanEnable ≠ true := by simp [hdis]
      exact ⟨hrep ▸ hs.nodup, fun hena => absurd hena hnever, fun hena => absurd hena hnever⟩
  | packet bytes rssi p =>
    have hpkt : s.incomingPacket i.env bytes rssi p = .ok (s', out) := by
      simpa only [LeController.step, ha] using h
    obtain ⟨reports, htk, hany⟩ := takes_of_packet hpkt
    exact hs.packet ha htk hany
  | tick =>
    have hn : reportedBytes (i, out) = none := by simp [reportedBytes, ha]
    have htick : s.tick i.env = .ok (s', out) := by simpa only [LeController.step, ha] using h
    obtain ⟨r, -, h⟩ := bind_eq_ok.mp htick
    cases h
    refine hs.silent hn (continues_of_leScanning i.env.now) fun hena bytes hmem => ?_
    have hscans := (continues_of_leScanning i.env.now).scanEnable hena
    refine mem_history_leScanning hmem hena fun hends => ?_
    simp [clearsHistory, ha, hscans, hends] at hclears

/-- **Between two clearings of the history no two PDUs with the same bytes are reported.** -/
theorem reports_distinct (hfilter : s.scanner.filterDuplicates ≠ .disabled)
    (h : machine.Run (fun s i => s.clearsHistory i = false) s tr s') : (reported tr).Nodup := by
  have hremembers : Remembers tr s' := by
    refine h.invariant_trace Remembers ?_ fun tr s i s' out hs hclears hstep =>
      hs.step hclears hstep
    exact ⟨List.nodup_nil, fun _ => hfilter, fun _ _ hmem => absurd hmem List.not_mem_nil⟩
  exact hremembers.nodup

/-- An advertising PDU of the device 7 arrives. -/
def hears (bytes : List UInt8) : Input :=
  ⟨.at 0,
    .packet bytes 0
    ⟨7, 0, .leLegacyAdvertisingPdu .publicDeviceAddress .publicDeviceAddress .advInd []⟩⟩

/-- The second of two PDUs with the same bytes is not reported. -/
theorem reports_distinct_scanning : ∃ tr₁ s tr₂ s', machine.Run (fun _ _ => True) (new 1 {}) tr₁ s ∧
    machine.Run (fun s i => s.clearsHistory i = false) s tr₂ s' ∧ reported tr₂ = [[1], [2]] ∧
    (reported tr₂).Nodup := by
  have hx : machine.ExecTo (fun _ s => s.scanner.filterDuplicates ≠ .disabled ∧
      machine.Meets (fun s i => s.clearsHistory i = false) s [hears [1], hears [1], hears [2]] ∧
      machine.ExecTo (fun tr _ => reported tr = [[1], [2]]) s [hears [1], hears [1], hears [2]])
      (new 1 {})
        [.host (.setEventMask 0x3fffffffffffffff), .host (.scan (.leSetScanEnable true true))] := by
    decide +kernel
  obtain ⟨tr₁, s, hrun, hfil, hmeets, hx⟩ := machine.exists_free_run hx
  obtain ⟨tr₂, s', hrun₂, hrep⟩ := machine.exists_run hmeets hx
  exact ⟨tr₁, s, tr₂, s', hrun, hrun₂, hrep, reports_distinct hfil hrun₂⟩

/-! ## The random address -/

/-- Source: `link_layer_packets.pdl` `LeLegacyAdvertisingPdu`, `LeExtendedAdvertisingPdu` -/
def isAdvertisingPdu : Body → Bool
  | .leLegacyAdvertisingPdu .. | .leExtendedAdvertisingPdu .. => true
  | _ => false

/-- The random address may be used. -/
def usesRandomAddress : OwnAddressType → Bool
  | .randomDeviceAddress | .resolvableOrRandomAddress => true
  | .publicDeviceAddress | .resolvableOrPublicAddress => false

/-- The scanner and the initiator have the random address they may use. -/
structure HasRandomAddress (s : LeController) : Prop where
  scanner : s.scanner.scanEnable = true → usesRandomAddress s.scanner.ownAddressType = true →
    s.randomAddress ≠ Address.kEmpty
  initiator : s.initiator.connectEnable = true →
    usesRandomAddress s.initiator.ownAddressType = true →
    s.randomAddress ≠ Address.kEmpty

/-- The own address type of a connection to be created. -/
def ownAddressTypeOf : InitiateCommand → OwnAddressType
  | .leCreateConnection _ _ ownAddressType _ => ownAddressType
  | .leExtendedCreateConnection _ ownAddressType _ _ _ => ownAddressType

/-- The connection that the host has created. -/
def createdConnection : Action → Option InitiateCommand
  | .command (.initiate c) => some c
  | _ => none

/-- A connection from a resolvable or random address is created only when the random address is
set. -/
def BringsRandomAddress (s : LeController) (i : Input) : Prop :=
  ∀ c ∈ createdConnection i.action, ownAddressTypeOf c = .resolvableOrRandomAddress →
    s.randomAddress ≠ Address.kEmpty

instance BringsRandomAddress.decidable (s : LeController) (i : Input) :
    Decidable (BringsRandomAddress s i) :=
  @Option.decidableForallMem _ _ (fun _ => inferInstance) (createdConnection i.action)

/-- The random address is kept, but for a reset. -/
theorem randomAddress_step (h : s.step i = .ok (s', out))
    (hset : s.randomAddress ≠ Address.kEmpty) :
    s' = s.reset ∨ s'.randomAddress ≠ Address.kEmpty := by
  rcases (effect_of_step h).ownAddress with hsame | ⟨-, hres⟩ | ⟨a, -, ha⟩
  · exact .inr (hsame ▸ hset)
  · exact .inl hres
  · simp only [leSetRandomAddress, bind_eq_ok, require_eq_ok, exists_const, Except.ok.injEq,
      decide_eq_true_eq] at ha
    obtain ⟨-, hne, rfl⟩ := ha
    exact .inr hne

theorem checkScanAddress_eq_ok : s.checkScanAddress = .ok () ↔
    (usesRandomAddress s.scanner.ownAddressType = true → s.randomAddress ≠ Address.kEmpty) := by
  unfold checkScanAddress
  cases s.scanner.ownAddressType <;> simp [usesRandomAddress]

/-- A scanner that is enabled was checked. -/
theorem randomAddress_of_scan {c} (h : s.scan env c = .ok scanner)
    (hena : scanner.scanEnable = true) (huses : usesRandomAddress scanner.ownAddressType = true) :
    s.randomAddress ≠ Address.kEmpty := by
  by_cases hstarts : startsScanning c = true
  · cases c with
    | leSetScanParameters | leSetExtendedScanParameters =>
      cases hstarts
    | leSetScanEnable enable =>
      cases (show enable = true from hstarts)
      obtain ⟨⟨⟩, hchk, h⟩ := bind_eq_ok.mp h
      cases h
      exact checkScanAddress_eq_ok.mp hchk huses
    | leSetExtendedScanEnable enable filterDuplicates duration period =>
      cases (show enable = true from hstarts)
      refine (?_ : Yields (s.leSetExtendedScanEnable env true filterDuplicates duration period)
        fun scanner => usesRandomAddress scanner.ownAddressType = true →
        s.randomAddress ≠ Address.kEmpty) _ h huses
      exact .bind fun _ _ => .bind fun _ _ => .bind fun _ hchk =>
        .ok (checkScanAddress_eq_ok.mp hchk)
  · have hdis := scanEnable_of_scan (Bool.eq_false_of_not_eq_true hstarts) h
    rw [hdis] at hena
    cases hena

/-- The scanner after a step goes on, or it is disabled, or it was checked. -/
theorem scanner_step (h : s.step i = .ok (s', out)) :
    s'.scanner.scanEnable = false ∨ s.scanner.Continues s'.scanner ∨
      (usesRandomAddress s'.scanner.ownAddressType = true → s.randomAddress ≠ Address.kEmpty) := by
  rcases (effect_of_step h).scanner
    with hsame | ⟨-, hres⟩ | ⟨c, -, hc⟩ | ⟨_, _, _, _, _, _, _, hr⟩ |
    ⟨_, _, _, _, _, _, _, _, _, _, _, _, _, _, hr⟩ | ⟨bytes, rssi, a, data, hr⟩ | ⟨-, hr⟩
  · exact .inr (.inl (hsame ▸ .refl _))
  · exact .inl (hres ▸ rfl)
  · by_cases hena : s'.scanner.scanEnable = true
    · exact .inr (.inr fun huses => randomAddress_of_scan hc hena huses)
    · exact .inl (Bool.eq_false_of_not_eq_true hena)
  · exact .inr (.inl (takes_of_legacyPdu _ hr).continues)
  · exact .inr (.inl (takes_of_extendedPdu _ hr).continues)
  · exact .inr (.inl (hr ▸ (takes_of_scanResponse bytes rssi a data).continues))
  · exact .inr (.inl (hr ▸ continues_of_leScanning i.env.now))

/-- A connection is created with a random address that is set, unless the address may be
resolvable. -/
theorem initiate_ok {c} : Yields (s.initiate env c) fun initiator =>
    initiator.ownAddressType = ownAddressTypeOf c ∧
      (ownAddressTypeOf c = .randomDeviceAddress → s.randomAddress ≠ Address.kEmpty) := by
  have hset : ∀ {own : OwnAddressType} {u}, require
      (own ≠ .randomDeviceAddress ∨ s.randomAddress ≠ Address.kEmpty)
      .invalidHciCommandParameters = .ok u → own = .randomDeviceAddress →
        s.randomAddress ≠ Address.kEmpty := by
    intro own u h hown
    simpa [hown] using h
  cases c with
  | leCreateConnection =>
    iterate 8 refine .bind fun _ _ => ?_
    exact .bind fun _ hrnd => .bind fun _ _ => .ok ⟨rfl, hset hrnd⟩
  | leExtendedCreateConnection =>
    iterate 5 refine .bind fun _ _ => ?_
    exact .bind fun _ hrnd => .bind fun _ _ => .ok ⟨rfl, hset hrnd⟩

/-- The initiator after a step is as it was, or disabled, or was just enabled. -/
theorem initiator_step (h : s.step i = .ok (s', out)) : s'.initiator.connectEnable = false ∨
    (s'.initiator.connectEnable = s.initiator.connectEnable ∧
      s'.initiator.ownAddressType = s.initiator.ownAddressType) ∨
    ∃ c, i.action = .command (.initiate c) ∧ s.initiate i.env c = .ok s'.initiator := by
  rcases (effect_of_step h).initiator
    with hsame | ⟨-, hres⟩ | ⟨c, hi, hc⟩ | hcancel | ⟨_, _, _, _, _, hr⟩ |
    ⟨initiating, advertising, interval, latency, timeout, hr⟩
  · exact .inr (.inl ⟨hsame ▸ rfl, hsame ▸ rfl⟩)
  · exact .inl (hres ▸ rfl)
  · exact .inr (.inr ⟨c, hi, hc⟩)
  · exact .inl (hcancel ▸ rfl)
  · exact .inr (.inl (connectIncomingPdu_ok _ hr).2)
  · rw [← hr]
    unfold incomingLeConnectCompletePacket
    split
    · exact .inl rfl
    · exact .inr (.inl ⟨rfl, rfl⟩)

/-- A step keeps the addresses that may be used. -/
theorem HasRandomAddress.step (hs : HasRandomAddress s) (hi : BringsRandomAddress s i)
    (h : s.step i = .ok (s', out)) : HasRandomAddress s' := by
  by_cases hres : s' = s.reset
  · rw [hres]
    exact ⟨nofun, nofun⟩
  · have hkeep : s.randomAddress ≠ Address.kEmpty → s'.randomAddress ≠ Address.kEmpty :=
      fun hset => (randomAddress_step h hset).resolve_left hres
    constructor
    · intro hena huses
      rcases scanner_step h with hdis | hcont | hchk
      · rw [hdis] at hena
        cases hena
      · exact hkeep (hs.scanner (hcont.scanEnable hena) (hcont.ownAddressType ▸ huses))
      · exact hkeep (hchk huses)
    · intro hena huses
      rcases initiator_step h with hdis | ⟨hsame, hown⟩ | ⟨c, hc, hok⟩
      · rw [hdis] at hena
        cases hena
      · exact hkeep (hs.initiator (hsame ▸ hena) (hown ▸ huses))
      · obtain ⟨hown, hrnd⟩ := initiate_ok _ hok
        rw [hown] at huses
        cases htype : ownAddressTypeOf c with
        | publicDeviceAddress | resolvableOrPublicAddress =>
          rw [htype] at huses
          cases huses
        | randomDeviceAddress => exact hkeep (hrnd htype)
        | resolvableOrRandomAddress => exact hkeep (hi c (by rw [hc]; rfl) htype)

/-- The assertions of a choice between addresses. -/
theorem chooseAddress_ne_assertion {own : OwnAddressType} {resolvable : Option AddressWithType}
    (h : usesRandomAddress own = true → s.randomAddress ≠ Address.kEmpty) :
    s.chooseAddress own resolvable ≠ .error .assertion := by
  cases own with
  | publicDeviceAddress | resolvableOrPublicAddress => nofun
  | randomDeviceAddress | resolvableOrRandomAddress =>
    have hset := h rfl
    exact map_ne_error_iff.mpr (assert_ne_assertion_iff.mpr (by simpa using hset))

theorem scanRequest_ne_assertion
    (h : usesRandomAddress scanner.ownAddressType = true → s.randomAddress ≠ Address.kEmpty) :
    s.scanRequest env scanner advertising resolved scannable shouldSend request ≠
      .error .assertion := by
  unfold scanRequest
  split
  · exact map_ne_error_iff.mpr (chooseAddress_ne_assertion h)
  · nofun

theorem HasRandomAddress.connectIncomingPdu (hs : HasRandomAddress s)
    (advertising target : AddressWithType) (connectable directed : Bool) :
    s.connectIncomingPdu env advertising target connectable directed ≠ .error .assertion := by
  unfold LeController.connectIncomingPdu
  dsimp only
  split
  · rename_i hconnects
    simp only [Bool.and_eq_true] at hconnects
    exact map_ne_error_iff.mpr (chooseAddress_ne_assertion (hs.initiator hconnects.1.1.1))
  · nofun

theorem HasRandomAddress.scanRequest (hs : HasRandomAddress s)
    {f : Scanner × List Output → Scanner × List Output} (hena : s.scanner.scanEnable = true) : (do
      let r ← s.scanRequest env (s.scanner.record bytes) advertising resolved scannable
          shouldSend request
      .ok (f r) : Except Panic (Scanner × List Output)) ≠ .error .assertion := by
  refine map_ne_error_iff.mpr (scanRequest_ne_assertion fun huses => ?_)
  rw [Scanner.record_ownAddressType] at huses
  exact hs.scanner hena huses

theorem HasRandomAddress.legacyPdu (hs : HasRandomAddress s) (bytes : List UInt8) (rssi : UInt8)
    (advertising target : AddressWithType) (type : LegacyAdvertisingType) (data : List UInt8) :
    s.scanIncomingLeLegacyAdvertisingPdu env bytes rssi advertising target type data ≠
      .error .assertion := by
  unfold scanIncomingLeLegacyAdvertisingPdu
  by_cases hscans :
    (s.scanner.scanEnable && s.scannerAccepts env target (s.resolved env.aes advertising)
      (type = .advDirectInd)) = true
  · rw [if_pos hscans]
    exact hs.scanRequest (Bool.and_eq_true_iff.mp hscans).1
  · rw [if_neg hscans]
    nofun

theorem HasRandomAddress.extendedPdu (hs : HasRandomAddress s) (bytes : List UInt8) (rssi : UInt8)
    (advertising target : AddressWithType) (connectable scannable directed : Bool)
    (sid txPower : UInt8)
    (primaryPhy secondaryPhy : PhyType) (interval : Nat) (data : List UInt8) :
    s.scanIncomingLeExtendedAdvertisingPdu env bytes rssi advertising target connectable
      scannable directed sid txPower primaryPhy secondaryPhy interval data ≠ .error .assertion := by
  unfold scanIncomingLeExtendedAdvertisingPdu
  by_cases hscans :
    (s.scanner.scanEnable && s.extendedAdvertisingInUse && s.scannerHears primaryPhy secondaryPhy &&
      s.scannerAccepts env target (s.resolved env.aes advertising) directed) = true
  · rw [if_pos hscans]
    simp only [Bool.and_eq_true] at hscans
    exact hs.scanRequest hscans.1.1.1
  · rw [if_neg hscans]
    nofun

/-- Both handlers of a PDU have the addresses they use. -/
theorem HasRandomAddress.afterPdu {scanned connected} (hscanned : scanned ≠ .error .assertion)
    (hconn : connected ≠ .error .assertion) : s.afterPdu scanned connected ≠ .error .assertion :=
  bind_ne_error_iff.mpr ⟨hscanned, fun _ _ => map_ne_error_iff.mpr hconn⟩

/-- **The assertions that the random address is set hold whatever is received.** -/
theorem random_address_set {own : Address} {properties : ControllerProperties}
    (h : machine.Run BringsRandomAddress (new own properties) tr s) (env : Env) (bytes : List UInt8)
    (rssi : UInt8) (p : Packet) (hp : isAdvertisingPdu p.body = true) :
    s.step ⟨env, .packet bytes rssi p⟩ ≠ .error .assertion := by
  have hinit : HasRandomAddress (new own properties) := by
    constructor
    · intro hena
      cases hena
    · intro hena
      cases hena
  have hs : HasRandomAddress s := by
    refine h.invariant HasRandomAddress hinit ?_
    intro s i s' out hs hi hstep
    exact hs.step hi hstep
  obtain ⟨source, destination, body⟩ := p
  cases body with
  | leLegacyAdvertisingPdu =>
    exact HasRandomAddress.afterPdu (hs.legacyPdu _ _ _ _ _ _) (hs.connectIncomingPdu _ _ _ _)
  | leExtendedAdvertisingPdu aType tType connectable scannable directed sid txPower primaryPhy
    secondaryPhy interval data =>
      exact HasRandomAddress.afterPdu (hs.extendedPdu _ _ _ _ _ _ _ _ _ _ _ _ _)
        (hs.connectIncomingPdu _ _ _ _)
  | _ => cases hp

/-- The host has a connection to the device 7 created from a resolvable or random address, by the
filter accept list. -/
def createsConnection : List Input :=
  [.host (.filterAcceptList (.leAddDeviceToFilterAcceptList .publicAddress 7)),
    .host (.initiate (.leCreateConnection .useFilterAcceptListWithPeerAddress .empty
      .resolvableOrRandomAddress
      { scanInterval := 16, scanWindow := 16, connectionIntervalMin := 24,
        connectionIntervalMax := 24,
        supervisionTimeout := 100 }))]

/-- With a random address the initiator answers the PDU of the device. -/
theorem random_address_set_connecting : ∃ tr s, machine.Run BringsRandomAddress (new 1 {}) tr s ∧
    s.initiator.connectEnable = true ∧ s.initiator.ownAddressType = .resolvableOrRandomAddress ∧
    s.step (hears [1]) ≠ .error .assertion := by
  have hx : machine.ExecTo (fun _ s => s.initiator.connectEnable = true ∧
      s.initiator.ownAddressType = .resolvableOrRandomAddress)
      (new 1 {}) (.host (.leSetRandomAddress 9) :: createsConnection) := by
    decide +kernel
  obtain ⟨tr, s, hrun, hena, hown⟩ := machine.exists_run (C := BringsRandomAddress)
    (by decide +kernel) hx
  exact ⟨tr, s, hrun, hena, hown, random_address_set hrun (.at 0) [1] 0 _ rfl⟩

/-- Without a random address the connection is created, and the PDU of the device aborts. -/
theorem create_connection_aborts : ∃ tr s, machine.Run (fun _ _ => True) (new 1 {}) tr s ∧
    s.step (hears [1]) = .error .assertion := by
  exact machine.exists_run
    (show machine.Meets _ _ createsConnection from by decide +kernel) (by decide +kernel)

end LeController

end RootCanal.Gap
