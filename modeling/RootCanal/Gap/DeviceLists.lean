import RootCanal.Gap.PeriodicSyncs
import RootCanal.Gap.ResolvingList
import RootCanal.Gap.SetEffects

/-!
# The lists of devices over a run

The resolving list and the periodic advertiser list are bounded and without duplicates, and no list
changes under the handlers that read it.  The filter accept list is not without duplicates: a device
may be added again, and is then there as often as it was added.

* **`lists_sound`** — the sizes, the entries, and when a list does not change.
* `count_entries` — how often the filter accept list has a device, from the commands alone.
* **`behaves_as_set_iff`** — a device is on the list exactly if it was added last, unless it was
  removed last and had been added more often.

Source: `le_controller.cc`
-/

namespace RootCanal.Gap

open Lib RootCanal.Hci

namespace LeController

variable {s s' : LeController} {env : Env} {i : Input} {out : List Output}

/-! ## Who reads the filter accept list -/

/-- The controller with another filter accept list. -/
def withFilterAcceptList (s : LeController) (leFilterAcceptList : List FilterAcceptListEntry) :
    LeController :=
  { s with leFilterAcceptList }

/-- Whether an advertiser with this policy accepts a request may depend on the filter accept
list. -/
def PolicyConsults (s : LeController) (policy : AdvertisingFilterPolicy) : Prop :=
  ∃ entries directed peer resolved,
    s.acceptsScanner policy resolved ≠ (s.withFilterAcceptList entries).acceptsScanner
      policy resolved ∨
    s.acceptsInitiator directed peer policy resolved ≠
      (s.withFilterAcceptList entries).acceptsInitiator directed peer policy resolved

/-- Whether a received PDU is accepted or ignored may depend on the filter accept list. -/
inductive Consults (s : LeController) : Prop
  | legacyAdvertiser : s.legacyAdvertiser.advertisingEnable = true →
      s.PolicyConsults s.legacyAdvertiser.advertisingFilterPolicy → Consults s
  | advertisingSet (handle : UInt8) (a : ExtendedAdvertiser) :
      s.extendedAdvertisers[handle]? = some a →
      a.advertisingEnable = true → s.PolicyConsults a.advertisingFilterPolicy → Consults s
  | scanner (entries : List FilterAcceptListEntry) (env : Env) (target resolved : AddressWithType)
      (directed : Bool) : s.scanner.scanEnable = true →
      s.scannerAccepts env target resolved directed ≠
        (s.withFilterAcceptList entries).scannerAccepts env target resolved directed → Consults s
  | initiator (entries : List FilterAcceptListEntry) (env : Env) (target resolved : AddressWithType)
      (directed : Bool) : s.initiator.connectEnable = true →
      s.initiatesTo env target resolved directed ≠
        (s.withFilterAcceptList entries).initiatesTo env target resolved directed → Consults s

theorem PolicyConsults.ne_allDevices {policy} (h : s.PolicyConsults policy) :
    policy ≠ .allDevices := by
  rintro rfl
  obtain ⟨_, _, _, _, hscan | hconn⟩ := h
  · exact hscan rfl
  · exact hconn rfl

theorem Consults.busy (h : Consults s) : s.filterAcceptListBusy = true := by
  unfold filterAcceptListBusy
  simp only [Bool.or_eq_true, Bool.and_eq_true, decide_eq_true_eq]
  cases h with
  | legacyAdvertiser hen hpol => exact .inl (.inl (.inl ⟨hen, hpol.ne_allDevices⟩))
  | advertisingSet handle a ha hen hpol =>
    refine .inl (.inl (.inr (HashMap.any_eq_true.mpr ⟨handle, a, ha, ?_⟩)))
    simp [hen, hpol.ne_allDevices]
  | scanner entries env target resolved directed hen hne =>
    refine .inl (.inr ⟨hen, ?_⟩)
    unfold scannerAccepts withFilterAcceptList at hne
    cases hpol : s.scanner.scanFilterPolicy with
    | filterAcceptListOnly => exact .inl rfl
    | filterAcceptListAndInitiatorsIdentity => exact .inr rfl
    | _ =>
      simp only [hpol] at hne
      exact absurd rfl hne
  | initiator entries env target resolved directed hen hne =>
    refine .inr ⟨hen, ?_⟩
    unfold initiatesTo withFilterAcceptList at hne
    cases hpol : s.initiator.initiatorFilterPolicy with
    | useFilterAcceptListWithPeerAddress => rfl
    | _ =>
      simp only [hpol] at hne
      exact absurd rfl hne

/-- What a command of the filter accept list makes of it. -/
def FilterAcceptListCommand.apply (entries : List FilterAcceptListEntry) :
    FilterAcceptListCommand → List FilterAcceptListEntry
  | .leClearFilterAcceptList => []
  | .leAddDeviceToFilterAcceptList addressType address => entries ++ [{ addressType, address }]
  | .leRemoveDeviceFromFilterAcceptList addressType address =>
    entries.eraseP (·.isOf addressType address)

/-- A command is accepted only while the filter accept list is not busy. -/
theorem filterAcceptList_ok {c} : Yields (s.filterAcceptList c) fun entries =>
    s.filterAcceptListBusy = false ∧
      entries = FilterAcceptListCommand.apply s.leFilterAcceptList c := by
  cases c with
  | leClearFilterAcceptList | leRemoveDeviceFromFilterAcceptList =>
    exact .bind fun _ hidle => .ok ⟨by simpa using require_eq_ok.mp hidle, rfl⟩
  | leAddDeviceToFilterAcceptList =>
    exact .bind fun _ hidle => .bind fun _ _ => .ok ⟨by simpa using require_eq_ok.mp hidle, rfl⟩

/-! ## The resolving list and the periodic advertiser list -/

/-- What the entries of the resolving list are told apart by. -/
def identity (e : ResolvingListEntry) : (PeerAddressType × Address) × Irk :=
  ((e.peerIdentityAddressType, e.peerIdentityAddress), e.peerIrk)

/-- Two entries are for different peers and have different keys, or none. -/
def Apart (a b : (PeerAddressType × Address) × Irk) : Prop :=
  a.1 ≠ b.1 ∧ (a.2 = b.2 → irkIsZero a.2 = true)

/-- The lists are bounded and without duplicates. -/
structure ListsSound (s : LeController) : Prop where
  resolvingSize : s.leResolvingList.length ≤ s.properties.leResolvingListSize.toNat
  resolvingApart : (s.leResolvingList.map identity).Pairwise Apart
  periodicSize : s.lePeriodicAdvertiserList.length ≤ s.properties.lePeriodicAdvertiserListSize.toNat
  periodicNodup : s.lePeriodicAdvertiserList.Nodup

theorem setFirstPrivacyMode_identity (type : PeerAddressType) (address : Address)
    (mode : PrivacyMode) (l : List ResolvingListEntry) :
    (setFirstPrivacyMode type address mode l).map identity = l.map identity := by
  induction l with
  | nil => rfl
  | cons e _ ih =>
    unfold setFirstPrivacyMode
    split
    · rfl
    · rw [List.map_cons, ih, List.map_cons]

/-- A command of the resolving list keeps it bounded and its entries apart. -/
theorem ListsSound.resolvingList {c} (hs : ListsSound s) : Yields (s.resolvingList c) fun p =>
    p.leResolvingList.length ≤ s.properties.leResolvingListSize.toNat ∧
    (p.leResolvingList.map identity).Pairwise Apart := by
  intro p h
  cases c with
  | leAddDeviceToResolvingList type address peerIrk localIrk =>
    obtain ⟨-, hsize, hnew, rfl⟩ := leAddDeviceToResolvingList_eq_ok.mp h
    refine ⟨by simpa using hsize, ?_⟩
    rw [List.map_append, List.pairwise_append]
    refine ⟨hs.resolvingApart, List.pairwise_singleton _ _, ?_⟩
    intro a ha b hb
    obtain ⟨e, he, rfl⟩ := List.mem_map.mp ha
    rw [List.mem_singleton.mp hb]
    have hne := List.any_eq_false.mp hnew e he
    simp only [ResolvingListEntry.isOf, Bool.or_eq_true, decide_eq_true_eq, Bool.and_eq_true,
      Bool.not_eq_true', not_or, not_and, Bool.not_eq_false] at hne
    refine ⟨fun heq => hne.1 (congrArg Prod.fst heq) (congrArg Prod.snd heq), fun heq => ?_⟩
    rw [show (identity e).2 = peerIrk from heq]
    exact hne.2 heq
  | leRemoveDeviceFromResolvingList =>
    obtain ⟨-, -, rfl⟩ := leRemoveDeviceFromResolvingList_eq_ok.mp h
    exact ⟨(List.length_eraseP_le).trans hs.resolvingSize,
      hs.resolvingApart.sublist (List.eraseP_sublist.map identity)⟩
  | leClearResolvingList =>
    obtain ⟨-, rfl⟩ := leClearResolvingList_eq_ok.mp h
    exact ⟨Nat.zero_le _, .nil⟩
  | leSetAddressResolutionEnable =>
    obtain ⟨-, rfl⟩ := leSetAddressResolutionEnable_eq_ok.mp h
    exact ⟨hs.resolvingSize, hs.resolvingApart⟩
  | leSetPrivacyMode type address mode =>
    obtain ⟨-, -, rfl⟩ := leSetPrivacyMode_eq_ok.mp h
    have hmap := setFirstPrivacyMode_identity type address mode s.leResolvingList
    refine ⟨?_, hmap ▸ hs.resolvingApart⟩
    have hlen := congrArg List.length hmap
    simp only [List.length_map] at hlen
    exact hlen ▸ hs.resolvingSize

/-- A command of the periodic advertiser list keeps it bounded and without duplicates. -/
theorem ListsSound.periodicAdvertiserList {c} (hs : ListsSound s) :
    Yields (s.periodicAdvertiserList c) fun l =>
    l.length ≤ s.properties.lePeriodicAdvertiserListSize.toNat ∧ l.Nodup := by
  cases c with
  | leAddDeviceToPeriodicAdvertiserList =>
    refine .bind fun _ _ => .bind fun _ hsize => .bind fun _ hnew => .ok ⟨?_, ?_⟩
    · simpa using of_decide_eq_true (require_eq_ok.mp hsize)
    · refine List.nodup_append.mpr ⟨hs.periodicNodup, List.nodup_singleton _, ?_⟩
      rintro a ha b hb rfl
      rw [List.mem_singleton.mp hb] at ha
      exact of_decide_eq_true (require_eq_ok.mp hnew) ha
  | leRemoveDeviceFromPeriodicAdvertiserList =>
    exact .bind fun _ _ => .bind fun _ _ =>
      .ok ⟨(List.length_erase_le).trans hs.periodicSize, hs.periodicNodup.erase _⟩
  | leClearPeriodicAdvertiserList => exact .bind fun _ _ => .ok ⟨Nat.zero_le _, List.nodup_nil⟩

theorem ListsSound.step (hs : ListsSound s) (h : s.step i = .ok (s', out)) : ListsSound s' := by
  have hprop := (effect_of_step h).properties.2
  have hres : s'.leResolvingList.length ≤ s.properties.leResolvingListSize.toNat ∧
      (s'.leResolvingList.map identity).Pairwise Apart := by
    rcases (effect_of_step h).privacy with hsame | ⟨-, rfl⟩ | ⟨c, -, hc⟩
    · rw [hsame]
      exact ⟨hs.resolvingSize, hs.resolvingApart⟩
    · exact ⟨Nat.zero_le _, .nil⟩
    · exact hs.resolvingList _ hc
  have hper : s'.lePeriodicAdvertiserList.length ≤ s.properties.lePeriodicAdvertiserListSize.toNat ∧
      s'.lePeriodicAdvertiserList.Nodup := by
    rcases (effect_of_step h).advertiserList with hsame | ⟨-, rfl⟩ | ⟨c, -, hc⟩
    · rw [hsame]
      exact ⟨hs.periodicSize, hs.periodicNodup⟩
    · exact ⟨Nat.zero_le _, List.nodup_nil⟩
    · exact hs.periodicAdvertiserList _ hc
  rw [← hprop] at hres hper
  exact ⟨hres.1, hres.2, hper.1, hper.2⟩

/-- **The lists are bounded and without duplicates, and do not change under those who read
them.** -/
theorem lists_sound {own : Address} {properties : ControllerProperties}
    {tr : List (Input × List Output)}
    (h : machine.Run (fun _ _ => True) (new own properties) tr s) :
    s.leResolvingList.length ≤ properties.leResolvingListSize.toNat ∧
    s.leResolvingList.Pairwise (fun a b =>
      (a.peerIdentityAddressType, a.peerIdentityAddress) ≠
        (b.peerIdentityAddressType, b.peerIdentityAddress) ∧
      (a.peerIrk = b.peerIrk → irkIsZero a.peerIrk = true)) ∧
    s.lePeriodicAdvertiserList.length ≤ properties.lePeriodicAdvertiserListSize.toNat ∧
    s.lePeriodicAdvertiserList.Nodup ∧
    ∀ i s' out, s.step i = .ok (s', out) → i.action ≠ .command .reset →
      (s.synchronizing ≠ none → s'.lePeriodicAdvertiserList = s.lePeriodicAdvertiserList) ∧
      (Consults s → s'.leFilterAcceptList = s.leFilterAcceptList) := by
  have hs : ListsSound s ∧ s.properties = properties := by
    refine h.invariant (fun s => ListsSound s ∧ s.properties = properties) ?_ ?_
    · exact ⟨⟨Nat.zero_le _, .nil, Nat.zero_le _, List.nodup_nil⟩, rfl⟩
    · intro s i s' out hs _ hstep
      exact ⟨hs.1.step hstep, (effect_of_step hstep).properties.2.trans hs.2⟩
  obtain ⟨hs, rfl⟩ := hs
  refine ⟨hs.resolvingSize, List.pairwise_map.mp hs.resolvingApart, hs.periodicSize,
    hs.periodicNodup, ?_⟩
  intro i s' out hstep hi
  refine ⟨list_of_pending hstep fun hr => hi hr.1, fun hcon => ?_⟩
  rcases (effect_of_step hstep).acceptList with hsame | ⟨hr, -⟩ | ⟨c, -, hc⟩
  · exact hsame
  · exact absurd hr hi
  · exact absurd (hcon.busy.symm.trans (filterAcceptList_ok _ hc).1) (by decide)

/-- The host puts two devices on the resolving list. -/
theorem lists_sound_resolving : ∃ tr s, machine.Run (fun _ _ => True) (new 1 {}) tr s ∧
    s.leResolvingList.length = 2 ∧ s.leResolvingList.length ≤ 16 := by
  refine machine.run_and
    [.host (.resolvingList (.leAddDeviceToResolvingList .publicDeviceOrIdentityAddress 5 0 0)),
      .host (.resolvingList (.leAddDeviceToResolvingList .publicDeviceOrIdentityAddress 5 8 9)),
      .host (.resolvingList (.leAddDeviceToResolvingList .publicDeviceOrIdentityAddress 6 0 0))]
    (by decide +kernel) (by decide +kernel) fun tr s hrun _ => ?_
  exact (lists_sound hrun).1

/-! ## The filter accept list and its commands -/

/-- The device is on the filter accept list.
Source: `LeFilterAcceptListContainsDevice` -/
def containsDevice (s : LeController) (addressType : FilterAcceptListAddressType)
    (address : Address) : Bool :=
  s.leFilterAcceptList.any (·.isOf addressType address)

/-- The command of the filter accept list that is accepted in a step. A reset clears the list
too. -/
def acceptedCommand (e : Input × List Output) : Option FilterAcceptListCommand :=
  match e.1.action with
  | .command (.filterAcceptList c) => if e.2 = [.event (.status .success)] then some c else none
  | .command .reset => some .leClearFilterAcceptList
  | _ => none

/-- The commands of the filter accept list that are accepted in a run. -/
def acceptedCommands (tr : List (Input × List Output)) : List FilterAcceptListCommand :=
  tr.filterMap acceptedCommand

variable {type : FilterAcceptListAddressType} {address : Address}

/-- The command concerns a device. -/
def concerns (type : FilterAcceptListAddressType) (address : Address) :
    FilterAcceptListCommand → Bool
  | .leClearFilterAcceptList => true
  | .leAddDeviceToFilterAcceptList t a | .leRemoveDeviceFromFilterAcceptList t a =>
    FilterAcceptListEntry.isOf ⟨t, a⟩ type address

/-- The last command that concerns a device. -/
def lastCommand (type : FilterAcceptListAddressType) (address : Address)
    (cs : List FilterAcceptListCommand) : Option FilterAcceptListCommand :=
  cs.reverse.find? (concerns type address)

/-- It adds a device. -/
def isAdd : FilterAcceptListCommand → Bool
  | .leAddDeviceToFilterAcceptList .. => true
  | _ => false

/-- It removes a device. -/
def isRemove : FilterAcceptListCommand → Bool
  | .leRemoveDeviceFromFilterAcceptList .. => true
  | _ => false

/-- One more command that concerns a device, of which `n` additions are not removed. -/
def additionsAfter (n : Nat) : FilterAcceptListCommand → Nat
  | .leClearFilterAcceptList => 0
  | .leAddDeviceToFilterAcceptList .. => n + 1
  | .leRemoveDeviceFromFilterAcceptList .. => n - 1

/-- How often a device was added and not yet removed since the list was cleared. -/
def additions (type : FilterAcceptListAddressType) (address : Address)
    (cs : List FilterAcceptListCommand) : Nat :=
  cs.foldl (fun n c => if concerns type address c then additionsAfter n c else n) 0

/-! ### How often a device is on the list -/

theorem isOf_congr {t : FilterAcceptListAddressType} {a : Address}
    (h : FilterAcceptListEntry.isOf ⟨t, a⟩ type address = true) (e : FilterAcceptListEntry) :
    e.isOf t a = e.isOf type address := by
  simp only [FilterAcceptListEntry.isOf, decide_eq_true_eq] at h ⊢
  obtain ⟨rfl, rfl | rfl⟩ := h
  · simp
  · rfl

/-- Removing a device removes one of its entries, and none of another device. -/
theorem countP_eraseP {t : FilterAcceptListAddressType} {a : Address}
    (l : List FilterAcceptListEntry) : (l.eraseP (·.isOf t a)).countP (·.isOf type address) =
      if FilterAcceptListEntry.isOf ⟨t, a⟩ type address then l.countP (·.isOf type address) - 1
      else l.countP (·.isOf type address) := by
  induction l with
  | nil => simp
  | cons e l ih =>
    by_cases hsame : FilterAcceptListEntry.isOf ⟨t, a⟩ type address = true
    · simp only [hsame, if_true, isOf_congr hsame] at ih ⊢
      by_cases he : e.isOf type address = true
      · simp [he]
      · simp [he, ih]
    · simp only [hsame, Bool.false_eq_true, if_false] at ih ⊢
      by_cases he : e.isOf t a = true
      · have hne : ¬ e.isOf type address = true := by
          intro hof
          refine hsame ?_
          simp only [FilterAcceptListEntry.isOf, decide_eq_true_eq] at he hof ⊢
          obtain ⟨rfl, he⟩ := he
          obtain ⟨rfl, hof⟩ := hof
          exact ⟨rfl, by rcases he with he | rfl <;> [exact .inl he; exact hof]⟩
        simp [he, hne]
      · simp [he, List.countP_cons, ih]

theorem count_apply (entries : List FilterAcceptListEntry) (c : FilterAcceptListCommand) :
    (FilterAcceptListCommand.apply entries c).countP (·.isOf type address) =
      if concerns type address c then additionsAfter (entries.countP (·.isOf type address)) c
      else entries.countP (·.isOf type address) := by
  cases c with
  | leClearFilterAcceptList => rfl
  | leAddDeviceToFilterAcceptList t a =>
    rw [FilterAcceptListCommand.apply, List.countP_append, List.countP_singleton]
    unfold concerns
    split <;> rfl
  | leRemoveDeviceFromFilterAcceptList => exact countP_eraseP entries

/-- **How often the list has a device is known from the commands alone.** -/
theorem count_entries (cs : List FilterAcceptListCommand) :
    (cs.foldl FilterAcceptListCommand.apply []).countP
    (·.isOf type address) = additions type address cs := by
  induction cs using List.reverseRecOn with
  | nil => rfl
  | append_singleton cs c ih =>
    simp only [additions, List.foldl_append, List.foldl_cons, List.foldl_nil] at ih ⊢
    rw [count_apply, ih]

variable (type address) in
/-- A device that was added last is there, one that was never added or for which the list was
cleared is not. -/
theorem additions_of_last (cs : List FilterAcceptListCommand) :
    (∀ c, lastCommand type address cs = some c → isAdd c = true → 0 < additions type address cs) ∧
    ((∀ c, lastCommand type address cs = some c → isAdd c = false ∧ isRemove c = false) →
      additions type address cs = 0) := by
  induction cs using List.reverseRecOn with
  | nil => exact ⟨nofun, fun _ => rfl⟩
  | append_singleton cs c ih =>
    have hadd : additions type address (cs ++ [c]) = if concerns type address c then
        additionsAfter (additions type address cs) c else additions type address cs := by
      simp only [additions, List.foldl_append, List.foldl_cons, List.foldl_nil]
    have hlast : lastCommand type address (cs ++ [c]) =
        if concerns type address c then some c else lastCommand type address cs := by
      unfold lastCommand
      rw [List.reverse_append, List.reverse_singleton, List.singleton_append, List.find?_cons]
      cases concerns type address c <;> rfl
    rw [hadd, hlast]
    by_cases hc : concerns type address c = true
    · rw [if_pos hc, if_pos hc]
      cases c with
      | leClearFilterAcceptList => exact ⟨by rintro _ ⟨⟩ ⟨⟩, fun _ => rfl⟩
      | leAddDeviceToFilterAcceptList =>
        exact ⟨fun _ _ _ => Nat.succ_pos _, fun h => absurd (h _ rfl).1 (by simp [isAdd])⟩
      | leRemoveDeviceFromFilterAcceptList =>
        exact ⟨by rintro _ ⟨⟩ ⟨⟩, fun h => absurd (h _ rfl).2 (by simp [isRemove])⟩
    · rw [if_neg hc, if_neg hc]
      exact ih

/-! ### Over a run -/

theorem filterAcceptList_ne_success (c : FilterAcceptListCommand) :
    s.filterAcceptList c ≠ .error .success := by
  cases c with
  | leAddDeviceToFilterAcceptList =>
    exact require_bind_ne_success (by decide) fun _ => require_bind_ne_success (by decide)
      fun _ => nofun
  | _ => exact require_bind_ne_success (by decide) fun _ => nofun

/-- A step changes the filter accept list by the command that is accepted in it. -/
theorem entries_step (h : s.step i = .ok (s', out)) : s'.leFilterAcceptList =
    (acceptedCommand (i, out)).elim s.leFilterAcceptList
    (FilterAcceptListCommand.apply s.leFilterAcceptList) := by
  obtain ⟨env, action⟩ := i
  by_cases hc : ∃ c, action = .command (.filterAcceptList c)
  · obtain ⟨c, rfl⟩ := hc
    have hstep : s.answer (fun leFilterAcceptList => { s with leFilterAcceptList })
        (s.filterAcceptList c) = (s', out) := Except.ok.inj h
    cases hc : s.filterAcceptList c with
    | ok =>
      rw [hc] at hstep
      cases hstep
      exact (filterAcceptList_ok _ hc).2
    | error status =>
      rw [hc] at hstep
      cases hstep
      have hne : status ≠ .success := fun heq => filterAcceptList_ne_success c (heq ▸ hc)
      simp [acceptedCommand, hne]
  · rcases (effect_of_step h).acceptList with hsame | ⟨hi, rfl⟩ | ⟨c, hi, -⟩
    · by_cases hr : action = .command .reset
      · subst hr
        cases h
        rfl
      · have hn : acceptedCommand (⟨env, action⟩, out) = none := by
          unfold acceptedCommand
          split
          · rename_i hi
            exact absurd ⟨_, hi⟩ hc
          · rename_i hi
            exact absurd hi hr
          · rfl
        rw [hn]
        exact hsame
    · cases hi
      rfl
    · exact absurd ⟨c, hi⟩ hc

/-- The list is what the accepted commands make of it. -/
theorem entries_of_run {C} {own : Address} {properties : ControllerProperties}
    {tr : List (Input × List Output)} (h : machine.Run C (new own properties) tr s) :
    s.leFilterAcceptList = (acceptedCommands tr).foldl FilterAcceptListCommand.apply [] := by
  refine h.invariant_trace (fun tr s => s.leFilterAcceptList =
    (acceptedCommands tr).foldl FilterAcceptListCommand.apply []) rfl ?_
  intro tr s i s' out hs _ hstep
  rw [acceptedCommands, List.filterMap_append, List.foldl_append, ← acceptedCommands, ← hs,
    entries_step hstep]
  cases hc : acceptedCommand (i, out) <;> simp [hc]

/-- **The filter accept list behaves as a set exactly if each device that was removed last had not
been added more often than it was removed.** -/
theorem behaves_as_set_iff {own : Address} {properties : ControllerProperties}
    {tr : List (Input × List Output)}
    (h : machine.Run (fun _ _ => True) (new own properties) tr s) :
    (∀ type address, s.containsDevice type address = true ↔
      ∃ c, lastCommand type address (acceptedCommands tr) = some c ∧ isAdd c = true) ↔
    ∀ type address,
      (∃ c, lastCommand type address (acceptedCommands tr) = some c ∧ isRemove c = true) →
      additions type address (acceptedCommands tr) = 0 := by
  have hcontains : ∀ type address, s.containsDevice type address = true ↔
      0 < additions type address (acceptedCommands tr) := by
    intro type address
    rw [← count_entries, ← entries_of_run h, List.countP_pos_iff, containsDevice, List.any_eq_true]
  refine forall_congr' fun type => forall_congr' fun address => ?_
  rw [hcontains]
  obtain ⟨hadd, hnone⟩ := additions_of_last type address (acceptedCommands tr)
  constructor
  · rintro hset ⟨c, hc, hrem⟩
    by_contra hpos
    obtain ⟨c', hc', hadd⟩ := hset.mp (Nat.pos_of_ne_zero hpos)
    cases hc.symm.trans hc'
    cases c with
    | leRemoveDeviceFromFilterAcceptList => cases hadd
    | _ => cases hrem
  · intro hrem
    refine ⟨fun hpos => ?_, fun ⟨c, hc, hisAdd⟩ => hadd c hc hisAdd⟩
    -- neither a removal nor a clear came last, nor did nothing
    by_contra hno
    refine absurd (hnone fun c hc => ⟨?_, ?_⟩) (Nat.ne_of_gt hpos)
    · exact Bool.eq_false_of_not_eq_true fun hisAdd => hno ⟨c, hc, hisAdd⟩
    · exact Bool.eq_false_of_not_eq_true fun hisRemove =>
        absurd (hrem ⟨c, hc, hisRemove⟩) (Nat.ne_of_gt hpos)

/-- The host adds a device, or removes it, at the address 7. -/
def adds : Input := .host (.filterAcceptList (.leAddDeviceToFilterAcceptList .publicAddress 7))

def removes : Input :=
  .host (.filterAcceptList (.leRemoveDeviceFromFilterAcceptList .publicAddress 7))

/-- A device that is added and then removed is not there. -/
theorem behaves_as_set_iff_removed : ∃ tr s, machine.Run (fun _ _ => True) (new 1 {}) tr s ∧
    acceptedCommands tr ≠ [] ∧ ∀ type address, s.containsDevice type address = true ↔
      ∃ c, lastCommand type address (acceptedCommands tr) = some c ∧ isAdd c = true := by
  have hx : machine.ExecTo
      (fun tr _ => acceptedCommands tr = [.leAddDeviceToFilterAcceptList .publicAddress 7,
      .leRemoveDeviceFromFilterAcceptList .publicAddress 7]) (new 1 {}) [adds, removes] := by
    decide +kernel
  obtain ⟨tr, s, hrun, htr⟩ := machine.exists_free_run hx
  refine ⟨tr, s, hrun, by simp [htr], (behaves_as_set_iff hrun).mpr fun type address _ => ?_⟩
  rw [htr]
  simp only [additions, List.foldl_cons, List.foldl_nil, concerns]
  by_cases hof : FilterAcceptListEntry.isOf ⟨.publicAddress, 7⟩ type address =
    true <;> simp only [hof] <;> rfl

/-- A device that is added twice and removed is still there. -/
theorem added_twice_stays : ∃ tr s, machine.Run (fun _ _ => True) (new 1 {}) tr s ∧
    s.containsDevice .publicAddress 7 = true ∧
    lastCommand .publicAddress 7 (acceptedCommands tr) =
      some (.leRemoveDeviceFromFilterAcceptList .publicAddress 7) := by
  exact machine.exists_run
    (show machine.Meets _ _ [adds, adds, removes] from by decide +kernel) (by decide +kernel)

end LeController

end RootCanal.Gap
