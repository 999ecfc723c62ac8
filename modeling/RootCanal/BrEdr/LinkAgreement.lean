import RootCanal.BrEdr.Pair

/-!
# Two controllers agree on their connection

A page is answered by a page response, and the acceptor has its connection at once.  Nothing tells
it when the answer comes too late: `IncomingPageResponsePacket` drops an answer to a page that is no
longer in progress.  So one end may be left with a connection the other does not have
(`cancelled_page_half_open`), and two ends that accept each other's page are both the peripheral
(`crossed_pages_both_peripheral`).

**`linked_together`, `roles_opposite`: while pages are given up and accepted only as they are due
(`Pair.Prompt`), a connection of one end is a connection of both, or the packet that tells is in
flight; and if the page that is accepted is also the one that goes on (`Pair.SameRoles`), the ends
of a connection have different roles once nothing is in flight.**

Source: `bredr_controller.cc` `AcceptConnectionRequest`, `IncomingPageResponsePacket`,
`CreateConnectionCancel`, `Paging`
-/

namespace RootCanal.BrEdr.Pair

open Lib RootCanal.Hci BrEdrController

instance KeepsPage.decidable (s : Pair) (x : Side) (i : Input) : Decidable (s.KeepsPage x i) :=
  have (page : PageState) : Decidable (GivesUp i page) := inferInstanceAs (Decidable (_ ∨ _))
  inferInstanceAs (Decidable (∀ page ∈ _, GivesUp i page → ∀ m ∈ s.signals x, m.isResponse = false))

instance AnswersPage.decidable (s : Pair) (x : Side) (i : Input) : Decidable (s.AnswersPage x i) :=
  inferInstanceAs (Decidable (_ → _))

instance Prompt.decidable (s : Pair) (i : Duplex.Input Input Env) : Decidable (s.Prompt i) :=
  match i with
  | .act _ _ => inferInstanceAs (Decidable (_ ∧ _))
  | .deliver _ _ => isTrue trivial

/-- The side has a connection with the other. -/
def linked (s : Pair) (x : Side) : Bool := ((s.node x).connections.link (s.peer x)).isSome

/-- The role of a side in the connection with the other. -/
def role? (s : Pair) (x : Side) : Option Role :=
  ((s.node x).connections.link (s.peer x)).map AclConnection.role

/-- The packet answers a page, or ends a connection. -/
def tells (packet : Packet) : Bool :=
  match packet.body with
  | .pageResponse _ | .disconnect _ => true
  | _ => false

variable {s : Pair} {x : Side} {R : Role → Role → Prop}

/-- A side is linked if it has a role. -/
theorem linked_iff : s.linked x = true ↔ (s.view.node x).role? ≠ none := by
  change _ ↔ ((s.node x).connections.party (s.peer x)).role? ≠ none
  rw [Connections.role?_party, linked, Option.isSome_iff_ne_none, ne_eq, ne_eq,
    Option.map_eq_none_iff]

/-- A side with a role is linked. -/
theorem view_of_role? {r} (h : s.role? x = some r) : s.view.node x = .linked r := by
  obtain ⟨c, hl, rfl⟩ := Option.map_eq_some_iff.mp h
  exact Connections.party_linked hl

/-- **In every such run the ends settle to linked together.** -/
theorem run_agreed (hR : Fits R) {C}
    (hC : ∀ s i, C s i → Prompt s i ∧ Fitting R s i) {own tr} (h : pair.Run C (start own) tr s) :
    Agreed R s.view := by
  have hboth : Faced s ∧ Agreed R s.view := by
    refine h.invariant (fun s => Faced s ∧ Agreed R s.view) ⟨Faced.start own, ?_⟩ ?_
    · have hview : (start own).view = ⟨fun _ => .apart, fun _ => []⟩ := by
        refine Duplex.State.eq_of_sides .left ?_ ?_ rfl rfl
        · exact party_new (own .left) (own .right)
        · exact party_new (own .right) (own .left)
      exact Agreed.new
    · rintro s i s' outs ⟨hs, hagreed⟩ hi hstep
      obtain ⟨hprompt, hfits⟩ := hC s i hi
      obtain ⟨hs', hmv⟩ := moves_of_step hs hprompt hfits hstep
      exact ⟨hs', hagreed.step hR hmv⟩
  exact hboth.2

/-! ## A connection of one is a connection of both -/

/-- A close that is on its way tells the side. -/
theorem tells_of_close (h : .close ∈ s.signals x) :
    ∃ packet ∈ s.inFlight x, tells packet = true := by
  obtain ⟨⟨source, destination, body⟩, hmem, hm⟩ := List.mem_filterMap.mp h
  refine ⟨_, hmem, ?_⟩
  cases body with
  | disconnect => rfl
  | roleSwitchResponse => cases (Body.signal?_roleSwitchResponse hm).2
  | _ => cases hm

/-- A response that is on its way tells the side. -/
theorem tells_of_response {m} (h : m ∈ s.signals x) (hm : m.isResponse = true) :
    ∃ packet ∈ s.inFlight x, tells packet = true := by
  obtain ⟨⟨source, destination, body⟩, hmem, hsome⟩ := List.mem_filterMap.mp h
  refine ⟨_, hmem, ?_⟩
  cases body with
  | pageResponse | disconnect => rfl
  | roleSwitchResponse =>
    obtain ⟨-, rfl⟩ := Body.signal?_roleSwitchResponse hsome
    cases hm
  | pageReject =>
    cases hsome
    cases hm
  | _ => cases hsome

/-- **A half-open connection is about to be told**. -/
theorem half_open_tells (hs : Agreed R s.view) (hx : s.linked x = true) :
    s.linked x.other = true ∨ ∃ y, ∃ packet ∈ s.inFlight y, tells packet = true := by
  by_cases hoth : s.linked x.other = true
  · exact .inl hoth
  · have hn : (s.view.node x.other).role? = none := not_not.mp (mt linked_iff.mpr hoth)
    rcases hs.half_open (linked_iff.mp hx) hn with hclose | ⟨m, hmem, hm⟩
    · exact .inr ⟨x, tells_of_close hclose⟩
    · exact .inr ⟨x.other, tells_of_response hmem hm⟩

/-- **A connection of one end is a connection of both, or a page response or a disconnection is in
flight; when nothing is, no end is linked alone.** -/
theorem linked_together {own : Side → Address}
    {tr : List (Duplex.Input Input Env × List (Side × Output))}
    (h : pair.Run Prompt (start own) tr s) :
    (∀ x, s.linked x = true → s.linked x.other = true ∨ ∃ y, ∃ packet ∈ s.inFlight y,
      tells packet = true) ∧
    ((∀ y, s.inFlight y = []) → s.linked .left = s.linked .right) := by
  have hs : Agreed (fun _ _ => True) s.view := by
    refine run_agreed ⟨fun _ _ h => h, fun _ _ h => h⟩ (fun s i hi => ⟨hi, ?_⟩) h
    cases i with
    | act => exact fun _ _ _ _ _ _ _ _ _ _ => trivial
    | deliver => exact trivial
  refine ⟨fun x hx => half_open_tells hs hx, ?_⟩
  intro hfl
  have hboth : ∀ x, s.linked x = true → s.linked x.other = true := by
    intro x hx
    rcases half_open_tells hs hx with hoth | ⟨y, packet, hmem, -⟩
    · exact hoth
    · rw [hfl y] at hmem
      exact absurd hmem List.not_mem_nil
  exact Bool.eq_iff_iff.mpr ⟨hboth .left, hboth .right⟩

/-- The time at which a page that started with the clock is sent. -/
def pageTime : Env := ⟨IterOrder.id _, IterOrder.id _, kPageInterval⟩

/-- A side runs its first tasks. -/
def runsTasks (x : Side) (count : Nat) : List (Duplex.Input Input Env) :=
  List.replicate count (.act x ⟨pageTime, .task⟩)

/-- The left side (1) pages the right side (2), which has been told of the page. -/
def leftPages : List (Duplex.Input Input Env) :=
  [.act .right (hostScans BrEdrController.start),
    .act .left ⟨BrEdrController.start, .command (.createConnection 2 true)⟩,
    .act .left ⟨pageTime, .paging⟩] ++ runsTasks .left 1 ++ [.deliver .right pageTime]

/-- The addresses of the two. -/
def oneAndTwo : Side → Address
  | .left => 1
  | .right => 2

theorem linked_together_accepted : ∃ tr s, pair.Run Prompt (start oneAndTwo) tr s ∧
    s.linked .right = true ∧ (∀ y, s.inFlight y = []) ∧ s.linked .left = s.linked .right := by
  have hx : pair.ExecTo (fun _ s => s.linked .right = true ∧ ∀ y, s.inFlight y = [])
      (start oneAndTwo)
      (leftPages ++ .act .right ⟨pageTime, .command (.acceptConnectionRequest 1 false)⟩ ::
        runsTasks .right 2 ++ [.deliver .left pageTime]) := by
    decide +kernel
  obtain ⟨tr, s, hrun, hrt, hfl⟩ := pair.exists_run (C := Prompt) (by decide +kernel) hx
  exact ⟨tr, s, hrun, hrt, hfl, (linked_together hrun).2 hfl⟩

/-- The page is cancelled while the answer to it is in flight: the acceptor is linked alone. -/
theorem cancelled_page_half_open : ∃ tr s, pair.Run (fun _ i => Unreset i) (start oneAndTwo) tr s ∧
    s.linked .right = true ∧ s.linked .left = false ∧ ∀ y, s.inFlight y = [] := by
  refine pair.exists_run (show pair.Meets _ _
    (leftPages ++ .act .right ⟨pageTime, .command (.acceptConnectionRequest 1 false)⟩ ::
      .act .left ⟨pageTime, .command (.createConnectionCancel 2)⟩ :: runsTasks .right 2 ++
      [.deliver .left pageTime]) from ?_) ?_
  · decide +kernel
  · decide +kernel

/-! ## The roles of a connection -/

/-- The page that is accepted is the one that goes on, as far as its role switch is concerned, and
no role switch of an earlier connection is on its way. -/
def SameRoles (s : Pair) : Duplex.Input Input Env → Prop
  | .act x i => (s.node x).establishes i.action = true →
      (s.node x).pageScan.map PageScanState.allowRoleSwitch =
        ((s.node x.other).connections.pageFor (s.peer x.other)).map PageState.allowRoleSwitch ∧
      .switched ∉ s.signals x
  | .deliver _ _ => True

instance SameRoles.decidable (s : Pair) (i : Duplex.Input Input Env) : Decidable (s.SameRoles i) :=
  match i with
  | .act _ _ => inferInstanceAs (Decidable (_ → _))
  | .deliver _ _ => isTrue trivial

/-- The ends of a connection have different roles. -/
def Opposite (r r' : Role) : Prop := r' = otherRole r

/-- Opposite roles fit the protocol. -/
theorem fits_opposite : Fits Opposite where
  symm := by
    rintro r r' rfl
    cases r <;> rfl
  switch := by
    rintro r r' rfl
    rfl

/-- The two ends of an accepted page get opposite roles. -/
theorem opposite_roles {scan} {try_ allow : Bool} (h : scan.allowRoleSwitch = allow) :
    Opposite (acceptorRole scan try_) (pagerRole allow try_) := by
  unfold Opposite acceptorRole pagerRole
  rw [h]
  cases try_ <;> cases allow <;> rfl

/-- Accepting with the pager's setting fits. -/
theorem SameRoles.fitting {i} (h : SameRoles s i) : Fitting Opposite s i := by
  cases i with
  | deliver => exact trivial
  | act =>
    intro scan try_ page hact hscan hmakes hclose hpage r hr
    obtain ⟨hallow, hsw⟩ := h hmakes
    rw [hscan, hpage] at hallow
    rw [Party.foldl_roleAfter_of_kept hclose hsw] at hr
    cases hr
    exact opposite_roles (Option.some.inj hallow)

/-- **When nothing is in flight, the ends of a connection are a central and a peripheral.** -/
theorem roles_opposite {own : Side → Address}
    {tr : List (Duplex.Input Input Env × List (Side × Output))}
    (h : pair.Run (fun s i => Prompt s i ∧ SameRoles s i) (start own) tr s)
    (hflight : ∀ y, s.inFlight y = []) (x : Side) {r r' : Role} (hx : s.role? x = some r)
    (hother : s.role? x.other = some r') : r' = otherRole r := by
  have hs := run_agreed fits_opposite (fun s i hi => ⟨hi.1, hi.2.fitting⟩) h
  refine hs.fits (view_of_role? hx) (view_of_role? hother) fun y => ?_
  change signalsOf (s.inFlight y) = []
  rw [hflight y]
  rfl

theorem roles_opposite_switched :
    ∃ tr s, pair.Run (fun s i => Prompt s i ∧ SameRoles s i) (start oneAndTwo) tr s ∧
      s.role? .right = some .central ∧ s.role? .left = some .peripheral := by
  have hx : pair.ExecTo (fun _ s => s.role? .right = some .central ∧
      (s.role? .left).isSome = true ∧ ∀ y, s.inFlight y = []) (start oneAndTwo)
      (leftPages ++ .act .right ⟨pageTime, .command (.acceptConnectionRequest 1 true)⟩ ::
        runsTasks .right 3 ++ [.deliver .left pageTime]) := by
    decide +kernel
  obtain ⟨tr, s, hrun, hrt, hleft, hfl⟩ :=
    pair.exists_run (C := fun s i => Prompt s i ∧ SameRoles s i) (by decide +kernel) hx
  obtain ⟨r, hleft⟩ := Option.isSome_iff_exists.mp hleft
  have hr := roles_opposite hrun hfl .right hrt hleft
  exact ⟨tr, s, hrun, hrt, hleft.trans (congrArg some hr)⟩

/-- Each side accepts the page of the other, and both are the peripheral. -/
theorem crossed_pages_both_peripheral : ∃ tr s,
    pair.Run (fun _ i => Unreset i) (start oneAndTwo) tr s ∧ (∀ y, s.inFlight y = []) ∧
      s.role? .left = some .peripheral ∧ s.role? .right = some .peripheral := by
  refine pair.exists_run (show pair.Meets _ _
    ([.act .left (hostScans BrEdrController.start), .act .right (hostScans BrEdrController.start),
      .act .left ⟨BrEdrController.start, .command (.createConnection 2 true)⟩,
      .act .right ⟨BrEdrController.start, .command (.createConnection 1 true)⟩,
      .act .left ⟨pageTime, .paging⟩, .act .right ⟨pageTime, .paging⟩] ++
      runsTasks .left 1 ++ runsTasks .right 1 ++
      [.deliver .left pageTime, .deliver .right pageTime,
        .act .left ⟨pageTime, .command (.acceptConnectionRequest 2 false)⟩,
        .act .right ⟨pageTime, .command (.acceptConnectionRequest 1 false)⟩] ++
      runsTasks .left 2 ++ runsTasks .right 2 ++
      [.deliver .left pageTime, .deliver .right pageTime]) from ?_) ?_
  · decide +kernel
  · decide +kernel

end RootCanal.BrEdr.Pair
