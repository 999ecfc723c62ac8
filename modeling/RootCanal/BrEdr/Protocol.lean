import RootCanal.BrEdr.Handlers
import RootCanal.Lib.Duplex

/-!
# The connection between two controllers

What two controllers do about the connection between them, without their tables.  Each end is apart,
pages the other or is linked (`Party`), and four kinds of packets change that where they arrive
(`Signal`, `Party.arrive`).  `Moves` lists what can happen.  An end that gives up its page or
accepts one does so with nothing on its way that would cross it; a controller does not see to that,
it is what the constructors `giveUp` and `accept` ask.

**`Agreed.step`: the ends settle to linked together, with roles that fit.**  `R` says which roles
fit: any two, or a central and a peripheral.
-/

namespace RootCanal.BrEdr

open Lib RootCanal.Hci

/-- What one end has of the connection. -/
inductive Party
  | apart
  | paging (allowRoleSwitch : Bool)
  | linked (role : Role)
deriving DecidableEq, Repr

/-- A packet that changes what the end has that it arrives at. -/
inductive Signal
  | response (tryRoleSwitch : Bool)
  | reject
  | close
  /-- The answer that the roles are switched. -/
  | switched
deriving DecidableEq, Repr

/-- The signal answers a page. -/
def Signal.isResponse : Signal → Bool
  | .response _ => true
  | _ => false

/-- The role of the end that paged. -/
def pagerRole (allowRoleSwitch tryRoleSwitch : Bool) : Role :=
  if allowRoleSwitch && tryRoleSwitch then .peripheral else .central

namespace Party

/-- The role in the connection, if there is one. -/
def role? : Party → Option Role
  | linked role => some role
  | _ => none

@[simp] theorem role?_linked (role : Role) : (linked role).role? = some role := rfl

@[simp] theorem role?_apart : apart.role? = none := rfl

/-- A signal arrives. An answer to a page that was given up is dropped. -/
def arrive : Party → Signal → Party
  | paging allow, .response try_ => linked (pagerRole allow try_)
  | paging _, .reject => apart
  | linked _, .close => apart
  | linked role, .switched => linked (otherRole role)
  | v, _ => v

/-- An answer finds the page it answers. -/
def Expects (v : Party) (m : Signal) : Prop := m.isResponse = true → ∃ allow, v = paging allow

/-- Each answer on its way will find its page. -/
abbrev Awaits (v : Party) (q : List Signal) : Prop := Duplex.Along arrive Expects v q

/-- What a signal other than an answer does to the role. -/
def roleAfter : Option Role → Signal → Option Role
  | _, .close => none
  | r, .switched => r.map otherRole
  | r, _ => r

variable {v : Party} {m : Signal} {q : List Signal} {allow : Bool} {role : Role}

/-- What arrives changes the role as it says. -/
theorem role?_arrive (hm : m.isResponse = false) : (v.arrive m).role? = roleAfter v.role? m := by
  cases v <;> cases m <;> first | rfl | cases hm

/-- All that arrives changes the role in turn. -/
theorem role?_foldl (hq : ∀ m ∈ q, m.isResponse = false) :
    (q.foldl arrive v).role? = q.foldl roleAfter v.role? := by
  induction q generalizing v with
  | nil => rfl
  | cons _ _ ih =>
    obtain ⟨hm, hq⟩ := List.forall_mem_cons.mp hq
    rw [List.foldl_cons, List.foldl_cons, ih hq, role?_arrive hm]

/-- Without answers on their way there is nothing to await. -/
theorem awaits_of_none (hq : ∀ m ∈ q, m.isResponse = false) : Awaits v q := by
  induction q generalizing v with
  | nil => exact trivial
  | cons _ _ ih =>
    obtain ⟨hm, hq⟩ := List.forall_mem_cons.mp hq
    refine ⟨?_, ih hq⟩
    intro hyes
    rw [hm] at hyes
    cases hyes

/-- An end that does not page awaits no answer. -/
theorem Awaits.none_of_ne (h : Awaits v q) (hv : ∀ allow, v ≠ paging allow) :
    ∀ m ∈ q, m.isResponse = false := by
  induction q generalizing v with
  | nil => exact fun m hm => absurd hm List.not_mem_nil
  | cons m _ ih =>
    obtain ⟨hm, hq⟩ := h
    have hno : m.isResponse = false := by
      refine Bool.eq_false_iff.mpr fun hyes => ?_
      obtain ⟨allow, rfl⟩ := hm hyes
      exact hv allow rfl
    refine List.forall_mem_cons.mpr ⟨hno, ih hq ?_⟩
    -- no signal starts a page
    intro allow
    cases v with
    | paging allow' => exact absurd rfl (hv allow')
    | apart | linked => cases m <;> nofun

/-- Without a connection there is no role to change. -/
theorem foldl_roleAfter_none : q.foldl roleAfter none = none := by
  induction q with
  | nil => rfl
  | cons m _ ih => cases m <;> exact ih

/-- A role that is switched first settles to the other role. -/
theorem foldl_roleAfter_map (r : Option Role) :
    q.foldl roleAfter (r.map otherRole) = (q.foldl roleAfter r).map otherRole := by
  induction q generalizing r with
  | nil => rfl
  | cons m _ ih =>
    cases m with
    | response | reject => exact ih r
    | switched => exact ih (r.map otherRole)
    | close =>
      exact ih none

/-- Without a close a linked end stays linked. -/
theorem foldl_roleAfter_isSome {r} (hr : r.isSome = true) (hq : .close ∉ q) :
    (q.foldl roleAfter r).isSome = true := by
  induction q generalizing r with
  | nil => exact hr
  | cons m _ ih =>
    obtain ⟨hm, hq⟩ := List.ne_and_not_mem_of_not_mem_cons hq
    refine ih ?_ hq
    cases m with
    | close => exact absurd rfl hm
    | response | reject => exact hr
    | switched => rwa [roleAfter, Option.isSome_map]

/-- Without a switch too it keeps its role. -/
theorem foldl_roleAfter_of_kept {r} (hclose : .close ∉ q) (hsw : .switched ∉ q) :
    q.foldl roleAfter r = r := by
  induction q generalizing r with
  | nil => rfl
  | cons m _ ih =>
    obtain ⟨hclose, hq⟩ := List.ne_and_not_mem_of_not_mem_cons hclose
    obtain ⟨hsw, hq'⟩ := List.ne_and_not_mem_of_not_mem_cons hsw
    cases m with
    | close => exact absurd rfl hclose
    | switched => exact absurd rfl hsw
    | response | reject => exact ih hq hq'

/-- A page that is neither answered nor rejected goes on. -/
theorem foldl_paging (hq : ∀ m ∈ q, m.isResponse = false) (hreject : .reject ∉ q) :
    q.foldl arrive (paging allow) = paging allow := by
  induction q with
  | nil => rfl
  | cons m _ ih =>
    obtain ⟨hm, hrs⟩ := List.forall_mem_cons.mp hq
    obtain ⟨hne, hrs'⟩ := List.ne_and_not_mem_of_not_mem_cons hreject
    cases m with
    | response => cases hm
    | reject => exact absurd rfl hne
    | close | switched => exact ih hrs hrs'

/-- Linked or not, the end is linked after an answer it awaits, unless it is closed. -/
theorem Awaits.none_of_apart (h : Awaits v q) (hclose : .close ∉ q)
    (hn : (q.foldl arrive v).role? = none) : ∀ m ∈ q, m.isResponse = false := by
  induction q generalizing v with
  | nil => exact fun m hm => absurd hm List.not_mem_nil
  | cons m q ih =>
    obtain ⟨hm, hq⟩ := h
    have hrs := List.not_mem_of_not_mem_cons hclose
    refine List.forall_mem_cons.mpr ⟨?_, ih hq hrs hn⟩
    cases m with
    | reject | close | switched => rfl
    | response try_ =>
      obtain ⟨allow, rfl⟩ := hm rfl
      have hq : Awaits (linked (pagerRole allow try_)) q := hq
      have hlkd := role?_foldl (v := linked (pagerRole allow try_)) (hq.none_of_ne nofun)
      rw [role?_linked] at hlkd
      have hsome := foldl_roleAfter_isSome (r := some (pagerRole allow try_)) rfl hrs
      rw [← hlkd] at hsome
      exact absurd hn (Option.isSome_iff_ne_none.mp hsome)

end Party

/-! ## What can happen -/

/-- What can happen between the two, with the roles `R` that fit. -/
inductive Moves (R : Role → Role → Prop) (s : Duplex.State Party Signal) :
    Duplex.State Party Signal → Prop
  | idle : Moves R s s
  /-- An end starts to page. -/
  | page {x : Side} (allow : Bool) : s.node x = .apart → Moves R s (s.act x (.paging allow) [])
  /-- An end gives up its page, which was not answered. -/
  | giveUp {x : Side} {allow : Bool} : s.node x = .paging allow →
      (∀ m ∈ s.inbox x, m.isResponse = false) → Moves R s (s.act x .apart [])
  /-- An end accepts a page, which goes on and was not answered; no close is on its way to it. -/
  | accept {x : Side} {allow try_ : Bool} {role : Role} : (s.node x).role? = none →
      s.node x.other = .paging allow → (∀ m ∈ s.inbox x.other, m.isResponse = false) →
      .reject ∉ s.inbox x.other → .close ∉ s.inbox x →
      (∀ r, (s.inbox x).foldl Party.roleAfter (some role) = some r → R r (pagerRole allow try_)) →
      Moves R s (s.act x (.linked role) [.response try_])
  /-- An end rejects a page. -/
  | refuse {x : Side} : Moves R s (s.act x (s.node x) [.reject])
  /-- An end closes the connection. -/
  | release {x : Side} {role : Role} : s.node x = .linked role → Moves R s (s.act x .apart [.close])
  /-- An end switches its role, and tells the other. -/
  | switch {x : Side} {role : Role} : s.node x = .linked role →
      Moves R s (s.act x (.linked (otherRole role)) [.switched])
  | arrive {x : Side} {m : Signal} {q : List Signal} : s.inbox x = m :: q →
      Moves R s ((s.take x q).act x ((s.node x).arrive m) [])

/-- Which roles fit does not depend on the side, nor on a switch of both. -/
structure Fits (R : Role → Role → Prop) : Prop where
  symm : ∀ r r', R r r' → R r' r
  switch : ∀ r r', R r r' → R (otherRole r) (otherRole r')

/-- The relation does not depend on the side. -/
theorem Fits.rel_symm {R} (hR : Fits R) {l l'} (h : Option.Rel R l l') : Option.Rel R l' l := by
  cases h with
  | none => exact .none
  | some h => exact .some (hR.symm _ _ h)

/-- Both roles change together. -/
theorem Fits.rel_switch {R} (hR : Fits R) {l l'} (h : Option.Rel R l l') :
    Option.Rel R (l.map otherRole) (l'.map otherRole) := by
  cases h with
  | none => exact .none
  | some h => exact .some (hR.switch _ _ h)

/-- Each answer will find its page, and the ends settle to roles that fit, or to none. -/
structure Agreed (R : Role → Role → Prop) (s : Duplex.State Party Signal) : Prop where
  awaits : ∀ x, (s.node x).Awaits (s.inbox x)
  settled : ∀ x, Option.Rel R (Duplex.settled Party.arrive s x).role?
    (Duplex.settled Party.arrive s x.other).role?

namespace Agreed

variable {R : Role → Role → Prop} {s s' : Duplex.State Party Signal} {x : Side} {v : Party}
  {ms : List Signal}

/-- At the start there is no connection. -/
theorem new : Agreed R ⟨fun _ => .apart, fun _ => []⟩ := ⟨fun _ => trivial, fun _ => .none⟩

/-- The role an end settles to when no answer is on its way to it. -/
theorem role?_settled (h : ∀ m ∈ s.inbox x, m.isResponse = false) :
    (Duplex.settled Party.arrive s x).role? = (s.inbox x).foldl Party.roleAfter (s.node x).role? :=
  Party.role?_foldl h

variable (hR : Fits R) (hs : Agreed R s)

include hs hR

/-- One end changes, and sends. -/
theorem act (hv : v.Awaits (s.inbox x)) (hms : (Duplex.settled Party.arrive s x.other).Awaits ms)
    (hrel : Option.Rel R ((s.inbox x).foldl Party.arrive v).role?
      (ms.foldl Party.arrive (Duplex.settled Party.arrive s x.other)).role?) :
    Agreed R (s.act x v ms) := by
  constructor
  · refine (Side.forall_iff x).mpr ⟨by simpa using hv, ?_⟩
    simpa using Duplex.along_append.mpr ⟨hs.awaits x.other, hms⟩
  · refine (Side.forall_iff x).mpr ⟨?_, ?_⟩
    · rwa [Duplex.settled_act_self, Duplex.settled_act_other]
    · rw [Side.other_other, Duplex.settled_act_self, Duplex.settled_act_other]
      exact hR.rel_symm hrel

/-- An end that does not page changes in a way that its role settles as before. -/
theorem keep (hn : ∀ m ∈ s.inbox x, m.isResponse = false)
    (hv : v.role? = (s.node x).role?) : Agreed R (s.act x v []) := by
  refine hs.act hR (Party.awaits_of_none hn) trivial ?_
  rw [Party.role?_foldl hn, hv, ← role?_settled hn]
  exact hs.settled x

/-- A side refuses a page. -/
theorem refuse : Agreed R (s.act x (s.node x) [.reject]) := by
  refine hs.act hR (hs.awaits x) (Party.awaits_of_none (by simp [Signal.isResponse])) ?_
  have hset := hs.settled x
  rw [List.foldl_cons, List.foldl_nil, Party.role?_arrive rfl]
  exact hset

/-- A side closes the connection. -/
theorem release {role} (hx : s.node x = .linked role) : Agreed R (s.act x .apart [.close]) := by
  have hn := (hx ▸ hs.awaits x : (Party.linked role).Awaits (s.inbox x)).none_of_ne nofun
  refine hs.act hR (Party.awaits_of_none hn) (Party.awaits_of_none (by simp [Signal.isResponse])) ?_
  rw [Party.role?_foldl hn, List.foldl_cons, List.foldl_nil, Party.role?_arrive rfl]
  rw [Party.role?_apart, Party.foldl_roleAfter_none]
  exact .none

/-- A side changes the role. -/
theorem switch {role} (hx : s.node x = .linked role) :
    Agreed R (s.act x (.linked (otherRole role)) [.switched]) := by
  have hn := (hx ▸ hs.awaits x : (Party.linked role).Awaits (s.inbox x)).none_of_ne nofun
  refine hs.act hR (Party.awaits_of_none hn) (Party.awaits_of_none (by simp [Signal.isResponse])) ?_
  have hset := hR.rel_switch (hs.settled x)
  rw [role?_settled hn, hx, ← Party.foldl_roleAfter_map] at hset
  rw [Party.role?_foldl hn, List.foldl_cons, List.foldl_nil, Party.role?_arrive rfl]
  exact hset

/-- A side accepts the page of the other. -/
theorem accept {allow try_ : Bool} {role}
    (hoth : s.node x.other = .paging allow) (hans : ∀ m ∈ s.inbox x.other, m.isResponse = false)
    (hreject : .reject ∉ s.inbox x.other) (hclose : .close ∉ s.inbox x)
    (hfits : ∀ r, (s.inbox x).foldl Party.roleAfter (some role) = some r →
      R r (pagerRole allow try_)) : Agreed R (s.act x (.linked role) [.response try_]) := by
  -- the page goes on until the answer reaches it
  have hpaging : Duplex.settled Party.arrive s x.other = .paging allow := by
    unfold Duplex.settled
    rw [hoth]
    exact Party.foldl_paging hans hreject
  -- so this end does not settle to linked, and no answer is on its way to it
  have hapart : (Duplex.settled Party.arrive s x).role? = none := by
    have hset := hs.settled x
    rw [hpaging] at hset
    generalize (Duplex.settled Party.arrive s x).role? = l at hset ⊢
    cases hset
    rfl
  have hn := (hs.awaits x).none_of_apart hclose hapart
  refine hs.act hR (Party.awaits_of_none hn) ?_ ?_
  · exact ⟨fun _ => ⟨allow, hpaging⟩, trivial⟩
  · rw [Party.role?_foldl hn, hpaging, Party.role?_linked]
    have hsome := Party.foldl_roleAfter_isSome (r := some role) rfl hclose
    obtain ⟨r, hr⟩ := Option.isSome_iff_exists.mp hsome
    rw [hr]
    exact .some (hfits r hr)

omit hR in
/-- A signal arrives. -/
theorem arrive {m q} (hx : s.inbox x = m :: q) :
    Agreed R ((s.take x q).act x ((s.node x).arrive m) []) := by
  constructor
  · refine (Side.forall_iff x).mpr ⟨?_, ?_⟩
    · have haw := hs.awaits x
      rw [hx] at haw
      simpa using haw.2
    · simpa using hs.awaits x.other
  · intro y
    rw [Duplex.settled_deliver hx, Duplex.settled_deliver hx]
    exact hs.settled y

/-- **Whatever happens, the ends settle to linked together.** -/
theorem step (h : Moves R s s') : Agreed R s' := by
  cases h with
  | idle => exact hs
  | page _ hx =>
    refine hs.keep hR (Party.Awaits.none_of_ne (hs.awaits _) ?_) (by rw [hx]; rfl)
    rw [hx]
    nofun
  | giveUp hx hn => exact hs.keep hR hn (by rw [hx]; rfl)
  | accept _ hoth hans hreject hclose hfits =>
    exact hs.accept hR hoth hans hreject hclose hfits
  | refuse => exact hs.refuse hR
  | release hx => exact hs.release hR hx
  | switch hx => exact hs.switch hR hx
  | arrive hx => exact hs.arrive hx

omit hR

/-- An end that is linked alone is going to be told, or the other is. -/
theorem half_open (hx : (s.node x).role? ≠ none) (hoth : (s.node x.other).role? = none) :
    .close ∈ s.inbox x ∨ ∃ m ∈ s.inbox x.other, m.isResponse = true := by
  by_contra hno
  push Not at hno
  obtain ⟨hclose, hans⟩ := hno
  have hans : ∀ m ∈ s.inbox x.other, m.isResponse = false := by simpa using hans
  have hset := hs.settled x
  rw [role?_settled hans, hoth, Party.foldl_roleAfter_none] at hset
  have hn :=
      Party.Awaits.none_of_ne (hs.awaits x) (by intro allow heq; rw [heq] at hx; exact hx rfl)
  rw [role?_settled hn] at hset
  have hsome := Party.foldl_roleAfter_isSome (Option.isSome_iff_ne_none.mpr hx) hclose
  generalize (s.inbox x).foldl Party.roleAfter _ = l at hset hsome
  cases hset
  cases hsome

/-- Two ends that are linked have roles that fit when nothing is on its way. -/
theorem fits {r r'} (hx : s.node x = .linked r)
    (hoth : s.node x.other = .linked r') (hin : ∀ y, s.inbox y = []) : R r r' := by
  have hset := hs.settled x
  unfold Duplex.settled at hset
  rw [hin, hin, hx, hoth] at hset
  cases hset with
  | some h => exact h

end Agreed

end RootCanal.BrEdr
