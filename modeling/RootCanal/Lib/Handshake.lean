import Mathlib

/-!
# A handshake whose answers name nothing

An initiator asks a responder for connections over two channels that keep their order.  A
request and a termination name the connection they are about; an answer does not, and the
initiator takes it for the connection it is waiting for.  So the answer to an abandoned request
can be taken for another one.

The state is what the two parties know: the connections the initiator waits for (`pending`) and
has (`connected`), the requests the responder has not answered (`offered`) and the connections it
has accepted (`held`), and the messages under way.

* `Quiet`: no request is unanswered.
* `Inv` is preserved by every transition of either party, **provided that a request is made only
  in a quiet state**: then at most one request is unanswered, and whatever is pending is the one
  it is about.  There is one rule for each transition (`Inv.start`, `Inv.close`, …); a rule
  allows a party to forget connections on the way.
* `Inv.backed`: what is connected for the initiator is held by the responder, or a termination
  of it is under way.
-/

namespace Lib.Handshake

/-- The messages of the handshake. -/
inductive Msg (ι : Type)
  | request (i : ι)
  | accept
  | refuse
  | confirm
  | terminate (i : ι)
deriving DecidableEq, Repr

namespace Msg

variable {ι : Type}

/-- A request. -/
def isRequest : Msg ι → Bool
  | request _ => true
  | _ => false

/-- An answer. -/
def isAnswer : Msg ι → Bool
  | accept | refuse => true
  | _ => false

/-- The initiator sends such messages. -/
def fromInitiator : Msg ι → Bool
  | request _ | confirm | terminate _ => true
  | _ => false

/-- The responder sends such messages. -/
def fromResponder : Msg ι → Bool
  | accept | refuse | terminate _ => true
  | _ => false

end Msg

/-- What the parties know, and the messages under way, the next one to be delivered first.
Connections are named by `ι`; the responder tells its offers apart by `κ`. -/
structure State (ι κ : Type) where
  pending : Set ι
  connected : Set ι
  offered : Set (κ × ι)
  held : Set ι
  toResponder : List (Msg ι)
  toInitiator : List (Msg ι)

section

variable {ι κ : Type}

/-- No request is under way. -/
def NoRequest (l : List (Msg ι)) : Prop := ∀ m ∈ l, m.isRequest = false

/-- No answer is under way. -/
def NoAnswer (l : List (Msg ι)) : Prop := ∀ m ∈ l, m.isAnswer = false

/-- No request is unanswered. -/
structure Quiet (s : State ι κ) : Prop where
  noRequest : NoRequest s.toResponder
  noOffer : s.offered = ∅
  noAnswer : NoAnswer s.toInitiator

/-- The responder holds the connection and nothing under way ends it there, or the initiator is
about to learn that it ended. -/
def Backed (s : State ι κ) (i : ι) : Prop :=
  (i ∈ s.held ∧ .terminate i ∉ s.toResponder) ∨ .terminate i ∈ s.toInitiator

/-- Where the one unanswered request is, and what it says of the connection that is pending. -/
inductive Phase (s : State ι κ) : Prop
  | quiet : Quiet s → s.pending = ∅ → Phase s
  | requested {i : ι} {before after : List (Msg ι)} :
      s.toResponder = before ++ .request i :: after → NoRequest before → NoRequest after →
      s.offered = ∅ → NoAnswer s.toInitiator → s.pending ⊆ {i} →
      (i ∈ s.pending → .terminate i ∉ after) → Phase s
  | offered {k : κ} {i : ι} : NoRequest s.toResponder → s.offered ⊆ {(k, i)} →
      NoAnswer s.toInitiator → s.pending ⊆ {i} →
      (i ∈ s.pending → (k, i) ∈ s.offered ∧ .terminate i ∉ s.toResponder) → Phase s
  | answered {i : ι} {m : Msg ι} {before after : List (Msg ι)} : NoRequest s.toResponder →
      s.offered = ∅ → s.toInitiator = before ++ m :: after → NoAnswer before → NoAnswer after →
      m.isAnswer = true → s.pending ⊆ {i} → (i ∈ s.pending → m = .accept → Backed s i) → Phase s

/-- The invariant of the handshake. -/
structure Inv (s : State ι κ) : Prop where
  phase : Phase s
  backed : ∀ i ∈ s.connected, Backed s i
  fromInitiator : ∀ m ∈ s.toResponder, m.fromInitiator = true
  fromResponder : ∀ m ∈ s.toInitiator, m.fromResponder = true

/-- Nothing is known and nothing is under way. -/
def State.empty : State ι κ := ⟨∅, ∅, ∅, ∅, [], []⟩

theorem inv_empty : Inv (State.empty : State ι κ) where
  phase := .quiet ⟨by simp [NoRequest, State.empty], rfl, by simp [NoAnswer, State.empty]⟩ rfl
  backed _ h := absurd h (Set.notMem_empty _)
  fromInitiator _ h := absurd h List.not_mem_nil
  fromResponder _ h := absurd h List.not_mem_nil

/-! ## Channels -/

/-- A channel changes by at most one message, which `p` does not hold of. -/
inductive Passes (p : Msg ι → Bool) : List (Msg ι) → List (Msg ι) → Prop
  | same {l : List (Msg ι)} : Passes p l l
  | sent {l : List (Msg ι)} {m : Msg ι} : p m = false → Passes p l (l ++ [m])
  | received {l : List (Msg ι)} {m : Msg ι} : p m = false → Passes p (m :: l) l

section channels

variable {l l' before after rest : List (Msg ι)} {m x : Msg ι} {p : Msg ι → Bool}

theorem forall_append {Q : Msg ι → Prop} (h : ∀ y ∈ l, Q y) (hm : Q m) : ∀ y ∈ l ++ [m], Q y :=
  List.forall_mem_append.mpr ⟨h, List.forall_mem_singleton.mpr hm⟩

theorem Passes.none (h : Passes p l l') (hl : ∀ y ∈ l, p y = false) : ∀ y ∈ l', p y = false := by
  cases h with
  | same => exact hl
  | sent hm => exact forall_append hl hm
  | received => exact fun y hy => hl y (List.mem_cons_of_mem _ hy)

/-- A message is in the channel after the change only if it was before, or has just been sent. -/
theorem Passes.notMem (h : Passes p l l') (hx : x ∉ l) (hsent : l' ≠ l ++ [x]) : x ∉ l' := by
  cases h with
  | same => exact hx
  | sent =>
    intro hmem
    rcases List.mem_append.mp hmem with hmem | hmem
    · exact hx hmem
    · rw [List.mem_singleton.mp hmem] at hsent
      exact hsent rfl
  | received => exact fun hmem => hx (List.mem_cons_of_mem _ hmem)

/-- The one message of which `p` holds stays in the channel, and what comes after it is only
added to. -/
theorem Passes.split (h : Passes p l l') (hl : l = before ++ x :: after)
    (hpre : ∀ y ∈ before, p y = false) (hpost : ∀ y ∈ after, p y = false)
    (hx : p x = true) :
    ∃ before' after', l' = before' ++ x :: after' ∧ (∀ y ∈ before', p y = false) ∧
      (∀ y ∈ after', p y = false) ∧
      (after' = after ∨ ∃ m, after' = after ++ [m] ∧ l' = l ++ [m]) := by
  cases h with
  | same => exact ⟨before, after, hl, hpre, hpost, Or.inl rfl⟩
  | @sent _ m hm =>
    refine ⟨before, after ++ [m], ?_, hpre, forall_append hpost hm, Or.inr ⟨m, rfl, rfl⟩⟩
    rw [hl, List.append_assoc]
    rfl
  | received hm =>
    cases before with
    | nil =>
      obtain ⟨rfl, -⟩ := List.cons.inj hl
      rw [hm] at hx
      cases hx
    | cons _ ys =>
      exact ⟨ys, after, (List.cons.inj hl).2, fun z hz => hpre z (List.mem_cons_of_mem _ hz),
        hpost, Or.inl rfl⟩

/-- When the message at the head of a channel is the one of which `p` holds, nothing comes before
it. -/
theorem head_eq (hl : m :: rest = before ++ x :: after) (hpre : ∀ y ∈ before, p y = false)
    (hm : p m = true) : m = x ∧ rest = after := by
  cases before with
  | nil => exact List.cons.inj hl
  | cons =>
    obtain ⟨rfl, -⟩ := List.cons.inj hl
    rw [hpre m (List.mem_cons_self ..)] at hm
    cases hm

end channels

/-! ## Steps that leave the unanswered request where it is -/

variable {s s' : State ι κ} {i : ι} {k : κ} {m : Msg ι}

theorem Phase.pending_subsingleton (h : Phase s) : s.pending.Subsingleton := by
  cases h with
  | quiet _ hp =>
    rw [hp]
    exact Set.subsingleton_empty
  | requested _ _ _ _ _ hp | offered _ _ _ hp | answered _ _ _ _ _ _ hp =>
    exact Set.subsingleton_singleton.anti hp

/-- **The general rule.** The parties may forget connections, and a message may pass that is
neither a request nor an answer, so long as what is pending stays backed. -/
theorem Phase.keep (h : Phase s) (hp : s'.pending ⊆ s.pending)
    (hR : Passes Msg.isRequest s.toResponder s'.toResponder)
    (hI : Passes Msg.isAnswer s.toInitiator s'.toInitiator) (ho : s'.offered ⊆ s.offered)
    (hkept : ∀ k, ∀ j ∈ s'.pending, (k, j) ∈ s.offered → .terminate j ∉ s.toResponder →
      (k, j) ∈ s'.offered)
    (hopen : ∀ j ∈ s'.pending, s'.toResponder ≠ s.toResponder ++ [.terminate j])
    (hb : ∀ j ∈ s'.pending, Backed s j → Backed s' j) : Phase s' := by
  cases h with
  | quiet hq hemp =>
    refine .quiet ⟨hR.none hq.noRequest, ?_, hI.none hq.noAnswer⟩ ?_
    · exact Set.subset_empty_iff.mp (hq.noOffer ▸ ho)
    · exact Set.subset_empty_iff.mp (hemp ▸ hp)
  | @requested i _ _ htoR hpre hpost hoffer hans hpi hafterOpen =>
    obtain ⟨before', after', htoR', hpre', hpost', hgrow⟩ := hR.split htoR hpre hpost rfl
    refine .requested htoR' hpre' hpost' (Set.subset_empty_iff.mp (hoffer ▸ ho)) (hI.none hans)
      (hp.trans hpi) ?_
    intro hi
    rcases hgrow with rfl | ⟨m, rfl, hsent⟩
    · exact hafterOpen (hp hi)
    · intro hmem
      rcases List.mem_append.mp hmem with hmem | hmem
      · exact hafterOpen (hp hi) hmem
      · rw [← List.mem_singleton.mp hmem] at hsent
        exact hopen i hi hsent
  | @offered k i hreq hoffer hans hpi hpend =>
    refine .offered (hR.none hreq) (ho.trans hoffer) (hI.none hans) (hp.trans hpi) ?_
    intro hi
    obtain ⟨hki, hterm⟩ := hpend (hp hi)
    exact ⟨hkept k i hi hki hterm, hR.notMem hterm (hopen i hi)⟩
  | @answered i _ _ _ hreq hoffer htoI hpre hpost hm hpi hbacked =>
    obtain ⟨before', after', htoI', hpre', hpost', -⟩ := hI.split htoI hpre hpost hm
    exact .answered (hR.none hreq) (Set.subset_empty_iff.mp (hoffer ▸ ho)) htoI' hpre'
      hpost' hm (hp.trans hpi) fun hi hacc => hb i hi (hbacked (hp hi) hacc)

/-- What backs a connection stays, where the responder keeps it, nothing is sent to end it, and
the news of its end are not taken away. -/
theorem Backed.mono (h : Backed s i)
    (hheld : i ∈ s.held → .terminate i ∉ s.toResponder → i ∈ s'.held ∨
      .terminate i ∈ s'.toInitiator)
    (hR : .terminate i ∈ s'.toResponder → .terminate i ∈ s.toResponder)
    (hI : .terminate i ∈ s.toInitiator → .terminate i ∈ s'.toInitiator) : Backed s' i := by
  rcases h with ⟨hi, hterm⟩ | hterm
  · rcases hheld hi hterm with hi | hterm'
    · exact Or.inl ⟨hi, fun hmem => hterm (hR hmem)⟩
    · exact Or.inr hterm'
  · exact Or.inr (hI hterm)

variable {P K H : Set ι} {O : Set (κ × ι)} {rest : List (Msg ι)} (h : Inv s)

include h

/-- The initiator forgets connections, or the responder gains some. -/
theorem Inv.forget (hP : P ⊆ s.pending) (hK : K ⊆ s.connected) (hH : s.held ⊆ H) :
    Inv { s with pending := P, connected := K, held := H } := by
  have hb : ∀ j, Backed s j → Backed { s with pending := P, connected := K, held := H } j :=
    fun j hj => hj.mono (fun hj _ => Or.inl (hH hj)) id id
  exact ⟨h.phase.keep hP .same .same subset_rfl (fun _ _ _ hk _ => hk) (by simp) (fun j _ => hb j),
    fun j hj => hb j (h.backed j (hK hj)), h.fromInitiator, h.fromResponder⟩

/-- The initiator ends a connection. -/
theorem Inv.close (hP : P ⊆ s.pending \ {i}) (hK : K ⊆ s.connected \ {i}) :
    Inv
      { s with pending := P, connected := K, toResponder := s.toResponder ++ [.terminate i] } := by
  have hb : ∀ j, j ≠ i → Backed s j → Backed { s with
      pending := P, connected := K, toResponder := s.toResponder ++ [.terminate i] } j := by
    intro j hne hj
    refine hj.mono (fun hj _ => Or.inl hj) ?_ id
    intro hmem
    rcases List.mem_append.mp hmem with hmem | hmem
    · exact hmem
    · cases List.mem_singleton.mp hmem
      exact absurd rfl hne
  refine ⟨h.phase.keep (hP.trans Set.sdiff_subset) (.sent rfl) .same subset_rfl
      (fun _ _ _ hk _ => hk) ?_ (fun j hj => hb j (hP hj).2),
    fun j hj => hb j (hK hj).2 (h.backed j (hK hj).1), forall_append h.fromInitiator rfl,
      h.fromResponder⟩
  intro j hj heq
  have hlast := List.append_cancel_left heq
  cases List.cons.inj hlast |>.1
  exact (hP hj).2 rfl

/-- The initiator learns that a connection ended. -/
theorem Inv.ended (hI : s.toInitiator = .terminate i :: rest)
    (hP : P ⊆ s.pending \ {i}) (hK : K ⊆ s.connected \ {i}) :
    Inv { s with pending := P, connected := K, toInitiator := rest } := by
  have hb : ∀ j, j ≠ i → Backed s j →
      Backed { s with pending := P, connected := K, toInitiator := rest } j := by
    intro j hne hj
    refine hj.mono (fun hj _ => Or.inl hj) id ?_
    intro hmem
    rw [hI] at hmem
    rcases List.mem_cons.mp hmem with hmem | hmem
    · cases hmem
      exact absurd rfl hne
    · exact hmem
  exact ⟨h.phase.keep (hP.trans Set.sdiff_subset) .same (hI ▸ .received rfl) subset_rfl
    (fun _ _ _ hk _ => hk) (by simp) (fun j hj => hb j (hP hj).2),
    fun j hj => hb j (hK hj).2 (h.backed j (hK hj).1), h.fromInitiator,
    fun m hm => h.fromResponder m (hI ▸ List.mem_cons_of_mem _ hm)⟩

/-- The responder receives a message other than a request; it may lose the connection the message
terminates. -/
theorem Inv.delivered (hR : s.toResponder = m :: rest) (hm : m.isRequest = false)
    (hO : O ⊆ s.offered) (hO' : ∀ k j, (k, j) ∈ s.offered → m ≠ .terminate j → (k, j) ∈ O)
    (hH : ∀ j ∈ s.held, m ≠ .terminate j → j ∈ H) :
    Inv { s with offered := O, held := H, toResponder := rest } := by
  have hne : ∀ j, .terminate j ∉ s.toResponder → m ≠ .terminate j := by
    rintro j hterm rfl
    exact hterm (hR ▸ List.mem_cons_self ..)
  have hb : ∀ j, Backed s j → Backed { s with offered := O, held := H, toResponder := rest } j :=
    fun j hj => hj.mono (fun hj hterm => Or.inl (hH j hj (hne j hterm)))
      (fun hmem => hR ▸ List.mem_cons_of_mem _ hmem) id
  refine ⟨h.phase.keep subset_rfl (hR ▸ .received hm) .same hO
    (fun k j _ hk hterm => hO' k j hk (hne j hterm)) ?_ (fun j _ => hb j),
    fun j hj => hb j (h.backed j hj), fun m hm =>
      h.fromInitiator m (hR ▸ List.mem_cons_of_mem _ hm), h.fromResponder⟩
  intro j _ heq
  have hlen := congrArg List.length heq
  simp [hR] at hlen
  omega

/-- The responder ends a connection. -/
theorem Inv.abandon (hH : s.held \ {i} ⊆ H) :
    Inv { s with held := H, toInitiator := s.toInitiator ++ [.terminate i] } := by
  have hb : ∀ j, Backed s j →
      Backed { s with held := H, toInitiator := s.toInitiator ++ [.terminate i] } j := by
    intro j hj
    refine hj.mono ?_ id (fun hmem => List.mem_append_left _ hmem)
    intro hheld _
    by_cases hji : j = i
    · rw [hji]
      exact Or.inr (List.mem_append_right _ (List.mem_singleton_self _))
    · exact Or.inl (hH ⟨hheld, hji⟩)
  exact ⟨h.phase.keep subset_rfl .same (.sent rfl) subset_rfl (fun _ _ _ hk _ => hk) (by simp)
    (fun j _ => hb j), fun j hj => hb j (h.backed j hj), h.fromInitiator,
    forall_append h.fromResponder rfl⟩

/-! ## Steps that move the unanswered request -/

/-- Nothing is pending when no request is unanswered. -/
theorem Inv.pending_eq_empty (hq : Quiet s) : s.pending = ∅ := by
  cases h.phase with
  | quiet _ hp => exact hp
  | requested htoR =>
    have hreq := hq.noRequest _ (htoR ▸ List.mem_append_right _ (List.mem_cons_self ..))
    cases hreq
  | offered _ _ _ hpi hpend =>
    apply Set.subset_empty_iff.mp
    intro j hj
    cases hpi hj
    exact absurd (hpend hj).1 (hq.noOffer ▸ Set.notMem_empty _)
  | answered _ _ htoI _ _ hm =>
    have hans := hq.noAnswer _ (htoI ▸ List.mem_append_right _ (List.mem_cons_self ..))
    rw [hm] at hans
    cases hans

/-- The initiator makes a request, in a quiet state. -/
theorem Inv.start (hq : Quiet s) (hP : P ⊆ insert i s.pending) (hK : K ⊆ s.connected) :
    Inv { s with pending := P, connected := K, toResponder := s.toResponder ++ [.request i] } := by
  have hterm : ∀ j, .terminate j ∈ s.toResponder ++ [.request i] →
      .terminate j ∈ s.toResponder := by
    intro j hmem
    rcases List.mem_append.mp hmem with hmem | hmem
    · exact hmem
    · cases List.mem_singleton.mp hmem
  rw [h.pending_eq_empty hq, insert_empty_eq] at hP
  refine ⟨.requested rfl hq.noRequest (fun _ hm => absurd hm List.not_mem_nil) hq.noOffer
      hq.noAnswer hP (fun _ => List.not_mem_nil), ?_, forall_append h.fromInitiator rfl,
        h.fromResponder⟩
  intro j hj
  exact (h.backed j (hK hj)).mono (fun hj _ => Or.inl hj) (hterm j) id

/-- The responder receives the request, and offers it to its user as `k`. -/
theorem Inv.offer (hR : s.toResponder = .request i :: rest) (hO : O = insert (k, i) s.offered)
    (hH : s.held ⊆ H) : Inv { s with offered := O, held := H, toResponder := rest } := by
  have hmem : .request i ∈ s.toResponder := hR ▸ List.mem_cons_self ..
  have hphase : Phase { s with offered := O, held := H, toResponder := rest } := by
    cases h.phase with
    | quiet hq => cases hq.noRequest _ hmem
    | requested htoR hpre hpost hoffer hans hpi hopen =>
      obtain ⟨heq, hrs⟩ := head_eq (hR.symm.trans htoR) hpre rfl
      cases heq
      subst hrs
      rw [hoffer, insert_empty_eq] at hO
      exact .offered hpost hO.subset hans hpi fun hi => ⟨hO ▸ Set.mem_singleton _, hopen hi⟩
    | offered hreq | answered hreq => cases hreq _ hmem
  refine ⟨hphase, ?_, fun m hm => h.fromInitiator m (hR ▸ List.mem_cons_of_mem _ hm),
    h.fromResponder⟩
  intro j hj
  exact (h.backed j hj).mono (fun hj _ => Or.inl (hH hj))
    (fun hmem => hR ▸ List.mem_cons_of_mem _ hmem) id

/-- The user of the responder answers an offer. -/
theorem Inv.answer (hki : (k, i) ∈ s.offered) (hO : O ⊆ s.offered \ {(k, i)})
    (hm : m.isAnswer = true) (hH : s.held ⊆ H) (hacc : m = .accept → i ∈ H) :
    Inv { s with offered := O, held := H, toInitiator := s.toInitiator ++ [m] } := by
  have hphase : Phase { s with
      offered := O, held := H, toInitiator := s.toInitiator ++ [m] } := by
    cases h.phase with
    | quiet hq => exact absurd hki (hq.noOffer ▸ Set.notMem_empty _)
    | requested _ _ _ hoffer | answered _ hoffer => exact absurd hki (hoffer ▸ Set.notMem_empty _)
    | offered hreq hoffer hans hpi hpend =>
      cases hoffer hki
      refine .answered hreq ?_ rfl hans (fun _ hy => absurd hy List.not_mem_nil) hm hpi ?_
      · apply Set.subset_empty_iff.mp
        intro x hx
        exact absurd (hoffer (hO hx).1) (hO hx).2
      · intro hi hmaccept
        exact Or.inl ⟨hacc hmaccept, (hpend hi).2⟩
  refine ⟨hphase, fun j hj => ?_, h.fromInitiator, forall_append h.fromResponder ?_⟩
  · exact (h.backed j hj).mono (fun hj _ => Or.inl (hH hj)) id fun hmem =>
      List.mem_append_left _ hmem
  · cases m <;> first | rfl | cases hm

/-- An answer at the head of the channel is the only thing unanswered, and if it is an acceptance
then what is pending is backed. -/
theorem Inv.answer_head (hI : s.toInitiator = m :: rest) (hm : m.isAnswer = true) :
    NoRequest s.toResponder ∧ s.offered = ∅ ∧ NoAnswer rest ∧ ∀ i ∈ s.pending,
      m = .accept → Backed s i := by
  have hmem : m ∈ s.toInitiator := hI ▸ List.mem_cons_self ..
  have hn : ¬ NoAnswer s.toInitiator := by
    intro hans
    rw [hans m hmem] at hm
    cases hm
  cases h.phase with
  | quiet hq => exact absurd hq.noAnswer hn
  | requested _ _ _ _ hans | offered _ _ hans => exact absurd hans hn
  | answered hreq hoffer htoI hpre hpost _ hpi hbacked =>
    obtain ⟨rfl, rfl⟩ := head_eq (hI.symm.trans htoI) hpre hm
    refine ⟨hreq, hoffer, hpost, ?_⟩
    intro j hj hacc
    cases hpi hj
    exact hbacked hj hacc

/-- The initiator receives the answer to what is pending, or drops an answer when nothing is; an
accepted connection is confirmed. Either way nothing is left unanswered. -/
theorem Inv.conclude (hI : s.toInitiator = m :: rest) (hm : m.isAnswer = true)
    (hK : ∀ j ∈ K, j ∈ s.connected ∨ (j ∈ s.pending ∧ m = .accept)) {sent}
    (hsent : ∀ x ∈ sent, x = .confirm) :
    Inv { s with
      pending := ∅, connected := K, toResponder := s.toResponder ++ sent, toInitiator := rest } ∧
    Quiet { s with
      pending := ∅, connected := K, toResponder := s.toResponder ++ sent,
        toInitiator := rest } := by
  obtain ⟨hreq, hoffer, hans, hbacked⟩ := h.answer_head hI hm
  have hq : Quiet { s with
      pending := ∅, connected := K, toResponder := s.toResponder ++ sent,
        toInitiator := rest } := by
    refine ⟨?_, hoffer, hans⟩
    intro x hx
    rcases List.mem_append.mp hx with hx | hx
    · exact hreq x hx
    · rw [hsent x hx]
      rfl
  refine ⟨⟨.quiet hq rfl, ?_, ?_, ?_⟩, hq⟩
  · intro j hj
    have hj : Backed s j := by
      rcases hK j hj with hj | ⟨hj, hacc⟩
      · exact h.backed j hj
      · exact hbacked j hj hacc
    refine hj.mono (fun hj _ => Or.inl hj) ?_ ?_
    · intro hmem
      rcases List.mem_append.mp hmem with hmem | hmem
      · exact hmem
      · cases hsent _ hmem
    · intro hmem
      rw [hI] at hmem
      rcases List.mem_cons.mp hmem with rfl | hmem
      · cases hm
      · exact hmem
  · intro x hx
    rcases List.mem_append.mp hx with hx | hx
    · exact h.fromInitiator x hx
    · rw [hsent x hx]
      rfl
  · intro x hx
    exact h.fromResponder x (hI ▸ List.mem_cons_of_mem _ hx)

end

end Lib.Handshake
