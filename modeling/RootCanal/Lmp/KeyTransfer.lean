import RootCanal.Lmp.Sessions

/-!
# A public key goes over

One side sends its public key in chunks of sixteen octets, each after the one before has been
answered, and the other side puts the chunks together.

* `safe_chunks`, `safe_publicKey`: the two loops run in lock step, chunk by chunk.  What each side
  sends is noted.
* **`public_key_transferred`**: two link managers that are at the transfer come to its end in every
  run, with the key that was sent, every packet of it acknowledged, and nothing left in the queues.

Source: `lmp/procedure/secure_simple_pairing.rs` `send_public_key`, `receive_public_key`
-/

namespace RootCanal.Lmp.SecureSimplePairing

open Lib Lib.Session

/-- The packets in which a key is sent. -/
def keyPackets (key : PublicKey) : List Packet :=
  .encapsulatedHeader 1 1 (.ofNat key.size) :: key.chunks.toList.map .encapsulatedPayload

/-- The answers to them. -/
def keyAnswers (key : PublicKey) : List Packet :=
  .accepted .encapsulatedHeader :: List.replicate key.curve.chunkCount
    (.accepted .encapsulatedPayload)

section segments

variable {ω : Type} {ctx : Side → Context} {allowed : Side → Command → Prop}
  {noted : Output → Option ω}
  {final : (Side → List ω) → Prop} {log log' : List ω} {x : Side}

/-- What is noted of packets that are sent. -/
def notedOf (noted : Output → Option ω) (ps : List Packet) : List ω :=
  ps.filterMap fun p => noted (.packet p)

theorem notedOf_cons (p : Packet) (ps : List Packet) :
    notedOf noted (p :: ps) = (noted (.packet p)).toList ++ notedOf noted ps := by
  unfold notedOf
  rw [List.filterMap_cons]
  cases noted (.packet p) <;> rfl

/-- The chunks of a key arrive one by one. By induction on the chunks. -/
theorem safe_chunks (chunks : List Chunk) {n : ℕ} (hn : n = chunks.length) {k k'}
    (h : ∀ v : List.Vector Chunk n, v.toList = chunks →
      Safe (session ctx allowed noted final) (joint x
      ⟨k (), log ++ notedOf noted (chunks.map .encapsulatedPayload)⟩
      ⟨k' v, log' ++ notedOf noted (List.replicate n (.accepted .encapsulatedPayload))⟩ [] [])) :
    Safe (session ctx allowed noted final) (joint x ⟨(sendChunks chunks).bind k, log⟩
      ⟨(receiveChunks n).bind k', log'⟩ [] []) := by
  induction chunks generalizing n log log' with
  | nil =>
    subst hn
    have hnil : Safe _ (joint x ⟨k (), log ++ []⟩ ⟨k' .nil, log' ++ []⟩ [] []) := h .nil rfl
    rwa [List.append_nil, List.append_nil] at hnil
  | cons chunk chunks ih =>
    subst hn
    refine .noteL (fun _ => rfl) (.receiveR rfl ?_)
    refine .noteR (fun _ => rfl) (.receiveL rfl ?_)
    show Safe _ (joint x ⟨(sendChunks chunks).bind k, _⟩
      ⟨((receiveChunks chunks.length).bind fun v => .ret (.cons chunk v)).bind k', _⟩ [] [])
    rw [Proc.bind_assoc]
    refine ih rfl fun v hv => ?_
    have hcons := h (.cons chunk v) (by rw [List.Vector.toList_cons, hv])
    rw [List.map_cons, notedOf_cons, List.length_cons, List.replicate_succ, notedOf_cons,
      ← List.append_assoc, ← List.append_assoc] at hcons
    exact hcons

/-- A key arrives as it was sent. -/
theorem safe_publicKey (key : PublicKey) {k k'}
    (h : Safe (session ctx allowed noted final)
      (joint x ⟨k (), log ++ notedOf noted (keyPackets key)⟩
      ⟨k' key, log' ++ notedOf noted (keyAnswers key)⟩ [] [])) :
    Safe (session ctx allowed noted final) (joint x ⟨(sendPublicKey key).bind k, log⟩
      ⟨receivePublicKey.bind k', log'⟩ [] []) := by
  obtain ⟨curve, chunks⟩ := key
  rw [keyPackets, keyAnswers, notedOf_cons, notedOf_cons, ← List.append_assoc, ← List.append_assoc]
    at h
  refine .noteL (fun _ => rfl) (.receiveR rfl ?_)
  cases curve with
  | p192 =>
    refine .noteR (fun _ => rfl) (.receiveL rfl ?_)
    show Safe _ (joint x ⟨(sendChunks chunks.toList).bind k, _⟩
      ⟨((receiveChunks 3).bind fun v => .ret ⟨.p192, v⟩).bind k', _⟩ [] [])
    rw [Proc.bind_assoc]
    refine safe_chunks _ chunks.toList_length.symm fun v hv => ?_
    rw [List.Vector.toList_injective hv]
    exact h
  | p256 =>
    refine .noteR (fun _ => rfl) (.receiveL rfl ?_)
    show Safe _ (joint x ⟨(sendChunks chunks.toList).bind k, _⟩
      ⟨((receiveChunks 4).bind fun v => .ret ⟨.p256, v⟩).bind k', _⟩ [] [])
    rw [Proc.bind_assoc]
    refine safe_chunks _ chunks.toList_length.symm fun v hv => ?_
    rw [List.Vector.toList_injective hv]
    exact h

end segments

/-! ## The transfer -/

/-- The packet of an output, unless it is about features. -/
def exchanged? : Output → Option Packet
  | .packet (.featuresResExt _ _ _) => none
  | .packet p => some p
  | .event _ => none

/-- The receiver compares its key with the one that was sent. -/
def checkKey (key key' : PublicKey) : Procedure Unit :=
  if key' = key then .ret () else .panic .assertion

/-- Two link managers in an authentication: the procedure of one is about to send its key, that of
the other to receive it.  Nothing is in the queues. -/
def transferring (ctx : Side → Context) (x : Side) (key : PublicKey) : Pair where
  node y :=
    let current := if y = x then sendPublicKey key else receivePublicKey.bind (checkKey key)
    ⟨tasksWith (ctx y) y ⟨mainProcedure (ctx y) y, current, 0⟩ 0, none, []⟩
  inbox _ := []

/-- **A key is transferred.**  In every run of ticks and deliveries: the two are not stuck before
the end, every order of ticks and deliveries that do something comes to the end, and then the
receiver has the key that was sent, each packet of the key has been sent once and has been accepted,
and both queues are empty. -/
theorem public_key_transferred (ctx : Side → Context) (x : Side) (key : PublicKey)
    {tr : List (Duplex.Input Input Unit × List (Side × Output))} {s : Pair}
    (h : pair.Run (Answered fun _ _ => False) (transferring ctx x key) tr s) :
    (Stuck s → Ended s) ∧ pair.Concludes (Answered fun _ _ => False) Idle Ended s ∧
      (Ended s → told exchanged? x tr = keyPackets key ∧
        told exchanged? x.other tr = keyAnswers key ∧
        ∀ y, s.inbox y = [] ∧ (s.node y).lmp = []) := by
  let R := session ctx (fun _ _ => False) exchanged?
    fun logs => logs x = keyPackets key ∧ logs x.other = keyAnswers key
  have hpackets : notedOf exchanged? (keyPackets key) = keyPackets key := by
    simp [notedOf, keyPackets, exchanged?, List.filterMap_map]
  have hanswers : notedOf exchanged? (keyAnswers key) = keyAnswers key := by
    simp [notedOf, keyAnswers, exchanged?]
  have hsafe :
      Safe R
      (joint x ⟨(sendPublicKey key).bind .ret, []⟩
      ⟨receivePublicKey.bind (checkKey key), []⟩ [] []) := by
    refine safe_publicKey key ?_
    rw [checkKey, if_pos rfl, hpackets, hanswers]
    exact .ret ⟨if_pos rfl, if_neg (Side.other_ne x)⟩
  rw [Proc.bind_ret] at hsafe
  have hsim : Simulates ctx (transferring ctx x key) (joint x
      (⟨sendPublicKey key, []⟩ : Party Future Packet Prompt Command Event Packet)
      ⟨receivePublicKey.bind (checkKey key), []⟩ [] []) := by
    refine ⟨(Side.forall_iff x).mpr ⟨⟨_, 0, rfl, rfl, ?_⟩, ⟨_, 0, rfl, rfl, ?_⟩⟩,
      (Side.forall_iff x).mpr ⟨joint_inbox_self, joint_inbox_other⟩⟩
    · rw [joint_node_self]
      have hrun :=
          Position.running (x := x) (t := ⟨mainProcedure (ctx x) x, sendPublicKey key, 0⟩) rfl nofun
      simpa [transferring] using hrun
    · rw [joint_node_other]
      have hrun := Position.running (x := x.other)
        (t := ⟨mainProcedure (ctx x.other) x.other, receivePublicKey.bind (checkKey key), 0⟩) rfl
          nofun
      simpa [transferring] using hrun
  have hlog : ∀ y,
      ((joint x (⟨sendPublicKey key, []⟩ : Party Future Packet Prompt Command Event Packet)
      ⟨receivePublicKey.bind (checkKey key), []⟩ [] []).node y).log = [] :=
    (Side.forall_iff x).mpr ⟨by rw [joint_node_self], by rw [joint_node_other]⟩
  have hrules : LinkRules ctx exchanged? R := linkRules_session fun _ _ _ => rfl
  obtain ⟨hstuck, hconcludes, -, hend⟩ := run_concludes (fun _ _ => False.elim) hrules
    hsafe.guided hsim hlog h
  exact ⟨hstuck, hconcludes, fun h => ⟨(hend h).1.1, (hend h).1.2, (hend h).2⟩⟩

/-- The left device sends a key of 48 octets, in three packets. -/
theorem public_key_transferred_p192 : let ctx : Side → Context := fun _ =>
      ⟨fun _ => 0, fun curve => ⟨curve, .replicate _ (.replicate 16 0)⟩, fun _ _ => none⟩
    let key : PublicKey := ⟨.p192, .replicate _ (.replicate 16 7)⟩
    ∃ tr s, pair.Run (Answered fun _ _ => False) (transferring ctx .left key) tr s ∧ Ended s ∧
      told exchanged? .left tr = keyPackets key ∧ told exchanged? .right tr = keyAnswers key ∧
        ∀ y, s.inbox y = [] ∧ (s.node y).lmp = [] := by
  intro ctx key
  refine pair.run_and (turns 6) (by decide +kernel) (by decide +kernel) fun tr s hrun hend => ?_
  exact (public_key_transferred ctx .left key hrun).2.2 hend

end RootCanal.Lmp.SecureSimplePairing
