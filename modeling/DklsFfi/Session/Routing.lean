import DklsFfi.Keygen.Session
import DklsFfi.Sign.Session

/-!
The routing of what a session sends. Each round sends one message type, and
`Message::new` reads the routing of every message off its payload through the
type's `MessageRouting`: first and round-4 messages are broadcast (to 255),
round-2 and round-3 messages go to the party the engine names. Every message a
call hands to the host is such an envelope, of the type its session's round
sends.
-/

namespace DklsFfi

/-- An early return hands back no message. -/
theorem reject_messages {Sess E K : Type} {session : Option Sess} {ret : Ret K}
    {errOut : Bool} {msg : String} {r : Reply Sess E K}
    (h : reject session ret errOut msg = .ok r) (hret : ret.messages = []) :
    r.ret.messages = [] := by
  rw [(reject_session h).2.1, hret]

namespace Keygen

variable {D : Dkg}

/-- What a keygen session sends from its round: the first message from
`Init`, then the next round's messages from `WaitMsg1` to `WaitMsg3`.
`WaitMsg4` and the terminal rounds send nothing. -/
def KeygenSessionHandle.Sends (s : KeygenSessionHandle D) : Message → Prop :=
  match s.round with
  | .init => Message.Envelopes D.msg1 (KeygenMsg1.routing D)
  | .waitMsg1 => Message.Envelopes D.msg2 (KeygenMsg2.routing D)
  | .waitMsg2 => Message.Envelopes D.msg3 (KeygenMsg3.routing D)
  | .waitMsg3 => Message.Envelopes D.msg4 (KeygenMsg4.routing D)
  | _ => fun _ => False

section Calls

variable {handle : Option (KeygenSessionHandle D)} {errOut out : Bool} {r : KeygenReply D}

/-- A round run by the generic helper sends the helper's outbound type. -/
theorem sends_of_handleMessages {T U : WireType} {s : KeygenSessionHandle D}
    {msgs : Option (List Message)}
    {h : D.State → List T.T → D.State × Except D.KeygenError (List U.T)}
    {routing : MessageRouting U.T} {next : Round D.Keyshare}
    {event : Option D.KeygenError → KeygenEvent D}
    (hsends : s.Sends = Message.Envelopes U routing)
    (hr : (do let x ← handleMessages s msgs h routing next event
              pure (finishRound x errOut out)) = .ok r) :
    ∀ m ∈ r.ret.messages, ∃ s', some s = some s' ∧ s'.Sends m := by
  obtain ⟨⟨s', res, events⟩, hx, hr⟩ := except_bind_eq_ok.mp hr
  cases hr
  intro m hm
  obtain ⟨outVec, hres, hmem⟩ := finishRound_messages _ _ _ m hm
  cases hres
  exact ⟨s, rfl, hsends ▸ handleMessagesWith_envelopes hx m hmem⟩

theorem dklsKeygenCreateFirstMessage_sends
    (h : dklsKeygenCreateFirstMessage handle errOut = .ok r) :
    ∀ m ∈ r.ret.messages, ∃ s, handle = some s ∧ s.Sends m := by
  rcases handle with _ | s
  · rw [reject_messages h rfl]; nofun
  · simp only [dklsKeygenCreateFirstMessage] at h
    split at h
    · rename_i hround
      obtain ⟨msg, hmsg, h⟩ := except_bind_eq_ok.mp h
      cases h
      intro m hm
      cases List.mem_singleton.mp hm
      exact ⟨s, rfl, by simpa [KeygenSessionHandle.Sends, hround] using Message.new_envelopes hmsg⟩
    · rw [reject_messages h rfl]; nofun

theorem dklsKeygenHandleMessages_sends {msgs : Option (List Message)}
    {commitments seed : Option (List UInt8)} {entropy : Bytes 32}
    (h : dklsKeygenHandleMessages handle msgs commitments seed entropy errOut out = .ok r) :
    ∀ m ∈ r.ret.messages, ∃ s, handle = some s ∧ s.Sends m := by
  rcases handle with _ | s
  · rw [reject_messages h rfl]; nofun
  · obtain ⟨rng, -, h⟩ := except_bind_eq_ok.mp h
    split at h
    case h_1 hround =>
      exact sends_of_handleMessages (by simp [KeygenSessionHandle.Sends, hround]) h
    case h_2 hround =>
      exact sends_of_handleMessages (by simp [KeygenSessionHandle.Sends, hround]) h
    case h_3 hround =>
      split at h
      · rw [reject_messages h rfl]; nofun
      · split at h
        · rw [reject_messages h rfl]; nofun
        · split at h
          · rw [reject_messages h rfl]; nofun
          · obtain ⟨commitments, -, h⟩ := except_bind_eq_ok.mp h
            exact sends_of_handleMessages (by simp [KeygenSessionHandle.Sends, hround]) h
    case h_4 =>
      obtain ⟨ms, -, h⟩ := except_bind_eq_ok.mp h
      split at h
      · obtain ⟨err, -, h⟩ := except_bind_eq_ok.mp h
        cases h
        nofun
      · split at h
        · cases h
          intro m hm
          obtain ⟨outVec, hres, hmem⟩ := finishRound_messages _ _ _ m hm
          cases hres
          cases hmem
        · obtain ⟨err, -, h⟩ := except_bind_eq_ok.mp h
          cases h
          intro m hm
          obtain ⟨outVec, hres, -⟩ := finishRound_messages _ _ _ m hm
          cases hres
    case h_5 => rw [reject_messages h rfl]; nofun
    case h_6 => rw [reject_messages h rfl]; nofun

/-- The commitment query returns no message. -/
theorem dklsKeygenCalculateCommitment2_messages
    (h : dklsKeygenCalculateCommitment2 handle out = .ok r) : r.ret.messages = [] := by
  simp only [dklsKeygenCalculateCommitment2] at h
  split at h
  · cases h; rfl
  · split at h
    · split at h <;> cases h <;> rfl
    · cases h; rfl

/-- The keyshare extraction returns no message. -/
theorem dklsKeygenKeyshare_messages (h : dklsKeygenKeyshare handle errOut = .ok r) :
    r.ret.messages = [] := by
  simp only [dklsKeygenKeyshare] at h
  split at h
  · exact reject_messages h rfl
  · split at h
    · cases h; rfl
    · exact reject_messages h rfl
    · exact reject_messages h rfl

/-- Every message a keygen call hands back is one its session sends from
the round it was in. -/
theorem KeygenCall.apply_sends (c : KeygenCall) (h : c.apply handle = .ok r) :
    ∀ m ∈ r.ret.messages, ∃ s, handle = some s ∧ s.Sends m := by
  cases c with
  | createFirstMessage errOut => exact dklsKeygenCreateFirstMessage_sends h
  | handleMessages msgs commitments seed entropy errOut out =>
      exact dklsKeygenHandleMessages_sends h
  | calculateCommitment2 out => rw [dklsKeygenCalculateCommitment2_messages h]; nofun
  | keyshare errOut => rw [dklsKeygenKeyshare_messages h]; nofun
  | free => cases h; nofun

end Calls

end Keygen

namespace Sign

variable {K : Type} {S : Dsg K}

/-- What a sign session sends from its round: the first message from `Init`,
round-2 and round-3 messages from `WaitMsg1` and `WaitMsg2`, and its round-4
message from `Pre`. Round 3 ends in `Pre` with nothing sent. -/
def SignSessionHandle.Sends (s : SignSessionHandle S) : Message → Prop :=
  match s.round with
  | .init => Message.Envelopes S.msg1 (SignMsg1.routing S)
  | .waitMsg1 => Message.Envelopes S.msg2 (SignMsg2.routing S)
  | .waitMsg2 => Message.Envelopes S.msg3 (SignMsg3.routing S)
  | .pre _ => Message.Envelopes S.msg4 (SignMsg4.routing S)
  | _ => fun _ => False

section Calls

variable {handle : Option (SignSessionHandle S)} {errOut out : Bool} {r : SignReply S}

/-- A round run by the generic helper sends the helper's outbound type. -/
theorem sends_of_handleMessages {T U : WireType} {s : SignSessionHandle S}
    {msgs : Option (List Message)}
    {h : S.State → List T.T → S.State × Except S.SignError (List U.T)}
    {routing : MessageRouting U.T} {next : Round S.PreSignature S.PartialSignature}
    {event : Option S.SignError → SignEvent S}
    (hsends : s.Sends = Message.Envelopes U routing)
    (hr : (do let x ← handleMessages s msgs h routing next event
              pure (finishRound x errOut out)) = .ok r) :
    ∀ m ∈ r.ret.messages, ∃ s', some s = some s' ∧ s'.Sends m := by
  obtain ⟨⟨s', res, events⟩, hx, hr⟩ := except_bind_eq_ok.mp hr
  cases hr
  intro m hm
  obtain ⟨outVec, hres, hmem⟩ := finishRound_messages _ _ _ m hm
  cases hres
  exact ⟨s, rfl, hsends ▸ handleMessagesWith_envelopes hx m hmem⟩

theorem dklsSignCreateFirstMessage_sends
    (h : dklsSignCreateFirstMessage handle errOut = .ok r) :
    ∀ m ∈ r.ret.messages, ∃ s, handle = some s ∧ s.Sends m := by
  rcases handle with _ | s
  · rw [reject_messages h rfl]; nofun
  · simp only [dklsSignCreateFirstMessage] at h
    split at h
    · rename_i hround
      obtain ⟨msg, hmsg, h⟩ := except_bind_eq_ok.mp h
      cases h
      intro m hm
      cases List.mem_singleton.mp hm
      exact ⟨s, rfl, by simpa [SignSessionHandle.Sends, hround] using Message.new_envelopes hmsg⟩
    · rw [reject_messages h rfl]; nofun

theorem dklsSignHandleMessages_sends {msgs : Option (List Message)}
    {seed : Option (List UInt8)} {entropy : Bytes 32}
    (h : dklsSignHandleMessages handle msgs seed entropy errOut out = .ok r) :
    ∀ m ∈ r.ret.messages, ∃ s, handle = some s ∧ s.Sends m := by
  rcases handle with _ | s
  · rw [reject_messages h rfl]; nofun
  · obtain ⟨rng, -, h⟩ := except_bind_eq_ok.mp h
    split at h
    case h_1 hround =>
      exact sends_of_handleMessages (by simp [SignSessionHandle.Sends, hround]) h
    case h_2 hround =>
      exact sends_of_handleMessages (by simp [SignSessionHandle.Sends, hround]) h
    case h_3 =>
      obtain ⟨ms, -, h⟩ := except_bind_eq_ok.mp h
      split at h
      · obtain ⟨err, -, h⟩ := except_bind_eq_ok.mp h
        cases h
        nofun
      · split at h
        · cases h
          intro m hm
          obtain ⟨outVec, hres, hmem⟩ := finishRound_messages _ _ _ m hm
          cases hres
          cases hmem
        · obtain ⟨err, -, h⟩ := except_bind_eq_ok.mp h
          cases h
          intro m hm
          obtain ⟨outVec, hres, -⟩ := finishRound_messages _ _ _ m hm
          cases hres
    case h_4 => rw [reject_messages h rfl]; nofun
    case h_5 => rw [reject_messages h rfl]; nofun

theorem dklsSignLastMessage_sends {messageHash : CSlice UInt8}
    (h : dklsSignLastMessage handle messageHash errOut = .ok r) :
    ∀ m ∈ r.ret.messages, ∃ s, handle = some s ∧ s.Sends m := by
  rcases handle with _ | s
  · rw [reject_messages h rfl]; nofun
  · simp only [dklsSignLastMessage] at h
    split at h
    · rw [reject_messages h rfl]; nofun
    · obtain ⟨hashSlice, -, h⟩ := except_bind_eq_ok.mp h
      obtain ⟨hash, -, h⟩ := except_bind_eq_ok.mp h
      split at h
      · rename_i pre hround
        obtain ⟨msg, hmsg, h⟩ := except_bind_eq_ok.mp h
        cases h
        intro m hm
        cases List.mem_singleton.mp hm
        exact ⟨s, rfl, by simpa [SignSessionHandle.Sends, hround] using Message.new_envelopes hmsg⟩
      · rw [reject_messages h rfl]; nofun

/-- The combination returns no message, whatever its outcome. -/
theorem dklsSignCombine_messages {msgs : Option (List Message)} {rOut sOut : Bool}
    (h : dklsSignCombine handle msgs rOut sOut errOut = .ok r) : r.ret.messages = [] := by
  simp only [dklsSignCombine] at h
  split at h
  · exact reject_messages h rfl
  · split at h
    · exact reject_messages h rfl
    · split at h
      · obtain ⟨ms, -, h⟩ := except_bind_eq_ok.mp h
        split at h
        · exact reject_messages h rfl
        · split at h
          · split at h
            · cases h; rfl
            · obtain ⟨err, -, h⟩ := except_bind_eq_ok.mp h
              cases h; rfl
          · obtain ⟨err, -, h⟩ := except_bind_eq_ok.mp h
            cases h; rfl
      · exact reject_messages h rfl

/-- Every message a sign call hands back is one its session sends from the
round it was in. -/
theorem SignCall.apply_sends (c : SignCall) (h : c.apply handle = .ok r) :
    ∀ m ∈ r.ret.messages, ∃ s, handle = some s ∧ s.Sends m := by
  cases c with
  | createFirstMessage errOut => exact dklsSignCreateFirstMessage_sends h
  | handleMessages msgs seed entropy errOut out => exact dklsSignHandleMessages_sends h
  | lastMessage messageHash errOut => exact dklsSignLastMessage_sends h
  | combine msgs rOut sOut errOut => rw [dklsSignCombine_messages h]; nofun
  | free => cases h; nofun

end Calls

end Sign

open Keygen Sign

/-- Every message a call on a session hands to the host (a first message, a
batch written through `out`, the round-4 message of
`dkls_sign_last_message`) comes from a live session, and is the envelope
`Message::new` builds for a value of the type that session's round sends:
its payload encodes the value, its sender is the value's `from_id`, and it is
broadcast (to 255) for first and round-4 messages and addressed to the
value's `to_id` for round-2 and round-3 messages. A call on a null handle,
the last keygen round, sign round 3, the commitment query, the keyshare
extraction, the combination and the frees hand back no message. -/
theorem outbound_messages_are_routed_by_round {D : Dkg} {S : Dsg D.Keyshare} :
    (∀ (c : KeygenCall) (handle : Option (KeygenSessionHandle D)) (r : KeygenReply D),
      c.apply handle = .ok r → ∀ m ∈ r.ret.messages, ∃ s, handle = some s ∧ s.Sends m) ∧
    (∀ (c : SignCall) (handle : Option (SignSessionHandle S)) (r : SignReply S),
      c.apply handle = .ok r → ∀ m ∈ r.ret.messages, ∃ s, handle = some s ∧ s.Sends m) :=
  ⟨fun c _ _ h => c.apply_sends h, fun c _ _ h => c.apply_sends h⟩

/-- The first message of a keygen session in `Init` is a round-1 message the
session sends. -/
theorem outbound_messages_are_routed_by_round_first_message :
    ∃ r, (KeygenCall.createFirstMessage true).apply
        (some (KeygenSessionHandle.new (D := unitDkg) () 2)) = .ok r ∧ r.ret.messages ≠ [] ∧
      ∀ m ∈ r.ret.messages, ∃ s, some (KeygenSessionHandle.new (D := unitDkg) () 2) = some s ∧
        s.Sends m :=
  ⟨_, rfl, nofun, (outbound_messages_are_routed_by_round (D := unitDkg) (S := unitDsg)).1
    (.createFirstMessage true) (some (KeygenSessionHandle.new () 2)) _ rfl⟩

end DklsFfi
