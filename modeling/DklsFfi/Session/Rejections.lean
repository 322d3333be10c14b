import DklsFfi.Keygen.Commitments
import DklsFfi.Sign.Session

/-!
The calls that the entry points turn away before any engine step: null
outputs, a wrong buffer length, a round other than the one the call needs.
Each is stated as an exact equation: the handle keeps the very session it
had, round payload and engine state included, the call returns its failure
value, writes its error of code 1 when `err_out` is not null, and runs no
engine step. A call that takes a seed turns it into a generator first, so
the rejection is preceded by the seed check of `afterSeed`.

A batch that does not decode is treated two ways. The generic
`handle_messages` helpers return the decode error and leave the session as it
was, so the round can be retried; the two final rounds decode inline and fail
the session.
-/

namespace DklsFfi

/-- The reply of a call turned away before any engine step: the session
given back as it was, the failure value `ret`, and the error `msg` of code 1
written through `err_out`. -/
def rejected {Sess E K : Type} (s : Sess) (ret : Ret K) (errOut : Bool) (msg : String) :
    Reply Sess E K :=
  ⟨some s, ret, writeErr errOut ⟨msg, 1⟩, []⟩

theorem reject_eq_rejected {Sess E K : Type} (s : Sess) (ret : Ret K) (errOut : Bool)
    {msg : String} (h : nul ∉ msg.data) :
    (reject (some s) ret errOut msg : Except Fault (Reply Sess E K)) =
      .ok (rejected s ret errOut msg) :=
  reject_of_nul_free h _ _ _

open Keygen Sign

/-- The boundary and state rejections of the session entry points over the
engines `D` and `S`. -/
structure Rejections (D : Dkg) {K : Type} (S : Dsg K) : Prop where
  sign_combine_null_output : ∀ (s : SignSessionHandle S) msgs (rOut sOut errOut : Bool),
    (rOut && sOut) = false →
      dklsSignCombine (some s) msgs rOut sOut errOut =
        .ok (rejected s (.signature (-1) none) errOut "null handle or output")
  keygen_commitments_missing : ∀ (s : KeygenSessionHandle D) msgs commitments seed entropy
    errOut out, s.round = .waitMsg3 → (commitments = none ∨ commitments = some []) →
      dklsKeygenHandleMessages (some s) msgs commitments seed entropy errOut out =
        afterSeed seed (.ok (rejected s (.status (-1) none) errOut "commitments required"))
  keygen_commitments_length : ∀ (s : KeygenSessionHandle D) msgs (bytes : List UInt8) seed
    entropy errOut out, s.round = .waitMsg3 → bytes ≠ [] → bytes.length ≠ s.n * 32 →
      dklsKeygenHandleMessages (some s) msgs (some bytes) seed entropy errOut out =
        afterSeed seed
          (.ok (rejected s (.status (-1) none) errOut "invalid commitments length"))
  sign_hash_length : ∀ (s : SignSessionHandle S) (messageHash : CSlice UInt8) errOut,
    messageHash.len ≠ 32 →
      dklsSignLastMessage (some s) messageHash errOut =
        .ok (rejected s (.message none) errOut "invalid message hash")
  keygen_first_message_round : ∀ (s : KeygenSessionHandle D) errOut, s.round ≠ .init →
    dklsKeygenCreateFirstMessage (some s) errOut =
      .ok (rejected s (.message none) errOut "invalid state")
  keygen_handle_failed : ∀ (s : KeygenSessionHandle D) msgs commitments seed entropy
    errOut out, s.round = .failed →
      dklsKeygenHandleMessages (some s) msgs commitments seed entropy errOut out =
        afterSeed seed (.ok (rejected s (.status (-1) none) errOut "failed session"))
  keygen_handle_round : ∀ (s : KeygenSessionHandle D) msgs commitments seed entropy
    errOut out, (s.round = .init ∨ ∃ keyshare, s.round = .share keyshare) →
      dklsKeygenHandleMessages (some s) msgs commitments seed entropy errOut out =
        afterSeed seed (.ok (rejected s (.status (-1) none) errOut "invalid session state"))
  sign_first_message_round : ∀ (s : SignSessionHandle S) errOut, s.round ≠ .init →
    dklsSignCreateFirstMessage (some s) errOut =
      .ok (rejected s (.message none) errOut "invalid state")
  sign_handle_failed : ∀ (s : SignSessionHandle S) msgs seed entropy errOut out,
    s.round = .failed →
      dklsSignHandleMessages (some s) msgs seed entropy errOut out =
        afterSeed seed (.ok (rejected s (.status (-1) none) errOut "failed"))
  sign_handle_round : ∀ (s : SignSessionHandle S) msgs seed entropy errOut out,
    (s.round = .init ∨ (∃ pre, s.round = .pre pre) ∨
      (∃ partialSignature, s.round = .waitMsg4 partialSignature) ∨ s.round = .finished) →
      dklsSignHandleMessages (some s) msgs seed entropy errOut out =
        afterSeed seed (.ok (rejected s (.status (-1) none) errOut "invalid session state"))
  sign_last_message_round : ∀ (s : SignSessionHandle S) (messageHash : List UInt8) errOut,
    messageHash.length = 32 → (∀ pre, s.round ≠ .pre pre) →
      dklsSignLastMessage (some s) (.ofList messageHash) errOut =
        .ok (rejected s (.message none) errOut "invalid state")

variable {D : Dkg} {K : Type} {S : Dsg K}

theorem dklsKeygenCreateFirstMessage_rejected {s : KeygenSessionHandle D} {errOut : Bool}
    (hround : s.round ≠ .init) :
    dklsKeygenCreateFirstMessage (some s) errOut =
      .ok (rejected s (.message none) errOut "invalid state") := by
  simp only [dklsKeygenCreateFirstMessage]
  exact reject_eq_rejected _ _ _ (by decide)

theorem dklsSignCreateFirstMessage_rejected {s : SignSessionHandle S} {errOut : Bool}
    (hround : s.round ≠ .init) :
    dklsSignCreateFirstMessage (some s) errOut =
      .ok (rejected s (.message none) errOut "invalid state") := by
  simp only [dklsSignCreateFirstMessage]
  exact reject_eq_rejected _ _ _ (by decide)

theorem dklsSignCombine_rejected {s : SignSessionHandle S} {msgs : Option (List Message)}
    {rOut sOut errOut : Bool} (hnull : (rOut && sOut) = false) :
    dklsSignCombine (some s) msgs rOut sOut errOut =
      .ok (rejected s (.signature (-1) none) errOut "null handle or output") := by
  simp only [dklsSignCombine, hnull, Bool.not_false, if_true]
  exact reject_eq_rejected _ _ _ (by decide)

theorem dklsSignLastMessage_hash_rejected {s : SignSessionHandle S}
    {messageHash : CSlice UInt8} {errOut : Bool} (hlen : messageHash.len ≠ 32) :
    dklsSignLastMessage (some s) messageHash errOut =
      .ok (rejected s (.message none) errOut "invalid message hash") := by
  simp only [dklsSignLastMessage, hlen, if_true, ne_eq, not_false_eq_true]
  exact reject_eq_rejected _ _ _ (by decide)

theorem dklsSignLastMessage_round_rejected {s : SignSessionHandle S}
    {messageHash : List UInt8} {errOut : Bool} (hlen : messageHash.length = 32)
    (hround : ∀ pre, s.round ≠ .pre pre) :
    dklsSignLastMessage (some s) (.ofList messageHash) errOut =
      .ok (rejected s (.message none) errOut "invalid state") := by
  obtain ⟨state, round⟩ := s
  simp only [dklsSignLastMessage, CSlice.ofList, fromRawParts_some, hlen,
    Bytes.tryFrom_of_length hlen, ne_eq, not_true_eq_false, if_false, unwrap_some, except_ok_bind]
  cases round
  case pre pre => exact (hround pre rfl).elim
  all_goals exact reject_eq_rejected _ _ _ (by decide)

section HandleMessages

variable {msgs : Option (List Message)} {seed : Option (List UInt8)} {entropy : Bytes 32}
  {errOut out : Bool}

theorem dklsKeygenHandleMessages_commitments_missing {s : KeygenSessionHandle D}
    {commitments : Option (List UInt8)} (hround : s.round = .waitMsg3)
    (hmissing : commitments = none ∨ commitments = some []) :
    dklsKeygenHandleMessages (some s) msgs commitments seed entropy errOut out =
      afterSeed seed (.ok (rejected s (.status (-1) none) errOut "commitments required")) := by
  simp only [dklsKeygenHandleMessages]
  refine maybeSeededRng_bind_const seed entropy fun rng => ?_
  rcases hmissing with rfl | rfl <;> simp only [hround, List.length_nil, if_true] <;>
    exact reject_eq_rejected _ _ _ (by decide)

theorem dklsKeygenHandleMessages_commitments_length {s : KeygenSessionHandle D}
    {bytes : List UInt8} (hround : s.round = .waitMsg3) (hne : bytes ≠ [])
    (hlen : bytes.length ≠ s.n * 32) :
    dklsKeygenHandleMessages (some s) msgs (some bytes) seed entropy errOut out =
      afterSeed seed
        (.ok (rejected s (.status (-1) none) errOut "invalid commitments length")) := by
  simp only [dklsKeygenHandleMessages]
  refine maybeSeededRng_bind_const seed entropy fun rng => ?_
  simp only [hround, List.length_eq_zero, hne, hlen, if_false, if_true, ne_eq,
    not_false_eq_true]
  exact reject_eq_rejected _ _ _ (by decide)

theorem dklsKeygenHandleMessages_failed {s : KeygenSessionHandle D}
    {commitments : Option (List UInt8)} (hround : s.round = .failed) :
    dklsKeygenHandleMessages (some s) msgs commitments seed entropy errOut out =
      afterSeed seed (.ok (rejected s (.status (-1) none) errOut "failed session")) := by
  simp only [dklsKeygenHandleMessages]
  refine maybeSeededRng_bind_const seed entropy fun rng => ?_
  simp only [hround]
  exact reject_eq_rejected _ _ _ (by decide)

theorem dklsKeygenHandleMessages_round {s : KeygenSessionHandle D}
    {commitments : Option (List UInt8)}
    (hround : s.round = .init ∨ ∃ keyshare, s.round = .share keyshare) :
    dklsKeygenHandleMessages (some s) msgs commitments seed entropy errOut out =
      afterSeed seed
        (.ok (rejected s (.status (-1) none) errOut "invalid session state")) := by
  simp only [dklsKeygenHandleMessages]
  refine maybeSeededRng_bind_const seed entropy fun rng => ?_
  rcases hround with hround | ⟨keyshare, hround⟩ <;> simp only [hround] <;>
    exact reject_eq_rejected _ _ _ (by decide)

theorem dklsSignHandleMessages_failed {s : SignSessionHandle S} (hround : s.round = .failed) :
    dklsSignHandleMessages (some s) msgs seed entropy errOut out =
      afterSeed seed (.ok (rejected s (.status (-1) none) errOut "failed")) := by
  simp only [dklsSignHandleMessages]
  refine maybeSeededRng_bind_const seed entropy fun rng => ?_
  simp only [hround]
  exact reject_eq_rejected _ _ _ (by decide)

theorem dklsSignHandleMessages_round {s : SignSessionHandle S}
    (hround : s.round = .init ∨ (∃ pre, s.round = .pre pre) ∨
      (∃ partialSignature, s.round = .waitMsg4 partialSignature) ∨ s.round = .finished) :
    dklsSignHandleMessages (some s) msgs seed entropy errOut out =
      afterSeed seed
        (.ok (rejected s (.status (-1) none) errOut "invalid session state")) := by
  simp only [dklsSignHandleMessages]
  refine maybeSeededRng_bind_const seed entropy fun rng => ?_
  rcases hround with hround | ⟨_, hround⟩ | ⟨_, hround⟩ | hround <;> simp only [hround] <;>
    exact reject_eq_rejected _ _ _ (by decide)

end HandleMessages


/-- Every call turned away for a boundary or state reason returns its error
and hands back the session it was given, round payload and engine state
included, having run no engine step: null `r_out` or `s_out` in
`dkls_sign_combine`, a missing or wrongly sized commitments buffer in keygen
round 3, a digest that is not 32 bytes long, and a round other than the one
the call needs. -/
theorem rejections_keep_session (D : Dkg) {K : Type} (S : Dsg K) : Rejections D S where
  sign_combine_null_output _ _ _ _ _ hnull := dklsSignCombine_rejected hnull
  keygen_commitments_missing _ _ _ _ _ _ _ hround hmissing :=
    dklsKeygenHandleMessages_commitments_missing hround hmissing
  keygen_commitments_length _ _ _ _ _ _ _ hround hne hlen :=
    dklsKeygenHandleMessages_commitments_length hround hne hlen
  sign_hash_length _ _ _ hlen := dklsSignLastMessage_hash_rejected hlen
  keygen_first_message_round _ _ hround := dklsKeygenCreateFirstMessage_rejected hround
  keygen_handle_failed _ _ _ _ _ _ _ hround := dklsKeygenHandleMessages_failed hround
  keygen_handle_round _ _ _ _ _ _ _ hround := dklsKeygenHandleMessages_round hround
  sign_first_message_round _ _ hround := dklsSignCreateFirstMessage_rejected hround
  sign_handle_failed _ _ _ _ _ _ hround := dklsSignHandleMessages_failed hround
  sign_handle_round _ _ _ _ _ _ hround := dklsSignHandleMessages_round hround
  sign_last_message_round _ _ _ hlen hround := dklsSignLastMessage_round_rejected hlen hround

theorem rejections_keep_session_hash :
    dklsSignLastMessage (S := unitDsg) (some (SignSessionHandle.new ())) (.ofList []) false =
      .ok (rejected (SignSessionHandle.new ()) (.message none) false "invalid message hash") :=
  (rejections_keep_session unitDkg unitDsg).sign_hash_length _ (.ofList []) false (by decide)

/-- What the generic `handle_messages` helpers make of a batch that does not
decode: the decode error, built whether or not `err_out` is null, returned
with the session as it was and no engine step. -/
def decodeRejected {Sess E K : Type} (s : Sess) (errOut : Bool) (e : String) :
    Except Fault (Reply Sess E K) := do
  let err ← GoError.new e 1
  pure ⟨some s, .status (-1) none, writeErr errOut err, []⟩

/-- Some message of the batch does not decode as the round's message type. -/
def Undecodable (W : WireType) (msgs : List Message) : Prop :=
  ∃ msg ∈ msgs, ∃ e, W.decode msg.payload = .error e

/-- What a round-advance call makes of a batch in which some message does not
decode, round by round: the decode error of code 1 and no engine step, with
the session unchanged in the rounds run by the generic helpers and failed in
the two rounds that decode inline. Round 3 of keygen decodes only once its
commitments buffer has passed its checks. -/
structure DecodeFailures (D : Dkg) {K : Type} (S : Dsg K) : Prop where
  keygen_waitMsg1 : ∀ (s : KeygenSessionHandle D) msgs commitments seed entropy errOut out,
    s.round = .waitMsg1 → Undecodable D.msg1 msgs →
      ∃ e, Message.decodeVector D.msg1 msgs = .error e ∧
        dklsKeygenHandleMessages (some s) (some msgs) commitments seed entropy errOut out =
          afterSeed seed (decodeRejected s errOut e)
  keygen_waitMsg2 : ∀ (s : KeygenSessionHandle D) msgs commitments seed entropy errOut out,
    s.round = .waitMsg2 → Undecodable D.msg2 msgs →
      ∃ e, Message.decodeVector D.msg2 msgs = .error e ∧
        dklsKeygenHandleMessages (some s) (some msgs) commitments seed entropy errOut out =
          afterSeed seed (decodeRejected s errOut e)
  keygen_waitMsg3 : ∀ (s : KeygenSessionHandle D) msgs (bytes : List UInt8) seed entropy
    errOut out, s.round = .waitMsg3 → bytes ≠ [] → bytes.length = s.n * 32 →
      Undecodable D.msg3 msgs →
      ∃ e, Message.decodeVector D.msg3 msgs = .error e ∧
        dklsKeygenHandleMessages (some s) (some msgs) (some bytes) seed entropy errOut out =
          afterSeed seed (decodeRejected s errOut e)
  keygen_waitMsg4 : ∀ (s : KeygenSessionHandle D) msgs commitments seed entropy errOut out,
    s.round = .waitMsg4 → Undecodable D.msg4 msgs →
      ∃ e, Message.decodeVector D.msg4 msgs = .error e ∧
        dklsKeygenHandleMessages (some s) (some msgs) commitments seed entropy errOut out =
          afterSeed seed (reject (some { s with round := .failed }) (.status (-1) none) errOut e)
  sign_waitMsg1 : ∀ (s : SignSessionHandle S) msgs seed entropy errOut out,
    s.round = .waitMsg1 → Undecodable S.msg1 msgs →
      ∃ e, Message.decodeVector S.msg1 msgs = .error e ∧
        dklsSignHandleMessages (some s) (some msgs) seed entropy errOut out =
          afterSeed seed (decodeRejected s errOut e)
  sign_waitMsg2 : ∀ (s : SignSessionHandle S) msgs seed entropy errOut out,
    s.round = .waitMsg2 → Undecodable S.msg2 msgs →
      ∃ e, Message.decodeVector S.msg2 msgs = .error e ∧
        dklsSignHandleMessages (some s) (some msgs) seed entropy errOut out =
          afterSeed seed (decodeRejected s errOut e)
  sign_waitMsg3 : ∀ (s : SignSessionHandle S) msgs seed entropy errOut out,
    s.round = .waitMsg3 → Undecodable S.msg3 msgs →
      ∃ e, Message.decodeVector S.msg3 msgs = .error e ∧
        dklsSignHandleMessages (some s) (some msgs) seed entropy errOut out =
          afterSeed seed (reject (some { s with round := .failed }) (.status (-1) none) errOut e)

section Decode

variable {msgs : List Message} {seed : Option (List UInt8)} {entropy : Bytes 32}
  {errOut out : Bool} {e : String}

theorem finishRound_decode_error {Sess St Err Rnd E : Type} {T U : WireType}
    {state : Sess → St} {update : Sess → St → Rnd → Sess} {failed : Rnd}
    {errorToGo : Err → Except Fault GoError} {s : Sess}
    {h : St → List T.T → St × Except Err (List U.T)} {routing : MessageRouting U.T}
    {next : Rnd} {event : Option Err → E} (hdec : Message.decodeVector T msgs = .error e) :
    (handleMessagesWith state update failed errorToGo s (some msgs) h routing next event >>=
        fun r => pure (finishRound r errOut out) : Except Fault (Reply Sess E K)) =
      decodeRejected s errOut e := by
  simp only [handleMessagesWith, fromRawParts_some, except_ok_bind, hdec, decodeRejected]
  cases GoError.new e 1 <;> rfl

theorem dklsKeygenHandleMessages_decode_generic {s : KeygenSessionHandle D}
    {commitments : Option (List UInt8)} {W : WireType}
    (hround : s.round = .waitMsg1 ∧ W = D.msg1 ∨ s.round = .waitMsg2 ∧ W = D.msg2)
    (hdec : Message.decodeVector W msgs = .error e) :
    dklsKeygenHandleMessages (some s) (some msgs) commitments seed entropy errOut out =
      afterSeed seed (decodeRejected s errOut e) := by
  simp only [dklsKeygenHandleMessages]
  refine maybeSeededRng_bind_const seed entropy fun rng => ?_
  rcases hround with ⟨hround, rfl⟩ | ⟨hround, rfl⟩ <;> simp only [hround] <;>
    exact finishRound_decode_error hdec

theorem dklsKeygenHandleMessages_decode_waitMsg3 {s : KeygenSessionHandle D}
    {bytes : List UInt8} (hround : s.round = .waitMsg3) (hne : bytes ≠ [])
    (hlen : bytes.length = s.n * 32) (hdec : Message.decodeVector D.msg3 msgs = .error e) :
    dklsKeygenHandleMessages (some s) (some msgs) (some bytes) seed entropy errOut out =
      afterSeed seed (decodeRejected s errOut e) := by
  obtain ⟨cs, hcs, -⟩ := collectCommitments_of_length hlen
  rw [dklsKeygenHandleMessages_waitMsg3 hround hne hlen hcs]
  exact maybeSeededRng_bind_const seed entropy fun rng => finishRound_decode_error hdec

theorem dklsKeygenHandleMessages_decode_waitMsg4 {s : KeygenSessionHandle D}
    {commitments : Option (List UInt8)} (hround : s.round = .waitMsg4)
    (hdec : Message.decodeVector D.msg4 msgs = .error e) :
    dklsKeygenHandleMessages (some s) (some msgs) commitments seed entropy errOut out =
      afterSeed seed (reject (some { s with round := .failed }) (.status (-1) none) errOut e) := by
  simp only [dklsKeygenHandleMessages]
  refine maybeSeededRng_bind_const seed entropy fun rng => ?_
  simp only [hround, fromRawParts_some, except_ok_bind, hdec]
  rfl

theorem dklsSignHandleMessages_decode_generic {s : SignSessionHandle S} {W : WireType}
    (hround : s.round = .waitMsg1 ∧ W = S.msg1 ∨ s.round = .waitMsg2 ∧ W = S.msg2)
    (hdec : Message.decodeVector W msgs = .error e) :
    dklsSignHandleMessages (some s) (some msgs) seed entropy errOut out =
      afterSeed seed (decodeRejected s errOut e) := by
  simp only [dklsSignHandleMessages]
  refine maybeSeededRng_bind_const seed entropy fun rng => ?_
  rcases hround with ⟨hround, rfl⟩ | ⟨hround, rfl⟩ <;> simp only [hround] <;>
    exact finishRound_decode_error hdec

theorem dklsSignHandleMessages_decode_waitMsg3 {s : SignSessionHandle S}
    (hround : s.round = .waitMsg3) (hdec : Message.decodeVector S.msg3 msgs = .error e) :
    dklsSignHandleMessages (some s) (some msgs) seed entropy errOut out =
      afterSeed seed (reject (some { s with round := .failed }) (.status (-1) none) errOut e) := by
  simp only [dklsSignHandleMessages]
  refine maybeSeededRng_bind_const seed entropy fun rng => ?_
  simp only [hround, fromRawParts_some, except_ok_bind, hdec]
  rfl

end Decode

/-- Over every batch in which some message does not decode, each round-advance
call runs no engine step and returns the decode error with code 1. The final
rounds, decoded inline, leave the session `Failed`; the rounds run by the
generic helpers leave it exactly as it was. -/
theorem decode_failures_by_round (D : Dkg) {K : Type} (S : Dsg K) : DecodeFailures D S where
  keygen_waitMsg1 _ _ _ _ _ _ _ hround hbad := by
    obtain ⟨e, he⟩ := Message.decodeVector_error hbad
    exact ⟨e, he, dklsKeygenHandleMessages_decode_generic (.inl ⟨hround, rfl⟩) he⟩
  keygen_waitMsg2 _ _ _ _ _ _ _ hround hbad := by
    obtain ⟨e, he⟩ := Message.decodeVector_error hbad
    exact ⟨e, he, dklsKeygenHandleMessages_decode_generic (.inr ⟨hround, rfl⟩) he⟩
  keygen_waitMsg3 _ _ _ _ _ _ _ hround hne hlen hbad := by
    obtain ⟨e, he⟩ := Message.decodeVector_error hbad
    exact ⟨e, he, dklsKeygenHandleMessages_decode_waitMsg3 hround hne hlen he⟩
  keygen_waitMsg4 _ _ _ _ _ _ _ hround hbad := by
    obtain ⟨e, he⟩ := Message.decodeVector_error hbad
    exact ⟨e, he, dklsKeygenHandleMessages_decode_waitMsg4 hround he⟩
  sign_waitMsg1 _ _ _ _ _ _ hround hbad := by
    obtain ⟨e, he⟩ := Message.decodeVector_error hbad
    exact ⟨e, he, dklsSignHandleMessages_decode_generic (.inl ⟨hround, rfl⟩) he⟩
  sign_waitMsg2 _ _ _ _ _ _ hround hbad := by
    obtain ⟨e, he⟩ := Message.decodeVector_error hbad
    exact ⟨e, he, dklsSignHandleMessages_decode_generic (.inr ⟨hround, rfl⟩) he⟩
  sign_waitMsg3 _ _ _ _ _ _ hround hbad := by
    obtain ⟨e, he⟩ := Message.decodeVector_error hbad
    exact ⟨e, he, dklsSignHandleMessages_decode_waitMsg3 hround he⟩

/-- A keygen session in `WaitMsg1` given a message that does not decode comes
back in `WaitMsg1`, not `Failed`: the reply hands the session back as it was. -/
theorem decode_failure_keeps_round :
    (∃ e, Message.decodeVector unitDkg.msg1 [⟨0, 255, [0]⟩] = .error e ∧
      dklsKeygenHandleMessages (D := unitDkg) (some ⟨(), 3, .waitMsg1⟩) (some [⟨0, 255, [0]⟩])
          none none ⟨List.replicate 32 0, rfl⟩ true false =
        afterSeed none (decodeRejected ⟨(), 3, .waitMsg1⟩ true e)) ∧
      dklsKeygenHandleMessages (D := unitDkg) (some ⟨(), 3, .waitMsg1⟩) (some [⟨0, 255, [0]⟩])
          none none ⟨List.replicate 32 0, rfl⟩ true false =
        .ok ⟨some ⟨(), 3, .waitMsg1⟩, .status (-1) none,
          some ⟨"CBOR decode error: trailing data", 1⟩, []⟩ :=
  ⟨(decode_failures_by_round unitDkg unitDsg).keygen_waitMsg1 _ _ _ _ _ _ _ rfl
    ⟨_, List.mem_singleton_self _, "trailing data", rfl⟩, rfl⟩

end DklsFfi
