import DklsFfi.Keygen.Commitments
import DklsFfi.Session.Panics
import DklsFfi.Session.System

/-!
The protocols can finish. Over an engine whose steps return `Ok` and inbound
batches that decode, the calls a host makes on one session in protocol order
take a keygen session from `Init` to `Share` and hand out its keyshare,
releasing the handle, and take a sign session from `Init` through `Pre` to a
combined signature, releasing the handle. The safety results say what a call
cannot do; these say that the success path of every round is there and is the
one the code takes.
-/

namespace DklsFfi

/-- A DKG whose round steps return `Ok` on every state, generator and batch. -/
structure Dkg.Succeeds (D : Dkg) : Prop where
  handleMsg1 : ∀ st rng ms, ∃ st' out, D.handleMsg1 st rng ms = (st', .ok out)
  handleMsg2 : ∀ st rng ms, ∃ st' out, D.handleMsg2 st rng ms = (st', .ok out)
  handleMsg3 : ∀ st rng ms cs, ∃ st' out, D.handleMsg3 st rng ms cs = (st', .ok out)
  handleMsg4 : ∀ st ms, ∃ st' ks, D.handleMsg4 st ms = (st', .ok ks)

/-- A DSG whose round steps and combination return `Ok`, with signatures that
split into two 32-byte scalars. -/
structure Dsg.Succeeds {K : Type} (S : Dsg K) : Prop where
  handleMsg1 : ∀ st rng ms, ∃ st' out, S.handleMsg1 st rng ms = (st', .ok out)
  handleMsg2 : ∀ st rng ms, ∃ st' out, S.handleMsg2 st rng ms = (st', .ok out)
  handleMsg3 : ∀ st ms, ∃ st' pre, S.handleMsg3 st ms = (st', .ok pre)
  combineSignatures : ∀ ps ms, ∃ sig, S.combineSignatures ps ms = .ok sig
  splitBytes : ∀ sig, (S.splitBytes sig).1.length = 32 ∧ (S.splitBytes sig).2.length = 32

/-- The arguments of one `handle_messages` call besides the handle and the
buffers: the caller's seed, what `thread_rng` returns, and whether `err_out`
and `out` are non-null. -/
structure RoundArgs where
  seed : Option (List UInt8)
  entropy : Bytes 32
  errOut : Bool
  out : Bool

theorem unitDkg_succeeds : unitDkg.Succeeds :=
  ⟨fun _ _ _ => ⟨(), [], rfl⟩, fun _ _ _ => ⟨(), [], rfl⟩, fun _ _ _ _ => ⟨(), (), rfl⟩,
    fun _ _ => ⟨(), (), rfl⟩⟩

theorem unitDsg_succeeds : unitDsg.Succeeds :=
  ⟨fun _ _ _ => ⟨(), [], rfl⟩, fun _ _ _ => ⟨(), [], rfl⟩, fun _ _ => ⟨(), (), rfl⟩,
    fun _ _ => ⟨(), rfl⟩, fun _ => ⟨rfl, rfl⟩⟩

/-- The helper's success path: a batch that decodes and an engine step that
returns `Ok` move the session to `next`. -/
theorem handleMessagesWith_advance {Sess St Err Rnd Ev : Type} {T U : WireType}
    (state : Sess → St) (update : Sess → St → Rnd → Sess) (failed : Rnd)
    (errorToGo : Err → Except Fault GoError) {s : Sess} {msgs : List Message}
    (h : St → List T.T → St × Except Err (List U.T)) (routing : MessageRouting U.T)
    (next : Rnd) (event : Option Err → Ev) {v : List T.T} {st : St} {out : List U.T}
    (hU : U.Benign) (hdec : Message.decodeVector T msgs = .ok v)
    (hstep : h (state s) v = (st, .ok out)) :
    ∃ outMsgs,
      handleMessagesWith state update failed errorToGo s (some msgs) h routing next event =
        .ok (update s st next, .ok outMsgs, [event none]) := by
  obtain ⟨outMsgs, henc⟩ := Message.encodeVector_ok hU routing out
  exact ⟨outMsgs, by simp [handleMessagesWith, hdec, hstep, henc]⟩

namespace Keygen

variable {D : Dkg} {s : KeygenSessionHandle D}

/-- `dkls_keygen_create_first_message` moves a session in `Init` to
`WaitMsg1`. -/
theorem dklsKeygenCreateFirstMessage_init (hD : D.Benign) (hs : s.round = .init)
    (errOut : Bool) :
    ∃ r s', dklsKeygenCreateFirstMessage (some s) errOut = .ok r ∧ r.session = some s' ∧
      s'.round = .waitMsg1 ∧ s'.n = s.n := by
  obtain ⟨msg, hmsg⟩ := Message.new_ok hD.msg1 (KeygenMsg1.routing D) (D.generateMsg1 s.state).2
  simp [dklsKeygenCreateFirstMessage, hs, hmsg]

/-- A round run by the generic helper moves to `next` when the batch decodes
and the engine step returns `Ok`. -/
theorem handleMessages_advance {T U : WireType} {msgs : List Message}
    (h : D.State → List T.T → D.State × Except D.KeygenError (List U.T))
    (routing : MessageRouting U.T) (next : Round D.Keyshare)
    (event : Option D.KeygenError → KeygenEvent D) (errOut out : Bool) {v : List T.T}
    {st : D.State} {outVec : List U.T} (hU : U.Benign)
    (hdec : Message.decodeVector T msgs = .ok v) (hstep : h s.state v = (st, .ok outVec)) :
    ∃ r : KeygenReply D,
      (do let x ← handleMessages s (some msgs) h routing next event
          pure (finishRound x errOut out)) = .ok r ∧
      r.session = some { s with state := st, round := next } := by
  obtain ⟨outMsgs, hx⟩ := handleMessagesWith_advance KeygenSessionHandle.state
    (fun s state round => { s with state, round }) .failed (keygenErrorToGo D) h routing next
    event hU hdec hstep
  exact ⟨finishRound ({ s with state := st, round := next }, .ok outMsgs, [event none]) errOut out,
    by simp only [handleMessages, hx, except_ok_bind, except_pure], rfl⟩

section HandleMessages

variable (hD : D.Benign) (hok : D.Succeeds) (msgs : List Message)
  (commitments seed : Option (List UInt8)) (hseed : seedValid seed = true) (entropy : Bytes 32)
  (errOut out : Bool)
include hD hok hseed

/-- From `WaitMsg1` to `WaitMsg3`, a batch that decodes, and in `WaitMsg3` a
commitments buffer of `32 · n` bytes, move the session one round on. -/
theorem dklsKeygenHandleMessages_advance :
    (s.round = .waitMsg1 → (∃ v, Message.decodeVector D.msg1 msgs = .ok v) →
      ∃ r s', dklsKeygenHandleMessages (some s) (some msgs) commitments seed entropy errOut out =
        .ok r ∧ r.session = some s' ∧ s'.round = .waitMsg2 ∧ s'.n = s.n) ∧
    (s.round = .waitMsg2 → (∃ v, Message.decodeVector D.msg2 msgs = .ok v) →
      ∃ r s', dklsKeygenHandleMessages (some s) (some msgs) commitments seed entropy errOut out =
        .ok r ∧ r.session = some s' ∧ s'.round = .waitMsg3 ∧ s'.n = s.n) ∧
    (s.round = .waitMsg3 → (∃ v, Message.decodeVector D.msg3 msgs = .ok v) →
      ∀ bytes, commitments = some bytes → 0 < s.n → bytes.length = s.n * 32 →
      ∃ r s', dklsKeygenHandleMessages (some s) (some msgs) commitments seed entropy errOut out =
        .ok r ∧ r.session = some s' ∧ s'.round = .waitMsg4 ∧ s'.n = s.n) := by
  obtain ⟨rng, hrng⟩ := maybeSeededRng_of_seedValid hseed entropy
  refine ⟨fun hs ⟨v, hdec⟩ => ?_, fun hs ⟨v, hdec⟩ => ?_,
    fun hs ⟨v, hdec⟩ bytes hbytes hn hlen => ?_⟩
  · obtain ⟨st, outVec, hstep⟩ := hok.handleMsg1 s.state rng v
    obtain ⟨r, hr, hsess⟩ := handleMessages_advance (fun st ms => D.handleMsg1 st rng ms)
      (KeygenMsg2.routing D) .waitMsg2
      .handleMsg1 errOut out hD.msg2 hdec hstep
    refine ⟨r, _, ?_, hsess, rfl, rfl⟩
    simp only [dklsKeygenHandleMessages, hrng, hs, except_ok_bind]
    exact hr
  · obtain ⟨st, outVec, hstep⟩ := hok.handleMsg2 s.state rng v
    obtain ⟨r, hr, hsess⟩ := handleMessages_advance (fun st ms => D.handleMsg2 st rng ms)
      (KeygenMsg3.routing D) .waitMsg3
      .handleMsg2 errOut out hD.msg3 hdec hstep
    refine ⟨r, _, ?_, hsess, rfl, rfl⟩
    simp only [dklsKeygenHandleMessages, hrng, hs, except_ok_bind]
    exact hr
  · obtain ⟨cs, hcs, -⟩ := collectCommitments_of_length hlen
    obtain ⟨st, outVec, hstep⟩ := hok.handleMsg3 s.state rng v cs
    obtain ⟨r, hr, hsess⟩ := handleMessages_advance (s := s)
      (fun st ms => match D.handleMsg3 st rng ms cs with
        | (st, result) => (st, result.map fun m => [m]))
      (KeygenMsg4.routing D) .waitMsg4 (.handleMsg3 cs) errOut out hD.msg4 hdec
      (by simp [hstep, Except.map]; exact ⟨rfl, rfl⟩)
    have hne : bytes ≠ [] := fun h => by simp [h] at hlen; omega
    refine ⟨r, _, ?_, hsess, rfl, rfl⟩
    rw [hbytes, dklsKeygenHandleMessages_waitMsg3 hs hne hlen hcs, hrng, except_ok_bind]
    exact hr

omit hD in
/-- In `WaitMsg4`, a batch that decodes ends the session in `Share` with the
keyshare `handle_msg4` returned. -/
theorem dklsKeygenHandleMessages_share (hs : s.round = .waitMsg4)
    (hdec : ∃ v, Message.decodeVector D.msg4 msgs = .ok v) :
    ∃ r s' ks, dklsKeygenHandleMessages (some s) (some msgs) commitments seed entropy errOut out =
      .ok r ∧ r.session = some s' ∧ s'.round = .share ks := by
  obtain ⟨rng, hrng⟩ := maybeSeededRng_of_seedValid hseed entropy
  obtain ⟨v, hdec⟩ := hdec
  obtain ⟨st, ks, hstep⟩ := hok.handleMsg4 s.state v
  simp only [dklsKeygenHandleMessages, hrng, except_ok_bind, hs, fromRawParts_some, hdec, hstep]
  exact ⟨_, _, _, rfl, rfl, rfl⟩

end HandleMessages

end Keygen

namespace Sign

variable {D : Dkg} {S : Dsg D.Keyshare} {s : SignSessionHandle S}

/-- `dkls_sign_create_first_message` moves a session in `Init` to
`WaitMsg1`. -/
theorem dklsSignCreateFirstMessage_init (hS : S.Benign) (hs : s.round = .init) (errOut : Bool) :
    ∃ r s', dklsSignCreateFirstMessage (some s) errOut = .ok r ∧ r.session = some s' ∧
      s'.round = .waitMsg1 := by
  obtain ⟨msg, hmsg⟩ := Message.new_ok hS.msg1 (SignMsg1.routing S) (S.generateMsg1 s.state).2
  simp [dklsSignCreateFirstMessage, hs, hmsg]

/-- A round run by the generic helper moves to `next` when the batch decodes
and the engine step returns `Ok`. -/
theorem handleMessages_advance {T U : WireType} {msgs : List Message}
    (h : S.State → List T.T → S.State × Except S.SignError (List U.T))
    (routing : MessageRouting U.T) (next : Round S.PreSignature S.PartialSignature)
    (event : Option S.SignError → SignEvent S) (errOut out : Bool) {v : List T.T}
    {st : S.State} {outVec : List U.T} (hU : U.Benign)
    (hdec : Message.decodeVector T msgs = .ok v) (hstep : h s.state v = (st, .ok outVec)) :
    ∃ r : SignReply S,
      (do let x ← handleMessages s (some msgs) h routing next event
          pure (finishRound x errOut out)) = .ok r ∧
      r.session = some { state := st, round := next } := by
  obtain ⟨outMsgs, hx⟩ := handleMessagesWith_advance SignSessionHandle.state
    (fun _ state round => { state, round }) .failed (signErrorToGo S) h routing next event hU
    hdec hstep
  exact ⟨finishRound ({ state := st, round := next }, .ok outMsgs, [event none]) errOut out,
    by simp only [handleMessages, hx, except_ok_bind, except_pure], rfl⟩

section HandleMessages

variable (hok : S.Succeeds) (msgs : List Message) (seed : Option (List UInt8))
  (hseed : seedValid seed = true) (entropy : Bytes 32) (errOut out : Bool)
include hok hseed

/-- From `WaitMsg1` and `WaitMsg2`, a batch that decodes moves the session one
round on. -/
theorem dklsSignHandleMessages_advance (hS : S.Benign) :
    (s.round = .waitMsg1 → (∃ v, Message.decodeVector S.msg1 msgs = .ok v) →
      ∃ r s', dklsSignHandleMessages (some s) (some msgs) seed entropy errOut out = .ok r ∧
        r.session = some s' ∧ s'.round = .waitMsg2) ∧
    (s.round = .waitMsg2 → (∃ v, Message.decodeVector S.msg2 msgs = .ok v) →
      ∃ r s', dklsSignHandleMessages (some s) (some msgs) seed entropy errOut out = .ok r ∧
        r.session = some s' ∧ s'.round = .waitMsg3) := by
  obtain ⟨rng, hrng⟩ := maybeSeededRng_of_seedValid hseed entropy
  refine ⟨fun hs ⟨v, hdec⟩ => ?_, fun hs ⟨v, hdec⟩ => ?_⟩
  · obtain ⟨st, outVec, hstep⟩ := hok.handleMsg1 s.state rng v
    obtain ⟨r, hr, hsess⟩ := handleMessages_advance (fun st ms => S.handleMsg1 st rng ms)
      (SignMsg2.routing S) .waitMsg2 .handleMsg1 errOut out hS.msg2 hdec hstep
    refine ⟨r, _, ?_, hsess, rfl⟩
    simp only [dklsSignHandleMessages, hrng, hs, except_ok_bind]
    exact hr
  · obtain ⟨st, outVec, hstep⟩ := hok.handleMsg2 s.state rng v
    obtain ⟨r, hr, hsess⟩ := handleMessages_advance (fun st ms => S.handleMsg2 st rng ms)
      (SignMsg3.routing S) .waitMsg3 .handleMsg2 errOut out hS.msg3 hdec hstep
    refine ⟨r, _, ?_, hsess, rfl⟩
    simp only [dklsSignHandleMessages, hrng, hs, except_ok_bind]
    exact hr

/-- In `WaitMsg3`, a batch that decodes ends in `Pre`, holding the
pre-signature `handle_msg3` returned. -/
theorem dklsSignHandleMessages_pre (hs : s.round = .waitMsg3)
    (hdec : ∃ v, Message.decodeVector S.msg3 msgs = .ok v) :
    ∃ r s' pre, dklsSignHandleMessages (some s) (some msgs) seed entropy errOut out = .ok r ∧
      r.session = some s' ∧ s'.round = .pre pre := by
  obtain ⟨rng, hrng⟩ := maybeSeededRng_of_seedValid hseed entropy
  obtain ⟨v, hdec⟩ := hdec
  obtain ⟨st, pre, hstep⟩ := hok.handleMsg3 s.state v
  simp only [dklsSignHandleMessages, hrng, except_ok_bind, hs, fromRawParts_some, hdec, hstep]
  exact ⟨_, _, _, rfl, rfl, rfl⟩

end HandleMessages

/-- `dkls_sign_last_message` with a 32-byte digest moves a session in `Pre`
to `WaitMsg4`, holding the partial signature. -/
theorem dklsSignLastMessage_pre (hS : S.Benign) {pre : S.PreSignature} (hs : s.round = .pre pre)
    (messageHash : List UInt8) (hlen : messageHash.length = 32) (errOut : Bool) :
    ∃ r s' partialSignature, dklsSignLastMessage (some s) (.ofList messageHash) errOut = .ok r ∧
      r.session = some s' ∧ s'.round = .waitMsg4 partialSignature := by
  obtain ⟨msg, hmsg⟩ := Message.new_ok hS.msg4 (SignMsg4.routing S)
    (S.createPartialSignature pre ⟨messageHash, hlen⟩).2
  simp only [dklsSignLastMessage, CSlice.ofList, hlen, ne_eq, not_true_eq_false, if_false,
    fromRawParts_some, except_ok_bind, Bytes.tryFrom_of_length hlen, unwrap_some, hs, hmsg]
  exact ⟨_, _, _, rfl, rfl, rfl⟩

/-- `dkls_sign_combine` on a session in `WaitMsg4`, with both outputs
non-null and a batch that decodes, returns 0 with the two 32-byte scalars,
writes no error and releases the handle. -/
theorem dklsSignCombine_signature (hok : S.Succeeds) {partialSignature : S.PartialSignature}
    (hs : s.round = .waitMsg4 partialSignature) {msgs : List Message}
    (hdec : ∃ v, Message.decodeVector S.msg4 msgs = .ok v) (errOut : Bool) :
    ∃ r rs, dklsSignCombine (some s) (some msgs) true true errOut = .ok r ∧ r.session = none ∧
      r.ret = .signature 0 (some rs) ∧ r.err = none := by
  obtain ⟨v, hdec⟩ := hdec
  obtain ⟨sig, hsig⟩ := hok.combineSignatures partialSignature v
  obtain ⟨hr, hsb⟩ := hok.splitBytes sig
  simp only [dklsSignCombine, hs, Bool.and_self, Bool.not_true, Bool.false_eq_true, if_false,
    fromRawParts_some, except_ok_bind, hdec, hsig, Bytes.tryFrom_of_length hr,
    Bytes.tryFrom_of_length hsb]
  exact ⟨_, _, rfl, rfl, rfl, rfl⟩

end Sign

open Keygen in
/-- A keygen session in `Init`, over benign codecs and an engine whose steps
return `Ok`, finishes. Its first message, then four batches that decode (with
a commitments buffer of `32 · n` bytes in round 3), each call with its own
seed that the code accepts, its own entropy and its own `err_out` and `out`,
take it to `Share`. `dkls_keygen_keyshare` then hands out the keyshare
`handle_msg4` returned, writes no error and releases the handle. -/
theorem keygen_sessions_complete {D : Dkg} (hD : D.Benign) (hok : D.Succeeds)
    (s : KeygenSessionHandle D) (hs : s.round = .init) (hn : 0 < s.n)
    (b1 b2 b3 b4 : List Message) (hb1 : ∃ v, Message.decodeVector D.msg1 b1 = .ok v)
    (hb2 : ∃ v, Message.decodeVector D.msg2 b2 = .ok v)
    (hb3 : ∃ v, Message.decodeVector D.msg3 b3 = .ok v)
    (hb4 : ∃ v, Message.decodeVector D.msg4 b4 = .ok v)
    (bytes : List UInt8) (hlen : bytes.length = s.n * 32) (a1 a2 a3 a4 : RoundArgs)
    (hseed : ∀ a ∈ [a1, a2, a3, a4], seedValid a.seed = true) (errOut0 errOut5 : Bool) :
    ∃ s' ks, KeygenCall.runOn (some s)
        [.createFirstMessage errOut0,
          .handleMessages (some b1) none a1.seed a1.entropy a1.errOut a1.out,
          .handleMessages (some b2) none a2.seed a2.entropy a2.errOut a2.out,
          .handleMessages (some b3) (some bytes) a3.seed a3.entropy a3.errOut a3.out,
          .handleMessages (some b4) none a4.seed a4.entropy a4.errOut a4.out] = .ok (some s') ∧
      s'.round = .share ks ∧
      (KeygenCall.keyshare errOut5).apply (some s') =
        .ok ⟨none, .keyshare (some ks), none, []⟩ := by
  have hseed1 := hseed a1 (by simp)
  have hseed2 := hseed a2 (by simp)
  have hseed3 := hseed a3 (by simp)
  have hseed4 := hseed a4 (by simp)
  obtain ⟨r1, s1, h1, hs1, hr1, hn1⟩ := dklsKeygenCreateFirstMessage_init hD hs errOut0
  obtain ⟨r2, s2, h2, hs2, hr2, hn2⟩ := (dklsKeygenHandleMessages_advance hD hok b1 none
    a1.seed hseed1 a1.entropy a1.errOut a1.out).1 hr1 hb1
  obtain ⟨r3, s3, h3, hs3, hr3, hn3⟩ := (dklsKeygenHandleMessages_advance hD hok b2 none
    a2.seed hseed2 a2.entropy a2.errOut a2.out).2.1 hr2 hb2
  obtain ⟨r4, s4, h4, hs4, hr4, hn4⟩ := (dklsKeygenHandleMessages_advance hD hok b3 (some bytes)
    a3.seed hseed3 a3.entropy a3.errOut a3.out).2.2 hr3 hb3 bytes rfl (by omega) (by omega)
  obtain ⟨r5, s5, ks, h5, hs5, hr5⟩ := dklsKeygenHandleMessages_share hok b4 none
    a4.seed hseed4 a4.entropy a4.errOut a4.out hr4 hb4
  refine ⟨s5, ks, ?_, hr5, by simp [KeygenCall.apply, dklsKeygenKeyshare, hr5]⟩
  rw [KeygenCall.runOn_cons_of_apply (.createFirstMessage _) h1, hs1,
    KeygenCall.runOn_cons_of_apply (.handleMessages (some b1) none a1.seed _ _ _) h2, hs2,
    KeygenCall.runOn_cons_of_apply (.handleMessages (some b2) none a2.seed _ _ _) h3, hs3,
    KeygenCall.runOn_cons_of_apply (.handleMessages (some b3) (some bytes) a3.seed _ _ _) h4,
    hs4, KeygenCall.runOn_cons_of_apply (.handleMessages (some b4) none a4.seed _ _ _) h5, hs5,
    KeygenCall.runOn_nil]

open Keygen in
/-- Four rounds with different seeds (none, and three 32-byte seeds) and
different `err_out` and `out`. -/
theorem keygen_sessions_complete_unit :
    ∃ s' ks, KeygenCall.runOn (some (KeygenSessionHandle.new (D := unitDkg) () 2))
        [.createFirstMessage true,
          .handleMessages (some []) none none ⟨List.replicate 32 0, rfl⟩ true true,
          .handleMessages (some []) none (some (List.replicate 32 1)) ⟨List.replicate 32 2, rfl⟩
            false true,
          .handleMessages (some []) (some (List.replicate 64 0)) (some (List.replicate 32 3))
            ⟨List.replicate 32 4, rfl⟩ true false,
          .handleMessages (some []) none (some (List.replicate 32 5)) ⟨List.replicate 32 6, rfl⟩
            false false] = .ok (some s') ∧
      s'.round = .share ks ∧
      (KeygenCall.keyshare false).apply (some s') = .ok ⟨none, .keyshare (some ks), none, []⟩ :=
  keygen_sessions_complete unitDkg_benign unitDkg_succeeds (KeygenSessionHandle.new () 2) rfl
    (by decide) [] [] [] [] ⟨[], rfl⟩ ⟨[], rfl⟩ ⟨[], rfl⟩ ⟨[], rfl⟩ (List.replicate 64 0) rfl
    ⟨none, ⟨List.replicate 32 0, rfl⟩, true, true⟩
    ⟨some (List.replicate 32 1), ⟨List.replicate 32 2, rfl⟩, false, true⟩
    ⟨some (List.replicate 32 3), ⟨List.replicate 32 4, rfl⟩, true, false⟩
    ⟨some (List.replicate 32 5), ⟨List.replicate 32 6, rfl⟩, false, false⟩ (by decide) true false

open Sign in
/-- A sign session in `Init`, over benign codecs and an engine whose steps and
combination return `Ok`, finishes. Its first message, then three batches that
decode, each call with its own seed that the code accepts, its own entropy
and its own `err_out` and `out`, take it to `Pre`; a 32-byte digest takes it
to `WaitMsg4`. `dkls_sign_combine` with both outputs non-null and a round-4
batch that decodes then returns 0 with the signature's two 32-byte scalars,
writes no error and releases the handle. -/
theorem sign_sessions_complete {D : Dkg} {S : Dsg D.Keyshare} (hS : S.Benign) (hok : S.Succeeds)
    (s : SignSessionHandle S) (hs : s.round = .init)
    (b1 b2 b3 b4 : List Message) (hb1 : ∃ v, Message.decodeVector S.msg1 b1 = .ok v)
    (hb2 : ∃ v, Message.decodeVector S.msg2 b2 = .ok v)
    (hb3 : ∃ v, Message.decodeVector S.msg3 b3 = .ok v)
    (hb4 : ∃ v, Message.decodeVector S.msg4 b4 = .ok v)
    (messageHash : List UInt8) (hlen : messageHash.length = 32) (a1 a2 a3 : RoundArgs)
    (hseed : ∀ a ∈ [a1, a2, a3], seedValid a.seed = true) (errOut0 errOut4 errOut5 : Bool) :
    ∃ s' r rs, SignCall.runOn (some s)
        [.createFirstMessage errOut0,
          .handleMessages (some b1) a1.seed a1.entropy a1.errOut a1.out,
          .handleMessages (some b2) a2.seed a2.entropy a2.errOut a2.out,
          .handleMessages (some b3) a3.seed a3.entropy a3.errOut a3.out,
          .lastMessage (.ofList messageHash) errOut4] = .ok (some s') ∧
      (SignCall.combine (some b4) true true errOut5).apply (some s') = .ok r ∧
      r.session = none ∧ r.ret = .signature 0 (some rs) ∧ r.err = none := by
  have hseed1 := hseed a1 (by simp)
  have hseed2 := hseed a2 (by simp)
  have hseed3 := hseed a3 (by simp)
  obtain ⟨r1, s1, h1, hs1, hr1⟩ := dklsSignCreateFirstMessage_init hS hs errOut0
  obtain ⟨r2, s2, h2, hs2, hr2⟩ := (dklsSignHandleMessages_advance hok b1 a1.seed hseed1
    a1.entropy a1.errOut a1.out hS).1 hr1 hb1
  obtain ⟨r3, s3, h3, hs3, hr3⟩ := (dklsSignHandleMessages_advance hok b2 a2.seed hseed2
    a2.entropy a2.errOut a2.out hS).2 hr2 hb2
  obtain ⟨r4, s4, pre, h4, hs4, hr4⟩ :=
    dklsSignHandleMessages_pre hok b3 a3.seed hseed3 a3.entropy a3.errOut a3.out hr3 hb3
  obtain ⟨r5, s5, ps, h5, hs5, hr5⟩ := dklsSignLastMessage_pre hS hr4 messageHash hlen errOut4
  obtain ⟨r6, rs, h6, hr6⟩ := dklsSignCombine_signature hok hr5 hb4 errOut5
  refine ⟨s5, r6, rs, ?_, h6, hr6⟩
  rw [SignCall.runOn_cons_of_apply (.createFirstMessage _) h1, hs1,
    SignCall.runOn_cons_of_apply (.handleMessages (some b1) a1.seed _ _ _) h2, hs2,
    SignCall.runOn_cons_of_apply (.handleMessages (some b2) a2.seed _ _ _) h3, hs3,
    SignCall.runOn_cons_of_apply (.handleMessages (some b3) a3.seed _ _ _) h4, hs4,
    SignCall.runOn_cons_of_apply (.lastMessage (.ofList messageHash) _) h5, hs5,
    SignCall.runOn_nil]

open Sign in
/-- Three rounds with different seeds, entropy, `err_out` and `out`. -/
theorem sign_sessions_complete_unit :
    ∃ s' r rs, SignCall.runOn (D := unitDkg) (some (SignSessionHandle.new (S := unitDsg) ()))
        [.createFirstMessage true,
          .handleMessages (some []) none ⟨List.replicate 32 0, rfl⟩ true true,
          .handleMessages (some []) (some (List.replicate 32 1)) ⟨List.replicate 32 2, rfl⟩
            false true,
          .handleMessages (some []) (some (List.replicate 32 3)) ⟨List.replicate 32 4, rfl⟩
            true false,
          .lastMessage (.ofList (List.replicate 32 0)) false] = .ok (some s') ∧
      (SignCall.combine (some []) true true true).apply (some s') = .ok r ∧ r.session = none ∧
      r.ret = .signature 0 (some rs) ∧ r.err = none :=
  sign_sessions_complete (D := unitDkg) unitDsg_benign unitDsg_succeeds (SignSessionHandle.new ())
    rfl [] [] [] [] ⟨[], rfl⟩ ⟨[], rfl⟩ ⟨[], rfl⟩ ⟨[], rfl⟩ (List.replicate 32 0) rfl
    ⟨none, ⟨List.replicate 32 0, rfl⟩, true, true⟩
    ⟨some (List.replicate 32 1), ⟨List.replicate 32 2, rfl⟩, false, true⟩
    ⟨some (List.replicate 32 3), ⟨List.replicate 32 4, rfl⟩, true, false⟩ (by decide) true false
    true

end DklsFfi
