import DklsFfi.Message

/-!
The keygen session of `keygen.rs`: its tagged round, the session handle, and
every entry point that builds, reads or advances one. A handle argument is an
`Option`, `none` being the null pointer; the reply says what is left at the
handle afterwards. The engine steps an entry point runs are recorded as ghost
events, which is how the ordering theorems of `Keygen.Protocol` observe them.
-/

namespace DklsFfi.Keygen

/-- `Round`. -/
inductive Round (Keyshare : Type) where
  | init
  | waitMsg1
  | waitMsg2
  | waitMsg3
  | waitMsg4
  | failed
  | share (keyshare : Keyshare)

/-- `KeygenSessionHandle`: the engine state, the party count `n` and the
round. -/
structure KeygenSessionHandle (D : Dkg) where
  state : D.State
  n : Nat
  round : Round D.Keyshare

variable {D : Dkg}

/-- `KeygenSessionHandle::new`: every session starts in `Init`. -/
def KeygenSessionHandle.new (state : D.State) (n : Nat) : KeygenSessionHandle D :=
  { state, n, round := .init }

theorem KeygenSessionHandle.with_round_self {s : KeygenSessionHandle D}
    {round : Round D.Keyshare} (h : s.round = round) : { s with round } = s := by
  cases s; cases h; rfl

/-- A state-changing engine call with the error it returned, if any. The
call to `handle_msg3` records the commitments it was passed, the call to
`handle_msg4` its whole result. -/
inductive KeygenEvent (D : Dkg) where
  | generateMsg1
  | handleMsg1 (error : Option D.KeygenError)
  | handleMsg2 (error : Option D.KeygenError)
  | handleMsg3 (commitments : List (Bytes 32)) (error : Option D.KeygenError)
  | handleMsg4 (result : Except D.KeygenError D.Keyshare)

/-- The reply of a keygen entry point. -/
abbrev KeygenReply (D : Dkg) := Reply (KeygenSessionHandle D) (KeygenEvent D) D.Keyshare

/-- `impl MessageRouting for dkg::KeygenMsg1`. -/
def KeygenMsg1.routing (D : Dkg) : MessageRouting D.msg1.T := broadcastRouting D.msg1

/-- `impl MessageRouting for dkg::KeygenMsg2`. -/
def KeygenMsg2.routing (D : Dkg) : MessageRouting D.msg2.T := directRouting D.msg2 D.msg2ToId

/-- `impl MessageRouting for dkg::KeygenMsg3`. -/
def KeygenMsg3.routing (D : Dkg) : MessageRouting D.msg3.T := directRouting D.msg3 D.msg3ToId

/-- `impl MessageRouting for dkg::KeygenMsg4`. -/
def KeygenMsg4.routing (D : Dkg) : MessageRouting D.msg4.T := broadcastRouting D.msg4

/-- The new session a constructor returns. -/
def created (state : D.State) (n : Nat) : Except Fault (KeygenReply D) :=
  pure ⟨some (KeygenSessionHandle.new state n), .unit, none, []⟩

/-- The failure of a constructor whose engine call returned `Err`. -/
def notCreated (errOut : Bool) (e : D.KeygenError) : Except Fault (KeygenReply D) := do
  let err ← reportWith errOut (keygenErrorToGo D e)
  pure ⟨none, .unit, err, []⟩

/-- `dkls_keygen_new`: every participant gets rank 0. -/
def dklsKeygenNew (participants threshold partyId : UInt8)
    (seed : Option (List UInt8)) (entropy : Bytes 32) : Except Fault (KeygenReply D) := do
  let rng ← maybeSeededRng (seedSlice seed) entropy
  let party : Party :=
    { ranks := List.replicate participants.toNat 0, t := threshold, partyId }
  let n := party.ranks.length
  created (D.new party rng) n

/-- `dkls_keygen_init_key_rotation`. -/
def dklsKeygenInitKeyRotation (oldshare : Option D.Keyshare)
    (seed : Option (List UInt8)) (entropy : Bytes 32) (errOut : Bool) :
    Except Fault (KeygenReply D) :=
  match oldshare with
  | none => reject none .unit errOut "null keyshare"
  | some oldshare => do
      let rng ← maybeSeededRng (seedSlice seed) entropy
      match D.keyRotation oldshare rng with
      | .ok state => created state (D.rankList oldshare).length
      | .error e => notCreated errOut e

/-- `dkls_keygen_init_key_recovery`. The lost-shares buffer is read after the
seed, without a null check. -/
def dklsKeygenInitKeyRecovery (oldshare : Option D.Keyshare)
    (lostShares : Option (List UInt8)) (seed : Option (List UInt8)) (entropy : Bytes 32)
    (errOut : Bool) : Except Fault (KeygenReply D) :=
  match oldshare with
  | none => reject none .unit errOut "null keyshare"
  | some oldshare => do
      let rng ← maybeSeededRng (seedSlice seed) entropy
      let lostSharesVec ← fromRawParts lostShares
      match D.keyRefresh (D.refreshShareFromKeyshare oldshare (some lostSharesVec)) rng with
      | .ok state => created state (D.rankList oldshare).length
      | .error e => notCreated errOut e

/-- `dkls_keygen_init_lost_share_recovery`. The key length is checked before
the seed, the key itself read after it and its point encoding after that; the
lost-shares buffer is read last. Neither buffer is checked for null. -/
def dklsKeygenInitLostShareRecovery (participants threshold partyId : UInt8)
    (pk : CSlice UInt8) (lostShares : Option (List UInt8)) (seed : Option (List UInt8))
    (entropy : Bytes 32) (errOut : Bool) : Except Fault (KeygenReply D) :=
  if pk.len ≠ 33 then reject none .unit errOut "invalid PK size"
  else do
    let rng ← maybeSeededRng (seedSlice seed) entropy
    let party : Party :=
      { ranks := List.replicate participants.toNat 0, t := threshold, partyId }
    let pkSlice ← fromRawParts pk.ptr
    let pkBytes ← unwrap (Bytes.tryFrom 33 pkSlice)
    match D.affinePointFromBytes pkBytes with
    | none => reject none .unit errOut "invalid PK"
    | some point => do
        let lostSharesVec ← fromRawParts lostShares
        match D.keyRefresh (D.refreshShareFromLostKeyshare party point lostSharesVec) rng with
        | .ok state => created state participants.toNat
        | .error e => notCreated errOut e

/-- `KeygenSessionSerializable`: what `dkls_keygen_to_bytes` encodes, the
party count and a clone of the round. -/
structure KeygenSessionSerializable (D : Dkg) where
  n : Nat
  round : Round D.Keyshare

/-- `dkls_keygen_to_bytes`, over the CBOR encoder of
`KeygenSessionSerializable`: the null buffer for a null handle or an encoder
error. The engine state is left out; the round is cloned whole, `Share` with
its keyshare. -/
def dklsKeygenToBytes (encode : KeygenSessionSerializable D → Except String (List UInt8))
    (handle : Option (KeygenSessionHandle D)) : Option (List UInt8) :=
  match handle with
  | none => none
  | some s => (encode ⟨s.n, s.round⟩).toOption

/-- `dkls_keygen_from_bytes`: the engine state cannot be deserialised, so the
input is ignored and the pointer returned is null. -/
def dklsKeygenFromBytes (_bytes : Option (List UInt8)) : Except Fault (KeygenReply D) :=
  pure ⟨none, .unit, none, []⟩

/-- `dkls_keygen_create_first_message`. The round moves to `WaitMsg1` before
the engine produces the message. -/
def dklsKeygenCreateFirstMessage (handle : Option (KeygenSessionHandle D))
    (errOut : Bool) : Except Fault (KeygenReply D) :=
  match handle with
  | none => reject none (.message none) errOut "null handle"
  | some s =>
      match s.round with
      | .init => do
          let (state, msg1) := D.generateMsg1 s.state
          let msg ← Message.new D.msg1 (KeygenMsg1.routing D) msg1
          pure ⟨some { s with state, round := .waitMsg1 }, .message (some msg), none,
            [.generateMsg1]⟩
      | _ => reject (some s) (.message none) errOut "invalid state"

/-- `dkls_keygen_calculate_commitment_2`, a read-only query. -/
def dklsKeygenCalculateCommitment2 (handle : Option (KeygenSessionHandle D))
    (out : Bool) : Except Fault (KeygenReply D) :=
  match handle with
  | none => pure ⟨none, .commitment (-1) none, none, []⟩
  | some s =>
      if out then
        match Bytes.tryFrom 32 (D.calculateCommitment2 s.state) with
        | some commitment => pure ⟨some s, .commitment 0 (some commitment), none, []⟩
        | none => pure ⟨some s, .commitment (-1) none, none, []⟩
      else pure ⟨some s, .commitment (-1) none, none, []⟩

/-- `handle_messages` of `keygen.rs`. -/
def handleMessages {T U : WireType} (s : KeygenSessionHandle D) (msgs : Option (List Message))
    (h : D.State → List T.T → D.State × Except D.KeygenError (List U.T))
    (routing : MessageRouting U.T) (next : Round D.Keyshare)
    (event : Option D.KeygenError → KeygenEvent D) :
    Except Fault (KeygenSessionHandle D × Except GoError (List Message) ×
      List (KeygenEvent D)) :=
  handleMessagesWith KeygenSessionHandle.state (fun s state round => { s with state, round })
    .failed (keygenErrorToGo D) s msgs h routing next event

/-- The commitments of round 3:
`chunks_exact(32).map(|chunk| chunk.try_into().unwrap()).collect()`. -/
def collectCommitments (bytes : List UInt8) : Except Fault (List (Bytes 32)) :=
  (chunksExact 32 bytes).mapM fun chunk => unwrap (Bytes.tryFrom 32 chunk)

/-- `dkls_keygen_handle_messages`. The seed is turned into a generator before
the round is inspected; round 3 checks the commitments buffer before it
reads the batch; the last round reads and decodes inline and fails the
session on a batch that does not decode. The batch pointer is never checked
for null. -/
def dklsKeygenHandleMessages (handle : Option (KeygenSessionHandle D))
    (msgs : Option (List Message)) (commitments seed : Option (List UInt8)) (entropy : Bytes 32)
    (errOut out : Bool) : Except Fault (KeygenReply D) :=
  match handle with
  | none => reject none (.status (-1) none) errOut "null handle"
  | some s => do
      let rng ← maybeSeededRng (seedSlice seed) entropy
      match s.round with
      | .waitMsg1 => do
          let r ← handleMessages s msgs (fun st ms => D.handleMsg1 st rng ms)
            (KeygenMsg2.routing D) .waitMsg2 .handleMsg1
          pure (finishRound r errOut out)
      | .waitMsg2 => do
          let r ← handleMessages s msgs (fun st ms => D.handleMsg2 st rng ms)
            (KeygenMsg3.routing D) .waitMsg3 .handleMsg2
          pure (finishRound r errOut out)
      | .waitMsg3 =>
          match commitments with
          | none => reject (some s) (.status (-1) none) errOut "commitments required"
          | some bytes =>
              if bytes.length = 0 then
                reject (some s) (.status (-1) none) errOut "commitments required"
              else if bytes.length ≠ s.n * 32 then
                reject (some s) (.status (-1) none) errOut "invalid commitments length"
              else do
                let commitments ← collectCommitments bytes
                let r ← handleMessages s msgs
                  (fun st ms => match D.handleMsg3 st rng ms commitments with
                    | (st, result) => (st, result.map fun m => [m]))
                  (KeygenMsg4.routing D) .waitMsg4 (.handleMsg3 commitments)
                pure (finishRound r errOut out)
      | .waitMsg4 => do
          let msgsSlice ← fromRawParts msgs
          match Message.decodeVector D.msg4 msgsSlice with
          | .error e => do
              let err ← reportError errOut e 1
              pure ⟨some { s with round := .failed }, .status (-1) none, err, []⟩
          | .ok msgsVec =>
              match D.handleMsg4 s.state msgsVec with
              | (state, .ok keyshare) =>
                  pure (finishRound ({ s with state, round := .share keyshare }, .ok [],
                    [.handleMsg4 (.ok keyshare)]) errOut out)
              | (state, .error e) => do
                  let err ← keygenErrorToGo D e
                  pure (finishRound ({ s with state, round := .failed }, .error err,
                    [.handleMsg4 (.error e)]) errOut out)
      | .failed => reject (some s) (.status (-1) none) errOut "failed session"
      | _ => reject (some s) (.status (-1) none) errOut "invalid session state"

/-- `dkls_keygen_keyshare`. The round is swapped for `Failed` with
`mem::replace`; the `Share` and in-progress branches release the handle, the
`Failed` branch does not. -/
def dklsKeygenKeyshare (handle : Option (KeygenSessionHandle D)) (errOut : Bool) :
    Except Fault (KeygenReply D) :=
  match handle with
  | none => reject none (.keyshare none) errOut "null handle"
  | some s =>
      let round := s.round
      let s := { s with round := .failed }
      match round with
      | .share keyshare => pure ⟨none, .keyshare (some keyshare), none, []⟩
      | .failed => reject (some s) (.keyshare none) errOut "failed"
      | _ => reject none (.keyshare none) errOut "keygen-in-progress"

/-- `dkls_keygen_free`. -/
def dklsKeygenFree (_handle : Option (KeygenSessionHandle D)) :
    Except Fault (KeygenReply D) :=
  pure ⟨none, .unit, none, []⟩

/-- The entry points that return a new keygen session handle, with their
arguments. -/
inductive KeygenInit (D : Dkg) where
  | new (participants threshold partyId : UInt8) (seed : Option (List UInt8))
      (entropy : Bytes 32)
  | keyRotation (oldshare : Option D.Keyshare) (seed : Option (List UInt8))
      (entropy : Bytes 32) (errOut : Bool)
  | keyRecovery (oldshare : Option D.Keyshare) (lostShares : Option (List UInt8))
      (seed : Option (List UInt8)) (entropy : Bytes 32) (errOut : Bool)
  | lostShareRecovery (participants threshold partyId : UInt8) (pk : CSlice UInt8)
      (lostShares : Option (List UInt8)) (seed : Option (List UInt8)) (entropy : Bytes 32)
      (errOut : Bool)
  | fromBytes (bytes : Option (List UInt8))

/-- Run one constructor. -/
def KeygenInit.apply : KeygenInit D → Except Fault (KeygenReply D)
  | .new participants threshold partyId seed entropy =>
      dklsKeygenNew participants threshold partyId seed entropy
  | .keyRotation oldshare seed entropy errOut =>
      dklsKeygenInitKeyRotation oldshare seed entropy errOut
  | .keyRecovery oldshare lostShares seed entropy errOut =>
      dklsKeygenInitKeyRecovery oldshare lostShares seed entropy errOut
  | .lostShareRecovery participants threshold partyId pk lostShares seed entropy errOut =>
      dklsKeygenInitLostShareRecovery participants threshold partyId pk lostShares seed
        entropy errOut
  | .fromBytes bytes => dklsKeygenFromBytes bytes

/-- The `err_out` argument of a constructor, `false` (null) for one that
takes none. -/
def KeygenInit.errOut : KeygenInit D → Bool
  | .keyRotation _ _ _ errOut | .keyRecovery _ _ _ _ errOut
  | .lostShareRecovery _ _ _ _ _ _ _ errOut => errOut
  | .new .. | .fromBytes _ => false

/-- The calls that take a keygen session handle, with every argument but the
handle. -/
inductive KeygenCall where
  | createFirstMessage (errOut : Bool)
  | calculateCommitment2 (out : Bool)
  | handleMessages (msgs : Option (List Message)) (commitments seed : Option (List UInt8))
      (entropy : Bytes 32) (errOut out : Bool)
  | keyshare (errOut : Bool)
  | free

/-- Run one call on a handle. -/
def KeygenCall.apply : KeygenCall → Option (KeygenSessionHandle D) →
    Except Fault (KeygenReply D)
  | .createFirstMessage errOut, h => dklsKeygenCreateFirstMessage h errOut
  | .calculateCommitment2 out, h => dklsKeygenCalculateCommitment2 h out
  | .handleMessages msgs commitments seed entropy errOut out, h =>
      dklsKeygenHandleMessages h msgs commitments seed entropy errOut out
  | .keyshare errOut, h => dklsKeygenKeyshare h errOut
  | .free, h => dklsKeygenFree h

/-- The `err_out` argument of a call, `false` (null) for a call that takes
none. -/
def KeygenCall.errOut : KeygenCall → Bool
  | .createFirstMessage errOut | .handleMessages _ _ _ _ errOut _ | .keyshare errOut => errOut
  | .calculateCommitment2 _ | .free => false

end DklsFfi.Keygen
