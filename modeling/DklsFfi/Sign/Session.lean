import DklsFfi.Message

/-!
The sign session of `sign.rs`, in the same shape as `Keygen.Session`. Two
entry points take the round out with `mem::replace`, leaving the `Finished`
placeholder behind while they work: `dkls_sign_last_message` puts a round
back on every path, `dkls_sign_combine` releases the handle on every path.
-/

namespace DklsFfi.Sign

/-- `Round`. -/
inductive Round (PreSignature PartialSignature : Type) where
  | init
  | waitMsg1
  | waitMsg2
  | waitMsg3
  | pre (pre : PreSignature)
  | waitMsg4 (partialSignature : PartialSignature)
  | failed
  | finished

variable {K : Type}

/-- `SignSessionHandle`: the engine state and the round. -/
structure SignSessionHandle (S : Dsg K) where
  state : S.State
  round : Round S.PreSignature S.PartialSignature

variable {S : Dsg K}

/-- `SignSessionHandle::new`: every session starts in `Init`. -/
def SignSessionHandle.new (state : S.State) : SignSessionHandle S :=
  { state, round := .init }

theorem SignSessionHandle.with_round_self {s : SignSessionHandle S}
    {round : Round S.PreSignature S.PartialSignature} (h : s.round = round) :
    { s with round } = s := by
  cases s; cases h; rfl

/-- An engine call of the sign protocol with the error it returned, if any.
`handle_msg3` records its whole result, `create_partial_signature` the
pre-signature and digest it consumed and the partial signature it produced,
`combine_signatures` the partial signature it was given. -/
inductive SignEvent (S : Dsg K) where
  | generateMsg1
  | handleMsg1 (error : Option S.SignError)
  | handleMsg2 (error : Option S.SignError)
  | handleMsg3 (result : Except S.SignError S.PreSignature)
  | createPartialSignature (pre : S.PreSignature) (hash : Bytes 32)
      (partialSignature : S.PartialSignature)
  | combineSignatures (partialSignature : S.PartialSignature) (error : Option S.SignError)

/-- The reply of a sign entry point. -/
abbrev SignReply (S : Dsg K) := Reply (SignSessionHandle S) (SignEvent S) K

/-- `impl MessageRouting for dsg::SignMsg1`. -/
def SignMsg1.routing (S : Dsg K) : MessageRouting S.msg1.T := broadcastRouting S.msg1

/-- `impl MessageRouting for dsg::SignMsg2`. -/
def SignMsg2.routing (S : Dsg K) : MessageRouting S.msg2.T := directRouting S.msg2 S.msg2ToId

/-- `impl MessageRouting for dsg::SignMsg3`. -/
def SignMsg3.routing (S : Dsg K) : MessageRouting S.msg3.T := directRouting S.msg3 S.msg3ToId

/-- `impl MessageRouting for dsg::SignMsg4`. -/
def SignMsg4.routing (S : Dsg K) : MessageRouting S.msg4.T := broadcastRouting S.msg4

/-- `dkls_sign_new`. The keyshare is cloned into the session; the path is
checked before the seed, and an engine error is reported without its text. -/
def dklsSignNew (keyshare : Option K) (chainPath : Option (List UInt8))
    (seed : Option (List UInt8)) (entropy : Bytes 32) (errOut : Bool) :
    Except Fault (SignReply S) :=
  match keyshare with
  | none => reject none .unit errOut "null keyshare"
  | some keyshare =>
      match cStrToString S chainPath with
      | .error e => reject none .unit errOut e
      | .ok chainPathStr =>
          match S.derivationPathFromStr chainPathStr with
          | none => reject none .unit errOut "invalid derivation path"
          | some chainPath => do
              let rng ← maybeSeededRng (seedSlice seed) entropy
              match S.new rng keyshare chainPath with
              | .ok state => pure ⟨some (SignSessionHandle.new state), .unit, none, []⟩
              | .error _ => reject none .unit errOut "sign session init failed"

/-- `SignSessionSerializable`: what `dkls_sign_to_bytes` encodes, the
round. -/
structure SignSessionSerializable (S : Dsg K) where
  round : Round S.PreSignature S.PartialSignature

/-- `dkls_sign_to_bytes`, over the CBOR encoder of `SignSessionSerializable`.
The round is rebuilt variant by variant; `Pre` and `WaitMsg4`, whose payloads
cannot be cloned, give the null buffer, as do a null handle and an encoder
error. -/
def dklsSignToBytes (encode : SignSessionSerializable S → Except String (List UInt8))
    (handle : Option (SignSessionHandle S)) : Option (List UInt8) :=
  match handle with
  | none => none
  | some s =>
      let round : Option (Round S.PreSignature S.PartialSignature) :=
        match s.round with
        | .init => some .init
        | .waitMsg1 => some .waitMsg1
        | .waitMsg2 => some .waitMsg2
        | .waitMsg3 => some .waitMsg3
        | .pre _ => none
        | .waitMsg4 _ => none
        | .failed => some .failed
        | .finished => some .finished
      match round with
      | none => none
      | some round => (encode ⟨round⟩).toOption

/-- `dkls_sign_from_bytes`: the input is ignored and the pointer returned is
null. -/
def dklsSignFromBytes (_bytes : Option (List UInt8)) : Except Fault (SignReply S) :=
  pure ⟨none, .unit, none, []⟩

/-- The entry points that return a new sign session handle, with their
arguments. -/
inductive SignInit (K : Type) where
  | new (keyshare : Option K) (chainPath seed : Option (List UInt8)) (entropy : Bytes 32)
      (errOut : Bool)
  | fromBytes (bytes : Option (List UInt8))

/-- Run one constructor. -/
def SignInit.apply : SignInit K → Except Fault (SignReply S)
  | .new keyshare chainPath seed entropy errOut =>
      dklsSignNew keyshare chainPath seed entropy errOut
  | .fromBytes bytes => dklsSignFromBytes bytes

/-- The `err_out` argument of a constructor, `false` (null) for one that
takes none. -/
def SignInit.errOut : SignInit K → Bool
  | .new _ _ _ _ errOut => errOut
  | .fromBytes _ => false

/-- `dkls_sign_create_first_message`. -/
def dklsSignCreateFirstMessage (handle : Option (SignSessionHandle S)) (errOut : Bool) :
    Except Fault (SignReply S) :=
  match handle with
  | none => reject none (.message none) errOut "null handle"
  | some s =>
      match s.round with
      | .init => do
          let (state, msg1) := S.generateMsg1 s.state
          let msg ← Message.new S.msg1 (SignMsg1.routing S) msg1
          pure ⟨some { s with state, round := .waitMsg1 }, .message (some msg), none,
            [.generateMsg1]⟩
      | _ => reject (some s) (.message none) errOut "invalid state"

/-- `handle_messages` of `sign.rs`. -/
def handleMessages {T U : WireType} (s : SignSessionHandle S) (msgs : Option (List Message))
    (h : S.State → List T.T → S.State × Except S.SignError (List U.T))
    (routing : MessageRouting U.T) (next : Round S.PreSignature S.PartialSignature)
    (event : Option S.SignError → SignEvent S) :
    Except Fault (SignSessionHandle S × Except GoError (List Message) × List (SignEvent S)) :=
  handleMessagesWith SignSessionHandle.state (fun _ state round => { state, round })
    .failed (signErrorToGo S) s msgs h routing next event

/-- `dkls_sign_handle_messages`. Round 3 reads and decodes inline, fails the
session on a batch that does not decode, and ends in `Pre` with no outbound
message. The batch pointer is never checked for null. -/
def dklsSignHandleMessages (handle : Option (SignSessionHandle S))
    (msgs : Option (List Message))
    (seed : Option (List UInt8)) (entropy : Bytes 32) (errOut out : Bool) :
    Except Fault (SignReply S) :=
  match handle with
  | none => reject none (.status (-1) none) errOut "null handle"
  | some s => do
      let rng ← maybeSeededRng (seedSlice seed) entropy
      match s.round with
      | .waitMsg1 => do
          let r ← handleMessages s msgs (fun st ms => S.handleMsg1 st rng ms)
            (SignMsg2.routing S) .waitMsg2 .handleMsg1
          pure (finishRound r errOut out)
      | .waitMsg2 => do
          let r ← handleMessages s msgs (fun st ms => S.handleMsg2 st rng ms)
            (SignMsg3.routing S) .waitMsg3 .handleMsg2
          pure (finishRound r errOut out)
      | .waitMsg3 => do
          let msgsSlice ← fromRawParts msgs
          match Message.decodeVector S.msg3 msgsSlice with
          | .error e => do
              let err ← reportError errOut e 1
              pure ⟨some { s with round := .failed }, .status (-1) none, err, []⟩
          | .ok msgsVec =>
              match S.handleMsg3 s.state msgsVec with
              | (state, .ok pre) =>
                  pure (finishRound ({ state, round := .pre pre }, .ok [],
                    [.handleMsg3 (.ok pre)]) errOut out)
              | (state, .error e) => do
                  let err ← signErrorToGo S e
                  pure (finishRound ({ state, round := .failed }, .error err,
                    [.handleMsg3 (.error e)]) errOut out)
      | .failed => reject (some s) (.status (-1) none) errOut "failed"
      | _ => reject (some s) (.status (-1) none) errOut "invalid session state"

/-- `dkls_sign_last_message`. The digest length is checked first and the
digest then read without a null check; the round is then swapped for
`Finished` and put back, consumed into `WaitMsg4` when it was `Pre`,
unchanged otherwise. -/
def dklsSignLastMessage (handle : Option (SignSessionHandle S)) (messageHash : CSlice UInt8)
    (errOut : Bool) : Except Fault (SignReply S) :=
  match handle with
  | none => reject none (.message none) errOut "null handle"
  | some s =>
      if messageHash.len ≠ 32 then
        reject (some s) (.message none) errOut "invalid message hash"
      else do
        let hashSlice ← fromRawParts messageHash.ptr
        let hash ← unwrap (Bytes.tryFrom 32 hashSlice)
        let round := s.round
        let s := { s with round := .finished }
        match round with
        | .pre pre =>
            let (partialSignature, msg4) := S.createPartialSignature pre hash
            let msg ← Message.new S.msg4 (SignMsg4.routing S) msg4
            pure ⟨some { s with round := .waitMsg4 partialSignature }, .message (some msg),
              none, [.createPartialSignature pre hash partialSignature]⟩
        | prev => reject (some { s with round := prev }) (.message none) errOut "invalid state"

/-- `dkls_sign_combine`. Past the null checks, which do not cover the batch
pointer, the code swaps the round for `Finished` and releases the handle on
every path that returns, whatever the outcome, so the placeholder is never
seen and no session is left. -/
def dklsSignCombine (handle : Option (SignSessionHandle S)) (msgs : Option (List Message))
    (rOut sOut errOut : Bool) : Except Fault (SignReply S) :=
  match handle with
  | none => reject none (.signature (-1) none) errOut "null handle or output"
  | some s =>
      if !(rOut && sOut) then
        reject (some s) (.signature (-1) none) errOut "null handle or output"
      else
        match s.round with
        | .waitMsg4 partialSignature => do
            let msgsSlice ← fromRawParts msgs
            match Message.decodeVector S.msg4 msgsSlice with
            | .error e => reject none (.signature (-1) none) errOut e
            | .ok msgsVec =>
                match S.combineSignatures partialSignature msgsVec with
                | .ok sign =>
                    let (r, sBytes) := S.splitBytes sign
                    match Bytes.tryFrom 32 r, Bytes.tryFrom 32 sBytes with
                    | some r, some sBytes =>
                        pure ⟨none, .signature 0 (some (r, sBytes)), none,
                          [.combineSignatures partialSignature none]⟩
                    | _, _ => do
                        let err ← reportError errOut "invalid signature size" 1
                        pure ⟨none, .signature (-1) none, err,
                          [.combineSignatures partialSignature none]⟩
                | .error e => do
                    let err ← reportWith errOut (signErrorToGo S e)
                    pure ⟨none, .signature (-1) none, err,
                      [.combineSignatures partialSignature (some e)]⟩
        | _ => reject none (.signature (-1) none) errOut "invalid state"

/-- `dkls_sign_free`. -/
def dklsSignFree (_handle : Option (SignSessionHandle S)) : Except Fault (SignReply S) :=
  pure ⟨none, .unit, none, []⟩

/-- The calls that take a sign session handle, with every argument but the
handle. -/
inductive SignCall where
  | createFirstMessage (errOut : Bool)
  | handleMessages (msgs : Option (List Message)) (seed : Option (List UInt8))
      (entropy : Bytes 32) (errOut out : Bool)
  | lastMessage (messageHash : CSlice UInt8) (errOut : Bool)
  | combine (msgs : Option (List Message)) (rOut sOut errOut : Bool)
  | free

/-- Run one call on a handle. -/
def SignCall.apply : SignCall → Option (SignSessionHandle S) → Except Fault (SignReply S)
  | .createFirstMessage errOut, h => dklsSignCreateFirstMessage h errOut
  | .handleMessages msgs seed entropy errOut out, h =>
      dklsSignHandleMessages h msgs seed entropy errOut out
  | .lastMessage messageHash errOut, h => dklsSignLastMessage h messageHash errOut
  | .combine msgs rOut sOut errOut, h => dklsSignCombine h msgs rOut sOut errOut
  | .free, h => dklsSignFree h

/-- The `err_out` argument of a call, `false` (null) for a call that takes
none. -/
def SignCall.errOut : SignCall → Bool
  | .createFirstMessage errOut | .handleMessages _ _ _ errOut _ | .lastMessage _ errOut
  | .combine _ _ _ errOut => errOut
  | .free => false

end DklsFfi.Sign
