import DklsFfi.Lib

/-!
The message envelope of `message.rs`. A `Message` carries its routing next
to an opaque CBOR payload; routing is read off the payload once, when the
message is built. Decoding a batch is all or nothing. Releasing messages is
the host's business and is not modelled.
-/

namespace DklsFfi

/-- `Message`: sender, receiver (255 for a broadcast) and payload bytes. -/
structure Message where
  fromId : UInt8
  toId : UInt8
  payload : List UInt8
  deriving DecidableEq, Repr

/-- The `MessageRouting` trait, as a record of its two methods. -/
structure MessageRouting (T : Type) where
  srcPartyId : T → UInt8
  dstPartyId : T → Option UInt8

/-- The routing of a broadcast message type: `from_id` and no receiver. -/
def broadcastRouting (W : WireType) : MessageRouting W.T where
  srcPartyId := W.fromId
  dstPartyId _ := none

/-- The routing of a point-to-point message type: `from_id` and `to_id`. -/
def directRouting (W : WireType) (toId : W.T → UInt8) : MessageRouting W.T where
  srcPartyId := W.fromId
  dstPartyId m := some (toId m)

/-- `Message::new`: encode the payload (the `expect` fires on an encoder
error) and copy its routing. -/
def Message.new (W : WireType) (routing : MessageRouting W.T) (payload : W.T) :
    Except Fault Message := do
  let buffer ← expect (W.encode payload).toOption "CBOR encode error"
  pure { fromId := routing.srcPartyId payload
         toId := (routing.dstPartyId payload).getD 255
         payload := buffer }

/-- `Message::decode`. -/
def Message.decode (W : WireType) (msg : Message) : Except String W.T :=
  (W.decode msg.payload).mapError ("CBOR decode error: " ++ ·)

/-- `Message::decode_vector`: collecting into a `Result` stops at the first
message that does not decode. -/
def Message.decodeVector (W : WireType) (input : List Message) :
    Except String (List W.T) :=
  input.mapM (Message.decode W)

/-- `Message::encode_vector`. -/
def Message.encodeVector (W : WireType) (routing : MessageRouting W.T)
    (msgs : List W.T) : Except Fault (List Message) :=
  msgs.mapM (Message.new W routing)

/-- A batch with one undecodable message fails as a whole, whatever its
position. -/
theorem Message.decodeVector_error {W : WireType} {input : List Message}
    (h : ∃ msg ∈ input, ∃ e, W.decode msg.payload = .error e) :
    ∃ e, Message.decodeVector W input = .error e := by
  obtain ⟨msg, hmsg, e, he⟩ := h
  exact mapM_error_of_mem _ input
    ⟨msg, hmsg, "CBOR decode error: " ++ e, by simp [Message.decode, he]⟩

theorem Message.new_eq_ok {W : WireType} {routing : MessageRouting W.T}
    {payload : W.T} {msg : Message} :
    Message.new W routing payload = .ok msg ↔
      ∃ bytes, W.encode payload = .ok bytes ∧
        msg = { fromId := routing.srcPartyId payload
                toId := (routing.dstPartyId payload).getD 255
                payload := bytes } := by
  unfold Message.new
  cases W.encode payload <;> simp [expect, Except.toOption, eq_comm]

/-- A broadcast message is sent to 255, a direct one to its `to_id`. -/
theorem Message.new_toId {W : WireType} {routing : MessageRouting W.T} {payload : W.T}
    {msg : Message} (h : Message.new W routing payload = .ok msg) :
    msg.fromId = routing.srcPartyId payload ∧
      msg.toId = (routing.dstPartyId payload).getD 255 := by
  obtain ⟨bytes, -, rfl⟩ := Message.new_eq_ok.mp h
  exact ⟨rfl, rfl⟩

/-- `msg` is an envelope `Message::new` builds for a value of the wire type
`W`: its payload is the value's encoding and its routing the value's. -/
def Message.Envelopes (W : WireType) (routing : MessageRouting W.T) (msg : Message) : Prop :=
  ∃ x, W.encode x = .ok msg.payload ∧ msg.fromId = routing.srcPartyId x ∧
    msg.toId = (routing.dstPartyId x).getD 255

theorem Message.new_envelopes {W : WireType} {routing : MessageRouting W.T} {x : W.T}
    {msg : Message} (h : Message.new W routing x = .ok msg) : msg.Envelopes W routing := by
  obtain ⟨bytes, he, rfl⟩ := Message.new_eq_ok.mp h
  exact ⟨x, he, rfl, rfl⟩

/-- Every message of an encoded batch is an envelope of its type. -/
theorem Message.encodeVector_envelopes {W : WireType} {routing : MessageRouting W.T} :
    ∀ {xs : List W.T} {msgs : List Message},
      Message.encodeVector W routing xs = .ok msgs → ∀ m ∈ msgs, m.Envelopes W routing
  | [], _, h => by cases h; nofun
  | x :: xs, _, h => by
      rw [Message.encodeVector, List.mapM_cons] at h
      obtain ⟨m, hx, h⟩ := except_bind_eq_ok.mp h
      obtain ⟨ms, hxs, h⟩ := except_bind_eq_ok.mp h
      cases h
      intro m' hm'
      rcases List.mem_cons.mp hm' with rfl | hm'
      · exact Message.new_envelopes hx
      · exact Message.encodeVector_envelopes hxs m' hm'

/-- What an entry point hands back: the pointer returned (`Message`,
`KeyshareHandle`), the `c_int` status with what was written through `out`,
`r_out` and `s_out`, or nothing. -/
inductive Ret (Keyshare : Type) where
  | message (msg : Option Message)
  | status (code : Int) (out : Option (List Message))
  | commitment (code : Int) (out : Option (Bytes 32))
  | keyshare (keyshare : Option Keyshare)
  | signature (code : Int) (rs : Option (Bytes 32 × Bytes 32))
  | unit

/-- The messages a return value hands to the host: the message returned, or
the batch written through `out`. -/
def Ret.messages {K : Type} : Ret K → List Message
  | .message msg => msg.toList
  | .status _ out => out.getD []
  | _ => []

/-- What a call leaves behind at the handle it was given, `none` for a null
handle or once the call has released it (a constructor: the new session),
with its return value, the error it wrote through `err_out`, and the engine
steps it ran, as ghost events. -/
structure Reply (S E Keyshare : Type) where
  session : Option S
  ret : Ret Keyshare
  err : Option GoError
  events : List E

/-- The early-return block shared by every entry point: write the error if
`err_out` is not null and return the failure value, having run no engine
step. -/
def reject {S E K : Type} (session : Option S) (ret : Ret K) (errOut : Bool)
    (msg : String) : Except Fault (Reply S E K) := do
  let err ← reportError errOut msg 1
  pure ⟨session, ret, err, []⟩

theorem reject_of_nul_free {S E K : Type} {msg : String} (h : nul ∉ msg.data)
    (session : Option S) (ret : Ret K) (errOut : Bool) :
    (reject session ret errOut msg : Except Fault (Reply S E K)) =
      .ok ⟨session, ret, writeErr errOut ⟨msg, 1⟩, []⟩ := by
  simp [reject, reportError_of_nul_free h]

/-- The tail shared by both `handle_messages` entry points: on `Ok` write the
outbound batch through `out` and return 0, on `Err` write the error through
`err_out` and return -1. -/
def finishRound {S E K : Type} (round : S × Except GoError (List Message) × List E)
    (errOut out : Bool) : Reply S E K :=
  match round with
  | (s, .ok outVec, events) =>
      ⟨some s, .status 0 (if out then some outVec else none), none, events⟩
  | (s, .error err, events) => ⟨some s, .status (-1) none, writeErr errOut err, events⟩

@[simp] theorem finishRound_session {S E K : Type}
    (r : S × Except GoError (List Message) × List E) (errOut out : Bool) :
    (finishRound r errOut out : Reply S E K).session = some r.1 := by
  rcases r with ⟨s, _ | _, events⟩ <;> rfl

@[simp] theorem finishRound_events {S E K : Type}
    (r : S × Except GoError (List Message) × List E) (errOut out : Bool) :
    (finishRound r errOut out : Reply S E K).events = r.2.2 := by
  rcases r with ⟨s, _ | _, events⟩ <;> rfl

/-- The messages a finished round hands back are those of its `Ok` batch. -/
theorem finishRound_messages {S E K : Type}
    (r : S × Except GoError (List Message) × List E) (errOut out : Bool) :
    ∀ m ∈ (finishRound r errOut out : Reply S E K).ret.messages,
      ∃ outVec, r.2.1 = .ok outVec ∧ m ∈ outVec := by
  rcases r with ⟨s, _ | outVec, events⟩
  · nofun
  · intro m hm
    cases out
    · cases hm
    · exact ⟨outVec, rfl, hm⟩

theorem reject_session {S E K : Type} {session : Option S} {ret : Ret K}
    {errOut : Bool} {msg : String} {r : Reply S E K}
    (h : reject session ret errOut msg = .ok r) :
    r.session = session ∧ r.ret = ret ∧ r.events = [] := by
  obtain ⟨err, -, h⟩ := except_bind_eq_ok.mp h
  cases h
  exact ⟨rfl, rfl, rfl⟩

/-- An early return writes its error exactly when `err_out` is not null. -/
theorem reject_err {S E K : Type} {session : Option S} {ret : Ret K} {errOut : Bool}
    {msg : String} {r : Reply S E K} (h : reject session ret errOut msg = .ok r) :
    r.err.isSome = errOut ∧ r.ret = ret ∧ r.session = session := by
  obtain ⟨err, herr, h⟩ := except_bind_eq_ok.mp h
  cases h
  exact ⟨reportWith_isSome herr, rfl, rfl⟩

theorem writeErr_code {errOut : Bool} {err : GoError} {code : Int} (h : err.code = code) :
    ∀ e ∈ writeErr errOut err, e.code = code := by
  cases errOut <;> simp [writeErr, h]

/-- Every error an early return writes has code 1. -/
theorem reject_code {S E K : Type} {session : Option S} {ret : Ret K} {errOut : Bool}
    {msg : String} {r : Reply S E K} (h : reject session ret errOut msg = .ok r) :
    ∀ err ∈ r.err, err.code = 1 := by
  obtain ⟨e, he, h⟩ := except_bind_eq_ok.mp h
  cases h
  rintro err rfl
  exact reportError_code he

/-- A constructor's early return builds nothing, writes its error exactly when
`err_out` is not null, and always with code 1. -/
theorem reject_failure {S E K : Type} {ret : Ret K} {errOut : Bool} {msg : String}
    {r : Reply S E K} (h : reject none ret errOut msg = .ok r) :
    r.session = none ∧ r.err.isSome = errOut ∧ ∀ err ∈ r.err, err.code = 1 :=
  ⟨(reject_err h).2.2, (reject_err h).1, reject_code h⟩

/-- The `handle_messages` helper that `keygen.rs` and `sign.rs` each define,
over the session record: read the batch with `from_raw_parts`, decode it
whole, run the engine step `h` on the session's state, and move to `next` on
`Ok` or to `failed` on `Err`. A batch that does not decode returns its error,
built even when `err_out` is null, and leaves the session as it was. -/
def handleMessagesWith {Sess St Err Rnd Ev : Type} {T U : WireType}
    (state : Sess → St) (update : Sess → St → Rnd → Sess) (failed : Rnd)
    (errorToGo : Err → Except Fault GoError) (s : Sess) (msgs : Option (List Message))
    (h : St → List T.T → St × Except Err (List U.T)) (routing : MessageRouting U.T)
    (next : Rnd) (event : Option Err → Ev) :
    Except Fault (Sess × Except GoError (List Message) × List Ev) := do
  let msgsSlice ← fromRawParts msgs
  match Message.decodeVector T msgsSlice with
  | .error e => do
      let err ← GoError.new e 1
      pure (s, .error err, [])
  | .ok msgsVec =>
      match h (state s) msgsVec with
      | (st, .ok out) => do
          let out ← Message.encodeVector U routing out
          pure (update s st next, .ok out, [event none])
      | (st, .error e) => do
          let err ← errorToGo e
          pure (update s st failed, .error err, [event (some e)])

/-- Everything the helper can return, from a non-null batch `ms`: the decode
error with the session untouched, or the engine step's `Ok` with the session
at `next`, or its `Err`, translated, with the session failed. -/
theorem handleMessagesWith_cases {Sess St Err Rnd Ev : Type} {T U : WireType}
    {state : Sess → St} {update : Sess → St → Rnd → Sess} {failed : Rnd}
    {errorToGo : Err → Except Fault GoError} {s : Sess} {msgs : Option (List Message)}
    {h : St → List T.T → St × Except Err (List U.T)} {routing : MessageRouting U.T}
    {next : Rnd} {event : Option Err → Ev} {s' : Sess}
    {res : Except GoError (List Message)} {events : List Ev}
    (hr : handleMessagesWith state update failed errorToGo s msgs h routing next event =
      .ok (s', res, events)) :
    ∃ ms, msgs = some ms ∧
      ((∃ e err, Message.decodeVector T ms = .error e ∧ GoError.new e 1 = .ok err ∧
        s' = s ∧ res = .error err ∧ events = []) ∨
      (∃ v st out outMsgs, Message.decodeVector T ms = .ok v ∧
        h (state s) v = (st, .ok out) ∧ Message.encodeVector U routing out = .ok outMsgs ∧
        s' = update s st next ∧ res = .ok outMsgs ∧ events = [event none]) ∨
      (∃ v st e err, Message.decodeVector T ms = .ok v ∧ h (state s) v = (st, .error e) ∧
        errorToGo e = .ok err ∧ s' = update s st failed ∧ res = .error err ∧
        events = [event (some e)])) := by
  cases msgs with
  | none => cases hr
  | some ms =>
      refine ⟨ms, rfl, ?_⟩
      simp only [handleMessagesWith, fromRawParts_some, except_ok_bind] at hr
      split at hr
      · rename_i e hd
        obtain ⟨err, herr, hr⟩ := except_bind_eq_ok.mp hr
        cases hr
        exact .inl ⟨e, err, hd, herr, rfl, rfl, rfl⟩
      · rename_i v hd
        split at hr
        · rename_i st out hh
          obtain ⟨msgs', henc, hr⟩ := except_bind_eq_ok.mp hr
          cases hr
          exact .inr (.inl ⟨v, st, out, msgs', hd, hh, henc, rfl, rfl, rfl⟩)
        · rename_i st e hh
          obtain ⟨err, herr, hr⟩ := except_bind_eq_ok.mp hr
          cases hr
          exact .inr (.inr ⟨v, st, e, err, hd, hh, herr, rfl, rfl, rfl⟩)

/-- The only engine step the helper reports is the one it was built around. -/
theorem handleMessagesWith_events {Sess St Err Rnd Ev : Type} {T U : WireType}
    {state : Sess → St} {update : Sess → St → Rnd → Sess} {failed : Rnd}
    {errorToGo : Err → Except Fault GoError} {s : Sess} {msgs : Option (List Message)}
    {h : St → List T.T → St × Except Err (List U.T)} {routing : MessageRouting U.T}
    {next : Rnd} {event : Option Err → Ev} {s' : Sess}
    {res : Except GoError (List Message)} {events : List Ev}
    (hr : handleMessagesWith state update failed errorToGo s msgs h routing next event =
      .ok (s', res, events)) :
    ∀ ev ∈ events, ∃ e, ev = event e := by
  rcases handleMessagesWith_cases hr with ⟨_, -,
    ⟨_, _, -, -, -, -, rfl⟩ | ⟨_, _, _, _, -, -, -, -, -, rfl⟩ |
      ⟨_, _, e, _, -, -, -, -, -, rfl⟩⟩
  · nofun
  · simp
  · simp

/-- Every message of the helper's `Ok` batch is an envelope of the outbound
type. -/
theorem handleMessagesWith_envelopes {Sess St Err Rnd Ev : Type} {T U : WireType}
    {state : Sess → St} {update : Sess → St → Rnd → Sess} {failed : Rnd}
    {errorToGo : Err → Except Fault GoError} {s : Sess} {msgs : Option (List Message)}
    {h : St → List T.T → St × Except Err (List U.T)} {routing : MessageRouting U.T}
    {next : Rnd} {event : Option Err → Ev} {s' : Sess} {outMsgs : List Message}
    {events : List Ev}
    (hr : handleMessagesWith state update failed errorToGo s msgs h routing next event =
      .ok (s', .ok outMsgs, events)) :
    ∀ m ∈ outMsgs, m.Envelopes U routing := by
  rcases handleMessagesWith_cases hr with ⟨_, -,
    ⟨_, _, -, -, -, hres, -⟩ | ⟨_, _, _, _, -, -, henc, -, hres, -⟩ |
      ⟨_, _, _, _, -, -, -, -, hres, -⟩⟩
  · cases hres
  · cases hres
    exact Message.encodeVector_envelopes henc
  · cases hres

end DklsFfi
