import DklsFfi.Sign.Steps

/-!
The sign protocol as the `dkls23_ll::dsg` engine runs it, and the wrapper as
an implementation of it, in the shape of `Keygen.Refinement`. A sign session
holds nothing but its engine state and round, so the session record is itself
the protocol state. Besides the rounds run by the engine, the digest step
consumes the pre-signature into a partial signature and sends its round-4
message; the combining step ends the protocol and releases the handle, and
the signature it hands back is the one `combine_signatures` returned on the
session's partial signature and the decoded batch.
-/

namespace DklsFfi

namespace Sign

variable {K : Type} {S : Dsg K}

/-- The engine operation an event records, run on the engine state `st` with
the decoding of the inbound batch `inbound`, leaves `st'` and sends `msgs`.
The digest step changes no engine state; the combining step leaves none. -/
def EngineStep (inbound : List Message) (st : S.State) :
    SignEvent S → S.State → List Message → Prop
  | .generateMsg1, st', msgs => (S.generateMsg1 st).1 = st' ∧
      ∃ msg, Message.new S.msg1 (SignMsg1.routing S) (S.generateMsg1 st).2 = .ok msg ∧
        msgs = [msg]
  | .handleMsg1 none, st', msgs => ∃ rng v out, Message.decodeVector S.msg1 inbound = .ok v ∧
      S.handleMsg1 st rng v = (st', .ok out) ∧
      Message.encodeVector S.msg2 (SignMsg2.routing S) out = .ok msgs
  | .handleMsg1 (some e), st', msgs => ∃ rng v, Message.decodeVector S.msg1 inbound = .ok v ∧
      S.handleMsg1 st rng v = (st', .error e) ∧ msgs = []
  | .handleMsg2 none, st', msgs => ∃ rng v out, Message.decodeVector S.msg2 inbound = .ok v ∧
      S.handleMsg2 st rng v = (st', .ok out) ∧
      Message.encodeVector S.msg3 (SignMsg3.routing S) out = .ok msgs
  | .handleMsg2 (some e), st', msgs => ∃ rng v, Message.decodeVector S.msg2 inbound = .ok v ∧
      S.handleMsg2 st rng v = (st', .error e) ∧ msgs = []
  | .handleMsg3 result, st', msgs => ∃ v, Message.decodeVector S.msg3 inbound = .ok v ∧
      S.handleMsg3 st v = (st', result) ∧ msgs = []
  | .createPartialSignature pre hash partialSignature, st', msgs => st' = st ∧
      (S.createPartialSignature pre hash).1 = partialSignature ∧
      ∃ msg, Message.new S.msg4 (SignMsg4.routing S) (S.createPartialSignature pre hash).2 =
        .ok msg ∧ msgs = [msg]
  | .combineSignatures partialSignature none, _, msgs => ∃ v sig,
      Message.decodeVector S.msg4 inbound = .ok v ∧
        S.combineSignatures partialSignature v = .ok sig ∧ msgs = []
  | .combineSignatures partialSignature (some e), _, msgs => ∃ v,
      Message.decodeVector S.msg4 inbound = .ok v ∧
        S.combineSignatures partialSignature v = .error e ∧ msgs = []

/-- One protocol step on the batch `inbound`: the round's engine operation on
the engine state, to the next round on `Ok` and to `Failed` on `Err`. -/
inductive ProtocolStep (inbound : List Message) (p : SignSessionHandle S) :
    SignEvent S → SignSessionHandle S → List Message → Prop
  | advance {e : SignEvent S} {next : Round S.PreSignature S.PartialSignature} {st : S.State}
      {msgs : List Message} :
      Advances p.round e next → EngineStep inbound p.state e st msgs →
        ProtocolStep inbound p e ⟨st, next⟩ msgs
  | fail {e : SignEvent S} {st : S.State} :
      Fails p.round e → EngineStep inbound p.state e st [] →
        ProtocolStep inbound p e ⟨st, .failed⟩ []

/-- The protocol states reached from `p`, with the engine steps run: protocol
steps, each on the state the previous one left, and the end of round 3 on a
batch that does not decode, which runs no engine step. -/
inductive Runs (p : SignSessionHandle S) : List (SignEvent S) → SignSessionHandle S → Prop
  | refl : Runs p [] p
  | step {tr : List (SignEvent S)} {q q' : SignSessionHandle S} {inbound : List Message}
      {e : SignEvent S} {msgs : List Message} :
      Runs p tr q → ProtocolStep inbound q e q' msgs → Runs p (tr ++ [e]) q'
  | abort {tr : List (SignEvent S)} {q : SignSessionHandle S} :
      Runs p tr q → q.round = .waitMsg3 → Runs p tr ⟨q.state, .failed⟩

/-- What one call does to a live session `s`, seen from the protocol, with the
messages the protocol step sends: nothing, one step on the call's inbound
batch, the end of round 3 on a batch that does not decode, the release of the
handle, or the combining step, which releases it after `combine_signatures`
on the partial signature of `WaitMsg4`. -/
inductive Drives (s : SignSessionHandle S) (inbound : List Message) :
    Option (SignSessionHandle S) → List (SignEvent S) → List Message → Prop
  | stay : Drives s inbound (some s) [] []
  | step {e : SignEvent S} {p : SignSessionHandle S} {msgs : List Message} :
      ProtocolStep inbound s e p msgs → Drives s inbound (some p) [e] msgs
  | abort : s.round = .waitMsg3 → Drives s inbound (some { s with round := .failed }) [] []
  | release : Drives s inbound none [] []
  | combine {partialSignature : S.PartialSignature} {error : Option S.SignError} :
      s.round = .waitMsg4 partialSignature →
        EngineStep inbound s.state (.combineSignatures partialSignature error) s.state [] →
          Drives s inbound none [.combineSignatures partialSignature error] []

theorem Drives.advance {s : SignSessionHandle S} {inbound : List Message} {e : SignEvent S}
    {next : Round S.PreSignature S.PartialSignature} {st : S.State} {msgs : List Message}
    (hadv : Advances s.round e next) (hstep : EngineStep inbound s.state e st msgs) :
    Drives s inbound (some ⟨st, next⟩) [e] msgs :=
  .step (.advance hadv hstep)

theorem Drives.fail {s : SignSessionHandle S} {inbound : List Message} {e : SignEvent S}
    {st : S.State} (hfail : Fails s.round e) (hstep : EngineStep inbound s.state e st []) :
    Drives s inbound (some ⟨st, .failed⟩) [e] [] :=
  .step (.fail hfail hstep)

/-- A call that leaves a session extends the protocol run of the session it
was given by the engine steps it ran. -/
theorem Drives.runs {s s' : SignSessionHandle S} {inbound : List Message}
    {events : List (SignEvent S)} {msgs : List Message} {p : SignSessionHandle S}
    {tr : List (SignEvent S)} (hd : Drives s inbound (some s') events msgs)
    (hrun : Runs p tr s) : Runs p (tr ++ events) s' := by
  cases hd with
  | stay => simpa using hrun
  | step hstep => exact .step hrun hstep
  | abort hround => simpa using Runs.abort hrun hround

/-- The inbound batch a call passes to the engine: the `msgs` of
`dkls_sign_handle_messages` and `dkls_sign_combine`, nothing for the other
calls (nor for a null batch pointer, on which no call returns once it reads
it). -/
def SignCall.inbound : SignCall → List Message
  | .handleMessages msgs _ _ _ _ | .combine msgs _ _ _ => msgs.getD []
  | _ => []

/-- Whether a call hands the host what it produces: all calls do but
`dkls_sign_handle_messages` with a null `out`. -/
def SignCall.delivers : SignCall → Bool
  | .handleMessages _ _ _ _ out => out
  | _ => true

/-- A reply implements one call on `s` with inbound batch `inbound`: its effect
is within `Drives`, and the messages it hands back are those the protocol step
sent, or none when it does not deliver them. -/
def Implements (s : SignSessionHandle S) (inbound : List Message) (delivers : Bool)
    (r : SignReply S) : Prop :=
  ∃ msgs, Drives s inbound r.session r.events msgs ∧
    r.ret.messages = if delivers then msgs else []

section Calls

variable {s : SignSessionHandle S} {inbound : List Message} {delivers : Bool} {r : SignReply S}

theorem implements_of_reject {session : Option (SignSessionHandle S)} {ret : Ret K}
    {errOut : Bool} {msg : String} (h : reject session ret errOut msg = .ok r)
    (hd : Drives s inbound session [] []) (hret : ret.messages = []) :
    Implements s inbound delivers r := by
  obtain ⟨h1, h2, h3⟩ := reject_session h
  exact ⟨[], h1 ▸ h3 ▸ hd, by rw [h2, hret]; cases delivers <;> rfl⟩

/-- A round that runs the generic helper is one protocol step on the batch it
was given, or a stutter when the batch does not decode. -/
theorem implements_of_handleMessages {T U : WireType} {msgs : Option (List Message)}
    {h : S.State → List T.T → S.State × Except S.SignError (List U.T)}
    {routing : MessageRouting U.T} {next : Round S.PreSignature S.PartialSignature}
    {event : Option S.SignError → SignEvent S} {errOut out : Bool}
    (hr : (do let x ← handleMessages s msgs h routing next event
              pure (finishRound x errOut out)) = .ok r)
    (hadv : Advances s.round (event none) next) (hfail : ∀ e, Fails s.round (event (some e)))
    (hok : ∀ v st outVec outMsgs, Message.decodeVector T (msgs.getD []) = .ok v →
      h s.state v = (st, .ok outVec) → Message.encodeVector U routing outVec = .ok outMsgs →
        EngineStep (msgs.getD []) s.state (event none) st outMsgs)
    (herr : ∀ v st e, Message.decodeVector T (msgs.getD []) = .ok v →
      h s.state v = (st, .error e) → EngineStep (msgs.getD []) s.state (event (some e)) st []) :
    Implements s (msgs.getD []) out r := by
  obtain ⟨⟨s', res, events⟩, hx, hr⟩ := except_bind_eq_ok.mp hr
  cases hr
  rcases handleMessagesWith_cases hx with ⟨_, rfl,
    ⟨_, _, -, -, rfl, rfl, rfl⟩ | ⟨v, st, outVec, outMsgs, hd, hh, he, rfl, rfl, rfl⟩ |
      ⟨v, st, e, _, hd, hh, -, rfl, rfl, rfl⟩⟩
  · exact ⟨[], .stay, by cases out <;> rfl⟩
  · exact ⟨outMsgs, .advance hadv (hok v st outVec outMsgs hd hh he), by cases out <;> rfl⟩
  · exact ⟨[], .fail (hfail e) (herr v st e hd hh), by cases out <;> rfl⟩

theorem dklsSignCreateFirstMessage_implements {errOut : Bool}
    (h : dklsSignCreateFirstMessage (some s) errOut = .ok r) : Implements s [] true r := by
  simp only [dklsSignCreateFirstMessage] at h
  split at h
  · rename_i hround
    obtain ⟨msg, hmsg, h⟩ := except_bind_eq_ok.mp h
    cases h
    exact ⟨[msg], .advance (hround ▸ .generateMsg1) ⟨rfl, msg, hmsg, rfl⟩, rfl⟩
  · exact implements_of_reject h .stay rfl

theorem dklsSignHandleMessages_implements {msgs : Option (List Message)}
    {seed : Option (List UInt8)} {entropy : Bytes 32} {errOut out : Bool}
    (h : dklsSignHandleMessages (some s) msgs seed entropy errOut out = .ok r) :
    Implements s (msgs.getD []) out r := by
  simp only [dklsSignHandleMessages] at h
  obtain ⟨rng, -, h⟩ := except_bind_eq_ok.mp h
  split at h
  · rename_i hround
    exact implements_of_handleMessages h (hround ▸ .handleMsg1) (fun e => hround ▸ .handleMsg1 e)
      (fun v _ out _ hd hh he => ⟨rng, v, out, hd, hh, he⟩)
      (fun v _ _ hd hh => ⟨rng, v, hd, hh, rfl⟩)
  · rename_i hround
    exact implements_of_handleMessages h (hround ▸ .handleMsg2) (fun e => hround ▸ .handleMsg2 e)
      (fun v _ out _ hd hh he => ⟨rng, v, out, hd, hh, he⟩)
      (fun v _ _ hd hh => ⟨rng, v, hd, hh, rfl⟩)
  · rename_i hround
    obtain ⟨ms, hms, h⟩ := except_bind_eq_ok.mp h
    rw [fromRawParts_eq_ok.mp hms]
    split at h
    · obtain ⟨err, -, h⟩ := except_bind_eq_ok.mp h
      cases h
      exact ⟨[], .abort hround, by cases out <;> rfl⟩
    · rename_i v hd
      split at h
      · rename_i st pre hh
        cases h
        exact ⟨[], .advance (hround ▸ .handleMsg3 pre) ⟨v, hd, hh, rfl⟩, by cases out <;> rfl⟩
      · rename_i st e hh
        obtain ⟨err, -, h⟩ := except_bind_eq_ok.mp h
        cases h
        exact ⟨[], .fail (hround ▸ .handleMsg3 e) ⟨v, hd, hh, rfl⟩, by cases out <;> rfl⟩
  · exact implements_of_reject h .stay rfl
  · exact implements_of_reject h .stay rfl

theorem dklsSignLastMessage_implements {messageHash : CSlice UInt8} {errOut : Bool}
    (h : dklsSignLastMessage (some s) messageHash errOut = .ok r) : Implements s [] true r := by
  simp only [dklsSignLastMessage] at h
  split at h
  · exact implements_of_reject h .stay rfl
  · obtain ⟨hashSlice, -, h⟩ := except_bind_eq_ok.mp h
    obtain ⟨hash, -, h⟩ := except_bind_eq_ok.mp h
    split at h
    · rename_i pre hround
      obtain ⟨msg, hmsg, h⟩ := except_bind_eq_ok.mp h
      cases h
      exact ⟨[msg], .advance (hround ▸ .createPartialSignature pre hash _)
        ⟨rfl, rfl, msg, hmsg, rfl⟩, rfl⟩
    · rw [← SignSessionHandle.with_round_self (s := s) rfl] at h ⊢
      exact implements_of_reject h .stay rfl

theorem dklsSignCombine_implements {msgs : Option (List Message)} {rOut sOut errOut : Bool}
    (h : dklsSignCombine (some s) msgs rOut sOut errOut = .ok r) :
    Implements s (msgs.getD []) true r := by
  simp only [dklsSignCombine] at h
  split at h
  · exact implements_of_reject h .stay rfl
  · split at h
    · rename_i partialSignature hround
      obtain ⟨ms, hms, h⟩ := except_bind_eq_ok.mp h
      rw [fromRawParts_eq_ok.mp hms]
      split at h
      · exact implements_of_reject h .release rfl
      · rename_i v hd
        split at h
        · rename_i sig hsig
          split at h
          · cases h
            exact ⟨[], .combine hround ⟨v, sig, hd, hsig, rfl⟩, rfl⟩
          · obtain ⟨err, -, h⟩ := except_bind_eq_ok.mp h
            cases h
            exact ⟨[], .combine hround ⟨v, sig, hd, hsig, rfl⟩, rfl⟩
        · rename_i e he
          obtain ⟨err, -, h⟩ := except_bind_eq_ok.mp h
          cases h
          exact ⟨[], .combine hround ⟨v, hd, he, rfl⟩, rfl⟩
    · exact implements_of_reject h .release rfl

/-- Every call on a live sign session implements the protocol: it runs at most
one engine operation, on the session's engine state and the decoding of the
batch the call passed, keeps the state and round that operation's result
determines or releases the handle after combining, and hands the host exactly
the messages it produced, or none when `out` is null. -/
theorem SignCall.apply_implements (c : SignCall) (h : c.apply (some s) = .ok r) :
    Implements s c.inbound c.delivers r := by
  cases c with
  | createFirstMessage errOut => exact dklsSignCreateFirstMessage_implements h
  | handleMessages msgs seed entropy errOut out => exact dklsSignHandleMessages_implements h
  | lastMessage messageHash errOut => exact dklsSignLastMessage_implements h
  | combine msgs rOut sOut errOut => exact dklsSignCombine_implements h
  | free =>
      cases h
      exact ⟨[], .release, rfl⟩

end Calls

end Sign

end DklsFfi
