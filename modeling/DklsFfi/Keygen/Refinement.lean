import DklsFfi.Keygen.Steps

/-!
The keygen protocol as the `dkls23_ll::dkg` engine runs it, and the wrapper as
an implementation of it. A protocol state is an engine state and a round. A
protocol step runs the round's engine operation on that state and moves to the
next round when it returns `Ok`, to `Failed` when it returns `Err`; it sends
the envelopes of what the operation returned.

Every call on a live session is, seen from the protocol, a stutter, one step
on the batch the call decoded, the end of the last round on a batch that does
not decode, or the release of the handle. So the wrapper keeps the state each
operation returns, runs the next operation on that state, and hands the host
exactly the messages the operation produced, or none when `out` is null.
-/

namespace DklsFfi

namespace Keygen

variable {D : Dkg}

/-- The protocol state of a keygen session: its engine state and round. The
party count belongs to the wrapper and is not part of it. -/
structure ProtocolState (D : Dkg) where
  state : D.State
  round : Round D.Keyshare

/-- The protocol state a session holds. -/
def KeygenSessionHandle.protocol (s : KeygenSessionHandle D) : ProtocolState D :=
  ⟨s.state, s.round⟩

/-- The engine operation an event records, run on the engine state `st` with
some generator and the decoding of the inbound batch `inbound`, leaves `st'`
and sends `msgs`: the envelopes of what it returned, none on `Err`. -/
def EngineStep (inbound : List Message) (st : D.State) :
    KeygenEvent D → D.State → List Message → Prop
  | .generateMsg1, st', msgs => (D.generateMsg1 st).1 = st' ∧
      ∃ msg, Message.new D.msg1 (KeygenMsg1.routing D) (D.generateMsg1 st).2 = .ok msg ∧
        msgs = [msg]
  | .handleMsg1 none, st', msgs => ∃ rng v out, Message.decodeVector D.msg1 inbound = .ok v ∧
      D.handleMsg1 st rng v = (st', .ok out) ∧
      Message.encodeVector D.msg2 (KeygenMsg2.routing D) out = .ok msgs
  | .handleMsg1 (some e), st', msgs => ∃ rng v, Message.decodeVector D.msg1 inbound = .ok v ∧
      D.handleMsg1 st rng v = (st', .error e) ∧ msgs = []
  | .handleMsg2 none, st', msgs => ∃ rng v out, Message.decodeVector D.msg2 inbound = .ok v ∧
      D.handleMsg2 st rng v = (st', .ok out) ∧
      Message.encodeVector D.msg3 (KeygenMsg3.routing D) out = .ok msgs
  | .handleMsg2 (some e), st', msgs => ∃ rng v, Message.decodeVector D.msg2 inbound = .ok v ∧
      D.handleMsg2 st rng v = (st', .error e) ∧ msgs = []
  | .handleMsg3 cs none, st', msgs => ∃ rng v m, Message.decodeVector D.msg3 inbound = .ok v ∧
      D.handleMsg3 st rng v cs = (st', .ok m) ∧
      Message.encodeVector D.msg4 (KeygenMsg4.routing D) [m] = .ok msgs
  | .handleMsg3 cs (some e), st', msgs => ∃ rng v,
      Message.decodeVector D.msg3 inbound = .ok v ∧ D.handleMsg3 st rng v cs = (st', .error e) ∧
        msgs = []
  | .handleMsg4 result, st', msgs => ∃ v, Message.decodeVector D.msg4 inbound = .ok v ∧
      D.handleMsg4 st v = (st', result) ∧ msgs = []

/-- One protocol step on the batch `inbound`: the round's engine operation on
the engine state, to the next round on `Ok` and to `Failed` on `Err`. -/
inductive ProtocolStep (inbound : List Message) (p : ProtocolState D) :
    KeygenEvent D → ProtocolState D → List Message → Prop
  | advance {e : KeygenEvent D} {next : Round D.Keyshare} {st : D.State} {msgs : List Message} :
      Advances p.round e next → EngineStep inbound p.state e st msgs →
        ProtocolStep inbound p e ⟨st, next⟩ msgs
  | fail {e : KeygenEvent D} {st : D.State} :
      Fails p.round e → EngineStep inbound p.state e st [] →
        ProtocolStep inbound p e ⟨st, .failed⟩ []

/-- The protocol states reached from `p`, with the engine steps run: protocol
steps, each on the state the previous one left, and the end of the last round
on a batch that does not decode, which runs no engine step. -/
inductive Runs (p : ProtocolState D) : List (KeygenEvent D) → ProtocolState D → Prop
  | refl : Runs p [] p
  | step {tr : List (KeygenEvent D)} {q q' : ProtocolState D} {inbound : List Message}
      {e : KeygenEvent D} {msgs : List Message} :
      Runs p tr q → ProtocolStep inbound q e q' msgs → Runs p (tr ++ [e]) q'
  | abort {tr : List (KeygenEvent D)} {q : ProtocolState D} :
      Runs p tr q → q.round = .waitMsg4 → Runs p tr ⟨q.state, .failed⟩

/-- What one call does to a live session `s`, seen from the protocol, with the
messages the protocol step sends: nothing, one step on the call's inbound
batch, the end of the last round on a batch that does not decode, or the
release of the handle. The party count never changes. -/
inductive Drives (s : KeygenSessionHandle D) (inbound : List Message) :
    Option (KeygenSessionHandle D) → List (KeygenEvent D) → List Message → Prop
  | stay : Drives s inbound (some s) [] []
  | step {e : KeygenEvent D} {p : ProtocolState D} {msgs : List Message} :
      ProtocolStep inbound s.protocol e p msgs →
        Drives s inbound (some { s with state := p.state, round := p.round }) [e] msgs
  | abort : s.round = .waitMsg4 → Drives s inbound (some { s with round := .failed }) [] []
  | release : Drives s inbound none [] []

theorem Drives.advance {s : KeygenSessionHandle D} {inbound : List Message} {e : KeygenEvent D}
    {next : Round D.Keyshare} {st : D.State} {msgs : List Message}
    (hadv : Advances s.round e next) (hstep : EngineStep inbound s.state e st msgs) :
    Drives s inbound (some { s with state := st, round := next }) [e] msgs :=
  .step (.advance hadv hstep)

theorem Drives.fail {s : KeygenSessionHandle D} {inbound : List Message} {e : KeygenEvent D}
    {st : D.State} (hfail : Fails s.round e) (hstep : EngineStep inbound s.state e st []) :
    Drives s inbound (some { s with state := st, round := .failed }) [e] [] :=
  .step (.fail hfail hstep)

/-- A call that leaves a session extends the protocol run of the session it
was given by the engine steps it ran, and keeps the party count. -/
theorem Drives.runs {s s' : KeygenSessionHandle D} {inbound : List Message}
    {events : List (KeygenEvent D)} {msgs : List Message} {p : ProtocolState D}
    {tr : List (KeygenEvent D)} (hd : Drives s inbound (some s') events msgs)
    (hrun : Runs p tr s.protocol) : Runs p (tr ++ events) s'.protocol ∧ s'.n = s.n := by
  cases hd with
  | stay => exact ⟨by simpa using hrun, rfl⟩
  | step hstep => exact ⟨.step hrun hstep, rfl⟩
  | abort hround => exact ⟨by simpa using Runs.abort hrun hround, rfl⟩

/-- The inbound batch a call passes to the engine: the `msgs` of
`dkls_keygen_handle_messages`, nothing for the other calls (nor for a null
batch pointer, on which no call returns once it reads it). -/
def KeygenCall.inbound : KeygenCall → List Message
  | .handleMessages msgs _ _ _ _ _ => msgs.getD []
  | _ => []

/-- Whether a call hands the host what it produces: all calls do but
`dkls_keygen_handle_messages` with a null `out`. -/
def KeygenCall.delivers : KeygenCall → Bool
  | .handleMessages _ _ _ _ _ out => out
  | _ => true

/-- A reply implements one call on `s` with inbound batch `inbound`: its effect
is within `Drives`, and the messages it hands back are those the protocol step
sent, or none when it does not deliver them. -/
def Implements (s : KeygenSessionHandle D) (inbound : List Message) (delivers : Bool)
    (r : KeygenReply D) : Prop :=
  ∃ msgs, Drives s inbound r.session r.events msgs ∧
    r.ret.messages = if delivers then msgs else []

section Calls

variable {s : KeygenSessionHandle D} {inbound : List Message} {delivers : Bool}
  {r : KeygenReply D}

theorem implements_of_reject {session : Option (KeygenSessionHandle D)} {ret : Ret D.Keyshare}
    {errOut : Bool} {msg : String} (h : reject session ret errOut msg = .ok r)
    (hd : Drives s inbound session [] []) (hret : ret.messages = []) :
    Implements s inbound delivers r := by
  obtain ⟨h1, h2, h3⟩ := reject_session h
  exact ⟨[], h1 ▸ h3 ▸ hd, by rw [h2, hret]; cases delivers <;> rfl⟩

/-- A round that runs the generic helper is one protocol step on the batch it
was given, or a stutter when the batch does not decode. -/
theorem implements_of_handleMessages {T U : WireType} {msgs : Option (List Message)}
    {h : D.State → List T.T → D.State × Except D.KeygenError (List U.T)}
    {routing : MessageRouting U.T} {next : Round D.Keyshare}
    {event : Option D.KeygenError → KeygenEvent D} {errOut out : Bool}
    (hr : (do let x ← handleMessages s msgs h routing next event
              pure (finishRound x errOut out)) = .ok r)
    (hadv : Advances s.round (event none) next) (hfail : ∀ e, Fails s.round (event (some e)))
    (hok : ∀ v st outVec outMsgs, Message.decodeVector T (msgs.getD []) = .ok v →
      h s.state v = (st, .ok outVec) → Message.encodeVector U routing outVec = .ok outMsgs →
        EngineStep (msgs.getD []) s.state (event none) st outMsgs)
    (herr : ∀ v st e, Message.decodeVector T (msgs.getD []) = .ok v →
      h s.state v = (st, .error e) → EngineStep (msgs.getD []) s.state (event (some e)) st []) :
    Implements s (msgs.getD []) out r := by
  obtain ⟨⟨s', res, events⟩, hx, hr⟩ := except_bind_eq_ok.mp hr
  cases hr
  rcases handleMessagesWith_cases hx with ⟨_, rfl,
    ⟨_, _, -, -, rfl, rfl, rfl⟩ | ⟨v, st, outVec, outMsgs, hd, hh, he, rfl, rfl, rfl⟩ |
      ⟨v, st, e, _, hd, hh, -, rfl, rfl, rfl⟩⟩
  · exact ⟨[], .stay, by cases out <;> rfl⟩
  · exact ⟨outMsgs, .advance hadv (hok v st outVec outMsgs hd hh he), by cases out <;> rfl⟩
  · exact ⟨[], .fail (hfail e) (herr v st e hd hh), by cases out <;> rfl⟩

/-- `.map(|m| vec![m])` on the result of `handle_msg3`. -/
theorem map_singleton_eq {σ ε α : Type} {x : σ × Except ε α} {st : σ}
    {res : Except ε (List α)}
    (h : (match x with | (st, result) => (st, result.map fun m => [m])) = (st, res)) :
    (∃ m, x = (st, .ok m) ∧ res = .ok [m]) ∨ ∃ e, x = (st, .error e) ∧ res = .error e := by
  obtain ⟨st', _ | m⟩ := x <;> simp only [Except.map, Prod.mk.injEq] at h <;>
    obtain ⟨rfl, rfl⟩ := h
  · exact .inr ⟨_, rfl, rfl⟩
  · exact .inl ⟨m, rfl, rfl⟩

theorem dklsKeygenCreateFirstMessage_implements {errOut : Bool}
    (h : dklsKeygenCreateFirstMessage (some s) errOut = .ok r) : Implements s [] true r := by
  simp only [dklsKeygenCreateFirstMessage] at h
  split at h
  · rename_i hround
    obtain ⟨msg, hmsg, h⟩ := except_bind_eq_ok.mp h
    cases h
    exact ⟨[msg], .advance (hround ▸ .generateMsg1) ⟨rfl, msg, hmsg, rfl⟩, rfl⟩
  · exact implements_of_reject h .stay rfl

theorem dklsKeygenCalculateCommitment2_implements {out : Bool}
    (h : dklsKeygenCalculateCommitment2 (some s) out = .ok r) : Implements s [] true r := by
  simp only [dklsKeygenCalculateCommitment2] at h
  split at h
  · split at h <;> cases h <;> exact ⟨[], .stay, rfl⟩
  · cases h
    exact ⟨[], .stay, rfl⟩

theorem dklsKeygenHandleMessages_implements {msgs : Option (List Message)}
    {commitments seed : Option (List UInt8)} {entropy : Bytes 32} {errOut out : Bool}
    (h : dklsKeygenHandleMessages (some s) msgs commitments seed entropy errOut out = .ok r) :
    Implements s (msgs.getD []) out r := by
  simp only [dklsKeygenHandleMessages] at h
  obtain ⟨rng, -, h⟩ := except_bind_eq_ok.mp h
  split at h
  · rename_i hround
    exact implements_of_handleMessages h (hround ▸ .handleMsg1) (fun e => hround ▸ .handleMsg1 e)
      (fun v _ out _ hd hh he => ⟨rng, v, out, hd, hh, he⟩)
      (fun v _ _ hd hh => ⟨rng, v, hd, hh, rfl⟩)
  · rename_i hround
    exact implements_of_handleMessages h (hround ▸ .handleMsg2) (fun e => hround ▸ .handleMsg2 e)
      (fun v _ out _ hd hh he => ⟨rng, v, out, hd, hh, he⟩)
      (fun v _ _ hd hh => ⟨rng, v, hd, hh, rfl⟩)
  · rename_i hround
    split at h
    · exact implements_of_reject h .stay rfl
    · split at h
      · exact implements_of_reject h .stay rfl
      · split at h
        · exact implements_of_reject h .stay rfl
        · obtain ⟨cs, -, h⟩ := except_bind_eq_ok.mp h
          refine implements_of_handleMessages h (hround ▸ .handleMsg3 cs)
            (fun e => hround ▸ .handleMsg3 cs e) (fun v st outVec outMsgs hd hh he => ?_)
            (fun v st e hd hh => ?_)
          · obtain ⟨m, hm, ⟨⟩⟩ | ⟨_, -, ⟨⟩⟩ := map_singleton_eq hh
            exact ⟨rng, v, m, hd, hm, he⟩
          · obtain ⟨_, -, ⟨⟩⟩ | ⟨e', hm, ⟨⟩⟩ := map_singleton_eq hh
            exact ⟨rng, v, hd, hm, rfl⟩
  · rename_i hround
    obtain ⟨ms, hms, h⟩ := except_bind_eq_ok.mp h
    rw [fromRawParts_eq_ok.mp hms]
    split at h
    · obtain ⟨err, -, h⟩ := except_bind_eq_ok.mp h
      cases h
      exact ⟨[], .abort hround, by cases out <;> rfl⟩
    · rename_i v hd
      split at h
      · rename_i st ks hh
        cases h
        exact ⟨[], .advance (hround ▸ .handleMsg4 ks) ⟨v, hd, hh, rfl⟩, by cases out <;> rfl⟩
      · rename_i st e hh
        obtain ⟨err, -, h⟩ := except_bind_eq_ok.mp h
        cases h
        exact ⟨[], .fail (hround ▸ .handleMsg4 e) ⟨v, hd, hh, rfl⟩, by cases out <;> rfl⟩
  · exact implements_of_reject h .stay rfl
  · exact implements_of_reject h .stay rfl

theorem dklsKeygenKeyshare_implements {errOut : Bool}
    (h : dklsKeygenKeyshare (some s) errOut = .ok r) : Implements s [] true r := by
  simp only [dklsKeygenKeyshare] at h
  split at h
  · cases h
    exact ⟨[], .release, rfl⟩
  · rename_i hround
    rw [KeygenSessionHandle.with_round_self hround] at h
    exact implements_of_reject h .stay rfl
  · exact implements_of_reject h .release rfl

/-- Every call on a live keygen session implements the protocol: it runs at
most one engine operation, on the session's engine state and the decoding of
the batch the call passed, keeps the state and round that operation's result
determines, and hands the host exactly the messages it produced, or none when
`out` is null. -/
theorem KeygenCall.apply_implements (c : KeygenCall) (h : c.apply (some s) = .ok r) :
    Implements s c.inbound c.delivers r := by
  cases c with
  | createFirstMessage errOut => exact dklsKeygenCreateFirstMessage_implements h
  | calculateCommitment2 out => exact dklsKeygenCalculateCommitment2_implements h
  | handleMessages msgs commitments seed entropy errOut out =>
      exact dklsKeygenHandleMessages_implements h
  | keyshare errOut => exact dklsKeygenKeyshare_implements h
  | free =>
      cases h
      exact ⟨[], .release, rfl⟩

end Calls

end Keygen

end DklsFfi
