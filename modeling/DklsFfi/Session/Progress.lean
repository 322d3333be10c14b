import DklsFfi.Session.Status

/-!
The value a call returns tells the host whether the protocol moved on. A host
drives a session by reading the status or pointer of each call: on success it
goes on to the next round, on failure it does not. For every call on a live
session, the success value is returned exactly in the following cases. A
round-advancing call succeeds when it ran one engine operation that returned
`Ok` and left the session in the round that leads to. The commitment query
succeeds when it could copy a 32-byte commitment, and the keyshare extraction
when the session was in `Share`. `dkls_sign_combine` succeeds when it
combined a decoded batch into two 32-byte scalars. Every failure leaves the
round where it was, or moves the session to `Failed`, or releases it.
-/

namespace DklsFfi

namespace Keygen

variable {D : Dkg}

/-- The call ran one engine operation that returned `Ok` and left the session
in the round it leads to. -/
def Advanced (s : KeygenSessionHandle D) (r : KeygenReply D) : Prop :=
  ∃ e next, r.events = [e] ∧ Advances s.round e next ∧ ∀ s' ∈ r.session, s'.round = next

/-- When a keygen call on a live session `s` returns its success value: the
round-advancing calls when they advanced the session, the commitment query
when `out` is not null and the engine's commitment has 32 bytes, the keyshare
extraction when the session is in `Share`, and `dkls_keygen_free`, which
returns nothing, always. -/
def KeygenCall.SucceedsOn (s : KeygenSessionHandle D) (r : KeygenReply D) : KeygenCall → Prop
  | .createFirstMessage _ | .handleMessages _ _ _ _ _ _ => Advanced s r
  | .calculateCommitment2 out => out = true ∧ (D.calculateCommitment2 s.state).length = 32
  | .keyshare _ => ∃ keyshare, s.round = .share keyshare
  | .free => True

theorem Fails.not_advances {round next : Round D.Keyshare} {e : KeygenEvent D}
    (h : Fails round e) : ¬ Advances round e next := by
  intro h'
  cases h <;> cases h'

section Calls

variable {s : KeygenSessionHandle D} {r : KeygenReply D}

theorem not_advanced (h : r.events = [] ∨ ∃ e, r.events = [e] ∧ Fails s.round e) :
    ¬ Advanced s r := by
  rintro ⟨e, next, hev, hadv, -⟩
  rcases h with h | ⟨e', h, hf⟩ <;> rw [h] at hev <;> cases hev
  exact hf.not_advances hadv

theorem progress_of_reject {session : Option (KeygenSessionHandle D)} {ret : Ret D.Keyshare}
    {errOut : Bool} {msg : String} (h : reject session ret errOut msg = .ok r)
    (hret : ret.failed = true) : r.ret.failed = false ↔ Advanced s r :=
  iff_of_false (by rw [(reject_session h).2.1, hret]; nofun)
    (not_advanced (.inl (reject_session h).2.2))

/-- A round run by the generic helper succeeds exactly when its engine step
returned `Ok`. -/
theorem progress_of_handleMessages {T U : WireType} {msgs : Option (List Message)}
    {h : D.State → List T.T → D.State × Except D.KeygenError (List U.T)}
    {routing : MessageRouting U.T} {next : Round D.Keyshare}
    {event : Option D.KeygenError → KeygenEvent D} {errOut out : Bool}
    (hr : (do let x ← handleMessages s msgs h routing next event
              pure (finishRound x errOut out)) = .ok r)
    (hadv : Advances s.round (event none) next) (hfail : ∀ e, Fails s.round (event (some e))) :
    r.ret.failed = false ↔ Advanced s r := by
  obtain ⟨⟨s', res, events⟩, hx, hr⟩ := except_bind_eq_ok.mp hr
  cases hr
  rcases handleMessagesWith_cases hx with ⟨_, -,
    ⟨_, _, -, -, rfl, rfl, rfl⟩ | ⟨_, st, _, _, -, -, -, rfl, rfl, rfl⟩ |
      ⟨_, st, e, _, -, -, -, rfl, rfl, rfl⟩⟩
  · exact iff_of_false nofun (not_advanced (.inl rfl))
  · exact iff_of_true rfl ⟨event none, next, rfl, hadv, fun _ h => by cases h; rfl⟩
  · exact iff_of_false nofun (not_advanced (.inr ⟨_, rfl, hfail e⟩))

theorem dklsKeygenCreateFirstMessage_progress {errOut : Bool}
    (h : dklsKeygenCreateFirstMessage (some s) errOut = .ok r) :
    r.ret.failed = false ↔ Advanced s r := by
  simp only [dklsKeygenCreateFirstMessage] at h
  split at h
  · rename_i hround
    obtain ⟨msg, -, h⟩ := except_bind_eq_ok.mp h
    cases h
    exact iff_of_true rfl
      ⟨.generateMsg1, .waitMsg1, rfl, hround ▸ .generateMsg1, fun _ h => by cases h; rfl⟩
  · exact progress_of_reject h rfl

theorem dklsKeygenCalculateCommitment2_progress {out : Bool}
    (h : dklsKeygenCalculateCommitment2 (some s) out = .ok r) :
    r.ret.failed = false ↔ out = true ∧ (D.calculateCommitment2 s.state).length = 32 := by
  simp only [dklsKeygenCalculateCommitment2] at h
  split at h
  · rename_i hout
    split at h
    · rename_i c hc
      cases h
      exact iff_of_true rfl ⟨hout, Bytes.toList_of_tryFrom hc ▸ c.length_eq⟩
    · rename_i hc
      cases h
      exact iff_of_false nofun fun ⟨_, hlen⟩ => by
        cases (Bytes.tryFrom_of_length hlen).symm.trans hc
  · rename_i hout
    cases h
    exact iff_of_false nofun fun ⟨h, _⟩ => hout h

theorem dklsKeygenHandleMessages_progress {msgs : Option (List Message)}
    {commitments seed : Option (List UInt8)} {entropy : Bytes 32} {errOut out : Bool}
    (h : dklsKeygenHandleMessages (some s) msgs commitments seed entropy errOut out = .ok r) :
    r.ret.failed = false ↔ Advanced s r := by
  simp only [dklsKeygenHandleMessages] at h
  obtain ⟨rng, -, h⟩ := except_bind_eq_ok.mp h
  split at h
  · rename_i hround
    exact progress_of_handleMessages h (hround ▸ .handleMsg1) fun e => hround ▸ .handleMsg1 e
  · rename_i hround
    exact progress_of_handleMessages h (hround ▸ .handleMsg2) fun e => hround ▸ .handleMsg2 e
  · rename_i hround
    split at h
    · exact progress_of_reject h rfl
    · split at h
      · exact progress_of_reject h rfl
      · split at h
        · exact progress_of_reject h rfl
        · obtain ⟨cs, -, h⟩ := except_bind_eq_ok.mp h
          exact progress_of_handleMessages h (hround ▸ .handleMsg3 cs)
            fun e => hround ▸ .handleMsg3 cs e
  · rename_i hround
    obtain ⟨ms, -, h⟩ := except_bind_eq_ok.mp h
    split at h
    · obtain ⟨err, -, h⟩ := except_bind_eq_ok.mp h
      cases h
      exact iff_of_false nofun (not_advanced (.inl rfl))
    · split at h
      · rename_i st ks hh
        cases h
        exact iff_of_true rfl ⟨.handleMsg4 (.ok ks), .share ks, rfl, hround ▸ .handleMsg4 ks,
          fun _ h => by cases h; rfl⟩
      · rename_i st e hh
        obtain ⟨err, -, h⟩ := except_bind_eq_ok.mp h
        cases h
        exact iff_of_false nofun
          (not_advanced (.inr ⟨.handleMsg4 (.error e), rfl, hround ▸ .handleMsg4 e⟩))
  · exact progress_of_reject h rfl
  · exact progress_of_reject h rfl

theorem dklsKeygenKeyshare_progress {errOut : Bool}
    (h : dklsKeygenKeyshare (some s) errOut = .ok r) :
    r.ret.failed = false ↔ ∃ keyshare, s.round = .share keyshare := by
  simp only [dklsKeygenKeyshare] at h
  split at h
  · rename_i ks hround
    cases h
    exact iff_of_true rfl ⟨ks, hround⟩
  · rename_i hround
    exact iff_of_false (by rw [(reject_session h).2.1]; nofun) fun ⟨_, h'⟩ =>
      by cases hround.symm.trans h'
  · rename_i hshare _
    exact iff_of_false (by rw [(reject_session h).2.1]; nofun) fun ⟨ks, h'⟩ => hshare ks h'

/-- Every keygen call on a live session returns its success value exactly when
`KeygenCall.SucceedsOn` holds: the round-advancing calls exactly when they
advanced the session. -/
theorem KeygenCall.apply_progress (c : KeygenCall) (h : c.apply (some s) = .ok r) :
    r.ret.failed = false ↔ c.SucceedsOn s r := by
  cases c with
  | createFirstMessage errOut => exact dklsKeygenCreateFirstMessage_progress h
  | calculateCommitment2 out => exact dklsKeygenCalculateCommitment2_progress h
  | handleMessages msgs commitments seed entropy errOut out =>
      exact dklsKeygenHandleMessages_progress h
  | keyshare errOut => exact dklsKeygenKeyshare_progress h
  | free =>
      cases h
      exact iff_of_true rfl trivial

end Calls

end Keygen

namespace Sign

variable {K : Type} {S : Dsg K}

/-- The call ran one engine operation that returned `Ok` and left the session
in the round it leads to. -/
def Advanced (s : SignSessionHandle S) (r : SignReply S) : Prop :=
  ∃ e next, r.events = [e] ∧ Advances s.round e next ∧ ∀ s' ∈ r.session, s'.round = next

/-- When a sign call on a live session `s` returns its success value: the
round-advancing calls when they advanced the session, `dkls_sign_combine`
when both outputs are non-null and `combine_signatures` on the partial
signature of `WaitMsg4` and the decoded batch returned a signature that splits
into two 32-byte scalars, and `dkls_sign_free`, which returns nothing,
always. -/
def SignCall.SucceedsOn (s : SignSessionHandle S) (r : SignReply S) : SignCall → Prop
  | .createFirstMessage _ | .handleMessages _ _ _ _ _ | .lastMessage _ _ => Advanced s r
  | .combine msgs rOut sOut _ => rOut = true ∧ sOut = true ∧
      ∃ partialSignature v sig, s.round = .waitMsg4 partialSignature ∧
        Message.decodeVector S.msg4 (msgs.getD []) = .ok v ∧
        S.combineSignatures partialSignature v = .ok sig ∧
        (S.splitBytes sig).1.length = 32 ∧ (S.splitBytes sig).2.length = 32
  | .free => True

theorem Fails.not_advances {round next : Round S.PreSignature S.PartialSignature}
    {e : SignEvent S} (h : Fails round e) : ¬ Advances round e next := by
  intro h'
  cases h <;> cases h'

section Calls

variable {s : SignSessionHandle S} {r : SignReply S}

theorem not_advanced (h : r.events = [] ∨ ∃ e, r.events = [e] ∧ Fails s.round e) :
    ¬ Advanced s r := by
  rintro ⟨e, next, hev, hadv, -⟩
  rcases h with h | ⟨e', h, hf⟩ <;> rw [h] at hev <;> cases hev
  exact hf.not_advances hadv

theorem progress_of_reject {session : Option (SignSessionHandle S)} {ret : Ret K}
    {errOut : Bool} {msg : String} (h : reject session ret errOut msg = .ok r)
    (hret : ret.failed = true) : r.ret.failed = false ↔ Advanced s r :=
  iff_of_false (by rw [(reject_session h).2.1, hret]; nofun)
    (not_advanced (.inl (reject_session h).2.2))

/-- A round run by the generic helper succeeds exactly when its engine step
returned `Ok`. -/
theorem progress_of_handleMessages {T U : WireType} {msgs : Option (List Message)}
    {h : S.State → List T.T → S.State × Except S.SignError (List U.T)}
    {routing : MessageRouting U.T} {next : Round S.PreSignature S.PartialSignature}
    {event : Option S.SignError → SignEvent S} {errOut out : Bool}
    (hr : (do let x ← handleMessages s msgs h routing next event
              pure (finishRound x errOut out)) = .ok r)
    (hadv : Advances s.round (event none) next) (hfail : ∀ e, Fails s.round (event (some e))) :
    r.ret.failed = false ↔ Advanced s r := by
  obtain ⟨⟨s', res, events⟩, hx, hr⟩ := except_bind_eq_ok.mp hr
  cases hr
  rcases handleMessagesWith_cases hx with ⟨_, -,
    ⟨_, _, -, -, rfl, rfl, rfl⟩ | ⟨_, st, _, _, -, -, -, rfl, rfl, rfl⟩ |
      ⟨_, st, e, _, -, -, -, rfl, rfl, rfl⟩⟩
  · exact iff_of_false nofun (not_advanced (.inl rfl))
  · exact iff_of_true rfl ⟨event none, next, rfl, hadv, fun _ h => by cases h; rfl⟩
  · exact iff_of_false nofun (not_advanced (.inr ⟨_, rfl, hfail e⟩))

theorem dklsSignCreateFirstMessage_progress {errOut : Bool}
    (h : dklsSignCreateFirstMessage (some s) errOut = .ok r) :
    r.ret.failed = false ↔ Advanced s r := by
  simp only [dklsSignCreateFirstMessage] at h
  split at h
  · rename_i hround
    obtain ⟨msg, -, h⟩ := except_bind_eq_ok.mp h
    cases h
    exact iff_of_true rfl
      ⟨.generateMsg1, .waitMsg1, rfl, hround ▸ .generateMsg1, fun _ h => by cases h; rfl⟩
  · exact progress_of_reject h rfl

theorem dklsSignHandleMessages_progress {msgs : Option (List Message)}
    {seed : Option (List UInt8)} {entropy : Bytes 32} {errOut out : Bool}
    (h : dklsSignHandleMessages (some s) msgs seed entropy errOut out = .ok r) :
    r.ret.failed = false ↔ Advanced s r := by
  simp only [dklsSignHandleMessages] at h
  obtain ⟨rng, -, h⟩ := except_bind_eq_ok.mp h
  split at h
  · rename_i hround
    exact progress_of_handleMessages h (hround ▸ .handleMsg1) fun e => hround ▸ .handleMsg1 e
  · rename_i hround
    exact progress_of_handleMessages h (hround ▸ .handleMsg2) fun e => hround ▸ .handleMsg2 e
  · rename_i hround
    obtain ⟨ms, -, h⟩ := except_bind_eq_ok.mp h
    split at h
    · obtain ⟨err, -, h⟩ := except_bind_eq_ok.mp h
      cases h
      exact iff_of_false nofun (not_advanced (.inl rfl))
    · split at h
      · rename_i st pre hh
        cases h
        exact iff_of_true rfl ⟨.handleMsg3 (.ok pre), .pre pre, rfl, hround ▸ .handleMsg3 pre,
          fun _ h => by cases h; rfl⟩
      · rename_i st e hh
        obtain ⟨err, -, h⟩ := except_bind_eq_ok.mp h
        cases h
        exact iff_of_false nofun
          (not_advanced (.inr ⟨.handleMsg3 (.error e), rfl, hround ▸ .handleMsg3 e⟩))
  · exact progress_of_reject h rfl
  · exact progress_of_reject h rfl

theorem dklsSignLastMessage_progress {messageHash : CSlice UInt8} {errOut : Bool}
    (h : dklsSignLastMessage (some s) messageHash errOut = .ok r) :
    r.ret.failed = false ↔ Advanced s r := by
  simp only [dklsSignLastMessage] at h
  split at h
  · exact progress_of_reject h rfl
  · obtain ⟨hashSlice, -, h⟩ := except_bind_eq_ok.mp h
    obtain ⟨hash, -, h⟩ := except_bind_eq_ok.mp h
    split at h
    · rename_i pre hround
      obtain ⟨msg, -, h⟩ := except_bind_eq_ok.mp h
      cases h
      refine iff_of_true rfl ⟨_, _, rfl, ?_, fun _ h => by cases h; rfl⟩
      rw [hround]
      exact .createPartialSignature pre hash _
    · exact progress_of_reject h rfl

theorem dklsSignCombine_progress {msgs : Option (List Message)} {rOut sOut errOut : Bool}
    (h : dklsSignCombine (some s) msgs rOut sOut errOut = .ok r) :
    r.ret.failed = false ↔ (SignCall.combine msgs rOut sOut errOut).SucceedsOn s r := by
  have hfailed {session : Option (SignSessionHandle S)} {msg : String}
      (hr : reject session (.signature (-1) none) errOut msg = .ok r) :
      ¬ r.ret.failed = false := by
    rw [(reject_session hr).2.1]
    nofun
  simp only [dklsSignCombine] at h
  split at h
  · rename_i hnull
    refine iff_of_false (hfailed h) fun ⟨hr, hs, _⟩ => ?_
    rw [hr, hs] at hnull
    cases hnull
  · rename_i hnull
    obtain ⟨hr, hs⟩ : rOut = true ∧ sOut = true := by simpa using hnull
    split at h
    · rename_i partialSignature hround
      obtain ⟨ms, hms, h⟩ := except_bind_eq_ok.mp h
      rw [fromRawParts_eq_ok.mp hms]
      split at h
      · rename_i e hd
        exact iff_of_false (hfailed h) fun ⟨_, _, _, _, _, _, hd', _⟩ =>
          by cases hd.symm.trans hd'
      · rename_i v hd
        split at h
        · rename_i sig hsig
          split at h
          · rename_i rb sb hrb hsb
            cases h
            exact iff_of_true rfl ⟨hr, hs, partialSignature, v, sig, hround, hd, hsig,
              Bytes.toList_of_tryFrom hrb ▸ rb.length_eq,
              Bytes.toList_of_tryFrom hsb ▸ sb.length_eq⟩
          · rename_i hsize
            obtain ⟨err, -, h⟩ := except_bind_eq_ok.mp h
            cases h
            refine iff_of_false nofun fun ⟨_, _, p, v', sig', hround', hd', hsig', hr, hs⟩ => ?_
            cases hround.symm.trans hround'
            cases hd.symm.trans hd'
            cases hsig.symm.trans hsig'
            exact hsize _ _ (Bytes.tryFrom_of_length hr) (Bytes.tryFrom_of_length hs)
        · rename_i e he
          obtain ⟨err, -, h⟩ := except_bind_eq_ok.mp h
          cases h
          refine iff_of_false nofun fun ⟨_, _, p, v', sig', hround', hd', hsig', _⟩ => ?_
          cases hround.symm.trans hround'
          cases hd.symm.trans hd'
          cases he.symm.trans hsig'
    · rename_i hround
      exact iff_of_false (hfailed h) fun ⟨_, _, p, _, _, hround', _⟩ => hround p hround'

/-- Every sign call on a live session returns its success value exactly when
`SignCall.SucceedsOn` holds: the round-advancing calls exactly when they
advanced the session. -/
theorem SignCall.apply_progress (c : SignCall) (h : c.apply (some s) = .ok r) :
    r.ret.failed = false ↔ c.SucceedsOn s r := by
  cases c with
  | createFirstMessage errOut => exact dklsSignCreateFirstMessage_progress h
  | handleMessages msgs seed entropy errOut out => exact dklsSignHandleMessages_progress h
  | lastMessage messageHash errOut => exact dklsSignLastMessage_progress h
  | combine msgs rOut sOut errOut => exact dklsSignCombine_progress h
  | free =>
      cases h
      exact iff_of_true rfl trivial

end Calls

end Sign

/-- The value a call returns tells the host whether the protocol moved on. For
every call on a live keygen or sign session, with any arguments, the call
returns its success value (a non-null pointer, or status 0) exactly when:
- for `dkls_keygen_create_first_message`, `dkls_keygen_handle_messages`,
  `dkls_sign_create_first_message`, `dkls_sign_handle_messages` and
  `dkls_sign_last_message`, it ran one engine operation that returned `Ok`
  and left the session in the round that leads to;
- for `dkls_keygen_calculate_commitment_2`, `out` is not null and the
  engine's commitment has 32 bytes;
- for `dkls_keygen_keyshare`, the session was in `Share`;
- for `dkls_sign_combine`, both outputs are non-null and `combine_signatures`,
  on the partial signature of `WaitMsg4` and the batch, which decodes,
  returned a signature of two 32-byte scalars.
A failure of a round-advancing call never moves the session forward. -/
theorem success_status_reports_progress {D : Dkg} {K : Type} {S : Dsg K} :
    (∀ (c : Keygen.KeygenCall) (s : Keygen.KeygenSessionHandle D) (r : Keygen.KeygenReply D),
      c.apply (some s) = .ok r → (r.ret.failed = false ↔ c.SucceedsOn s r)) ∧
    (∀ (c : Sign.SignCall) (s : Sign.SignSessionHandle S) (r : Sign.SignReply S),
      c.apply (some s) = .ok r → (r.ret.failed = false ↔ c.SucceedsOn s r)) :=
  ⟨fun c _ _ h => c.apply_progress h, fun c _ _ h => c.apply_progress h⟩

/-- The first message of a keygen session in `Init` returns a message and
advances the session to `WaitMsg1`. -/
theorem success_status_reports_progress_first_message :
    ∃ r, (Keygen.KeygenCall.createFirstMessage true).apply
        (some (Keygen.KeygenSessionHandle.new (D := unitDkg) () 2)) = .ok r ∧
      (r.ret.failed = false ↔ (Keygen.KeygenCall.createFirstMessage true).SucceedsOn
        (Keygen.KeygenSessionHandle.new (D := unitDkg) () 2) r) :=
  ⟨_, rfl, (success_status_reports_progress (D := unitDkg) (S := unitDsg)).1 _ _ _ rfl⟩

end DklsFfi
