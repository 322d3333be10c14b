import DklsFfi.Sign.Session

/-!
What one call can do to a live sign session, said once, as for keygen in
`Keygen.Steps`. Besides the four engine rounds there is the digest step,
which consumes the pre-signature, and the combining step, which releases the
handle.
-/

namespace DklsFfi.Sign

variable {K : Type} {S : Dsg K}

/-- The engine's round order: from each round, its step returning `Ok` and
the round it leads to. -/
inductive Advances : Round S.PreSignature S.PartialSignature → SignEvent S →
    Round S.PreSignature S.PartialSignature → Prop
  | generateMsg1 : Advances .init .generateMsg1 .waitMsg1
  | handleMsg1 : Advances .waitMsg1 (.handleMsg1 none) .waitMsg2
  | handleMsg2 : Advances .waitMsg2 (.handleMsg2 none) .waitMsg3
  | handleMsg3 (pre : S.PreSignature) : Advances .waitMsg3 (.handleMsg3 (.ok pre)) (.pre pre)
  | createPartialSignature (pre : S.PreSignature) (hash : Bytes 32)
      (partialSignature : S.PartialSignature) :
      Advances (.pre pre) (.createPartialSignature pre hash partialSignature)
        (.waitMsg4 partialSignature)

/-- The engine step of a round returning `Err`. -/
inductive Fails : Round S.PreSignature S.PartialSignature → SignEvent S → Prop
  | handleMsg1 (e : S.SignError) : Fails .waitMsg1 (.handleMsg1 (some e))
  | handleMsg2 (e : S.SignError) : Fails .waitMsg2 (.handleMsg2 (some e))
  | handleMsg3 (e : S.SignError) : Fails .waitMsg3 (.handleMsg3 (.error e))

/-- Every effect a call can have on a live session `s`. The only move to
`Failed` without an engine step is a round-3 batch that does not decode; the
only engine step of a releasing call is `combine_signatures` on the partial
signature of `WaitMsg4`. -/
inductive Moves (s : SignSessionHandle S) :
    Option (SignSessionHandle S) → List (SignEvent S) → Prop
  | stay : Moves s (some s) []
  | abort : s.round = .waitMsg3 → Moves s (some { s with round := .failed }) []
  | advance {e : SignEvent S} {next : Round S.PreSignature S.PartialSignature}
      (state : S.State) :
      Advances s.round e next → Moves s (some { state, round := next }) [e]
  | fail {e : SignEvent S} (state : S.State) :
      Fails s.round e → Moves s (some { state, round := .failed }) [e]
  | release : Moves s none []
  | combine {partialSignature : S.PartialSignature} (error : Option S.SignError) :
      s.round = .waitMsg4 partialSignature →
        Moves s none [.combineSignatures partialSignature error]

/-- Whether an engine step returned `SignError::AbortProtocolAndBanParty`. -/
def SignEvent.bansParty : SignEvent S → Bool
  | .handleMsg1 (some e) | .handleMsg2 (some e) | .handleMsg3 (.error e)
  | .combineSignatures _ (some e) => S.isAbortProtocolAndBanParty e
  | _ => false

/-- The code of the error a sign reply writes: 2 when an engine step of the
call returned `AbortProtocolAndBanParty`, 1 otherwise. -/
def BanCode (r : SignReply S) : Prop :=
  ∀ err ∈ r.err, err.code = if r.events.any SignEvent.bansParty then 2 else 1

theorem banCode_of_events_nil {r : SignReply S} (hevents : r.events = [])
    (hcode : ∀ err ∈ r.err, err.code = 1) : BanCode r := by
  intro err herr
  simp only [hevents, List.any_nil, Bool.false_eq_true, if_false]
  exact hcode err herr

/-- A reply that writes no error meets `BanCode`, whatever its events. -/
theorem banCode_of_err_none {r : SignReply S} (h : r.err = none) : BanCode r := by
  intro err herr
  rw [h] at herr
  cases herr

/-- A reply that ran one engine step and writes its error with the code
`sign_error_to_go` chose. -/
theorem banCode_of_step {r : SignReply S} {e : S.SignError} {ev : SignEvent S}
    (hevents : r.events = [ev]) (hev : ev.bansParty = S.isAbortProtocolAndBanParty e)
    (hcode : ∀ err ∈ r.err, err.code = if S.isAbortProtocolAndBanParty e then 2 else 1) :
    BanCode r := by
  intro err herr
  rw [hevents, List.any_cons, List.any_nil, Bool.or_false, hev]
  exact hcode err herr

/-- What a call on a live session can do, said once: its effect on the
session within `Moves`, and the code of every error it writes. -/
structure Outcome (s : SignSessionHandle S) (r : SignReply S) : Prop where
  moves : Moves s r.session r.events
  code : BanCode r

/-- A call that leaves a session at the handle. -/
def Keeps (s : SignSessionHandle S) (r : SignReply S) : Prop :=
  Outcome s r ∧ r.session ≠ none

theorem keeps_of_moves {s live : SignSessionHandle S} {r : SignReply S}
    (hlive : r.session = some live) (hm : Moves s (some live) r.events) (hcode : BanCode r) :
    Keeps s r :=
  ⟨⟨hlive ▸ hm, hcode⟩, by rw [hlive]; nofun⟩

theorem keeps_of_handleMessages {T U : WireType} {s : SignSessionHandle S}
    {msgs : Option (List Message)}
    {h : S.State → List T.T → S.State × Except S.SignError (List U.T)}
    {routing : MessageRouting U.T} {next : Round S.PreSignature S.PartialSignature}
    {event : Option S.SignError → SignEvent S} {errOut out : Bool} {r : SignReply S}
    (hadv : Advances s.round (event none) next)
    (hfail : ∀ e, Fails s.round (event (some e)))
    (hr : (do let x ← handleMessages s msgs h routing next event
              pure (finishRound x errOut out)) = .ok r)
    (hban : ∀ e, (event (some e)).bansParty = S.isAbortProtocolAndBanParty e) :
    Keeps s r := by
  obtain ⟨⟨s', res, events⟩, hx, hr⟩ := except_bind_eq_ok.mp hr
  cases hr
  rcases handleMessagesWith_cases hx with ⟨_, -,
    ⟨_, _, -, herr, rfl, rfl, rfl⟩ | ⟨_, st, _, _, -, -, -, rfl, rfl, rfl⟩ |
      ⟨_, st, e, _, -, -, herr, rfl, rfl, rfl⟩⟩
  · exact keeps_of_moves rfl .stay
      (banCode_of_events_nil rfl (writeErr_code (GoError.new_code herr)))
  · exact keeps_of_moves rfl (.advance st hadv) (banCode_of_err_none rfl)
  · exact keeps_of_moves rfl (.fail st (hfail e))
      (banCode_of_step rfl (hban e) (writeErr_code (signErrorToGo_code herr)))

theorem keeps_of_reject {s : SignSessionHandle S} {ret : Ret K} {errOut : Bool}
    {msg : String} {r : SignReply S} (h : reject (some s) ret errOut msg = .ok r) :
    Keeps s r := by
  obtain ⟨h1, -, h2⟩ := reject_session h
  exact keeps_of_moves h1 (h2 ▸ .stay) (banCode_of_events_nil h2 (reject_code h))

theorem dklsSignCreateFirstMessage_keeps {s : SignSessionHandle S} {errOut : Bool}
    {r : SignReply S} (h : dklsSignCreateFirstMessage (some s) errOut = .ok r) :
    Keeps s r := by
  simp only [dklsSignCreateFirstMessage] at h
  split at h
  · rename_i hround
    obtain ⟨msg, -, h⟩ := except_bind_eq_ok.mp h
    cases h
    exact keeps_of_moves rfl (.advance _ (hround ▸ .generateMsg1)) (banCode_of_err_none rfl)
  · exact keeps_of_reject h

theorem dklsSignHandleMessages_keeps {s : SignSessionHandle S} {msgs : Option (List Message)}
    {seed : Option (List UInt8)} {entropy : Bytes 32} {errOut out : Bool}
    {r : SignReply S}
    (h : dklsSignHandleMessages (some s) msgs seed entropy errOut out = .ok r) :
    Keeps s r := by
  simp only [dklsSignHandleMessages] at h
  obtain ⟨rng, -, h⟩ := except_bind_eq_ok.mp h
  split at h
  · rename_i hround
    exact keeps_of_handleMessages (hround ▸ .handleMsg1) (fun e => hround ▸ .handleMsg1 e) h
      fun _ => rfl
  · rename_i hround
    exact keeps_of_handleMessages (hround ▸ .handleMsg2) (fun e => hround ▸ .handleMsg2 e) h
      fun _ => rfl
  · rename_i hround
    obtain ⟨ms, -, h⟩ := except_bind_eq_ok.mp h
    split at h
    · obtain ⟨err, herr, h⟩ := except_bind_eq_ok.mp h
      cases h
      exact keeps_of_moves rfl (.abort hround)
        (banCode_of_events_nil rfl (by rintro err rfl; exact reportError_code herr))
    · split at h
      · cases h
        exact keeps_of_moves rfl (.advance _ (hround ▸ .handleMsg3 _)) (banCode_of_err_none rfl)
      · obtain ⟨err, herr, h⟩ := except_bind_eq_ok.mp h
        cases h
        exact keeps_of_moves rfl (.fail _ (hround ▸ .handleMsg3 _))
          (banCode_of_step rfl rfl (writeErr_code (signErrorToGo_code herr)))
  · exact keeps_of_reject h
  · exact keeps_of_reject h

theorem dklsSignLastMessage_keeps {s : SignSessionHandle S} {messageHash : CSlice UInt8}
    {errOut : Bool} {r : SignReply S}
    (h : dklsSignLastMessage (some s) messageHash errOut = .ok r) :
    Keeps s r := by
  simp only [dklsSignLastMessage] at h
  split at h
  · exact keeps_of_reject h
  · obtain ⟨hashSlice, -, h⟩ := except_bind_eq_ok.mp h
    obtain ⟨hash, -, h⟩ := except_bind_eq_ok.mp h
    split at h
    · rename_i pre hround
      obtain ⟨msg, -, h⟩ := except_bind_eq_ok.mp h
      cases h
      exact keeps_of_moves rfl (.advance s.state (hround ▸ .createPartialSignature _ _ _))
        (banCode_of_err_none rfl)
    · rw [← SignSessionHandle.with_round_self (s := s) rfl] at h ⊢
      exact keeps_of_reject h

/-- `dkls_sign_combine` keeps the session when `r_out` or `s_out` is null;
otherwise it releases the handle on every path, having run at most
`combine_signatures` on the partial signature of `WaitMsg4`. -/
theorem dklsSignCombine_cases {s : SignSessionHandle S} {msgs : Option (List Message)}
    {rOut sOut errOut : Bool} {r : SignReply S}
    (h : dklsSignCombine (some s) msgs rOut sOut errOut = .ok r) :
    ((rOut && sOut) = false ∧ r.session = some s ∧ r.events = [] ∨
      (rOut && sOut) = true ∧ Moves s r.session r.events ∧ r.session = none) ∧ BanCode r := by
  simp only [dklsSignCombine] at h
  split at h
  · rename_i hnull
    obtain ⟨h1, -, h2⟩ := reject_session h
    exact ⟨.inl ⟨by revert hnull; cases rOut <;> cases sOut <;> decide, h1, h2⟩,
      banCode_of_events_nil h2 (reject_code h)⟩
  · rename_i hnull
    have hboth : (rOut && sOut) = true := by
      revert hnull; cases rOut <;> cases sOut <;> decide
    have hrelease {ret : Ret K} {msg : String} (hr : reject none ret errOut msg = .ok r) :
        ((rOut && sOut) = false ∧ r.session = some s ∧ r.events = [] ∨
          (rOut && sOut) = true ∧ Moves s r.session r.events ∧ r.session = none) ∧
          BanCode r := by
      obtain ⟨h1, -, h2⟩ := reject_session hr
      exact ⟨.inr ⟨hboth, h1 ▸ h2 ▸ .release, h1⟩,
        banCode_of_events_nil h2 (reject_code hr)⟩
    split at h
    · rename_i q hround
      obtain ⟨ms, -, h⟩ := except_bind_eq_ok.mp h
      split at h
      · exact hrelease h
      · split at h
        · split at h
          · cases h
            exact ⟨.inr ⟨hboth, .combine none hround, rfl⟩, banCode_of_err_none rfl⟩
          · obtain ⟨err, herr, h⟩ := except_bind_eq_ok.mp h
            cases h
            refine ⟨.inr ⟨hboth, .combine none hround, rfl⟩, ?_⟩
            rintro err rfl
            simp only [List.any_cons, List.any_nil, Bool.or_false, SignEvent.bansParty,
              Bool.false_eq_true, if_false]
            exact reportError_code herr
        · obtain ⟨err, herr, h⟩ := except_bind_eq_ok.mp h
          cases h
          refine ⟨.inr ⟨hboth, .combine _ hround, rfl⟩, banCode_of_step rfl rfl ?_⟩
          rintro err rfl
          exact signErrorToGo_code (reportWith_some herr)
    · exact hrelease h

/-- Every call on a live sign session stays inside `Moves` and writes code 2
exactly when one of its engine steps returned `AbortProtocolAndBanParty`. -/
theorem SignCall.apply_outcome (c : SignCall) {s : SignSessionHandle S} {r : SignReply S}
    (h : c.apply (some s) = .ok r) : Outcome s r := by
  cases c with
  | createFirstMessage errOut => exact (dklsSignCreateFirstMessage_keeps h).1
  | handleMessages msgs seed entropy errOut out => exact (dklsSignHandleMessages_keeps h).1
  | lastMessage messageHash errOut => exact (dklsSignLastMessage_keeps h).1
  | combine msgs rOut sOut errOut =>
      obtain ⟨⟨-, h1, h2⟩ | ⟨-, hm, -⟩, hcode⟩ := dklsSignCombine_cases h
      · exact ⟨h1 ▸ h2 ▸ .stay, hcode⟩
      · exact ⟨hm, hcode⟩
  | free =>
      cases h
      exact ⟨.release, banCode_of_err_none rfl⟩

theorem SignCall.apply_moves (c : SignCall) {s : SignSessionHandle S} {r : SignReply S}
    (h : c.apply (some s) = .ok r) : Moves s r.session r.events :=
  (c.apply_outcome h).moves

/-- A call on a live sign session releases the handle exactly when it is
`dkls_sign_free`, or `dkls_sign_combine` with `r_out` and `s_out` both
non-null, whatever the outcome of the combination. -/
theorem SignCall.apply_released (c : SignCall) {s : SignSessionHandle S} {r : SignReply S}
    (h : c.apply (some s) = .ok r) :
    r.session = none ↔ c = .free ∨ ∃ msgs errOut, c = .combine msgs true true errOut := by
  have hkeeps {P : Prop} (hP : ¬P) (hk : Keeps s r) : r.session = none ↔ P :=
    iff_of_false hk.2 hP
  cases c with
  | createFirstMessage errOut => exact hkeeps (by simp) (dklsSignCreateFirstMessage_keeps h)
  | handleMessages => exact hkeeps (by simp) (dklsSignHandleMessages_keeps h)
  | lastMessage => exact hkeeps (by simp) (dklsSignLastMessage_keeps h)
  | combine msgs rOut sOut errOut =>
      rcases (dklsSignCombine_cases h).1 with ⟨hnull, h1, -⟩ | ⟨hboth, -, h1⟩
      · simp only [h1, reduceCtorEq, false_iff, not_or, not_exists]
        refine ⟨nofun, fun _ _ hc => ?_⟩
        cases hc
        cases hnull
      · simp only [h1, true_iff]
        rw [Bool.and_eq_true] at hboth
        exact .inr ⟨msgs, errOut, by rw [hboth.1, hboth.2]⟩
  | free =>
      cases h
      simp

/-- Everything a sign constructor can return: a new session in `Init` with
nothing written and no engine step, or no session, with the error of a
rejection written through a non-null `err_out`, code 1. -/
theorem SignInit.apply_cases {c : SignInit K} {r : SignReply S} (h : c.apply = .ok r) :
    (∃ state, r = ⟨some (SignSessionHandle.new state), .unit, none, []⟩) ∨
      (r.session = none ∧ r.err.isSome = c.errOut ∧ ∀ err ∈ r.err, err.code = 1) := by
  cases c with
  | fromBytes =>
      cases h
      exact .inr ⟨rfl, rfl, nofun⟩
  | new =>
      simp only [SignInit.apply, dklsSignNew] at h
      repeat' split at h
      all_goals first
        | exact .inr (reject_failure h)
        | skip
      obtain ⟨rng, -, h⟩ := except_bind_eq_ok.mp h
      split at h
      · cases h
        exact .inl ⟨_, rfl⟩
      · exact .inr (reject_failure h)

end DklsFfi.Sign
