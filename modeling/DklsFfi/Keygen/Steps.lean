import DklsFfi.Keygen.Session

/-!
What one call can do to a live keygen session, said once. `Advances` is the
engine's round order, `Fails` an engine step returning `Err`, and `Moves`
lists every effect a call has on the handle together with the engine steps
it ran. `KeygenCall.apply_moves` proves that each entry point stays inside
`Moves`; the run-level theorems are derived from it without unfolding an
entry point again.
-/

namespace DklsFfi.Keygen

variable {D : Dkg}

/-- The engine's round order: from each round, its step returning `Ok` and
the round it leads to. -/
inductive Advances : Round D.Keyshare → KeygenEvent D → Round D.Keyshare → Prop
  | generateMsg1 : Advances .init .generateMsg1 .waitMsg1
  | handleMsg1 : Advances .waitMsg1 (.handleMsg1 none) .waitMsg2
  | handleMsg2 : Advances .waitMsg2 (.handleMsg2 none) .waitMsg3
  | handleMsg3 (commitments : List (Bytes 32)) :
      Advances .waitMsg3 (.handleMsg3 commitments none) .waitMsg4
  | handleMsg4 (keyshare : D.Keyshare) :
      Advances .waitMsg4 (.handleMsg4 (.ok keyshare)) (.share keyshare)

/-- The engine step of a round returning `Err`. -/
inductive Fails : Round D.Keyshare → KeygenEvent D → Prop
  | handleMsg1 (e : D.KeygenError) : Fails .waitMsg1 (.handleMsg1 (some e))
  | handleMsg2 (e : D.KeygenError) : Fails .waitMsg2 (.handleMsg2 (some e))
  | handleMsg3 (commitments : List (Bytes 32)) (e : D.KeygenError) :
      Fails .waitMsg3 (.handleMsg3 commitments (some e))
  | handleMsg4 (e : D.KeygenError) : Fails .waitMsg4 (.handleMsg4 (.error e))

/-- Every effect a call can have on a live session `s`: what is left at the
handle, and the engine steps run. The only move to `Failed` without an engine
step is a last-round batch that does not decode. -/
inductive Moves (s : KeygenSessionHandle D) :
    Option (KeygenSessionHandle D) → List (KeygenEvent D) → Prop
  | stay : Moves s (some s) []
  | abort : s.round = .waitMsg4 → Moves s (some { s with round := .failed }) []
  | advance {e : KeygenEvent D} {next : Round D.Keyshare} (state : D.State) :
      Advances s.round e next → Moves s (some { s with state, round := next }) [e]
  | fail {e : KeygenEvent D} (state : D.State) :
      Fails s.round e → Moves s (some { s with state, round := .failed }) [e]
  | release : Moves s none []

/-- What a call on a live session can do, said once: its effect on the
session within `Moves`, and the code of every error it writes, always 1. -/
structure Outcome (s : KeygenSessionHandle D) (r : KeygenReply D) : Prop where
  moves : Moves s r.session r.events
  code : ∀ err ∈ r.err, err.code = 1

/-- A call that leaves a session at the handle. -/
def Keeps (s : KeygenSessionHandle D) (r : KeygenReply D) : Prop :=
  Outcome s r ∧ r.session ≠ none

theorem keeps_of_moves {s live : KeygenSessionHandle D} {r : KeygenReply D}
    (hlive : r.session = some live) (hm : Moves s (some live) r.events)
    (hcode : ∀ err ∈ r.err, err.code = 1) : Keeps s r :=
  ⟨⟨hlive ▸ hm, hcode⟩, by rw [hlive]; nofun⟩

/-- A round that runs the generic helper keeps the session, within `Moves`. -/
theorem keeps_of_handleMessages {T U : WireType} {s : KeygenSessionHandle D}
    {msgs : Option (List Message)}
    {h : D.State → List T.T → D.State × Except D.KeygenError (List U.T)}
    {routing : MessageRouting U.T} {next : Round D.Keyshare}
    {event : Option D.KeygenError → KeygenEvent D} {errOut out : Bool} {r : KeygenReply D}
    (hadv : Advances s.round (event none) next)
    (hfail : ∀ e, Fails s.round (event (some e)))
    (hr : (do let x ← handleMessages s msgs h routing next event
              pure (finishRound x errOut out)) = .ok r) :
    Keeps s r := by
  obtain ⟨⟨s', res, events⟩, hx, hr⟩ := except_bind_eq_ok.mp hr
  cases hr
  rcases handleMessagesWith_cases hx with ⟨_, -,
    ⟨_, _, -, herr, rfl, rfl, rfl⟩ | ⟨_, st, _, _, -, -, -, rfl, rfl, rfl⟩ |
      ⟨_, st, e, _, -, -, herr, rfl, rfl, rfl⟩⟩
  · exact keeps_of_moves rfl .stay (writeErr_code (GoError.new_code herr))
  · exact keeps_of_moves rfl (.advance st hadv) nofun
  · exact keeps_of_moves rfl (.fail st (hfail e)) (writeErr_code (keygenErrorToGo_code herr))

theorem keeps_of_reject {s : KeygenSessionHandle D} {ret : Ret D.Keyshare} {errOut : Bool}
    {msg : String} {r : KeygenReply D} (h : reject (some s) ret errOut msg = .ok r) :
    Keeps s r := by
  obtain ⟨h1, -, h2⟩ := reject_session h
  exact keeps_of_moves h1 (h2 ▸ .stay) (reject_code h)

theorem dklsKeygenCreateFirstMessage_keeps {s : KeygenSessionHandle D} {errOut : Bool}
    {r : KeygenReply D} (h : dklsKeygenCreateFirstMessage (some s) errOut = .ok r) :
    Keeps s r := by
  simp only [dklsKeygenCreateFirstMessage] at h
  split at h
  · rename_i hround
    obtain ⟨msg, -, h⟩ := except_bind_eq_ok.mp h
    cases h
    exact keeps_of_moves rfl (.advance _ (hround ▸ .generateMsg1)) nofun
  · exact keeps_of_reject h

theorem dklsKeygenCalculateCommitment2_keeps {s : KeygenSessionHandle D} {out : Bool}
    {r : KeygenReply D} (h : dklsKeygenCalculateCommitment2 (some s) out = .ok r) :
    Keeps s r := by
  simp only [dklsKeygenCalculateCommitment2] at h
  split at h
  · split at h <;> cases h <;> exact keeps_of_moves rfl .stay nofun
  · cases h
    exact keeps_of_moves rfl .stay nofun

theorem dklsKeygenHandleMessages_keeps {s : KeygenSessionHandle D} {msgs : Option (List Message)}
    {commitments seed : Option (List UInt8)} {entropy : Bytes 32} {errOut out : Bool}
    {r : KeygenReply D}
    (h : dklsKeygenHandleMessages (some s) msgs commitments seed entropy errOut out = .ok r) :
    Keeps s r := by
  simp only [dklsKeygenHandleMessages] at h
  obtain ⟨rng, -, h⟩ := except_bind_eq_ok.mp h
  split at h
  · rename_i hround
    exact keeps_of_handleMessages (hround ▸ .handleMsg1) (fun e => hround ▸ .handleMsg1 e) h
  · rename_i hround
    exact keeps_of_handleMessages (hround ▸ .handleMsg2) (fun e => hround ▸ .handleMsg2 e) h
  · rename_i hround
    split at h
    · exact keeps_of_reject h
    · split at h
      · exact keeps_of_reject h
      · split at h
        · exact keeps_of_reject h
        · obtain ⟨cs, -, h⟩ := except_bind_eq_ok.mp h
          exact keeps_of_handleMessages (hround ▸ .handleMsg3 cs)
            (fun e => hround ▸ .handleMsg3 cs e) h
  · rename_i hround
    obtain ⟨ms, -, h⟩ := except_bind_eq_ok.mp h
    split at h
    · obtain ⟨err, herr, h⟩ := except_bind_eq_ok.mp h
      cases h
      exact keeps_of_moves rfl (.abort hround) (by rintro err rfl; exact reportError_code herr)
    · split at h
      · cases h
        exact keeps_of_moves rfl (.advance _ (hround ▸ .handleMsg4 _)) nofun
      · obtain ⟨err, herr, h⟩ := except_bind_eq_ok.mp h
        cases h
        exact keeps_of_moves rfl (.fail _ (hround ▸ .handleMsg4 _))
          (writeErr_code (keygenErrorToGo_code herr))
  · exact keeps_of_reject h
  · exact keeps_of_reject h

/-- `dkls_keygen_keyshare` releases the handle unless the session is
`Failed`, which it leaves as it was. -/
theorem dklsKeygenKeyshare_cases {s : KeygenSessionHandle D} {errOut : Bool}
    {r : KeygenReply D} (h : dklsKeygenKeyshare (some s) errOut = .ok r) :
    ((s.round ≠ .failed ∧ r.session = none ∧ r.events = []) ∨
      (s.round = .failed ∧ r.session = some s ∧ r.events = [])) ∧
      ∀ err ∈ r.err, err.code = 1 := by
  simp only [dklsKeygenKeyshare] at h
  split at h
  · rename_i hround
    cases h
    exact ⟨.inl ⟨by rw [hround]; nofun, rfl, rfl⟩, nofun⟩
  · rename_i hround
    obtain ⟨h1, -, h2⟩ := reject_session h
    exact ⟨.inr ⟨hround, h1.trans (congrArg some (KeygenSessionHandle.with_round_self hround)),
      h2⟩, reject_code h⟩
  · rename_i _ hfailed
    obtain ⟨h1, -, h2⟩ := reject_session h
    exact ⟨.inl ⟨hfailed, h1, h2⟩, reject_code h⟩

/-- Every call on a live keygen session stays inside `Moves` and writes only
errors of code 1. -/
theorem KeygenCall.apply_outcome (c : KeygenCall) {s : KeygenSessionHandle D}
    {r : KeygenReply D} (h : c.apply (some s) = .ok r) : Outcome s r := by
  cases c with
  | createFirstMessage errOut => exact (dklsKeygenCreateFirstMessage_keeps h).1
  | calculateCommitment2 out => exact (dklsKeygenCalculateCommitment2_keeps h).1
  | handleMessages msgs commitments seed entropy errOut out =>
      exact (dklsKeygenHandleMessages_keeps h).1
  | keyshare errOut =>
      obtain ⟨⟨-, h1, h2⟩ | ⟨-, h1, h2⟩, hcode⟩ := dklsKeygenKeyshare_cases h
      · exact ⟨h1 ▸ h2 ▸ .release, hcode⟩
      · exact ⟨h1 ▸ h2 ▸ .stay, hcode⟩
  | free =>
      cases h
      exact ⟨.release, nofun⟩

theorem KeygenCall.apply_moves (c : KeygenCall) {s : KeygenSessionHandle D}
    {r : KeygenReply D} (h : c.apply (some s) = .ok r) : Moves s r.session r.events :=
  (c.apply_outcome h).moves

/-- A call on a live keygen session releases the handle exactly when it is
`dkls_keygen_free`, or `dkls_keygen_keyshare` on a session that is not
`Failed`. -/
theorem KeygenCall.apply_released (c : KeygenCall) {s : KeygenSessionHandle D}
    {r : KeygenReply D} (h : c.apply (some s) = .ok r) :
    r.session = none ↔
      c = .free ∨ ∃ errOut, c = .keyshare errOut ∧ s.round ≠ .failed := by
  have hkeeps {P : Prop} (hP : ¬P) (hk : Keeps s r) : r.session = none ↔ P :=
    iff_of_false hk.2 hP
  cases c with
  | createFirstMessage errOut => exact hkeeps (by simp) (dklsKeygenCreateFirstMessage_keeps h)
  | calculateCommitment2 out => exact hkeeps (by simp) (dklsKeygenCalculateCommitment2_keeps h)
  | handleMessages => exact hkeeps (by simp) (dklsKeygenHandleMessages_keeps h)
  | keyshare errOut =>
      rcases (dklsKeygenKeyshare_cases h).1 with ⟨hround, h1, -⟩ | ⟨hround, h1, -⟩ <;>
        simp [h1, hround]
  | free =>
      cases h
      simp

/-- A constructor whose engine call returned `Err` builds nothing and writes
the engine error, with code 1, exactly when `err_out` is not null. -/
theorem notCreated_failure {errOut : Bool} {e : D.KeygenError} {r : KeygenReply D}
    (h : notCreated errOut e = .ok r) :
    r.session = none ∧ r.err.isSome = errOut ∧ ∀ err ∈ r.err, err.code = 1 := by
  obtain ⟨err, herr, h⟩ := except_bind_eq_ok.mp h
  cases h
  refine ⟨rfl, reportWith_isSome herr, ?_⟩
  rintro err rfl
  exact keygenErrorToGo_code (reportWith_some herr)

/-- Everything a keygen constructor can return: a new session in `Init`
with nothing written and no engine step, or no session, with the error of a
rejection or of the engine written through a non-null `err_out`, code 1. -/
theorem KeygenInit.apply_cases {c : KeygenInit D} {r : KeygenReply D} (h : c.apply = .ok r) :
    (∃ state n, r = ⟨some (KeygenSessionHandle.new state n), .unit, none, []⟩) ∨
      (r.session = none ∧ r.err.isSome = c.errOut ∧ ∀ err ∈ r.err, err.code = 1) := by
  cases c with
  | new =>
      obtain ⟨rng, -, h⟩ := except_bind_eq_ok.mp h
      cases h
      exact .inl ⟨_, _, rfl⟩
  | keyRotation o =>
      cases o with
      | none => exact .inr (reject_failure h)
      | some o =>
          obtain ⟨rng, -, h⟩ := except_bind_eq_ok.mp h
          split at h
          · cases h
            exact .inl ⟨_, _, rfl⟩
          · exact .inr (notCreated_failure h)
  | keyRecovery o =>
      cases o with
      | none => exact .inr (reject_failure h)
      | some o =>
          obtain ⟨rng, -, h⟩ := except_bind_eq_ok.mp h
          obtain ⟨lostShares, -, h⟩ := except_bind_eq_ok.mp h
          split at h
          · cases h
            exact .inl ⟨_, _, rfl⟩
          · exact .inr (notCreated_failure h)
  | lostShareRecovery =>
      simp only [KeygenInit.apply, dklsKeygenInitLostShareRecovery] at h
      split at h
      · exact .inr (reject_failure h)
      · obtain ⟨rng, -, h⟩ := except_bind_eq_ok.mp h
        obtain ⟨pkSlice, -, h⟩ := except_bind_eq_ok.mp h
        obtain ⟨pkBytes, -, h⟩ := except_bind_eq_ok.mp h
        split at h
        · exact .inr (reject_failure h)
        · obtain ⟨lostShares, -, h⟩ := except_bind_eq_ok.mp h
          split at h
          · cases h
            exact .inl ⟨_, _, rfl⟩
          · exact .inr (notCreated_failure h)
  | fromBytes =>
      cases h
      exact .inr ⟨rfl, rfl, nofun⟩

end DklsFfi.Keygen
