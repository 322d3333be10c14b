import DklsFfi.Keygen.Steps
import DklsFfi.Sign.Steps

/-!
The status an entry point returns and the error it writes agree. An error is
written exactly when `err_out` is not null and the call returns its failure
value: a null pointer or a status other than 0, or, for a constructor, no new
session. A call that succeeds writes nothing. Two entry points take no
`err_out`: `dkls_keygen_calculate_commitment_2`, which fails silently, and
`dkls_keygen_new`, which never fails.
-/

namespace DklsFfi

/-- The failure value of a return: a null pointer, or a status other than 0. -/
def Ret.failed {K : Type} : Ret K → Bool
  | .message msg => msg.isNone
  | .status code _ | .commitment code _ | .signature code _ => code != 0
  | .keyshare ks => ks.isNone
  | .unit => false

section Reports

variable {S E K : Type} {errOut : Bool} {r : Reply S E K}

/-- An error is written exactly when `err_out` is not null and the call
returned its failure value. -/
def Reply.Reports (errOut : Bool) (r : Reply S E K) : Prop :=
  r.err.isSome = (errOut && r.ret.failed)

/-- A constructor writes an error exactly when `err_out` is not null and it
returns no session. -/
def Reply.ReportsInit (errOut : Bool) (r : Reply S E K) : Prop :=
  r.err.isSome = (errOut && r.session.isNone)

/-- A failure that writes the error `reportWith` built. -/
theorem Reply.reports_of_reportWith {make : Except Fault GoError} {err : Option GoError}
    {session : Option S} {ret : Ret K} {events : List E}
    (herr : reportWith errOut make = .ok err) (hret : ret.failed = true) :
    (⟨session, ret, err, events⟩ : Reply S E K).Reports errOut := by
  show err.isSome = (errOut && ret.failed)
  rw [reportWith_isSome herr, hret, Bool.and_true]

theorem Reply.reports_of_reject {session : Option S} {ret : Ret K} {msg : String}
    (h : reject session ret errOut msg = .ok r) (hret : ret.failed = true) :
    r.Reports errOut := by
  obtain ⟨err, herr, h⟩ := except_bind_eq_ok.mp h
  cases h
  exact Reply.reports_of_reportWith herr hret

/-- A constructor that returns no session and writes its error exactly when
`err_out` is not null. -/
theorem Reply.reportsInit_of_failure (hs : r.session = none) (herr : r.err.isSome = errOut) :
    r.ReportsInit errOut := by
  rw [Reply.ReportsInit, herr, hs, Option.isNone_none, Bool.and_true]

theorem finishRound_reports (x : S × Except GoError (List Message) × List E)
    (errOut out : Bool) : (finishRound x errOut out : Reply S E K).Reports errOut := by
  rcases x with ⟨s, _ | _, events⟩ <;>
    cases errOut <;> simp [Reply.Reports, finishRound, writeErr, Ret.failed]

/-- A call that returns its success value and writes nothing. -/
theorem Reply.reports_of_success (herr : r.err = none) (hret : r.ret.failed = false) :
    r.Reports errOut := by
  rw [Reply.Reports, herr, hret, Bool.and_false, Option.isSome_none]

/-- A constructor that returns a session and writes nothing. -/
theorem Reply.reportsInit_of_success {s : S} (herr : r.err = none) (hs : r.session = some s) :
    r.ReportsInit errOut := by
  rw [Reply.ReportsInit, herr, hs, Option.isNone_some, Bool.and_false, Option.isSome_none]

end Reports

namespace Keygen

variable {D : Dkg}

variable {errOut : Bool} {r : KeygenReply D}

theorem dklsKeygenCreateFirstMessage_reports {handle : Option (KeygenSessionHandle D)}
    (h : dklsKeygenCreateFirstMessage handle errOut = .ok r) : r.Reports errOut := by
  simp only [dklsKeygenCreateFirstMessage] at h
  split at h
  · exact Reply.reports_of_reject h rfl
  · split at h
    · obtain ⟨msg, -, h⟩ := except_bind_eq_ok.mp h
      cases h
      exact Reply.reports_of_success rfl rfl
    · exact Reply.reports_of_reject h rfl

theorem dklsKeygenCalculateCommitment2_reports {handle : Option (KeygenSessionHandle D)}
    {out : Bool} (h : dklsKeygenCalculateCommitment2 handle out = .ok r) : r.Reports false := by
  simp only [dklsKeygenCalculateCommitment2] at h
  repeat' split at h
  all_goals cases h; rfl

theorem dklsKeygenHandleMessages_reports {handle : Option (KeygenSessionHandle D)}
    {msgs : Option (List Message)} {commitments seed : Option (List UInt8)} {entropy : Bytes 32}
    {out : Bool} (h : dklsKeygenHandleMessages handle msgs commitments seed entropy errOut out =
      .ok r) : r.Reports errOut := by
  cases handle with
  | none => exact Reply.reports_of_reject h rfl
  | some s =>
      obtain ⟨rng, -, h⟩ := except_bind_eq_ok.mp h
      split at h
      case h_1 | h_2 =>
        obtain ⟨x, -, h⟩ := except_bind_eq_ok.mp h
        cases h
        exact finishRound_reports x errOut out
      case h_3 =>
        split at h
        · exact Reply.reports_of_reject h rfl
        · split at h
          · exact Reply.reports_of_reject h rfl
          · split at h
            · exact Reply.reports_of_reject h rfl
            · obtain ⟨cs, -, h⟩ := except_bind_eq_ok.mp h
              obtain ⟨x, -, h⟩ := except_bind_eq_ok.mp h
              cases h
              exact finishRound_reports x errOut out
      case h_4 =>
        obtain ⟨ms, -, h⟩ := except_bind_eq_ok.mp h
        split at h
        · obtain ⟨err, herr, h⟩ := except_bind_eq_ok.mp h
          cases h
          exact Reply.reports_of_reportWith herr rfl
        · split at h
          · cases h
            exact finishRound_reports _ errOut out
          · obtain ⟨err, -, h⟩ := except_bind_eq_ok.mp h
            cases h
            exact finishRound_reports _ errOut out
      case h_5 | h_6 => exact Reply.reports_of_reject h rfl

theorem dklsKeygenKeyshare_reports {handle : Option (KeygenSessionHandle D)}
    (h : dklsKeygenKeyshare handle errOut = .ok r) : r.Reports errOut := by
  simp only [dklsKeygenKeyshare] at h
  split at h
  · exact Reply.reports_of_reject h rfl
  · split at h
    · cases h
      exact Reply.reports_of_success rfl rfl
    · exact Reply.reports_of_reject h rfl
    · exact Reply.reports_of_reject h rfl

theorem KeygenCall.apply_reports :
    ∀ (c : KeygenCall) (handle : Option (KeygenSessionHandle D)) (r : KeygenReply D),
      c.apply handle = .ok r → r.Reports c.errOut
  | .createFirstMessage _, _, _, h => dklsKeygenCreateFirstMessage_reports h
  | .calculateCommitment2 _, _, _, h => dklsKeygenCalculateCommitment2_reports h
  | .handleMessages .., _, _, h => dklsKeygenHandleMessages_reports h
  | .keyshare _, _, _, h => dklsKeygenKeyshare_reports h
  | .free, _, _, h => by cases h; rfl

theorem KeygenInit.apply_reports (c : KeygenInit D) (r : KeygenReply D)
    (h : c.apply = .ok r) : r.ReportsInit c.errOut := by
  rcases KeygenInit.apply_cases h with ⟨_, _, rfl⟩ | ⟨hs, herr, -⟩
  · exact Reply.reportsInit_of_success rfl rfl
  · exact Reply.reportsInit_of_failure hs herr

end Keygen

namespace Sign

variable {K : Type} {S : Dsg K}

variable {errOut : Bool} {r : SignReply S}

theorem dklsSignCreateFirstMessage_reports {handle : Option (SignSessionHandle S)}
    (h : dklsSignCreateFirstMessage handle errOut = .ok r) : r.Reports errOut := by
  simp only [dklsSignCreateFirstMessage] at h
  split at h
  · exact Reply.reports_of_reject h rfl
  · split at h
    · obtain ⟨msg, -, h⟩ := except_bind_eq_ok.mp h
      cases h
      exact Reply.reports_of_success rfl rfl
    · exact Reply.reports_of_reject h rfl

theorem dklsSignHandleMessages_reports {handle : Option (SignSessionHandle S)}
    {msgs : Option (List Message)} {seed : Option (List UInt8)} {entropy : Bytes 32}
    {out : Bool} (h : dklsSignHandleMessages handle msgs seed entropy errOut out = .ok r) :
    r.Reports errOut := by
  cases handle with
  | none => exact Reply.reports_of_reject h rfl
  | some s =>
      obtain ⟨rng, -, h⟩ := except_bind_eq_ok.mp h
      split at h
      case h_1 | h_2 =>
        obtain ⟨x, -, h⟩ := except_bind_eq_ok.mp h
        cases h
        exact finishRound_reports x errOut out
      case h_3 =>
        obtain ⟨ms, -, h⟩ := except_bind_eq_ok.mp h
        split at h
        · obtain ⟨err, herr, h⟩ := except_bind_eq_ok.mp h
          cases h
          exact Reply.reports_of_reportWith herr rfl
        · split at h
          · cases h
            exact finishRound_reports _ errOut out
          · obtain ⟨err, -, h⟩ := except_bind_eq_ok.mp h
            cases h
            exact finishRound_reports _ errOut out
      case h_4 | h_5 => exact Reply.reports_of_reject h rfl

theorem dklsSignLastMessage_reports {handle : Option (SignSessionHandle S)}
    {messageHash : CSlice UInt8} (h : dklsSignLastMessage handle messageHash errOut = .ok r) :
    r.Reports errOut := by
  simp only [dklsSignLastMessage] at h
  split at h
  · exact Reply.reports_of_reject h rfl
  · split at h
    · exact Reply.reports_of_reject h rfl
    · obtain ⟨hashSlice, -, h⟩ := except_bind_eq_ok.mp h
      obtain ⟨hash, -, h⟩ := except_bind_eq_ok.mp h
      split at h
      · obtain ⟨msg, -, h⟩ := except_bind_eq_ok.mp h
        cases h
        exact Reply.reports_of_success rfl rfl
      · exact Reply.reports_of_reject h rfl

theorem dklsSignCombine_reports {handle : Option (SignSessionHandle S)}
    {msgs : Option (List Message)} {rOut sOut : Bool}
    (h : dklsSignCombine handle msgs rOut sOut errOut = .ok r) : r.Reports errOut := by
  simp only [dklsSignCombine] at h
  split at h
  · exact Reply.reports_of_reject h rfl
  · split at h
    · exact Reply.reports_of_reject h rfl
    · split at h
      · obtain ⟨ms, -, h⟩ := except_bind_eq_ok.mp h
        split at h
        · exact Reply.reports_of_reject h rfl
        · split at h
          · split at h
            · cases h
              exact Reply.reports_of_success rfl rfl
            · obtain ⟨err, herr, h⟩ := except_bind_eq_ok.mp h
              cases h
              exact Reply.reports_of_reportWith herr rfl
          · obtain ⟨err, herr, h⟩ := except_bind_eq_ok.mp h
            cases h
            exact Reply.reports_of_reportWith herr rfl
      · exact Reply.reports_of_reject h rfl

theorem SignCall.apply_reports :
    ∀ (c : SignCall) (handle : Option (SignSessionHandle S)) (r : SignReply S),
      c.apply handle = .ok r → r.Reports c.errOut
  | .createFirstMessage _, _, _, h => dklsSignCreateFirstMessage_reports h
  | .handleMessages .., _, _, h => dklsSignHandleMessages_reports h
  | .lastMessage .., _, _, h => dklsSignLastMessage_reports h
  | .combine .., _, _, h => dklsSignCombine_reports h
  | .free, _, _, h => by cases h; rfl

theorem SignInit.apply_reports (c : SignInit K) (r : SignReply S) (h : c.apply = .ok r) :
    r.ReportsInit c.errOut := by
  rcases SignInit.apply_cases h with ⟨_, rfl⟩ | ⟨hs, herr, -⟩
  · exact Reply.reportsInit_of_success rfl rfl
  · exact Reply.reportsInit_of_failure hs herr

end Sign

open Keygen Sign

/-- Every fallible entry point populates its error out-parameter exactly on
failure: the error is written when `err_out` is not null and the call
returns its failure value (a null pointer or a status other than 0; for a
constructor, no new session), and a call that succeeds writes none. -/
theorem errors_written_exactly_on_failure {D : Dkg} {K : Type} {S : Dsg K} :
    (∀ (c : KeygenInit D) (r : KeygenReply D), c.apply = .ok r →
      r.err.isSome = (c.errOut && r.session.isNone)) ∧
    (∀ (c : KeygenCall) (handle : Option (KeygenSessionHandle D)) (r : KeygenReply D),
      c.apply handle = .ok r → r.err.isSome = (c.errOut && r.ret.failed)) ∧
    (∀ (c : SignInit K) (r : SignReply S), c.apply = .ok r →
      r.err.isSome = (c.errOut && r.session.isNone)) ∧
    (∀ (c : SignCall) (handle : Option (SignSessionHandle S)) (r : SignReply S),
      c.apply handle = .ok r → r.err.isSome = (c.errOut && r.ret.failed)) :=
  ⟨KeygenInit.apply_reports, KeygenCall.apply_reports, SignInit.apply_reports,
    SignCall.apply_reports⟩

/-- A first message asked of a session past `Init` fails, and writes its
error. -/
theorem errors_written_exactly_on_failure_rejected :
    ∃ r, (KeygenCall.createFirstMessage true).apply
        (some (⟨(), 2, .waitMsg1⟩ : KeygenSessionHandle unitDkg)) = .ok r ∧
      r.ret.failed = true ∧
      r.err.isSome = ((KeygenCall.createFirstMessage true).errOut && r.ret.failed) :=
  ⟨_, rfl, rfl, (errors_written_exactly_on_failure (D := unitDkg) (S := unitDsg)).2.1
    (.createFirstMessage true) (some ⟨(), 2, .waitMsg1⟩) _ rfl⟩

end DklsFfi
