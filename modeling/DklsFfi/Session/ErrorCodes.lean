import DklsFfi.Keygen.Steps
import DklsFfi.Sign.Steps

/-!
The codes of the errors the wrapper writes through `err_out`. Every
`GoError` is built with code 1 except in `sign_error_to_go`, which picks 2 for
`SignError::AbortProtocolAndBanParty`; that function is reached only from the
engine errors of the sign rounds and of `combine_signatures`. So the code of
every reported error is read off the engine steps the call ran: 2 exactly when
one of them returned that error.
-/

namespace DklsFfi

namespace Keygen

variable {D : Dkg}

/-- Every error a keygen call reports has code 1, on a live handle or a null
one. -/
theorem KeygenCall.apply_code (c : KeygenCall) {handle : Option (KeygenSessionHandle D)}
    {r : KeygenReply D} (h : c.apply handle = .ok r) : ∀ err ∈ r.err, err.code = 1 := by
  cases handle with
  | some s => exact (c.apply_outcome h).code
  | none =>
      cases c with
      | createFirstMessage | handleMessages | keyshare => exact reject_code h
      | calculateCommitment2 | free => cases h; nofun

/-- Every error a keygen constructor reports has code 1. -/
theorem KeygenInit.apply_code (c : KeygenInit D) {r : KeygenReply D} (h : c.apply = .ok r) :
    ∀ err ∈ r.err, err.code = 1 := by
  rcases KeygenInit.apply_cases h with ⟨_, _, rfl⟩ | ⟨-, -, hcode⟩
  · nofun
  · exact hcode

end Keygen

namespace Sign

variable {K : Type} {S : Dsg K}

/-- Every sign call, on a live handle or a null one, reports code 2 exactly
when one of its engine steps returned `AbortProtocolAndBanParty`. -/
theorem SignCall.apply_banCode (c : SignCall) {handle : Option (SignSessionHandle S)}
    {r : SignReply S} (h : c.apply handle = .ok r) : BanCode r := by
  cases handle with
  | some s => exact (c.apply_outcome h).code
  | none =>
      cases c with
      | createFirstMessage | handleMessages | lastMessage | combine =>
          exact banCode_of_events_nil (reject_session h).2.2 (reject_code h)
      | free => cases h; exact banCode_of_err_none rfl

/-- Every error a sign constructor reports has code 1. -/
theorem SignInit.apply_code (c : SignInit K) {r : SignReply S} (h : c.apply = .ok r) :
    ∀ err ∈ r.err, err.code = 1 := by
  rcases SignInit.apply_cases h with ⟨_, rfl⟩ | ⟨-, -, hcode⟩
  · nofun
  · exact hcode

end Sign

open Keygen Sign in
/-- The error reported through `err_out` has code 2 exactly when the call ran
a sign engine step, of `handle_messages` or of `combine_signatures`, that
returned `AbortProtocolAndBanParty`. Every other path of every session entry
point reports code 1: keygen engine errors, decode errors, boundary and state
rejections. -/
theorem ban_code_only_from_sign_engine (D : Dkg) {K : Type} (S : Dsg K) :
    (∀ (c : SignCall) (handle : Option (SignSessionHandle S)) (r : SignReply S),
      c.apply handle = .ok r → ∀ err ∈ r.err,
        err.code = if r.events.any SignEvent.bansParty then 2 else 1) ∧
    (∀ (c : SignInit K) (r : SignReply S), c.apply = .ok r → ∀ err ∈ r.err, err.code = 1) ∧
    (∀ (c : KeygenCall) (handle : Option (KeygenSessionHandle D)) (r : KeygenReply D),
      c.apply handle = .ok r → ∀ err ∈ r.err, err.code = 1) ∧
    (∀ (c : KeygenInit D) (r : KeygenReply D), c.apply = .ok r → ∀ err ∈ r.err, err.code = 1) :=
  ⟨fun c _ _ h => c.apply_banCode h, fun c _ h => c.apply_code h,
    fun c _ _ h => c.apply_code h, fun c _ h => c.apply_code h⟩

open Sign in
/-- Round 1 of a sign session whose engine step returns
`AbortProtocolAndBanParty` reports code 2. -/
theorem ban_code_only_from_sign_engine_ban :
    ∃ r, (SignCall.handleMessages (some []) none ⟨List.replicate 32 0, rfl⟩ true true).apply
        (some (⟨(), .waitMsg1⟩ : SignSessionHandle banDsg)) = .ok r ∧
      r.err = some ⟨"abort protocol and ban party", 2⟩ ∧
      ∀ err ∈ r.err, err.code = if r.events.any SignEvent.bansParty then 2 else 1 :=
  ⟨_, rfl, rfl, (ban_code_only_from_sign_engine unitDkg banDsg).1
    (.handleMessages (some []) none ⟨List.replicate 32 0, rfl⟩ true true) (some ⟨(), .waitMsg1⟩)
    _ rfl⟩

end DklsFfi
