import DklsFfi.Keygen.Session
import DklsFfi.Sign.Session

/-!
The seed block of the seven entry points that take a caller seed. Each hands
`maybe_seeded_rng` the buffer, null or empty meaning none; a buffer of any
other length than 32 reaches `expect("invalid seed size")`, and the panic
unwinds into the `extern "C"` frame instead of being reported through
`err_out`. The checks that precede the seed block (a null handle or keyshare,
the key length, the derivation path) are the only way around it.
-/

namespace DklsFfi

open Keygen Sign

/-- Every seed-taking entry point, once past its own argument checks, panics
on the seed `seed`. -/
structure SeedPanics (D : Dkg) {K : Type} (S : Dsg K) (seed : Option (List UInt8))
    (entropy : Bytes 32) : Prop where
  keygen_new : ∀ participants threshold partyId,
    dklsKeygenNew (D := D) participants threshold partyId seed entropy =
      .error (.panic "invalid seed size")
  keygen_init_key_rotation : ∀ oldshare errOut,
    dklsKeygenInitKeyRotation (D := D) (some oldshare) seed entropy errOut =
      .error (.panic "invalid seed size")
  keygen_init_key_recovery : ∀ oldshare lostShares errOut,
    dklsKeygenInitKeyRecovery (D := D) (some oldshare) lostShares seed entropy errOut =
      .error (.panic "invalid seed size")
  keygen_init_lost_share_recovery : ∀ participants threshold partyId (pk : CSlice UInt8)
    lostShares errOut, pk.len = 33 →
      dklsKeygenInitLostShareRecovery (D := D) participants threshold partyId pk lostShares
        seed entropy errOut = .error (.panic "invalid seed size")
  keygen_handle_messages : ∀ (s : KeygenSessionHandle D) msgs commitments errOut out,
    dklsKeygenHandleMessages (some s) msgs commitments seed entropy errOut out =
      .error (.panic "invalid seed size")
  sign_new : ∀ keyshare chainPath errOut chainPathStr path,
    cStrToString S chainPath = .ok chainPathStr →
      S.derivationPathFromStr chainPathStr = some path →
      dklsSignNew (S := S) (some keyshare) chainPath seed entropy errOut =
        .error (.panic "invalid seed size")
  sign_handle_messages : ∀ (s : SignSessionHandle S) msgs errOut out,
    dklsSignHandleMessages (some s) msgs seed entropy errOut out =
      .error (.panic "invalid seed size")

/-- A non-null seed whose length is neither 0 nor 32 makes every seed-taking
entry point panic across the C boundary, where the sibling length checks of
the same files report an error instead. -/
theorem bad_seed_panics (D : Dkg) {K : Type} (S : Dsg K) (seed : Option (List UInt8))
    (hseed : seedValid seed = false) (entropy : Bytes 32) : SeedPanics D S seed entropy := by
  have hrng := maybeSeededRng_of_not_seedValid hseed entropy
  constructor
  · intros; simp only [dklsKeygenNew, hrng, except_error_bind]
  · intros; simp only [dklsKeygenInitKeyRotation, hrng, except_error_bind]
  · intros; simp only [dklsKeygenInitKeyRecovery, hrng, except_error_bind]
  · intro _ _ _ _ _ _ hpk
    simp only [dklsKeygenInitLostShareRecovery, hpk, hrng, ne_eq, not_true_eq_false,
      if_false, except_error_bind]
  · intros; simp only [dklsKeygenHandleMessages, hrng, except_error_bind]
  · intro _ _ _ _ _ hpath hfrom
    simp only [dklsSignNew, hpath, hfrom, hrng, except_error_bind]
  · intros; simp only [dklsSignHandleMessages, hrng, except_error_bind]

theorem bad_seed_panics_keygen_new :
    seedValid (some (List.replicate 16 7)) = false ∧
      dklsKeygenNew (D := unitDkg) 3 2 0 (some (List.replicate 16 7))
        ⟨List.replicate 32 0, rfl⟩ = .error (.panic "invalid seed size") :=
  ⟨by decide, (bad_seed_panics unitDkg unitDsg _ (by decide) _).keygen_new 3 2 0⟩

end DklsFfi
