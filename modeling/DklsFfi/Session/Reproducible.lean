import DklsFfi.Session.Handles

/-!
Seeded runs are reproducible. Every entry point that takes a seed turns it into
its generator with `maybe_seeded_rng`, which reads `thread_rng` only when the
seed buffer is null or empty, and no entry point draws randomness any other
way. So a run of the C API whose seed-taking calls are all given a seed does
not depend on the system's randomness: the table it leaves, and every return
value, message and error it produces, are the same whatever `thread_rng`
returns. The model takes `thread_rng`'s output as each call's `entropy`
argument; two runs that differ only there agree.
-/

namespace DklsFfi

open Keygen Sign

/-- With a non-null, non-empty seed buffer, the generator does not depend on
`thread_rng`. -/
theorem maybeSeededRng_seeded {seed : Option (List UInt8)} (h : seedSlice seed ≠ none)
    (entropy entropy' : Bytes 32) :
    maybeSeededRng (seedSlice seed) entropy = maybeSeededRng (seedSlice seed) entropy' := by
  cases hs : seedSlice seed with
  | none => exact absurd hs h
  | some bytes => rfl

variable {D : Dkg} {S : Dsg D.Keyshare}

/-- A keygen constructor with `thread_rng` returning `entropy`. -/
def Keygen.KeygenInit.withEntropy (entropy : Bytes 32) : KeygenInit D → KeygenInit D
  | .new participants threshold partyId seed _ =>
      .new participants threshold partyId seed entropy
  | .keyRotation oldshare seed _ errOut => .keyRotation oldshare seed entropy errOut
  | .keyRecovery oldshare lostShares seed _ errOut =>
      .keyRecovery oldshare lostShares seed entropy errOut
  | .lostShareRecovery participants threshold partyId pk lostShares seed _ errOut =>
      .lostShareRecovery participants threshold partyId pk lostShares seed entropy errOut
  | .fromBytes bytes => .fromBytes bytes

/-- Every seed the keygen constructor takes is non-null and non-empty. -/
def Keygen.KeygenInit.Seeded : KeygenInit D → Prop
  | .new _ _ _ seed _ | .keyRotation _ seed _ _ | .keyRecovery _ _ seed _ _
  | .lostShareRecovery _ _ _ _ _ seed _ _ => seedSlice seed ≠ none
  | .fromBytes _ => True

/-- A keygen call with `thread_rng` returning `entropy`. -/
def Keygen.KeygenCall.withEntropy (entropy : Bytes 32) : KeygenCall → KeygenCall
  | .handleMessages msgs commitments seed _ errOut out =>
      .handleMessages msgs commitments seed entropy errOut out
  | c => c

/-- Every seed the keygen call takes is non-null and non-empty. -/
def Keygen.KeygenCall.Seeded : KeygenCall → Prop
  | .handleMessages _ _ seed _ _ _ => seedSlice seed ≠ none
  | _ => True

/-- The sign constructor with `thread_rng` returning `entropy`. -/
def Sign.SignInit.withEntropy {K : Type} (entropy : Bytes 32) : SignInit K → SignInit K
  | .new keyshare chainPath seed _ errOut => .new keyshare chainPath seed entropy errOut
  | .fromBytes bytes => .fromBytes bytes

/-- Every seed the sign constructor takes is non-null and non-empty. -/
def Sign.SignInit.Seeded {K : Type} : SignInit K → Prop
  | .new _ _ seed _ _ => seedSlice seed ≠ none
  | .fromBytes _ => True

/-- A sign call with `thread_rng` returning `entropy`. -/
def Sign.SignCall.withEntropy (entropy : Bytes 32) : SignCall → SignCall
  | .handleMessages msgs seed _ errOut out => .handleMessages msgs seed entropy errOut out
  | c => c

/-- Every seed the sign call takes is non-null and non-empty. -/
def Sign.SignCall.Seeded : SignCall → Prop
  | .handleMessages _ seed _ _ _ => seedSlice seed ≠ none
  | _ => True

/-- A call of the C API with `thread_rng` returning `entropy`. -/
def ApiCall.withEntropy (entropy : Bytes 32) : ApiCall D S → ApiCall D S
  | .keygenInit c => .keygenInit (c.withEntropy entropy)
  | .keygen handle c => .keygen handle (c.withEntropy entropy)
  | .signInit c => .signInit (c.withEntropy entropy)
  | .sign handle c => .sign handle (c.withEntropy entropy)

/-- Every seed the call takes is non-null and non-empty; calls that take no
seed are seeded. -/
def ApiCall.Seeded : ApiCall D S → Prop
  | .keygenInit c | .keygen _ c | .signInit c | .sign _ c => c.Seeded

section Calls

variable {entropy : Bytes 32}

theorem Keygen.KeygenInit.apply_withEntropy {c : KeygenInit D} (h : c.Seeded) :
    (c.withEntropy entropy).apply = c.apply := by
  cases c <;> simp only [KeygenInit.withEntropy, KeygenInit.apply, dklsKeygenNew,
    dklsKeygenInitKeyRotation, dklsKeygenInitKeyRecovery, dklsKeygenInitLostShareRecovery] <;>
    rw [maybeSeededRng_seeded h]

theorem Keygen.KeygenCall.apply_withEntropy {c : KeygenCall} (h : c.Seeded) :
    KeygenCall.apply (D := D) (c.withEntropy entropy) = c.apply := by
  cases c <;> try rfl
  funext handle
  simp only [KeygenCall.withEntropy, KeygenCall.apply, dklsKeygenHandleMessages]
  rw [maybeSeededRng_seeded h]

theorem Sign.SignInit.apply_withEntropy {c : SignInit D.Keyshare} (h : c.Seeded) :
    SignInit.apply (S := S) (c.withEntropy entropy) = c.apply := by
  cases c <;> try rfl
  simp only [SignInit.withEntropy, SignInit.apply, dklsSignNew]
  rw [maybeSeededRng_seeded h]

theorem Sign.SignCall.apply_withEntropy {c : SignCall} (h : c.Seeded) :
    SignCall.apply (S := S) (c.withEntropy entropy) = c.apply := by
  cases c <;> try rfl
  funext handle
  simp only [SignCall.withEntropy, SignCall.apply, dklsSignHandleMessages]
  rw [maybeSeededRng_seeded h]

/-- A seeded call does the same to every table whatever `thread_rng` returns. -/
theorem Heap.step_withEntropy (H : Heap D S) (m : Malloc D S) {c : ApiCall D S}
    (h : c.Seeded) : H.step m (c.withEntropy entropy) = H.step m c := by
  cases c with
  | keygenInit c => simp only [ApiCall.withEntropy, Heap.step, c.apply_withEntropy h]
  | keygen handle c =>
      cases handle <;> simp only [ApiCall.withEntropy, Heap.step, c.apply_withEntropy h]
  | signInit c => simp only [ApiCall.withEntropy, Heap.step, c.apply_withEntropy h]
  | sign handle c =>
      cases handle <;> simp only [ApiCall.withEntropy, Heap.step, c.apply_withEntropy h]

end Calls

/-- Seeded runs are reproducible. From any table, two sequences of C API calls
that differ only in what `thread_rng` returns to each call, and whose
seed-taking calls (the keygen and sign constructors and the two
`handle_messages` entry points) are all given a non-null, non-empty seed, end in
the same outcome, whatever the allocator: the same table, the same return
values, messages and errors at every call, or the same fault. -/
theorem seeded_runs_are_reproducible (m : Malloc D S) (H : Heap D S)
    (calls calls' : List (ApiCall D S)) (hseeded : ∀ c ∈ calls, c.Seeded)
    (hvar : List.Forall₂ (fun c c' => ∃ entropy, c' = c.withEntropy entropy) calls calls') :
    H.run m calls' = H.run m calls := by
  induction hvar generalizing H with
  | nil => rfl
  | @cons c c' cs cs' hc _ ih =>
      obtain ⟨entropy, rfl⟩ := hc
      have hrest : ∀ H' : Heap D S, H'.run m cs' = H'.run m cs :=
        fun H' => ih H' fun c hc => hseeded c (List.mem_cons_of_mem _ hc)
      simp only [Heap.run, Heap.step_withEntropy H m (hseeded c (List.mem_cons_self c cs)), hrest]

theorem seeded_runs_are_reproducible_new :
    (∀ c ∈ [ApiCall.keygenInit (D := unitDkg) (S := unitDsg)
        (.new 2 2 0 (some (List.replicate 32 7)) ⟨List.replicate 32 0, rfl⟩)], c.Seeded) ∧
      List.Forall₂ (fun c c' => ∃ entropy, c' = ApiCall.withEntropy entropy c)
        [ApiCall.keygenInit (D := unitDkg) (S := unitDsg)
          (.new 2 2 0 (some (List.replicate 32 7)) ⟨List.replicate 32 0, rfl⟩)]
        [.keygenInit (.new 2 2 0 (some (List.replicate 32 7)) ⟨List.replicate 32 1, rfl⟩)] ∧
      Heap.empty.run Malloc.bump [ApiCall.keygenInit (D := unitDkg) (S := unitDsg)
          (.new 2 2 0 (some (List.replicate 32 7)) ⟨List.replicate 32 1, rfl⟩)] =
        Heap.empty.run Malloc.bump [.keygenInit (.new 2 2 0 (some (List.replicate 32 7))
          ⟨List.replicate 32 0, rfl⟩)] :=
  have hseeded : ∀ c ∈ [ApiCall.keygenInit (D := unitDkg) (S := unitDsg)
      (.new 2 2 0 (some (List.replicate 32 7)) ⟨List.replicate 32 0, rfl⟩)], c.Seeded := by
    simp [ApiCall.Seeded, KeygenInit.Seeded, seedSlice]
  have hvar : List.Forall₂ (fun c c' => ∃ entropy, c' = ApiCall.withEntropy entropy c)
      [ApiCall.keygenInit (D := unitDkg) (S := unitDsg)
        (.new 2 2 0 (some (List.replicate 32 7)) ⟨List.replicate 32 0, rfl⟩)]
      [.keygenInit (.new 2 2 0 (some (List.replicate 32 7)) ⟨List.replicate 32 1, rfl⟩)] :=
    .cons ⟨⟨List.replicate 32 1, rfl⟩, rfl⟩ .nil
  ⟨hseeded, hvar, seeded_runs_are_reproducible Malloc.bump Heap.empty _ _ hseeded hvar⟩

end DklsFfi
