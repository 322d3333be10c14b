import DklsFfi.Keygen.Steps
import DklsFfi.Sign.Steps

/-!
The session handles a host holds, as the C API sees them: a table from
addresses to boxed sessions. A constructor puts its new session at the address
the allocator returns (`Box::into_raw`), which may be one that a released
session held before; a call on an address runs the entry point on the session
there and writes back what the call left, removing the entry when the call
released the handle (`Box::from_raw`). A call on an address that holds no
session of its kind dereferences a dangling pointer, `Fault.useAfterFree`.
Keyshare handles are passed by value and are not in the table.
-/

namespace DklsFfi

open Keygen Sign

/-- The live sessions of each kind, by address, and a bound `next` past every
address handed out so far. No address at or past `next` is live, and no
address holds both kinds. The sign engine runs on the keyshares of the DKG. -/
@[ext]
structure Heap (D : Dkg) (S : Dsg D.Keyshare) where
  keygen : Nat → Option (KeygenSessionHandle D)
  sign : Nat → Option (SignSessionHandle S)
  next : Nat
  keygen_fresh : ∀ a, next ≤ a → keygen a = none
  sign_fresh : ∀ a, next ≤ a → sign a = none
  disjoint : ∀ a, keygen a = none ∨ sign a = none

variable {D : Dkg} {S : Dsg D.Keyshare}

/-- The table before the host's first call. -/
def Heap.empty : Heap D S where
  keygen _ := none
  sign _ := none
  next := 0
  keygen_fresh _ _ := rfl
  sign_fresh _ _ := rfl
  disjoint _ := .inl rfl

theorem Heap.lt_next_of_keygen {H : Heap D S} {a : Nat} (h : H.keygen a ≠ none) :
    a < H.next :=
  Nat.lt_of_not_le fun hle => h (H.keygen_fresh a hle)

theorem Heap.lt_next_of_sign {H : Heap D S} {a : Nat} (h : H.sign a ≠ none) :
    a < H.next :=
  Nat.lt_of_not_le fun hle => h (H.sign_fresh a hle)

/-- The allocator behind `Box::new`: for every table, an address that holds no
session of either kind. It may be one that a released session held. -/
structure Malloc (D : Dkg) (S : Dsg D.Keyshare) where
  pick : Heap D S → Nat
  pick_keygen : ∀ H : Heap D S, H.keygen (pick H) = none
  pick_sign : ∀ H : Heap D S, H.sign (pick H) = none

/-- An allocator that never hands out an address twice. -/
def Malloc.bump : Malloc D S where
  pick H := H.next
  pick_keygen H := H.keygen_fresh _ le_rfl
  pick_sign H := H.sign_fresh _ le_rfl

/-- A new keygen session, boxed at an address `a` that holds no sign session. -/
def Heap.allocKeygen (H : Heap D S) (a : Nat) (ha : H.sign a = none)
    (s : KeygenSessionHandle D) : Heap D S where
  keygen b := if b = a then some s else H.keygen b
  sign := H.sign
  next := max H.next (a + 1)
  keygen_fresh b hb := by
    dsimp only at hb ⊢
    rw [if_neg (by omega)]
    exact H.keygen_fresh b (by omega)
  sign_fresh b hb := H.sign_fresh b (by omega)
  disjoint b := by
    dsimp only
    by_cases h : b = a
    · exact .inr (h ▸ ha)
    · rw [if_neg h]
      exact H.disjoint b

/-- A new sign session, boxed at an address `a` that holds no keygen session. -/
def Heap.allocSign (H : Heap D S) (a : Nat) (ha : H.keygen a = none)
    (s : SignSessionHandle S) : Heap D S where
  keygen := H.keygen
  sign b := if b = a then some s else H.sign b
  next := max H.next (a + 1)
  keygen_fresh b hb := H.keygen_fresh b (by omega)
  sign_fresh b hb := by
    dsimp only at hb ⊢
    rw [if_neg (by omega)]
    exact H.sign_fresh b (by omega)
  disjoint b := by
    dsimp only
    by_cases h : b = a
    · exact .inl (h ▸ ha)
    · rw [if_neg h]
      exact H.disjoint b

/-- What a call left at the live keygen address `a`: the session, or nothing
once the call released it. -/
def Heap.setKeygen (H : Heap D S) (a : Nat) (ha : H.keygen a ≠ none)
    (s : Option (KeygenSessionHandle D)) : Heap D S where
  keygen b := if b = a then s else H.keygen b
  sign := H.sign
  next := H.next
  keygen_fresh b hb := by
    dsimp only at hb ⊢
    rw [if_neg (by have := H.lt_next_of_keygen ha; omega)]
    exact H.keygen_fresh b hb
  sign_fresh := H.sign_fresh
  disjoint b := by
    dsimp only
    by_cases h : b = a
    · subst h
      exact .inr ((H.disjoint b).resolve_left ha)
    · rw [if_neg h]
      exact H.disjoint b

/-- What a call left at the live sign address `a`. -/
def Heap.setSign (H : Heap D S) (a : Nat) (ha : H.sign a ≠ none)
    (s : Option (SignSessionHandle S)) : Heap D S where
  keygen := H.keygen
  sign b := if b = a then s else H.sign b
  next := H.next
  keygen_fresh := H.keygen_fresh
  sign_fresh b hb := by
    dsimp only at hb ⊢
    rw [if_neg (by have := H.lt_next_of_sign ha; omega)]
    exact H.sign_fresh b hb
  disjoint b := by
    dsimp only
    by_cases h : b = a
    · subst h
      exact .inl ((H.disjoint b).resolve_right ha)
    · rw [if_neg h]
      exact H.disjoint b

section Simp

variable {H : Heap D S} {a b : Nat}

@[simp] theorem Heap.allocKeygen_keygen (ha : H.sign a = none) (s : KeygenSessionHandle D) :
    (H.allocKeygen a ha s).keygen b = if b = a then some s else H.keygen b := rfl

@[simp] theorem Heap.allocKeygen_sign (ha : H.sign a = none) (s : KeygenSessionHandle D) :
    (H.allocKeygen a ha s).sign = H.sign := rfl

@[simp] theorem Heap.allocSign_keygen (ha : H.keygen a = none) (s : SignSessionHandle S) :
    (H.allocSign a ha s).keygen = H.keygen := rfl

@[simp] theorem Heap.allocSign_sign (ha : H.keygen a = none) (s : SignSessionHandle S) :
    (H.allocSign a ha s).sign b = if b = a then some s else H.sign b := rfl

@[simp] theorem Heap.setKeygen_keygen (ha : H.keygen a ≠ none)
    (s : Option (KeygenSessionHandle D)) :
    (H.setKeygen a ha s).keygen b = if b = a then s else H.keygen b := rfl

@[simp] theorem Heap.setKeygen_sign (ha : H.keygen a ≠ none)
    (s : Option (KeygenSessionHandle D)) : (H.setKeygen a ha s).sign = H.sign := rfl

@[simp] theorem Heap.setKeygen_next (ha : H.keygen a ≠ none)
    (s : Option (KeygenSessionHandle D)) : (H.setKeygen a ha s).next = H.next := rfl

@[simp] theorem Heap.setSign_keygen (ha : H.sign a ≠ none) (s : Option (SignSessionHandle S)) :
    (H.setSign a ha s).keygen = H.keygen := rfl

@[simp] theorem Heap.setSign_sign (ha : H.sign a ≠ none) (s : Option (SignSessionHandle S)) :
    (H.setSign a ha s).sign b = if b = a then s else H.sign b := rfl

@[simp] theorem Heap.setSign_next (ha : H.sign a ≠ none) (s : Option (SignSessionHandle S)) :
    (H.setSign a ha s).next = H.next := rfl

end Simp

/-- A call of the C API on sessions: a constructor, or an entry point on the
handle at an address, `none` being the null pointer. -/
inductive ApiCall (D : Dkg) (S : Dsg D.Keyshare) where
  | keygenInit (c : KeygenInit D)
  | keygen (handle : Option Nat) (c : KeygenCall)
  | signInit (c : SignInit D.Keyshare)
  | sign (handle : Option Nat) (c : SignCall)

/-- The session handle a call names, if any. -/
def ApiCall.handle : ApiCall D S → Option Nat
  | .keygen handle _ | .sign handle _ => handle
  | .keygenInit _ | .signInit _ => none

/-- What the host sees of a call: the handle a constructor returned, the
return value, and the error written through `err_out`. -/
structure ApiReply (K : Type) where
  handle : Option Nat
  ret : Ret K
  err : Option GoError

/-- One call of the C API on the table, with the allocator `m`. -/
def Heap.step (H : Heap D S) (m : Malloc D S) :
    ApiCall D S → Except Fault (Heap D S × ApiReply D.Keyshare)
  | .keygenInit c => do
      let r ← c.apply
      match r.session with
      | none => pure (H, ⟨none, r.ret, r.err⟩)
      | some s =>
          pure (H.allocKeygen (m.pick H) (m.pick_sign H) s, ⟨some (m.pick H), r.ret, r.err⟩)
  | .keygen none c => do
      let r ← c.apply (D := D) none
      pure (H, ⟨none, r.ret, r.err⟩)
  | .keygen (some a) c =>
      match h : H.keygen a with
      | none => .error .useAfterFree
      | some s => do
          let r ← c.apply (some s)
          pure (H.setKeygen a (by rw [h]; nofun) r.session, ⟨none, r.ret, r.err⟩)
  | .signInit c => do
      let r ← c.apply (S := S)
      match r.session with
      | none => pure (H, ⟨none, r.ret, r.err⟩)
      | some s =>
          pure (H.allocSign (m.pick H) (m.pick_keygen H) s, ⟨some (m.pick H), r.ret, r.err⟩)
  | .sign none c => do
      let r ← c.apply (S := S) none
      pure (H, ⟨none, r.ret, r.err⟩)
  | .sign (some a) c =>
      match h : H.sign a with
      | none => .error .useAfterFree
      | some s => do
          let r ← c.apply (some s)
          pure (H.setSign a (by rw [h]; nofun) r.session, ⟨none, r.ret, r.err⟩)

/-- A sequence of calls, stopping at the first fault. -/
def Heap.run (H : Heap D S) (m : Malloc D S) :
    List (ApiCall D S) → Except Fault (Heap D S × List (ApiReply D.Keyshare))
  | [] => pure (H, [])
  | c :: cs => do
      let (H', r) ← H.step m c
      let (H'', rs) ← H'.run m cs
      pure (H'', r :: rs)

section Step

variable {H H' : Heap D S} {m : Malloc D S} {r : ApiReply D.Keyshare} {a : Nat}

theorem Heap.run_cons_ok {c : ApiCall D S} {cs : List (ApiCall D S)}
    {rs : List (ApiReply D.Keyshare)} :
    H.run m (c :: cs) = .ok (H', rs) ↔
      ∃ H1 r1 rs1, H.step m c = .ok (H1, r1) ∧ H1.run m cs = .ok (H', rs1) ∧ rs = r1 :: rs1 := by
  simp only [Heap.run, except_bind_eq_ok, except_pure, Except.ok.injEq, Prod.mk.injEq,
    Prod.exists]
  constructor
  · rintro ⟨H1, r1, h1, H2, rs2, h2, rfl, rfl⟩
    exact ⟨H1, r1, rs2, h1, h2, rfl⟩
  · rintro ⟨H1, r1, rs1, h1, h2, rfl⟩
    exact ⟨H1, r1, h1, H', rs1, h2, rfl, rfl⟩

/-- A call on an address that holds no session of its kind dereferences a
dangling pointer. -/
theorem Heap.step_keygen_none {c : KeygenCall} (hs : H.keygen a = none) :
    H.step m (.keygen (some a) c) = .error .useAfterFree := by
  simp only [Heap.step]
  split
  · rfl
  · rename_i s' h
    rw [hs] at h
    cases h

theorem Heap.step_sign_none {c : SignCall} (hs : H.sign a = none) :
    H.step m (.sign (some a) c) = .error .useAfterFree := by
  simp only [Heap.step]
  split
  · rfl
  · rename_i s' h
    rw [hs] at h
    cases h

theorem Heap.step_keygen_some {c : KeygenCall} {s : KeygenSessionHandle D}
    (hs : H.keygen a = some s) :
    H.step m (.keygen (some a) c) = c.apply (some s) >>= fun rk =>
      pure (H.setKeygen a (by rw [hs]; nofun) rk.session, ⟨none, rk.ret, rk.err⟩) := by
  simp only [Heap.step]
  split
  · rename_i h
    rw [hs] at h
    cases h
  · rename_i s' h
    rw [hs] at h
    cases h
    rfl

theorem Heap.step_sign_some {c : SignCall} {s : SignSessionHandle S} (hs : H.sign a = some s) :
    H.step m (.sign (some a) c) = c.apply (some s) >>= fun rs =>
      pure (H.setSign a (by rw [hs]; nofun) rs.session, ⟨none, rs.ret, rs.err⟩) := by
  simp only [Heap.step]
  split
  · rename_i h
    rw [hs] at h
    cases h
  · rename_i s' h
    rw [hs] at h
    cases h
    rfl

/-- Writing back the session that is already there leaves the table as it was. -/
theorem Heap.setKeygen_self {s : KeygenSessionHandle D} (hs : H.keygen a = some s)
    (ha : H.keygen a ≠ none) : H.setKeygen a ha (some s) = H := by
  ext : 1
  · funext b
    by_cases hb : b = a
    · subst hb
      simp [hs]
    · simp [hb]
  · rfl
  · rfl

/-- Everything one call can do to the table: leave it when the call names no
handle (a null handle, or a constructor that built nothing), box a
constructor's new session at the address the allocator picks and return that
address, or write back what an entry point left at the live address it
names. -/
theorem Heap.step_cases {c : ApiCall D S} (h : H.step m c = .ok (H', r)) :
    (c.handle = none ∧ r.handle = none ∧ H' = H) ∨
      (∃ c0 r0 s, c = .keygenInit c0 ∧ c0.apply = .ok r0 ∧ r0.session = some s ∧
        r.handle = some (m.pick H) ∧ H' = H.allocKeygen (m.pick H) (m.pick_sign H) s) ∨
      (∃ c0 r0 s, c = .signInit c0 ∧ c0.apply = .ok r0 ∧ r0.session = some s ∧
        r.handle = some (m.pick H) ∧ H' = H.allocSign (m.pick H) (m.pick_keygen H) s) ∨
      (∃ b hb k s rk, c = .keygen (some b) k ∧ H.keygen b = some s ∧
        k.apply (some s) = .ok rk ∧ r.handle = none ∧ H' = H.setKeygen b hb rk.session) ∨
      (∃ b hb k s rk, c = .sign (some b) k ∧ H.sign b = some s ∧
        k.apply (some s) = .ok rk ∧ r.handle = none ∧ H' = H.setSign b hb rk.session) := by
  cases c with
  | keygenInit c =>
      obtain ⟨r0, hr0, h⟩ := except_bind_eq_ok.mp h
      split at h <;> cases h
      · exact .inl ⟨rfl, rfl, rfl⟩
      · rename_i s hs
        exact .inr (.inl ⟨c, r0, s, rfl, hr0, hs, rfl, rfl⟩)
  | signInit c =>
      obtain ⟨r0, hr0, h⟩ := except_bind_eq_ok.mp h
      split at h <;> cases h
      · exact .inl ⟨rfl, rfl, rfl⟩
      · rename_i s hs
        exact .inr (.inr (.inl ⟨c, r0, s, rfl, hr0, hs, rfl, rfl⟩))
  | keygen handle k =>
      cases handle with
      | none =>
          obtain ⟨rk, -, h⟩ := except_bind_eq_ok.mp h
          cases h
          exact .inl ⟨rfl, rfl, rfl⟩
      | some b =>
          cases hs : H.keygen b with
          | none => rw [Heap.step_keygen_none hs] at h; cases h
          | some s =>
              rw [Heap.step_keygen_some hs] at h
              obtain ⟨rk, hrk, h⟩ := except_bind_eq_ok.mp h
              cases h
              exact .inr (.inr (.inr (.inl ⟨b, _, k, s, rk, rfl, hs, hrk, rfl, rfl⟩)))
  | sign handle k =>
      cases handle with
      | none =>
          obtain ⟨rk, -, h⟩ := except_bind_eq_ok.mp h
          cases h
          exact .inl ⟨rfl, rfl, rfl⟩
      | some b =>
          cases hs : H.sign b with
          | none => rw [Heap.step_sign_none hs] at h; cases h
          | some s =>
              rw [Heap.step_sign_some hs] at h
              obtain ⟨rk, hrk, h⟩ := except_bind_eq_ok.mp h
              cases h
              exact .inr (.inr (.inr (.inr ⟨b, _, k, s, rk, rfl, hs, hrk, rfl, rfl⟩)))

/-- A call that does not name the live address `a` leaves what is there as it
was: the allocator never hands out a live address. -/
theorem Heap.step_frame {c : ApiCall D S} (hc : c.handle ≠ some a)
    (hlive : H.keygen a ≠ none ∨ H.sign a ≠ none) (h : H.step m c = .ok (H', r)) :
    H'.keygen a = H.keygen a ∧ H'.sign a = H.sign a := by
  have hpick : a ≠ m.pick H := by
    rintro rfl
    exact hlive.elim (· (m.pick_keygen H)) (· (m.pick_sign H))
  rcases Heap.step_cases h with
    ⟨-, -, rfl⟩ | ⟨-, -, s, -, -, -, -, rfl⟩ | ⟨-, -, s, -, -, -, -, rfl⟩ |
      ⟨b, hb, k, s, rk, rfl, -, -, -, rfl⟩ | ⟨b, hb, k, s, rk, rfl, -, -, -, rfl⟩
  · exact ⟨rfl, rfl⟩
  · simp [hpick]
  · simp [hpick]
  all_goals
    have hab : a ≠ b := by rintro rfl; exact hc rfl
    simp [hab]

end Step

/-- A run whose calls never name the live address `a` leaves what is there as
it was. -/
theorem Heap.run_frame (m : Malloc D S) {a : Nat} :
    ∀ (calls : List (ApiCall D S)) {H H' : Heap D S} {rs : List (ApiReply D.Keyshare)},
      (∀ c ∈ calls, c.handle ≠ some a) → (H.keygen a ≠ none ∨ H.sign a ≠ none) →
        H.run m calls = .ok (H', rs) → H'.keygen a = H.keygen a ∧ H'.sign a = H.sign a
  | [], _, _, _, _, _, h => by cases h; exact ⟨rfl, rfl⟩
  | c :: cs, H, H', rs, hcalls, hlive, h => by
      obtain ⟨H1, r1, rs1, h1, h2, -⟩ := Heap.run_cons_ok.mp h
      obtain ⟨hk1, hs1⟩ := Heap.step_frame (hcalls c (List.mem_cons_self c cs)) hlive h1
      obtain ⟨hk2, hs2⟩ :=
        Heap.run_frame m cs (fun c' hc' => hcalls c' (List.mem_cons_of_mem c hc'))
          (by rwa [hk1, hs1]) h2
      exact ⟨hk2.trans hk1, hs2.trans hs1⟩

/-- `dkls_keygen_keyshare` on a `Failed` session writes "failed" and returns
null without releasing the handle: the table is left exactly as it was. A host
that follows the ownership contract treats the call as consuming and never
names the handle again, and over every later run, whatever the allocator, the
session stays live: it is never freed. -/
theorem failed_keyshare_leaks (m : Malloc D S) (H : Heap D S) (a : Nat)
    (s : KeygenSessionHandle D) (hs : H.keygen a = some s) (hfailed : s.round = .failed)
    (errOut : Bool) :
    H.step m (.keygen (some a) (.keyshare errOut)) =
        .ok (H, ⟨none, .keyshare none, writeErr errOut ⟨"failed", 1⟩⟩) ∧
      ∀ calls H' rs, (∀ c ∈ calls, ApiCall.handle c ≠ some a) →
        H.run m calls = .ok (H', rs) → H'.keygen a = some s := by
  have hlive : H.keygen a ≠ none := by rw [hs]; nofun
  refine ⟨?_, fun calls H' rs hcalls h => ?_⟩
  · rw [Heap.step_keygen_some hs]
    simp only [KeygenCall.apply, dklsKeygenKeyshare, hfailed,
      KeygenSessionHandle.with_round_self hfailed]
    rw [reject_of_nul_free (by decide)]
    simp only [except_ok_bind, except_pure, Heap.setKeygen_self hs]
  · rw [(Heap.run_frame m calls hcalls (.inl hlive) h).1, hs]

theorem failed_keyshare_leaks_first :
    ((Heap.empty (D := unitDkg) (S := unitDsg)).allocKeygen 0 rfl ⟨(), 3, .failed⟩).keygen 0 =
        some ⟨(), 3, .failed⟩ ∧
      ((Heap.empty (D := unitDkg) (S := unitDsg)).allocKeygen 0 rfl ⟨(), 3, .failed⟩).step
          Malloc.bump (.keygen (some 0) (.keyshare true)) =
        .ok (((Heap.empty (D := unitDkg) (S := unitDsg)).allocKeygen 0 rfl ⟨(), 3, .failed⟩),
          ⟨none, .keyshare none, some ⟨"failed", 1⟩⟩) :=
  ⟨rfl, (failed_keyshare_leaks Malloc.bump _ 0 _ rfl rfl true).1⟩

/-- A call on a live handle releases it exactly when it is a free, a
`dkls_keygen_keyshare` on a session that is not `Failed`, or a
`dkls_sign_combine` with both outputs non-null, whatever its outcome. -/
theorem release_only_by_consuming_calls (m : Malloc D S) (H : Heap D S) (a : Nat) :
    (∀ s c H' r, H.keygen a = some s → H.step m (.keygen (some a) c) = .ok (H', r) →
      (H'.keygen a = none ↔ c = .free ∨ ∃ errOut, c = .keyshare errOut ∧ s.round ≠ .failed)) ∧
    (∀ s c H' r, H.sign a = some s → H.step m (.sign (some a) c) = .ok (H', r) →
      (H'.sign a = none ↔ c = .free ∨ ∃ msgs errOut, c = .combine msgs true true errOut)) := by
  constructor
  · intro s c H' r hs h
    rw [Heap.step_keygen_some hs] at h
    obtain ⟨rk, hrk, h⟩ := except_bind_eq_ok.mp h
    cases h
    simpa using c.apply_released hrk
  · intro s c H' r hs h
    rw [Heap.step_sign_some hs] at h
    obtain ⟨rk, hrk, h⟩ := except_bind_eq_ok.mp h
    cases h
    simpa using c.apply_released hrk

theorem release_only_by_consuming_calls_free :
    ∃ H' r, ((Heap.empty (D := unitDkg) (S := unitDsg)).allocSign 0 rfl
        (SignSessionHandle.new ())).step Malloc.bump (.sign (some 0) .free) = .ok (H', r) ∧
      (H'.sign 0 = none ↔ SignCall.free = .free ∨
        ∃ msgs errOut, SignCall.free = .combine msgs true true errOut) :=
  ⟨_, _, rfl, (release_only_by_consuming_calls Malloc.bump
    ((Heap.empty (D := unitDkg) (S := unitDsg)).allocSign 0 rfl (SignSessionHandle.new ()))
    0).2 _ _ _ _ rfl rfl⟩

end DklsFfi
