import DklsFfi.Session.Handles
import DklsFfi.Keygen.Protocol
import DklsFfi.Sign.Protocol

/-!
The handle table and the session protocols, connected. A table reached from
the empty one by any sequence of C API calls holds, at every live address, a
session that the session-level reachability relations cover: one a
constructor built, then advanced by the calls made on that address. The
ordering theorems stated over `KeygenReach` and `SignReach` therefore hold of
every session a host holds.

The table is also the product of its handles: the session at an address is
what its constructor returned, run through the calls that name the address,
in order (`KeygenCall.runOn`, `SignCall.runOn`). Calls on other handles, in
any interleaving, never touch it.
-/

namespace DklsFfi

open Keygen Sign

variable {D : Dkg} {S : Dsg D.Keyshare}

/-- The calls a host makes on one keygen handle, in order, from what the
handle points to: each runs its entry point on the session there, and a call
after the handle was released dereferences a dangling pointer. -/
def Keygen.KeygenCall.runOn : Option (KeygenSessionHandle D) → List KeygenCall →
    Except Fault (Option (KeygenSessionHandle D))
  | s, [] => pure s
  | none, _ :: _ => .error .useAfterFree
  | some s, c :: cs => do
      let r ← c.apply (some s)
      runOn r.session cs

/-- The calls a host makes on one sign handle, in order. -/
def Sign.SignCall.runOn : Option (SignSessionHandle S) → List SignCall →
    Except Fault (Option (SignSessionHandle S))
  | s, [] => pure s
  | none, _ :: _ => .error .useAfterFree
  | some s, c :: cs => do
      let r ← c.apply (some s)
      runOn r.session cs

/-- The keygen entry point a call runs on the handle at address `a`, if it
names that handle. -/
def ApiCall.keygenAt (a : Nat) : ApiCall D S → Option KeygenCall
  | .keygen handle c => if handle = some a then some c else none
  | _ => none

/-- The sign entry point a call runs on the handle at address `a`, if it
names that handle. -/
def ApiCall.signAt (a : Nat) : ApiCall D S → Option SignCall
  | .sign handle c => if handle = some a then some c else none
  | _ => none

theorem ApiCall.keygenAt_of_handle {c : ApiCall D S} {a : Nat} (hc : c.handle = none) :
    c.keygenAt a = none := by
  cases c <;> simp_all [ApiCall.handle, ApiCall.keygenAt]

theorem ApiCall.signAt_of_handle {c : ApiCall D S} {a : Nat} (hc : c.handle = none) :
    c.signAt a = none := by
  cases c <;> simp_all [ApiCall.handle, ApiCall.signAt]

@[simp] theorem Keygen.KeygenCall.runOn_nil (s : Option (KeygenSessionHandle D)) :
    KeygenCall.runOn s [] = .ok s := by
  cases s <;> rfl

@[simp] theorem Sign.SignCall.runOn_nil (s : Option (SignSessionHandle S)) :
    SignCall.runOn s [] = .ok s := by
  cases s <;> rfl

theorem Keygen.KeygenCall.runOn_cons_of_apply (c : KeygenCall) {cs : List KeygenCall}
    {s : KeygenSessionHandle D} {r : KeygenReply D} (h : c.apply (some s) = .ok r) :
    KeygenCall.runOn (some s) (c :: cs) = KeygenCall.runOn r.session cs := by
  simp [KeygenCall.runOn, h]

theorem Sign.SignCall.runOn_cons_of_apply (c : SignCall) {cs : List SignCall}
    {s : SignSessionHandle S} {r : SignReply S} (h : c.apply (some s) = .ok r) :
    SignCall.runOn (some s) (c :: cs) = SignCall.runOn r.session cs := by
  simp [SignCall.runOn, h]

theorem Keygen.KeygenCall.runOn_none {cs : List KeygenCall} {s : Option (KeygenSessionHandle D)}
    (h : KeygenCall.runOn none cs = .ok s) : s = none := by
  cases cs with
  | nil => cases h; rfl
  | cons c cs => cases h

theorem Sign.SignCall.runOn_none {cs : List SignCall} {s : Option (SignSessionHandle S)}
    (h : SignCall.runOn none cs = .ok s) : s = none := by
  cases cs with
  | nil => cases h; rfl
  | cons c cs => cases h

section Step

variable {H H' : Heap D S} {m : Malloc D S} {c : ApiCall D S} {r : ApiReply D.Keyshare}

/-- Everything one call can do at a keygen address: leave it as it was when
the call does not name it, run the entry point on the session there when it
does, or box a constructor's new session there when the allocator picks it. -/
theorem Heap.step_keygen_at (a : Nat) (h : H.step m c = .ok (H', r)) :
    (c.keygenAt a = none ∧ H'.keygen a = H.keygen a) ∨
      (∃ k s rk, c.keygenAt a = some k ∧ H.keygen a = some s ∧ k.apply (some s) = .ok rk ∧
        H'.keygen a = rk.session) ∨
      (∃ c0 r0 s0, c = .keygenInit c0 ∧ c0.apply = .ok r0 ∧ r0.session = some s0 ∧
        a = m.pick H ∧ H'.keygen a = some s0) := by
  rcases Heap.step_cases h with
    ⟨hc, -, rfl⟩ | ⟨c0, r0, s0, rfl, hr0, hs0, -, rfl⟩ | ⟨-, -, -, rfl, -, -, -, rfl⟩ |
      ⟨b, hb, k, s, rk, rfl, hs, hrk, -, rfl⟩ | ⟨-, -, -, -, -, rfl, -, -, -, rfl⟩
  · exact .inl ⟨ApiCall.keygenAt_of_handle hc, rfl⟩
  · by_cases ha : a = m.pick H
    · exact .inr (.inr ⟨c0, r0, s0, rfl, hr0, hs0, ha, by simp [ha]⟩)
    · exact .inl ⟨rfl, by simp [ha]⟩
  · exact .inl ⟨rfl, rfl⟩
  · by_cases hab : b = a
    · subst hab
      exact .inr (.inl ⟨k, s, rk, by simp [ApiCall.keygenAt], hs, hrk, by simp⟩)
    · exact .inl ⟨by simp [ApiCall.keygenAt, hab], by simp [Ne.symm hab]⟩
  · exact .inl ⟨rfl, rfl⟩

/-- Everything one call can do at a sign address. -/
theorem Heap.step_sign_at (a : Nat) (h : H.step m c = .ok (H', r)) :
    (c.signAt a = none ∧ H'.sign a = H.sign a) ∨
      (∃ k s rk, c.signAt a = some k ∧ H.sign a = some s ∧ k.apply (some s) = .ok rk ∧
        H'.sign a = rk.session) ∨
      (∃ c0 r0 s0, c = .signInit c0 ∧ c0.apply = .ok r0 ∧ r0.session = some s0 ∧
        a = m.pick H ∧ H'.sign a = some s0) := by
  rcases Heap.step_cases h with
    ⟨hc, -, rfl⟩ | ⟨-, -, -, rfl, -, -, -, rfl⟩ | ⟨c0, r0, s0, rfl, hr0, hs0, -, rfl⟩ |
      ⟨-, -, -, -, -, rfl, -, -, -, rfl⟩ | ⟨b, hb, k, s, rk, rfl, hs, hrk, -, rfl⟩
  · exact .inl ⟨ApiCall.signAt_of_handle hc, rfl⟩
  · exact .inl ⟨rfl, rfl⟩
  · by_cases ha : a = m.pick H
    · exact .inr (.inr ⟨c0, r0, s0, rfl, hr0, hs0, ha, by simp [ha]⟩)
    · exact .inl ⟨rfl, by simp [ha]⟩
  · exact .inl ⟨rfl, rfl⟩
  · by_cases hab : b = a
    · subst hab
      exact .inr (.inl ⟨k, s, rk, by simp [ApiCall.signAt], hs, hrk, by simp⟩)
    · exact .inl ⟨by simp [ApiCall.signAt, hab], by simp [Ne.symm hab]⟩

end Step

/-- Every live session of the table is reachable at the session level. -/
def Heap.SessionsReachable (H : Heap D S) : Prop :=
  (∀ a s, H.keygen a = some s → ∃ tr, KeygenReach (some s) tr) ∧
    (∀ a s, H.sign a = some s → ∃ tr, SignReach (some s) tr)

theorem Heap.empty_sessionsReachable : (Heap.empty : Heap D S).SessionsReachable :=
  ⟨fun _ _ h => (nomatch h), fun _ _ h => (nomatch h)⟩

/-- One call keeps every live session reachable: a constructor's session is
a base of the relation, and a call on a live address takes its session one
step further. -/
theorem Heap.step_sessionsReachable {H H' : Heap D S} {m : Malloc D S} {c : ApiCall D S}
    {r : ApiReply D.Keyshare} (hH : H.SessionsReachable) (h : H.step m c = .ok (H', r)) :
    H'.SessionsReachable := by
  refine ⟨fun a s' h' => ?_, fun a s' h' => ?_⟩
  · rcases Heap.step_keygen_at a h with
      ⟨-, hat⟩ | ⟨k, s, rk, -, hs, hrk, hat⟩ | ⟨c0, r0, s0, -, hr0, hs0, -, hat⟩
    · exact hH.1 a s' (hat ▸ h')
    · obtain ⟨tr, htr⟩ := hH.1 a s hs
      exact ⟨_, (hat.symm.trans h') ▸ KeygenReach.step k htr hrk⟩
    · obtain ⟨state, n, rfl⟩ := KeygenInit.apply_new hr0 hs0
      cases hat.symm.trans h'
      exact ⟨[], .new state n⟩
  · rcases Heap.step_sign_at a h with
      ⟨-, hat⟩ | ⟨k, s, rk, -, hs, hrk, hat⟩ | ⟨c0, r0, s0, -, hr0, hs0, -, hat⟩
    · exact hH.2 a s' (hat ▸ h')
    · obtain ⟨tr, htr⟩ := hH.2 a s hs
      exact ⟨_, (hat.symm.trans h') ▸ SignReach.step k htr hrk⟩
    · obtain ⟨state, rfl⟩ := SignInit.apply_new hr0 hs0
      cases hat.symm.trans h'
      exact ⟨[], .new state⟩

theorem Heap.run_sessionsReachable (m : Malloc D S) :
    ∀ (calls : List (ApiCall D S)) {H H' : Heap D S} {rs : List (ApiReply D.Keyshare)},
      H.SessionsReachable → H.run m calls = .ok (H', rs) → H'.SessionsReachable
  | [], _, _, _, hH, h => by cases h; exact hH
  | c :: cs, _, _, _, hH, h => by
      obtain ⟨H1, r1, rs1, h1, h2, -⟩ := Heap.run_cons_ok.mp h
      exact Heap.run_sessionsReachable m cs (Heap.step_sessionsReachable hH h1) h2

/-- Every session a host holds, after any sequence of calls of the C API
from the empty table and whatever the allocator, was built by a constructor
and advanced by the calls on its address: the session-level theorems over
`KeygenReach` and `SignReach` cover it. -/
theorem live_sessions_are_reachable (m : Malloc D S) (calls : List (ApiCall D S))
    (H : Heap D S) (rs : List (ApiReply D.Keyshare)) (h : Heap.empty.run m calls = .ok (H, rs)) :
    (∀ a s, H.keygen a = some s → ∃ tr, KeygenReach (some s) tr) ∧
      (∀ a s, H.sign a = some s → ∃ tr, SignReach (some s) tr) :=
  Heap.run_sessionsReachable m calls Heap.empty_sessionsReachable h

theorem live_sessions_are_reachable_first_message :
    ∃ tr, KeygenReach (some (⟨(), 2, .waitMsg1⟩ : KeygenSessionHandle unitDkg)) tr :=
  (live_sessions_are_reachable (D := unitDkg) (S := unitDsg) Malloc.bump
    [.keygenInit (.new 2 2 0 none ⟨List.replicate 32 0, rfl⟩),
      .keygen (some 0) (.createFirstMessage true)] _ _ rfl).1 0 _ rfl

end DklsFfi
