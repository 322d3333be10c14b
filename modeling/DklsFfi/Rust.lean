import Mathlib.Data.List.Range

/-!
The few pieces of Rust that the wrapper relies on, as total Lean functions.
A panic, the undefined behaviour of dereferencing a handle that was already
given back to `Box::from_raw`, and `slice::from_raw_parts` on a null pointer
are the outcomes of `Fault`: across an `extern "C"` boundary each one ends the
host process or leaves it undefined, so a call that returns `.error` has no
after-state at all.
-/

namespace DklsFfi

/-- How a call across the C boundary can end without returning. -/
inductive Fault where
  /-- A Rust panic with its message. Unwinding out of `extern "C"` aborts. -/
  | panic (msg : String)
  /-- A handle that is not live: released by an earlier call, or never
  allocated. Dereferencing it is undefined behaviour. -/
  | useAfterFree
  /-- `slice::from_raw_parts` on a null pointer. It requires a non-null
  pointer even for length 0, so this is undefined behaviour, and an abort
  where the standard library's debug checks run. -/
  | nullPointer
  deriving DecidableEq, Repr

section ExceptSimp

variable {ε α β : Type}

@[simp] theorem except_pure (a : α) : (pure a : Except ε α) = .ok a := rfl

@[simp] theorem except_ok_bind (a : α) (f : α → Except ε β) :
    (Except.ok a >>= f) = f a := rfl

@[simp] theorem except_error_bind (e : ε) (f : α → Except ε β) :
    (Except.error e >>= f) = .error e := rfl

@[simp] theorem except_map_ok (f : α → β) (a : α) :
    (f <$> (Except.ok a : Except ε α)) = .ok (f a) := rfl

@[simp] theorem except_map_error (f : α → β) (e : ε) :
    (f <$> (Except.error e : Except ε α)) = .error e := rfl

@[simp] theorem except_mapError_ok (f : ε → ε) (a : α) :
    (Except.ok a : Except ε α).mapError f = .ok a := rfl

@[simp] theorem except_mapError_error (f : ε → ε) (e : ε) :
    (Except.error e : Except ε α).mapError f = .error (f e) := rfl

@[simp] theorem except_toOption_eq_some {x : Except ε α} {a : α} :
    x.toOption = some a ↔ x = .ok a := by
  cases x <;> simp [Except.toOption]

@[simp] theorem except_bind_eq_ok {x : Except ε α} {f : α → Except ε β} {b : β} :
    (x >>= f) = .ok b ↔ ∃ a, x = .ok a ∧ f a = .ok b := by
  cases x <;> simp

theorem except_bind_eq_error {x : Except ε α} {f : α → Except ε β} {e : ε} :
    (x >>= f) = .error e ↔ x = .error e ∨ ∃ a, x = .ok a ∧ f a = .error e := by
  cases x <;> simp

end ExceptSimp

/-- `Option::expect`. -/
def expect {α : Type} (value : Option α) (msg : String) : Except Fault α :=
  match value with
  | some a => .ok a
  | none => .error (.panic msg)

/-- `Result::unwrap` after a conversion whose error carries no data. -/
def unwrap {α : Type} (value : Option α) : Except Fault α :=
  expect value "called `Result::unwrap()` on an `Err` value"

@[simp] theorem expect_some {α : Type} (a : α) (msg : String) :
    expect (some a) msg = .ok a := rfl

@[simp] theorem unwrap_some {α : Type} (a : α) : unwrap (some a) = .ok a := rfl

/-- `std::slice::from_raw_parts(ptr, len)` on a buffer the host passes,
`none` being the null pointer and `some xs` the `len` elements it points to.
The validity of a non-null buffer is the caller's obligation. -/
def fromRawParts {α : Type} (ptr : Option (List α)) : Except Fault (List α) :=
  match ptr with
  | none => .error .nullPointer
  | some xs => .ok xs

@[simp] theorem fromRawParts_some {α : Type} (xs : List α) : fromRawParts (some xs) = .ok xs :=
  rfl

@[simp] theorem fromRawParts_none {α : Type} :
    fromRawParts (none : Option (List α)) = .error .nullPointer := rfl

theorem fromRawParts_eq_ok {α : Type} {ptr : Option (List α)} {xs : List α} :
    fromRawParts ptr = .ok xs ↔ ptr = some xs := by
  cases ptr <;> simp [fromRawParts]

/-- A pointer and a length as the host passes them to an entry point that
checks the length before it reads the pointer: the length, and the elements
unless the pointer is null. -/
structure CSlice (α : Type) where
  len : Nat
  ptr : Option (List α)
  ptr_len : ∀ xs ∈ ptr, xs.length = len

/-- A non-null buffer holding `xs`. -/
def CSlice.ofList {α : Type} (xs : List α) : CSlice α :=
  ⟨xs.length, some xs, fun _ h => by cases h; rfl⟩

/-- A `[u8; n]`: a byte string whose length is part of its type. -/
structure Bytes (n : Nat) where
  toList : List UInt8
  length_eq : toList.length = n
  deriving DecidableEq

/-- `<[u8; n]>::try_from(&[u8])`, which succeeds exactly on slices of
length `n`. -/
def Bytes.tryFrom (n : Nat) (xs : List UInt8) : Option (Bytes n) :=
  if h : xs.length = n then some ⟨xs, h⟩ else none

theorem Bytes.tryFrom_of_length {n : Nat} {xs : List UInt8} (h : xs.length = n) :
    Bytes.tryFrom n xs = some ⟨xs, h⟩ := dif_pos h

theorem Bytes.tryFrom_eq_none {n : Nat} {xs : List UInt8} (h : xs.length ≠ n) :
    Bytes.tryFrom n xs = none := dif_neg h

theorem Bytes.toList_of_tryFrom {n : Nat} {xs : List UInt8} {b : Bytes n}
    (h : Bytes.tryFrom n xs = some b) : b.toList = xs := by
  unfold Bytes.tryFrom at h
  split at h
  · cases h; rfl
  · cases h

/-- `<[T]>::chunks_exact(size)`, collected. The iterator splits off `size`
elements while at least `size` remain, and drops the remainder. The
constructor's `assert!(size != 0)` is left out: the wrapper passes `32`. -/
def chunksExact {α : Type} (size : Nat) (xs : List α) : List (List α) :=
  if 0 < size ∧ size ≤ xs.length then
    xs.take size :: chunksExact size (xs.drop size)
  else []
termination_by xs.length
decreasing_by simp_wf; omega

/-- The `i`-th chunk is the slice `size * i .. size * i + size`, for every
`i` below the number of whole chunks, in order, and nothing else. -/
theorem chunksExact_eq_map_range {α : Type} {size : Nat} (hs : 0 < size)
    (xs : List α) :
    chunksExact size xs =
      (List.range (xs.length / size)).map fun i => (xs.drop (size * i)).take size := by
  induction xs using chunksExact.induct size with
  | case1 xs hle ih =>
      have hcount : xs.length / size = (xs.drop size).length / size + 1 := by
        rw [List.length_drop, Nat.div_eq_sub_div hs hle.2]
      rw [chunksExact, if_pos hle, ih, hcount, List.range_succ_eq_map]
      simp [List.drop_drop, Nat.mul_succ, Nat.add_comm]
  | case2 xs hn =>
      have hcount : xs.length / size = 0 := (Nat.div_eq_zero_iff hs).2 (by omega)
      rw [chunksExact, if_neg hn, hcount, List.range_zero, List.map_nil]

/-- Mapping a fallible conversion that succeeds on every element succeeds,
with the converted elements in order. -/
theorem mapM_eq_ok {α β ε : Type} (f : α → Except ε β) (g : α → β) :
    ∀ xs : List α, (∀ x ∈ xs, f x = .ok (g x)) → xs.mapM f = .ok (xs.map g)
  | [], _ => rfl
  | x :: xs, h => by
      have hx := h x (List.mem_cons_self x xs)
      have hxs := mapM_eq_ok f g xs fun y hy => h y (List.mem_cons_of_mem x hy)
      simp only [List.mapM_cons, hx, hxs, List.map_cons]
      rfl

/-- Collecting into a `Result` stops at the first error: if one element
fails, the whole batch fails. -/
theorem mapM_error_of_mem {α β ε : Type} (f : α → Except ε β) :
    ∀ xs : List α, (∃ x ∈ xs, ∃ e, f x = .error e) → ∃ e, xs.mapM f = .error e
  | [], ⟨_, hx, _⟩ => absurd hx (List.not_mem_nil _)
  | x :: xs, ⟨y, hy, e, he⟩ => by
      rw [List.mapM_cons]
      cases hfx : f x with
      | error e' => exact ⟨e', rfl⟩
      | ok b =>
          rcases List.mem_cons.mp hy with rfl | hy
          · rw [he] at hfx; cases hfx
          · obtain ⟨e', he'⟩ := mapM_error_of_mem f xs ⟨y, hy, e, he⟩
            exact ⟨e', by simp only [he']; rfl⟩

/-- The error of a collected `Result` is the error of one of its elements. -/
theorem mapM_eq_error {α β ε : Type} {f : α → Except ε β} :
    ∀ {xs : List α} {e : ε}, xs.mapM f = .error e → ∃ x ∈ xs, f x = .error e
  | [], _, h => by cases h
  | x :: xs, e, h => by
      rw [List.mapM_cons] at h
      rcases except_bind_eq_error.mp h with hx | ⟨b, -, h⟩
      · exact ⟨x, List.mem_cons_self x xs, hx⟩
      rcases except_bind_eq_error.mp h with hxs | ⟨bs, -, h⟩
      · obtain ⟨y, hy, hfy⟩ := mapM_eq_error hxs
        exact ⟨y, List.mem_cons_of_mem x hy, hfy⟩
      · cases h

end DklsFfi
