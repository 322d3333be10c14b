import DklsFfi.Engine

/-!
The boundary plumbing of `lib.rs`, `errors.rs` and `utils.rs`: the seeded
random source, the error value handed to the host and the translation of
engine errors into it. The two panics of this file, an `expect` on the seed
length and an `unwrap` of `CString::new`, are kept as `Fault.panic`.
-/

namespace DklsFfi

/-- The NUL character, which a C string cannot hold. -/
def nul : Char := Char.ofNat 0

/-- The shared seed block of every entry point that takes one:
`if seed.is_null() || seed_len == 0 { None } else { Some(slice) }`. The buffer
is `none` for a null pointer and otherwise its `seed_len` bytes. -/
def seedSlice (seed : Option (List UInt8)) : Option (List UInt8) :=
  match seed with
  | none => none
  | some bytes => if bytes.length = 0 then none else some bytes

/-- `maybe_seeded_rng`. Without a seed the generator is keyed by
`thread_rng`, whose output is the `entropy` argument; a seed of any length
other than 32 reaches the `expect`. -/
def maybeSeededRng (seed : Option (List UInt8)) (entropy : Bytes 32) :
    Except Fault ChaCha20Rng := do
  let seed ← match seed with
    | none => pure entropy
    | some seed => expect (Bytes.tryFrom 32 seed) "invalid seed size"
  pure ⟨seed⟩

/-- The seed buffers that `maybe_seeded_rng` accepts after `seedSlice`. -/
def seedValid (seed : Option (List UInt8)) : Bool :=
  match seedSlice seed with
  | none => true
  | some bytes => bytes.length == 32

theorem maybeSeededRng_of_seedValid {seed : Option (List UInt8)}
    (h : seedValid seed = true) (entropy : Bytes 32) :
    ∃ rng, maybeSeededRng (seedSlice seed) entropy = .ok rng := by
  unfold seedValid at h
  cases hs : seedSlice seed with
  | none => exact ⟨⟨entropy⟩, rfl⟩
  | some bytes =>
      rw [hs, beq_iff_eq] at h
      exact ⟨⟨⟨bytes, h⟩⟩, by simp [maybeSeededRng, Bytes.tryFrom_of_length h]⟩

theorem maybeSeededRng_of_not_seedValid {seed : Option (List UInt8)}
    (h : seedValid seed = false) (entropy : Bytes 32) :
    maybeSeededRng (seedSlice seed) entropy = .error (.panic "invalid seed size") := by
  unfold seedValid at h
  cases hs : seedSlice seed with
  | none => rw [hs] at h; cases h
  | some bytes =>
      rw [hs, beq_eq_false_iff_ne] at h
      simp [maybeSeededRng, Bytes.tryFrom_eq_none h, expect]

/-- The only way `maybe_seeded_rng` fails is the seed-length panic. -/
theorem maybeSeededRng_error {seed : Option (List UInt8)} {entropy : Bytes 32}
    {fault : Fault} (h : maybeSeededRng (seedSlice seed) entropy = .error fault) :
    seedValid seed = false ∧ fault = .panic "invalid seed size" := by
  cases hv : seedValid seed
  · rw [maybeSeededRng_of_not_seedValid hv] at h
    cases h
    exact ⟨rfl, rfl⟩
  · obtain ⟨rng, hrng⟩ := maybeSeededRng_of_seedValid hv entropy
    rw [hrng] at h
    cases h

/-- What a call returns that turns the seed into a generator before anything
else, when nothing after that reads the generator: `x`, or the seed-length
panic. -/
def afterSeed {α : Type} (seed : Option (List UInt8)) (x : Except Fault α) :
    Except Fault α :=
  if seedValid seed then x else .error (.panic "invalid seed size")

theorem maybeSeededRng_bind_const {α : Type} (seed : Option (List UInt8))
    (entropy : Bytes 32) {f : ChaCha20Rng → Except Fault α} {x : Except Fault α}
    (hf : ∀ rng, f rng = x) :
    (maybeSeededRng (seedSlice seed) entropy >>= f) = afterSeed seed x := by
  cases hv : seedValid seed
  · simp [afterSeed, hv, maybeSeededRng_of_not_seedValid hv]
  · obtain ⟨rng, hrng⟩ := maybeSeededRng_of_seedValid hv entropy
    simp [afterSeed, hv, hrng, hf]

/-- `GoError`, the error value written through `err_out`. -/
structure GoError where
  message : String
  code : Int
  deriving DecidableEq, Repr

/-- `GoError::new`. `CString::new(msg).unwrap()` panics when the text holds
a NUL character. -/
def GoError.new (msg : String) (code : Int) : Except Fault GoError :=
  if nul ∈ msg.data then .error (.panic "called `Result::unwrap()` on an `Err` value")
  else .ok ⟨msg, code⟩

theorem GoError.new_of_nul_free {msg : String} (h : nul ∉ msg.data) (code : Int) :
    GoError.new msg code = .ok ⟨msg, code⟩ := if_neg h

theorem GoError.new_code {msg : String} {code : Int} {err : GoError}
    (h : GoError.new msg code = .ok err) : err.code = code := by
  unfold GoError.new at h
  split at h
  · cases h
  · cases h; rfl

/-- The error-reporting block repeated at every early return:
`if !err_out.is_null() { *err_out = Box::into_raw(Box::new(make)) }`.
The error is only built when there is somewhere to write it. -/
def reportWith (errOut : Bool) (make : Except Fault GoError) :
    Except Fault (Option GoError) :=
  if errOut then some <$> make else pure none

/-- `reportWith` on `GoError::new(msg, code)`. -/
def reportError (errOut : Bool) (msg : String) (code : Int) :
    Except Fault (Option GoError) :=
  reportWith errOut (GoError.new msg code)

/-- Writing an error value that was already built. -/
def writeErr (errOut : Bool) (err : GoError) : Option GoError :=
  if errOut then some err else none

theorem reportError_of_nul_free {msg : String} (h : nul ∉ msg.data)
    (errOut : Bool) (code : Int) :
    reportError errOut msg code = .ok (writeErr errOut ⟨msg, code⟩) := by
  cases errOut <;> simp [reportError, reportWith, writeErr, GoError.new_of_nul_free h]

/-- What `reportWith` writes is the error it was given. -/
theorem reportWith_some {errOut : Bool} {make : Except Fault GoError}
    {err : GoError} (h : reportWith errOut make = .ok (some err)) :
    make = .ok err := by
  cases errOut
  · cases h
  · cases hm : make with
    | error f => rw [reportWith, if_pos rfl, hm] at h; cases h
    | ok e => rw [reportWith, if_pos rfl, hm] at h; cases h; rfl

/-- An error is written exactly when `err_out` is not null. -/
theorem reportWith_isSome {errOut : Bool} {make : Except Fault GoError}
    {err : Option GoError} (h : reportWith errOut make = .ok err) : err.isSome = errOut := by
  cases errOut
  · cases h
    rfl
  · cases hm : make with
    | error f => rw [reportWith, if_pos rfl, hm] at h; cases h
    | ok e => rw [reportWith, if_pos rfl, hm] at h; cases h; rfl

theorem reportError_code {errOut : Bool} {msg : String} {code : Int}
    {err : GoError} (h : reportError errOut msg code = .ok (some err)) :
    err.code = code :=
  GoError.new_code (reportWith_some h)

/-- `keygen_error_to_go`: every DKG error is reported with code 1. -/
def keygenErrorToGo (D : Dkg) (err : D.KeygenError) : Except Fault GoError :=
  GoError.new (D.keygenErrorText err) 1

/-- `sign_error_to_go`: code 2 for `AbortProtocolAndBanParty`, 1 otherwise. -/
def signErrorToGo {K : Type} (S : Dsg K) (err : S.SignError) : Except Fault GoError :=
  GoError.new (S.signErrorText err) (if S.isAbortProtocolAndBanParty err then 2 else 1)

theorem keygenErrorToGo_code {D : Dkg} {err : D.KeygenError} {go : GoError}
    (h : keygenErrorToGo D err = .ok go) : go.code = 1 :=
  GoError.new_code h

theorem signErrorToGo_code {K : Type} {S : Dsg K} {err : S.SignError} {go : GoError}
    (h : signErrorToGo S err = .ok go) :
    go.code = if S.isAbortProtocolAndBanParty err then 2 else 1 :=
  GoError.new_code h

/-- `c_str_to_string`: a null pointer, or the UTF-8 decoding of the bytes. -/
def cStrToString {K : Type} (S : Dsg K) (cStr : Option (List UInt8)) :
    Except String String :=
  match cStr with
  | none => .error "null pointer"
  | some bytes => (S.cStrToStr bytes).mapError ("invalid UTF-8: " ++ ·)

end DklsFfi
