import DklsFfi.Keygen.Commitments
import DklsFfi.Session.Handles
import DklsFfi.Keyshare

/-!
Which calls can end in a fault. The wrapper's own panics are the seed-length
`expect` of `maybe_seeded_rng`, the three `unwrap`s on slices it has already
measured (the round-3 commitment chunks, the message digest, the recovered
public key) and `CString::new(..).unwrap()` in `GoError::new`. The others come
from its collaborators: `Message::new` expects the encoder to succeed, and an
error text carrying a NUL makes `GoError::new` panic.

Over collaborators that do neither, every entry point returns whenever its
seed buffer is accepted and the buffers it reads without a null check are not
null; the measured `unwrap`s are unreachable. Over the handle table the one
fault left is then a use-after-free, raised exactly by the first call that
names a handle holding no session of its kind. A null buffer where the code
calls `slice::from_raw_parts` unchecked is a fault in every round that reads
it.
-/

namespace DklsFfi

/-- A codec that drives `message.rs` into no panic: its encoder never fails,
and no decode error holds a NUL. -/
structure WireType.Benign (W : WireType) : Prop where
  encode_ok : ∀ x, ∃ bytes, W.encode x = .ok bytes
  decode_nul_free : ∀ bytes e, W.decode bytes = .error e → nul ∉ e.data

/-- A DKG whose four message codecs are benign and whose error texts hold no
NUL. -/
structure Dkg.Benign (D : Dkg) : Prop where
  msg1 : D.msg1.Benign
  msg2 : D.msg2.Benign
  msg3 : D.msg3.Benign
  msg4 : D.msg4.Benign
  error_nul_free : ∀ e, nul ∉ (D.keygenErrorText e).data

/-- A DSG whose four message codecs are benign and whose error texts, and
UTF-8 errors, hold no NUL. -/
structure Dsg.Benign {K : Type} (S : Dsg K) : Prop where
  msg1 : S.msg1.Benign
  msg2 : S.msg2.Benign
  msg3 : S.msg3.Benign
  msg4 : S.msg4.Benign
  error_nul_free : ∀ e, nul ∉ (S.signErrorText e).data
  utf8_nul_free : ∀ bytes e, S.cStrToStr bytes = .error e → nul ∉ e.data

theorem unitWire_benign : unitWire.Benign where
  encode_ok _ := ⟨[], rfl⟩
  decode_nul_free bytes e h := by
    by_cases hb : bytes = []
    · simp [unitWire, hb] at h
    · simp only [unitWire, if_neg hb, Except.error.injEq] at h
      subst h
      decide

theorem unitDkg_benign : unitDkg.Benign :=
  ⟨unitWire_benign, unitWire_benign, unitWire_benign, unitWire_benign,
    fun _ => (by decide : nul ∉ "keygen error".data)⟩

theorem unitDsg_benign : unitDsg.Benign :=
  ⟨unitWire_benign, unitWire_benign, unitWire_benign, unitWire_benign,
    fun _ => (by decide : nul ∉ "sign error".data), fun _ _ h => by cases h⟩

/-- The seed buffer a call hands to `maybe_seeded_rng`; `none`, which it
accepts, for a call that takes no seed. -/
def Keygen.KeygenInit.seed {D : Dkg} : KeygenInit D → Option (List UInt8)
  | .new _ _ _ seed _ | .keyRotation _ seed _ _ | .keyRecovery _ _ seed _ _
  | .lostShareRecovery _ _ _ _ _ seed _ _ => seed
  | .fromBytes _ => none

/-- The seed buffer of a keygen call. -/
def Keygen.KeygenCall.seed : KeygenCall → Option (List UInt8)
  | .handleMessages _ _ seed _ _ _ => seed
  | _ => none

/-- The seed buffer of a sign constructor. -/
def Sign.SignInit.seed {K : Type} : SignInit K → Option (List UInt8)
  | .new _ _ seed _ _ => seed
  | .fromBytes _ => none

/-- The seed buffer of a sign call. -/
def Sign.SignCall.seed : SignCall → Option (List UInt8)
  | .handleMessages _ seed _ _ _ => seed
  | _ => none

/-- Whether every buffer a keygen constructor hands to `slice::from_raw_parts`
without a null check is non-null. -/
def Keygen.KeygenInit.nonNull {D : Dkg} : KeygenInit D → Bool
  | .keyRecovery _ lostShares _ _ _ => lostShares.isSome
  | .lostShareRecovery _ _ _ pk lostShares _ _ _ => pk.ptr.isSome && lostShares.isSome
  | _ => true

/-- Whether the batch a keygen call reads unchecked is non-null. -/
def Keygen.KeygenCall.nonNull : KeygenCall → Bool
  | .handleMessages msgs _ _ _ _ _ => msgs.isSome
  | _ => true

/-- Whether the batch or digest a sign call reads unchecked is non-null. -/
def Sign.SignCall.nonNull : SignCall → Bool
  | .handleMessages msgs _ _ _ _ | .combine msgs _ _ _ => msgs.isSome
  | .lastMessage messageHash _ => messageHash.ptr.isSome
  | _ => true

section Boundary

/-- A bind returns when its first computation does and every continuation
does. -/
theorem bind_ok {ε α β : Type} {x : Except ε α} {f : α → Except ε β}
    (hx : ∃ a, x = .ok a) (hf : ∀ a, ∃ r, f a = .ok r) : ∃ r, (x >>= f) = .ok r := by
  obtain ⟨a, rfl⟩ := hx
  exact hf a

theorem nul_not_mem_append {s t : String} (hs : nul ∉ s.data) (ht : nul ∉ t.data) :
    nul ∉ (s ++ t).data :=
  fun h => (List.mem_append.mp h).elim hs ht

variable {W : WireType}

theorem Message.new_ok (hW : W.Benign) (routing : MessageRouting W.T) (x : W.T) :
    ∃ msg, Message.new W routing x = .ok msg := by
  obtain ⟨bytes, hb⟩ := hW.encode_ok x
  exact ⟨_, Message.new_eq_ok.mpr ⟨bytes, hb, rfl⟩⟩

theorem Message.encodeVector_ok (hW : W.Benign) (routing : MessageRouting W.T)
    (xs : List W.T) : ∃ msgs, Message.encodeVector W routing xs = .ok msgs := by
  cases h : Message.encodeVector W routing xs with
  | ok msgs => exact ⟨msgs, rfl⟩
  | error f =>
      obtain ⟨x, -, hx⟩ := mapM_eq_error h
      obtain ⟨msg, hmsg⟩ := Message.new_ok hW routing x
      rw [hmsg] at hx
      cases hx

/-- What `decode_vector` reports, `"CBOR decode error: "` and the codec's
text, holds no NUL. -/
theorem Message.decodeVector_nul_free (hW : W.Benign) {msgs : List Message} {e : String}
    (h : Message.decodeVector W msgs = .error e) : nul ∉ e.data := by
  obtain ⟨msg, -, hmsg⟩ := mapM_eq_error h
  cases hd : W.decode msg.payload with
  | ok v => simp [Message.decode, hd] at hmsg
  | error e' =>
      simp only [Message.decode, hd, except_mapError_error, Except.error.injEq] at hmsg
      subst hmsg
      exact nul_not_mem_append (by decide) (hW.decode_nul_free _ _ hd)

theorem GoError.new_ok {msg : String} (h : nul ∉ msg.data) (code : Int) :
    ∃ err, GoError.new msg code = .ok err :=
  ⟨_, GoError.new_of_nul_free h code⟩

variable {S E K : Type}

theorem reject_ok {msg : String} (h : nul ∉ msg.data) (session : Option S) (ret : Ret K)
    (errOut : Bool) : ∃ r, (reject session ret errOut msg : Except Fault (Reply S E K)) = .ok r :=
  ⟨_, reject_of_nul_free h session ret errOut⟩

theorem reportWith_ok {make : Except Fault GoError} (h : ∃ err, make = .ok err)
    (errOut : Bool) : ∃ r, reportWith errOut make = .ok r := by
  obtain ⟨err, rfl⟩ := h
  cases errOut <;> exact ⟨_, rfl⟩

theorem keygenErrorToGo_ok {D : Dkg} (hD : D.Benign) (e : D.KeygenError) :
    ∃ err, keygenErrorToGo D e = .ok err :=
  GoError.new_ok (hD.error_nul_free e) 1

theorem signErrorToGo_ok {S : Dsg K} (hS : S.Benign) (e : S.SignError) :
    ∃ err, signErrorToGo S e = .ok err :=
  GoError.new_ok (hS.error_nul_free e) _

/-- The shared `handle_messages` helper returns over benign codecs and an
error translation that returns. -/
theorem handleMessagesWith_ok {Sess St Err Rnd Ev : Type} {T U : WireType}
    (hT : T.Benign) (hU : U.Benign) {errorToGo : Err → Except Fault GoError}
    (herr : ∀ e, ∃ err, errorToGo e = .ok err) (state : Sess → St)
    (update : Sess → St → Rnd → Sess) (failed : Rnd) (s : Sess) (msgs : List Message)
    (h : St → List T.T → St × Except Err (List U.T)) (routing : MessageRouting U.T)
    (next : Rnd) (event : Option Err → Ev) :
    ∃ r, handleMessagesWith state update failed errorToGo s (some msgs) h routing next event =
      .ok r := by
  simp only [handleMessagesWith, fromRawParts_some, except_ok_bind]
  split
  · rename_i hd
    exact bind_ok (GoError.new_ok (Message.decodeVector_nul_free hT hd) 1) fun _ => ⟨_, rfl⟩
  · split
    · exact bind_ok (Message.encodeVector_ok hU routing _) fun _ => ⟨_, rfl⟩
    · exact bind_ok (herr _) fun _ => ⟨_, rfl⟩

end Boundary

namespace Keygen

variable {D : Dkg}

theorem dklsKeygenCreateFirstMessage_ok (hD : D.Benign)
    (handle : Option (KeygenSessionHandle D)) (errOut : Bool) :
    ∃ r, dklsKeygenCreateFirstMessage handle errOut = .ok r := by
  simp only [dklsKeygenCreateFirstMessage]
  split
  · exact reject_ok (by decide) _ _ _
  · split
    · exact bind_ok (Message.new_ok hD.msg1 _ _) fun _ => ⟨_, rfl⟩
    · exact reject_ok (by decide) _ _ _

theorem dklsKeygenCalculateCommitment2_ok (handle : Option (KeygenSessionHandle D))
    (out : Bool) : ∃ r, dklsKeygenCalculateCommitment2 handle out = .ok r := by
  simp only [dklsKeygenCalculateCommitment2]
  repeat' split
  all_goals exact ⟨_, rfl⟩

theorem handleMessages_ok {T U : WireType} (hD : D.Benign) (hT : T.Benign) (hU : U.Benign)
    (s : KeygenSessionHandle D) (msgs : List Message)
    (h : D.State → List T.T → D.State × Except D.KeygenError (List U.T))
    (routing : MessageRouting U.T) (next : Round D.Keyshare)
    (event : Option D.KeygenError → KeygenEvent D) :
    ∃ r, handleMessages s (some msgs) h routing next event = .ok r :=
  handleMessagesWith_ok hT hU (keygenErrorToGo_ok hD) _ _ _ s msgs h routing next event

/-- Past the seed, `dkls_keygen_handle_messages` returns in every round: the
commitments `unwrap` runs only on a buffer of `n * 32` bytes. -/
theorem dklsKeygenHandleMessages_ok (hD : D.Benign) (handle : Option (KeygenSessionHandle D))
    (msgs : List Message) (commitments seed : Option (List UInt8)) (entropy : Bytes 32)
    (errOut out : Bool) (hseed : seedValid seed = true) :
    ∃ r, dklsKeygenHandleMessages handle (some msgs) commitments seed entropy errOut out =
      .ok r := by
  cases handle with
  | none => exact reject_ok (by decide) _ _ _
  | some s =>
      refine bind_ok (maybeSeededRng_of_seedValid hseed entropy) fun rng => ?_
      split
      case h_1 =>
        exact bind_ok (handleMessages_ok hD hD.msg1 hD.msg2 _ _ _ _ _ _) fun _ => ⟨_, rfl⟩
      case h_2 =>
        exact bind_ok (handleMessages_ok hD hD.msg2 hD.msg3 _ _ _ _ _ _) fun _ => ⟨_, rfl⟩
      case h_3 =>
        split
        · exact reject_ok (by decide) _ _ _
        · split
          · exact reject_ok (by decide) _ _ _
          · split
            · exact reject_ok (by decide) _ _ _
            · rename_i hlen
              obtain ⟨cs, hcs, -⟩ := collectCommitments_of_length (not_not.mp hlen)
              exact bind_ok ⟨cs, hcs⟩ fun _ =>
                bind_ok (handleMessages_ok hD hD.msg3 hD.msg4 _ _ _ _ _ _) fun _ => ⟨_, rfl⟩
      case h_4 =>
        refine bind_ok ⟨msgs, rfl⟩ fun _ => ?_
        split
        · rename_i hd
          exact bind_ok (reportWith_ok (GoError.new_ok
            (Message.decodeVector_nul_free hD.msg4 hd) 1) errOut) fun _ => ⟨_, rfl⟩
        · split
          · exact ⟨_, rfl⟩
          · exact bind_ok (keygenErrorToGo_ok hD _) fun _ => ⟨_, rfl⟩
      case h_5 => exact reject_ok (by decide) _ _ _
      case h_6 => exact reject_ok (by decide) _ _ _

/-- `dkls_keygen_keyshare` never panics, whatever the engine. -/
theorem dklsKeygenKeyshare_ok (handle : Option (KeygenSessionHandle D)) (errOut : Bool) :
    ∃ r, dklsKeygenKeyshare handle errOut = .ok r := by
  simp only [dklsKeygenKeyshare]
  split
  · exact reject_ok (by decide) _ _ _
  · split
    · exact ⟨_, rfl⟩
    · exact reject_ok (by decide) _ _ _
    · exact reject_ok (by decide) _ _ _

theorem KeygenCall.apply_ok (hD : D.Benign) :
    ∀ (c : KeygenCall) (handle : Option (KeygenSessionHandle D)),
      seedValid c.seed = true → c.nonNull = true → ∃ r, c.apply handle = .ok r
  | .createFirstMessage errOut, handle, _, _ => dklsKeygenCreateFirstMessage_ok hD handle errOut
  | .calculateCommitment2 out, handle, _, _ => dklsKeygenCalculateCommitment2_ok handle out
  | .handleMessages (some msgs) commitments seed entropy errOut out, handle, hseed, _ =>
      dklsKeygenHandleMessages_ok hD handle msgs commitments seed entropy errOut out hseed
  | .handleMessages none _ _ _ _ _, _, _, hnull => nomatch hnull
  | .keyshare errOut, handle, _, _ => dklsKeygenKeyshare_ok handle errOut
  | .free, _, _, _ => ⟨_, rfl⟩

/-- What a constructor does once the engine has answered. -/
theorem created_or_not_ok (hD : D.Benign) (errOut : Bool) (n : Nat)
    (result : Except D.KeygenError D.State) :
    ∃ r : KeygenReply D, (match result with
      | .ok state => created state n
      | .error e => notCreated errOut e) = .ok r := by
  cases result with
  | ok state => exact ⟨_, rfl⟩
  | error e => exact bind_ok (reportWith_ok (keygenErrorToGo_ok hD e) errOut) fun _ => ⟨_, rfl⟩

/-- Past the seed, every keygen constructor given non-null buffers returns:
the public-key `unwrap` runs only on a key of 33 bytes. -/
theorem KeygenInit.apply_ok (hD : D.Benign) :
    ∀ c : KeygenInit D, seedValid c.seed = true → c.nonNull = true → ∃ r, c.apply = .ok r
  | .new _ _ _ seed entropy, hseed, _ =>
      bind_ok (maybeSeededRng_of_seedValid (show seedValid seed = true from hseed) entropy)
        fun _ => ⟨_, rfl⟩
  | .keyRotation none _ _ _, _, _ | .keyRecovery none _ _ _ _, _, _ =>
      reject_ok (by decide) _ _ _
  | .keyRotation (some _) seed entropy errOut, hseed, _ =>
      bind_ok (maybeSeededRng_of_seedValid (show seedValid seed = true from hseed) entropy) fun _ =>
        created_or_not_ok hD errOut _ _
  | .keyRecovery (some _) (some _) seed entropy errOut, hseed, _ =>
      bind_ok (maybeSeededRng_of_seedValid (show seedValid seed = true from hseed) entropy) fun _ =>
        bind_ok ⟨_, rfl⟩ fun _ => created_or_not_ok hD errOut _ _
  | .keyRecovery (some _) none _ _ _, _, hnull => nomatch hnull
  | .lostShareRecovery _ _ _ pk (some _) seed entropy errOut, hseed, hnull => by
      obtain ⟨bytes, hbytes⟩ := Option.isSome_iff_exists.mp (Bool.and_eq_true_iff.mp hnull).1
      simp only [KeygenInit.apply, dklsKeygenInitLostShareRecovery, hbytes, fromRawParts_some,
        except_ok_bind]
      split
      · exact reject_ok (by decide) _ _ _
      · rename_i hpk
        refine bind_ok (maybeSeededRng_of_seedValid (show seedValid seed = true from hseed)
          entropy) fun _ => ?_
        rw [Bytes.tryFrom_of_length ((pk.ptr_len bytes hbytes).trans (not_not.mp hpk))]
        refine bind_ok ⟨_, rfl⟩ fun _ => ?_
        split
        · exact reject_ok (by decide) _ _ _
        · exact created_or_not_ok hD errOut _ _
  | .lostShareRecovery _ _ _ _ none _ _ _, _, hnull => by
      simp [KeygenInit.nonNull] at hnull
  | .fromBytes _, _, _ => ⟨_, rfl⟩

end Keygen

namespace Sign

variable {K : Type} {S : Dsg K}

theorem cStrToString_nul_free (hS : S.Benign) {cStr : Option (List UInt8)} {e : String}
    (h : cStrToString S cStr = .error e) : nul ∉ e.data := by
  cases cStr with
  | none =>
      cases h
      decide
  | some bytes =>
      cases hc : S.cStrToStr bytes with
      | ok str => simp [cStrToString, hc] at h
      | error e' =>
          simp only [cStrToString, hc, except_mapError_error, Except.error.injEq] at h
          subst h
          exact nul_not_mem_append (by decide) (hS.utf8_nul_free _ _ hc)

/-- Past the seed, `dkls_sign_new` returns; the text of a failed UTF-8
decoding is reported as it is. -/
theorem dklsSignNew_ok (hS : S.Benign) (keyshare : Option K)
    (chainPath seed : Option (List UInt8)) (entropy : Bytes 32) (errOut : Bool)
    (hseed : seedValid seed = true) :
    ∃ r, dklsSignNew (S := S) keyshare chainPath seed entropy errOut = .ok r := by
  simp only [dklsSignNew]
  split
  · exact reject_ok (by decide) _ _ _
  · split
    · rename_i he
      exact reject_ok (cStrToString_nul_free hS he) _ _ _
    · split
      · exact reject_ok (by decide) _ _ _
      · refine bind_ok (maybeSeededRng_of_seedValid hseed entropy) fun _ => ?_
        split
        · exact ⟨_, rfl⟩
        · exact reject_ok (by decide) _ _ _

theorem dklsSignCreateFirstMessage_ok (hS : S.Benign) (handle : Option (SignSessionHandle S))
    (errOut : Bool) : ∃ r, dklsSignCreateFirstMessage handle errOut = .ok r := by
  simp only [dklsSignCreateFirstMessage]
  split
  · exact reject_ok (by decide) _ _ _
  · split
    · exact bind_ok (Message.new_ok hS.msg1 _ _) fun _ => ⟨_, rfl⟩
    · exact reject_ok (by decide) _ _ _

theorem handleMessages_ok {T U : WireType} (hS : S.Benign) (hT : T.Benign) (hU : U.Benign)
    (s : SignSessionHandle S) (msgs : List Message)
    (h : S.State → List T.T → S.State × Except S.SignError (List U.T))
    (routing : MessageRouting U.T) (next : Round S.PreSignature S.PartialSignature)
    (event : Option S.SignError → SignEvent S) :
    ∃ r, handleMessages s (some msgs) h routing next event = .ok r :=
  handleMessagesWith_ok hT hU (signErrorToGo_ok hS) _ _ _ s msgs h routing next event

theorem dklsSignHandleMessages_ok (hS : S.Benign) (handle : Option (SignSessionHandle S))
    (msgs : List Message) (seed : Option (List UInt8)) (entropy : Bytes 32)
    (errOut out : Bool) (hseed : seedValid seed = true) :
    ∃ r, dklsSignHandleMessages handle (some msgs) seed entropy errOut out = .ok r := by
  cases handle with
  | none => exact reject_ok (by decide) _ _ _
  | some s =>
      refine bind_ok (maybeSeededRng_of_seedValid hseed entropy) fun rng => ?_
      split
      case h_1 =>
        exact bind_ok (handleMessages_ok hS hS.msg1 hS.msg2 _ _ _ _ _ _) fun _ => ⟨_, rfl⟩
      case h_2 =>
        exact bind_ok (handleMessages_ok hS hS.msg2 hS.msg3 _ _ _ _ _ _) fun _ => ⟨_, rfl⟩
      case h_3 =>
        refine bind_ok ⟨msgs, rfl⟩ fun _ => ?_
        split
        · rename_i hd
          exact bind_ok (reportWith_ok (GoError.new_ok
            (Message.decodeVector_nul_free hS.msg3 hd) 1) errOut) fun _ => ⟨_, rfl⟩
        · split
          · exact ⟨_, rfl⟩
          · exact bind_ok (signErrorToGo_ok hS _) fun _ => ⟨_, rfl⟩
      case h_4 => exact reject_ok (by decide) _ _ _
      case h_5 => exact reject_ok (by decide) _ _ _

/-- `dkls_sign_last_message` on a non-null digest returns: the digest
`unwrap` runs only on 32 bytes. -/
theorem dklsSignLastMessage_ok (hS : S.Benign) (handle : Option (SignSessionHandle S))
    (messageHash : CSlice UInt8) (hptr : messageHash.ptr.isSome = true) (errOut : Bool) :
    ∃ r, dklsSignLastMessage handle messageHash errOut = .ok r := by
  obtain ⟨bytes, hbytes⟩ := Option.isSome_iff_exists.mp hptr
  simp only [dklsSignLastMessage]
  split
  · exact reject_ok (by decide) _ _ _
  · split
    · exact reject_ok (by decide) _ _ _
    · rename_i hlen
      rw [hbytes, fromRawParts_some, except_ok_bind,
        Bytes.tryFrom_of_length ((messageHash.ptr_len bytes hbytes).trans (not_not.mp hlen))]
      refine bind_ok ⟨_, rfl⟩ fun _ => ?_
      split
      · exact bind_ok (Message.new_ok hS.msg4 _ _) fun _ => ⟨_, rfl⟩
      · exact reject_ok (by decide) _ _ _

theorem dklsSignCombine_ok (hS : S.Benign) (handle : Option (SignSessionHandle S))
    (msgs : List Message) (rOut sOut errOut : Bool) :
    ∃ r, dklsSignCombine handle (some msgs) rOut sOut errOut = .ok r := by
  simp only [dklsSignCombine]
  split
  · exact reject_ok (by decide) _ _ _
  · split
    · exact reject_ok (by decide) _ _ _
    · split
      · refine bind_ok ⟨msgs, rfl⟩ fun _ => ?_
        split
        · rename_i hd
          exact reject_ok (Message.decodeVector_nul_free hS.msg4 hd) _ _ _
        · split
          · split
            · exact ⟨_, rfl⟩
            · exact bind_ok (reportWith_ok (GoError.new_ok (by decide) 1) errOut)
                fun _ => ⟨_, rfl⟩
          · exact bind_ok (reportWith_ok (signErrorToGo_ok hS _) errOut) fun _ => ⟨_, rfl⟩
      · exact reject_ok (by decide) _ _ _

theorem SignCall.apply_ok (hS : S.Benign) :
    ∀ (c : SignCall) (handle : Option (SignSessionHandle S)),
      seedValid c.seed = true → c.nonNull = true → ∃ r, c.apply handle = .ok r
  | .createFirstMessage errOut, handle, _, _ => dklsSignCreateFirstMessage_ok hS handle errOut
  | .handleMessages (some msgs) seed entropy errOut out, handle, hseed, _ =>
      dklsSignHandleMessages_ok hS handle msgs seed entropy errOut out hseed
  | .handleMessages none _ _ _ _, _, _, hnull => nomatch hnull
  | .lastMessage messageHash errOut, handle, _, hptr =>
      dklsSignLastMessage_ok hS handle messageHash hptr errOut
  | .combine (some msgs) rOut sOut errOut, handle, _, _ =>
      dklsSignCombine_ok hS handle msgs rOut sOut errOut
  | .combine none _ _ _, _, _, hnull => nomatch hnull
  | .free, _, _, _ => ⟨_, rfl⟩

theorem SignInit.apply_ok (hS : S.Benign) :
    ∀ c : SignInit K, seedValid c.seed = true → ∃ r, c.apply (S := S) = .ok r
  | .new keyshare chainPath seed entropy errOut, hseed =>
      dklsSignNew_ok hS keyshare chainPath seed entropy errOut hseed
  | .fromBytes _, _ => ⟨_, rfl⟩

end Sign

open Keygen Sign

section Heap

variable {D : Dkg} {S : Dsg D.Keyshare}

/-- The seed buffer of a call of the C API. -/
def ApiCall.seed : ApiCall D S → Option (List UInt8)
  | .keygenInit c => c.seed
  | .keygen _ c => c.seed
  | .signInit c => c.seed
  | .sign _ c => c.seed

/-- Whether the buffers a call of the C API reads unchecked are non-null. -/
def ApiCall.nonNull : ApiCall D S → Bool
  | .keygenInit c => c.nonNull
  | .keygen _ c => c.nonNull
  | .signInit _ => true
  | .sign _ c => c.nonNull

/-- A call that names an address holding no session of its kind. -/
def Heap.dangling (H : Heap D S) : ApiCall D S → Bool
  | .keygen (some a) _ => (H.keygen a).isNone
  | .sign (some a) _ => (H.sign a).isNone
  | _ => false

variable {H : Heap D S} {m : Malloc D S} {c : ApiCall D S}

theorem Heap.step_dangling (h : H.dangling c = true) : H.step m c = .error .useAfterFree := by
  rcases c with _ | ⟨_ | a, _⟩ | _ | ⟨_ | a, _⟩ <;>
    simp only [Heap.dangling, Option.isNone_iff_eq_none, Bool.false_eq_true] at h
  · exact Heap.step_keygen_none h
  · exact Heap.step_sign_none h

/-- A call on a live handle, or on none, returns when its entry point does. -/
theorem Heap.step_ok (hD : D.Benign) (hS : S.Benign) (hseed : seedValid c.seed = true)
    (hnull : c.nonNull = true) (h : H.dangling c = false) : ∃ p, H.step m c = .ok p := by
  match c, h with
  | .keygenInit c, _ =>
      refine bind_ok (KeygenInit.apply_ok hD c hseed hnull) fun r => ?_
      split <;> exact ⟨_, rfl⟩
  | .keygen none c, _ =>
      exact bind_ok (KeygenCall.apply_ok hD c none hseed hnull) fun _ => ⟨_, rfl⟩
  | .keygen (some a) c, h =>
      cases hs : H.keygen a with
      | none => simp [Heap.dangling, hs] at h
      | some s =>
          rw [Heap.step_keygen_some hs]
          exact bind_ok (KeygenCall.apply_ok hD c _ hseed hnull) fun _ => ⟨_, rfl⟩
  | .signInit c, _ =>
      refine bind_ok (SignInit.apply_ok hS c hseed) fun r => ?_
      split <;> exact ⟨_, rfl⟩
  | .sign none c, _ => exact bind_ok (SignCall.apply_ok hS c none hseed hnull) fun _ => ⟨_, rfl⟩
  | .sign (some a) c, h =>
      cases hs : H.sign a with
      | none => simp [Heap.dangling, hs] at h
      | some s =>
          rw [Heap.step_sign_some hs]
          exact bind_ok (SignCall.apply_ok hS c _ hseed hnull) fun _ => ⟨_, rfl⟩

/-- Over benign collaborators, with an accepted seed and non-null buffers, a
call faults exactly when it names a dangling handle, and then by
use-after-free. -/
theorem Heap.step_error_iff (hD : D.Benign) (hS : S.Benign) (hseed : seedValid c.seed = true)
    (hnull : c.nonNull = true) {f : Fault} :
    H.step m c = .error f ↔ H.dangling c = true ∧ f = .useAfterFree := by
  cases hd : H.dangling c
  · obtain ⟨p, hp⟩ := Heap.step_ok (m := m) hD hS hseed hnull hd
    simp [hp]
  · simp [Heap.step_dangling hd, eq_comm]

theorem Heap.run_cons_error {cs : List (ApiCall D S)} {f : Fault} :
    H.run m (c :: cs) = .error f ↔
      H.step m c = .error f ∨ ∃ H1 r1, H.step m c = .ok (H1, r1) ∧ H1.run m cs = .error f := by
  simp [Heap.run, except_bind_eq_error]

/-- A run faults at the first call that names a dangling handle. -/
theorem Heap.run_error_of_dangling (post : List (ApiCall D S)) :
    ∀ {pre : List (ApiCall D S)} {H H' : Heap D S} {rs : List (ApiReply D.Keyshare)},
      H.run m pre = .ok (H', rs) → H'.dangling c = true →
        H.run m (pre ++ c :: post) = .error .useAfterFree
  | [], H, H', rs, hpre, hc => by
      cases hpre
      exact Heap.run_cons_error.mpr (.inl (Heap.step_dangling hc))
  | p :: pre, H, H', rs, hpre, hc => by
      obtain ⟨H1, r1, rs1, h1, hpre, -⟩ := Heap.run_cons_ok.mp hpre
      exact Heap.run_cons_error.mpr (.inr ⟨H1, r1, h1, Heap.run_error_of_dangling post hpre hc⟩)

/-- Over benign collaborators, accepted seeds and non-null buffers, every
fault of a run is a use-after-free at a call that names a handle dangling at
that point. -/
theorem Heap.run_error (hD : D.Benign) (hS : S.Benign) :
    ∀ {calls : List (ApiCall D S)} {H : Heap D S} {f : Fault},
      (∀ c ∈ calls, seedValid c.seed = true) → (∀ c ∈ calls, c.nonNull = true) →
        H.run m calls = .error f →
        f = .useAfterFree ∧ ∃ pre c post H' rs, calls = pre ++ c :: post ∧
          H.run m pre = .ok (H', rs) ∧ H'.dangling c = true
  | [], _, _, _, _, h => by cases h
  | c :: cs, H, f, hseed, hnull, h => by
      rcases Heap.run_cons_error.mp h with h1 | ⟨H1, r1, h1, h2⟩
      · obtain ⟨hd, rfl⟩ := (Heap.step_error_iff hD hS (hseed c (List.mem_cons_self c cs))
          (hnull c (List.mem_cons_self c cs))).mp h1
        exact ⟨rfl, [], c, cs, H, [], rfl, rfl, hd⟩
      · obtain ⟨rfl, pre, c', post, H', rs, rfl, hpre, hd⟩ :=
          Heap.run_error hD hS (fun c' h' => hseed c' (List.mem_cons_of_mem c h'))
            (fun c' h' => hnull c' (List.mem_cons_of_mem c h')) h2
        exact ⟨rfl, c :: pre, c', post, H', r1 :: rs, rfl,
          Heap.run_cons_ok.mpr ⟨H1, r1, rs, h1, hpre, rfl⟩, hd⟩

end Heap

/-- Over benign collaborators, seeds that `maybe_seeded_rng` accepts and
non-null buffers, a sequence of calls of the C API, whatever the allocator,
faults exactly when it reaches a call naming an address that holds no session
of its kind at that point (released and not handed out again, or never
allocated), and the fault is then a use-after-free, never a panic. -/
theorem run_faults_only_on_dangling_handles {D : Dkg} {S : Dsg D.Keyshare}
    (hD : D.Benign) (hS : S.Benign) (m : Malloc D S) (calls : List (ApiCall D S))
    (H : Heap D S) (f : Fault) (hseed : ∀ c ∈ calls, seedValid c.seed = true)
    (hnull : ∀ c ∈ calls, c.nonNull = true) :
    H.run m calls = .error f ↔ f = .useAfterFree ∧
      ∃ pre c post H' rs, calls = pre ++ c :: post ∧ H.run m pre = .ok (H', rs) ∧
        H'.dangling c = true := by
  refine ⟨Heap.run_error hD hS hseed hnull, ?_⟩
  rintro ⟨rfl, pre, c, post, H', rs, rfl, hpre, hd⟩
  exact Heap.run_error_of_dangling post hpre hd

/-- A second `dkls_keygen_free` of one handle is a use-after-free. -/
theorem run_faults_only_on_dangling_handles_double_free :
    (Heap.empty (D := unitDkg) (S := unitDsg)).run Malloc.bump
      [.keygenInit (.new 2 2 0 none ⟨List.replicate 32 0, rfl⟩), .keygen (some 0) .free,
        .keygen (some 0) .free] = .error .useAfterFree :=
  (run_faults_only_on_dangling_handles unitDkg_benign unitDsg_benign Malloc.bump _ _ _
    (by decide) (by decide)).mpr
    ⟨rfl, [.keygenInit (.new 2 2 0 none ⟨List.replicate 32 0, rfl⟩), .keygen (some 0) .free],
      _, [], _, _, rfl, rfl, rfl⟩

end DklsFfi
