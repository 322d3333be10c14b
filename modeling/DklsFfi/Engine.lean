import DklsFfi.Rust

/-!
The collaborators the wrapper drives but never looks inside: the `dkls23_ll`
DKG and DSG state machines, the serde/ciborium codec of their messages, the
`k256` point decoder and the derivation-path parser. Each is a field of a
structure, so every theorem stated over a `Dkg` or a `Dsg` holds for every
engine, whatever its steps return. Methods that take `&mut self` return the
state they leave behind next to their result.
-/

namespace DklsFfi

/-- One protocol message type with what the wrapper does to it: CBOR encoding
and decoding, with ciborium's error text, and reading its `from_id` field. -/
structure WireType where
  T : Type
  encode : T → Except String (List UInt8)
  decode : List UInt8 → Except String T
  fromId : T → UInt8

/-- A `ChaCha20Rng`, identified with the 32-byte seed it was built from. -/
structure ChaCha20Rng where
  seed : Bytes 32
  deriving DecidableEq

/-- `dkg::Party`, the one engine value the wrapper builds field by field. -/
structure Party where
  ranks : List UInt8
  t : UInt8
  partyId : UInt8
  deriving DecidableEq

/-- The `dkls23_ll::dkg` interface, as `keygen.rs` calls it. -/
structure Dkg where
  State : Type
  Keyshare : Type
  KeygenError : Type
  RefreshShare : Type
  AffinePoint : Type
  msg1 : WireType
  msg2 : WireType
  msg3 : WireType
  msg4 : WireType
  msg2ToId : msg2.T → UInt8
  msg3ToId : msg3.T → UInt8
  /-- `KeygenError`'s `Display`. -/
  keygenErrorText : KeygenError → String
  new : Party → ChaCha20Rng → State
  keyRotation : Keyshare → ChaCha20Rng → Except KeygenError State
  keyRefresh : RefreshShare → ChaCha20Rng → Except KeygenError State
  refreshShareFromKeyshare : Keyshare → Option (List UInt8) → RefreshShare
  refreshShareFromLostKeyshare : Party → AffinePoint → List UInt8 → RefreshShare
  /-- `AffinePoint::from_bytes` on a compressed SEC1 point. -/
  affinePointFromBytes : Bytes 33 → Option AffinePoint
  /-- The `rank_list` field of a keyshare. -/
  rankList : Keyshare → List UInt8
  /-- The `threshold` and `party_id` fields of a keyshare. -/
  threshold : Keyshare → UInt8
  partyId : Keyshare → UInt8
  /-- `public_key.to_bytes()`, the SEC1 encoding of the keyshare's public key. -/
  publicKeyBytes : Keyshare → List UInt8
  /-- `ciborium::into_writer` on a `dkg::Keyshare`. -/
  encodeKeyshare : Keyshare → Except String (List UInt8)
  /-- `ciborium::from_reader::<dkg::Keyshare>`. -/
  decodeKeyshare : List UInt8 → Except String Keyshare
  generateMsg1 : State → State × msg1.T
  calculateCommitment2 : State → List UInt8
  handleMsg1 : State → ChaCha20Rng → List msg1.T →
    State × Except KeygenError (List msg2.T)
  handleMsg2 : State → ChaCha20Rng → List msg2.T →
    State × Except KeygenError (List msg3.T)
  handleMsg3 : State → ChaCha20Rng → List msg3.T → List (Bytes 32) →
    State × Except KeygenError msg4.T
  handleMsg4 : State → List msg4.T → State × Except KeygenError Keyshare

/-- The `dkls23_ll::dsg` interface, as `sign.rs` calls it, over the keyshare
type of the DKG that produced the shares. -/
structure Dsg (Keyshare : Type) where
  State : Type
  PreSignature : Type
  PartialSignature : Type
  Signature : Type
  SignError : Type
  DerivationPath : Type
  msg1 : WireType
  msg2 : WireType
  msg3 : WireType
  msg4 : WireType
  msg2ToId : msg2.T → UInt8
  msg3ToId : msg3.T → UInt8
  /-- `SignError`'s `Display`. -/
  signErrorText : SignError → String
  /-- `matches!(err, SignError::AbortProtocolAndBanParty(_))`. -/
  isAbortProtocolAndBanParty : SignError → Bool
  /-- `CStr::to_str` on the bytes before the terminator, with the `Display`
  of its `Utf8Error`. -/
  cStrToStr : List UInt8 → Except String String
  /-- `DerivationPath::from_str`; the wrapper drops the error. -/
  derivationPathFromStr : String → Option DerivationPath
  new : ChaCha20Rng → Keyshare → DerivationPath → Except SignError State
  generateMsg1 : State → State × msg1.T
  handleMsg1 : State → ChaCha20Rng → List msg1.T →
    State × Except SignError (List msg2.T)
  handleMsg2 : State → ChaCha20Rng → List msg2.T →
    State × Except SignError (List msg3.T)
  handleMsg3 : State → List msg3.T → State × Except SignError PreSignature
  createPartialSignature : PreSignature → Bytes 32 → PartialSignature × msg4.T
  combineSignatures : PartialSignature → List msg4.T → Except SignError Signature
  /-- `Signature::split_bytes`, the big-endian `r` and `s`. -/
  splitBytes : Signature → List UInt8 × List UInt8

section Unit

/-- The message type of unit payloads, encoded as the empty byte string. Any
other payload fails to decode. -/
def unitWire : WireType where
  T := Unit
  encode _ := .ok []
  decode bytes := if bytes = [] then .ok () else .error "trailing data"
  fromId _ := 0

/-- An engine of unit types whose every step succeeds, used to run the model
on closed inputs. -/
def unitDkg : Dkg where
  State := Unit
  Keyshare := Unit
  KeygenError := Unit
  RefreshShare := Unit
  AffinePoint := Unit
  msg1 := unitWire
  msg2 := unitWire
  msg3 := unitWire
  msg4 := unitWire
  msg2ToId _ := 0
  msg3ToId _ := 0
  keygenErrorText _ := "keygen error"
  new _ _ := ()
  keyRotation _ _ := .ok ()
  keyRefresh _ _ := .ok ()
  refreshShareFromKeyshare _ _ := ()
  refreshShareFromLostKeyshare _ _ _ := ()
  affinePointFromBytes _ := some ()
  rankList _ := []
  threshold _ := 2
  partyId _ := 0
  publicKeyBytes _ := List.replicate 33 2
  encodeKeyshare _ := .ok []
  decodeKeyshare _ := .ok ()
  generateMsg1 _ := ((), ())
  calculateCommitment2 _ := List.replicate 32 0
  handleMsg1 _ _ _ := ((), .ok [])
  handleMsg2 _ _ _ := ((), .ok [])
  handleMsg3 _ _ _ _ := ((), .ok ())
  handleMsg4 _ _ := ((), .ok ())

/-- The sign engine of unit types whose every step succeeds. -/
def unitDsg : Dsg Unit where
  State := Unit
  PreSignature := Unit
  PartialSignature := Unit
  Signature := Unit
  SignError := Unit
  DerivationPath := Unit
  msg1 := unitWire
  msg2 := unitWire
  msg3 := unitWire
  msg4 := unitWire
  msg2ToId _ := 0
  msg3ToId _ := 0
  signErrorText _ := "sign error"
  isAbortProtocolAndBanParty _ := false
  cStrToStr _ := .ok "m"
  derivationPathFromStr _ := some ()
  new _ _ _ := .ok ()
  generateMsg1 _ := ((), ())
  handleMsg1 _ _ _ := ((), .ok [])
  handleMsg2 _ _ _ := ((), .ok [])
  handleMsg3 _ _ := ((), .ok ())
  createPartialSignature _ _ := ((), ())
  combineSignatures _ _ := .ok ()
  splitBytes _ := (List.replicate 32 0, List.replicate 32 0)

/-- A sign engine of unit types whose round-1 step fails with the error
`true`, which is `AbortProtocolAndBanParty`. -/
def banDsg : Dsg Unit where
  State := Unit
  PreSignature := Unit
  PartialSignature := Unit
  Signature := Unit
  SignError := Bool
  DerivationPath := Unit
  msg1 := unitWire
  msg2 := unitWire
  msg3 := unitWire
  msg4 := unitWire
  msg2ToId _ := 0
  msg3ToId _ := 0
  signErrorText _ := "abort protocol and ban party"
  isAbortProtocolAndBanParty e := e
  cStrToStr _ := .ok "m"
  derivationPathFromStr _ := some ()
  new _ _ _ := .ok ()
  generateMsg1 _ := ((), ())
  handleMsg1 _ _ _ := ((), .error true)
  handleMsg2 _ _ _ := ((), .ok [])
  handleMsg3 _ _ := ((), .ok ())
  createPartialSignature _ _ := ((), ())
  combineSignatures _ _ := .ok ()
  splitBytes _ := (List.replicate 32 0, List.replicate 32 0)

end Unit

end DklsFfi
