import DklsFfi.Lib

/-!
The keyshare handle of `keyshare.rs`. A `KeyshareHandle` owns one
`dkg::Keyshare` that no entry point changes, so a handle argument is the
keyshare it points to, `none` being the null pointer; the entry points that
take one (`dkls_keygen_init_key_rotation`, `dkls_sign_new`, ...) clone it.
A returned `ByteBuffer` is `none` for the null buffer `{ data: null, len: 0,
cap: 0 }` and otherwise the bytes of the vector it took over. Releasing
handles and buffers is the host's business and is not modelled.
-/

namespace DklsFfi

variable {D : Dkg}

/-- `dkls_keyshare_to_bytes`: the CBOR encoding of the keyshare, or the null
buffer for a null handle or an encoder error. -/
def dklsKeyshareToBytes (handle : Option D.Keyshare) : Option (List UInt8) :=
  match handle with
  | none => none
  | some keyshare => (D.encodeKeyshare keyshare).toOption

/-- `dkls_keyshare_public_key`: 0 with the 33 encoded bytes copied to `out`,
or -1 for a null argument or an encoding of another length. -/
def dklsKeysharePublicKey (handle : Option D.Keyshare) (out : Bool) :
    Int × Option (Bytes 33) :=
  match handle with
  | some keyshare =>
      if out then
        match Bytes.tryFrom 33 (D.publicKeyBytes keyshare) with
        | some bytes => (0, some bytes)
        | none => (-1, none)
      else (-1, none)
  | none => (-1, none)

/-- `dkls_keyshare_participants`: the length of the rank list, cast with
`as c_uchar`, which keeps it modulo 256; 0 for a null handle. -/
def dklsKeyshareParticipants (handle : Option D.Keyshare) : UInt8 :=
  match handle with
  | none => 0
  | some keyshare => UInt8.ofNat (D.rankList keyshare).length

/-- `dkls_keyshare_threshold`; 0 for a null handle. -/
def dklsKeyshareThreshold (handle : Option D.Keyshare) : UInt8 :=
  match handle with
  | none => 0
  | some keyshare => D.threshold keyshare

/-- `dkls_keyshare_party_id`; 0 for a null handle. -/
def dklsKeysharePartyId (handle : Option D.Keyshare) : UInt8 :=
  match handle with
  | none => 0
  | some keyshare => D.partyId keyshare

/-- The party count reads back exactly while it fits a `c_uchar`; from 256
parties on, the cast wraps it. -/
theorem dklsKeyshareParticipants_toNat (keyshare : D.Keyshare) :
    (dklsKeyshareParticipants (some keyshare)).toNat = (D.rankList keyshare).length % 256 :=
  rfl

end DklsFfi
