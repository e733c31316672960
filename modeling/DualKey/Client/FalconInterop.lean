import DualKey.Client.Error
import DualKey.Foundations.Padding
import DualKey.Core.State

/-!
# Falcon signatures on the wire

The signer produces signatures of variable length, the program reads 666 bytes. A signature is
put on the wire by appending zeros, and one that does not fit is refused, never truncated.
`WireSignature` is the buffer with the length of the signature in it. Its fields say that the
signature fits and that only zeros follow it.

The two Falcon implementations, of the signer and of the program, are parameters. Signing is
randomized, so a signature that does not fit is signed again.
-/

namespace DualKey

open Padding

/-- A signature in the 666-byte wire buffer. -/
@[ext] structure WireSignature where
  bytes : ByteVec falconSignatureLen
  encodedLen : ℕ
  encodedLen_le : encodedLen ≤ falconSignatureLen
  /-- Only zeros follow the signature. -/
  eq_pad : bytes.toList = pad 0 falconSignatureLen (bytes.toList.take encodedLen)

namespace WireSignature

/-- A zero buffer with `encoded` copied to its front. -/
def zeroPadded (encoded : List UInt8) : List UInt8 :=
  Buffer.write (ByteVec.zero falconSignatureLen).toList 0 encoded

theorem zeroPadded_eq (encoded : List UInt8) :
    zeroPadded encoded = pad 0 falconSignatureLen encoded := by
  show List.take 0 (List.replicate 666 0) ++ encoded ++
    List.drop (0 + encoded.length) (List.replicate 666 0) = _
  rw [List.take_zero, List.nil_append, Nat.zero_add, List.drop_replicate, pad]

/-- Adapt compressed signature bytes of any length up to 666. -/
def fromEncodedBytes (encoded : List UInt8) : ClientRes WireSignature :=
  if h : falconSignatureLen < encoded.length then
    .error (.falconSignatureTooLong encoded.length falconSignatureLen)
  else
    .ok { bytes := ⟨zeroPadded encoded, by
            rw [zeroPadded_eq, length_pad (Nat.le_of_not_lt h)]⟩
          encodedLen := encoded.length
          encodedLen_le := Nat.le_of_not_lt h
          eq_pad := by
            show zeroPadded encoded = pad 0 _ ((zeroPadded encoded).take encoded.length)
            rw [zeroPadded_eq, take_pad] }

/-- Reconstruct from a padded buffer: the signature ends at the last byte that is not zero. -/
def fromWireBytes (bytes : List UInt8) : ClientRes WireSignature :=
  if h : bytes.length = falconSignatureLen then
    .ok { bytes := ⟨bytes, h⟩
          encodedLen := (rposition (· ≠ 0) bytes).elim 0 (· + 1)
          encodedLen_le := by
            rw [← length_strip, ← h]
            exact (isPrefix_strip 0 bytes).length_le
          eq_pad := by
            show bytes = pad 0 _ (bytes.take _)
            rw [take_rposition, ← h, pad_strip] }
  else
    .error (.falconKey "wire signature must be exactly 666 bytes")

variable (w : WireSignature)

/-- The padded buffer accepted on-chain. -/
def asWireBytes : ByteVec falconSignatureLen := w.bytes

/-- The signature without its padding. -/
def encodedBytes : List UInt8 := w.bytes.toList.take w.encodedLen

/-- The number of zeros that were appended. -/
def paddingLen : ℕ := falconSignatureLen - w.encodedLen

variable {w}

theorem length_encodedBytes : w.encodedBytes.length = w.encodedLen := by
  rw [encodedBytes, List.length_take, List.Vector.toList_length]
  exact min_eq_left w.encodedLen_le

theorem encodedLen_add_paddingLen : w.encodedLen + w.paddingLen = falconSignatureLen :=
  Nat.add_sub_cancel' w.encodedLen_le

/-- The buffer is the padded signature. -/
theorem asWireBytes_eq_pad : w.asWireBytes.toList = pad 0 falconSignatureLen w.encodedBytes :=
  w.eq_pad

theorem fromEncodedBytes_eq_error {encoded : List UInt8} {e : ClientError} :
    fromEncodedBytes encoded = .error e ↔
      falconSignatureLen < encoded.length ∧
        .falconSignatureTooLong encoded.length falconSignatureLen = e := by
  unfold fromEncodedBytes
  split
  · next h => simp only [Except.error.injEq, h, true_and]
  · next h => simp only [reduceCtorEq, h, false_and]

theorem fromEncodedBytes_eq_ok {encoded : List UInt8} :
    fromEncodedBytes encoded = .ok w ↔
      encoded.length ≤ falconSignatureLen ∧ w.encodedBytes = encoded := by
  unfold fromEncodedBytes
  split
  · next h =>
    constructor
    · intro hf
      cases hf
    · rintro ⟨hle, -⟩
      exact absurd h (Nat.not_lt.mpr hle)
  · next h =>
    constructor
    · intro hok
      cases hok
      refine ⟨Nat.le_of_not_lt h, ?_⟩
      show (zeroPadded encoded).take encoded.length = encoded
      rw [zeroPadded_eq, take_pad]
    · rintro ⟨-, rfl⟩
      refine congrArg Except.ok (WireSignature.ext (Subtype.ext ?_) length_encodedBytes)
      show zeroPadded w.encodedBytes = w.bytes.toList
      rw [zeroPadded_eq]
      exact asWireBytes_eq_pad.symm

/-- A signature that fits is put on the wire. -/
theorem exists_of_fits {encoded : List UInt8} (h : encoded.length ≤ falconSignatureLen) :
    ∃ w, fromEncodedBytes encoded = .ok w := by
  cases hw : fromEncodedBytes encoded with
  | error e => exact absurd (fromEncodedBytes_eq_error.mp hw).1 (Nat.not_lt.mpr h)
  | ok w => exact ⟨w, rfl⟩

end WireSignature

/-! ### Signing and verifying -/

/-- The two Falcon implementations. A call that signs draws its own coins. -/
structure FalconCrates (Coins : Type) where
  /-- The bytes of `falcon512::detached_sign`. -/
  detachedSign : Coins → (message secretKey : List UInt8) → List UInt8
  /-- Whether `falcon512::PublicKey::from_bytes` accepts. -/
  publicKeyOk : List UInt8 → Bool
  /-- Whether `falcon512::DetachedSignature::from_bytes` accepts. -/
  detachedSignatureOk : List UInt8 → Bool
  /-- Whether `falcon512::verify_detached_signature` accepts. -/
  verifyDetachedSignature : (signature message publicKey : List UInt8) → Bool
  /-- Whether `Falcon512Pubkey::try_from_slice` accepts. -/
  pubkeyOk : List UInt8 → Bool
  /-- Whether `Falcon512Signature::try_from_slice` accepts. -/
  signatureOk : List UInt8 → Bool
  /-- `Falcon512Signature::verify`. -/
  verify : (signature message pubkey : List UInt8) → Bool
  /-- `Falcon512Pubkey::try_prepare_pubkey`. -/
  tryPreparePubkey : List UInt8 → Option PreparedFalconPubkey
  /-- `Falcon512Signature::verify_with_prepared`. -/
  verifyWithPrepared : (signature message : List UInt8) → PreparedFalconPubkey → Bool

namespace FalconCrates

variable {Coins : Type} (falcon : FalconCrates Coins)

/-- Verify the padded wire form with the signer's implementation. -/
def verifyPqcleanWire (wire : WireSignature) (message pubkeyWire : List UInt8) : Bool :=
  falcon.publicKeyOk pubkeyWire && falcon.detachedSignatureOk wire.asWireBytes.toList &&
    falcon.verifyDetachedSignature wire.asWireBytes.toList message pubkeyWire

/-- Verify with the program's implementation and a raw wire key. -/
def verifySolanaRaw (wire : WireSignature) (message pubkeyWire : List UInt8) : Bool :=
  falcon.pubkeyOk pubkeyWire && falcon.signatureOk wire.asWireBytes.toList &&
    falcon.verify wire.asWireBytes.toList message pubkeyWire

/-- Verify with the program's implementation and a prepared key. -/
def verifySolanaPrepared (wire : WireSignature) (message : List UInt8)
    (prepared : PreparedFalconPubkey) : Bool :=
  falcon.signatureOk wire.asWireBytes.toList &&
    falcon.verifyWithPrepared wire.asWireBytes.toList message prepared

/-- Convert a wire key to its prepared form. -/
def preparePubkey (pubkeyWire : List UInt8) : ClientRes PreparedFalconPubkey :=
  if falcon.pubkeyOk pubkeyWire = false then
    .error (.falconKey "malformed 897-byte wire public key")
  else
    match falcon.tryPreparePubkey pubkeyWire with
    | some prepared => .ok prepared
    | none => .error (.falconKey "public key failed NTT preparation")

/-- Sign a message and put the signature on the wire. -/
def signToWire (coins : Coins) (message secretKey : List UInt8) :
    ClientRes (List UInt8 × WireSignature) := do
  let sig := falcon.detachedSign coins message secretKey
  let wire ← WireSignature.fromEncodedBytes sig
  pure (sig, wire)

/-- The attempts from `attempt` on, of which `n` are left. Only a signature that is too long
is tried again. -/
def signAttempts (coins : ℕ → Coins) (message secretKey : List UInt8) (attempt : ℕ)
    (lastErr : Option ClientError) : ℕ → ClientRes (List UInt8 × WireSignature × ℕ)
  | 0 => .error (lastErr.getD (.falconKey "Falcon signing failed"))
  | n + 1 =>
    match falcon.signToWire (coins attempt) message secretKey with
    | .ok (sig, wire) => .ok (sig, wire, attempt)
    | .error (.falconSignatureTooLong actual max) =>
      signAttempts coins message secretKey (attempt + 1)
        (some (.falconSignatureTooLong actual max)) n
    | .error other => .error other

/-- Sign with at most `maxAttempts` attempts, and at least one. -/
def signToWireWithRetry (coins : ℕ → Coins) (message secretKey : List UInt8) (maxAttempts : ℕ) :
    ClientRes (List UInt8 × WireSignature × ℕ) :=
  falcon.signAttempts coins message secretKey 1 none (max maxAttempts 1)

variable {falcon} {coins : ℕ → Coins} {message secretKey sig : List UInt8} {wire : WireSignature}

theorem signToWire_eq_ok {coins : Coins} :
    falcon.signToWire coins message secretKey = .ok (sig, wire) ↔
      falcon.detachedSign coins message secretKey = sig ∧
        WireSignature.fromEncodedBytes sig = .ok wire := by
  simp only [signToWire, ClientRes.bind_eq_ok, ClientRes.pure_eq_ok, Prod.mk.injEq]
  constructor
  · rintro ⟨_, hwire, rfl, rfl⟩
    exact ⟨rfl, hwire⟩
  · rintro ⟨rfl, hwire⟩
    exact ⟨wire, hwire, rfl, rfl⟩

theorem signAttempts_eq_ok {n attempt attempts : ℕ} {lastErr : Option ClientError}
    (h : falcon.signAttempts coins message secretKey attempt lastErr n =
      .ok (sig, wire, attempts)) :
    attempt ≤ attempts ∧ attempts < attempt + n ∧
      falcon.signToWire (coins attempts) message secretKey = .ok (sig, wire) := by
  induction n generalizing attempt lastErr with
  | zero => cases h
  | succ n ih =>
    rw [signAttempts] at h
    split at h
    · next sig' wire' hsign =>
      cases h
      exact ⟨le_rfl, by omega, hsign⟩
    · -- too long: the rest of the attempts decides
      obtain ⟨hle, hlt, hsign⟩ := ih h
      exact ⟨by omega, by omega, hsign⟩
    · cases h

/-- What is returned is what one of the attempts signed. -/
theorem signToWireWithRetry_eq_ok {maxAttempts attempts : ℕ}
    (h : falcon.signToWireWithRetry coins message secretKey maxAttempts =
      .ok (sig, wire, attempts)) :
    1 ≤ attempts ∧ attempts ≤ max maxAttempts 1 ∧
      falcon.detachedSign (coins attempts) message secretKey = sig ∧
      WireSignature.fromEncodedBytes sig = .ok wire := by
  obtain ⟨hle, hlt, hsign⟩ := signAttempts_eq_ok h
  obtain ⟨hsig, hwire⟩ := signToWire_eq_ok.mp hsign
  exact ⟨hle, by omega, hsig, hwire⟩

/-- An attempt whose signature fits is reached, since those before it fail for their length. -/
theorem exists_signAttempts {n attempt k : ℕ} {lastErr : Option ClientError}
    (hle : attempt ≤ k) (hlt : k < attempt + n)
    (hfits : (falcon.detachedSign (coins k) message secretKey).length ≤ falconSignatureLen) :
    ∃ signed, falcon.signAttempts coins message secretKey attempt lastErr n = .ok signed := by
  induction n generalizing attempt lastErr with
  | zero => omega
  | succ n ih =>
    rw [signAttempts]
    split
    · exact ⟨_, rfl⟩
    · next hlong =>
      refine ih ?_ (by omega)
      by_contra hk
      obtain rfl : attempt = k := by omega
      obtain ⟨w, hw⟩ := WireSignature.exists_of_fits hfits
      rw [signToWire_eq_ok.mpr ⟨rfl, hw⟩] at hlong
      cases hlong
    · next other hne hother =>
      rcases ClientRes.bind_eq_error.mp hother with he | ⟨_, -, ⟨⟩⟩
      obtain ⟨-, rfl⟩ := WireSignature.fromEncodedBytes_eq_error.mp he
      exact absurd rfl (hne _ _)

/-- Signing succeeds when one of the attempts produces a signature that fits. -/
theorem exists_signToWireWithRetry {maxAttempts k : ℕ} (hpos : 1 ≤ k) (hle : k ≤ maxAttempts)
    (hfits : (falcon.detachedSign (coins k) message secretKey).length ≤ falconSignatureLen) :
    ∃ signed, falcon.signToWireWithRetry coins message secretKey maxAttempts = .ok signed :=
  exists_signAttempts hpos (by omega) hfits

end FalconCrates

end DualKey
