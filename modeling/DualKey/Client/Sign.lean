import DualKey.Client.FalconInterop
import DualKey.Client.Intent
import DualKey.Core.Canonical

/-!
# Signing an intent and verifying a bundle

One digest is computed from the preimage of an intent, and both schemes sign it. A
`SignedBundle` is what is published: the intent, keys and signatures as text, and values
derived from them. `verifyBundle` computes the digest again, runs four verifiers on it, and
reports which of them accept and whether the published digest is the computed one.
-/

namespace DualKey

open Hex (Codec)

/-- The Ed25519 implementation. A signing key is its seed. -/
structure Ed25519Dalek where
  /-- The bytes of the verifying key of a signing key. -/
  publicBytes : ByteVec 32 → ByteVec 32
  sign : ByteVec 32 → (message : List UInt8) → ByteVec 64
  /-- Whether `VerifyingKey::from_bytes` accepts. -/
  verifyingKeyOk : ByteVec 32 → Bool
  verify : (publicKey : ByteVec 32) → (message : List UInt8) → (signature : ByteVec 64) → Bool

/-- The cryptography of the client. -/
structure Crypto (Coins : Type) where
  sha256 : List UInt8 → Digest
  ed25519 : Ed25519Dalek
  falcon : FalconCrates Coins

/-- The signing key of Ed25519. -/
structure Ed25519Keypair where
  signing : ByteVec 32
deriving DecidableEq

structure FalconKeypair where
  publicKey : List UInt8
  secretKey : List UInt8
deriving DecidableEq

/-- A signed intent. Public material only. -/
@[ext] structure SignedBundle where
  format : String
  intent : IntentSpec
  /-- The digest signed by both schemes. -/
  digest : String
  /-- The preimage, for auditability. -/
  canonicalPreimage : String
  ed25519PublicKey : String
  ed25519Signature : String
  falcon512PublicKey : String
  falcon512PublicKeySha256 : String
  /-- The padded signature that goes on-chain. -/
  falcon512SignatureWire : String
  /-- Length of the signature before padding. -/
  falcon512SignatureEncodedLen : ℕ
  falcon512SignaturePaddingLen : ℕ
deriving DecidableEq

/-- An intent with its preimage and digest. -/
structure SigningMaterial where
  intent : AuthorizationIntent
  preimage : ByteVec canonicalPreimageLen
  digest : Digest
deriving DecidableEq

/-- The outcome of the four verifiers, and whether the published digest was the computed one. -/
structure VerificationReport where
  digest : Digest
  ed25519Valid : Bool
  falconPqcleanValid : Bool
  falconSolanaValid : Bool
  falconSolanaPreparedValid : Bool
  sharedDigest : Bool
deriving DecidableEq

namespace VerificationReport

def allValid (report : VerificationReport) : Bool :=
  report.ed25519Valid && report.falconPqcleanValid && report.falconSolanaValid &&
    report.falconSolanaPreparedValid && report.sharedDigest

end VerificationReport

variable {Coins : Type} (crypto : Crypto Coins) (hex : Codec)

/-- Build the preimage and the one digest. -/
def signingMaterial (intent : AuthorizationIntent) : SigningMaterial :=
  let preimage := canonicalPreimage intent
  { intent, preimage, digest := crypto.sha256 preimage.toList }

/-- Falcon signing attempts when a signature overruns the wire buffer. -/
def maxFalconSignAttempts : ℕ := 8

/-- Sign one digest with both schemes. -/
def signIntent (coins : ℕ → Coins) (intent : AuthorizationIntent) (ed : Ed25519Keypair)
    (falcon : FalconKeypair) : ClientRes SignedBundle := do
  let material := signingMaterial crypto intent
  -- both schemes receive the same 32 bytes
  let message := material.digest.toList
  let edSig := crypto.ed25519.sign ed.signing message
  let (_, wire, _) ←
    crypto.falcon.signToWireWithRetry coins message falcon.secretKey maxFalconSignAttempts
  pure { format := "dualkey-signed-intent-v1"
         intent := .fromIntent hex material.intent
         digest := hex.encode material.digest.toList
         canonicalPreimage := hex.encode material.preimage.toList
         ed25519PublicKey := hex.encode (crypto.ed25519.publicBytes ed.signing).toList
         ed25519Signature := hex.encode edSig.toList
         falcon512PublicKey := hex.encode falcon.publicKey
         falcon512PublicKeySha256 := hex.encode (crypto.sha256 falcon.publicKey).toList
         falcon512SignatureWire := hex.encode wire.asWireBytes.toList
         falcon512SignatureEncodedLen := wire.encodedLen
         falcon512SignaturePaddingLen := wire.paddingLen }

/-- Verify an Ed25519 signature; malformed input is not valid. -/
def verifyEd25519 (publicKey signature message : List UInt8) : Bool :=
  if hkey : publicKey.length = 32 then
    if crypto.ed25519.verifyingKeyOk ⟨publicKey, hkey⟩ then
      if hsig : signature.length = 64 then
        crypto.ed25519.verify ⟨publicKey, hkey⟩ message ⟨signature, hsig⟩
      else false
    else false
  else false

/-- Verify with a key that is prepared first; a key that cannot be prepared is not valid. -/
def verifySolanaPreparing (wire : WireSignature) (message pubkeyWire : List UInt8) : Bool :=
  match crypto.falcon.preparePubkey pubkeyWire with
  | .ok prepared => crypto.falcon.verifySolanaPrepared wire message prepared
  | .error _ => false

/-- Verify a bundle with Ed25519 and with both Falcon implementations. -/
def verifyBundle (bundle : SignedBundle) : ClientRes VerificationReport := do
  -- the digest is computed again, and the published one only compared with it
  let intent ← bundle.intent.toIntent hex
  let recomputed := signingMaterial crypto intent
  let stored ← decodeHex hex "digest" bundle.digest
  let sharedDigest := decide (stored = recomputed.digest.toList)
  let message := recomputed.digest.toList
  let edPkBytes ← decodeHex hex "ed25519_public_key" bundle.ed25519PublicKey
  let edSigBytes ← decodeHex hex "ed25519_signature" bundle.ed25519Signature
  let ed25519Valid := verifyEd25519 crypto edPkBytes edSigBytes message
  let falconPkBytes ← decodeHex hex "falcon512_public_key" bundle.falcon512PublicKey
  let falconWireBytes ← decodeHex hex "falcon512_signature_wire" bundle.falcon512SignatureWire
  let wire ← WireSignature.fromWireBytes falconWireBytes
  pure { digest := recomputed.digest
         ed25519Valid
         falconPqcleanValid := crypto.falcon.verifyPqcleanWire wire message falconPkBytes
         falconSolanaValid := crypto.falcon.verifySolanaRaw wire message falconPkBytes
         falconSolanaPreparedValid := verifySolanaPreparing crypto wire message falconPkBytes
         sharedDigest }

/-! ### The bundle as it is read -/

/-- What the fields that are verified stand for. -/
structure OpenedBundle where
  intent : AuthorizationIntent
  storedDigest : List UInt8
  ed25519PublicKey : List UInt8
  ed25519Signature : List UInt8
  falconPublicKey : List UInt8
  wire : WireSignature

/-- The fields that are verified decode to the contents of `opened`. -/
structure SignedBundle.Opens (bundle : SignedBundle) (opened : OpenedBundle) : Prop where
  intent : bundle.intent.toIntent hex = .ok opened.intent
  digest : hex.decode bundle.digest = .ok opened.storedDigest
  ed25519PublicKey : hex.decode bundle.ed25519PublicKey = .ok opened.ed25519PublicKey
  ed25519Signature : hex.decode bundle.ed25519Signature = .ok opened.ed25519Signature
  falconPublicKey : hex.decode bundle.falcon512PublicKey = .ok opened.falconPublicKey
  wire : ∃ bytes, hex.decode bundle.falcon512SignatureWire = .ok bytes ∧
    WireSignature.fromWireBytes bytes = .ok opened.wire

/-- The report on a bundle that could be read. -/
def OpenedBundle.report (opened : OpenedBundle) : VerificationReport :=
  let digest := (signingMaterial crypto opened.intent).digest
  { digest
    ed25519Valid :=
      verifyEd25519 crypto opened.ed25519PublicKey opened.ed25519Signature digest.toList
    falconPqcleanValid :=
      crypto.falcon.verifyPqcleanWire opened.wire digest.toList opened.falconPublicKey
    falconSolanaValid :=
      crypto.falcon.verifySolanaRaw opened.wire digest.toList opened.falconPublicKey
    falconSolanaPreparedValid :=
      verifySolanaPreparing crypto opened.wire digest.toList opened.falconPublicKey
    sharedDigest := decide (opened.storedDigest = digest.toList) }

section Specs

variable {crypto} {hex} {bundle : SignedBundle} {report : VerificationReport}

theorem VerificationReport.allValid_iff : report.allValid = true ↔
    report.ed25519Valid = true ∧ report.falconPqcleanValid = true ∧
      report.falconSolanaValid = true ∧ report.falconSolanaPreparedValid = true ∧
      report.sharedDigest = true := by
  simp only [allValid, Bool.and_eq_true, and_assoc]

/-- A report is returned on the bundles that can be read. -/
theorem verifyBundle_eq_ok :
    verifyBundle crypto hex bundle = .ok report ↔
      ∃ opened, bundle.Opens hex opened ∧ opened.report crypto = report := by
  simp only [verifyBundle, ClientRes.bind_eq_ok, decodeHex_eq_ok, ClientRes.pure_eq_ok]
  constructor
  · rintro ⟨intent, hintent, stored, hstored, edPk, hedPk, edSig, hedSig, falconPk, hfalconPk,
      bytes, hbytes, wire, hwire, rfl⟩
    exact ⟨⟨intent, stored, edPk, edSig, falconPk, wire⟩,
      ⟨hintent, hstored, hedPk, hedSig, hfalconPk, bytes, hbytes, hwire⟩, rfl⟩
  · rintro ⟨opened, ⟨hintent, hstored, hedPk, hedSig, hfalconPk, bytes, hbytes, hwire⟩, rfl⟩
    exact ⟨_, hintent, _, hstored, _, hedPk, _, hedSig, _, hfalconPk, bytes, hbytes, _, hwire, rfl⟩

end Specs

end DualKey
