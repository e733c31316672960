import DualKey.Client.Sign
import DualKey.Properties.FalconPadding
import DualKey.Properties.IntentFiles

/-!
# What verifying a bundle says

A bundle that was signed verifies: what it publishes decodes to what was signed, and both
schemes verify the padded signature they produced.

Conversely a bundle that verifies publishes the digest of its intent, since the digest is
computed again and compared. The other derived values (the preimage, the hash of the Falcon
key, the two lengths) are published for the reader. The verifier recomputes what it needs and
reads none of them, so a report never depends on them.
-/

namespace DualKey

open Hex (Codec)
open Padding

variable {Coins : Type}

/-- Ed25519 signatures of the key verify under its public key. -/
structure Ed25519Keypair.Correct (ed25519 : Ed25519Dalek) (pair : Ed25519Keypair) : Prop where
  verifyingKeyOk : ed25519.verifyingKeyOk (ed25519.publicBytes pair.signing) = true
  sign_verify : ∀ message, ed25519.verify (ed25519.publicBytes pair.signing) message
    (ed25519.sign pair.signing message) = true

/-- Falcon signatures of the secret key that fit the wire verify under the public key in their
padded form, with the signer's implementation and with the program's. -/
structure FalconKeypair.Correct (falcon : FalconCrates Coins) (pair : FalconKeypair) : Prop where
  publicKeyOk : falcon.publicKeyOk pair.publicKey = true
  pubkeyOk : falcon.pubkeyOk pair.publicKey = true
  prepares : ∃ prepared, falcon.tryPreparePubkey pair.publicKey = some prepared
  sign_verify : ∀ coins message wire prepared,
    WireSignature.fromEncodedBytes (falcon.detachedSign coins message pair.secretKey) = .ok wire →
    falcon.tryPreparePubkey pair.publicKey = some prepared →
      falcon.detachedSignatureOk wire.asWireBytes.toList = true ∧
      falcon.verifyDetachedSignature wire.asWireBytes.toList message pair.publicKey = true ∧
      falcon.signatureOk wire.asWireBytes.toList = true ∧
      falcon.verify wire.asWireBytes.toList message pair.publicKey = true ∧
      falcon.verifyWithPrepared wire.asWireBytes.toList message prepared = true

/-- The published fields agree with the intent, the Falcon key and the signature. -/
def SignedBundle.Consistent (crypto : Crypto Coins) (hex : Codec) (bundle : SignedBundle) : Prop :=
  ∃ intent publicKey wireBytes,
    bundle.intent.toIntent hex = .ok intent ∧
    hex.decode bundle.falcon512PublicKey = .ok publicKey ∧
    hex.decode bundle.falcon512SignatureWire = .ok wireBytes ∧
    hex.decode bundle.digest = .ok (signingMaterial crypto intent).digest.toList ∧
    hex.decode bundle.canonicalPreimage = .ok (signingMaterial crypto intent).preimage.toList ∧
    hex.decode bundle.falcon512PublicKeySha256 = .ok (crypto.sha256 publicKey).toList ∧
    bundle.falcon512SignatureEncodedLen = (strip 0 wireBytes).length ∧
    bundle.falcon512SignaturePaddingLen =
      falconSignatureLen - bundle.falcon512SignatureEncodedLen

section Signing

variable {crypto : Crypto Coins} {hex : Codec} (hhex : hex.Lawful) {coins : ℕ → Coins}
  {intent : AuthorizationIntent} {ed : Ed25519Keypair} {falcon : FalconKeypair}
  {bundle : SignedBundle}

/-! ### A signed bundle verifies -/

/-- A signed bundle publishes what was signed, with the signature of one of the attempts. -/
theorem signIntent_eq_ok (h : signIntent crypto hex coins intent ed falcon = .ok bundle) :
    ∃ attempt wire,
      WireSignature.fromEncodedBytes (crypto.falcon.detachedSign (coins attempt)
        (signingMaterial crypto intent).digest.toList falcon.secretKey) = .ok wire ∧
      bundle = {
        format := "dualkey-signed-intent-v1"
        intent := .fromIntent hex intent
        digest := hex.encode (signingMaterial crypto intent).digest.toList
        canonicalPreimage := hex.encode (signingMaterial crypto intent).preimage.toList
        ed25519PublicKey := hex.encode (crypto.ed25519.publicBytes ed.signing).toList
        ed25519Signature := hex.encode (crypto.ed25519.sign ed.signing
          (signingMaterial crypto intent).digest.toList).toList
        falcon512PublicKey := hex.encode falcon.publicKey
        falcon512PublicKeySha256 := hex.encode (crypto.sha256 falcon.publicKey).toList
        falcon512SignatureWire := hex.encode wire.asWireBytes.toList
        falcon512SignatureEncodedLen := wire.encodedLen
        falcon512SignaturePaddingLen := wire.paddingLen } := by
  obtain ⟨⟨sig, wire, attempt⟩, hsign, hbundle⟩ := ClientRes.bind_eq_ok.mp h
  obtain ⟨-, -, rfl, hwire⟩ := FalconCrates.signToWireWithRetry_eq_ok hsign
  exact ⟨attempt, wire, hwire, (ClientRes.pure_eq_ok.mp hbundle).symm⟩

include hhex

/-- What a signed bundle is read as: the intent, keys and signatures that went into it. The
buffer of the signature is read back, its length may not be. -/
theorem opens_of_signIntent (h : signIntent crypto hex coins intent ed falcon = .ok bundle) :
    ∃ attempt wire wire',
      WireSignature.fromEncodedBytes (crypto.falcon.detachedSign (coins attempt)
        (signingMaterial crypto intent).digest.toList falcon.secretKey) = .ok wire ∧
      wire'.asWireBytes = wire.asWireBytes ∧
      bundle.Opens hex {
        intent := intent
        storedDigest := (signingMaterial crypto intent).digest.toList
        ed25519PublicKey := (crypto.ed25519.publicBytes ed.signing).toList
        ed25519Signature := (crypto.ed25519.sign ed.signing
          (signingMaterial crypto intent).digest.toList).toList
        falconPublicKey := falcon.publicKey
        wire := wire' } := by
  obtain ⟨attempt, wire, hwire, rfl⟩ := signIntent_eq_ok h
  obtain ⟨wire', hwire', hbytes, -⟩ := WireSignature.exists_fromWireBytes wire.asWireBytes
  refine ⟨attempt, wire, wire', hwire, hbytes, ?_⟩
  exact {
    intent := IntentSpec.toIntent_fromIntent hhex intent
    digest := hhex.decode_encode _
    ed25519PublicKey := hhex.decode_encode _
    ed25519Signature := hhex.decode_encode _
    falconPublicKey := hhex.decode_encode _
    wire := ⟨_, hhex.decode_encode _, hwire'⟩ }

omit hhex in
theorem verifyEd25519_toList {publicKey : ByteVec 32} {signature : ByteVec 64}
    {message : List UInt8} :
    verifyEd25519 crypto publicKey.toList signature.toList message =
      (crypto.ed25519.verifyingKeyOk publicKey &&
        crypto.ed25519.verify publicKey message signature) := by
  unfold verifyEd25519
  rw [dif_pos publicKey.toList_length, dif_pos signature.toList_length]
  show (if crypto.ed25519.verifyingKeyOk publicKey = true then
    crypto.ed25519.verify publicKey message signature else false) = _
  cases crypto.ed25519.verifyingKeyOk publicKey <;> rfl

omit hhex in
/-- The three Falcon verifiers accept a padded signature of a correct key pair. -/
theorem falcon_verifies (hfalcon : falcon.Correct crypto.falcon) {c : Coins}
    {message : List UInt8} {wire wire' : WireSignature}
    (hwire : WireSignature.fromEncodedBytes
      (crypto.falcon.detachedSign c message falcon.secretKey) = .ok wire)
    (hbytes : wire'.asWireBytes = wire.asWireBytes) :
    crypto.falcon.verifyPqcleanWire wire' message falcon.publicKey = true ∧
    crypto.falcon.verifySolanaRaw wire' message falcon.publicKey = true ∧
    verifySolanaPreparing crypto wire' message falcon.publicKey = true := by
  obtain ⟨prepared, hprepared⟩ := hfalcon.prepares
  obtain ⟨hdetached, hpqclean, hok, hraw, hprep⟩ :=
    hfalcon.sign_verify c message wire prepared hwire hprepared
  have hprepares : crypto.falcon.preparePubkey falcon.publicKey = .ok prepared := by
    rw [FalconCrates.preparePubkey, if_neg (by rw [hfalcon.pubkeyOk]; decide), hprepared]
  refine ⟨?_, ?_, ?_⟩
  · rw [FalconCrates.verifyPqcleanWire, hbytes, hfalcon.publicKeyOk, hdetached, hpqclean]
    rfl
  · rw [FalconCrates.verifySolanaRaw, hbytes, hfalcon.pubkeyOk, hok, hraw]
    rfl
  · rw [verifySolanaPreparing, hprepares]
    show crypto.falcon.verifySolanaPrepared wire' message prepared = true
    rw [FalconCrates.verifySolanaPrepared, hbytes, hok, hprep]
    rfl

theorem verifyBundle_signIntent (hed : ed.Correct crypto.ed25519)
    (hfalcon : falcon.Correct crypto.falcon)
    (h : signIntent crypto hex coins intent ed falcon = .ok bundle) :
    ∃ report, verifyBundle crypto hex bundle = .ok report ∧ report.allValid = true := by
  obtain ⟨attempt, wire, wire', hwire, hbytes, hopens⟩ := opens_of_signIntent hhex h
  refine ⟨_, verifyBundle_eq_ok.mpr ⟨_, hopens, rfl⟩, ?_⟩
  obtain ⟨hpqclean, hraw, hprepared⟩ := falcon_verifies hfalcon hwire hbytes
  refine VerificationReport.allValid_iff.mpr ⟨?_, hpqclean, hraw, hprepared, ?_⟩
  · show verifyEd25519 crypto _ _ _ = true
    rw [verifyEd25519_toList, hed.verifyingKeyOk, hed.sign_verify]
    rfl
  · exact decide_eq_true rfl

/-- A signed bundle is consistent, when the signer's encoding never ends in a zero. -/
theorem consistent_of_signIntent
    (htight : ∀ c message, Tight 0 (crypto.falcon.detachedSign c message falcon.secretKey))
    (h : signIntent crypto hex coins intent ed falcon = .ok bundle) :
    bundle.Consistent crypto hex := by
  obtain ⟨attempt, wire, hwire, rfl⟩ := signIntent_eq_ok h
  have hencoded : wire.encodedBytes = crypto.falcon.detachedSign (coins attempt)
      (signingMaterial crypto intent).digest.toList falcon.secretKey :=
    (WireSignature.fromEncodedBytes_eq_ok.mp hwire).2
  refine ⟨intent, _, _, IntentSpec.toIntent_fromIntent hhex intent, hhex.decode_encode _,
    hhex.decode_encode _, hhex.decode_encode _, hhex.decode_encode _, hhex.decode_encode _, ?_, rfl⟩
  show wire.encodedLen = (strip 0 wire.asWireBytes.toList).length
  rw [WireSignature.asWireBytes_eq_pad, strip_pad, ← WireSignature.length_encodedBytes, hencoded,
    strip_eq_self_iff.mpr (htight _ _)]

end Signing

/-! ### What a verified bundle says -/

section Verified

variable {crypto : Crypto Coins} {hex : Codec} {bundle : SignedBundle}
  {report : VerificationReport}

/-- A valid bundle publishes the digest of its intent. -/
theorem digest_of_allValid (h : verifyBundle crypto hex bundle = .ok report)
    (hvalid : report.allValid = true) :
    ∃ intent, bundle.intent.toIntent hex = .ok intent ∧
      hex.decode bundle.digest = .ok (signingMaterial crypto intent).digest.toList := by
  obtain ⟨opened, hopens, rfl⟩ := verifyBundle_eq_ok.mp h
  obtain ⟨-, -, -, -, hshared⟩ := VerificationReport.allValid_iff.mp hvalid
  have hstored : opened.storedDigest = (signingMaterial crypto opened.intent).digest.toList :=
    of_decide_eq_true hshared
  exact ⟨opened.intent, hopens.intent, hstored ▸ hopens.digest⟩

/-- Two valid bundles of one intent publish one digest, up to letter case. -/
theorem digest_sameUpToCase (hhex : hex.Lawful) {digest : String} {report' : VerificationReport}
    (h : verifyBundle crypto hex bundle = .ok report) (hvalid : report.allValid = true)
    (h' : verifyBundle crypto hex { bundle with digest := digest } = .ok report')
    (hvalid' : report'.allValid = true) :
    Hex.SameUpToCase bundle.digest digest := by
  obtain ⟨intent, hintent, hdigest⟩ := digest_of_allValid h hvalid
  obtain ⟨intent', hintent', hdigest'⟩ := digest_of_allValid h' hvalid'
  obtain rfl : intent = intent' := Except.ok.inj (hintent.symm.trans hintent')
  exact hhex.sameUpToCase hdigest hdigest'

/-- The verifier reads no field that is published for the reader. -/
theorem verifyBundle_audit_fields (crypto : Crypto Coins) (hex : Codec) (bundle : SignedBundle)
    (format preimage sha256 : String) (encodedLen paddingLen : ℕ) :
    verifyBundle crypto hex { bundle with
      format := format
      canonicalPreimage := preimage
      falcon512PublicKeySha256 := sha256
      falcon512SignatureEncodedLen := encodedLen
      falcon512SignaturePaddingLen := paddingLen } = verifyBundle crypto hex bundle := rfl

end Verified

/-- **A signed bundle verifies, and a bundle that verifies publishes its digest.** With a lawful
codec and correct key pairs, every bundle that is signed verifies; it is consistent when the
signer's encodings do not end in a zero. Every bundle that verifies publishes the digest of its
intent, so another digest in its place is detected. The fields published for the reader are not
read: whatever they contain, the outcome is the same. -/
theorem signed_bundle_verification (crypto : Crypto Coins) (hex : Codec) (hhex : hex.Lawful) :
    (∀ (coins : ℕ → Coins) (intent : AuthorizationIntent) (ed : Ed25519Keypair)
      (falcon : FalconKeypair) (bundle : SignedBundle),
      ed.Correct crypto.ed25519 → falcon.Correct crypto.falcon →
      signIntent crypto hex coins intent ed falcon = .ok bundle →
        (∃ report, verifyBundle crypto hex bundle = .ok report ∧ report.allValid = true) ∧
        ((∀ c message, Tight 0 (crypto.falcon.detachedSign c message falcon.secretKey)) →
          bundle.Consistent crypto hex)) ∧
    (∀ (bundle : SignedBundle) (report : VerificationReport),
      verifyBundle crypto hex bundle = .ok report → report.allValid = true →
        (∃ intent, bundle.intent.toIntent hex = .ok intent ∧
          hex.decode bundle.digest = .ok (signingMaterial crypto intent).digest.toList) ∧
        ∀ (digest : String) (report' : VerificationReport),
          verifyBundle crypto hex { bundle with digest := digest } = .ok report' →
          report'.allValid = true → Hex.SameUpToCase bundle.digest digest) ∧
    ∀ (bundle : SignedBundle) (format preimage sha256 : String) (encodedLen paddingLen : ℕ),
      verifyBundle crypto hex { bundle with
        format := format
        canonicalPreimage := preimage
        falcon512PublicKeySha256 := sha256
        falcon512SignatureEncodedLen := encodedLen
        falcon512SignaturePaddingLen := paddingLen } = verifyBundle crypto hex bundle := by
  refine ⟨?_, ?_, verifyBundle_audit_fields crypto hex⟩
  · intro coins intent ed falcon bundle hed hfalcon h
    exact ⟨verifyBundle_signIntent hhex hed hfalcon h,
      fun htight => consistent_of_signIntent hhex htight h⟩
  · intro bundle report h hvalid
    -- both digests decode to the digest of the intent, so they are hexadecimal for the same bytes
    exact ⟨digest_of_allValid h hvalid,
      fun _ _ h' hvalid' => digest_sameUpToCase hhex h hvalid h' hvalid'⟩

/-! ### A sample cryptography

A signature is the message itself, framed, and a verifier compares. -/

namespace SampleCrypto

def falconSignature (message : List UInt8) : List UInt8 := 0x39 :: message ++ [1]

def falcon : FalconCrates Unit where
  detachedSign _ message _ := falconSignature message
  publicKeyOk key := decide (key.length = 897)
  detachedSignatureOk signature := decide (signature.length ≤ 752)
  verifyDetachedSignature signature message _ :=
    decide (signature = pad 0 falconSignatureLen (falconSignature message))
  pubkeyOk key := decide (key.length = 897)
  signatureOk signature := decide (signature.length = 666)
  verify signature message _ :=
    decide (signature = pad 0 falconSignatureLen (falconSignature message))
  tryPreparePubkey _ := some (ByteVec.zero 1024)
  verifyWithPrepared signature message _ :=
    decide (signature = pad 0 falconSignatureLen (falconSignature message))

def ed25519 : Ed25519Dalek where
  publicBytes seed := seed
  sign seed message := Buffer.readVec 64 (message ++ seed.toList) 0
  verifyingKeyOk _ := true
  verify key message signature :=
    decide (signature = Buffer.readVec 64 (message ++ key.toList) 0)

def crypto : Crypto Unit where
  sha256 bytes := Buffer.readVec 32 bytes 0
  ed25519 := ed25519
  falcon := falcon

def ed25519Keypair : Ed25519Keypair := ⟨List.Vector.replicate 32 5⟩

def falconKeypair : FalconKeypair := ⟨List.replicate 897 9, []⟩

theorem ed25519Keypair_correct : ed25519Keypair.Correct ed25519 where
  verifyingKeyOk := rfl
  sign_verify _ := decide_eq_true rfl

theorem length_publicKey : falconKeypair.publicKey.length = 897 := List.length_replicate

theorem key_ok {key : List UInt8} (h : key.length = 897) :
    falcon.publicKeyOk key = true ∧ falcon.pubkeyOk key = true :=
  ⟨decide_eq_true h, decide_eq_true h⟩

theorem falconKeypair_correct : falconKeypair.Correct falcon where
  publicKeyOk := (key_ok length_publicKey).1
  pubkeyOk := (key_ok length_publicKey).2
  prepares := ⟨_, rfl⟩
  sign_verify c message wire prepared hwire hprepared := by
    have hpad : wire.asWireBytes.toList = pad 0 falconSignatureLen (falconSignature message) := by
      rw [WireSignature.asWireBytes_eq_pad, (WireSignature.fromEncodedBytes_eq_ok.mp hwire).2]
      rfl
    have hlen : wire.asWireBytes.toList.length = 666 := List.Vector.toList_length _
    have hshort : wire.asWireBytes.toList.length ≤ 752 := by omega
    exact ⟨decide_eq_true hshort, decide_eq_true hpad, decide_eq_true hlen,
      decide_eq_true hpad, decide_eq_true hpad⟩

theorem exists_signIntent :
    ∃ bundle, signIntent crypto Hex.standard (fun _ => ()) testVectorIntent ed25519Keypair
      falconKeypair = .ok bundle := by
  have hfits : (falcon.detachedSign () (signingMaterial crypto testVectorIntent).digest.toList
      []).length ≤ falconSignatureLen := by
    show (falconSignature (signingMaterial crypto testVectorIntent).digest.toList).length ≤ 666
    rw [falconSignature, List.length_append, List.length_cons, List.Vector.toList_length]
    decide
  obtain ⟨signed, hsigned⟩ :
      ∃ signed, falcon.signToWireWithRetry (fun _ => ()) _ _ 8 = .ok signed :=
    FalconCrates.exists_signToWireWithRetry le_rfl (by decide) hfits
  exact ⟨_, ClientRes.bind_eq_ok.mpr ⟨signed, hsigned, rfl⟩⟩

end SampleCrypto

open SampleCrypto

theorem signed_bundle_verification_sample :
    ∃ bundle report,
      signIntent crypto Hex.standard (fun _ => ()) testVectorIntent ed25519Keypair falconKeypair =
        .ok bundle ∧
      verifyBundle crypto Hex.standard bundle = .ok report ∧ report.allValid = true := by
  obtain ⟨bundle, hbundle⟩ := exists_signIntent
  obtain ⟨⟨report, hreport, hvalid⟩, -⟩ :=
    (signed_bundle_verification crypto Hex.standard Hex.standard_lawful).1 (fun _ => ())
      testVectorIntent ed25519Keypair falconKeypair bundle ed25519Keypair_correct
      falconKeypair_correct hbundle
  exact ⟨bundle, report, hbundle, hreport, hvalid⟩

/-- A signed bundle whose preimage is erased still verifies, and it is not consistent. -/
theorem erased_preimage_verifies :
    ∃ bundle report,
      signIntent crypto Hex.standard (fun _ => ()) testVectorIntent ed25519Keypair falconKeypair =
        .ok bundle ∧
      verifyBundle crypto Hex.standard { bundle with canonicalPreimage := "" } = .ok report ∧
      report.allValid = true ∧
      ¬ SignedBundle.Consistent crypto Hex.standard { bundle with canonicalPreimage := "" } := by
  obtain ⟨bundle, hbundle⟩ := exists_signIntent
  obtain ⟨report, hreport, hvalid⟩ := verifyBundle_signIntent Hex.standard_lawful
    ed25519Keypair_correct falconKeypair_correct hbundle
  refine ⟨bundle, report, hbundle, hreport, hvalid, ?_⟩
  -- no text of length zero stands for the 172 bytes of a preimage
  rintro ⟨intent, publicKey, wireBytes, -, -, -, -, hpreimage, -⟩
  have hlen : 0 = 2 * (signingMaterial crypto intent).preimage.toList.length :=
    Hex.standard_lawful.length_eq hpreimage
  rw [List.Vector.toList_length] at hlen
  exact absurd hlen (by decide)

end DualKey
