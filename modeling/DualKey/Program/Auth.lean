import DualKey.Program.Ed25519

/-!
# Falcon verification and requirement evaluation

The Falcon checks wrap the third-party verifier; `evaluateRequirement` decides whether
the validity bits of the two schemes meet a requirement. `SatisfiedBy` is the meaning
of a requirement, and `satisfiedBy_meet` the reason `ChangePolicy` may use `meet`:
meeting the stricter of two requirements is meeting both.
-/

namespace DualKey

variable (P : Platform)

/-- Verify a Falcon-512 signature against a prepared key. -/
def verifyFalconPrepared (preparedPubkey message signature : List UInt8) : DkRes Unit := do
  Res.failIf (P.falconPreparedOk preparedPubkey = false) .malformedFalcon
  Res.failIf (P.falconSignatureOk signature = false) .malformedFalcon
  Res.failIf (P.falconVerifyWithPrepared signature message preparedPubkey = false) .invalidFalcon

/-- Verify a Falcon-512 signature against a raw wire key. -/
def verifyFalconRaw (pubkeyWire message signature : List UInt8) : DkRes Unit := do
  Res.failIf (P.falconPubkeyOk pubkeyWire = false) .malformedFalcon
  Res.failIf (P.falconSignatureOk signature = false) .malformedFalcon
  Res.failIf (P.falconVerify signature message pubkeyWire = false) .invalidFalcon

/-- A Falcon signature is valid for a prepared key over a message. -/
def FalconValid (prepared : PreparedFalconPubkey) (message signature : List UInt8) : Prop :=
  verifyFalconPrepared P prepared.toList message signature = .ok ()

/-- Results of the scheme checks before the requirement is evaluated. -/
structure SignatureValidity where
  ed25519Valid : Bool
  falconValid : Bool
deriving DecidableEq

/-- Evaluate whether `sigs` satisfies a requirement. -/
def evaluateRequirement (req : SignatureRequirement) (sigs : SignatureValidity) : DkRes Unit :=
  match req with
  | .ed25519 => if sigs.ed25519Valid then pure () else Res.fail .invalidEd25519
  | .falcon => if sigs.falconValid then pure () else Res.fail .invalidFalcon
  | .both => do
    Res.failIf (sigs.ed25519Valid = false) .invalidEd25519
    Res.failIf (sigs.falconValid = false) .invalidFalcon
  | .either =>
    if sigs.ed25519Valid || sigs.falconValid then pure () else Res.fail .policyRejected

/-- The meaning of a requirement, given which schemes verify. -/
def SignatureRequirement.SatisfiedBy (req : SignatureRequirement) (ed25519 falcon : Prop) :
    Prop :=
  match req with
  | .either => ed25519 ∨ falcon
  | .ed25519 => ed25519
  | .falcon => falcon
  | .both => ed25519 ∧ falcon

theorem SignatureRequirement.satisfiedBy_meet {r r' : SignatureRequirement} {e f : Prop} :
    (r.meet r').SatisfiedBy e f ↔ r.SatisfiedBy e f ∧ r'.SatisfiedBy e f := by
  cases r <;> cases r' <;> simp only [meet, SatisfiedBy] <;> tauto

theorem evaluateRequirement_eq_ok {req : SignatureRequirement} {sigs : SignatureValidity}
    {u : Unit} :
    evaluateRequirement req sigs = .ok u ↔
      req.SatisfiedBy (sigs.ed25519Valid = true) (sigs.falconValid = true) := by
  obtain ⟨ed25519, falcon⟩ := sigs
  cases req <;> cases ed25519 <;> cases falcon <;>
    simp [evaluateRequirement, SignatureRequirement.SatisfiedBy]

/-- Verify the schemes a requirement demands. A demanded scheme that fails is an error;
under `either` both are probed. -/
def collectSignatures (inv : InvokeContext) (req : SignatureRequirement)
    (instructionsSysvar : AccountInfo) (ownerEd25519 : Pubkey)
    (prepared : PreparedFalconPubkey) (digest : Digest) (falconSig : List UInt8) :
    DkRes SignatureValidity := do
  let ed25519 := verifyEd25519Precompile inv instructionsSysvar ownerEd25519 digest
  let falcon := verifyFalconPrepared P prepared.toList digest.toList falconSig
  -- a scheme that is not demanded is not looked at, and counts as not valid
  let ed25519Valid ← match req with
    | .ed25519 | .both => do
      ed25519
      pure true
    | .either => ed25519.attempt
    | .falcon => pure false
  let falconValid ← match req with
    | .falcon | .both => do
      falcon
      pure true
    | .either => falcon.attempt
    | .ed25519 => pure false
  pure { ed25519Valid, falconValid }

section Specs

variable {P} {inv : InvokeContext} {req : SignatureRequirement} {sysvar : AccountInfo}
  {owner : Pubkey} {prepared : PreparedFalconPubkey} {digest : Digest} {falconSig : List UInt8}

theorem verifyFalconPrepared_returns {prepared message signature : List UInt8} :
    (verifyFalconPrepared P prepared message signature).Returns :=
  (Res.returns_failIf _ _).bind fun _ _ => (Res.returns_failIf _ _).bind fun _ _ =>
    Res.returns_failIf _ _

/-- Collecting the demanded schemes and evaluating the requirement succeeds exactly when
the schemes that verify satisfy the requirement. -/
theorem collectSignatures_evaluate {u : Unit} :
    (∃ sigs, collectSignatures P inv req sysvar owner prepared digest falconSig = .ok sigs ∧
        evaluateRequirement req sigs = .ok u) ↔
      req.SatisfiedBy (verifyEd25519Precompile inv sysvar owner digest = .ok ())
        (FalconValid P prepared digest.toList falconSig) := by
  have hed : (verifyEd25519Precompile inv sysvar owner digest).Returns :=
    verifyEd25519Precompile_returns
  have hfalcon : (verifyFalconPrepared P prepared.toList digest.toList falconSig).Returns :=
    verifyFalconPrepared_returns
  simp only [evaluateRequirement_eq_ok, FalconValid, collectSignatures]
  generalize verifyEd25519Precompile inv sysvar owner digest = ed25519 at hed ⊢
  generalize verifyFalconPrepared P prepared.toList digest.toList falconSig = falcon at hfalcon ⊢
  -- both checks return, so each requirement is decided by which of the two succeeded
  rcases hed with ⟨⟨⟩, rfl⟩ | ⟨e, rfl⟩ <;> rcases hfalcon with ⟨⟨⟩, rfl⟩ | ⟨e', rfl⟩ <;>
    cases req <;> simp [SignatureRequirement.SatisfiedBy]

end Specs

end DualKey
