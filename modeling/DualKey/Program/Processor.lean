import DualKey.Program.ChangePolicy
import DualKey.Program.Execute
import DualKey.Program.Recover
import DualKey.Program.Rotate

/-!
# The instruction processor

The first byte of the instruction data selects the handler. Discriminators 0 to 9 are
the live instructions; 240 to 243 are verification oracles that own no account and
change nothing.
-/

namespace DualKey

variable (P : Platform)

/-! ### The verification harness -/

/-- Rebuild a digest from a vault account and a wire fragment and compare it. -/
def processReconstructCanonicalDigest (accounts : List AccountInfo) (payload : List UInt8) :
    Prog Unit := do
  Exec.failIf (payload.length ≠ 81) .malformedInstructionData
  let accountInfo ← Exec.okOr accounts.head? .malformedInstructionData
  let (wireBytes, expected) ← Exec.okOr (Buffer.splitAtChecked payload executeIntentWireLen)
    .malformedInstructionData
  let wire ← ExecuteIntentWire.decode wireBytes
  Exec.failIf (expected.length ≠ 32) .malformedInstructionData
  let (digest, _) ← reconstructAndDigest P accountInfo wire
  Exec.failIf (digest.toList ≠ expected) .digestMismatch

/-- Verify a Falcon signature against the prepared key at the start of account data. -/
def processVerifyFalconPrepared (accounts : List AccountInfo) (payload : List UInt8) :
    Prog Unit := do
  let account ← Exec.okOr accounts.head? .malformedInstructionData
  let (signature, message) ← Exec.okOr (Buffer.splitAtChecked payload falconSignatureLen)
    .malformedInstructionData
  account.tryBorrowData fun data => do
    let prepared ← Res.okOr (Buffer.readRange data 0 preparedFalconPubkeyLen) .invalidAccountData
    verifyFalconPrepared P prepared message signature

/-- Verify a Falcon signature against a wire key from the instruction data. -/
def processVerifyFalconRaw (payload : List UInt8) : Prog Unit := do
  let (signature, rest) ← Exec.okOr (Buffer.splitAtChecked payload falconSignatureLen)
    .malformedInstructionData
  let (pubkey, message) ← Exec.okOr (Buffer.splitAtChecked rest falconWirePubkeyLen)
    .malformedInstructionData
  verifyFalconRaw P pubkey message signature

/-- Digest a preimage from the instruction data and compare it. -/
def processVerifyCanonicalDigest (payload : List UInt8) : Prog Unit := do
  Exec.failIf (payload.length ≠ canonicalPreimageLen + 32) .malformedInstructionData
  let preimage := payload.take canonicalPreimageLen
  let expected := payload.drop canonicalPreimageLen
  let digest ← digestCanonicalPreimage P preimage
  Exec.failIf (digest.toList ≠ expected) .digestMismatch

/-! ### Dispatch -/

/-- Instruction discriminators. -/
inductive DualKeyInstruction where
  | initializeAccount
  | execute
  | rotateEd25519Key
  | rotateFalconKey
  | changePolicy
  | recoverAccount
  | setRecoveryConfig
  | initiateSocialRecovery
  | finalizeSocialRecovery
  | cancelSocialRecovery
  | verifyFalconPrepared
  | verifyFalconRaw
  | verifyCanonicalDigest
  | reconstructCanonicalDigest
deriving DecidableEq, Repr

namespace DualKeyInstruction

/-- Parse the discriminator byte. -/
def fromU8 : UInt8 → Option DualKeyInstruction
  | 0 => some .initializeAccount
  | 1 => some .execute
  | 2 => some .rotateEd25519Key
  | 3 => some .rotateFalconKey
  | 4 => some .changePolicy
  | 5 => some .recoverAccount
  | 6 => some .setRecoveryConfig
  | 7 => some .initiateSocialRecovery
  | 8 => some .finalizeSocialRecovery
  | 9 => some .cancelSocialRecovery
  | 240 => some .verifyFalconPrepared
  | 241 => some .verifyFalconRaw
  | 242 => some .verifyCanonicalDigest
  | 243 => some .reconstructCanonicalDigest
  | _ => none

def asU8 : DualKeyInstruction → UInt8
  | .initializeAccount => 0
  | .execute => 1
  | .rotateEd25519Key => 2
  | .rotateFalconKey => 3
  | .changePolicy => 4
  | .recoverAccount => 5
  | .setRecoveryConfig => 6
  | .initiateSocialRecovery => 7
  | .finalizeSocialRecovery => 8
  | .cancelSocialRecovery => 9
  | .verifyFalconPrepared => 240
  | .verifyFalconRaw => 241
  | .verifyCanonicalDigest => 242
  | .reconstructCanonicalDigest => 243

def isVerificationHarness : DualKeyInstruction → Bool
  | .verifyFalconPrepared => true
  | .verifyFalconRaw => true
  | .verifyCanonicalDigest => true
  | .reconstructCanonicalDigest => true
  | _ => false

theorem fromU8_eq_some {b : UInt8} {ix : DualKeyInstruction} :
    fromU8 b = some ix ↔ b = ix.asU8 := by
  constructor
  · unfold fromU8
    split <;> intro h <;> cases h <;> rfl
  · rintro rfl
    cases ix <;> rfl

end DualKeyInstruction

namespace Processor

/-- The handler of an instruction. -/
def handler (ix : DualKeyInstruction) (accounts : List AccountInfo) (payload : List UInt8) :
    Prog Unit :=
  match ix with
  | .verifyFalconPrepared => processVerifyFalconPrepared P accounts payload
  | .verifyFalconRaw => processVerifyFalconRaw P payload
  | .verifyCanonicalDigest => processVerifyCanonicalDigest P payload
  | .reconstructCanonicalDigest => processReconstructCanonicalDigest P accounts payload
  | .initializeAccount => Initialize.process P accounts payload
  | .execute => Execute.process P accounts payload
  | .rotateEd25519Key => Rotate.processRotateEd25519 P accounts payload
  | .rotateFalconKey => Rotate.processRotateFalcon P accounts payload
  | .changePolicy => ChangePolicy.process P accounts payload
  | .recoverAccount => Recover.process P accounts payload
  | .setRecoveryConfig => SocialRecovery.processSetRecoveryConfig P accounts payload
  | .initiateSocialRecovery => SocialRecovery.processInitiateSocialRecovery P accounts payload
  | .finalizeSocialRecovery => SocialRecovery.processFinalizeSocialRecovery P accounts payload
  | .cancelSocialRecovery => SocialRecovery.processCancelSocialRecovery P accounts payload

/-- Dispatch on the discriminator byte. -/
def process (accounts : List AccountInfo) (instructionData : List UInt8) : Prog Unit :=
  match instructionData with
  -- an instruction without data has no discriminator
  | [] => Exec.fail .malformedInstructionData
  | discriminator :: payload => do
    let ix ← Exec.okOr (DualKeyInstruction.fromU8 discriminator) .malformedInstructionData
    handler P ix accounts payload

section Specs

variable {P} {inv : InvokeContext} {m m' : Machine} {payload : List UInt8}

/-- A discriminator runs its handler. -/
theorem process_asU8 (ix : DualKeyInstruction) (accounts : List AccountInfo) :
    process P accounts (ix.asU8 :: payload) = handler P ix accounts payload := by
  show (Exec.okOr (DualKeyInstruction.fromU8 ix.asU8) _ >>= _) = _
  rw [Exec.okOr_of_some (DualKeyInstruction.fromU8_eq_some.mpr rfl)]
  rfl

/-- The instruction data is a discriminator and the payload of its handler. -/
theorem process_eq_ok {data : List UInt8} {u : Unit} :
    process P inv.accounts data inv.enter m = .ok (u, m') ↔
      ∃ (ix : DualKeyInstruction) (payload : List UInt8), data = ix.asU8 :: payload ∧
        handler P ix inv.accounts payload inv.enter m = .ok (u, m') := by
  cases data with
  | nil =>
    refine ⟨fun h => absurd h Exec.fail_ne_ok, ?_⟩
    rintro ⟨ix, payload, hdata, -⟩
    cases hdata
  | cons discriminator payload =>
    simp only [process, Exec.bind_eq_ok, Exec.okOr_eq_ok, DualKeyInstruction.fromU8_eq_some]
    constructor
    · rintro ⟨ix, _, ⟨rfl, rfl⟩, h⟩
      exact ⟨ix, payload, rfl, h⟩
    · rintro ⟨ix, payload', hdata, h⟩
      obtain ⟨rfl, rfl⟩ := List.cons.inj hdata
      exact ⟨ix, m, ⟨rfl, rfl⟩, h⟩

/-- The harness leaves the machine alone. -/
theorem harness_frame {ix : DualKeyInstruction} (hix : ix.isVerificationHarness = true) {u : Unit}
    (h : handler P ix inv.accounts payload inv.enter m = .ok (u, m')) : m' = m := by
  cases ix with
  | verifyFalconPrepared =>
    simp only [handler, processVerifyFalconPrepared, Exec.bind_eq_ok, Exec.okOr_eq_ok, Prod.exists,
      AccountInfo.tryBorrowData_eq_ok] at h
    obtain ⟨_, _, ⟨-, rfl⟩, _, _, _, ⟨-, rfl⟩, -, rfl⟩ := h
    rfl
  | verifyFalconRaw =>
    simp only [handler, processVerifyFalconRaw, Exec.bind_eq_ok, Exec.okOr_eq_ok, Prod.exists,
      Exec.liftM_eq_ok] at h
    obtain ⟨_, _, _, ⟨-, rfl⟩, _, _, _, ⟨-, rfl⟩, -, rfl⟩ := h
    rfl
  | verifyCanonicalDigest =>
    simp only [handler, processVerifyCanonicalDigest, Exec.bind_eq_ok, Exec.failIf_eq_ok,
      Exec.liftM_eq_ok] at h
    obtain ⟨_, _, ⟨-, rfl⟩, _, _, ⟨-, rfl⟩, -, rfl⟩ := h
    rfl
  | reconstructCanonicalDigest =>
    simp only [handler, processReconstructCanonicalDigest, Exec.bind_eq_ok, Exec.failIf_eq_ok,
      Exec.okOr_eq_ok, Exec.liftM_eq_ok, Prod.exists, reconstructAndDigest_eq_ok] at h
    obtain ⟨_, _, ⟨-, rfl⟩, _, _, ⟨-, rfl⟩, _, _, _, ⟨-, rfl⟩, h⟩ := h
    obtain ⟨_, _, ⟨-, rfl⟩, _, _, ⟨-, rfl⟩, _, _, _, ⟨rfl, -⟩, -, rfl⟩ := h
    rfl
  | _ => exact absurd hix (by decide)

end Specs

end Processor

end DualKey
