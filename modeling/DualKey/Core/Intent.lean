import DualKey.Foundations.Exec
import DualKey.Foundations.Buffer

/-!
# Error codes, actions and authorization intents

The shared vocabulary of the client and the program: the error codes, the actions
an owner can sign, and the intent that both signature schemes sign.
-/

namespace DualKey

/-- A Solana address or an Ed25519 public key: 32 bytes. -/
abbrev Pubkey := ByteVec 32

/-- A SHA-256 digest. -/
abbrev Digest := ByteVec 32

/-- The error codes of authorization and account logic. -/
inductive DualKeyError where
  | unimplemented
  | invalidAccountData
  | invalidPda
  | unsupportedVersion
  | invalidNonce
  | intentExpired
  | invalidEd25519
  | invalidFalcon
  | policyRejected
  | malformedFalcon
  | malformedEd25519Precompile
  | unsupportedAction
  | chainDomainMismatch
  | policyNotImplemented
  | mathOverflow
  | insufficientFunds
  | malformedInstructionData
  | digestMismatch
  | missingSigner
  | accountAlreadyInitialized
  | invalidProgramAccount
deriving DecidableEq, Repr

/-- A pure computation of the program. -/
abbrev DkRes := Res DualKeyError

/-- Sub-operation of `Action.recoverAccount`. -/
inductive RecoveryOp where
  /-- Set the recovery flag. -/
  | enable
  /-- Clear the recovery flag. -/
  | disable
  /-- Replace the Ed25519 owner with Falcon alone (requires the flag). -/
  | rotateEd25519
deriving DecidableEq, Repr

namespace RecoveryOp

def fromU8 : UInt8 → Option RecoveryOp
  | 0 => some enable
  | 1 => some disable
  | 2 => some rotateEd25519
  | _ => none

def asU8 : RecoveryOp → UInt8
  | enable => 0
  | disable => 1
  | rotateEd25519 => 2

@[simp] theorem fromU8_asU8 (op : RecoveryOp) : fromU8 op.asU8 = some op := by
  cases op <;> rfl

/-- An operation has one code, and the codes are the bytes up to 2. -/
theorem fromU8_eq_some {b : UInt8} {op : RecoveryOp} : fromU8 b = some op ↔ op.asU8 = b := by
  constructor
  · intro h
    unfold fromU8 at h
    split at h <;> cases h <;> rfl
  · rintro rfl
    exact fromU8_asU8 op

theorem exists_asU8 {b : UInt8} : (∃ op : RecoveryOp, op.asU8 = b) ↔ b ≤ 2 := by
  constructor
  · rintro ⟨op, rfl⟩
    cases op <;> decide
  · intro h
    have hcase : b = 0 ∨ b = 1 ∨ b = 2 := by
      rw [UInt8.le_iff_toNat_le] at h
      simp only [← UInt8.toNat_inj]
      change b.toNat ≤ 2 at h
      change b.toNat = 0 ∨ b.toNat = 1 ∨ b.toNat = 2
      omega
    obtain rfl | rfl | rfl := hcase
    · exact ⟨enable, rfl⟩
    · exact ⟨disable, rfl⟩
    · exact ⟨rotateEd25519, rfl⟩

end RecoveryOp

/-- An authorized action, as encoded inside an intent. -/
inductive Action where
  /-- Transfer lamports from the vault to `recipient`. -/
  | transferSol (recipient : Pubkey) (lamports : UInt64)
  /-- Replace the Ed25519 owner key. -/
  | rotateEd25519Key (newPubkey : Pubkey)
  /-- Replace the Falcon key; the body carries the hash of the new wire key. -/
  | rotateFalconKey (newPubkeyHash : Digest)
  /-- Transfer tokens from a token account the vault controls. -/
  | transferSpl (destination : Pubkey) (amount : UInt64)
  /-- Replace the authorization policy. -/
  | changePolicy (newPolicy : UInt8) (threshold : UInt64)
  /-- Recovery controls; the key is zero unless `op` rotates. -/
  | recoverAccount (op : RecoveryOp) (newEd25519 : Pubkey)
  /-- Set or replace the social-recovery guardian and delay. -/
  | setRecoveryConfig (guardianEd25519 : Pubkey) (delaySlots : UInt64)
  /-- Cancel a pending social recovery. -/
  | cancelSocialRecovery
deriving DecidableEq

namespace Action

/-- The tag byte written into the canonical preimage and the wire fragment. -/
def tag : Action → UInt8
  | transferSol .. => 1
  | transferSpl .. => 2
  | rotateEd25519Key .. => 3
  | rotateFalconKey .. => 4
  | changePolicy .. => 5
  | recoverAccount .. => 6
  | setRecoveryConfig .. => 7
  | cancelSocialRecovery => 8

/-- Privileged actions: everything except transfers. -/
def isPrivileged : Action → Bool
  | rotateEd25519Key .. => true
  | rotateFalconKey .. => true
  | changePolicy .. => true
  | recoverAccount .. => true
  | setRecoveryConfig .. => true
  | cancelSocialRecovery => true
  | transferSol .. => false
  | transferSpl .. => false

/-! The contents of an action of a given kind (`let Action::Kind { .. } = action else`). -/

def rotateEd25519Key? : Action → Option Pubkey
  | rotateEd25519Key newPubkey => some newPubkey
  | _ => none

def rotateFalconKey? : Action → Option Digest
  | rotateFalconKey newPubkeyHash => some newPubkeyHash
  | _ => none

def changePolicy? : Action → Option (UInt8 × UInt64)
  | changePolicy newPolicy threshold => some (newPolicy, threshold)
  | _ => none

def recoverAccount? : Action → Option (RecoveryOp × Pubkey)
  | recoverAccount op newEd25519 => some (op, newEd25519)
  | _ => none

def setRecoveryConfig? : Action → Option (Pubkey × UInt64)
  | setRecoveryConfig guardianEd25519 delaySlots => some (guardianEd25519, delaySlots)
  | _ => none

theorem rotateEd25519Key?_eq_some {a : Action} {k : Pubkey} :
    a.rotateEd25519Key? = some k ↔ a = .rotateEd25519Key k := by
  cases a <;> simp [rotateEd25519Key?]

theorem rotateFalconKey?_eq_some {a : Action} {h : Digest} :
    a.rotateFalconKey? = some h ↔ a = .rotateFalconKey h := by
  cases a <;> simp [rotateFalconKey?]

theorem changePolicy?_eq_some {a : Action} {p : UInt8} {t : UInt64} :
    a.changePolicy? = some (p, t) ↔ a = .changePolicy p t := by
  cases a <;> simp [changePolicy?]

theorem recoverAccount?_eq_some {a : Action} {op : RecoveryOp} {k : Pubkey} :
    a.recoverAccount? = some (op, k) ↔ a = .recoverAccount op k := by
  cases a <;> simp [recoverAccount?]

theorem setRecoveryConfig?_eq_some {a : Action} {g : Pubkey} {d : UInt64} :
    a.setRecoveryConfig? = some (g, d) ↔ a = .setRecoveryConfig g d := by
  cases a <;> simp [setRecoveryConfig?]

end Action

/-- The schema version of an intent. -/
def intentVersion : UInt8 := 1

/-- The intent both schemes sign. -/
@[ext] structure AuthorizationIntent where
  version : UInt8
  chainDomain : ByteVec 32
  programId : Pubkey
  /-- The vault address. -/
  account : Pubkey
  /-- The vault nonce the intent was signed for. -/
  nonce : UInt64
  /-- The last slot at which the intent is valid. -/
  expirySlot : UInt64
  action : Action
deriving DecidableEq

end DualKey
