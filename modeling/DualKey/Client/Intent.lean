import DualKey.Client.Error
import DualKey.Core.Intent

/-!
# Intent files

An intent is written to a file with its keys as hexadecimal text. `IntentSpec` is the contents
of such a file, `toIntent` the intent it stands for, and `fromIntent` the file of an intent.
The signed bytes are those of the intent, the file is never signed.

The hexadecimal codec is a parameter.
-/

namespace DualKey

open Hex (Codec)

/-- The action of an intent file. -/
inductive ActionSpec where
  | transferSol (recipient : String) (lamports : UInt64)
  | transferSpl (destination : String) (amount : UInt64)
  | rotateEd25519Key (newPubkey : String)
  | rotateFalconKey (newPubkeyHash : String)
  | changePolicy (newPolicy : UInt8) (threshold : UInt64)
  | recoverAccount (op : UInt8) (newEd25519 : String)
  | setRecoveryConfig (guardianEd25519 : String) (delaySlots : UInt64)
  | cancelSocialRecovery
deriving DecidableEq

/-- The contents of an intent file. -/
@[ext] structure IntentSpec where
  version : UInt8
  chainDomain : String
  programId : String
  account : String
  nonce : UInt64
  expirySlot : UInt64
  action : ActionSpec
deriving DecidableEq

variable (hex : Codec)

/-- Decode a field. -/
def decodeHex (field value : String) : ClientRes (List UInt8) :=
  match hex.decode value with
  | .ok bytes => .ok bytes
  | .error source => .error (.hex field source)

/-- Decode a field of 32 bytes. -/
def hex32 (field value : String) : ClientRes (ByteVec 32) := do
  let bytes ← decodeHex hex field value
  if h : bytes.length = 32 then .ok ⟨bytes, h⟩
  else .error (.intentFormat field (field ++ " must be exactly 32 bytes (64 hex chars)"))

/-- Read the code of a recovery operation. -/
def recoveryOp (op : UInt8) : ClientRes RecoveryOp :=
  match RecoveryOp.fromU8 op with
  | some op => .ok op
  | none => .error (.intentFormat "action.op" ("unknown recovery op " ++ toString op.toNat))

/-- The action a file stands for. -/
def ActionSpec.toAction : ActionSpec → ClientRes Action
  | transferSol recipient lamports => do
    let recipient ← hex32 hex "action.recipient" recipient
    pure (.transferSol recipient lamports)
  | transferSpl destination amount => do
    let destination ← hex32 hex "action.destination" destination
    pure (.transferSpl destination amount)
  | rotateEd25519Key newPubkey => do
    let newPubkey ← hex32 hex "action.new_pubkey" newPubkey
    pure (.rotateEd25519Key newPubkey)
  | rotateFalconKey newPubkeyHash => do
    let newPubkeyHash ← hex32 hex "action.new_pubkey_hash" newPubkeyHash
    pure (.rotateFalconKey newPubkeyHash)
  | changePolicy newPolicy threshold => pure (.changePolicy newPolicy threshold)
  | recoverAccount op newEd25519 => do
    let op ← recoveryOp op
    let newEd25519 ← hex32 hex "action.new_ed25519" newEd25519
    pure (.recoverAccount op newEd25519)
  | setRecoveryConfig guardianEd25519 delaySlots => do
    let guardianEd25519 ← hex32 hex "action.guardian_ed25519" guardianEd25519
    pure (.setRecoveryConfig guardianEd25519 delaySlots)
  | cancelSocialRecovery => pure .cancelSocialRecovery

/-- The file's form of an action. -/
def ActionSpec.fromAction : Action → ActionSpec
  | .transferSol recipient lamports => transferSol (hex.encode recipient.toList) lamports
  | .transferSpl destination amount => transferSpl (hex.encode destination.toList) amount
  | .rotateEd25519Key newPubkey => rotateEd25519Key (hex.encode newPubkey.toList)
  | .rotateFalconKey newPubkeyHash => rotateFalconKey (hex.encode newPubkeyHash.toList)
  | .changePolicy newPolicy threshold => changePolicy newPolicy threshold
  | .recoverAccount op newEd25519 => recoverAccount op.asU8 (hex.encode newEd25519.toList)
  | .setRecoveryConfig guardianEd25519 delaySlots =>
    setRecoveryConfig (hex.encode guardianEd25519.toList) delaySlots
  | .cancelSocialRecovery => cancelSocialRecovery

namespace IntentSpec

/-- Convert to the intent in memory. -/
def toIntent (spec : IntentSpec) : ClientRes AuthorizationIntent := do
  let action ← spec.action.toAction hex
  let chainDomain ← hex32 hex "chain_domain" spec.chainDomain
  let programId ← hex32 hex "program_id" spec.programId
  let account ← hex32 hex "account" spec.account
  pure { version := spec.version, chainDomain, programId, account,
         nonce := spec.nonce, expirySlot := spec.expirySlot, action }

/-- The file of an intent. -/
def fromIntent (intent : AuthorizationIntent) : IntentSpec where
  version := intent.version
  chainDomain := hex.encode intent.chainDomain.toList
  programId := hex.encode intent.programId.toList
  account := hex.encode intent.account.toList
  nonce := intent.nonce
  expirySlot := intent.expirySlot
  action := .fromAction hex intent.action

end IntentSpec

/-! ### One field -/

theorem recoveryOp_eq_ok {b : UInt8} {op : RecoveryOp} : recoveryOp b = .ok op ↔ op.asU8 = b := by
  rw [← RecoveryOp.fromU8_eq_some, recoveryOp]
  cases RecoveryOp.fromU8 b <;> simp

/-- An operation that is refused is named, and it has no meaning. -/
theorem recoveryOp_eq_error {b : UInt8} {e : ClientError} (h : recoveryOp b = .error e) :
    e.path? = some "action.op" ∧ 2 < b := by
  constructor
  · unfold recoveryOp at h
    split at h
    · cases h
    · cases h
      rfl
  · rw [← UInt8.not_le, ← RecoveryOp.exists_asU8]
    rintro ⟨op, hop⟩
    exact absurd ((recoveryOp_eq_ok.mpr hop).symm.trans h) nofun

section Field

variable {hex} {field s : String} {v : ByteVec 32}

theorem decodeHex_eq_ok {bytes : List UInt8} :
    decodeHex hex field s = .ok bytes ↔ hex.decode s = .ok bytes := by
  unfold decodeHex
  cases hex.decode s <;> simp

theorem hex32_eq_ok : hex32 hex field s = .ok v ↔ hex.decode s = .ok v.toList := by
  simp only [hex32, ClientRes.bind_eq_ok, decodeHex_eq_ok]
  constructor
  · rintro ⟨bytes, hbytes, h⟩
    split at h
    · cases h
      exact hbytes
    · cases h
  · intro h
    exact ⟨v.toList, h, dif_pos v.toList_length⟩

theorem hex32_encode (hhex : hex.Lawful) : hex32 hex field (hex.encode v.toList) = .ok v :=
  hex32_eq_ok.mpr (hhex.decode_encode _)

theorem hex32_toLower (hhex : hex.Lawful) (h : hex32 hex field s = .ok v) :
    (hex.encode v.toList).toLower = s.toLower :=
  hhex.encode_decode s _ (hex32_eq_ok.mp h)

/-- A field is accepted when it is 64 digits long. -/
theorem hex32_isOk (hhex : hex.Lawful) : (∃ v, hex32 hex field s = .ok v) ↔ Hex.IsHex 64 s := by
  rw [show (64 : ℕ) = 2 * 32 from rfl, ← hhex.decode_length_iff]
  constructor
  · rintro ⟨v, h⟩
    exact ⟨v.toList, hex32_eq_ok.mp h, v.toList_length⟩
  · rintro ⟨bytes, h, hlen⟩
    exact ⟨⟨bytes, hlen⟩, hex32_eq_ok.mpr h⟩

/-- A field that is refused is named, and it is not 64 digits long. -/
theorem hex32_eq_error (hhex : hex.Lawful) {e : ClientError} (h : hex32 hex field s = .error e) :
    e.path? = some field ∧ ¬ Hex.IsHex 64 s := by
  constructor
  · rcases ClientRes.bind_eq_error.mp h with hdecode | ⟨bytes, -, hlen⟩
    · unfold decodeHex at hdecode
      split at hdecode <;> cases hdecode
      rfl
    · split at hlen <;> cases hlen
      rfl
  · intro hs
    obtain ⟨v, hv⟩ := (hex32_isOk hhex).mpr hs
    exact absurd (hv.symm.trans h) nofun

end Field

end DualKey
