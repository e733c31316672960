import DualKey.Core.Canonical

/-!
# The social-recovery config and the guardian's preimage

`RecoveryConfig` is the view over the 128 bytes of a vault's social-recovery
account:

```text
Offset  Size  Field
0       1     version
1       1     bump
2       1     flags
3       1     reserved
4       32    guardian_ed25519
36      8     delay_slots (u64 LE)
44      32    pending_new_ed25519 (zero: nothing pending)
76      8     pending_ready_slot (u64 LE)
84      44    reserved
128           end
```

Opening the view tests the length and the version byte, and no setter touches the
version, so the view carries both facts. As for vault accounts, `fields` reads the
buffer as a record and each setter is one record update.

The guardian of a vault signs `socialRecoverPreimage`, which puts its own
length-prefixed tag behind the tag of the canonical preimage.
-/

namespace DualKey

open ByteVec

/-- Length of the recovery config data. -/
@[simp] abbrev recoveryConfigLen : ℕ := 128

/-- Schema version written at initialization. -/
def recoveryConfigVersion : UInt8 := 1

/-- PDA seed prefix of a recovery config: ASCII `dualkey-rec`. -/
def recoveryPdaSeed : List UInt8 := [100, 117, 97, 108, 107, 101, 121, 45, 114, 101, 99]

/-- The PDA seed list of the recovery config of a vault, without the bump. -/
def recoveryPdaSeeds (hybridAccount : Pubkey) : List (List UInt8) :=
  [recoveryPdaSeed, hybridAccount.toList]

/-- Width of the guardian's preimage. -/
@[simp] abbrev socialRecoverPreimageLen : ℕ := 169

/-- ASCII `SOCIAL_RECOVER`. -/
def socialRecoverTag : ByteVec 14 :=
  ⟨[83, 79, 67, 73, 65, 76, 95, 82, 69, 67, 79, 86, 69, 82], rfl⟩

/-- The preimage a guardian signs to initiate a social recovery. -/
def socialRecoverPreimage (chainDomain : ByteVec 32) (programId account newEd25519 : Pubkey)
    (nonce : UInt64) : ByteVec socialRecoverPreimageLen :=
  let out := (ByteVec.zero socialRecoverPreimageLen).putByte 0 17 (by decide)
  let out := out.putVec 1 domainTag (by decide)
  let out := out.putByte 18 14 (by decide)
  let out := out.putVec 19 socialRecoverTag (by decide)
  let out := out.putVec 33 chainDomain (by decide)
  let out := out.putVec 65 programId (by decide)
  let out := out.putVec 97 account (by decide)
  let out := out.putVec 129 newEd25519 (by decide)
  out.putVec 161 (u64ToLe nonce) (by decide)

/-- The view over the data of a recovery config. -/
structure RecoveryConfig where
  bytes : ByteVec recoveryConfigLen
  version_eq : bytes.getByte 0 = recoveryConfigVersion

/-- All fields of a recovery config but its version, in the order of the layout. -/
structure RecoveryFields where
  bump : UInt8
  flags : UInt8
  reserved0 : UInt8
  guardianEd25519 : Pubkey
  delaySlots : UInt64
  pendingNewEd25519 : Pubkey
  pendingReadySlot : UInt64
  reserved1 : ByteVec 44
deriving DecidableEq

namespace RecoveryFields

/-- The pending proposal: the new key and the slot from which it can be finalized. -/
def pending (f : RecoveryFields) : Option (Pubkey × UInt64) :=
  if f.pendingNewEd25519 = ByteVec.zero 32 then none
  else some (f.pendingNewEd25519, f.pendingReadySlot)

/-- The fields in the order and at the widths of the layout. -/
def layout (f : RecoveryFields) : List UInt8 :=
  [recoveryConfigVersion, f.bump, f.flags, f.reserved0] ++ f.guardianEd25519.toList ++
    (u64ToLe f.delaySlots).toList ++ f.pendingNewEd25519.toList ++
    (u64ToLe f.pendingReadySlot).toList ++ f.reserved1.toList

theorem pending_eq_none {f : RecoveryFields} :
    f.pending = none ↔ f.pendingNewEd25519 = ByteVec.zero 32 := by
  unfold pending
  split <;> simp_all

theorem pending_eq_some {f : RecoveryFields} {k : Pubkey} {ready : UInt64} :
    f.pending = some (k, ready) ↔
      f.pendingNewEd25519 = k ∧ f.pendingReadySlot = ready ∧ k ≠ ByteVec.zero 32 := by
  unfold pending
  constructor
  · intro h
    split at h
    · cases h
    · next hne =>
      cases h
      exact ⟨rfl, rfl, hne⟩
  · rintro ⟨rfl, rfl, hne⟩
    rw [if_neg hne]

end RecoveryFields

namespace RecoveryConfig

open Buffer ByteVec

/-- The account data. -/
def data (c : RecoveryConfig) : List UInt8 := c.bytes.toList

theorem length_eq (c : RecoveryConfig) : c.data.length = recoveryConfigLen :=
  c.bytes.toList_length

theorem data_ne_nil (c : RecoveryConfig) : c.data ≠ [] := by
  intro hnil
  have hlen := c.length_eq
  rw [hnil] at hlen
  exact absurd hlen (by decide)

theorem data_injective : Function.Injective data := by
  rintro ⟨v, hv⟩ ⟨w, hw⟩ h
  have hvw : v = w := Subtype.ext h
  subst hvw
  rfl

/-- Borrow account bytes as a recovery config: length and version are checked. -/
def tryFromBytes (data : List UInt8) : DkRes RecoveryConfig :=
  if hlen : data.length = recoveryConfigLen then
    if hversion : byteAt data 0 = recoveryConfigVersion then
      .ok ⟨⟨data, hlen⟩, hversion⟩
    else
      Res.fail .invalidAccountData
  else
    Res.fail .invalidAccountData

variable (c : RecoveryConfig)

def bump : UInt8 := c.bytes.getByte 1

def guardianEd25519 : Pubkey := getVec 32 c.bytes 4

def setGuardianEd25519 (guardian : Pubkey) : RecoveryConfig :=
  ⟨c.bytes.putVec 4 guardian (by decide), by
    rw [getByte_putVec_of_disjoint (Or.inl (by decide)), c.version_eq]⟩

def delaySlots : UInt64 := u64FromLe (getVec 8 c.bytes 36)

def setDelaySlots (delay : UInt64) : RecoveryConfig :=
  ⟨c.bytes.putVec 36 (u64ToLe delay) (by decide), by
    rw [getByte_putVec_of_disjoint (Or.inl (by decide)), c.version_eq]⟩

def pendingNewEd25519 : Pubkey := getVec 32 c.bytes 44

def setPendingNewEd25519 (key : Pubkey) : RecoveryConfig :=
  ⟨c.bytes.putVec 44 key (by decide), by
    rw [getByte_putVec_of_disjoint (Or.inl (by decide)), c.version_eq]⟩

def pendingReadySlot : UInt64 := u64FromLe (getVec 8 c.bytes 76)

def setPendingReadySlot (slot : UInt64) : RecoveryConfig :=
  ⟨c.bytes.putVec 76 (u64ToLe slot) (by decide), by
    rw [getByte_putVec_of_disjoint (Or.inl (by decide)), c.version_eq]⟩

def hasPending : Bool := decide (c.pendingNewEd25519 ≠ ByteVec.zero 32)

def clearPending : RecoveryConfig :=
  (c.setPendingNewEd25519 (ByteVec.zero 32)).setPendingReadySlot 0

/-- Write `data[BUMP]`. -/
def setBump (bump : UInt8) : RecoveryConfig :=
  ⟨c.bytes.putByte 1 bump (by decide), by
    rw [getByte_putByte_of_ne (by decide), c.version_eq]⟩

/-- The zeroed buffer with the version byte written. -/
def zeroed : RecoveryConfig :=
  ⟨(ByteVec.zero recoveryConfigLen).putByte 0 recoveryConfigVersion (by decide),
    getByte_putByte_self⟩

/-- Zero a buffer of the right length and write the fields of a fresh config
(`initialize`). -/
def initializeConfig (data : List UInt8) (bump : UInt8) (guardianEd25519 : Pubkey)
    (delaySlots : UInt64) : DkRes RecoveryConfig := do
  Res.failIf (data.length ≠ recoveryConfigLen) .invalidAccountData
  -- flags, reserved bytes and the pending slot stay zero
  let config := zeroed.setBump bump
  let config := config.setGuardianEd25519 guardianEd25519
  pure (config.setDelaySlots delaySlots)

/-- The guardian stored in an unchecked buffer. -/
def guardianFromSlice (data : List UInt8) : DkRes Pubkey := do
  Res.failIf (data.length ≠ recoveryConfigLen) .invalidAccountData
  let version ← index data 0
  Res.failIf (version ≠ recoveryConfigVersion) .invalidAccountData
  sliceVec 32 data 4

/-! ### The buffer as a record -/

/-- All fields of the buffer. -/
def fields : RecoveryFields where
  bump := c.bump
  flags := c.bytes.getByte 2
  reserved0 := c.bytes.getByte 3
  guardianEd25519 := c.guardianEd25519
  delaySlots := c.delaySlots
  pendingNewEd25519 := c.pendingNewEd25519
  pendingReadySlot := c.pendingReadySlot
  reserved1 := getVec 44 c.bytes 84

/-- The buffer is the layout of its fields. -/
theorem data_eq_layout : c.data = c.fields.layout := by
  have hwhole : read c.data 0 (1 + 1 + 1 + 1 + 32 + 8 + 32 + 8 + 44) = c.data :=
    read_whole c.length_eq
  have hversion : byteAt c.data 0 = recoveryConfigVersion := c.version_eq
  simp only [← read_append, read_one, hversion] at hwhole
  refine Eq.trans hwhole.symm ?_
  simp only [RecoveryFields.layout, fields, delaySlots, pendingReadySlot, u64ToLe_u64FromLe]
  rfl

@[simp] theorem bump_eq : c.bump = c.fields.bump := rfl
@[simp] theorem guardianEd25519_eq : c.guardianEd25519 = c.fields.guardianEd25519 := rfl
@[simp] theorem delaySlots_eq : c.delaySlots = c.fields.delaySlots := rfl
@[simp] theorem pendingNewEd25519_eq : c.pendingNewEd25519 = c.fields.pendingNewEd25519 := rfl
@[simp] theorem pendingReadySlot_eq : c.pendingReadySlot = c.fields.pendingReadySlot := rfl

section Setters

/-! Each setter is one record update. -/

@[simp] theorem fields_setBump (bump : UInt8) :
    (c.setBump bump).fields = { c.fields with bump := bump } := by
  simp only [fields, RecoveryConfig.bump, guardianEd25519, delaySlots, pendingNewEd25519,
    pendingReadySlot, setBump, getByte_putByte_self]
  simp [getByte_putByte_of_ne, getVec_putByte_of_disjoint]

@[simp] theorem fields_setGuardianEd25519 (guardian : Pubkey) :
    (c.setGuardianEd25519 guardian).fields = { c.fields with guardianEd25519 := guardian } := by
  simp only [fields, bump, guardianEd25519, delaySlots, pendingNewEd25519, pendingReadySlot,
    setGuardianEd25519, getVec_putVec_self]
  simp [getByte_putVec_of_disjoint, getVec_putVec_of_disjoint]

@[simp] theorem fields_setDelaySlots (delay : UInt64) :
    (c.setDelaySlots delay).fields = { c.fields with delaySlots := delay } := by
  simp only [fields, bump, guardianEd25519, delaySlots, pendingNewEd25519, pendingReadySlot,
    setDelaySlots, getVec_putVec_self, u64FromLe_u64ToLe]
  simp [getByte_putVec_of_disjoint, getVec_putVec_of_disjoint]

@[simp] theorem fields_setPendingNewEd25519 (key : Pubkey) :
    (c.setPendingNewEd25519 key).fields = { c.fields with pendingNewEd25519 := key } := by
  simp only [fields, bump, guardianEd25519, delaySlots, pendingNewEd25519, pendingReadySlot,
    setPendingNewEd25519, getVec_putVec_self]
  simp [getByte_putVec_of_disjoint, getVec_putVec_of_disjoint]

@[simp] theorem fields_setPendingReadySlot (slot : UInt64) :
    (c.setPendingReadySlot slot).fields = { c.fields with pendingReadySlot := slot } := by
  simp only [fields, bump, guardianEd25519, delaySlots, pendingNewEd25519, pendingReadySlot,
    setPendingReadySlot, getVec_putVec_self, u64FromLe_u64ToLe]
  simp [getByte_putVec_of_disjoint, getVec_putVec_of_disjoint]

@[simp] theorem fields_clearPending :
    c.clearPending.fields =
      { c.fields with pendingNewEd25519 := ByteVec.zero 32, pendingReadySlot := 0 } := by
  simp [clearPending]

end Setters

theorem hasPending_iff : c.hasPending = true ↔ ∃ p, c.fields.pending = some p := by
  -- the code tests the key only, and nothing is pending exactly when it is zero
  rw [← Option.isSome_iff_exists, ← Option.ne_none_iff_isSome, ne_eq,
    RecoveryFields.pending_eq_none]
  exact decide_eq_true_iff

/-! ### Readers on the data of a view -/

@[simp] theorem tryFromBytes_eq_ok {data : List UInt8} {c : RecoveryConfig} :
    tryFromBytes data = .ok c ↔ c.data = data := by
  unfold tryFromBytes
  constructor
  · intro h
    split at h
    · split at h
      · cases h
        rfl
      · cases h
    · cases h
  · rintro rfl
    rw [dif_pos c.length_eq, dif_pos (show byteAt c.data 0 = _ from c.version_eq)]
    rfl

theorem guardianFromSlice_eq_ok {data : List UInt8} {guardian : Pubkey} :
    guardianFromSlice data = .ok guardian ↔
      ∃ c : RecoveryConfig, c.data = data ∧ c.fields.guardianEd25519 = guardian := by
  simp only [guardianFromSlice, Res.bind_eq_ok, Res.failIf_eq_ok, index_eq_ok, sliceVec_eq_ok]
  constructor
  · rintro ⟨-, hlen, version, ⟨-, hversion⟩, -, hversion', -, hguardian⟩
    rw [not_not] at hlen hversion'
    exact ⟨⟨⟨data, hlen⟩, hversion.trans hversion'⟩, rfl, hguardian⟩
  · rintro ⟨c, rfl, rfl⟩
    have hlen : c.data.length = 128 := c.length_eq
    refine ⟨(), not_not.mpr hlen, _, ⟨by omega, rfl⟩, (), not_not.mpr c.version_eq, by omega, rfl⟩

/-- The fields of a fresh config: the given bump, guardian and delay, all else zero. -/
def freshFields (bump : UInt8) (guardian : Pubkey) (delay : UInt64) : RecoveryFields where
  bump := bump
  flags := 0
  reserved0 := 0
  guardianEd25519 := guardian
  delaySlots := delay
  pendingNewEd25519 := ByteVec.zero 32
  pendingReadySlot := 0
  reserved1 := ByteVec.zero 44

theorem fields_zeroed : zeroed.fields = freshFields 0 (ByteVec.zero 32) 0 := by
  simp only [fields, bump, guardianEd25519, delaySlots, pendingNewEd25519, pendingReadySlot, zeroed]
  simp [getByte_putByte_of_ne, getVec_putByte_of_disjoint, getByte_zero, getVec_zero,
    u64FromLe_zero, freshFields]

/-- A fresh config is written over any buffer of the right length. -/
theorem initializeConfig_eq_ok {data : List UInt8} {bump : UInt8} {guardian : Pubkey}
    {delay : UInt64} {c : RecoveryConfig} :
    initializeConfig data bump guardian delay = .ok c ↔
      data.length = recoveryConfigLen ∧
        ((zeroed.setBump bump).setGuardianEd25519 guardian).setDelaySlots delay = c := by
  simp [initializeConfig]

theorem fields_initializeConfig {data : List UInt8} {bump : UInt8} {guardian : Pubkey}
    {delay : UInt64} {c : RecoveryConfig}
    (h : initializeConfig data bump guardian delay = .ok c) :
    c.fields = freshFields bump guardian delay := by
  obtain ⟨-, rfl⟩ := initializeConfig_eq_ok.mp h
  simp [fields_zeroed, freshFields]

end RecoveryConfig

end DualKey
