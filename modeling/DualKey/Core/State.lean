import DualKey.Core.Policy

/-!
# The vault account layout

`HybridAccount` is the view over the 1120 bytes of a vault account:

```text
Offset  Size  Field
0       1     version
1       1     bump
2       1     policy
3       1     flags
4       4     account_index (u32 LE; PDA seed)
8       32    owner_ed25519
40      32    falcon_public_key_hash
72      8     nonce (u64 LE)
80      8     falcon_required_above (u64 LE; meaningful iff the flag is set)
88      8     reserved
96      1024  prepared_falcon_public_key
1120          end
```

The view carries the length of its buffer, so its accessors are total. The
`*_from_slice` readers work on an unchecked buffer and test the length first.

`HybridAccount.fields` reads the whole buffer as one record. Each setter is one
record update (`fields_set*`), so a fact about a sequence of writes is a fact
about records, and no later proof looks at an offset.
-/

namespace DualKey

/-- Length of the vault account data. -/
@[simp] abbrev accountDataLen : ℕ := 1120

/-- Length of a prepared Falcon-512 public key. -/
@[simp] abbrev preparedFalconPubkeyLen : ℕ := 1024

/-- Length of a Falcon-512 wire public key. -/
@[simp] abbrev falconWirePubkeyLen : ℕ := 897

/-- Length of a zero-padded Falcon-512 signature. -/
@[simp] abbrev falconSignatureLen : ℕ := 666

/-- The prepared (NTT-form) Falcon public key stored in a vault. -/
abbrev PreparedFalconPubkey := ByteVec preparedFalconPubkeyLen

/-- Account schema version written at initialization. -/
def accountVersion : UInt8 := 1

/-- `flags` bit 0: recovery enabled. -/
def flagRecoveryEnabled : UInt8 := 1

/-- `flags` bit 1: the threshold field is set. -/
def flagFalconThresholdSet : UInt8 := 2

/-- PDA seed prefix of a vault: ASCII `dualkey`. -/
def pdaSeed : List UInt8 := [100, 117, 97, 108, 107, 101, 121]

/-- The PDA seed list of a vault, without the bump. -/
def pdaSeeds (creator : Pubkey) (accountIndexLe : ByteVec 4) : List (List UInt8) :=
  [pdaSeed, creator.toList, accountIndexLe.toList]

/-- The view over the data of a vault account. -/
structure HybridAccount where
  bytes : ByteVec accountDataLen
deriving DecidableEq

/-- All fields of a vault account, in the order of the layout. -/
structure HybridFields where
  version : UInt8
  bump : UInt8
  policy : UInt8
  flags : UInt8
  accountIndex : UInt32
  ownerEd25519 : Pubkey
  falconPublicKeyHash : Digest
  nonce : UInt64
  falconRequiredAbove : UInt64
  reserved : ByteVec 8
  preparedFalconPublicKey : PreparedFalconPubkey
deriving DecidableEq

namespace HybridFields

/-- The recovery flag. -/
def recovery (f : HybridFields) : Bool := decide (f.flags &&& flagRecoveryEnabled ≠ 0)

/-- The threshold, when its flag is set. -/
def threshold (f : HybridFields) : Option UInt64 :=
  if f.flags &&& flagFalconThresholdSet = 0 then none else some f.falconRequiredAbove

/-- The recovery flag depends on the flags alone. -/
theorem recovery_congr {f g : HybridFields} (h : f.flags = g.flags) : f.recovery = g.recovery := by
  rw [recovery, recovery, h]

/-- The threshold depends on the flags and the stored value. -/
theorem threshold_congr {f g : HybridFields} (h : f.flags = g.flags)
    (h' : f.falconRequiredAbove = g.falconRequiredAbove) : f.threshold = g.threshold := by
  rw [threshold, threshold, h, h']

/-- The fields in the order and at the widths of the layout. -/
def layout (f : HybridFields) : List UInt8 :=
  [f.version, f.bump, f.policy, f.flags] ++ (u32ToLe f.accountIndex).toList ++
    f.ownerEd25519.toList ++ f.falconPublicKeyHash.toList ++ (u64ToLe f.nonce).toList ++
    (u64ToLe f.falconRequiredAbove).toList ++ f.reserved.toList ++ f.preparedFalconPublicKey.toList

/-- The flags after `set_falcon_required_above`. -/
def flagsWithThreshold (f : HybridFields) : Option UInt64 → UInt8
  | some _ => f.flags ||| flagFalconThresholdSet
  | none => f.flags &&& ~~~flagFalconThresholdSet

end HybridFields

namespace HybridAccount

open Buffer ByteVec

/-- The account data (`as_bytes`). -/
def data (a : HybridAccount) : List UInt8 := a.bytes.toList

theorem length_eq (a : HybridAccount) : a.data.length = accountDataLen := a.bytes.toList_length

theorem data_ne_nil (a : HybridAccount) : a.data ≠ [] := by
  intro hnil
  have hlen := a.length_eq
  rw [hnil] at hlen
  exact absurd hlen (by decide)

theorem data_injective : Function.Injective data := by
  rintro ⟨v⟩ ⟨w⟩ h
  exact congrArg mk (Subtype.ext h)

/-! ### Readers on an unchecked buffer -/

def ownerEd25519FromSlice (data : List UInt8) : DkRes Pubkey := do
  Res.failIf (data.length ≠ accountDataLen) .invalidAccountData
  sliceVec 32 data 8

def policyFromSlice (data : List UInt8) : DkRes AuthorizationPolicy := do
  Res.failIf (data.length ≠ accountDataLen) .invalidAccountData
  let byte ← index data 2
  Res.okOr (AuthorizationPolicy.fromU8 byte) .invalidAccountData

def preparedFalconPublicKeyFromSlice (data : List UInt8) : DkRes PreparedFalconPubkey := do
  Res.failIf (data.length ≠ accountDataLen) .invalidAccountData
  sliceVec preparedFalconPubkeyLen data 96

def versionFromSlice (data : List UInt8) : DkRes UInt8 := do
  Res.failIf (data.length ≠ accountDataLen) .invalidAccountData
  index data 0

def nonceFromSlice (data : List UInt8) : DkRes UInt64 := do
  Res.failIf (data.length ≠ accountDataLen) .invalidAccountData
  let bytes ← sliceVec 8 data 72
  pure (u64FromLe bytes)

def falconRequiredAboveFromSlice (data : List UInt8) : DkRes (Option UInt64) := do
  Res.failIf (data.length ≠ accountDataLen) .invalidAccountData
  let flags ← index data 3
  if flags &&& flagFalconThresholdSet = 0 then
    pure none
  else do
    let bytes ← sliceVec 8 data 80
    pure (some (u64FromLe bytes))

def falconPublicKeyHashFromSlice (data : List UInt8) : DkRes Digest := do
  Res.failIf (data.length ≠ accountDataLen) .invalidAccountData
  sliceVec 32 data 40

def accountIndexFromSlice (data : List UInt8) : DkRes UInt32 := do
  Res.failIf (data.length ≠ accountDataLen) .invalidAccountData
  let bytes ← sliceVec 4 data 4
  pure (u32FromLe bytes)

def recoveryEnabledFromSlice (data : List UInt8) : DkRes Bool := do
  Res.failIf (data.length ≠ accountDataLen) .invalidAccountData
  let flags ← index data 3
  pure (decide (flags &&& flagRecoveryEnabled ≠ 0))

/-! ### The view -/

/-- Borrow account bytes as a vault account; only the length is checked. -/
def tryFromBytes (data : List UInt8) : DkRes HybridAccount :=
  if h : data.length = accountDataLen then .ok ⟨⟨data, h⟩⟩ else Res.fail .invalidAccountData

variable (a : HybridAccount)

def version : UInt8 := a.bytes.getByte 0

def setVersion (version : UInt8) : HybridAccount :=
  ⟨a.bytes.putByte 0 version (by decide)⟩

def bump : UInt8 := a.bytes.getByte 1

def setBump (bump : UInt8) : HybridAccount :=
  ⟨a.bytes.putByte 1 bump (by decide)⟩

def accountIndex : UInt32 := u32FromLe (getVec 4 a.bytes 4)

def setAccountIndex (accountIndex : UInt32) : HybridAccount :=
  ⟨a.bytes.putVec 4 (u32ToLe accountIndex) (by decide)⟩

def policy : DkRes AuthorizationPolicy :=
  Res.okOr (AuthorizationPolicy.fromU8 (a.bytes.getByte 2)) .invalidAccountData

def setPolicy (policy : AuthorizationPolicy) : HybridAccount :=
  ⟨a.bytes.putByte 2 policy.asU8 (by decide)⟩

def flags : UInt8 := a.bytes.getByte 3

def setFlags (flags : UInt8) : HybridAccount :=
  ⟨a.bytes.putByte 3 flags (by decide)⟩

def recoveryEnabled : Bool := decide (a.flags &&& flagRecoveryEnabled ≠ 0)

def setRecoveryEnabled (enabled : Bool) : HybridAccount :=
  if enabled then
    a.setFlags (a.flags ||| flagRecoveryEnabled)
  else
    a.setFlags (a.flags &&& ~~~flagRecoveryEnabled)

def ownerEd25519 : Pubkey := getVec 32 a.bytes 8

def setOwnerEd25519 (pubkey : Pubkey) : HybridAccount :=
  ⟨a.bytes.putVec 8 pubkey (by decide)⟩

def falconPublicKeyHash : Digest := getVec 32 a.bytes 40

def setFalconPublicKeyHash (hash : Digest) : HybridAccount :=
  ⟨a.bytes.putVec 40 hash (by decide)⟩

def nonce : UInt64 := u64FromLe (getVec 8 a.bytes 72)

def setNonce (nonce : UInt64) : HybridAccount :=
  ⟨a.bytes.putVec 72 (u64ToLe nonce) (by decide)⟩

/-- `some threshold` when the threshold flag is set. -/
def falconRequiredAbove : Option UInt64 :=
  if a.flags &&& flagFalconThresholdSet = 0 then none
  else some (u64FromLe (getVec 8 a.bytes 80))

/-- Set or clear the threshold and its flag; clearing zeroes the stored value. -/
def setFalconRequiredAbove (threshold : Option UInt64) : HybridAccount :=
  match threshold with
  | some v =>
    setFlags ⟨a.bytes.putVec 80 (u64ToLe v) (by decide)⟩ (a.flags ||| flagFalconThresholdSet)
  | none =>
    setFlags ⟨a.bytes.putVec 80 (ByteVec.zero 8) (by decide)⟩
      (a.flags &&& ~~~flagFalconThresholdSet)

def preparedFalconPublicKey : PreparedFalconPubkey := getVec preparedFalconPubkeyLen a.bytes 96

/-- Overwrite the region borrowed by `prepared_falcon_public_key_mut`. -/
def setPreparedFalconPublicKey (prepared : PreparedFalconPubkey) : HybridAccount :=
  ⟨a.bytes.putVec 96 prepared (by decide)⟩

/-- The zeroed buffer (`data.fill(0)`). -/
def zeroed : HybridAccount := ⟨ByteVec.zero accountDataLen⟩

/-- Zero the buffer and initialize every field except the prepared Falcon key. -/
def initializeWithoutFalconKey (data : List UInt8) (bump : UInt8) (accountIndex : UInt32)
    (ownerEd25519 : Pubkey) (falconPublicKeyHash : Digest) (policy : AuthorizationPolicy) :
    DkRes HybridAccount := do
  Res.failIf (data.length ≠ accountDataLen) .invalidAccountData
  let account := zeroed.setVersion accountVersion
  let account := account.setBump bump
  let account := account.setAccountIndex accountIndex
  let account := account.setPolicy policy
  let account := account.setOwnerEd25519 ownerEd25519
  let account := account.setFalconPublicKeyHash falconPublicKeyHash
  -- flags and threshold stay zero: recovery is off and no threshold is set
  pure (account.setNonce 0)

/-! ### The buffer as a record -/

/-- All fields of the buffer. -/
def fields : HybridFields where
  version := a.version
  bump := a.bump
  policy := a.bytes.getByte 2
  flags := a.flags
  accountIndex := a.accountIndex
  ownerEd25519 := a.ownerEd25519
  falconPublicKeyHash := a.falconPublicKeyHash
  nonce := a.nonce
  falconRequiredAbove := u64FromLe (getVec 8 a.bytes 80)
  reserved := getVec 8 a.bytes 88
  preparedFalconPublicKey := a.preparedFalconPublicKey

/-- The buffer is the layout of its fields. -/
theorem data_eq_layout : a.data = a.fields.layout := by
  have hwhole : read a.data 0 (1 + 1 + 1 + 1 + 4 + 32 + 32 + 8 + 8 + 8 + 1024) = a.data :=
    read_whole a.length_eq
  simp only [← read_append, read_one] at hwhole
  refine Eq.trans hwhole.symm ?_
  simp only [HybridFields.layout, fields, accountIndex, nonce, u32ToLe_u32FromLe,
    u64ToLe_u64FromLe]
  rfl

/-- The fields are the whole buffer. -/
theorem fields_injective : Function.Injective fields := by
  intro a b h
  refine data_injective ?_
  rw [a.data_eq_layout, b.data_eq_layout, h]

@[simp] theorem version_eq : a.version = a.fields.version := rfl
@[simp] theorem bump_eq : a.bump = a.fields.bump := rfl
@[simp] theorem flags_eq : a.flags = a.fields.flags := rfl
@[simp] theorem accountIndex_eq : a.accountIndex = a.fields.accountIndex := rfl
@[simp] theorem ownerEd25519_eq : a.ownerEd25519 = a.fields.ownerEd25519 := rfl
@[simp] theorem nonce_eq : a.nonce = a.fields.nonce := rfl

@[simp] theorem falconPublicKeyHash_eq :
    a.falconPublicKeyHash = a.fields.falconPublicKeyHash := rfl

@[simp] theorem preparedFalconPublicKey_eq :
    a.preparedFalconPublicKey = a.fields.preparedFalconPublicKey := rfl

section Setters

/-! Each setter is one record update. -/

@[simp] theorem fields_setVersion (version : UInt8) :
    (a.setVersion version).fields = { a.fields with version := version } := by
  simp only [fields, HybridAccount.version, bump, flags, accountIndex, ownerEd25519,
    falconPublicKeyHash, nonce, preparedFalconPublicKey, setVersion, getByte_putByte_self]
  simp [getByte_putByte_of_ne, getVec_putByte_of_disjoint]

@[simp] theorem fields_setBump (bump : UInt8) :
    (a.setBump bump).fields = { a.fields with bump := bump } := by
  simp only [fields, version, HybridAccount.bump, flags, accountIndex, ownerEd25519,
    falconPublicKeyHash, nonce, preparedFalconPublicKey, setBump, getByte_putByte_self]
  simp [getByte_putByte_of_ne, getVec_putByte_of_disjoint]

@[simp] theorem fields_setPolicy (policy : AuthorizationPolicy) :
    (a.setPolicy policy).fields = { a.fields with policy := policy.asU8 } := by
  simp only [fields, version, bump, flags, accountIndex, ownerEd25519,
    falconPublicKeyHash, nonce, preparedFalconPublicKey, setPolicy, getByte_putByte_self]
  simp [getByte_putByte_of_ne, getVec_putByte_of_disjoint]

@[simp] theorem fields_setFlags (flags : UInt8) :
    (a.setFlags flags).fields = { a.fields with flags := flags } := by
  simp only [fields, version, bump, HybridAccount.flags, accountIndex, ownerEd25519,
    falconPublicKeyHash, nonce, preparedFalconPublicKey, setFlags, getByte_putByte_self]
  simp [getByte_putByte_of_ne, getVec_putByte_of_disjoint]

@[simp] theorem fields_setAccountIndex (accountIndex : UInt32) :
    (a.setAccountIndex accountIndex).fields = { a.fields with accountIndex := accountIndex } := by
  simp only [fields, version, bump, flags, HybridAccount.accountIndex, ownerEd25519,
    falconPublicKeyHash, nonce, preparedFalconPublicKey, setAccountIndex, getVec_putVec_self,
    u32FromLe_u32ToLe]
  simp [getByte_putVec_of_disjoint, getVec_putVec_of_disjoint]

@[simp] theorem fields_setOwnerEd25519 (pubkey : Pubkey) :
    (a.setOwnerEd25519 pubkey).fields = { a.fields with ownerEd25519 := pubkey } := by
  simp only [fields, version, bump, flags, accountIndex, HybridAccount.ownerEd25519,
    falconPublicKeyHash, nonce, preparedFalconPublicKey, setOwnerEd25519, getVec_putVec_self]
  simp [getByte_putVec_of_disjoint, getVec_putVec_of_disjoint]

@[simp] theorem fields_setFalconPublicKeyHash (hash : Digest) :
    (a.setFalconPublicKeyHash hash).fields = { a.fields with falconPublicKeyHash := hash } := by
  simp only [fields, version, bump, flags, accountIndex, ownerEd25519,
    HybridAccount.falconPublicKeyHash, nonce, preparedFalconPublicKey, setFalconPublicKeyHash,
    getVec_putVec_self]
  simp [getByte_putVec_of_disjoint, getVec_putVec_of_disjoint]

@[simp] theorem fields_setNonce (nonce : UInt64) :
    (a.setNonce nonce).fields = { a.fields with nonce := nonce } := by
  simp only [fields, version, bump, flags, accountIndex, ownerEd25519,
    falconPublicKeyHash, HybridAccount.nonce, preparedFalconPublicKey, setNonce,
    getVec_putVec_self, u64FromLe_u64ToLe]
  simp [getByte_putVec_of_disjoint, getVec_putVec_of_disjoint]

@[simp] theorem fields_setPreparedFalconPublicKey (prepared : PreparedFalconPubkey) :
    (a.setPreparedFalconPublicKey prepared).fields =
      { a.fields with preparedFalconPublicKey := prepared } := by
  simp only [fields, version, bump, flags, accountIndex, ownerEd25519, falconPublicKeyHash, nonce,
    HybridAccount.preparedFalconPublicKey, setPreparedFalconPublicKey, getVec_putVec_self]
  simp [getByte_putVec_of_disjoint, getVec_putVec_of_disjoint]

theorem fields_putThreshold (v : ByteVec 8) {h : 80 + 8 ≤ accountDataLen} :
    (mk (a.bytes.putVec 80 v h)).fields = { a.fields with falconRequiredAbove := u64FromLe v } := by
  simp only [fields, version, bump, flags, accountIndex, ownerEd25519, falconPublicKeyHash, nonce,
    preparedFalconPublicKey, getVec_putVec_self]
  simp [getByte_putVec_of_disjoint, getVec_putVec_of_disjoint]

@[simp] theorem fields_setRecoveryEnabled (enabled : Bool) :
    (a.setRecoveryEnabled enabled).fields =
      { a.fields with
        flags := if enabled then a.fields.flags ||| flagRecoveryEnabled
          else a.fields.flags &&& ~~~flagRecoveryEnabled } := by
  cases enabled <;> simp [setRecoveryEnabled]

@[simp] theorem fields_setFalconRequiredAbove (threshold : Option UInt64) :
    (a.setFalconRequiredAbove threshold).fields =
      { a.fields with
        falconRequiredAbove := threshold.getD 0
        flags := a.fields.flagsWithThreshold threshold } := by
  cases threshold with
  | some v => simp [setFalconRequiredAbove, fields_putThreshold, HybridFields.flagsWithThreshold]
  | none =>
    simp [setFalconRequiredAbove, fields_putThreshold, u64FromLe_zero,
      HybridFields.flagsWithThreshold]

end Setters

/-! ### A fresh vault -/

/-- The fields of a fresh vault: the given identity, nonce and flags zero. -/
def freshFields (bump : UInt8) (accountIndex : UInt32) (ownerEd25519 : Pubkey)
    (falconPublicKeyHash : Digest) (policy : AuthorizationPolicy)
    (prepared : PreparedFalconPubkey) : HybridFields where
  version := accountVersion
  bump := bump
  policy := policy.asU8
  flags := 0
  accountIndex := accountIndex
  ownerEd25519 := ownerEd25519
  falconPublicKeyHash := falconPublicKeyHash
  nonce := 0
  falconRequiredAbove := 0
  reserved := ByteVec.zero 8
  preparedFalconPublicKey := prepared

/-- A new vault has the recovery flag clear. -/
theorem recovery_freshFields {bump : UInt8} {accountIndex : UInt32} {ownerEd25519 : Pubkey}
    {falconPublicKeyHash : Digest} {policy : AuthorizationPolicy}
    {prepared : PreparedFalconPubkey} :
    (freshFields bump accountIndex ownerEd25519 falconPublicKeyHash policy prepared).recovery =
      false := by
  show decide ((0 : UInt8) &&& flagRecoveryEnabled ≠ 0) = false
  decide

theorem flags_zeroed : zeroed.fields.flags = 0 := by
  show (ByteVec.zero accountDataLen).getByte 3 = 0
  exact getByte_zero

theorem falconRequiredAbove_zeroed : zeroed.fields.falconRequiredAbove = 0 := by
  show u64FromLe (getVec 8 (ByteVec.zero accountDataLen) 80) = 0
  rw [getVec_zero, u64FromLe_zero]

theorem reserved_zeroed : zeroed.fields.reserved = ByteVec.zero 8 := by
  show getVec 8 (ByteVec.zero accountDataLen) 88 = ByteVec.zero 8
  exact getVec_zero

/-- Any buffer of the right length can be initialized. -/
theorem exists_initializeWithoutFalconKey {data : List UInt8} {bump : UInt8}
    {accountIndex : UInt32} {ownerEd25519 : Pubkey} {falconPublicKeyHash : Digest}
    {policy : AuthorizationPolicy} (h : data.length = accountDataLen) :
    ∃ a, initializeWithoutFalconKey data bump accountIndex ownerEd25519 falconPublicKeyHash
      policy = .ok a := by
  rw [initializeWithoutFalconKey, Res.failIf, if_neg (not_not.mpr h)]
  exact ⟨_, rfl⟩

/-- Initialization followed by the prepared key writes every field. -/
theorem fields_initializeWithoutFalconKey {data : List UInt8} {bump : UInt8}
    {accountIndex : UInt32} {ownerEd25519 : Pubkey} {falconPublicKeyHash : Digest}
    {policy : AuthorizationPolicy} {a : HybridAccount}
    (h : initializeWithoutFalconKey data bump accountIndex ownerEd25519 falconPublicKeyHash
      policy = .ok a) (prepared : PreparedFalconPubkey) :
    (a.setPreparedFalconPublicKey prepared).fields =
      freshFields bump accountIndex ownerEd25519 falconPublicKeyHash policy prepared := by
  simp only [initializeWithoutFalconKey, Res.bind_eq_ok, Res.pure_eq_ok] at h
  obtain ⟨-, -, rfl⟩ := h
  simp [freshFields, flags_zeroed, falconRequiredAbove_zeroed, reserved_zeroed]

/-! ### Readers on the data of a view -/

theorem exists_view {data : List UInt8} (h : data.length = accountDataLen) :
    ∃ a : HybridAccount, a.data = data := ⟨⟨⟨data, h⟩⟩, rfl⟩

@[simp] theorem tryFromBytes_eq_ok {data : List UInt8} {a : HybridAccount} :
    tryFromBytes data = .ok a ↔ a.data = data := by
  unfold tryFromBytes
  split
  · next h =>
    rw [Except.ok.injEq, ← data_injective.eq_iff]
    exact eq_comm
  · next h =>
    refine ⟨fun hf => absurd hf Res.fail_ne_ok, fun ha => absurd ?_ h⟩
    rw [← ha, a.length_eq]

@[simp] theorem tryFromBytes_data : tryFromBytes a.data = .ok a := tryFromBytes_eq_ok.mpr rfl

/-- The length test of the slice readers passes on the data of a view. -/
theorem length_guard {α : Type} (e : DualKeyError) (k : DkRes α) :
    (Res.failIf (a.data.length ≠ accountDataLen) e >>= fun _ => k) = k := by
  rw [Res.failIf, if_neg (not_not.mpr a.length_eq)]
  rfl

theorem index_data {i : ℕ} (h : i < accountDataLen) :
    (index a.data i : DkRes UInt8) = .ok (a.bytes.getByte i) :=
  index_of_lt (a.length_eq.symm ▸ h)

theorem sliceVec_data {n off : ℕ} (h : off + n ≤ accountDataLen) :
    (sliceVec n a.data off : DkRes (ByteVec n)) = .ok (getVec n a.bytes off) :=
  sliceVec_of_le (a.length_eq.symm ▸ h)

@[simp] theorem ownerEd25519FromSlice_data :
    ownerEd25519FromSlice a.data = .ok a.fields.ownerEd25519 := by
  rw [ownerEd25519FromSlice, length_guard]
  exact a.sliceVec_data (by decide)

@[simp] theorem policyFromSlice_data :
    policyFromSlice a.data =
      Res.okOr (AuthorizationPolicy.fromU8 a.fields.policy) .invalidAccountData := by
  rw [policyFromSlice, length_guard, a.index_data (by decide)]
  rfl

@[simp] theorem preparedFalconPublicKeyFromSlice_data :
    preparedFalconPublicKeyFromSlice a.data = .ok a.fields.preparedFalconPublicKey := by
  rw [preparedFalconPublicKeyFromSlice, length_guard]
  exact a.sliceVec_data (by decide)

@[simp] theorem versionFromSlice_data : versionFromSlice a.data = .ok a.fields.version := by
  rw [versionFromSlice, length_guard]
  exact a.index_data (by decide)

@[simp] theorem nonceFromSlice_data : nonceFromSlice a.data = .ok a.fields.nonce := by
  rw [nonceFromSlice, length_guard, a.sliceVec_data (by decide)]
  rfl

@[simp] theorem falconPublicKeyHashFromSlice_data :
    falconPublicKeyHashFromSlice a.data = .ok a.fields.falconPublicKeyHash := by
  rw [falconPublicKeyHashFromSlice, length_guard]
  exact a.sliceVec_data (by decide)

@[simp] theorem accountIndexFromSlice_data :
    accountIndexFromSlice a.data = .ok a.fields.accountIndex := by
  rw [accountIndexFromSlice, length_guard, a.sliceVec_data (by decide)]
  rfl

@[simp] theorem recoveryEnabledFromSlice_data :
    recoveryEnabledFromSlice a.data = .ok a.fields.recovery := by
  rw [recoveryEnabledFromSlice, length_guard, a.index_data (by decide)]
  rfl

@[simp] theorem falconRequiredAboveFromSlice_data :
    falconRequiredAboveFromSlice a.data = .ok a.fields.threshold := by
  rw [falconRequiredAboveFromSlice, length_guard, a.index_data (by decide),
    a.sliceVec_data (by decide)]
  -- reader and record test the same flag
  show (if a.fields.flags &&& flagFalconThresholdSet = 0 then _ else _) = _
  unfold HybridFields.threshold
  split <;> rfl

@[simp] theorem recoveryEnabled_eq : a.recoveryEnabled = a.fields.recovery := rfl

@[simp] theorem falconRequiredAbove_eq : a.falconRequiredAbove = a.fields.threshold := rfl

/-! A reader succeeds only on the data of a view. -/

theorem view_of_guard {α : Type} {data : List UInt8} {e : DualKeyError} {k : DkRes α} {v : α}
    (h : (Res.failIf (data.length ≠ accountDataLen) e >>= fun _ => k) = .ok v) :
    ∃ a : HybridAccount, a.data = data := by
  obtain ⟨_, hlen, _⟩ := Res.bind_eq_ok.mp h
  rw [Res.failIf_eq_ok, not_not] at hlen
  exact exists_view hlen

theorem versionFromSlice_eq_ok {data : List UInt8} {v : UInt8} :
    versionFromSlice data = .ok v ↔ ∃ a : HybridAccount, a.data = data ∧ a.fields.version = v := by
  constructor
  · intro h
    obtain ⟨a, rfl⟩ := view_of_guard h
    rw [versionFromSlice_data] at h
    exact ⟨a, rfl, Except.ok.inj h⟩
  · rintro ⟨a, rfl, rfl⟩
    exact a.versionFromSlice_data

theorem accountIndexFromSlice_eq_ok {data : List UInt8} {v : UInt32} :
    accountIndexFromSlice data = .ok v ↔
      ∃ a : HybridAccount, a.data = data ∧ a.fields.accountIndex = v := by
  constructor
  · intro h
    obtain ⟨a, rfl⟩ := view_of_guard h
    rw [accountIndexFromSlice_data] at h
    exact ⟨a, rfl, Except.ok.inj h⟩
  · rintro ⟨a, rfl, rfl⟩
    exact a.accountIndexFromSlice_data

theorem recoveryEnabledFromSlice_eq_ok {data : List UInt8} {v : Bool} :
    recoveryEnabledFromSlice data = .ok v ↔
      ∃ a : HybridAccount, a.data = data ∧ a.fields.recovery = v := by
  constructor
  · intro h
    obtain ⟨a, rfl⟩ := view_of_guard h
    rw [recoveryEnabledFromSlice_data] at h
    exact ⟨a, rfl, Except.ok.inj h⟩
  · rintro ⟨a, rfl, rfl⟩
    exact a.recoveryEnabledFromSlice_data

end HybridAccount

/-! ### The two flags

They share a byte, and neither setter disturbs the other flag. -/

namespace HybridFields

theorem flag_laws (b : UInt8) :
    (b ||| 1) &&& 1 ≠ 0 ∧ (b &&& ~~~1) &&& 1 = 0 ∧
    (b ||| 2) &&& 2 ≠ 0 ∧ (b &&& ~~~2) &&& 2 = 0 ∧
    (b ||| 1) &&& 2 = b &&& 2 ∧ (b &&& ~~~1) &&& 2 = b &&& 2 ∧
    (b ||| 2) &&& 1 = b &&& 1 ∧ (b &&& ~~~2) &&& 1 = b &&& 1 := by
  revert b
  -- a finite check of all bytes
  refine forall_byte ?_
  decide +kernel

@[simp] theorem recovery_setRecovery (f : HybridFields) (enabled : Bool) :
    recovery { f with
      flags := if enabled then f.flags ||| flagRecoveryEnabled
        else f.flags &&& ~~~flagRecoveryEnabled } = enabled := by
  obtain ⟨hset, hclear, -⟩ := flag_laws f.flags
  cases enabled <;> simp [recovery, flagRecoveryEnabled, hset, hclear]

@[simp] theorem threshold_setRecovery (f : HybridFields) (enabled : Bool) :
    threshold { f with
      flags := if enabled then f.flags ||| flagRecoveryEnabled
        else f.flags &&& ~~~flagRecoveryEnabled } = f.threshold := by
  obtain ⟨-, -, -, -, hset, hclear, -⟩ := flag_laws f.flags
  cases enabled with
  | true =>
    show (if (f.flags ||| 1) &&& 2 = 0 then none else some f.falconRequiredAbove) = _
    rw [hset]
    rfl
  | false =>
    show (if (f.flags &&& ~~~1) &&& 2 = 0 then none else some f.falconRequiredAbove) = _
    rw [hclear]
    rfl

@[simp] theorem threshold_setThreshold (f : HybridFields) (t : Option UInt64) :
    threshold { f with falconRequiredAbove := t.getD 0, flags := f.flagsWithThreshold t } = t := by
  obtain ⟨-, -, hset, hclear, -⟩ := flag_laws f.flags
  cases t <;> simp [threshold, flagsWithThreshold, flagFalconThresholdSet, hset, hclear]

@[simp] theorem recovery_setThreshold (f : HybridFields) (t : Option UInt64) (v : UInt64) :
    recovery { f with falconRequiredAbove := v, flags := f.flagsWithThreshold t } =
      f.recovery := by
  obtain ⟨-, -, -, -, -, -, hset, hclear⟩ := flag_laws f.flags
  cases t with
  | some t =>
    show decide ((f.flags ||| 2) &&& 1 ≠ 0) = _
    rw [hset]
    rfl
  | none =>
    show decide ((f.flags &&& ~~~2) &&& 1 ≠ 0) = _
    rw [hclear]
    rfl

end HybridFields

end DualKey
