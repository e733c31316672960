import DualKey.Core.State
import DualKey.Core.Recovery
import DualKey.Foundations.Lens

/-!
# Account views are lawful lenses

Each field of a vault has a getter and a setter of its own, which address the buffer through
separate offsets. `VaultField` lists them, with the bits each owns, and each is a lawful lens on
these bits. All regions are apart, except that the flags overlap with the two fields derived
from them, which own one bit each. So setters do not disturb other getters, and what is left to
say is what happens on the flags byte. The same goes for the recovery config.
-/

namespace DualKey

open Buffer ByteVec Lens

/-! ### One flag -/

/-- Set or clear the bits of a mask. -/
def withFlag (b mask : UInt8) (on : Bool) : UInt8 := if on then b ||| mask else b &&& ~~~mask

/-- Each mask is one bit: it is read as that bit, and setting it changes no other. -/
theorem flag_bits (b : UInt8) :
    decide (b &&& 1 ≠ 0) = b.toNat.testBit 0 ∧ decide (b &&& 2 ≠ 0) = b.toNat.testBit 1 ∧
    ∀ on, ∀ j < 8,
      ((if on then b ||| 1 else b &&& ~~~1).toNat.testBit j =
        if j = 0 then on else b.toNat.testBit j) ∧
      ((if on then b ||| 2 else b &&& ~~~2).toNat.testBit j =
        if j = 1 then on else b.toNat.testBit j) := by
  revert b
  -- a finite check of all bytes
  refine forall_byte ?_
  decide +kernel

theorem testBit_withRecovery (b : UInt8) (on : Bool) {j : ℕ} (h : j < 8) :
    (withFlag b flagRecoveryEnabled on).toNat.testBit j =
      if j = 0 then on else b.toNat.testBit j :=
  ((flag_bits b).2.2 on j h).1

theorem testBit_withThreshold (b : UInt8) (on : Bool) {j : ℕ} (h : j < 8) :
    (withFlag b flagFalconThresholdSet on).toNat.testBit j =
      if j = 1 then on else b.toNat.testBit j :=
  ((flag_bits b).2.2 on j h).2

theorem withRecovery_withRecovery (b : UInt8) (on on' : Bool) :
    withFlag (withFlag b flagRecoveryEnabled on) flagRecoveryEnabled on' =
      withFlag b flagRecoveryEnabled on' := by
  refine eq_of_bits fun j hj => ?_
  rw [testBit_withRecovery _ _ hj, testBit_withRecovery _ _ hj, testBit_withRecovery _ _ hj]
  split <;> rfl

theorem withThreshold_withThreshold (b : UInt8) (on on' : Bool) :
    withFlag (withFlag b flagFalconThresholdSet on) flagFalconThresholdSet on' =
      withFlag b flagFalconThresholdSet on' := by
  refine eq_of_bits fun j hj => ?_
  rw [testBit_withThreshold _ _ hj, testBit_withThreshold _ _ hj, testBit_withThreshold _ _ hj]
  split <;> rfl

namespace HybridAccount

variable (a : HybridAccount)

theorem bytes_injective : Function.Injective bytes := by
  rintro ⟨v⟩ ⟨w⟩ rfl
  rfl

/-- The stored threshold, whether its flag is set or not. -/
def storedThreshold : UInt64 := u64FromLe (getVec 8 a.bytes 80)

/-- The bytes a threshold is stored as. -/
def thresholdBytes : Option UInt64 → ByteVec 8
  | some v => u64ToLe v
  | none => ByteVec.zero 8

theorem recoveryEnabled_eq_testBit : a.recoveryEnabled = a.bytes.bit 24 :=
  (flag_bits a.flags).1

theorem falconRequiredAbove_eq_testBit :
    a.falconRequiredAbove = if a.bytes.bit 25 then some a.storedThreshold else none := by
  show (if a.flags &&& 2 = 0 then none else some a.storedThreshold) =
    if a.flags.toNat.testBit 1 then some a.storedThreshold else none
  rw [← (flag_bits a.flags).2.1]
  by_cases h : a.flags &&& 2 = 0
  · rw [if_pos h, if_neg fun hd => absurd h (of_decide_eq_true hd)]
  · rw [if_neg h, if_pos (decide_eq_true h)]

theorem bytes_setRecoveryEnabled (enabled : Bool) :
    (a.setRecoveryEnabled enabled).bytes =
      a.bytes.putByte 3 (withFlag a.flags flagRecoveryEnabled enabled) (by decide) := by
  cases enabled <;> rfl

theorem bytes_setFalconRequiredAbove (threshold : Option UInt64) :
    (a.setFalconRequiredAbove threshold).bytes =
      (a.bytes.putVec 80 (thresholdBytes threshold) (by decide)).putByte 3
        (withFlag a.flags flagFalconThresholdSet threshold.isSome) (by decide) := by
  cases threshold <;> rfl

end HybridAccount

/-! ### The fields of a vault -/

/-- The fields of a vault that have a setter. -/
inductive VaultField where
  | version
  | bump
  | accountIndex
  | policy
  | flags
  | recoveryEnabled
  | ownerEd25519
  | falconPublicKeyHash
  | nonce
  | falconRequiredAbove
  | preparedFalconPublicKey
deriving DecidableEq

namespace VaultField

/-- What a setter takes. -/
abbrev Value : VaultField → Type
  | version => UInt8
  | bump => UInt8
  | accountIndex => UInt32
  | policy => AuthorizationPolicy
  | flags => UInt8
  | recoveryEnabled => Bool
  | ownerEd25519 => Pubkey
  | falconPublicKeyHash => Digest
  | nonce => UInt64
  | falconRequiredAbove => Option UInt64
  | preparedFalconPublicKey => PreparedFalconPubkey

/-- What a getter returns. Only the policy byte may have no meaning. -/
abbrev Reading : VaultField → Type
  | policy => DkRes AuthorizationPolicy
  | f => f.Value

/-- Getter and setter of a field. -/
def lens : (f : VaultField) → Lens HybridAccount f.Value f.Reading
  | version => ⟨HybridAccount.version, HybridAccount.setVersion, id⟩
  | bump => ⟨HybridAccount.bump, HybridAccount.setBump, id⟩
  | accountIndex => ⟨HybridAccount.accountIndex, HybridAccount.setAccountIndex, id⟩
  | policy => ⟨HybridAccount.policy, HybridAccount.setPolicy, .ok⟩
  | flags => ⟨HybridAccount.flags, HybridAccount.setFlags, id⟩
  | recoveryEnabled => ⟨HybridAccount.recoveryEnabled, HybridAccount.setRecoveryEnabled, id⟩
  | ownerEd25519 => ⟨HybridAccount.ownerEd25519, HybridAccount.setOwnerEd25519, id⟩
  | falconPublicKeyHash =>
    ⟨HybridAccount.falconPublicKeyHash, HybridAccount.setFalconPublicKeyHash, id⟩
  | nonce => ⟨HybridAccount.nonce, HybridAccount.setNonce, id⟩
  | falconRequiredAbove =>
    ⟨HybridAccount.falconRequiredAbove, HybridAccount.setFalconRequiredAbove, id⟩
  | preparedFalconPublicKey =>
    ⟨HybridAccount.preparedFalconPublicKey, HybridAccount.setPreparedFalconPublicKey, id⟩

/-- The bits a field owns. The flags are the bits 24 to 31. -/
def bits : VaultField → Ranges
  | version => bitsAt 0 1
  | bump => bitsAt 1 1
  | policy => bitsAt 2 1
  | flags => bitsAt 3 1
  | recoveryEnabled => [(24, 1)]
  | accountIndex => bitsAt 4 4
  | ownerEd25519 => bitsAt 8 32
  | falconPublicKeyHash => bitsAt 40 32
  | nonce => bitsAt 72 8
  | falconRequiredAbove => (25, 1) :: bitsAt 80 8
  | preparedFalconPublicKey => bitsAt 96 1024

/-- One is the flags byte, the other derived from it. -/
def Overlaps (f g : VaultField) : Prop :=
  (f = flags ∧ (g = recoveryEnabled ∨ g = falconRequiredAbove)) ∨
    (g = flags ∧ (f = recoveryEnabled ∨ f = falconRequiredAbove))

instance (f g : VaultField) : Decidable (f.Overlaps g) :=
  inferInstanceAs (Decidable (_ ∨ _))

/-! Two fields own one bit of the flags byte each. -/

theorem lawful_recoveryEnabled :
    recoveryEnabled.lens.Lawful (fun a => a.bytes.bit) recoveryEnabled.bits.Mem where
  get_set a v := by
    show (a.setRecoveryEnabled v).recoveryEnabled = v
    rw [HybridAccount.recoveryEnabled_eq_testBit, a.bytes_setRecoveryEnabled, bit_putByte,
      if_pos rfl, testBit_withRecovery _ _ (by decide), if_pos rfl]
  set_set a v w := by
    refine HybridAccount.bytes_injective ?_
    show ((a.setRecoveryEnabled v).setRecoveryEnabled w).bytes = (a.setRecoveryEnabled w).bytes
    simp only [HybridAccount.bytes_setRecoveryEnabled, putByte_putByte, HybridAccount.flags,
      getByte_putByte_self, withRecovery_withRecovery]
  reads a b h := by
    show a.recoveryEnabled = b.recoveryEnabled
    rw [a.recoveryEnabled_eq_testBit, b.recoveryEnabled_eq_testBit]
    exact h 24 (by decide)
  writes a v i hi := by
    show (a.setRecoveryEnabled v).bytes.bit i = a.bytes.bit i
    have hne : i ≠ 24 := fun h => hi (by rw [h]; decide)
    rw [a.bytes_setRecoveryEnabled, bit_putByte]
    by_cases hbyte : i / 8 = 3
    · -- another flag
      rw [if_pos hbyte, testBit_withRecovery _ _ (by omega), if_neg (by omega), ByteVec.bit, hbyte]
      rfl
    · rw [if_neg hbyte]

theorem lawful_falconRequiredAbove :
    falconRequiredAbove.lens.Lawful (fun a => a.bytes.bit) falconRequiredAbove.bits.Mem where
  get_set a v := by
    show (a.setFalconRequiredAbove v).falconRequiredAbove = v
    rw [HybridAccount.falconRequiredAbove_eq_testBit, HybridAccount.storedThreshold,
      a.bytes_setFalconRequiredAbove, bit_putByte, if_pos rfl,
      testBit_withThreshold _ _ (by decide), if_pos rfl,
      getVec_putByte_of_disjoint (Or.inr (by decide)), getVec_putVec_self]
    cases v with
    | none => rfl
    | some v => exact congrArg some (u64FromLe_u64ToLe v)
  set_set a v w := by
    refine HybridAccount.bytes_injective ?_
    show ((a.setFalconRequiredAbove v).setFalconRequiredAbove w).bytes =
      (a.setFalconRequiredAbove w).bytes
    have hout : 3 < 80 ∨ 80 + 8 ≤ 3 := Or.inl (by decide)
    simp only [HybridAccount.bytes_setFalconRequiredAbove, HybridAccount.flags,
      getByte_putByte_self, withThreshold_withThreshold, putVec_putByte hout, putVec_putVec,
      putByte_putByte]
  reads a b h := by
    show a.falconRequiredAbove = b.falconRequiredAbove
    have hstored : a.storedThreshold = b.storedThreshold := by
      refine readsOnly_vec u64FromLe a b ?_
      rintro i ⟨r, hr, hi⟩
      exact h i ⟨r, List.mem_cons_of_mem _ hr, hi⟩
    rw [a.falconRequiredAbove_eq_testBit, b.falconRequiredAbove_eq_testBit, hstored,
      show a.bytes.bit 25 = b.bytes.bit 25 from h 25 (by decide)]
  writes a v i hi := by
    show (a.setFalconRequiredAbove v).bytes.bit i = a.bytes.bit i
    have hne : i ≠ 25 := fun h => hi (by rw [h]; decide)
    have hout : ¬ (bitsAt 80 8).Mem i := by
      rintro ⟨r, hr, h⟩
      exact hi ⟨r, List.mem_cons_of_mem _ hr, h⟩
    rw [mem_bitsAt] at hout
    rw [a.bytes_setFalconRequiredAbove, bit_putByte]
    by_cases hbyte : i / 8 = 3
    · -- another flag
      rw [if_pos hbyte, testBit_withThreshold _ _ (by omega), if_neg (by omega), ByteVec.bit, hbyte]
      rfl
    · rw [if_neg hbyte, bit_putVec_of_disjoint (by omega)]

/-- Every field is a lawful lens. Those not derived from a flag are stored in a range of bytes. -/
theorem lawful : (f : VaultField) → f.lens.Lawful (fun a => a.bytes.bit) f.bits.Mem
  | version => lawful_of_byte HybridAccount.bytes_injective id id (by decide) (fun _ => rfl)
    (fun _ _ => rfl) (fun _ => rfl)
  | bump => lawful_of_byte HybridAccount.bytes_injective id id (by decide) (fun _ => rfl)
    (fun _ _ => rfl) (fun _ => rfl)
  | accountIndex => lawful_of_vec HybridAccount.bytes_injective u32ToLe u32FromLe (by decide)
    (fun _ => rfl) (fun _ _ => rfl) u32FromLe_u32ToLe
  | policy => lawful_of_byte HybridAccount.bytes_injective AuthorizationPolicy.asU8
    (fun b => Res.okOr (AuthorizationPolicy.fromU8 b) .invalidAccountData) (by decide)
    (fun _ => rfl) (fun _ _ => rfl) (fun p => by rw [AuthorizationPolicy.fromU8_asU8]; rfl)
  | flags => lawful_of_byte HybridAccount.bytes_injective id id (by decide) (fun _ => rfl)
    (fun _ _ => rfl) (fun _ => rfl)
  | recoveryEnabled => lawful_recoveryEnabled
  | ownerEd25519 => lawful_of_vec HybridAccount.bytes_injective id id (by decide)
    (fun _ => rfl) (fun _ _ => rfl) (fun _ => rfl)
  | falconPublicKeyHash => lawful_of_vec HybridAccount.bytes_injective id id (by decide)
    (fun _ => rfl) (fun _ _ => rfl) (fun _ => rfl)
  | nonce => lawful_of_vec HybridAccount.bytes_injective u64ToLe u64FromLe (by decide)
    (fun _ => rfl) (fun _ _ => rfl) u64FromLe_u64ToLe
  | falconRequiredAbove => lawful_falconRequiredAbove
  | preparedFalconPublicKey => lawful_of_vec HybridAccount.bytes_injective id id (by decide)
    (fun _ => rfl) (fun _ _ => rfl) (fun _ => rfl)

/-- Any two fields are apart, but for the flags. -/
theorem apart {f g : VaultField} (hne : g ≠ f) (hflags : ¬ f.Overlaps g) :
    g.bits.Apart f.bits := by
  revert hne hflags
  cases f <;> cases g <;> decide

/-- The reader of a field on an unchecked buffer, where there is one. -/
def fromSlice? : (f : VaultField) → Option (List UInt8 → DkRes f.Value)
  | version => some HybridAccount.versionFromSlice
  | bump => none
  | accountIndex => some HybridAccount.accountIndexFromSlice
  | policy => some HybridAccount.policyFromSlice
  | flags => none
  | recoveryEnabled => some HybridAccount.recoveryEnabledFromSlice
  | ownerEd25519 => some HybridAccount.ownerEd25519FromSlice
  | falconPublicKeyHash => some HybridAccount.falconPublicKeyHashFromSlice
  | nonce => some HybridAccount.nonceFromSlice
  | falconRequiredAbove => some HybridAccount.falconRequiredAboveFromSlice
  | preparedFalconPublicKey => some HybridAccount.preparedFalconPublicKeyFromSlice

/-- The result of a reader that agrees with a getter. -/
def outcome : (f : VaultField) → f.Reading → DkRes f.Value
  | policy => id
  | version | bump | accountIndex | flags | recoveryEnabled | ownerEd25519 | falconPublicKeyHash
  | nonce | falconRequiredAbove | preparedFalconPublicKey => .ok

/-- The laws of a setter at a buffer, for any two values. -/
structure Laws (f : VaultField) (a : HybridAccount) (v w : f.Value) : Prop where
  get_set : f.lens.get (f.lens.set a v) = f.lens.seen v
  others : ∀ g, g ≠ f → ¬ f.Overlaps g → g.lens.get (f.lens.set a v) = g.lens.get a
  /-- A byte without a bit of the field stays. -/
  outside : ∀ i, (∀ j < 8, ¬ f.bits.Mem (8 * i + j)) →
    (f.lens.set a v).bytes.getByte i = a.bytes.getByte i
  set_set : f.lens.set (f.lens.set a v) w = f.lens.set a w

theorem laws (f : VaultField) (a : HybridAccount) (v w : f.Value) : f.Laws a v w where
  get_set := f.lawful.get_set a v
  others g hne hflags := f.lawful.get_set_of_apart g.lawful.reads
    (fun _ hi => (apart hne hflags).not_mem hi) a v
  outside _ hi := getByte_eq_of_bits fun j hj => f.lawful.writes a v _ (hi j hj)
  set_set := f.lawful.set_set a v w

end VaultField

namespace HybridAccount

/-- What happens between the flags and the two fields derived from them. -/
structure FlagLaws (a : HybridAccount) : Prop where
  recovery_setFlags : ∀ b,
    (a.setFlags b).recoveryEnabled = decide (b &&& flagRecoveryEnabled ≠ 0)
  threshold_setFlags : ∀ b, (a.setFlags b).falconRequiredAbove =
    if b &&& flagFalconThresholdSet = 0 then none else some a.storedThreshold
  flags_setRecovery : ∀ on, ∀ j < 8, (a.setRecoveryEnabled on).flags.toNat.testBit j =
    if j = 0 then on else a.flags.toNat.testBit j
  flags_setThreshold : ∀ t, ∀ j < 8, (a.setFalconRequiredAbove t).flags.toNat.testBit j =
    if j = 1 then t.isSome else a.flags.toNat.testBit j

theorem flags_setFlags (a : HybridAccount) (b : UInt8) : (a.setFlags b).flags = b :=
  congrArg HybridFields.flags (a.fields_setFlags b)

theorem storedThreshold_setFlags (a : HybridAccount) (b : UInt8) :
    (a.setFlags b).storedThreshold = a.storedThreshold := by
  show (a.setFlags b).fields.falconRequiredAbove = a.fields.falconRequiredAbove
  rw [fields_setFlags]

theorem flagLaws (a : HybridAccount) : a.FlagLaws where
  recovery_setFlags b := by rw [recoveryEnabled, flags_setFlags]
  threshold_setFlags b := by
    rw [falconRequiredAbove, flags_setFlags, ← a.storedThreshold_setFlags b]
    rfl
  flags_setRecovery on j hj := by
    rw [flags, bytes_setRecoveryEnabled, getByte_putByte_self, testBit_withRecovery _ _ hj]
  flags_setThreshold t j hj := by
    rw [flags, bytes_setFalconRequiredAbove, getByte_putByte_self, testBit_withThreshold _ _ hj]

/-- A reader refuses a buffer of another length. -/
theorem guard_refuses {α : Type} {data : List UInt8} (h : data.length ≠ accountDataLen)
    (k : Unit → DkRes α) :
    (Res.failIf (data.length ≠ accountDataLen) .invalidAccountData >>= k) =
      Res.fail .invalidAccountData := by
  rw [Res.failIf, if_pos h]
  rfl

end HybridAccount

/-- Every reader agrees with the getter of its field, and refuses a buffer of another length. -/
theorem VaultField.fromSlice_laws {f : VaultField} {reader : List UInt8 → DkRes f.Value}
    (h : f.fromSlice? = some reader) :
    (∀ a : HybridAccount, reader a.data = f.outcome (f.lens.get a)) ∧
      ∀ data, data.length ≠ accountDataLen → reader data = Res.fail .invalidAccountData := by
  cases f with
  -- these two are not read from unchecked data
  | bump => cases h
  | flags => cases h
  | version =>
    cases h
    exact ⟨fun a => a.versionFromSlice_data, fun _ hlen => HybridAccount.guard_refuses hlen _⟩
  | accountIndex =>
    cases h
    exact ⟨fun a => a.accountIndexFromSlice_data, fun _ hlen => HybridAccount.guard_refuses hlen _⟩
  | policy =>
    cases h
    exact ⟨fun a => a.policyFromSlice_data, fun _ hlen => HybridAccount.guard_refuses hlen _⟩
  | recoveryEnabled =>
    cases h
    exact ⟨fun a => a.recoveryEnabledFromSlice_data,
      fun _ hlen => HybridAccount.guard_refuses hlen _⟩
  | ownerEd25519 =>
    cases h
    exact ⟨fun a => a.ownerEd25519FromSlice_data, fun _ hlen => HybridAccount.guard_refuses hlen _⟩
  | falconPublicKeyHash =>
    cases h
    exact ⟨fun a => a.falconPublicKeyHashFromSlice_data,
      fun _ hlen => HybridAccount.guard_refuses hlen _⟩
  | nonce =>
    cases h
    exact ⟨fun a => a.nonceFromSlice_data, fun _ hlen => HybridAccount.guard_refuses hlen _⟩
  | falconRequiredAbove =>
    cases h
    exact ⟨fun a => a.falconRequiredAboveFromSlice_data,
      fun _ hlen => HybridAccount.guard_refuses hlen _⟩
  | preparedFalconPublicKey =>
    cases h
    exact ⟨fun a => a.preparedFalconPublicKeyFromSlice_data,
      fun _ hlen => HybridAccount.guard_refuses hlen _⟩

/-! ### The fields of a recovery config -/

/-- The fields of a recovery config that have a setter. -/
inductive ConfigField where
  | guardianEd25519
  | delaySlots
  | pendingNewEd25519
  | pendingReadySlot
deriving DecidableEq

namespace ConfigField

/-- What a setter takes and a getter returns. -/
abbrev Value : ConfigField → Type
  | guardianEd25519 => Pubkey
  | delaySlots => UInt64
  | pendingNewEd25519 => Pubkey
  | pendingReadySlot => UInt64

/-- Getter and setter of a field. -/
def lens : (f : ConfigField) → Lens RecoveryConfig f.Value f.Value
  | guardianEd25519 => ⟨RecoveryConfig.guardianEd25519, RecoveryConfig.setGuardianEd25519, id⟩
  | delaySlots => ⟨RecoveryConfig.delaySlots, RecoveryConfig.setDelaySlots, id⟩
  | pendingNewEd25519 =>
    ⟨RecoveryConfig.pendingNewEd25519, RecoveryConfig.setPendingNewEd25519, id⟩
  | pendingReadySlot => ⟨RecoveryConfig.pendingReadySlot, RecoveryConfig.setPendingReadySlot, id⟩

/-- The bits a field owns. -/
def bits : ConfigField → Ranges
  | guardianEd25519 => bitsAt 4 32
  | delaySlots => bitsAt 36 8
  | pendingNewEd25519 => bitsAt 44 32
  | pendingReadySlot => bitsAt 76 8

end ConfigField

namespace RecoveryConfig

theorem bytes_injective : Function.Injective bytes := by
  rintro ⟨v, _⟩ ⟨w, _⟩ rfl
  rfl

theorem reads_bump : ReadsOnly (fun c : RecoveryConfig => c.bytes.bit) (bitsAt 1 1).Mem bump :=
  readsOnly_byte id

theorem reads_hasPending :
    ReadsOnly (fun c : RecoveryConfig => c.bytes.bit) (bitsAt 44 32).Mem hasPending :=
  readsOnly_vec fun key => decide (key ≠ ByteVec.zero 32)

end RecoveryConfig

namespace ConfigField

theorem lawful : (f : ConfigField) → f.lens.Lawful (fun c => c.bytes.bit) f.bits.Mem
  | guardianEd25519 => lawful_of_vec RecoveryConfig.bytes_injective id id (by decide)
    (fun _ => rfl) (fun _ _ => rfl) (fun _ => rfl)
  | delaySlots => lawful_of_vec RecoveryConfig.bytes_injective u64ToLe u64FromLe (by decide)
    (fun _ => rfl) (fun _ _ => rfl) u64FromLe_u64ToLe
  | pendingNewEd25519 => lawful_of_vec RecoveryConfig.bytes_injective id id (by decide)
    (fun _ => rfl) (fun _ _ => rfl) (fun _ => rfl)
  | pendingReadySlot => lawful_of_vec RecoveryConfig.bytes_injective u64ToLe u64FromLe (by decide)
    (fun _ => rfl) (fun _ _ => rfl) u64FromLe_u64ToLe

theorem apart {f g : ConfigField} (hne : g ≠ f) : g.bits.Apart f.bits := by
  revert hne
  cases f <;> cases g <;> decide

/-- The laws of a setter at a buffer, for any two values. -/
structure Laws (f : ConfigField) (c : RecoveryConfig) (v w : f.Value) : Prop where
  get_set : f.lens.get (f.lens.set c v) = v
  others : ∀ g, g ≠ f → g.lens.get (f.lens.set c v) = g.lens.get c
  bump : (f.lens.set c v).bump = c.bump
  /-- Whether a proposal is pending depends on its key. -/
  hasPending : f ≠ pendingNewEd25519 → (f.lens.set c v).hasPending = c.hasPending
  /-- A byte without a bit of the field stays, the version among them. -/
  outside : ∀ i, (∀ j < 8, ¬ f.bits.Mem (8 * i + j)) →
    (f.lens.set c v).bytes.getByte i = c.bytes.getByte i
  set_set : f.lens.set (f.lens.set c v) w = f.lens.set c w

theorem laws (f : ConfigField) (c : RecoveryConfig) (v w : f.Value) : f.Laws c v w where
  get_set := by
    rw [f.lawful.get_set]
    cases f <;> rfl
  others g hne := f.lawful.get_set_of_apart g.lawful.reads
    (fun _ hi => (apart hne).not_mem hi) c v
  bump := by
    have hapart : (bitsAt 1 1).Apart f.bits := by cases f <;> decide
    exact f.lawful.get_set_of_apart RecoveryConfig.reads_bump (fun _ hi => hapart.not_mem hi) c v
  hasPending hne := f.lawful.get_set_of_apart RecoveryConfig.reads_hasPending
    (fun _ hi => (apart hne.symm).not_mem hi) c v
  outside _ hi := getByte_eq_of_bits fun j hj => f.lawful.writes c v _ (hi j hj)
  set_set := f.lawful.set_set c v w

end ConfigField

namespace RecoveryConfig

/-- The laws of clearing a pending proposal. -/
structure ClearLaws (c : RecoveryConfig) : Prop where
  pendingNewEd25519 : c.clearPending.pendingNewEd25519 = ByteVec.zero 32
  pendingReadySlot : c.clearPending.pendingReadySlot = 0
  hasPending : c.clearPending.hasPending = false
  guardianEd25519 : c.clearPending.guardianEd25519 = c.guardianEd25519
  delaySlots : c.clearPending.delaySlots = c.delaySlots
  bump : c.clearPending.bump = c.bump
  outside : ∀ i, i < 44 ∨ 84 ≤ i → c.clearPending.bytes.getByte i = c.bytes.getByte i
  twice : c.clearPending.clearPending = c.clearPending

theorem bytes_clearPending (c : RecoveryConfig) :
    c.clearPending.bytes = (c.bytes.putVec 44 (ByteVec.zero 32) (by decide)).putVec 76
      (u64ToLe 0) (by decide) := rfl

theorem clearLaws (c : RecoveryConfig) : c.ClearLaws := by
  -- the key is cleared first, then the slot
  have hkey := ConfigField.pendingNewEd25519.laws c (ByteVec.zero 32) (ByteVec.zero 32)
  have hslot := ConfigField.pendingReadySlot.laws (c.setPendingNewEd25519 (ByteVec.zero 32)) 0 0
  have hcleared : c.clearPending.pendingNewEd25519 = ByteVec.zero 32 :=
    (hslot.others .pendingNewEd25519 (by decide)).trans hkey.get_set
  exact {
    pendingNewEd25519 := hcleared
    pendingReadySlot := hslot.get_set
    hasPending := by
      rw [RecoveryConfig.hasPending, hcleared]
      exact decide_eq_false (not_not.mpr rfl)
    guardianEd25519 := (hslot.others .guardianEd25519 (by decide)).trans
      (hkey.others .guardianEd25519 (by decide))
    delaySlots := (hslot.others .delaySlots (by decide)).trans
      (hkey.others .delaySlots (by decide))
    bump := hslot.bump.trans hkey.bump
    outside := fun i hi => by
      rw [bytes_clearPending, getByte_putVec_of_disjoint (by omega),
        getByte_putVec_of_disjoint (by omega)]
    twice := by
      refine bytes_injective (ext_getByte fun i _ => ?_)
      rw [bytes_clearPending, bytes_clearPending, getByte_putVec, getByte_putVec, getByte_putVec,
        getByte_putVec]
      by_cases hin : 76 ≤ i ∧ i < 76 + 8
      · rw [if_pos hin, if_pos hin]
      · rw [if_neg hin, if_neg hin]
        split <;> rfl }

/-- The guardian's reader refuses another length and another version. -/
theorem guardianFromSlice_refuses {data : List UInt8}
    (h : data.length ≠ recoveryConfigLen ∨ byteAt data 0 ≠ recoveryConfigVersion) :
    guardianFromSlice data = Res.fail .invalidAccountData := by
  by_cases hlen : data.length = recoveryConfigLen
  · have hversion : byteAt data 0 ≠ recoveryConfigVersion := h.resolve_left (not_not.mpr hlen)
    have hindex : (index data 0 : DkRes UInt8) = .ok (byteAt data 0) :=
      index_of_lt (by rw [hlen]; decide)
    rw [guardianFromSlice, Res.failIf, if_neg (not_not.mpr hlen), hindex]
    show (Res.failIf (byteAt data 0 ≠ recoveryConfigVersion) _ >>= _) = _
    rw [Res.failIf, if_pos hversion]
    rfl
  · rw [guardianFromSlice, Res.failIf, if_pos hlen]
    rfl

end RecoveryConfig

/-- **Account views are lawful lenses.** For every vault buffer and every setter with any value,
the getter of the field returns the value, every other getter returns what it did before, bytes
outside the field stay, and the second of two writes wins. On the flags byte, `setFlags` decides
both derived getters, and the derived setters change one bit each. Every reader on a slice
agrees with the getter and refuses another length. The same holds of recovery configs. -/
theorem account_views_lawful :
    (∀ (f : VaultField) (a : HybridAccount) (v w : f.Value), f.Laws a v w) ∧
    (∀ a : HybridAccount, a.FlagLaws) ∧
    (∀ (f : VaultField) (reader : List UInt8 → DkRes f.Value), f.fromSlice? = some reader →
      (∀ a : HybridAccount, reader a.data = f.outcome (f.lens.get a)) ∧
      ∀ data, data.length ≠ accountDataLen → reader data = Res.fail .invalidAccountData) ∧
    (∀ (f : ConfigField) (c : RecoveryConfig) (v w : f.Value), f.Laws c v w) ∧
    (∀ (c : RecoveryConfig) (key : Pubkey),
      (c.setPendingNewEd25519 key).hasPending = decide (key ≠ ByteVec.zero 32)) ∧
    (∀ c : RecoveryConfig, c.ClearLaws) ∧
    (∀ c : RecoveryConfig, RecoveryConfig.guardianFromSlice c.data = .ok c.guardianEd25519) ∧
    ∀ data, data.length ≠ recoveryConfigLen ∨ byteAt data 0 ≠ recoveryConfigVersion →
      RecoveryConfig.guardianFromSlice data = Res.fail .invalidAccountData := by
  refine ⟨VaultField.laws, HybridAccount.flagLaws, fun _ _ h => VaultField.fromSlice_laws h,
    ConfigField.laws, fun c key => ?_, RecoveryConfig.clearLaws, fun c => ?_,
    fun _ h => RecoveryConfig.guardianFromSlice_refuses h⟩
  · have hkey := (ConfigField.pendingNewEd25519.laws c key key).get_set
    exact congrArg (fun k : Pubkey => decide (k ≠ ByteVec.zero 32)) hkey
  · exact RecoveryConfig.guardianFromSlice_eq_ok.mpr ⟨c, rfl, rfl⟩

end DualKey
