import DualKey.System.Chain

/-!
# The abstract vault

What a vault is for, without bytes, flags, addresses or nonces that could wrap: a record
of settings with a counter, and a guardian who may propose a new owner. `VaultCommand` is
what a successful instruction asks for, and `VaultRecord.step` what it does to the record.
The step is partial where a command depends on the guardianship: a proposal needs an idle
guardian and a ready slot that exists, the execution of a proposal a pending one that is
ready, and so on.

`recordOf` reads the record of a vault from its account and its recovery config.
-/

namespace DualKey

/-- The state of a vault and its guardianship. -/
@[ext] structure VaultRecord where
  policy : AuthorizationPolicy
  threshold : Option UInt64
  recovery : Bool
  owner : Pubkey
  falconHash : Digest
  prepared : PreparedFalconPubkey
  nonce : ℕ
  bump : UInt8
  index : UInt32
  guardianship : Option Guardianship
deriving DecidableEq

/-- What a successful instruction asks of a vault. -/
inductive VaultCommand where
  | execute
  /-- By `RotateEd25519Key`, and by the recovery rotation. -/
  | rotateOwner (key : Pubkey)
  | rotateFalcon (wireKey : List UInt8)
  | changePolicy (policy : AuthorizationPolicy) (threshold : UInt64)
  | setRecovery (enabled : Bool)
  | setConfig (guardian : Pubkey) (delay : UInt64)
  | initiate (key : Pubkey) (slot : UInt64)
  | finalize (slot : UInt64)
  | cancel
deriving DecidableEq

namespace VaultRecord

/-- One more nonce is consumed. -/
def consume (r : VaultRecord) : VaultRecord := { r with nonce := r.nonce + 1 }

/-- No proposal is pending. -/
def clearPending (r : VaultRecord) : VaultRecord :=
  { r with guardianship := r.guardianship.map fun g => { g with pending := none } }

/-- The pending proposal, if there is one. -/
def pending (r : VaultRecord) : Option (Pubkey × UInt64) := r.guardianship.bind fun g => g.pending

/-- What a command does to a vault. `hash` and `prepare` turn a Falcon wire key into the hash
and the prepared key that are stored. -/
def step (hash : List UInt8 → Digest) (prepare : List UInt8 → Option PreparedFalconPubkey)
    (r : VaultRecord) : VaultCommand → Option VaultRecord
  | .execute => some r.consume
  | .rotateOwner key => some { r.clearPending.consume with owner := key }
  | .rotateFalcon wireKey =>
    (prepare wireKey).map fun prepared =>
      { r.consume with falconHash := hash wireKey, prepared := prepared }
  | .changePolicy policy threshold =>
    some { r.consume with
      policy := policy
      threshold := if policy = .falconAboveThreshold then some threshold else none }
  | .setRecovery enabled => some { r.consume with recovery := enabled }
  | .setConfig guardian delay =>
    if r.pending = none then
      some { r.consume with guardianship := some { guardian, delay, pending := none } }
    else none
  | .initiate key slot =>
    match r.guardianship with
    | some { guardian, delay, pending := none } =>
      (checkedAdd slot delay).map fun ready =>
        { r with guardianship := some { guardian, delay, pending := some (key, ready) } }
    | _ => none
  | .finalize slot =>
    match r.pending with
    | some (key, ready) =>
      if ready ≤ slot then some { r.clearPending.consume with owner := key } else none
    | none => none
  | .cancel => if r.pending = none then none else some r.clearPending.consume

section Step

/-! The partial steps, where they are defined. -/

variable {hash : List UInt8 → Digest} {prepare : List UInt8 → Option PreparedFalconPubkey}
  {r : VaultRecord} {guardian key : Pubkey} {delay slot ready : UInt64}

theorem step_setConfig (hidle : r.pending = none) :
    r.step hash prepare (.setConfig guardian delay) =
      some { r.consume with guardianship := some { guardian, delay, pending := none } } :=
  if_pos hidle

theorem step_initiate (hidle : r.guardianship = some { guardian, delay, pending := none })
    (hready : slot.toNat + delay.toNat = ready.toNat) :
    r.step hash prepare (.initiate key slot) =
      some { r with guardianship := some { guardian, delay, pending := some (key, ready) } } := by
  have hadd : checkedAdd slot delay = some ready := checkedAdd_eq_some.mpr hready
  rw [step, hidle]
  simp only [hadd, Option.map_some]

theorem step_finalize (hpending : r.pending = some (key, ready)) (helapsed : ready ≤ slot) :
    r.step hash prepare (.finalize slot) =
      some { r.clearPending.consume with owner := key } := by
  rw [step, hpending]
  exact if_pos helapsed

theorem step_cancel (hpending : r.pending ≠ none) :
    r.step hash prepare .cancel = some r.clearPending.consume := if_neg hpending

theorem step_rotateFalcon {wireKey : List UInt8} {prepared : PreparedFalconPubkey}
    (hprepared : prepare wireKey = some prepared) :
    r.step hash prepare (.rotateFalcon wireKey) =
      some { r.consume with falconHash := hash wireKey, prepared := prepared } := by
  rw [step, hprepared]
  rfl

end Step

end VaultRecord

/-! ### The record of an account -/

/-- The record with the fields of a vault account and a guardianship. -/
def HybridFields.record (f : HybridFields) (policy : AuthorizationPolicy)
    (g : Option Guardianship) : VaultRecord where
  policy := policy
  threshold := f.threshold
  recovery := f.recovery
  owner := f.ownerEd25519
  falconHash := f.falconPublicKeyHash
  prepared := f.preparedFalconPublicKey
  nonce := f.nonce.toNat
  bump := f.bump
  index := f.accountIndex
  guardianship := g

variable (P : Platform)

/-- The record of the vault at `v`: read from the 1120 bytes of an initialized account of the
program and from its recovery config. -/
def recordOf (m : Machine) (v : Pubkey) : Option VaultRecord :=
  if m.owner v = P.programId then
    match HybridAccount.tryFromBytes (m.data v) with
    | .ok a =>
      if a.fields.version = accountVersion then
        (AuthorizationPolicy.fromU8 a.fields.policy).map fun policy =>
          a.fields.record policy (guardianshipOf P m v)
      else none
    | .error _ => none
  else none

/-- The command of an instruction, from its data and the clock. -/
def Invocation.command (inv : Invocation) : Option VaultCommand :=
  match inv.instruction with
  | some .execute => some .execute
  | some .rotateFalconKey =>
    some (.rotateFalcon ((inv.payload.drop authPayloadLen).take falconWirePubkeyLen))
  | some .initiateSocialRecovery =>
    if h : inv.payload.length = 32 then some (.initiate ⟨inv.payload, h⟩ inv.slot) else none
  | some .finalizeSocialRecovery => some (.finalize inv.slot)
  | some ix =>
    match ExecuteIntentWire.decode (inv.payload.take executeIntentWireLen) with
    | .error _ => none
    | .ok wire =>
      match ix, wire.action with
      | .rotateEd25519Key, .rotateEd25519Key key => some (.rotateOwner key)
      | .recoverAccount, .recoverAccount .rotateEd25519 key => some (.rotateOwner key)
      | .recoverAccount, .recoverAccount .enable _ => some (.setRecovery true)
      | .recoverAccount, .recoverAccount .disable _ => some (.setRecovery false)
      | .changePolicy, .changePolicy newPolicy threshold =>
        (AuthorizationPolicy.fromU8 newPolicy).map fun policy => .changePolicy policy threshold
      | .setRecoveryConfig, .setRecoveryConfig guardian delay => some (.setConfig guardian delay)
      | .cancelSocialRecovery, .cancelSocialRecovery => some .cancel
      | _, _ => none
  | none => none

variable {P} {m m' : Machine} {v : Pubkey} {a : HybridAccount} {policy : AuthorizationPolicy}

theorem recordOf_eq (hv : VaultAt P m v a)
    (hpolicy : AuthorizationPolicy.fromU8 a.fields.policy = some policy) :
    recordOf P m v = some (a.fields.record policy (guardianshipOf P m v)) := by
  rw [recordOf, if_pos hv.owner, hv.data, HybridAccount.tryFromBytes_data]
  show (if a.fields.version = accountVersion then
    (AuthorizationPolicy.fromU8 a.fields.policy).map _ else none) = _
  rw [if_pos hv.version, hpolicy]
  rfl

/-- A record is that of a vault account. -/
theorem exists_vaultAt_of_recordOf {r : VaultRecord} (h : recordOf P m v = some r) :
    ∃ a policy, VaultAt P m v a ∧ AuthorizationPolicy.fromU8 a.fields.policy = some policy ∧
      r = a.fields.record policy (guardianshipOf P m v) := by
  unfold recordOf at h
  split at h
  · next howner =>
    split at h
    · next a ha =>
      have hdata : m.data v = a.data := (HybridAccount.tryFromBytes_eq_ok.mp ha).symm
      split at h
      · next hversion =>
        obtain ⟨policy, hpolicy, hr⟩ := Option.map_eq_some_iff.mp h
        exact ⟨a, policy, ⟨howner, hdata, hversion⟩, hpolicy, hr.symm⟩
      · cases h
    · cases h
  · cases h

end DualKey
