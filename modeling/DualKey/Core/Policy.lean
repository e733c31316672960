import DualKey.Core.Intent

/-!
# Authorization policies and the requirement lattice

A policy decides which signature schemes an action needs. `ChangePolicy` is
authorized under the stricter of two requirements, `SignatureRequirement.meet`.
-/

namespace DualKey

/-- The authorization policy of a vault. -/
inductive AuthorizationPolicy where
  /-- Require an Ed25519 signature. -/
  | ed25519Only
  /-- Require a Falcon-512 signature. -/
  | falconOnly
  /-- Require both signatures; never falls back. -/
  | hybridAnd
  /-- Accept either signature. -/
  | hybridOr
  /-- Falcon for privileged actions, Ed25519 for transfers. -/
  | falconForPrivileged
  /-- Falcon for transfers above the threshold and everything privileged. -/
  | falconAboveThreshold
deriving DecidableEq, Repr

/-- The schemes that must verify in one authorization attempt. -/
inductive SignatureRequirement where
  /-- Ed25519 or Falcon is enough. -/
  | either
  /-- Ed25519 required. -/
  | ed25519
  /-- Falcon required. -/
  | falcon
  /-- Both required. -/
  | both
deriving DecidableEq, Repr

namespace SignatureRequirement

/-- The stricter of two requirements. -/
def meet : SignatureRequirement → SignatureRequirement → SignatureRequirement
  | both, _ => both
  | _, both => both
  | ed25519, falcon => both
  | falcon, ed25519 => both
  | ed25519, ed25519 => ed25519
  | ed25519, either => ed25519
  | either, ed25519 => ed25519
  | falcon, falcon => falcon
  | falcon, either => falcon
  | either, falcon => falcon
  | either, either => either

@[simp] theorem meet_both (r : SignatureRequirement) : r.meet both = both := by
  cases r <;> rfl

@[simp] theorem both_meet (r : SignatureRequirement) : both.meet r = both := by
  cases r <;> rfl

end SignatureRequirement

namespace AuthorizationPolicy

/-- Parse a policy byte. -/
def fromU8 : UInt8 → Option AuthorizationPolicy
  | 0 => some ed25519Only
  | 1 => some falconOnly
  | 2 => some hybridAnd
  | 3 => some hybridOr
  | 4 => some falconForPrivileged
  | 5 => some falconAboveThreshold
  | _ => none

/-- The policy byte stored in the account. -/
def asU8 : AuthorizationPolicy → UInt8
  | ed25519Only => 0
  | falconOnly => 1
  | hybridAnd => 2
  | hybridOr => 3
  | falconForPrivileged => 4
  | falconAboveThreshold => 5

/-- Whether the policy mode is implemented: all six are. -/
def isImplemented : AuthorizationPolicy → Bool
  | ed25519Only => true
  | falconOnly => true
  | hybridAnd => true
  | hybridOr => true
  | falconForPrivileged => true
  | falconAboveThreshold => true

/-- Short stable name, also the spelling of the policy on the command line. -/
def name : AuthorizationPolicy → String
  | ed25519Only => "ed25519-only"
  | falconOnly => "falcon-only"
  | hybridAnd => "hybrid-and"
  | hybridOr => "hybrid-or"
  | falconForPrivileged => "falcon-for-privileged"
  | falconAboveThreshold => "falcon-above-threshold"

/-- The policy of that name. -/
def fromName (name : String) : Option AuthorizationPolicy :=
  [ed25519Only, falconOnly, hybridAnd, hybridOr, falconForPrivileged, falconAboveThreshold].find?
    fun p => p.name = name

/-- The requirement of `action` under this policy. An unset threshold counts as
zero, and under `falconAboveThreshold` every non-transfer needs Falcon. -/
def signatureRequirement (policy : AuthorizationPolicy) (action : Action)
    (threshold : Option UInt64) : SignatureRequirement :=
  match policy with
  | ed25519Only => .ed25519
  | falconOnly => .falcon
  | hybridAnd => .both
  | hybridOr => .either
  | falconForPrivileged => if action.isPrivileged then .falcon else .ed25519
  | falconAboveThreshold =>
    match action with
    | .transferSol _ lamports => if threshold.getD 0 < lamports then .falcon else .ed25519
    | .transferSpl _ amount => if threshold.getD 0 < amount then .falcon else .ed25519
    | _ => .falcon

@[simp] theorem fromU8_asU8 (p : AuthorizationPolicy) : fromU8 p.asU8 = some p := by
  cases p <;> rfl

/-- A byte that parses as a policy is its byte. -/
theorem eq_asU8 {b : UInt8} {p : AuthorizationPolicy} (h : fromU8 b = some p) : b = p.asU8 := by
  unfold fromU8 at h
  split at h <;> cases h <;> rfl

@[simp] theorem isImplemented_eq_true (p : AuthorizationPolicy) : p.isImplemented = true := by
  cases p <;> rfl

/-- A name parses to the policy it is the name of, and to no other. -/
theorem fromName_eq_some {s : String} {p : AuthorizationPolicy} :
    fromName s = some p ↔ p.name = s := by
  constructor
  · intro h
    simpa using List.find?_some h
  · rintro rfl
    cases p <;> decide

end AuthorizationPolicy

end DualKey
