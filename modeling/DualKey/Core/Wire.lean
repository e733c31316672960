import DualKey.Core.Canonical

/-!
# The wire fragment of an intent

An instruction carries the expiry slot, the action tag and the action body of the
intent it submits; the program supplies the rest from trusted context.

```text
Offset  Size  Field
0       8     expiry_slot (u64 LE)
8       1     action_tag
9       40    action_body
49            end
```
-/

namespace DualKey

open Buffer ByteVec

/-- Width of the wire fragment. -/
@[simp] abbrev executeIntentWireLen : ℕ := 49

/-- The part of an intent that travels on the wire. -/
structure ExecuteIntentWire where
  expirySlot : UInt64
  action : Action
deriving DecidableEq

/-- Decode an action from its tag and body. -/
def Action.fromWire (tag : UInt8) (body : List UInt8) : DkRes Action := do
  Res.failIf (body.length ≠ actionBodyLen) .malformedInstructionData
  match tag with
  | 1 => do
    let recipient ← sliceVec 32 body 0
    let lamports ← sliceVec 8 body 32
    pure (.transferSol recipient (u64FromLe lamports))
  | 2 => do
    let destination ← sliceVec 32 body 0
    let amount ← sliceVec 8 body 32
    pure (.transferSpl destination (u64FromLe amount))
  | 3 => do
    let newPubkey ← sliceVec 32 body 0
    pure (.rotateEd25519Key newPubkey)
  | 4 => do
    let newPubkeyHash ← sliceVec 32 body 0
    pure (.rotateFalconKey newPubkeyHash)
  | 5 => do
    let newPolicy ← index body 0
    let threshold ← sliceVec 8 body 8
    pure (.changePolicy newPolicy (u64FromLe threshold))
  | 6 => do
    -- the new key is read for every operation; that it is zero where unused is the handler's test
    let op ← index body 0
    let op ← Res.okOr (RecoveryOp.fromU8 op) .unsupportedAction
    let newEd25519 ← sliceVec 32 body 8
    pure (.recoverAccount op newEd25519)
  | 7 => do
    let guardianEd25519 ← sliceVec 32 body 0
    let delaySlots ← sliceVec 8 body 32
    pure (.setRecoveryConfig guardianEd25519 (u64FromLe delaySlots))
  | 8 => do
    -- a cancellation has no contents, and bytes in their place are refused
    Res.failIf (body.any (· ≠ 0)) .malformedInstructionData
    pure .cancelSocialRecovery
  | _ => Res.fail .unsupportedAction

namespace ExecuteIntentWire

/-- Encode into the fixed-width fragment. Bytes a body does not use stay zero. -/
def encode (wire : ExecuteIntentWire) : ByteVec executeIntentWireLen :=
  let out := (ByteVec.zero executeIntentWireLen).putVec 0 (u64ToLe wire.expirySlot) (by decide)
  let out := out.putByte 8 wire.action.tag (by decide)
  match wire.action with
  | .transferSol recipient lamports =>
    (out.putVec 9 recipient (by decide)).putVec 41 (u64ToLe lamports) (by decide)
  | .rotateEd25519Key newPubkey => out.putVec 9 newPubkey (by decide)
  | .rotateFalconKey newPubkeyHash => out.putVec 9 newPubkeyHash (by decide)
  | .transferSpl destination amount =>
    (out.putVec 9 destination (by decide)).putVec 41 (u64ToLe amount) (by decide)
  | .changePolicy newPolicy threshold =>
    (out.putByte 9 newPolicy (by decide)).putVec 17 (u64ToLe threshold) (by decide)
  | .recoverAccount op newEd25519 =>
    (out.putByte 9 op.asU8 (by decide)).putVec 17 newEd25519 (by decide)
  | .setRecoveryConfig guardianEd25519 delaySlots =>
    (out.putVec 9 guardianEd25519 (by decide)).putVec 41 (u64ToLe delaySlots) (by decide)
  | .cancelSocialRecovery => out

/-- Decode a fragment of exactly the fixed width. -/
def decode (bytes : List UInt8) : DkRes ExecuteIntentWire := do
  Res.failIf (bytes.length ≠ executeIntentWireLen) .malformedInstructionData
  let expirySlot ← sliceVec 8 bytes 0
  let tag ← index bytes 8
  let body ← slice bytes 9 actionBodyLen
  let action ← Action.fromWire tag body
  pure { expirySlot := u64FromLe expirySlot, action }

/-- The wire fragment of a full intent. -/
def fromIntent (intent : AuthorizationIntent) : ExecuteIntentWire where
  expirySlot := intent.expirySlot
  action := intent.action

end ExecuteIntentWire

/-- The fields of an intent that come from trusted context, never from the wire. -/
structure IntentContext where
  chainDomain : ByteVec 32
  programId : Pubkey
  account : Pubkey
  nonce : UInt64
deriving DecidableEq

/-- Rebuild the full intent from context and wire. -/
def reconstructIntent (ctx : IntentContext) (wire : ExecuteIntentWire) : AuthorizationIntent where
  version := intentVersion
  chainDomain := ctx.chainDomain
  programId := ctx.programId
  account := ctx.account
  nonce := ctx.nonce
  expirySlot := wire.expirySlot
  action := wire.action

/-! ### The body of an action

The preimage and the wire write the same 40 bytes for an action, at their own offsets. -/

/-- The body of an action. Bytes it does not use are zero. -/
def Action.body (a : Action) : ByteVec actionBodyLen :=
  let out := ByteVec.zero actionBodyLen
  match a with
  | .transferSol recipient lamports =>
    (out.putVec 0 recipient (by decide)).putVec 32 (u64ToLe lamports) (by decide)
  | .rotateEd25519Key newPubkey => out.putVec 0 newPubkey (by decide)
  | .rotateFalconKey newPubkeyHash => out.putVec 0 newPubkeyHash (by decide)
  | .transferSpl destination amount =>
    (out.putVec 0 destination (by decide)).putVec 32 (u64ToLe amount) (by decide)
  | .changePolicy newPolicy threshold =>
    (out.putByte 0 newPolicy (by decide)).putVec 8 (u64ToLe threshold) (by decide)
  | .recoverAccount op newEd25519 =>
    (out.putByte 0 op.asU8 (by decide)).putVec 8 newEd25519 (by decide)
  | .setRecoveryConfig guardianEd25519 delaySlots =>
    (out.putVec 0 guardianEd25519 (by decide)).putVec 32 (u64ToLe delaySlots) (by decide)
  | .cancelSocialRecovery => out

/-- The decoder reads an action back from its tag and body. -/
theorem fromWire_body (a : Action) : Action.fromWire a.tag a.body.toList = .ok a := by
  have hlen := a.body.toList_length
  have hvec (n off : ℕ) : readVec n a.body.toList off = getVec n a.body off := rfl
  have hbyte (i : ℕ) : byteAt a.body.toList i = getByte a.body i := rfl
  have hzero : Action.cancelSocialRecovery.body.toList.any (· ≠ 0) = false := by decide
  -- after the length test, each tag reads its own ranges of the body
  simp only [Action.fromWire, Res.bind_eq_ok, Res.failIf_eq_ok, not_not, hlen]
  refine ⟨(), trivial, ?_⟩
  cases a <;>
    simp only [Action.tag, Res.bind_eq_ok, Res.failIf_eq_ok, Res.okOr_eq_ok, Res.pure_eq_ok,
      sliceVec_eq_ok, index_eq_ok, hlen, hvec, hbyte, hzero] <;>
    simp [Action.body, getVec_putVec_of_disjoint, getByte_putVec_of_disjoint]

/-- The preimage ends with the body of the action. -/
theorem getVec_body_canonicalPreimage (i : AuthorizationIntent) :
    getVec actionBodyLen (canonicalPreimage i) 132 = i.action.body := by
  unfold canonicalPreimage Action.body
  cases i.action <;>
    simp [getVec_putVec_inside, getVec_putByte_inside, getVec_putVec_of_disjoint,
      getVec_putByte_of_disjoint, getVec_zero]

end DualKey
