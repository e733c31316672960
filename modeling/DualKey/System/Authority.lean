import DualKey.System.Chain

/-!
# The signatures behind a step

`OffersEd25519` and `OffersFalcon` say that a step is a call on a vault for which one of
the two signature schemes verifies: under the key the vault stores at that moment, over
the digest rebuilt from the vault's nonce and the intent of the payload. They speak of
the transaction alone, not of what the program does with it.

`PerformsOn.signed` is the link to the program. An operation an owner signs was
performed only because the schemes of its effective requirement were offered. What a
policy demands of an action is then a finite question about requirements
(`demandsFalcon_of_privileged`, `eq_both_of_hybridAnd`), and the guardian's operations are
closed by the recovery flag (`PerformsOn.recovery_of_unsigned`).
-/

namespace DualKey

open Transition

variable (P : Platform)

/-! ### Offered signatures -/

/-- The step is a call on the vault at `v` behind a precompile record that is valid for
the stored owner key over the digest of the intent presented. -/
def OffersEd25519 (v : Pubkey) (e : Edge Machine Label) : Prop :=
  ∃ (inv : Invocation) (ix : DualKeyInstruction) (a : HybridAccount) (wire : ExecuteIntentWire)
    (falconSig : List UInt8),
    e.label = .executed inv ∧ inv.call = some (ix, v) ∧ e.pre.data v = a.data ∧
      Presents inv.payload wire falconSig ∧
      Ed25519Presented P inv a.fields.ownerEd25519 (intentDigest P v a.fields.nonce wire).toList

/-- The step is a call on the vault at `v` with a Falcon signature that verifies under the
stored prepared key over the digest of the intent presented. -/
def OffersFalcon (v : Pubkey) (e : Edge Machine Label) : Prop :=
  ∃ (inv : Invocation) (ix : DualKeyInstruction) (a : HybridAccount) (wire : ExecuteIntentWire)
    (falconSig : List UInt8),
    e.label = .executed inv ∧ inv.call = some (ix, v) ∧ e.pre.data v = a.data ∧
      Presents inv.payload wire falconSig ∧
      FalconValid P a.fields.preparedFalconPublicKey (intentDigest P v a.fields.nonce wire).toList
        falconSig

/-! ### What a requirement demands -/

namespace SignatureRequirement

/-- The requirement cannot be met without Falcon. -/
def demandsFalcon : SignatureRequirement → Bool
  | either => false
  | ed25519 => false
  | falcon => true
  | both => true

theorem demandsFalcon_meet {r r' : SignatureRequirement} (h : r.demandsFalcon = true) :
    (r.meet r').demandsFalcon = true := by
  cases r with
  | either => exact absurd h Bool.false_ne_true
  | ed25519 => exact absurd h Bool.false_ne_true
  | falcon => cases r' <;> rfl
  | both => rw [both_meet]; rfl

theorem SatisfiedBy.falcon {r : SignatureRequirement} {e f : Prop} (h : r.SatisfiedBy e f)
    (hdemands : r.demandsFalcon = true) : f := by
  cases r with
  | either => exact absurd hdemands Bool.false_ne_true
  | ed25519 => exact absurd hdemands Bool.false_ne_true
  | falcon => exact h
  | both => exact h.2

/-- A requirement is monotone in the schemes that verify. -/
theorem SatisfiedBy.mono {r : SignatureRequirement} {e e' f f' : Prop} (he : e → e') (hf : f → f')
    (h : r.SatisfiedBy e f) : r.SatisfiedBy e' f' := by
  cases r with
  | either => exact h.imp he hf
  | ed25519 => exact he h
  | falcon => exact hf h
  | both => exact ⟨he h.1, hf h.2⟩

end SignatureRequirement

/-- The policies under which no privileged action goes without Falcon. -/
def AuthorizationPolicy.bearsFalcon : AuthorizationPolicy → Bool
  | ed25519Only => false
  | falconOnly => true
  | hybridAnd => true
  | hybridOr => false
  | falconForPrivileged => true
  | falconAboveThreshold => true

section Requirements

variable {policy : AuthorizationPolicy} {threshold : Option UInt64} {recovery : Bool}
  {action : Action} {req : SignatureRequirement}

/-- Outside recovery rotations and policy changes the policy alone decides. -/
theorem effectiveRequirement_of_transfer (haction : action.isPrivileged = false)
    (h : effectiveRequirement policy threshold recovery action = .ok req) :
    policy.signatureRequirement action threshold = req := by
  cases action with
  | transferSol recipient lamports => exact Except.ok.inj h
  | transferSpl destination amount => exact Except.ok.inj h
  | _ => cases haction

/-- The requirement of a policy change is the meet of the two policies' requirements. -/
theorem effectiveRequirement_changePolicy {newPolicy : UInt8} {newThreshold : UInt64} :
    effectiveRequirement policy threshold recovery (.changePolicy newPolicy newThreshold) =
        .ok req ↔
      ∃ target, AuthorizationPolicy.fromU8 newPolicy = some target ∧
        (policy.signatureRequirement (.changePolicy newPolicy newThreshold) threshold).meet
          (target.signatureRequirement (.changePolicy newPolicy newThreshold)
            (ChangePolicy.resultingThreshold target newThreshold)) = req := by
  simp only [effectiveRequirement, Res.bind_eq_ok, Res.okOr_eq_ok, Res.failIf_eq_ok,
    Res.pure_eq_ok, AuthorizationPolicy.isImplemented_eq_true]
  constructor
  · intro h
    obtain ⟨target, htarget, -, -, hreq⟩ := h
    exact ⟨target, htarget, hreq⟩
  · intro h
    obtain ⟨target, htarget, hreq⟩ := h
    exact ⟨target, htarget, (), by simp, hreq⟩

/-- A recovery rotation is refused while the flag is clear. -/
theorem recovery_of_requirement {key : Pubkey}
    (h : effectiveRequirement policy threshold recovery (.recoverAccount .rotateEd25519 key) =
      .ok req) : recovery = true := by
  rw [effectiveRequirement] at h
  split at h
  · next hset => exact hset
  · cases h

/-- Under a policy that bears Falcon every privileged action demands Falcon. -/
theorem demandsFalcon_of_privileged (hpolicy : policy.bearsFalcon = true)
    (haction : action.isPrivileged = true)
    (h : effectiveRequirement policy threshold recovery action = .ok req) :
    req.demandsFalcon = true := by
  have hcurrent : (policy.signatureRequirement action threshold).demandsFalcon = true := by
    cases action with
    | transferSol recipient lamports => exact absurd haction Bool.false_ne_true
    | transferSpl destination amount => exact absurd haction Bool.false_ne_true
    | _ => cases policy <;> first | rfl | exact absurd hpolicy Bool.false_ne_true
  cases action with
  | transferSol recipient lamports => exact absurd haction Bool.false_ne_true
  | transferSpl destination amount => exact absurd haction Bool.false_ne_true
  | changePolicy newPolicy newThreshold =>
    -- the meet is at least as strict as the current requirement
    obtain ⟨target, -, hreq⟩ := effectiveRequirement_changePolicy.mp h
    rw [← hreq]
    exact SignatureRequirement.demandsFalcon_meet hcurrent
  | recoverAccount op key =>
    cases op with
    | enable => exact Except.ok.inj h ▸ hcurrent
    | disable => exact Except.ok.inj h ▸ hcurrent
    | rotateEd25519 =>
      -- the escape hatch is Falcon alone, whatever the policy
      rw [effectiveRequirement] at h
      split at h
      · exact Except.ok.inj h ▸ rfl
      · cases h
  | _ => exact Except.ok.inj h ▸ hcurrent

/-- Under `hybridAnd` with the recovery flag clear, whatever is allowed needs both. -/
theorem eq_both_of_hybridAnd
    (h : effectiveRequirement .hybridAnd threshold false action = .ok req) : req = .both := by
  cases action with
  | changePolicy newPolicy newThreshold =>
    obtain ⟨target, -, hreq⟩ := effectiveRequirement_changePolicy.mp h
    rw [← hreq]
    exact SignatureRequirement.both_meet _
  | recoverAccount op key =>
    cases op with
    | enable => exact (Except.ok.inj h).symm
    | disable => exact (Except.ok.inj h).symm
    | rotateEd25519 => cases h
  | _ => exact (Except.ok.inj h).symm

end Requirements

/-! ### The signatures behind an operation -/

section Operations

variable {P} {m m' : Machine} {v : Pubkey} {op : VaultOp} {l : Label} {a : HybridAccount}

/-- The operation an owner signs for is privileged unless it is a transfer. -/
theorem VaultOp.Signs.isPrivileged {action : Action} (h : op.Signs action) :
    action.isPrivileged = !op.isTransfer := by
  cases op with
  | changePolicy target threshold =>
    obtain ⟨newPolicy, value, haction, -, -⟩ := h
    rw [haction]
    rfl
  | initiate k ready => exact h.elim
  | finalize k => exact h.elim
  | _ => rw [show action = _ from h]; rfl

/-- **The signatures behind a signed operation.** The schemes offered with the step satisfy
the effective requirement of an action the owner signs for the operation. -/
theorem PerformsOn.signed (h : PerformsOn P m v op l m') (hsigned : op.isSigned = true)
    (hdata : m.data v = a.data) :
    ∃ policy action req, AuthorizationPolicy.fromU8 a.fields.policy = some policy ∧
      op.Signs action ∧
      effectiveRequirement policy a.fields.threshold a.fields.recovery action = .ok req ∧
      req.SatisfiedBy (OffersEd25519 P v ⟨m, l, m'⟩) (OffersFalcon P v ⟨m, l, m'⟩) := by
  have hcall := h.call
  cases h with
  | @mk inv vault m' hruntime hkey hix h =>
    subst hkey
    obtain ⟨wire, falconSig, sysvar, b, auth, hpresents, hsigns, hauth⟩ := h.authorized hsigned
    -- the account that was authorized is the one the step starts with
    have hb : b = a := HybridAccount.data_injective (hauth.data.symm.trans hdata)
    subst hb
    obtain ⟨req, hreq, hsat⟩ := hauth.requirement
    refine ⟨auth.policy, wire.action, req, hauth.policy, hsigns, hreq, hsat.mono ?_ ?_⟩
    · intro hverified
      have hpresented := verifyEd25519Precompile_sound hruntime hverified
      rw [hauth.digest] at hpresented
      exact ⟨inv, _, b, wire, falconSig, rfl, hcall, hdata, hpresents, hpresented⟩
    · intro hvalid
      rw [hauth.digest] at hvalid
      exact ⟨inv, _, b, wire, falconSig, rfl, hcall, hdata, hpresents, hvalid⟩

/-- A guardian's proposal and its execution need the recovery flag. -/
theorem PerformsOn.recovery_of_unsigned (h : PerformsOn P m v op l m')
    (hunsigned : op.isSigned = false) (hdata : m.data v = a.data) : a.fields.recovery = true := by
  cases h with
  | @mk inv vault m' hruntime hkey hix h =>
    subst hkey
    cases h with
    | @initiate config sysvar newEd25519 ready b c hpayload hc =>
      have hb : b = a := HybridAccount.data_injective (hc.vaultData.symm.trans hdata)
      rw [← hb]
      exact hc.enabled
    | @finalize config pending ready next b c hc =>
      have hb : b = a := HybridAccount.data_injective (hc.vaultData.symm.trans hdata)
      rw [← hb]
      exact hc.enabled
    | _ => cases hunsigned

/-- With the recovery flag clear, only operations an owner signs are performed. -/
theorem PerformsOn.isSigned_of_clear (h : PerformsOn P m v op l m') (hdata : m.data v = a.data)
    (hclear : a.fields.recovery = false) : op.isSigned = true := by
  by_contra hunsigned
  rw [Bool.not_eq_true] at hunsigned
  have hset := h.recovery_of_unsigned hunsigned hdata
  rw [hclear] at hset
  exact Bool.false_ne_true hset

end Operations

end DualKey
