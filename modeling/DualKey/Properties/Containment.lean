import DualKey.System.Replay

/-!
# Containment of a stolen Ed25519 key

Under a policy that bears Falcon, with the recovery flag clear, whoever holds the Ed25519
keys (the owner's and the guardian's) but no Falcon signature of the vault can do one
thing: transfers that the policy leaves to Ed25519. Nothing else about the vault or its
recovery config changes over any run, however long the attack.

The step lemma is `Step.contained`. Every operation but a transfer is privileged, and
`demandsFalcon_of_privileged` closes all of them at once. A transfer changes no field but
the nonce, so the premises of the step lemma survive the step (`Step.settled`).
-/

namespace DualKey

open Transition

/-- The amount a transfer moves. -/
def VaultOp.amount : VaultOp → Option UInt64
  | transferSol _ lamports => some lamports
  | transferSpl _ amount => some amount
  | _ => none

/-- The transfers a policy leaves to Ed25519: none under `falconOnly` and `hybridAnd`, and
under `falconAboveThreshold` those up to the threshold, an unset one counting as zero. -/
def VaultOp.LeftToEd25519 (op : VaultOp) (policy : AuthorizationPolicy)
    (threshold : Option UInt64) : Prop :=
  ∃ amount, op.amount = some amount ∧ policy ≠ .falconOnly ∧ policy ≠ .hybridAnd ∧
    (policy = .falconAboveThreshold → amount ≤ threshold.getD 0)

variable {P : Platform} {m m' : Machine} {v : Pubkey} {a : HybridAccount} {l : Label}
  {policy : AuthorizationPolicy}

/-- A transfer whose requirement can be met without Falcon is left to Ed25519. -/
theorem VaultOp.leftToEd25519 {op : VaultOp} {action : Action} {threshold : Option UInt64}
    (hbears : policy.bearsFalcon = true) (hsigns : op.Signs action)
    (htransfer : op.isTransfer = true)
    (hfree : (policy.signatureRequirement action threshold).demandsFalcon = false) :
    op.LeftToEd25519 policy threshold := by
  -- above the threshold Falcon would have been demanded
  have hgate {amount : UInt64}
      (h : (if threshold.getD 0 < amount then SignatureRequirement.falcon
        else .ed25519).demandsFalcon = false) : amount ≤ threshold.getD 0 := by
    split at h
    · exact absurd h.symm Bool.false_ne_true
    · next hle => exact UInt64.not_lt.mp hle
  -- `falconOnly` and `hybridAnd` demand Falcon of every action
  have haction {amount : UInt64} (hamount : op.amount = some amount)
      (h : policy = .falconAboveThreshold → amount ≤ threshold.getD 0) :
      op.LeftToEd25519 policy threshold := by
    refine ⟨amount, hamount, ?_, ?_, h⟩
    · rintro rfl
      exact Bool.false_ne_true hfree.symm
    · rintro rfl
      exact Bool.false_ne_true hfree.symm
  cases op with
  | transferSol recipient lamports =>
    obtain rfl : action = .transferSol recipient lamports := hsigns
    refine haction rfl ?_
    rintro rfl
    exact hgate hfree
  | transferSpl destination amount =>
    obtain rfl : action = .transferSpl destination amount := hsigns
    refine haction rfl ?_
    rintro rfl
    exact hgate hfree
  | _ => cases htransfer

/-- **What a step without a Falcon signature can do**: leave the vault alone, or perform a
transfer that the policy leaves to Ed25519. -/
theorem Step.contained (hwf : WellFormed P m) (hv : VaultAt P m v a)
    (hpolicy : AuthorizationPolicy.fromU8 a.fields.policy = some policy)
    (hbears : policy.bearsFalcon = true) (hclear : a.fields.recovery = false)
    (h : Step P m l m') (hnone : ¬ OffersFalcon P v ⟨m, l, m'⟩) :
    Quiet P m v l m' ∨ ∃ op, PerformsOn P m v op l m' ∧ op.isTransfer = true ∧
      op.LeftToEd25519 policy a.fields.threshold := by
  rcases h.vault_cases hwf hv with hquiet | ⟨op, hop⟩
  · exact Or.inl hquiet
  · right
    have hsigned : op.isSigned = true := hop.isSigned_of_clear hv.data hclear
    obtain ⟨policy', action, req, hpol, hsigns, hreq, hsat⟩ := hop.signed hsigned hv.data
    obtain rfl : policy' = policy := Option.some.inj (hpol.symm.trans hpolicy)
    have hfree : req.demandsFalcon = false := by
      by_contra hdemands
      rw [Bool.not_eq_false] at hdemands
      exact hnone (hsat.falcon hdemands)
    -- whatever is not a transfer is privileged, and would have demanded Falcon
    have htransfer : op.isTransfer = true := by
      by_contra hno
      rw [Bool.not_eq_true] at hno
      have hprivileged : action.isPrivileged = true := by rw [hsigns.isPrivileged, hno]; rfl
      have hdemands := demandsFalcon_of_privileged hbears hprivileged hreq
      rw [hfree] at hdemands
      exact Bool.false_ne_true hdemands
    have hordinary : action.isPrivileged = false := by rw [hsigns.isPrivileged, htransfer]; rfl
    have hrequirement := effectiveRequirement_of_transfer hordinary hreq
    rw [← hrequirement] at hfree
    exact ⟨op, hop, htransfer, VaultOp.leftToEd25519 hbears hsigns htransfer hfree⟩

/-- The vault at `v` is there with the fields `f`, up to the nonce. -/
def Settled (P : Platform) (v : Pubkey) (f : HybridFields) (m : Machine) : Prop :=
  ∃ b, VaultAt P m v b ∧ ∃ nonce, b.fields = { f with nonce := nonce }

theorem VaultOp.onFields_transfer {op : VaultOp} {f : HybridFields}
    (htransfer : op.isTransfer = true) : op.onFields f = { f with nonce := f.nonce + 1 } := by
  cases op <;> first | rfl | cases htransfer

/-- A step without a Falcon signature keeps all fields but the nonce. -/
theorem Step.settled {f : HybridFields} (hwf : WellFormed P m) (hset : Settled P v f m)
    (hpolicy : AuthorizationPolicy.fromU8 f.policy = some policy)
    (hbears : policy.bearsFalcon = true) (hclear : f.recovery = false) (h : Step P m l m')
    (hnone : ¬ OffersFalcon P v ⟨m, l, m'⟩) :
    Settled P v f m' ∧ (Quiet P m v l m' ∨ ∃ op, PerformsOn P m v op l m' ∧
      op.isTransfer = true ∧ op.LeftToEd25519 policy f.threshold) := by
  obtain ⟨b, hb, nonce, hfields⟩ := hset
  -- policy, flag and threshold are not the nonce, so they are those of `f`
  have hpolicy' : AuthorizationPolicy.fromU8 b.fields.policy = some policy := by
    rw [hfields]
    exact hpolicy
  have hclear' : b.fields.recovery = false :=
    (HybridFields.recovery_congr (by rw [hfields])).trans hclear
  have hthreshold : b.fields.threshold = f.threshold :=
    HybridFields.threshold_congr (by rw [hfields]) (by rw [hfields])
  have hcases := h.contained hwf hb hpolicy' hbears hclear' hnone
  rw [hthreshold] at hcases
  refine ⟨?_, hcases⟩
  rcases hcases with hquiet | ⟨op, hop, htransfer, -⟩
  · exact ⟨b, ⟨hquiet.owner, hquiet.data.trans hb.data, hb.version⟩, nonce, hfields⟩
  · obtain ⟨c, c', heffect, hc, hc'⟩ := hop.effect hwf
    obtain rfl := hb.unique hc
    refine ⟨c', hc', nonce + 1, ?_⟩
    rw [heffect.fields, VaultOp.onFields_transfer htransfer, hfields]

/-- A step without a Falcon signature leaves the recovery config as it is. -/
theorem Step.config_settled {f : HybridFields} (hown : OwnRecoveryAddress P v)
    (hwf : WellFormed P m) (hset : Settled P v f m)
    (hpolicy : AuthorizationPolicy.fromU8 f.policy = some policy)
    (hbears : policy.bearsFalcon = true) (hclear : f.recovery = false) (h : Step P m l m')
    (hnone : ¬ OffersFalcon P v ⟨m, l, m'⟩) : recoveryConfigOf P m' v = recoveryConfigOf P m v := by
  rcases h.config_cases hown hwf with hsame | ⟨op, hop⟩
  · exact hsame
  · obtain ⟨-, hcases⟩ := h.settled hwf hset hpolicy hbears hclear hnone
    -- a transfer does not touch the config, and a quiet step performs nothing
    rcases hcases with hquiet | ⟨op', hop', htransfer, -⟩
    · exact absurd hop.call (hquiet.call _)
    · refine hop'.recoveryConfigOf ?_
      cases op' <;> first | rfl | cases htransfer

/-- **Containment.** In every run from a reachable state in which the vault at `v` has a policy
that bears Falcon and a clear recovery flag, if no Falcon signature of the vault is offered,
then in every state of the run all fields of the vault but its nonce are what they were, its
recovery config is too (if its recovery address is no other vault's), and the only calls on
the vault that succeed are transfers that its policy leaves to Ed25519. -/
theorem stolen_ed25519_contained {tr : List (Edge Machine Label)} (hreach : Reachable (chain P) m)
    (hrun : Run (chain P) m tr m') (hv : VaultAt P m v a)
    (hpolicy : AuthorizationPolicy.fromU8 a.fields.policy = some policy)
    (hbears : policy = .falconOnly ∨ policy = .hybridAnd ∨ policy = .falconForPrivileged ∨
      policy = .falconAboveThreshold)
    (hclear : a.fields.recovery = false) (hnone : ∀ e ∈ tr, ¬ OffersFalcon P v e) :
    (∃ b, VaultAt P m' v b ∧ ∃ nonce, b.fields = { a.fields with nonce := nonce }) ∧
    (∀ e ∈ tr, ∃ b, VaultAt P e.post v b ∧ ∃ nonce, b.fields = { a.fields with nonce := nonce }) ∧
    (OwnRecoveryAddress P v →
      ∀ e ∈ tr, recoveryConfigOf P e.post v = recoveryConfigOf P m v) ∧
    ∀ e ∈ tr, ∀ ix, e.label.call = some (ix, v) → ix = .execute ∧
      policy ≠ .falconOnly ∧ policy ≠ .hybridAnd ∧
      ∃ op amount, PerformsOn P e.pre v op e.label e.post ∧ op.amount = some amount ∧
        (policy = .falconAboveThreshold → amount ≤ a.fields.threshold.getD 0) := by
  have hwf : WellFormed P m := Reachable.wellFormed hreach
  have hbears' : policy.bearsFalcon = true := by
    rcases hbears with rfl | rfl | rfl | rfl <;> rfl
  have hinit : WellFormed P m ∧ Settled P v a.fields m := ⟨hwf, a, hv, a.fields.nonce, rfl⟩
  have hkeep : ∀ e ∈ tr, (chain P).step e.pre e.label e.post →
      WellFormed P e.pre ∧ Settled P v a.fields e.pre →
        WellFormed P e.post ∧ Settled P v a.fields e.post := by
    intro e he hstep hpre
    have hsettled := Step.settled hpre.1 hpre.2 hpolicy hbears' hclear hstep (hnone e he)
    exact ⟨Step.wellFormed hstep hpre.1, hsettled.1⟩
  have hmem := hrun.invariant_mem (I := fun s => WellFormed P s ∧ Settled P v a.fields s) hinit
    hkeep
  have hend := hrun.invariant (I := fun s => WellFormed P s ∧ Settled P v a.fields s) hinit hkeep
  refine ⟨hend.2, fun e he => (hmem e he).2.2, ?_, ?_⟩
  · intro hown e he
    -- the config is fixed along with the fields
    have hconfig := hrun.invariant_mem
      (I := fun s => (WellFormed P s ∧ Settled P v a.fields s) ∧
        recoveryConfigOf P s v = recoveryConfigOf P m v) ⟨hinit, rfl⟩ (by
      intro e he hstep hpre
      obtain ⟨⟨hwf', hset⟩, hsame⟩ := hpre
      refine ⟨hkeep e he hstep ⟨hwf', hset⟩, ?_⟩
      exact (Step.config_settled hown hwf' hset hpolicy hbears' hclear hstep (hnone e he)).trans
        hsame)
    exact (hconfig e he).2.2
  · intro e he ix hcall
    have hstep := hrun.step he
    obtain ⟨hwf', hset⟩ := (hmem e he).1
    obtain ⟨-, hcases⟩ := Step.settled hwf' hset hpolicy hbears' hclear hstep (hnone e he)
    rcases hcases with hquiet | ⟨op, hop, htransfer, amount, hamount, honly, hand, hgate⟩
    · exact absurd hcall (hquiet.call ix)
    · -- the call is that of the transfer performed, which is `Execute`
      have hix : ix = op.instruction := by
        have hpair := hcall.symm.trans hop.call
        rw [Option.some.injEq, Prod.mk.injEq] at hpair
        exact hpair.1
      refine ⟨?_, honly, hand, op, amount, hop, hamount, hgate⟩
      rw [hix]
      cases op <;> first | rfl | cases htransfer

open Sample in
/-- Under `falconForPrivileged` an Ed25519 signature spends lamports of the vault, and changes
no field of it but the nonce. -/
theorem stolen_ed25519_contained_replayed :
    ∃ a b, VaultAt platform privilegedCreated privilegedVault a ∧
      VaultAt platform (replayed platform privilegedCreated [spendPrivileged]) privilegedVault b ∧
      ∃ nonce, b.fields = { a.fields with nonce := nonce } := by
  have hsettings : (recordOf platform privilegedCreated privilegedVault).map
      (fun r => (r.policy, r.recovery)) = some (.falconForPrivileged, false) := by
    decide +kernel
  obtain ⟨a, hv, hpolicy, hclear⟩ := exists_vaultAt_of_settings hsettings
  have hruntime : ∀ inv ∈ [spendPrivileged], inv.PrecompilesAccepted platform := by decide +kernel
  have hrun := run_replay privilegedCreated hruntime
  obtain ⟨⟨b, hb, hfields⟩, -⟩ := stolen_ed25519_contained privilegedCreated_reachable hrun hv
    hpolicy (Or.inr (Or.inr (Or.inl rfl))) hclear fun _ _ => not_offersFalcon
  exact ⟨a, b, hv, hb, hfields⟩

end DualKey
