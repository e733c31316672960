import DualKey.Properties.NonceAccounting
import DualKey.System.Proposal

/-!
# A guardian's approval

A guardian approves a new owner for one nonce of the vault, without expiry, and the
proposal it makes consumes no nonce. What keeps an approval from being used twice is that
a proposal is refused while another one is pending, together with the fact that whatever
empties the pending slot consumes a nonce (`Step.keeps_pending`): by the time the slot is
free again the approval names an old nonce.

For the same reason an approval is stale as soon as anything else has been authorized on
the vault, or a proposal executed, since its nonce was current.
-/

namespace DualKey

open Transition

variable {P : Platform} {m m' : Machine} {v k k' : Pubkey} {l : Label} {n : UInt64}

/-- The step is a proposal of `k` that succeeded on the guardian's approval of `k` for the vault
at `v` at its nonce `n`. -/
def ApprovedBy (P : Platform) (v k : Pubkey) (n : UInt64) (e : Edge Machine Label) : Prop :=
  ∃ (g : Pubkey) (d ready : UInt64) (inv : Invocation) (a : HybridAccount),
    e.label = .executed inv ∧ PerformsOn P e.pre v (.initiate k ready) e.label e.post ∧
      Proposes P v k g d ready e.pre inv a ∧ a.fields.nonce = n

/-- Every proposal is made on an approval for the current nonce. -/
theorem PerformsOn.approvedBy {ready : UInt64} (h : PerformsOn P m v (.initiate k ready) l m') :
    ∃ n, ApprovedBy P v k n ⟨m, l, m'⟩ := by
  obtain ⟨g, d, inv, a, hlabel, hproposes⟩ := h.proposes
  exact ⟨a.fields.nonce, g, d, ready, inv, a, hlabel, h, hproposes, rfl⟩

/-- The vault before an approved proposal, and the pending slot around it. -/
theorem ApprovedBy.states {e : Edge Machine Label} (hwf : WellFormed P e.pre)
    (h : ApprovedBy P v k n e) :
    IsVault P e.pre v ∧ nonceOf e.pre v = n.toNat ∧ e.label.consumesNonceOf v = false ∧
      (∃ g d, guardianshipOf P e.pre v = some { guardian := g, delay := d, pending := none }) ∧
      ∃ g d p, guardianshipOf P e.post v =
        some { guardian := g, delay := d, pending := some p } := by
  obtain ⟨g, d, ready, inv, a, -, hop, hproposes, rfl⟩ := h
  obtain ⟨b, b', heffect, hvb, -⟩ := hop.effect hwf
  obtain rfl := HybridAccount.data_injective (hproposes.data.symm.trans hvb.data)
  refine ⟨⟨hwf, a, hvb⟩, nonceOf_eq hvb, hop.consumesNonceOf, ⟨g, d, hproposes.idle⟩,
    g, d, (k, ready), ?_⟩
  rw [hop.guardianship, hproposes.idle]
  rfl

/-- A step that consumes no nonce of the vault leaves a pending proposal in place. -/
theorem Step.keeps_pending {g : Pubkey} {d : UInt64} {p : Pubkey × UInt64}
    (hown : OwnRecoveryAddress P v) (hwf : WellFormed P m) (h : Step P m l m')
    (hno : l.consumesNonceOf v = false)
    (hpending : guardianshipOf P m v = some { guardian := g, delay := d, pending := some p }) :
    guardianshipOf P m' v = some { guardian := g, delay := d, pending := some p } := by
  rcases h.config_cases hown hwf with hsame | ⟨op, hop⟩
  · rw [← hpending, guardianshipOf, guardianshipOf, hsame]
  · -- the one operation without a nonce is refused while a proposal is pending
    have hconsumes : op.consumesNonce = false := hop.consumesNonceOf.symm.trans hno
    cases op with
    -- a second proposal is refused while one is pending
    | initiate k ready =>
      obtain ⟨g', d', inv, a, -, hproposes⟩ := hop.proposes
      have hidle := hproposes.idle
      rw [hpending] at hidle
      cases hidle
    | _ => cases hconsumes

/-- A run that consumes no nonce of the vault leaves a pending proposal in place. -/
theorem Run.keeps_pending {tr : List (Edge Machine Label)} {g : Pubkey} {d : UInt64}
    {p : Pubkey × UInt64} (hown : OwnRecoveryAddress P v) (hwf : WellFormed P m)
    (hrun : Run (chain P) m tr m') (hno : ∀ e ∈ tr, e.label.consumesNonceOf v = false)
    (hpending : guardianshipOf P m v = some { guardian := g, delay := d, pending := some p }) :
    guardianshipOf P m' v = some { guardian := g, delay := d, pending := some p } := by
  refine (hrun.invariant (I := fun s => WellFormed P s ∧
    guardianshipOf P s v = some { guardian := g, delay := d, pending := some p })
    ⟨hwf, hpending⟩ ?_).2
  intro e he hstep hpre
  exact ⟨Step.wellFormed hstep hpre.1,
    Step.keeps_pending hown hpre.1 hstep (hno e he) hpre.2⟩

/-- Two proposals of a run are never approved for one nonce. -/
theorem Run.approved_once {tr : List (Edge Machine Label)} (hown : OwnRecoveryAddress P v)
    (hwf : WellFormed P m) (hrun : Run (chain P) m tr m') :
    tr.Pairwise fun e e' => ∀ k k' n, ApprovedBy P v k n e → ¬ ApprovedBy P v k' n e' := by
  refine hrun.pairwise (I := WellFormed P) hwf (fun e _ hstep => Step.wellFormed hstep) ?_
  intro e e' tr₁ hwf₁ hstep hbetween hstep' k k' n happroved happroved'
  obtain ⟨hvault, hnonce, hcount, -, g, d, p, hpending⟩ := happroved.states hwf₁
  have hvault₁ : IsVault P e.post v := Step.isVault hstep hvault
  have hwf₂ : WellFormed P e'.pre := Run.wellFormed hvault₁.1 hbetween
  obtain ⟨-, hnonce', -, ⟨g', d', hidle⟩, -⟩ := happroved'.states hwf₂
  -- the nonce is the same before the second proposal, so nothing has consumed one
  have hpost : nonceOf e.post v = nonceOf e.pre v + _ := Step.nonce hstep hvault
  have hlater : nonceOf e'.pre v = nonceOf e.post v + _ := Run.nonce hbetween hvault₁
  rw [hpost, hnonce, hnonce', hcount, if_neg Bool.false_ne_true, Nat.add_zero] at hlater
  have hnone : (tr₁.countP fun e => e.label.consumesNonceOf v) = 0 := by omega
  have hno : ∀ e ∈ tr₁, e.label.consumesNonceOf v = false := by
    intro e he
    exact Bool.eq_false_iff.mpr (List.countP_eq_zero.mp hnone e he)
  rw [Run.keeps_pending hown hvault₁.1 hbetween hno hpending] at hidle
  cases hidle

/-- **A guardian's approval is used at most once, and not after the owner has acted.** In every
run from a reachable state, for a vault whose recovery address is no other vault's: no two
proposals succeed on approvals for one nonce, whatever keys they name; and once a step has
consumed a nonce of the vault that is at least `n`, be it authorized by the owner or the
execution of a proposal, no later step is a proposal approved for the nonce `n`. -/
theorem approval_once {tr : List (Edge Machine Label)} (hown : OwnRecoveryAddress P v)
    (hreach : Reachable (chain P) m) (hrun : Run (chain P) m tr m') :
    (tr.Pairwise fun e e' => ∀ k k' n, ApprovedBy P v k n e → ¬ ApprovedBy P v k' n e') ∧
    ∀ (before after : List (Edge Machine Label)) (e : Edge Machine Label) (n : UInt64),
      tr = before ++ e :: after → IsVault P e.pre v → n.toNat ≤ nonceOf e.pre v →
      e.label.consumesNonceOf v = true → ∀ e' ∈ after, ∀ k, ¬ ApprovedBy P v k n e' := by
  have hwf : WellFormed P m := Reachable.wellFormed hreach
  refine ⟨Run.approved_once hown hwf hrun, ?_⟩
  intro before after e n htr hvault hle hconsumes e' he' k happroved
  subst htr
  obtain ⟨-, hstep, hafter⟩ := Run.cons_middle_iff.mp hrun
  -- the nonce has passed `n` and does not fall again
  obtain ⟨tr₁, tr₂, -, hbetween, -, -⟩ := hafter.mem he'
  have hvault₁ : IsVault P e.post v := Step.isVault hstep hvault
  have hwf' : WellFormed P e'.pre := Run.wellFormed hvault₁.1 hbetween
  obtain ⟨-, hnonce, -, -, -⟩ := happroved.states hwf'
  have hlt : n.toNat < n.toNat :=
    calc n.toNat
        ≤ nonceOf e.pre v := hle
      _ < nonceOf e.post v := by
          rw [Step.nonce hstep hvault, hconsumes, if_pos rfl]
          exact Nat.lt_succ_self _
      _ ≤ nonceOf e'.pre v := by
          rw [Run.nonce hbetween hvault₁]
          exact Nat.le_add_right _ _
      _ = n.toNat := hnonce
  exact absurd hlt (Nat.lt_irrefl _)

section Replay

open Sample

/-- After the owner has cancelled it, the guardian's approval makes no second proposal. -/
theorem approval_once_replayed :
    (submit platform proposed cancel).label.consumesNonceOf ed25519Vault = true ∧
      ∀ e ∈ replay platform (replayed platform proposed [cancel]) [propose],
        ∀ k, ¬ ApprovedBy platform ed25519Vault k 2 e := by
  have hruntime : ∀ inv ∈ [cancel, propose], inv.PrecompilesAccepted platform := by
    decide +kernel
  have hreach : Reachable (chain platform) proposed :=
    reachable_replayed genesis_init (by decide +kernel)
  have hrun := run_replay proposed hruntime
  have hconsumes : (submit platform proposed cancel).label.consumesNonceOf ed25519Vault = true := by
    decide +kernel
  have hrecord : (recordOf platform proposed ed25519Vault).map VaultRecord.nonce = some 2 := by
    decide +kernel
  refine ⟨hconsumes, ?_⟩
  have htr : replay platform proposed [cancel, propose] = submit platform proposed cancel ::
      replay platform (replayed platform proposed [cancel]) [propose] := rfl
  have hpre : (submit platform proposed cancel).pre = proposed := submit_pre
  rw [htr] at hrun
  -- the machines are large terms, which the rest of the proof need not look into
  generalize replay platform (replayed platform proposed [cancel]) [propose] = later at hrun ⊢
  generalize submit platform proposed cancel = e at hrun hconsumes hpre
  generalize replayed platform proposed [cancel, propose] = last at hrun
  rw [← hpre] at hreach hrun hrecord
  obtain ⟨r, hr, hnonce⟩ := Option.map_eq_some_iff.mp hrecord
  obtain ⟨a, policy, hva, -, rfl⟩ := exists_vaultAt_of_recordOf hr
  have hle : (2 : UInt64).toNat ≤ nonceOf e.pre ed25519Vault := by
    rw [nonceOf_eq hva]
    exact le_of_eq hnonce.symm
  exact (approval_once own_recovery_address hreach hrun).2 [] later e 2 rfl
    ⟨Reachable.wellFormed hreach, a, hva⟩ hle hconsumes

end Replay

end DualKey
