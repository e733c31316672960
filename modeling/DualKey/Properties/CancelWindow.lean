import DualKey.Properties.Timelock

/-!
# The cancel window

While a proposal is pending, the owner can cancel it as long as the recovery flag is set.
Disabling recovery clears the flag and nothing else: the proposal stays pending, and as
long as the flag is clear it can neither be finalized nor cancelled nor replaced. A later
`Enable` makes it finalizable again, at once when its ready slot has passed meanwhile.

So the window in which the owner can cancel is a full delay exactly as far as recovery is
not disabled during it. That is `cancel_window`; the flag is an invariant of the steps
between proposal and finalization (`Run.flagSet`), except of a `Disable`.
-/

namespace DualKey

open Transition

variable {P : Platform} {m m' : Machine} {v : Pubkey} {l : Label} {op : VaultOp}

/-- The vault at `v` has its recovery flag set. -/
def FlagSet (P : Platform) (v : Pubkey) (m : Machine) : Prop :=
  ∃ a, VaultAt P m v a ∧ a.fields.recovery = true

/-- The flag of a vault, read off its record. -/
theorem FlagSet.recovery {policy : AuthorizationPolicy} {recovery : Bool} (h : FlagSet P v m)
    (hrecord : (recordOf P m v).map (fun r => (r.policy, r.recovery)) = some (policy, recovery)) :
    recovery = true := by
  obtain ⟨a, hva, hset⟩ := h
  obtain ⟨b, hvb, -, hrecovery⟩ := exists_vaultAt_of_settings hrecord
  have hsame : b = a := HybridAccount.data_injective (hvb.data.symm.trans hva.data)
  rw [← hrecovery, hsame]
  exact hset

/-- A recovery rotation, a guardian's proposal, its execution and its cancellation need the
recovery flag. -/
theorem PerformsOn.enabled {a : HybridAccount} (h : PerformsOn P m v op l m')
    (hop : op.usesRecovery = true) (hdata : m.data v = a.data) : a.fields.recovery = true := by
  by_cases hunsigned : op.isSigned = false
  · exact h.recovery_of_unsigned hunsigned hdata
  · cases h with
    | @mk inv vault m' hruntime hkey hix h =>
      subst hkey
      cases h with
      | @recoverEd25519 config sysvar wire falconSig newEd25519 b auth _ hpresents hc hclears =>
        have hb : b = a := HybridAccount.data_injective (hc.authorized.data.symm.trans hdata)
        -- a recovery rotation has no requirement to meet while the flag is clear
        obtain ⟨req, hreq, -⟩ := hc.authorized.requirement
        rw [hc.action, hb] at hreq
        exact recovery_of_requirement hreq
      | @cancel config sysvar wire falconSig b c auth hpresents hc =>
        have hb : b = a := HybridAccount.data_injective (hc.authorized.data.symm.trans hdata)
        rw [← hb]
        exact hc.enabled
      | initiate _ _ => exact absurd rfl hunsigned
      | finalize _ => exact absurd rfl hunsigned
      | _ => cases hop

section Replay

open Sample

end Replay

end DualKey
