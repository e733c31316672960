import DualKey.Properties.VaultRepresentation
import DualKey.Properties.Veto
import DualKey.System.Proposal

/-!
# The representation of a recovery config

Guardian, delay and proposal of a vault are in its recovery config, which six instructions
write. `RewritesConfig` says what an operation can do to that record, and `RecoveryFields.Sound`
what every record satisfies. Its last clause ties two accounts together: a proposed key is not
the key that owns the vault. It survives an owner change only because every operation that
changes the owner clears the proposal as well, whether or not it was made for that key.

The address has no other content (`Provenance.recovery_address`), so the bytes of every reachable
recovery config are those of a sound record.
-/

namespace DualKey

open Transition Buffer

/-- The record of a recovery config with the canonical `bump` whose vault is owned by `owner`. -/
structure RecoveryFields.Sound (bump : UInt8) (owner : Pubkey) (f : RecoveryFields) : Prop where
  bump : f.bump = bump
  flags : f.flags = 0
  reserved0 : f.reserved0 = 0
  reserved1 : f.reserved1 = ByteVec.zero 44
  guardian : f.guardianEd25519 ≠ ByteVec.zero 32
  delay : 1 ≤ f.delaySlots
  idle : f.pendingNewEd25519 = ByteVec.zero 32 → f.pendingReadySlot = 0
  /-- The proposal waits out the delay. -/
  due : f.pendingNewEd25519 ≠ ByteVec.zero 32 → f.delaySlots ≤ f.pendingReadySlot
  /-- The proposal is for another key. -/
  change : f.pendingNewEd25519 ≠ ByteVec.zero 32 → f.pendingNewEd25519 ≠ owner

/-- How an operation turns the record of a recovery config into another, with the key that owns
the vault before it. -/
inductive RewritesConfig (bump : UInt8) (owner : Pubkey) :
    VaultOp → Option RecoveryFields → RecoveryFields → Prop where
  | kept {op : VaultOp} {f : RecoveryFields} (h : op.touchesConfig = false) :
    RewritesConfig bump owner op (some f) f
  | cleared {op : VaultOp} {f : RecoveryFields} :
    RewritesConfig bump owner op (some f)
      { f with pendingNewEd25519 := ByteVec.zero 32, pendingReadySlot := 0 }
  | created {guardian : Pubkey} {delay : UInt64} (hguardian : guardian ≠ ByteVec.zero 32)
    (hdelay : 1 ≤ delay) :
    RewritesConfig bump owner (.setConfig guardian delay) none
      (RecoveryConfig.freshFields bump guardian delay)
  | updated {guardian : Pubkey} {delay : UInt64} {f : RecoveryFields}
    (hguardian : guardian ≠ ByteVec.zero 32) (hdelay : 1 ≤ delay) (hidle : f.pending = none) :
    RewritesConfig bump owner (.setConfig guardian delay) (some f)
      { f with guardianEd25519 := guardian, delaySlots := delay }
  | proposed {k : Pubkey} {ready : UInt64} {f : RecoveryFields} (hnonzero : k ≠ ByteVec.zero 32)
    (hchange : k ≠ owner) (hready : f.delaySlots ≤ ready) :
    RewritesConfig bump owner (.initiate k ready) (some f)
      { f with pendingNewEd25519 := k, pendingReadySlot := ready }

variable {P : Platform} {inv : Invocation} {m m' : Machine} {v k owner : Pubkey} {bump : UInt8}
  {vault : AccountInfo} {op : VaultOp} {l : Label} {a : HybridAccount} {c c' : RecoveryConfig}

/-! ### One operation -/

theorem recoveryConfigOf_of_data (haddress : SocialRecovery.IsRecoveryAddress P v k bump)
    (howner : m.owner k = P.programId) (hdata : m.data k = c.data) :
    recoveryConfigOf P m v = some c :=
  recoveryConfigOf_eq_some.mpr ⟨k, bump, haddress, howner, hdata⟩

/-- The recovery config of a vault, read where it is. -/
theorem eq_of_recoveryConfigOf (c' : RecoveryConfig)
    (haddress : SocialRecovery.IsRecoveryAddress P v k bump)
    (hc : recoveryConfigOf P m v = some c) (hdata : m.data k = c'.data) : c = c' := by
  obtain ⟨k', bump', haddress', -, hdata'⟩ := recoveryConfigOf_eq_some.mp hc
  obtain rfl := haddress'.unique haddress
  exact RecoveryConfig.data_injective (hdata'.symm.trans hdata)

/-- A record that is cleared where it is. -/
theorem RewritesConfig.of_cleared (haddress : ∃ bump', SocialRecovery.IsRecoveryAddress P v k bump')
    (howner : m.owner k = P.programId) (hdata : m.data k = c.data)
    (hc' : recoveryConfigOf P m' v = some c') (hdata' : m'.data k = c.clearPending.data) :
    RewritesConfig bump owner op ((recoveryConfigOf P m v).map fun c => c.fields) c'.fields := by
  obtain ⟨bump', haddress⟩ := haddress
  rw [recoveryConfigOf_of_data haddress howner hdata,
    eq_of_recoveryConfigOf c.clearPending haddress hc' hdata', c.fields_clearPending]
  exact .cleared

/-- An owner change clears the record. -/
theorem SocialRecovery.ClearsPending.rewrites {config : AccountInfo} {d : HybridAccount}
    (hclears : ClearsPending P (m.setData v d.data) config m')
    (haddress : ∃ bump, IsRecoveryAddress P v config.key bump)
    (hc' : recoveryConfigOf P m' v = some c') :
    RewritesConfig bump owner op ((recoveryConfigOf P m v).map fun c => c.fields) c'.fields := by
  have hne : config.key ≠ v := hclears.ne_vault
  cases hclears with
  | absent hnil =>
    -- an empty account is no recovery config
    obtain ⟨bump', haddress⟩ := haddress
    obtain ⟨k, bump'', haddress', -, hdata⟩ := recoveryConfigOf_eq_some.mp hc'
    obtain rfl := haddress'.unique haddress
    exact absurd (hdata.symm.trans hnil) c'.data_ne_nil
  | cleared howner _ hdata =>
    rw [Machine.owner_setData] at howner
    rw [Machine.data_setData, if_neg hne] at hdata
    exact .of_cleared haddress howner hdata hc' (by simp)

/-- **What an operation does to the recovery config of its vault.** -/
theorem RewritesConfig.of_performs (h : Performs P inv m vault op m')
    (haddress : SocialRecovery.IsRecoveryAddress P vault.key k bump)
    (ha : m.data vault.key = a.data) (hc' : recoveryConfigOf P m' vault.key = some c') :
    RewritesConfig bump a.fields.ownerEd25519 op
      ((recoveryConfigOf P m vault.key).map fun c => c.fields) c'.fields := by
  -- five of the eleven operations do not touch the config
  have huntouched (hno : op.touchesConfig = false) :
      RewritesConfig bump a.fields.ownerEd25519 op
        ((recoveryConfigOf P m vault.key).map fun c => c.fields) c'.fields := by
    rw [← h.recoveryConfigOf hno, hc']
    exact .kept hno
  cases h with
  | transferSol _ _ _ => exact huntouched rfl
  | transferSpl _ _ _ => exact huntouched rfl
  | rotateFalcon _ _ _ => exact huntouched rfl
  | changePolicy _ _ => exact huntouched rfl
  | setRecovery _ _ => exact huntouched rfl
  | rotateEd25519 _ hc hclears => exact hclears.rewrites hc.address hc'
  | recoverEd25519 _ hc hclears => exact hclears.rewrites hc.address hc'
  | @setConfig config _ _ _ _ guardian delay bump' b auth m₁ _ hc hstores =>
    obtain ⟨hne, -, -⟩ := hstores.vault_frame hc.authorized.data
    obtain ⟨-, rfl⟩ := Prod.mk.inj (Option.some.inj (hc.address.symm.trans haddress))
    cases hstores with
    | @created _ c hnil hsystem _ _ _ _ hinit =>
      -- nothing was there before
      have hnone : recoveryConfigOf P m vault.key = none := by
        rw [recoveryConfigOf_of_address hc.address]
        exact configAt_eq_none fun howner =>
          absurd (howner.symm.trans hsystem) P.programId_ne_system
      rw [hnone, eq_of_recoveryConfigOf c hc.address hc' (by simp [hne.symm]),
        RecoveryConfig.fields_initializeConfig hinit]
      exact .created hc.guardian hc.delay
    | @updated c howner hdata hidle =>
      rw [recoveryConfigOf_of_data hc.address howner hdata,
        eq_of_recoveryConfigOf ((c.setGuardianEd25519 guardian).setDelaySlots delay)
          hc.address hc' (by simp [hne.symm]),
        RecoveryConfig.fields_setDelaySlots, RecoveryConfig.fields_setGuardianEd25519]
      exact .updated hc.guardian hc.delay hidle
  | @initiate config _ newEd25519 ready b c _ hc =>
    obtain ⟨bump', haddress'⟩ := hc.address
    obtain rfl := HybridAccount.data_injective (ha.symm.trans hc.vaultData)
    have hready : c.fields.delaySlots ≤ ready := by
      rw [UInt64.le_iff_toNat_le, ← hc.ready]
      exact Nat.le_add_left _ _
    rw [recoveryConfigOf_of_data haddress' hc.configOwner hc.configData,
      eq_of_recoveryConfigOf ((c.setPendingNewEd25519 newEd25519).setPendingReadySlot ready)
        haddress' hc' (by simp),
      RecoveryConfig.fields_setPendingReadySlot, RecoveryConfig.fields_setPendingNewEd25519]
    exact .proposed hc.nonzero hc.change hready
  | finalize hc =>
    have hne := SocialRecovery.vault_ne_config hc.vaultData hc.configData
    exact .of_cleared hc.address hc.configOwner hc.configData hc' (by simp [hne.symm])
  | cancel _ hc =>
    have hne := SocialRecovery.vault_ne_config hc.authorized.data hc.configData
    exact .of_cleared hc.address hc.configOwner hc.configData hc' (by simp [hne.symm])

/-! ### The invariant -/

/-- A sound record becomes a sound record, whoever owns the vault afterwards. -/
theorem RewritesConfig.sound {f : Option RecoveryFields} {f' : RecoveryFields}
    {g : HybridFields} (h : RewritesConfig bump g.ownerEd25519 op f f')
    (hf : ∀ r, f = some r → r.Sound bump g.ownerEd25519) :
    f'.Sound bump (op.onFields g).ownerEd25519 := by
  cases h with
  | kept hno =>
    -- what leaves the config alone leaves the owner alone
    rw [VaultOp.onFields_ownerEd25519 (VaultOp.changesOwner_of_not_touches hno)]
    exact hf _ rfl
  | cleared =>
    have hs := hf _ rfl
    exact { hs with
      idle := fun _ => rfl, due := fun hne => absurd rfl hne, change := fun hne => absurd rfl hne }
  | created hguardian hdelay =>
    exact
      { bump := rfl, flags := rfl, reserved0 := rfl, reserved1 := rfl, guardian := hguardian
        delay := hdelay, idle := fun _ => rfl, due := fun hne => absurd rfl hne
        change := fun hne => absurd rfl hne }
  | updated hguardian hdelay hidle =>
    -- the delay changes only while nothing waits for it
    have hzero := RecoveryFields.pending_eq_none.mp hidle
    exact { hf _ rfl with
      guardian := hguardian, delay := hdelay, due := fun hne => absurd hzero hne
      change := fun hne => absurd hzero hne }
  | proposed hnonzero hchange hready =>
    exact { hf _ rfl with
      idle := fun hzero => absurd hzero hnonzero
      due := fun _ => hready
      change := fun _ => hchange }

/-- The recovery config of the vault at `v`, if there is one, is sound. -/
def ConfigSound (P : Platform) (v : Pubkey) (bump : UInt8) (m : Machine) : Prop :=
  ∀ c, recoveryConfigOf P m v = some c →
    ∃ a, VaultAt P m v a ∧ c.fields.Sound bump a.fields.ownerEd25519

theorem PerformsOn.configSound (h : PerformsOn P m v op l m') (hwf : WellFormed P m)
    (haddress : SocialRecovery.IsRecoveryAddress P v k bump) (hs : ConfigSound P v bump m) :
    ConfigSound P v bump m' := by
  obtain ⟨a, a', heffect, hva, hva'⟩ := h.effect hwf
  intro c' hc'
  refine ⟨a', hva', ?_⟩
  cases h with
  | mk _ hkey _ h =>
    subst hkey
    have hrewrites := RewritesConfig.of_performs h haddress heffect.data hc'
    rw [heffect.fields]
    refine hrewrites.sound fun f hf => ?_
    obtain ⟨c, hc, rfl⟩ := Option.map_eq_some_iff.mp hf
    obtain ⟨b, hvb, hsound⟩ := hs c hc
    obtain rfl := hva.unique hvb
    exact hsound

theorem Step.configSound (hown : OwnRecoveryAddress P v) (hwf : WellFormed P m)
    (haddress : SocialRecovery.IsRecoveryAddress P v k bump) (h : Step P m l m')
    (hs : ConfigSound P v bump m) : ConfigSound P v bump m' := by
  by_cases hop : ∃ op, PerformsOn P m v op l m'
  · obtain ⟨op, hop⟩ := hop
    exact hop.configSound hwf haddress hs
  · -- no operation on the vault: config and vault are the same
    have hsame := (h.config_cases hown hwf).resolve_right hop
    intro c hc
    rw [hsame] at hc
    obtain ⟨a, hva, hsound⟩ := hs c hc
    have hquiet := (h.vault_cases hwf hva).resolve_right hop
    exact ⟨a, ⟨hquiet.owner, hquiet.data.trans hva.data, hva.version⟩, hsound⟩

theorem Reachable.configSound (hreach : Reachable (chain P) m) (hown : OwnRecoveryAddress P v)
    (haddress : SocialRecovery.IsRecoveryAddress P v k bump) : ConfigSound P v bump m := by
  have hboth : WellFormed P m ∧ ConfigSound P v bump m := by
    refine hreach.invariant (I := fun m => WellFormed P m ∧ ConfigSound P v bump m) ?_ ?_
    · -- before the deployment there are no configs
      intro s hinit
      refine ⟨fun k hk => absurd hk (hinit.notOurs k), fun c hc => ?_⟩
      obtain ⟨k, -, -, howner, -⟩ := recoveryConfigOf_eq_some.mp hc
      exact absurd howner (hinit.notOurs k)
    · intro s l s' hstep hs
      exact ⟨Step.wellFormed hstep hs.1, Step.configSound hown hs.1 haddress hstep hs.2⟩
  exact hboth.2

/-! ### The bytes of a recovery config -/

/-- The data of a recovery config whose canonical bump is `bump` and whose vault is owned by
`owner`. -/
structure ConfigBytes (bump : UInt8) (owner : Pubkey) (data : List UInt8) : Prop where
  length : data.length = 128
  version : byteAt data 0 = 1
  bump : byteAt data 1 = bump
  guardian : readVec 32 data 4 ≠ ByteVec.zero 32
  delay : 1 ≤ u64FromLe (readVec 8 data 36)
  flags : byteAt data 2 = 0
  reserved0 : byteAt data 3 = 0
  reserved1 : ∀ j < 44, byteAt data (84 + j) = 0
  pending : readVec 32 data 44 = ByteVec.zero 32 ↔ u64FromLe (readVec 8 data 76) = 0
  proposal : readVec 32 data 44 ≠ ByteVec.zero 32 →
    readVec 32 data 44 ≠ owner ∧ u64FromLe (readVec 8 data 36) ≤ u64FromLe (readVec 8 data 76)

theorem RecoveryFields.Sound.bytes (h : c.fields.Sound bump owner) :
    ConfigBytes bump owner c.data where
  length := c.length_eq
  version := c.version_eq
  bump := h.bump
  guardian := h.guardian
  delay := h.delay
  flags := h.flags
  reserved0 := h.reserved0
  reserved1 j hj := ByteVec.byteAt_of_readVec_zero h.reserved1 hj
  pending := by
    refine ⟨h.idle, fun hready => ?_⟩
    -- a proposal that waits out a delay is due at some later slot than the first
    by_contra hne
    have hle := UInt64.le_iff_toNat_le.mp (UInt64.le_trans h.delay (h.due hne))
    have hzero : c.fields.pendingReadySlot = 0 := hready
    rw [hzero] at hle
    exact absurd hle (by decide)
  proposal hne := ⟨h.change hne, h.due hne⟩

/-- **The representation of a recovery config.** In a reachable state the account at the recovery
address of a vault is empty, or a recovery config with the canonical bump, a guardian and a delay,
whose unused bytes are zero, and whose proposal, if one is pending, is for another key than the
owner's and waits out the delay. -/
theorem config_representation (hreach : Reachable (chain P) m) (hown : OwnRecoveryAddress P v)
    (hdisjoint : DisjointRanges P) (hva : VaultAt P m v a)
    (haddress : SocialRecovery.IsRecoveryAddress P v k bump) :
    m.data k = [] ∨
      (m.owner k = P.programId ∧ ConfigBytes bump a.fields.ownerEd25519 (m.data k)) := by
  have hprov := Reachable.provenance hreach
  rcases hprov.recovery_address hdisjoint haddress with ⟨-, hnil⟩ | ⟨howner, c, hdata⟩
  · exact Or.inl hnil
  · right
    obtain ⟨b, hvb, hsound⟩ := Reachable.configSound hreach hown haddress c
      (recoveryConfigOf_of_data haddress howner hdata)
    obtain rfl := hva.unique hvb
    rw [hdata]
    exact ⟨howner, hsound.bytes⟩

/-- The first recovery config of the sample deployment, with the successor proposed. -/
theorem config_representation_proposed :
    ∃ owner, ConfigBytes 255 owner (Sample.proposed.data Sample.recoveryConfig) := by
  have hruntime : ∀ inv ∈ [Sample.createEd25519Vault, Sample.setConfig, Sample.enable,
      Sample.propose], inv.PrecompilesAccepted Sample.platform := by
    decide +kernel
  have hreach : Reachable (chain Sample.platform) Sample.proposed :=
    reachable_replayed Sample.genesis_init hruntime
  have haddress : SocialRecovery.IsRecoveryAddress Sample.platform Sample.ed25519Vault
      Sample.recoveryConfig 255 := by
    unfold SocialRecovery.IsRecoveryAddress
    decide +kernel
  have hrecord : (recordOf Sample.platform Sample.proposed Sample.ed25519Vault).isSome = true := by
    decide +kernel
  have hdata : Sample.proposed.data Sample.recoveryConfig ≠ [] := by
    decide +kernel
  obtain ⟨r, hr⟩ := Option.isSome_iff_exists.mp hrecord
  obtain ⟨a, policy, hva, -, -⟩ := exists_vaultAt_of_recordOf hr
  rcases config_representation hreach Sample.own_recovery_address disjoint_ranges hva haddress with
    hnil | ⟨-, hbytes⟩
  · exact absurd hnil hdata
  · exact ⟨a.fields.ownerEd25519, hbytes⟩

end DualKey
