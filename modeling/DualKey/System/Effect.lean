import DualKey.System.Operation

/-!
# The effect of an operation

For each operation: the fields of the vault and the guardianship afterwards, the
accounts it leaves alone, the invocations it made, and the authorization behind it.

The guardianship of a vault is what its recovery config says: guardian, delay and
pending proposal. `recoveryConfigOf` reads the config from the account at the vault's
recovery address, and is `none` unless the program owns a config there.
-/

namespace DualKey

variable (P : Platform)

/-! ### Guardianship -/

/-- Guardian, delay and pending proposal of a vault. -/
structure Guardianship where
  guardian : Pubkey
  delay : UInt64
  pending : Option (Pubkey × UInt64)
deriving DecidableEq

/-- The guardianship a recovery config records. -/
def RecoveryFields.guardianship (f : RecoveryFields) : Guardianship where
  guardian := f.guardianEd25519
  delay := f.delaySlots
  pending := f.pending

/-- The recovery config in account data. -/
def configIn (data : List UInt8) : Option RecoveryConfig :=
  match RecoveryConfig.tryFromBytes data with
  | .ok c => some c
  | .error _ => none

/-- The recovery config at an address, when the program owns the account. -/
def configAt (m : Machine) (k : Pubkey) : Option RecoveryConfig :=
  if m.owner k = P.programId then configIn (m.data k) else none

/-- The recovery config of a vault: the one of the program at its recovery address. -/
def recoveryConfigOf (m : Machine) (vault : Pubkey) : Option RecoveryConfig :=
  match P.tryFindProgramAddress (recoveryPdaSeeds vault) P.programId with
  | some (k, _) => configAt P m k
  | none => none

/-- The guardianship of a vault: what its recovery config records. -/
def guardianshipOf (m : Machine) (vault : Pubkey) : Option Guardianship :=
  (recoveryConfigOf P m vault).map fun c => c.fields.guardianship

namespace VaultOp

/-- The vault's fields after an operation. -/
def onFields (op : VaultOp) (f : HybridFields) : HybridFields :=
  match op with
  | transferSol .. | transferSpl .. | setConfig .. | cancel => { f with nonce := f.nonce + 1 }
  | rotateEd25519 k | recoverEd25519 k | finalize k =>
    { f with ownerEd25519 := k, nonce := f.nonce + 1 }
  | rotateFalcon hash prepared =>
    { f with
      falconPublicKeyHash := hash
      nonce := f.nonce + 1
      preparedFalconPublicKey := prepared }
  | changePolicy target threshold =>
    { f with
      policy := target.asU8
      flags := f.flagsWithThreshold threshold
      nonce := f.nonce + 1
      falconRequiredAbove := threshold.getD 0 }
  | setRecovery enabled =>
    { f with
      flags := if enabled then f.flags ||| flagRecoveryEnabled
        else f.flags &&& ~~~flagRecoveryEnabled
      nonce := f.nonce + 1 }
  | initiate .. => f

/-- The guardianship after an operation. -/
def onGuardianship (op : VaultOp) (g : Option Guardianship) : Option Guardianship :=
  match op with
  | setConfig guardian delay =>
    some { guardian, delay, pending := none }
  | initiate k ready => g.map fun g => { g with pending := some (k, ready) }
  | rotateEd25519 _ | recoverEd25519 _ | finalize _ | cancel =>
    g.map fun g => { g with pending := none }
  | _ => g

/-- The owner signs `action` for the operation. -/
def Signs : VaultOp → Action → Prop
  | transferSol recipient lamports, action => action = .transferSol recipient lamports
  | transferSpl destination amount, action => action = .transferSpl destination amount
  | rotateEd25519 newPubkey, action => action = .rotateEd25519Key newPubkey
  | rotateFalcon newPubkeyHash _, action => action = .rotateFalconKey newPubkeyHash
  | changePolicy target threshold, action =>
    ∃ newPolicy value, action = .changePolicy newPolicy value ∧
      AuthorizationPolicy.fromU8 newPolicy = some target ∧
      ChangePolicy.resultingThreshold target value = threshold
  | setRecovery enabled, action =>
    action = .recoverAccount (if enabled then .enable else .disable) (ByteVec.zero 32)
  | recoverEd25519 newEd25519, action => action = .recoverAccount .rotateEd25519 newEd25519
  | setConfig guardian delay, action => action = .setRecoveryConfig guardian delay
  | cancel, action => action = .cancelSocialRecovery
  | initiate .., _ => False
  | finalize _, _ => False

/-- An action that a transfer signs is signed by no other operation. -/
theorem Signs.eq_of_transfer {op op' : VaultOp} {action : Action} (h : op.Signs action)
    (htransfer : op'.isTransfer = true) (h' : op'.Signs action) : op = op' := by
  cases op' with
  | transferSol _ _ | transferSpl _ _ =>
    cases h'
    cases op with
    | changePolicy _ _ =>
      obtain ⟨_, _, hcontra, -⟩ := h
      cases hcontra
    | initiate _ _ | finalize _ => exact h.elim
    | _ => cases h <;> rfl
  | _ => cases htransfer

/-- The operations an owner signs. -/
def isSigned : VaultOp → Bool
  | initiate .. => false
  | finalize _ => false
  | _ => true

theorem onFields_nonce (op : VaultOp) (f : HybridFields) :
    (op.onFields f).nonce = if op.consumesNonce then f.nonce + 1 else f.nonce := by
  cases op <;> rfl

/-- Only the operations that replace the owner change it. -/
theorem onFields_ownerEd25519 {op : VaultOp} {f : HybridFields} (h : op.changesOwner = false) :
    (op.onFields f).ownerEd25519 = f.ownerEd25519 := by
  cases op with
  | rotateEd25519 k => cases h
  | recoverEd25519 k => cases h
  | finalize k => cases h
  | _ => rfl

/-- Only enabling and disabling recovery changes the recovery flag. -/
theorem onFields_recovery {op : VaultOp} {f : HybridFields} (h : ∀ b, op ≠ .setRecovery b) :
    (op.onFields f).recovery = f.recovery := by
  cases op with
  | setRecovery b => exact absurd rfl (h b)
  | changePolicy target threshold =>
    have hthreshold := HybridFields.recovery_setThreshold f threshold (threshold.getD 0)
    rw [← hthreshold]
    exact HybridFields.recovery_congr rfl
  | _ => exact HybridFields.recovery_congr rfl

/-- Only a policy change changes policy and threshold. -/
theorem onFields_policy {op : VaultOp} {f : HybridFields} (h : ∀ p t, op ≠ .changePolicy p t) :
    (op.onFields f).policy = f.policy ∧ (op.onFields f).threshold = f.threshold := by
  cases op with
  | changePolicy p t => exact absurd rfl (h p t)
  | setRecovery b =>
    have hthreshold := HybridFields.threshold_setRecovery f b
    refine ⟨rfl, ?_⟩
    rw [← hthreshold]
    exact HybridFields.threshold_congr rfl rfl
  | _ => exact ⟨rfl, HybridFields.threshold_congr rfl rfl⟩

theorem onFields_setRecovery {b : Bool} {f : HybridFields} :
    ((setRecovery b).onFields f).recovery = b := by
  have hflag := HybridFields.recovery_setRecovery f b
  rw [← hflag]
  exact HybridFields.recovery_congr (by rw [hflag]; rfl)

/-- The guardianship after an operation that does not write the config. -/
theorem onGuardianship_of_not_touches {op : VaultOp} {g : Option Guardianship}
    (h : op.touchesConfig = false) : op.onGuardianship g = g := by
  cases op <;> first | rfl | cases h

/-- A pending proposal was there before an operation, or the operation is the proposal. -/
theorem onGuardianship_pending {op : VaultOp} {g : Option Guardianship} {guardian k : Pubkey}
    {delay ready : UInt64}
    (h : op.onGuardianship g = some { guardian, delay, pending := some (k, ready) }) :
    op.touchesConfig = false ∨ op = .initiate k ready ∧
      ∃ pending, g = some { guardian, delay, pending } := by
  -- an operation that clears the proposal leaves none behind
  have hmap {f : Guardianship → Guardianship} (hf : ∀ g, (f g).pending = none)
      (h : g.map f = some { guardian, delay, pending := some (k, ready) }) : False := by
    obtain ⟨g₀, -, hg⟩ := Option.map_eq_some_iff.mp h
    have hpending := hf g₀
    rw [hg] at hpending
    cases hpending
  cases op with
  | rotateEd25519 _ => exact (hmap (fun _ => rfl) h).elim
  | recoverEd25519 _ => exact (hmap (fun _ => rfl) h).elim
  | finalize _ => exact (hmap (fun _ => rfl) h).elim
  | cancel => exact (hmap (fun _ => rfl) h).elim
  | setConfig g' d' => cases h
  | initiate k' ready' =>
    obtain ⟨g₀, hg₀, hg⟩ := Option.map_eq_some_iff.mp h
    simp only [Guardianship.mk.injEq, Option.some.injEq, Prod.mk.injEq] at hg
    obtain ⟨rfl, rfl, rfl, rfl⟩ := hg
    exact Or.inr ⟨rfl, g₀.pending, hg₀⟩
  | _ => exact Or.inl rfl

end VaultOp

section Guardianship

variable {P} {m m' : Machine} {vault k : Pubkey} {bump : UInt8}

@[simp] theorem configIn_data (c : RecoveryConfig) : configIn c.data = some c := by
  rw [configIn, RecoveryConfig.tryFromBytes_eq_ok.mpr rfl]

theorem configIn_eq_some {data : List UInt8} {c : RecoveryConfig} :
    configIn data = some c ↔ c.data = data := by
  unfold configIn
  constructor
  · intro h
    split at h
    · next c' hc =>
      obtain rfl := Option.some.inj h
      exact RecoveryConfig.tryFromBytes_eq_ok.mp hc
    · cases h
  · rintro rfl
    rw [RecoveryConfig.tryFromBytes_eq_ok.mpr rfl]

theorem configIn_eq_none {data : List UInt8} (h : data.length ≠ recoveryConfigLen) :
    configIn data = none := by
  rw [Option.eq_none_iff_forall_ne_some]
  intro c hc
  rw [configIn_eq_some] at hc
  exact h (hc ▸ c.length_eq)

/-- A vault account is no recovery config. -/
theorem configIn_vault (a : HybridAccount) : configIn a.data = none :=
  configIn_eq_none (by rw [a.length_eq]; decide)

/-- The recovery address of a vault is unique. -/
theorem SocialRecovery.IsRecoveryAddress.unique {k' : Pubkey} {bump' : UInt8}
    (h : IsRecoveryAddress P vault k bump) (h' : IsRecoveryAddress P vault k' bump') : k = k' := by
  have heq := h.symm.trans h'
  rw [Option.some.injEq, Prod.mk.injEq] at heq
  exact heq.1

theorem recoveryConfigOf_of_address (h : SocialRecovery.IsRecoveryAddress P vault k bump) :
    recoveryConfigOf P m vault = configAt P m k := by
  unfold recoveryConfigOf
  rw [show P.tryFindProgramAddress _ _ = some (k, bump) from h]

theorem configAt_eq_some {c : RecoveryConfig} :
    configAt P m k = some c ↔ m.owner k = P.programId ∧ m.data k = c.data := by
  unfold configAt
  by_cases howner : m.owner k = P.programId
  · rw [if_pos howner, configIn_eq_some, and_iff_right howner]
    exact eq_comm
  · rw [if_neg howner]
    constructor
    · intro h
      cases h
    · intro h
      exact absurd h.1 howner

theorem configAt_eq_none (h : m.owner k = P.programId → configIn (m.data k) = none) :
    configAt P m k = none := by
  unfold configAt
  split
  · next howner => exact h howner
  · rfl

theorem configAt_vault {a : HybridAccount} (h : m.data k = a.data) : configAt P m k = none :=
  configAt_eq_none fun _ => by rw [h, configIn_vault]

theorem configAt_congr (howner : m'.owner k = P.programId ↔ m.owner k = P.programId)
    (hdata : m.owner k = P.programId → m'.data k = m.data k) :
    configAt P m' k = configAt P m k := by
  unfold configAt
  by_cases hk : m.owner k = P.programId
  · rw [if_pos hk, if_pos (howner.mpr hk), hdata hk]
  · rw [if_neg hk, if_neg (fun h => hk (howner.mp h))]

/-- The recovery config of a vault is the program's account at its recovery address. -/
theorem recoveryConfigOf_eq_some {c : RecoveryConfig} :
    recoveryConfigOf P m vault = some c ↔
      ∃ k bump, SocialRecovery.IsRecoveryAddress P vault k bump ∧ m.owner k = P.programId ∧
        m.data k = c.data := by
  constructor
  · intro h
    cases hfind : P.tryFindProgramAddress (recoveryPdaSeeds vault) P.programId with
    | none =>
      rw [recoveryConfigOf, hfind] at h
      cases h
    | some p =>
      obtain ⟨k, bump⟩ := p
      rw [recoveryConfigOf_of_address hfind, configAt_eq_some] at h
      exact ⟨k, bump, hfind, h⟩
  · rintro ⟨k, bump, haddress, h⟩
    rw [recoveryConfigOf_of_address haddress, configAt_eq_some]
    exact h

theorem guardianshipOf_eq_some {g : Guardianship} :
    guardianshipOf P m vault = some g ↔
      ∃ c, recoveryConfigOf P m vault = some c ∧ c.fields.guardianship = g := by
  rw [guardianshipOf, Option.map_eq_some_iff]

/-- The recovery config depends on the account at the recovery address alone. -/
theorem recoveryConfigOf_congr
    (h : ∀ k bump, SocialRecovery.IsRecoveryAddress P vault k bump →
      configAt P m' k = configAt P m k) :
    recoveryConfigOf P m' vault = recoveryConfigOf P m vault := by
  cases hfind : P.tryFindProgramAddress (recoveryPdaSeeds vault) P.programId with
  | none => rw [recoveryConfigOf, recoveryConfigOf, hfind]
  | some p =>
    obtain ⟨k, bump⟩ := p
    rw [recoveryConfigOf_of_address hfind, recoveryConfigOf_of_address hfind]
    exact h k bump hfind

end Guardianship

/-! ### What the parts of an operation leave alone -/

section Parts

variable {P} {inv : Invocation} {m m' : Machine}

theorem Execute.MovesSol.frame {vault recipient : Pubkey} {amount : UInt64}
    (h : Execute.MovesSol inv m vault recipient amount m') :
    (∀ k, m'.data k = m.data k) ∧ (∀ k, m'.owner k = m.owner k) ∧ m'.cpis = m.cpis ∧
      ∀ k, k ≠ vault → m.lamports k ≤ m'.lamports k := by
  cases h with
  | none _ => exact ⟨fun _ => rfl, fun _ => rfl, rfl, fun _ _ => UInt64.le_refl _⟩
  | @moved remaining total _ _ _ htotal =>
    refine ⟨fun k => by simp, fun k => by simp, rfl, fun k hk => ?_⟩
    rw [Machine.lamports_setLamports, if_neg hk, Machine.lamports_setLamports]
    split
    · next hrecipient =>
      subst hrecipient
      rw [UInt64.le_iff_toNat_le]
      omega
    · exact UInt64.le_refl _

/-- The token programs are not this program. -/
theorem SplToken.supported_ne_program {id : Pubkey}
    (h : SplToken.isSupportedTokenProgram id = true) : P.programId ≠ id := by
  obtain ⟨hclassic, h2022⟩ := P.programId_ne_token
  rw [SplToken.isSupportedTokenProgram, Bool.or_eq_true, decide_eq_true_eq,
    decide_eq_true_eq] at h
  rcases h with rfl | rfl
  · exact hclassic
  · exact h2022

/-- The token programs are not the system program. -/
theorem SplToken.supported_ne_system {id : Pubkey}
    (h : SplToken.isSupportedTokenProgram id = true) : systemProgramId ≠ id := by
  rintro rfl
  exact absurd h (by decide)

/-- A token movement is none at all, or one `TransferChecked`. -/
theorem Execute.MovesSpl.transferred
    {vault creator source mint destination tokenProgram : AccountInfo} {amount : UInt64}
    {a : HybridAccount} {decimals : UInt8}
    (h : Execute.MovesSpl P inv m amount
      (Execute.splCpi vault creator source mint destination tokenProgram amount a decimals) m') :
    m' = m ∨ ∃ m₁, tokenTransferChecked P m (SplToken.transferCheckedInstruction tokenProgram.key
        source.key mint.key destination.key vault.key amount decimals) = some m₁ ∧
      m' = m₁.log
        (Execute.splCpi vault creator source mint destination tokenProgram amount a decimals) := by
  cases h with
  | none _ => exact Or.inl rfl
  | moved _ _ hcall => exact Or.inr ⟨_, hcall, rfl⟩

/-- A token movement writes no account of the program or the system program. -/
theorem Execute.MovesSpl.frame {vault creator source mint destination tokenProgram : AccountInfo}
    {amount : UInt64} {a : HybridAccount} {decimals : UInt8}
    (hprogram : SplToken.isSupportedTokenProgram tokenProgram.key = true)
    (h : Execute.MovesSpl P inv m amount
      (Execute.splCpi vault creator source mint destination tokenProgram amount a decimals) m') :
    (∀ k, m'.owner k = m.owner k) ∧
      (∀ k, m.owner k = systemProgramId ∨ m.owner k = P.programId →
        m'.data k = m.data k ∧ m'.lamports k = m.lamports k) ∧
      (m'.cpis = m.cpis ∨ m'.cpis = m.cpis ++
        [Execute.splCpi vault creator source mint destination tokenProgram amount a decimals]) := by
  rcases h.transferred with rfl | ⟨m₁, htransfer, rfl⟩
  · exact ⟨fun _ => rfl, fun _ _ => ⟨rfl, rfl⟩, Or.inl rfl⟩
  · obtain ⟨howner, hcpis, hframe⟩ := tokenTransferChecked_frame htransfer
    refine ⟨howner, fun k hk => hframe k ?_, Or.inr (by rw [Machine.cpis_log, hcpis])⟩
    -- the token program, which writes its own accounts only, is neither of the two
    rcases hk with hk | hk
    · rw [hk]
      exact SplToken.supported_ne_system hprogram
    · rw [hk]
      exact SplToken.supported_ne_program hprogram

namespace SocialRecovery

theorem ClearsPending.frame {config : AccountInfo} (h : ClearsPending P m config m') :
    (∀ k, m'.owner k = m.owner k) ∧ (∀ k, m'.lamports k = m.lamports k) ∧ m'.cpis = m.cpis ∧
      (∀ k, k ≠ config.key → m'.data k = m.data k) ∧
      ∀ k (a : HybridAccount), m.data k = a.data → m'.data k = a.data := by
  cases h with
  | absent _ => exact ⟨fun _ => rfl, fun _ => rfl, rfl, fun _ _ => rfl, fun _ _ ha => ha⟩
  | @cleared c _ _ hdata =>
    refine ⟨fun k => by simp, fun k => by simp, rfl, fun k hk => by simp [hk], fun k a ha => ?_⟩
    -- the config written is no vault, so it is not `k`
    have hne : k ≠ config.key := vault_ne_config ha hdata
    rw [Machine.data_setData, if_neg hne, ha]

theorem StoresConfig.frame {payer config : AccountInfo} {vault guardian : Pubkey} {bump : UInt8}
    {delay : UInt64} (h : StoresConfig P inv m payer config vault bump guardian delay m') :
    (∀ k, k ≠ config.key → m'.owner k = m.owner k ∧ m'.data k = m.data k) ∧
      m'.owner config.key = P.programId ∧
      (m.owner config.key ≠ P.programId → m'.lamports config.key ≠ 0) ∧
      (m.owner config.key = P.programId → m.data config.key ≠ []) ∧
      ∀ k, m.owner k = P.programId → m'.lamports k = m.lamports k := by
  cases h with
  | @created m₁ c hnil hsystem _ htransfer _ _ _ =>
    have hpos := ne_zero_of_pos (inv.rentPos recoveryConfigLen)
    obtain ⟨hdata, howner, -, hothers, hreceived⟩ := systemTransfer_frame htransfer
    refine ⟨fun k hk => ?_, by simp, fun _ => ?_, fun hprogram => ?_, fun k hk => ?_⟩
    · simp [hk, hdata, howner]
    · rw [Machine.lamports_setData, Machine.lamports_allot, Machine.lamports_log]
      exact ne_zero_of_le hreceived hpos
    · exact absurd (hprogram.symm.trans hsystem) P.programId_ne_system
    · -- neither the payer nor the address is an account of the program yet
      have hconfig : k ≠ config.key := by
        rintro rfl
        exact P.programId_ne_system (hk.symm.trans hsystem)
      rw [Machine.lamports_setData, Machine.lamports_allot, Machine.lamports_log,
        hothers k hconfig hpos (hk ▸ P.programId_ne_system)]
  | @updated c howner hdata _ =>
    refine ⟨fun k hk => by simp [hk], by simpa using howner, fun hnot => absurd howner hnot,
      fun _ => ?_, fun k _ => by simp⟩
    intro hnil
    exact c.data_ne_nil (hdata.symm.trans hnil)

end SocialRecovery

end Parts

/-! ### The vault after an operation -/

/-- The vault account `a` before and `a'` after an operation. -/
structure VaultEffect (m : Machine) (vault : Pubkey) (op : VaultOp) (m' : Machine)
    (a a' : HybridAccount) : Prop where
  owner : m.owner vault = P.programId
  data : m.data vault = a.data
  data' : m'.data vault = a'.data
  fields : a'.fields = op.onFields a.fields
  nonce : op.consumesNonce = true → a.fields.nonce.toNat + 1 = a'.fields.nonce.toNat

section Effects

variable {P} {inv : Invocation} {m m' : Machine} {vault : AccountInfo} {op : VaultOp}

/-- The next nonce is the successor, and the successor does not wrap. -/
theorem eq_add_one {n next : UInt64} (h : n.toNat + 1 = next.toNat) : next = n + 1 := by
  have hnext := next.toNat_lt
  rw [← UInt64.toNat_inj, UInt64.toNat_add, ← h]
  show n.toNat + 1 = (n.toNat + 1) % 2 ^ 64
  omega

/-- The effect of an operation whose account after it is `a'`. -/
theorem VaultEffect.of_nonce {a a' : HybridAccount} {next : UInt64}
    (howner : m.owner vault.key = P.programId) (hdata : m.data vault.key = a.data)
    (hdata' : m'.data vault.key = a'.data) (hnext : a.fields.nonce.toNat + 1 = next.toNat)
    (hfields : next = a.fields.nonce + 1 → a'.fields = op.onFields a.fields)
    (hconsumes : op.consumesNonce = true) : VaultEffect P m vault.key op m' a a' where
  owner := howner
  data := hdata
  data' := hdata'
  fields := hfields (eq_add_one hnext)
  nonce _ := by
    rw [hfields (eq_add_one hnext), op.onFields_nonce, if_pos hconsumes, ← eq_add_one hnext]
    exact hnext

theorem Performs.effect (h : Performs P inv m vault op m') :
    ∃ a a', VaultEffect P m vault.key op m' a a' := by
  cases h with
  | @transferSol recipient _ _ _ _ a auth _ _ hc hmoves =>
    have hau := hc.authorized
    obtain ⟨hdata, -⟩ := hmoves.frame
    refine ⟨a, a.setNonce auth.nextNonce, .of_nonce hau.owner hau.data ?_ hau.nextNonce ?_ rfl⟩
    · rw [hdata, Machine.data_setData, if_pos rfl]
    · rintro hnext
      rw [HybridAccount.fields_setNonce, hnext]
      rfl
  | @transferSpl _ _ _ _ _ _ _ _ _ a auth _ _ _ hc hmoves =>
    have hau := hc.authorized
    obtain ⟨-, hdata, -⟩ := hmoves.frame hc.checks.program
    refine ⟨a, a.setNonce auth.nextNonce, .of_nonce hau.owner hau.data ?_ hau.nextNonce ?_ rfl⟩
    · rw [(hdata vault.key (Or.inr (by rw [Machine.owner_setData, hau.owner]))).1,
        Machine.data_setData, if_pos rfl]
    · rintro hnext
      rw [HybridAccount.fields_setNonce, hnext]
      rfl
  | @rotateEd25519 _ _ _ _ newPubkey a auth _ _ hc hclears =>
    have hau := hc.authorized
    obtain ⟨-, -, -, -, hdata⟩ := hclears.frame
    refine ⟨a, (a.setNonce auth.nextNonce).setOwnerEd25519 newPubkey,
      .of_nonce hau.owner hau.data (hdata _ _ (by simp)) hau.nextNonce ?_ rfl⟩
    rintro hnext
    rw [HybridAccount.fields_setOwnerEd25519, HybridAccount.fields_setNonce, hnext]
    rfl
  | @rotateFalcon _ _ _ newWirePk _ prepared a auth _ _ hc =>
    have hau := hc.authorized
    refine ⟨a, ((a.setNonce auth.nextNonce).setFalconPublicKeyHash
      (P.sha256 newWirePk)).setPreparedFalconPublicKey prepared,
      .of_nonce hau.owner hau.data (by simp) hau.nextNonce ?_ rfl⟩
    rintro hnext
    rw [HybridAccount.fields_setPreparedFalconPublicKey,
      HybridAccount.fields_setFalconPublicKeyHash, HybridAccount.fields_setNonce, hnext]
    rfl
  | @changePolicy _ _ _ _ threshold target a auth _ hc =>
    have hau := hc.authorized
    refine ⟨a, ChangePolicy.changed a auth target threshold,
      .of_nonce hau.owner hau.data (by simp) hau.nextNonce ?_ rfl⟩
    rintro hnext
    rw [ChangePolicy.fields_changed, hnext]
    rfl
  | @setRecovery _ _ _ enabled a auth _ hc =>
    have hau := hc.authorized
    refine ⟨a, (a.setNonce auth.nextNonce).setRecoveryEnabled enabled,
      .of_nonce hau.owner hau.data (by simp) hau.nextNonce ?_ rfl⟩
    rintro hnext
    rw [HybridAccount.fields_setRecoveryEnabled, HybridAccount.fields_setNonce, hnext]
    rfl
  | @recoverEd25519 _ _ _ _ newEd25519 a auth _ _ hc hclears =>
    have hau := hc.authorized
    obtain ⟨-, -, -, -, hdata⟩ := hclears.frame
    refine ⟨a, (a.setNonce auth.nextNonce).setOwnerEd25519 newEd25519,
      .of_nonce hau.owner hau.data (hdata _ _ (by simp)) hau.nextNonce ?_ rfl⟩
    rintro hnext
    rw [HybridAccount.fields_setOwnerEd25519, HybridAccount.fields_setNonce, hnext]
    rfl
  | @setConfig _ _ _ _ _ _ _ _ a auth m₁ _ hc hstores =>
    have hau := hc.authorized
    refine ⟨a, a.setNonce auth.nextNonce,
      .of_nonce hau.owner hau.data (by simp) hau.nextNonce ?_ rfl⟩
    rintro hnext
    rw [HybridAccount.fields_setNonce, hnext]
    rfl
  | @initiate config _ _ _ a c _ hc =>
    -- `InitiateSocialRecovery` writes the config alone and leaves the nonce
    have hne := SocialRecovery.vault_ne_config hc.vaultData hc.configData
    refine ⟨a, a, ?_⟩
    exact
      { owner := hc.vaultOwner, data := hc.vaultData, fields := rfl
        data' := by rw [Machine.data_setData, if_neg hne, hc.vaultData]
        nonce := fun h => absurd h Bool.false_ne_true }
  | @finalize config pending _ next a c hc =>
    refine ⟨a, (a.setOwnerEd25519 pending).setNonce next,
      .of_nonce hc.vaultOwner hc.vaultData (by simp) hc.nonce ?_ rfl⟩
    rintro hnext
    rw [HybridAccount.fields_setNonce, HybridAccount.fields_setOwnerEd25519, hnext]
    rfl
  | @cancel config _ _ _ a c auth _ hc =>
    have hau := hc.authorized
    refine ⟨a, a.setNonce auth.nextNonce,
      .of_nonce hau.owner hau.data (by simp) hau.nextNonce ?_ rfl⟩
    rintro hnext
    rw [HybridAccount.fields_setNonce, hnext]
    rfl

/-! ### What an operation leaves alone -/

/-- What an operation on `vault` does to the other accounts of the program: it may write
the vault's recovery config and create one, and takes lamports from no account but the
vault, there only by a lamport transfer. -/
structure OpFrame (P : Platform) (m : Machine) (vault : Pubkey) (op : VaultOp) (m' : Machine) :
    Prop where
  owner : ∀ k, m.owner k = P.programId → m'.owner k = P.programId
  fresh : ∀ k, m.owner k ≠ P.programId → m'.owner k = P.programId →
    (∃ guardian delay, op = .setConfig guardian delay) ∧
      (∃ bump, SocialRecovery.IsRecoveryAddress P vault k bump) ∧ m.data k = [] ∧
      ∃ c' : RecoveryConfig, m'.data k = c'.data ∧ 1 ≤ c'.fields.delaySlots ∧ m'.lamports k ≠ 0
  data : ∀ k, k ≠ vault → m.owner k = P.programId → m'.data k = m.data k ∨
    op.touchesConfig = true ∧ (∃ bump, SocialRecovery.IsRecoveryAddress P vault k bump) ∧
      ∃ c c' : RecoveryConfig, m.data k = c.data ∧ m'.data k = c'.data ∧
        (1 ≤ c.fields.delaySlots → 1 ≤ c'.fields.delaySlots)
  lamports : ∀ k, m.owner k = P.programId → (k = vault → ∀ r l, op ≠ .transferSol r l) →
    m.lamports k ≤ m'.lamports k

/-- An operation that writes no account of the program but the vault. -/
theorem OpFrame.of_vault {vault : Pubkey} (howner : ∀ k, m'.owner k = m.owner k)
    (hdata : ∀ k, k ≠ vault → m.owner k = P.programId → m'.data k = m.data k)
    (hlamports : ∀ k, m.owner k = P.programId → (k = vault → ∀ r l, op ≠ .transferSol r l) →
      m.lamports k ≤ m'.lamports k) : OpFrame P m vault op m' where
  owner k hk := by rw [howner, hk]
  fresh k hk hk' := absurd ((howner k).symm.trans hk') hk
  data k hne hk := Or.inl (hdata k hne hk)
  lamports := hlamports

/-- An operation that writes the vault and its recovery config. -/
theorem OpFrame.of_config {vault config : Pubkey}
    (haddress : ∃ bump, SocialRecovery.IsRecoveryAddress P vault config bump)
    (htouches : op.touchesConfig = true) (howner : ∀ k, m'.owner k = m.owner k)
    (hother : ∀ k, k ≠ vault → k ≠ config → m'.data k = m.data k)
    (hconfig : config ≠ vault → m'.data config = m.data config ∨
      ∃ c c' : RecoveryConfig, m.data config = c.data ∧ m'.data config = c'.data ∧
        (1 ≤ c.fields.delaySlots → 1 ≤ c'.fields.delaySlots))
    (hlamports : ∀ k, m'.lamports k = m.lamports k) : OpFrame P m vault op m' where
  owner k hk := by rw [howner, hk]
  fresh k hk hk' := absurd ((howner k).symm.trans hk') hk
  data k hne hk := by
    by_cases hkc : k = config
    · subst hkc
      rcases hconfig hne with hsame | hwritten
      · exact Or.inl hsame
      · exact Or.inr ⟨htouches, haddress, hwritten⟩
    · exact Or.inl (hother k hne hkc)
  lamports k _ _ := by
    rw [hlamports]
    exact UInt64.le_refl _

/-- Clearing the pending proposal after the vault was written. -/
theorem OpFrame.of_clearsPending {config : AccountInfo} {d : List UInt8}
    (haddress : ∃ bump, SocialRecovery.IsRecoveryAddress P vault.key config.key bump)
    (htouches : op.touchesConfig = true)
    (hclears : SocialRecovery.ClearsPending P (m.setData vault.key d) config m') :
    OpFrame P m vault.key op m' := by
  obtain ⟨howner, hlamports, -, hother, -⟩ := hclears.frame
  refine .of_config haddress htouches (fun k => ?_) (fun k hne hkc => ?_) (fun hne => ?_)
    fun k => ?_
  · rw [howner, Machine.owner_setData]
  · rw [hother k hkc, Machine.data_setData, if_neg hne]
  · cases hclears with
    | absent _ =>
      left
      rw [Machine.data_setData, if_neg hne]
    | @cleared c _ _ hdata =>
      right
      rw [Machine.data_setData, if_neg hne] at hdata
      exact ⟨c, c.clearPending, hdata, by rw [Machine.data_setData, if_pos rfl],
        fun hdelay => by rw [c.fields_clearPending]; exact hdelay⟩
  · rw [hlamports, Machine.lamports_setData]

theorem Performs.frame (h : Performs P inv m vault op m') : OpFrame P m vault.key op m' := by
  cases h with
  | @transferSol recipient _ _ _ amount _ _ _ _ hc hmoves =>
    obtain ⟨hdata, howner, -, hlamports⟩ := hmoves.frame
    refine .of_vault (fun k => ?_) (fun k hne _ => ?_) fun k _ hk => ?_
    · rw [howner, Machine.owner_setData]
    · rw [hdata, Machine.data_setData, if_neg hne]
    · -- a lamport transfer debits the vault alone
      have hne : k ≠ vault.key := fun hv => hk hv _ _ rfl
      have hle := hlamports k hne
      rwa [Machine.lamports_setData] at hle
  | transferSpl _ hc hmoves =>
    obtain ⟨howner, hframe, -⟩ := hmoves.frame hc.checks.program
    refine .of_vault (fun k => ?_) (fun k hne hk => ?_) fun k hk _ => ?_
    · rw [howner, Machine.owner_setData]
    · rw [(hframe k (Or.inr (by rwa [Machine.owner_setData]))).1, Machine.data_setData, if_neg hne]
    · rw [(hframe k (Or.inr (by rwa [Machine.owner_setData]))).2, Machine.lamports_setData]
      exact UInt64.le_refl _
  | rotateEd25519 _ hc hclears => exact .of_clearsPending hc.address rfl hclears
  | recoverEd25519 _ hc hclears => exact .of_clearsPending hc.address rfl hclears
  | rotateFalcon _ _ _ =>
    exact .of_vault (fun k => by simp) (fun k hne _ => by simp [hne]) fun k _ _ => by simp
  | changePolicy _ _ =>
    exact .of_vault (fun k => by simp) (fun k hne _ => by simp [hne]) fun k _ _ => by simp
  | setRecovery _ _ =>
    exact .of_vault (fun k => by simp) (fun k hne _ => by simp [hne]) fun k _ _ => by simp
  | @setConfig config _ _ _ _ guardian delay bump a auth m₁ _ hc hstores =>
    obtain ⟨hother, hconfigOwner, hfunded, hnonempty, hlamports⟩ := hstores.frame
    obtain ⟨hne, -, -⟩ := hstores.vault_frame hc.authorized.data
    -- the config has the delay the handler checked, whether created or updated
    have hwritten : ∃ c' : RecoveryConfig, m₁.data config.key = c'.data ∧
        1 ≤ c'.fields.delaySlots := by
      cases hstores with
      | @created _ c _ _ _ _ _ _ hinit =>
        refine ⟨c, by simp, ?_⟩
        rw [RecoveryConfig.fields_initializeConfig hinit]
        exact hc.delay
      | @updated c _ _ _ =>
        refine ⟨(c.setGuardianEd25519 guardian).setDelaySlots delay, by simp, ?_⟩
        rw [RecoveryConfig.fields_setDelaySlots]
        exact hc.delay
    refine ⟨fun k hk => ?_, fun k hk hk' => ?_, fun k hkv hk => ?_, fun k hk _ => ?_⟩
    · rw [Machine.owner_setData]
      by_cases hkc : k = config.key
      · rw [hkc, hconfigOwner]
      · rw [(hother k hkc).1, hk]
    · rw [Machine.owner_setData] at hk'
      -- an account new to the program is the config just created
      have hkc : k = config.key := by
        by_contra hkc
        exact hk ((hother k hkc).1.symm.trans hk')
      subst hkc
      refine ⟨⟨guardian, delay, rfl⟩, ⟨bump, hc.address⟩, ?_, ?_⟩
      · cases hstores with
        | created hnil _ _ _ _ _ _ => exact hnil
        | updated howner _ _ => exact absurd howner hk
      · obtain ⟨c', hc', hdelay⟩ := hwritten
        refine ⟨c', by rw [Machine.data_setData, if_neg hne.symm, hc'], hdelay, ?_⟩
        rw [Machine.lamports_setData]
        exact hfunded hk
    · rw [Machine.data_setData, if_neg hkv]
      by_cases hkc : k = config.key
      · subst hkc
        obtain ⟨c', hc', hdelay⟩ := hwritten
        cases hstores with
        -- an account the program owns already is not created again
        | created hnil _ _ _ _ _ _ => exact absurd hnil (hnonempty hk)
        | @updated c _ hdata _ =>
          exact Or.inr ⟨rfl, ⟨bump, hc.address⟩, c, c', hdata, hc', fun _ => hdelay⟩
      · exact Or.inl (hother k hkc).2
    · rw [Machine.lamports_setData, hlamports k hk]
      exact UInt64.le_refl _
  | @initiate config _ newEd25519 ready _ c _ hc =>
    refine .of_config hc.address rfl (fun k => by simp) (fun k _ hkc => by simp [hkc])
      (fun _ => Or.inr ⟨c, (c.setPendingNewEd25519 newEd25519).setPendingReadySlot ready,
        hc.configData, by simp, fun hdelay => by simpa using hdelay⟩) fun k => by simp
  | @finalize config _ _ _ _ c hc =>
    refine .of_config hc.address rfl (fun k => by simp) (fun k hkv hkc => by simp [hkv, hkc])
      (fun hne => Or.inr ⟨c, c.clearPending, hc.configData, by simp [hne],
        fun hdelay => by simpa using hdelay⟩) fun k => by simp
  | @cancel config _ _ _ _ c _ _ hc =>
    refine .of_config hc.address rfl (fun k => by simp) (fun k hkv hkc => by simp [hkv, hkc])
      (fun hne => Or.inr ⟨c, c.clearPending, hc.configData, by simp [hne],
        fun hdelay => by simpa using hdelay⟩) fun k => by simp

/-! ### The guardianship after an operation -/

/-- The recovery config of a vault is the same when an operation does not touch it. -/
theorem OpFrame.recoveryConfigOf {v w : Pubkey} {a a' : HybridAccount}
    (hf : OpFrame P m v op m') (he : VaultEffect P m v op m' a a')
    (huntouched : ∀ k bump, SocialRecovery.IsRecoveryAddress P w k bump → op.touchesConfig = true →
      ¬ ∃ bump', SocialRecovery.IsRecoveryAddress P v k bump') :
    recoveryConfigOf P m' w = recoveryConfigOf P m w := by
  refine recoveryConfigOf_congr fun k bump hk => ?_
  by_cases hv : k = v
  · rw [hv, configAt_vault he.data, configAt_vault he.data']
  · refine configAt_congr ⟨fun hk' => ?_, hf.owner k⟩ fun howner => ?_
    · by_contra hnot
      obtain ⟨⟨guardian, delay, rfl⟩, haddress, -⟩ := hf.fresh k hnot hk'
      exact huntouched k bump hk rfl haddress
    · rcases hf.data k hv howner with hsame | ⟨htouches, haddress, -⟩
      · exact hsame
      · exact absurd haddress (huntouched k bump hk htouches)

theorem guardianship_clearPending (c : RecoveryConfig) :
    c.clearPending.fields.guardianship = { c.fields.guardianship with pending := none } := by
  rw [c.fields_clearPending]
  simp only [RecoveryFields.guardianship, Guardianship.mk.injEq, true_and]
  exact RecoveryFields.pending_eq_none.mpr rfl

theorem guardianship_setPending (c : RecoveryConfig) {k : Pubkey} {ready : UInt64}
    (hk : k ≠ ByteVec.zero 32) :
    ((c.setPendingNewEd25519 k).setPendingReadySlot ready).fields.guardianship =
      { c.fields.guardianship with pending := some (k, ready) } := by
  rw [RecoveryConfig.fields_setPendingReadySlot, RecoveryConfig.fields_setPendingNewEd25519]
  simp only [RecoveryFields.guardianship, Guardianship.mk.injEq, true_and]
  exact RecoveryFields.pending_eq_some.mpr ⟨rfl, rfl, hk⟩

theorem guardianship_setConfig (c : RecoveryConfig) {guardian : Pubkey} {delay : UInt64}
    (hidle : c.fields.pending = none) :
    ((c.setGuardianEd25519 guardian).setDelaySlots delay).fields.guardianship =
      { guardian, delay, pending := none } := by
  rw [RecoveryConfig.fields_setDelaySlots, RecoveryConfig.fields_setGuardianEd25519]
  simp only [RecoveryFields.guardianship, Guardianship.mk.injEq, true_and]
  exact RecoveryFields.pending_eq_none.mpr (RecoveryFields.pending_eq_none.mp hidle)

/-- A fresh config has no pending proposal. -/
theorem guardianship_fresh {data : List UInt8} {bump : UInt8} {guardian : Pubkey}
    {delay : UInt64} {c : RecoveryConfig}
    (h : RecoveryConfig.initializeConfig data bump guardian delay = .ok c) :
    c.fields.guardianship = { guardian, delay, pending := none } := by
  rw [RecoveryConfig.fields_initializeConfig h]
  simp only [RecoveryFields.guardianship, Guardianship.mk.injEq]
  exact ⟨rfl, rfl, RecoveryFields.pending_eq_none.mpr rfl⟩

/-- The guardianship read from a config account the program owns. -/
theorem guardianshipOf_config {v k : Pubkey} {bump : UInt8} {c : RecoveryConfig}
    (haddress : SocialRecovery.IsRecoveryAddress P v k bump) (howner : m.owner k = P.programId)
    (hdata : m.data k = c.data) : guardianshipOf P m v = some c.fields.guardianship :=
  guardianshipOf_eq_some.mpr
    ⟨c, recoveryConfigOf_eq_some.mpr ⟨k, bump, haddress, howner, hdata⟩, rfl⟩

theorem guardianshipOf_eq_none {v k : Pubkey} {bump : UInt8}
    (haddress : SocialRecovery.IsRecoveryAddress P v k bump) (hnil : m.data k = []) :
    guardianshipOf P m v = none := by
  have hnone : configAt P m k = none := configAt_eq_none fun _ => by
    rw [hnil]
    exact configIn_eq_none (by decide)
  rw [guardianshipOf, recoveryConfigOf_of_address haddress, hnone]
  rfl

/-- Clearing the config and writing the vault. -/
theorem guardianshipOf_clearConfig {v k : Pubkey} {c : RecoveryConfig} {d : List UInt8}
    (haddress : ∃ bump, SocialRecovery.IsRecoveryAddress P v k bump) (hne : v ≠ k)
    (howner : m.owner k = P.programId) (hdata : m.data k = c.data) :
    guardianshipOf P ((m.setData k c.clearPending.data).setData v d) v =
      (guardianshipOf P m v).map fun g => { g with pending := none } := by
  obtain ⟨bump, haddress⟩ := haddress
  rw [guardianshipOf_config haddress howner hdata,
    guardianshipOf_config (c := c.clearPending) haddress (by simpa using howner)
      (by simp [hne.symm]), guardianship_clearPending]
  rfl

/-- A config is stored only where no proposal is pending. -/
theorem SocialRecovery.StoresConfig.idle {payer config : AccountInfo} {v guardian : Pubkey}
    {bump : UInt8} {delay : UInt64}
    (h : StoresConfig P inv m payer config v bump guardian delay m')
    (haddress : IsRecoveryAddress P v config.key bump) :
    ((guardianshipOf P m v).bind fun g => g.pending) = none := by
  cases h with
  | created hempty _ _ _ _ _ _ =>
    rw [guardianshipOf_eq_none haddress hempty]
    rfl
  | updated howner hdata hidle =>
    rw [guardianshipOf_config haddress howner hdata]
    exact hidle

/-- The recovery config is not the vault that has just been written. -/
theorem SocialRecovery.ClearsPending.ne_vault {config : AccountInfo} {v : Pubkey}
    {a : HybridAccount} (h : ClearsPending P (m.setData v a.data) config m') : config.key ≠ v := by
  intro heq
  cases h with
  | absent hnil =>
    rw [heq, Machine.data_setData, if_pos rfl] at hnil
    exact a.data_ne_nil hnil
  | @cleared c _ _ hdata =>
    rw [heq, Machine.data_setData, if_pos rfl] at hdata
    exact data_ne_config hdata

/-- Clearing the pending proposal after the vault was written. -/
theorem guardianship_clearsPending {config : AccountInfo} {a : HybridAccount}
    (haddress : ∃ bump, SocialRecovery.IsRecoveryAddress P vault.key config.key bump)
    (hclears : SocialRecovery.ClearsPending P (m.setData vault.key a.data) config m') :
    guardianshipOf P m' vault.key =
      (guardianshipOf P m vault.key).map fun g => { g with pending := none } := by
  obtain ⟨bump, haddress⟩ := haddress
  have hne : config.key ≠ vault.key := hclears.ne_vault
  cases hclears with
  | absent hnil =>
    -- the recovery address holds no data, so there is no guardianship to clear
    have hnil' := hnil
    rw [Machine.data_setData, if_neg hne] at hnil'
    rw [guardianshipOf_eq_none haddress hnil, guardianshipOf_eq_none haddress hnil']
    rfl
  | @cleared c howner _ hdata =>
    rw [Machine.owner_setData] at howner
    rw [Machine.data_setData, if_neg hne] at hdata
    rw [guardianshipOf_config haddress howner hdata,
      guardianshipOf_config (c := c.clearPending) haddress (by simpa using howner) (by simp),
      guardianship_clearPending]
    rfl

/-- An operation that does not write the recovery config leaves it as it is. -/
theorem Performs.recoveryConfigOf (h : Performs P inv m vault op m')
    (hno : op.touchesConfig = false) :
    recoveryConfigOf P m' vault.key = recoveryConfigOf P m vault.key := by
  obtain ⟨a, a', heffect⟩ := h.effect
  refine h.frame.recoveryConfigOf heffect ?_
  intro k bump _ htouches
  exact absurd (hno.symm.trans htouches) Bool.false_ne_true

theorem Performs.guardianship (h : Performs P inv m vault op m') :
    guardianshipOf P m' vault.key = op.onGuardianship (guardianshipOf P m vault.key) := by
  -- five of the eleven operations do not touch the config
  have huntouched (hno : op.touchesConfig = false) :
      guardianshipOf P m' vault.key = guardianshipOf P m vault.key := by
    rw [guardianshipOf, guardianshipOf, h.recoveryConfigOf hno]
  cases h with
  | transferSol _ _ _ => exact huntouched rfl
  | transferSpl _ _ _ => exact huntouched rfl
  | rotateFalcon _ _ _ => exact huntouched rfl
  | changePolicy _ _ => exact huntouched rfl
  | setRecovery _ _ => exact huntouched rfl
  | rotateEd25519 _ hc hclears => exact guardianship_clearsPending hc.address hclears
  | recoverEd25519 _ hc hclears => exact guardianship_clearsPending hc.address hclears
  | @setConfig config _ _ _ _ guardian delay bump a auth m₁ _ hc hstores =>
    obtain ⟨hne, -, -⟩ := hstores.vault_frame hc.authorized.data
    cases hstores with
    | @created _ c _ _ _ _ _ _ hinit =>
      rw [guardianshipOf_config (c := c) hc.address (by simp) (by simp [hne.symm]),
        guardianship_fresh hinit]
      rfl
    | @updated c howner _ hidle =>
      rw [guardianshipOf_config (c := (c.setGuardianEd25519 guardian).setDelaySlots delay)
        hc.address (by simpa using howner) (by simp [hne.symm]), guardianship_setConfig c hidle]
      rfl
  | @initiate config _ newEd25519 ready _ c _ hc =>
    obtain ⟨bump, haddress⟩ := hc.address
    rw [guardianshipOf_config haddress hc.configOwner hc.configData,
      guardianshipOf_config (c := (c.setPendingNewEd25519 newEd25519).setPendingReadySlot ready)
        haddress (by simpa using hc.configOwner) (by simp), guardianship_setPending c hc.nonzero]
    rfl
  | finalize hc =>
    have hne := SocialRecovery.vault_ne_config hc.vaultData hc.configData
    exact guardianshipOf_clearConfig hc.address hne hc.configOwner hc.configData
  | cancel _ hc =>
    have hne := SocialRecovery.vault_ne_config hc.authorized.data hc.configData
    exact guardianshipOf_clearConfig hc.address hne hc.configOwner hc.configData

/-! ### The authorization behind an operation -/

/-- The vault is the first account of the instruction. -/
theorem Performs.head (h : Performs P inv m vault op m') : inv.accounts.head? = some vault := by
  cases h with
  | transferSol _ hc _ => rw [hc.accounts]; rfl
  | transferSpl _ hc _ => rw [hc.accounts]; rfl
  | rotateEd25519 _ hc _ => rw [hc.accounts]; rfl
  | rotateFalcon _ _ hc => rw [hc.accounts]; rfl
  | changePolicy _ hc => rw [hc.accounts]; rfl
  | setRecovery _ hc => rw [hc.accounts]; rfl
  | recoverEd25519 _ hc _ => rw [hc.accounts]; rfl
  | setConfig _ hc _ =>
    obtain ⟨_, _, haccounts⟩ := hc.accounts
    rw [haccounts]
    rfl
  | initiate _ hc => rw [hc.accounts]; rfl
  | finalize hc => rw [hc.accounts]; rfl
  | cancel _ hc => rw [hc.accounts]; rfl

/-- An operation of the owner was authorized for the action the payload presents. -/
theorem Performs.authorized (h : Performs P inv m vault op m') (hsigned : op.isSigned = true) :
    ∃ wire falconSig sysvar a auth, Presents inv.payload wire falconSig ∧ op.Signs wire.action ∧
      Authorized P inv m vault sysvar wire falconSig a auth := by
  cases h with
  | transferSol hp hc _ => exact ⟨_, _, _, _, _, hp, hc.action, hc.authorized⟩
  | transferSpl hp hc _ => exact ⟨_, _, _, _, _, hp, hc.action, hc.authorized⟩
  | rotateEd25519 hp hc _ => exact ⟨_, _, _, _, _, hp, hc.action, hc.authorized⟩
  | rotateFalcon hp _ hc => exact ⟨_, _, _, _, _, hp, hc.action, hc.authorized⟩
  | changePolicy hp hc =>
    exact ⟨_, _, _, _, _, hp, ⟨_, _, hc.action, hc.parsed, rfl⟩, hc.authorized⟩
  | setRecovery hp hc => exact ⟨_, _, _, _, _, hp, hc.action, hc.authorized⟩
  | recoverEd25519 hp hc _ => exact ⟨_, _, _, _, _, hp, hc.action, hc.authorized⟩
  | setConfig hp hc _ => exact ⟨_, _, _, _, _, hp, hc.action, hc.authorized⟩
  | initiate _ _ => exact absurd hsigned Bool.false_ne_true
  | finalize _ => exact absurd hsigned Bool.false_ne_true
  | cancel hp hc => exact ⟨_, _, _, _, _, hp, hc.action, hc.authorized⟩

/-! ### The invocations of an operation -/

/-- An operation signs an invocation only for the vault, in a token transfer, or for the
still empty recovery address, in creating the config. -/
theorem Performs.signers (h : Performs P inv m vault op m') {cpi : Cpi} (hcpi : cpi ∈ m'.cpis)
    (hnew : cpi ∉ m.cpis) {seeds : List (List UInt8)} (hseeds : seeds ∈ cpi.signers) :
    ∃ k, P.createProgramAddress seeds P.programId = some k ∧
      ((k = vault.key ∧ ∃ destination amount, op = .transferSpl destination amount) ∨
        m.data k = [] ∧ m.owner k = systemProgramId) := by
  -- clearing a proposal invokes no program
  have hclears {config : AccountInfo} {d : List UInt8}
      (hc : SocialRecovery.ClearsPending P (m.setData vault.key d) config m') : False := by
    obtain ⟨-, -, hcpis, -⟩ := hc.frame
    rw [hcpis, Machine.cpis_setData] at hcpi
    exact hnew hcpi
  cases h with
  | transferSol _ _ hmoves =>
    obtain ⟨-, -, hcpis, -⟩ := hmoves.frame
    rw [hcpis, Machine.cpis_setData] at hcpi
    exact absurd hcpi hnew
  | @transferSpl creator source mint destination tokenProgram _ _ _ amount a auth decimals _ _ hc
      hmoves =>
    obtain ⟨-, -, hcpis⟩ := hmoves.frame hc.checks.program
    rcases hcpis with hcpis | hcpis
    · rw [hcpis, Machine.cpis_setData] at hcpi
      exact absurd hcpi hnew
    · -- the one invocation is signed with the seeds the handler derived
      rw [hcpis, Machine.cpis_setData, List.mem_append, List.mem_singleton] at hcpi
      obtain rfl := hcpi.resolve_left hnew
      obtain rfl := List.mem_singleton.mp hseeds
      refine ⟨vault.key, ?_, Or.inl ⟨rfl, _, _, rfl⟩⟩
      have hcreate := hc.checks.seeds
      rwa [HybridAccount.fields_setNonce] at hcreate
  | rotateEd25519 _ _ hc => exact (hclears hc).elim
  | recoverEd25519 _ _ hc => exact (hclears hc).elim
  | @setConfig config _ _ _ _ _ _ bump _ _ m₁ _ hc hstores =>
    cases hstores with
    | created hnil hsystem _ htransfer _ _ _ =>
      obtain ⟨-, -, hcpis, -⟩ := systemTransfer_frame htransfer
      simp only [Machine.cpis_setData, Machine.cpis_allot, Machine.cpis_log, hcpis,
        List.mem_append, List.mem_cons, List.not_mem_nil, or_false] at hcpi
      -- the funding transfer is unsigned; the other two carry the config's seeds
      refine ⟨config.key, ?_, Or.inr ⟨hnil, hsystem⟩⟩
      rcases hcpi with (hcpi | rfl) | rfl | rfl
      · exact absurd hcpi hnew
      · exact absurd hseeds List.not_mem_nil
      · rw [List.mem_singleton.mp hseeds]
        exact hc.address.create
      · rw [List.mem_singleton.mp hseeds]
        exact hc.address.create
    | updated _ _ _ => exact absurd hcpi hnew
  | rotateFalcon _ _ _ => exact absurd hcpi hnew
  | changePolicy _ _ => exact absurd hcpi hnew
  | setRecovery _ _ => exact absurd hcpi hnew
  | initiate _ _ => exact absurd hcpi hnew
  | finalize _ => exact absurd hcpi hnew
  | cancel _ _ => exact absurd hcpi hnew

/-- Only a lamport transfer debits the vault, and down to the rent minimum at most. -/
theorem Performs.solvent (h : Performs P inv m vault op m') :
    m.lamports vault.key ≤ m'.lamports vault.key ∨
      inv.rent.minimumBalance accountDataLen ≤ m'.lamports vault.key := by
  have hf := h.frame
  have hv : m.owner vault.key = P.programId := by
    obtain ⟨a, a', he⟩ := h.effect
    exact he.owner
  -- the handler of a lamport transfer checks the rent minimum itself
  by_cases htransfer : ∀ r l, op ≠ .transferSol r l
  · exact Or.inl (hf.lamports vault.key hv fun _ => htransfer)
  · cases h with
    | transferSol _ _ hmoves =>
      cases hmoves with
      | none _ =>
        left
        rw [Machine.lamports_setData]
        exact UInt64.le_refl _
      | moved _ _ hrent _ =>
        right
        rwa [Machine.lamports_setLamports, if_pos rfl]
    | _ => exact absurd (fun _ _ h => by cases h) htransfer

/-- The vault keeps a balance. -/
theorem Performs.funded (h : Performs P inv m vault op m') (hl : m.lamports vault.key ≠ 0) :
    m'.lamports vault.key ≠ 0 := by
  rcases h.solvent with hle | hrent
  · exact ne_zero_of_le hle hl
  · exact ne_zero_of_le hrent (ne_zero_of_pos (inv.rentPos accountDataLen))

end Effects

/-! ### The creation of a vault -/

/-- The vault at `v` was created with the account `a`. -/
structure Creates (m : Machine) (v : Pubkey) (m' : Machine) (a : HybridAccount) : Prop where
  fresh : m.data v = []
  system : m.owner v = systemProgramId
  owner : m'.owner v = P.programId
  data : m'.data v = a.data
  funded : m'.lamports v ≠ 0
  other : ∀ k, k ≠ v → m'.owner k = m.owner k ∧ m'.data k = m.data k
  lamports : ∀ k, m.owner k = P.programId → m.lamports k ≤ m'.lamports k
  signers : ∀ cpi ∈ m'.cpis, cpi ∉ m.cpis → ∀ seeds ∈ cpi.signers,
    P.createProgramAddress seeds P.programId = some v

section Creation

variable {P} {inv : Invocation} {m m₁ : Machine} {creator vault : AccountInfo}

/-- After funding, the address holds the rent minimum, no account of the program has lost
lamports, and every signature was made for the address. -/
theorem Initialize.Funded.effect {seeds : List (List UInt8)}
    (h : Initialize.Funded P inv m creator.key vault.key seeds m₁)
    (hsystem : m.owner vault.key = systemProgramId)
    (hcreate : P.createProgramAddress seeds P.programId = some vault.key) :
    m₁.lamports vault.key ≠ 0 ∧ (∀ k, m.owner k = P.programId → m.lamports k ≤ m₁.lamports k) ∧
      ∀ cpi ∈ m₁.cpis, cpi ∉ m.cpis → ∀ seeds' ∈ cpi.signers,
        P.createProgramAddress seeds' P.programId = some vault.key := by
  cases h with
  | held hle =>
    exact ⟨ne_zero_of_le hle (ne_zero_of_pos (inv.rentPos accountDataLen)),
      fun _ _ => UInt64.le_refl _, fun cpi hcpi hnew => absurd hcpi hnew⟩
  | @paid shortfall m₁ _ hpos _ htransfer =>
    obtain ⟨-, -, hcpis, hothers, hreceived⟩ := systemTransfer_frame htransfer
    refine ⟨?_, fun k hk => ?_, fun cpi hcpi hnew seeds' hseeds' => ?_⟩
    · exact ne_zero_of_le hreceived (ne_zero_of_pos hpos)
    · -- creator and address are accounts of the system program, and `k` is not
      have haddress : k ≠ vault.key := by
        rintro rfl
        exact P.programId_ne_system (hk.symm.trans hsystem)
      rw [Machine.lamports_log,
        hothers k haddress (ne_zero_of_pos hpos) (hk ▸ P.programId_ne_system)]
      exact UInt64.le_refl _
    · rw [Machine.cpis_log, hcpis, List.mem_append, List.mem_singleton] at hcpi
      obtain rfl := hcpi.resolve_left hnew
      rw [List.mem_singleton.mp hseeds', hcreate]

theorem Initialize.Succeeds.creates {payload : List UInt8} {args : Initialize.Args} {bump : UInt8}
    {a : HybridAccount}
    (h : Initialize.Succeeds P inv payload m creator vault args bump m₁ a) :
    Creates P m vault.key ((m₁.allot P.programId vault.key (UInt64.ofNat accountDataLen)
      (Pda.signerSeeds creator.key args.accountIndex bump)).setData vault.key a.data) a := by
  have hcreate := Initialize.signerSeeds_create h.address
  obtain ⟨hdata, howner⟩ := h.funded.frame
  obtain ⟨hfunded, hlamports, hsigners⟩ := h.funded.effect h.system hcreate
  refine ⟨h.fresh, h.system, by simp, by simp, by simpa using hfunded, fun k hk => ?_,
    fun k hk => ?_, fun cpi hcpi hnew seeds hseeds => ?_⟩
  · simp [hk, hdata, howner]
  · simpa using hlamports k hk
  · rw [Machine.cpis_setData, Machine.cpis_allot, List.mem_append] at hcpi
    rcases hcpi with hcpi | hcpi
    · exact hsigners cpi hcpi hnew seeds hseeds
    · simp only [List.mem_cons, List.not_mem_nil, or_false] at hcpi
      rcases hcpi with rfl | rfl
      · rw [List.mem_singleton.mp hseeds, hcreate]
      · rw [List.mem_singleton.mp hseeds, hcreate]

end Creation

end DualKey
