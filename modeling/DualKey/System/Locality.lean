import DualKey.Foundations.Footprint
import DualKey.System.Operation

/-!
# An instruction reads and writes its own accounts

The outcome of an instruction depends on the accounts in its list alone, together with what its
transaction fixes; and of these it changes only accounts that some entry of the list marks
writable. Reading is settled along the text of the handlers: `Local` says that a program has one
outcome on all machines that agree on the listed accounts, and every handler is put together
from accesses to listed accounts by the rules of `Exec.Respects`. Writing is read off the
outcome of a successful instruction. The two make up the footprint of an instruction.
-/

namespace DualKey

variable (P : Platform)

/-- The addresses in an account list. -/
def listed (accounts : List AccountInfo) : Set Pubkey := {k | ∃ a ∈ accounts, a.key = k}

/-- The addresses an account list marks writable. -/
def writable (accounts : List AccountInfo) : Set Pubkey :=
  {k | ∃ a ∈ accounts, a.key = k ∧ a.isWritable = true}

/-- Two machines hold the same accounts at the listed addresses. -/
def AgreeOn (accounts : List AccountInfo) (m n : Machine) : Prop :=
  Set.EqOn m.accounts n.accounts (listed accounts)

/-- On machines that agree on the listed accounts the program has one outcome, and leaves
machines that agree on them. -/
def Local {α : Type} (accounts : List AccountInfo) (x : Prog α) : Prop :=
  Exec.Respects (fun env : Env => env.accounts = accounts) (AgreeOn accounts) x

section Agreement

variable {accounts : List AccountInfo} {m n : Machine} {k : Pubkey}

theorem AgreeOn.set (h : AgreeOn accounts m n) {a b : Account}
    (hab : k ∈ listed accounts → a = b) : AgreeOn accounts (m.set k a) (n.set k b) := by
  intro k' hk'
  rw [Machine.accounts_set, Machine.accounts_set]
  split
  · next heq => exact hab (heq ▸ hk')
  · exact h hk'

theorem AgreeOn.setData (h : AgreeOn accounts m n) (k : Pubkey) (d : List UInt8) :
    AgreeOn accounts (m.setData k d) (n.setData k d) :=
  h.set fun hk => by rw [h hk]

theorem AgreeOn.setLamports (h : AgreeOn accounts m n) (k : Pubkey) (l : UInt64) :
    AgreeOn accounts (m.setLamports k l) (n.setLamports k l) :=
  h.set fun hk => by rw [h hk]

theorem AgreeOn.setOwner (h : AgreeOn accounts m n) (k o : Pubkey) :
    AgreeOn accounts (m.setOwner k o) (n.setOwner k o) :=
  h.set fun hk => by rw [h hk]

theorem AgreeOn.log (h : AgreeOn accounts m n) (cpi : Cpi) :
    AgreeOn accounts (m.log cpi) (n.log cpi) := h

theorem AgreeOn.owner (h : AgreeOn accounts m n) (hk : k ∈ listed accounts) :
    m.owner k = n.owner k := congrArg Account.owner (h hk)

theorem AgreeOn.data (h : AgreeOn accounts m n) (hk : k ∈ listed accounts) :
    m.data k = n.data k := congrArg Account.data (h hk)

theorem AgreeOn.lamports (h : AgreeOn accounts m n) (hk : k ∈ listed accounts) :
    m.lamports k = n.lamports k := congrArg Account.lamports (h hk)

/-! ### Accesses -/

variable {a : AccountInfo} {α : Type}

theorem local_owner (ha : a.key ∈ listed accounts) : Local accounts a.owner :=
  .gets fun _ _ h => h.owner ha

theorem local_dataIsEmpty (ha : a.key ∈ listed accounts) : Local accounts a.dataIsEmpty :=
  .bind .ask fun _ => .bind (.panicUnless _) fun _ => .gets fun _ _ h => by rw [h.data ha]

theorem local_dataLen (ha : a.key ∈ listed accounts) : Local accounts a.dataLen :=
  .bind .ask fun _ => .bind (.panicUnless _) fun _ => .gets fun _ _ h => by rw [h.data ha]

theorem local_lamports (ha : a.key ∈ listed accounts) : Local accounts a.lamports :=
  .bind .ask fun _ => .bind (.panicUnless _) fun _ => .gets fun _ _ h => h.lamports ha

theorem local_tryBorrowData (ha : a.key ∈ listed accounts) (f : List UInt8 → DkRes α) :
    Local accounts (a.tryBorrowData f) :=
  .bind .ask fun _ => .bind (.failIf _ _) fun _ => .bind (.gets fun _ _ h => h.data ha) fun _ =>
    .lift _

theorem local_tryBorrowMutData (ha : a.key ∈ listed accounts)
    (f : List UInt8 → DkRes (List UInt8 × α)) : Local accounts (a.tryBorrowMutData f) :=
  .bind .ask fun _ => .bind (.failIf _ _) fun _ => .bind (.gets fun _ _ h => h.data ha) fun _ =>
    .bind (.lift _) fun _ => .bind (.modify fun _ _ h => h.setData _ _) fun _ => .pure _

theorem local_tryBorrowMutLamports (ha : a.key ∈ listed accounts) {f : UInt64 → Prog UInt64}
    (hf : ∀ l, Local accounts (f l)) : Local accounts (a.tryBorrowMutLamports f) :=
  .bind .ask fun _ => .bind (.failIf _ _) fun _ => .bind (.gets fun _ _ h => h.lamports ha)
    fun balance => .bind (.withEnv (fun _ h => h) (hf balance)) fun _ =>
      .modify fun _ _ h => h.setLamports _ _

theorem local_updateVault (ha : a.key ∈ listed accounts) (f : HybridAccount → DkRes HybridAccount) :
    Local accounts (a.updateVault f) :=
  local_tryBorrowMutData ha _

theorem local_updateConfig (ha : a.key ∈ listed accounts)
    (f : RecoveryConfig → DkRes (RecoveryConfig × α)) : Local accounts (a.updateConfig f) :=
  local_tryBorrowMutData ha _

end Agreement

/-! ### Invocations -/

section Invocations

variable {P} {accounts : List AccountInfo} {m n : Machine}

theorem systemTransfer_agree (h : AgreeOn accounts m n) {source target : Pubkey}
    (hs : source ∈ listed accounts) (ht : target ∈ listed accounts) (l : UInt64) :
    Option.Rel (AgreeOn accounts) (systemTransfer m source target l)
      (systemTransfer n source target l) := by
  simp only [systemTransfer, h.data hs, h.lamports hs, h.owner hs, Machine.lamports_setLamports,
    h.lamports ht]
  exact Option.rel_bind _ fun _ => Option.rel_bind _ fun rest => Option.rel_bind _ fun _ =>
    Option.rel_bind _ fun total => .some ((h.setLamports source rest).setLamports target total)

theorem systemAllocate_agree (h : AgreeOn accounts m n) {account : Pubkey}
    (ha : account ∈ listed accounts) (space : UInt64) :
    Option.Rel (AgreeOn accounts) (systemAllocate m account space)
      (systemAllocate n account space) := by
  simp only [systemAllocate, h.data ha, h.owner ha]
  exact Option.rel_bind _ fun _ => Option.rel_bind _ fun _ => Option.rel_bind _ fun _ =>
    .some (h.setData account _)

theorem systemAssign_agree (h : AgreeOn accounts m n) {account : Pubkey}
    (ha : account ∈ listed accounts) (owner : Pubkey) :
    Option.Rel (AgreeOn accounts) (systemAssign m account owner)
      (systemAssign n account owner) := by
  simp only [systemAssign, h.data ha, h.owner ha]
  split
  · exact .some h
  · exact Option.rel_bind _ fun _ => Option.rel_bind _ fun _ => .some (h.setOwner account owner)

theorem tokenTransferChecked_agree (h : AgreeOn accounts m n) {ix : Instruction}
    (hix : ∀ entry ∈ ix.accounts, entry.pubkey ∈ listed accounts) :
    Option.Rel (AgreeOn accounts) (tokenTransferChecked P m ix) (tokenTransferChecked P n ix) := by
  unfold tokenTransferChecked
  split
  · next source mint destination authority hmetas =>
    have hs : source.pubkey ∈ listed accounts := hix source (by simp [hmetas])
    have hm : mint.pubkey ∈ listed accounts := hix mint (by simp [hmetas])
    have hd : destination.pubkey ∈ listed accounts := hix destination (by simp [hmetas])
    simp only [h.owner hs, h.owner hd, h hs, h hm, h hd]
    refine Option.rel_bind _ fun _ => Option.rel_bind _ fun _ => Option.rel_bind _ fun states =>
      .some ?_
    exact (((h.setLamports _ _).setData _ _).setLamports _ _).setData _ _
  · exact .none

/-- A callee that is passed listed accounts looks at no others. -/
theorem runCallee_agree (h : AgreeOn accounts m n) {c : CpiInstruction}
    (hc : ∀ entry ∈ c.metas, entry.pubkey ∈ listed accounts) :
    Option.Rel (AgreeOn accounts) (runCallee P c m) (runCallee P c n) := by
  cases c with
  | transfer source target l =>
    exact systemTransfer_agree h (hc ⟨source, true, true⟩ (by simp [CpiInstruction.metas]))
      (hc ⟨target, false, true⟩ (by simp [CpiInstruction.metas])) l
  | allocate account space =>
    exact systemAllocate_agree h (hc ⟨account, true, true⟩ (by simp [CpiInstruction.metas])) space
  | assign account owner =>
    exact systemAssign_agree h (hc ⟨account, true, true⟩ (by simp [CpiInstruction.metas])) owner
  | token ix => exact tokenTransferChecked_agree h hc

theorem local_invokeSigned (c : CpiInstruction) (infos : List AccountInfo)
    (signers : List (List (List UInt8))) (e : DualKeyError) :
    Local accounts (invokeSigned P c infos signers e) := by
  refine .ask_bind fun env henv => .bind (.failIf _ _) fun _ => .calleeUnless_bind fun _ =>
    .calleeUnless_bind fun hpriv => .bind (.callee fun m n h => runCallee_agree h ?_) fun _ =>
      .modify fun _ _ h => h.log _
  -- the runtime refuses an invocation that names an account outside the list
  intro entry hentry
  obtain ⟨⟨a, ha, hkey⟩, -⟩ := hpriv entry hentry
  exact ⟨a, henv ▸ ha, hkey⟩

end Invocations

/-! ### Authorization and transfers -/

section Handlers

variable {P} {accounts : List AccountInfo}

@[simp] theorem mem_listed_cons {a : AccountInfo} {k : Pubkey} :
    k ∈ listed (a :: accounts) ↔ a.key = k ∨ k ∈ listed accounts := by
  simp [listed]

theorem local_reconstructAndDigest {vault : AccountInfo} (hv : vault.key ∈ listed accounts)
    (wire : ExecuteIntentWire) : Local accounts (reconstructAndDigest P vault wire) :=
  .bind (local_owner hv) fun _ => .bind (.failIf _ _) fun _ =>
    .bind (local_tryBorrowData hv _) fun _ => .bind (.lift _) fun _ => .pure _

/-- Authorization reads the vault account and nothing else. -/
theorem local_authorize {vault : AccountInfo} (hv : vault.key ∈ listed accounts)
    (sysvar : AccountInfo) (wire : ExecuteIntentWire) (falconSig : List UInt8) :
    Local accounts (authorize P vault sysvar wire falconSig) :=
  .bind (.failIf _ _) fun _ => .bind .ask fun _ => .bind (.failIf _ _) fun _ =>
    .bind (local_reconstructAndDigest hv wire) fun ⟨_, _⟩ =>
    .bind (local_tryBorrowData hv _) fun ⟨_, _, _, _, _, _⟩ => .bind (.failIf _ _) fun _ =>
    .bind (.okOr _ _) fun _ => .bind (.lift _) fun _ => .bind (.lift _) fun _ =>
    .bind (.lift _) fun _ => .pure _

namespace Execute

theorem local_transferSol {vault recipient : AccountInfo} (hv : vault.key ∈ listed accounts)
    (hr : recipient.key ∈ listed accounts) (amount : UInt64) :
    Local accounts (transferSol vault recipient amount) :=
  .ite (.pure _) <| .bind .ask fun _ => .bind (local_lamports hv) fun _ =>
    .bind (.okOr _ _) fun _ => .bind (.failIf _ _) fun _ =>
    local_tryBorrowMutLamports hv fun _ =>
      .bind (local_tryBorrowMutLamports hr fun _ => .okOr _ _) fun _ => .pure _

theorem local_processTransferSol (wire : ExecuteIntentWire) (falconSig : List UInt8)
    (expected : Pubkey) (amount : UInt64) :
    Local accounts (processTransferSol P accounts wire falconSig expected amount) := by
  refine .liftM_bind ?_
  rintro ⟨vault, recipient, sysvar⟩ h
  obtain rfl := threeAccounts_eq_ok.mp h
  exact .bind (.failIf _ _) fun _ => .bind (.failIf _ _) fun _ => .bind (.failIf _ _) fun _ =>
    .bind (local_authorize (by simp) _ _ _) fun _ => .bind (local_updateVault (by simp) _) fun _ =>
    local_transferSol (by simp) (by simp) _

end Execute

theorem SplToken.local_transferSpl
    {vault creator source mint destination tokenProgram : AccountInfo}
    (hv : vault.key ∈ listed accounts) (hs : source.key ∈ listed accounts)
    (hm : mint.key ∈ listed accounts) (hd : destination.key ∈ listed accounts) (amount : UInt64)
    (expected : Pubkey) :
    Local accounts (transferSpl P vault creator source mint destination tokenProgram amount
      expected) :=
  .bind (.failIf _ _) fun _ => .bind (.failIf _ _) fun _ => .bind (.failIf _ _) fun _ =>
    .bind (local_owner hs) fun _ => .bind (local_owner hd) fun _ => .bind (local_owner hm) fun _ =>
    .bind (.failIf _ _) fun _ => .bind (.failIf _ _) fun _ =>
    .bind (local_tryBorrowData hv _) fun ⟨_, _⟩ => .bind (.okOr _ _) fun _ =>
    .bind (.failIf _ _) fun _ => .bind (local_tryBorrowData hm _) fun _ =>
    .bind (local_tryBorrowData hs _) fun _ => .bind (local_tryBorrowData hd _) fun _ =>
    .ite (.pure _) (local_invokeSigned _ _ _ _)

namespace Execute

theorem local_processTransferSpl (wire : ExecuteIntentWire) (falconSig : List UInt8)
    (expected : Pubkey) (amount : UInt64) :
    Local accounts (processTransferSpl P accounts wire falconSig expected amount) := by
  refine .liftM_bind ?_
  rintro ⟨vault, creator, source, mint, destination, tokenProgram, sysvar⟩ h
  obtain rfl := sevenAccounts_eq_ok.mp h
  exact .bind (.failIf _ _) fun _ => .bind (local_authorize (by simp) _ _ _) fun _ =>
    .bind (local_updateVault (by simp) _) fun _ =>
    SplToken.local_transferSpl (by simp) (by simp) (by simp) (by simp) _ _

theorem local_process (payload : List UInt8) : Local accounts (process P accounts payload) := by
  refine .bind (.failIf _ _) fun _ => .bind (.lift _) fun ⟨_, _⟩ => .bind (.lift _) fun wire => ?_
  cases wire.action with
  | transferSol recipient lamports => exact local_processTransferSol _ _ _ _
  | transferSpl destination amount => exact local_processTransferSpl _ _ _ _
  | _ => exact .fail _

end Execute

/-! ### Keys, policy and recovery -/

theorem SocialRecovery.local_clearPending {config : AccountInfo}
    (hc : config.key ∈ listed accounts) (vault : Pubkey) :
    Local accounts (clearPendingAfterEd25519OwnerChange P vault config) :=
  .bind (.lift _) fun _ => .bind (local_dataIsEmpty hc) fun _ => .ite (.pure _) <|
    .bind (local_owner hc) fun _ => .bind (.failIf _ _) fun _ => .bind (.failIf _ _) fun _ =>
    local_updateConfig hc _

namespace Rotate

theorem local_processRotateEd25519 (payload : List UInt8) :
    Local accounts (processRotateEd25519 P accounts payload) := by
  refine .bind (.failIf _ _) fun _ => .liftM_bind ?_
  rintro ⟨vault, config, sysvar⟩ h
  obtain rfl := threeAccounts_eq_ok.mp h
  exact .bind (.failIf _ _) fun _ => .bind (.lift _) fun ⟨_, _⟩ => .bind (.lift _) fun _ =>
    .bind (.okOr _ _) fun _ => .bind (local_tryBorrowData (by simp) _) fun _ =>
    .bind (.failIf _ _) fun _ => .bind (local_authorize (by simp) _ _ _) fun _ =>
    .bind (local_updateVault (by simp) _) fun _ => SocialRecovery.local_clearPending (by simp) _

theorem local_processRotateFalcon (payload : List UInt8) :
    Local accounts (processRotateFalcon P accounts payload) := by
  refine .bind (.failIf _ _) fun _ => .liftM_bind ?_
  rintro ⟨vault, sysvar⟩ h
  obtain rfl := twoAccounts_eq_ok.mp h
  exact .bind (.failIf _ _) fun _ => .bind (.lift _) fun ⟨_, _, _, _⟩ => .bind (.lift _) fun _ =>
    .bind (.okOr _ _) fun _ => .bind (.failIf _ _) fun _ =>
    .bind (local_tryBorrowData (by simp) _) fun _ => .bind (.failIf _ _) fun _ =>
    .bind (local_authorize (by simp) _ _ _) fun _ => .bind (.lift _) fun _ =>
    .bind (.lift _) fun _ => local_updateVault (by simp) _

end Rotate

theorem ChangePolicy.local_process (payload : List UInt8) :
    Local accounts (process P accounts payload) := by
  refine .bind (.failIf _ _) fun _ => .liftM_bind ?_
  rintro ⟨vault, sysvar⟩ h
  obtain rfl := twoAccounts_eq_ok.mp h
  exact .bind (.failIf _ _) fun _ => .bind (.lift _) fun ⟨_, _⟩ => .bind (.lift _) fun _ =>
    .bind (.okOr _ _) fun ⟨_, _⟩ => .bind (.okOr _ _) fun _ => .bind (.failIf _ _) fun _ =>
    .bind (local_tryBorrowData (by simp) _) fun ⟨_, _⟩ => .bind (.failIf _ _) fun _ =>
    .bind (local_authorize (by simp) _ _ _) fun _ => local_updateVault (by simp) _

namespace Recover

theorem local_processFlag (wire : ExecuteIntentWire) (falconSig : List UInt8) (op : RecoveryOp)
    (newEd25519 : Pubkey) :
    Local accounts (processFlag P accounts wire falconSig op newEd25519) := by
  refine .liftM_bind ?_
  rintro ⟨vault, sysvar⟩ h
  obtain rfl := twoAccounts_eq_ok.mp h
  exact .bind (.failIf _ _) fun _ => .bind (.failIf _ _) fun _ =>
    .bind (local_authorize (by simp) _ _ _) fun _ => local_updateVault (by simp) _

theorem local_processRotate (wire : ExecuteIntentWire) (falconSig : List UInt8) (op : RecoveryOp)
    (newEd25519 : Pubkey) :
    Local accounts (processRotate P accounts wire falconSig op newEd25519) := by
  refine .liftM_bind ?_
  rintro ⟨vault, config, sysvar⟩ h
  obtain rfl := threeAccounts_eq_ok.mp h
  exact .bind (.failIf _ _) fun _ => .bind (local_tryBorrowData (by simp) _) fun _ =>
    .bind (.failIf _ _) fun _ => .bind (local_authorize (by simp) _ _ _) fun _ =>
    .bind (local_updateVault (by simp) _) fun _ => SocialRecovery.local_clearPending (by simp) _

theorem local_process (payload : List UInt8) : Local accounts (process P accounts payload) := by
  refine .bind (.failIf _ _) fun _ => .bind (.lift _) fun ⟨_, _⟩ => .bind (.lift _) fun _ =>
    .bind (.okOr _ _) fun ⟨op, _⟩ => ?_
  cases op with
  | enable => exact local_processFlag _ _ _ _
  | disable => exact local_processFlag _ _ _ _
  | rotateEd25519 => exact local_processRotate _ _ _ _

end Recover

/-! ### Social recovery -/

namespace SocialRecovery

theorem local_createRecoveryConfigAccount {config : AccountInfo}
    (hc : config.key ∈ listed accounts) (payer : AccountInfo) (vault : Pubkey) (bump : UInt8) :
    Local accounts (createRecoveryConfigAccount P payer config vault bump) :=
  .bind (local_dataIsEmpty hc) fun _ => .bind (.failIf _ _) fun _ => .bind .ask fun _ =>
    .bind (local_invokeSigned _ _ _ _) fun _ => .bind (local_invokeSigned _ _ _ _) fun _ =>
    local_invokeSigned _ _ _ _

theorem local_storeRecoveryConfig {config : AccountInfo} (hc : config.key ∈ listed accounts)
    (payer : AccountInfo) (vault : Pubkey) (bump : UInt8) (guardian : Pubkey) (delay : UInt64) :
    Local accounts (storeRecoveryConfig P payer config vault bump guardian delay) :=
  .bind (local_dataIsEmpty hc) fun _ => .ite
    (.bind (local_createRecoveryConfigAccount hc _ _ _) fun _ => local_tryBorrowMutData hc _)
    (.bind (local_owner hc) fun _ => .bind (.failIf _ _) fun _ => local_updateConfig hc _)

theorem local_processSetRecoveryConfig (payload : List UInt8) :
    Local accounts (processSetRecoveryConfig P accounts payload) := by
  refine .bind (.failIf _ _) fun _ => .liftM_bind ?_
  rintro ⟨vault, config, payer, systemProgram, sysvar⟩ h
  obtain rfl := fiveAccounts_eq_ok.mp h
  exact .bind (.failIf _ _) fun _ => .bind (.failIf _ _) fun _ => .bind (.failIf _ _) fun _ =>
    .bind (local_owner (by simp)) fun _ => .bind (.failIf _ _) fun _ =>
    .bind (local_dataLen (by simp)) fun _ => .bind (.failIf _ _) fun _ => .bind (.lift _) fun _ =>
    .bind (.lift _) fun ⟨_, _⟩ => .bind (.lift _) fun _ => .bind (.okOr _ _) fun ⟨_, _⟩ =>
    .bind (.failIf _ _) fun _ => .bind (.failIf _ _) fun _ =>
    .bind (local_authorize (by simp) _ _ _) fun _ =>
    .bind (local_storeRecoveryConfig (by simp) _ _ _ _ _) fun _ => local_updateVault (by simp) _

theorem local_processInitiateSocialRecovery (payload : List UInt8) :
    Local accounts (processInitiateSocialRecovery P accounts payload) := by
  refine .bind (.failIf _ _) fun _ => .liftM_bind ?_
  rintro ⟨vault, config, sysvar⟩ h
  obtain rfl := threeAccounts_eq_ok.mp h
  exact .bind (.failIf _ _) fun _ => .bind (local_owner (by simp)) fun _ =>
    .bind (local_owner (by simp)) fun _ => .bind (.failIf _ _) fun _ => .bind (.lift _) fun _ =>
    .bind (.lift _) fun _ => .bind (.failIf _ _) fun _ =>
    .bind (local_tryBorrowData (by simp) _) fun ⟨_, _⟩ => .bind (.failIf _ _) fun _ =>
    .bind (local_tryBorrowData (by simp) _) fun _ => .bind .ask fun _ => .bind (.lift _) fun _ =>
    local_updateConfig (by simp) _

theorem local_processFinalizeSocialRecovery (payload : List UInt8) :
    Local accounts (processFinalizeSocialRecovery P accounts payload) := by
  refine .bind (.failIf _ _) fun _ => .liftM_bind ?_
  rintro ⟨vault, config⟩ h
  obtain rfl := twoAccounts_eq_ok.mp h
  exact .bind (.failIf _ _) fun _ => .bind (local_owner (by simp)) fun _ =>
    .bind (local_owner (by simp)) fun _ => .bind (.failIf _ _) fun _ => .bind (.lift _) fun _ =>
    .bind (local_tryBorrowData (by simp) _) fun _ => .bind .ask fun _ =>
    .bind (local_updateConfig (by simp) _) fun _ => local_updateVault (by simp) _

theorem local_processCancelSocialRecovery (payload : List UInt8) :
    Local accounts (processCancelSocialRecovery P accounts payload) := by
  refine .bind (.failIf _ _) fun _ => .liftM_bind ?_
  rintro ⟨vault, config, sysvar⟩ h
  obtain rfl := threeAccounts_eq_ok.mp h
  exact .bind (.failIf _ _) fun _ => .bind (local_owner (by simp)) fun _ =>
    .bind (local_owner (by simp)) fun _ => .bind (.failIf _ _) fun _ => .bind (.lift _) fun _ =>
    .bind (local_tryBorrowData (by simp) _) fun _ => .bind (.lift _) fun ⟨_, _⟩ =>
    .bind (.lift _) fun _ => .bind (.failIf _ _) fun _ =>
    .bind (local_authorize (by simp) _ _ _) fun _ =>
    .bind (local_updateConfig (by simp) _) fun _ => local_updateVault (by simp) _

end SocialRecovery

/-! ### Creation, harness and dispatch -/

namespace Initialize

theorem local_createPdaAccount {vault : AccountInfo} (hv : vault.key ∈ listed accounts)
    (creator : AccountInfo) (accountIndex : UInt32) (bump : UInt8) :
    Local accounts (createPdaAccount P creator vault accountIndex bump) :=
  .bind .ask fun _ => .bind (local_lamports hv) fun _ =>
    .bind (.ite (local_invokeSigned _ _ _ _) (.pure _)) fun _ =>
    .bind (local_invokeSigned _ _ _ _) fun _ => local_invokeSigned _ _ _ _

theorem local_process (payload : List UInt8) : Local accounts (process P accounts payload) := by
  refine .bind (.lift _) fun _ => .liftM_bind ?_
  rintro ⟨creator, vault, systemProgram⟩ h
  obtain rfl := threeAccounts_eq_ok.mp h
  exact .bind (.failIf _ _) fun _ => .bind (.failIf _ _) fun _ => .bind (.lift _) fun _ =>
    .bind (local_dataIsEmpty (by simp)) fun _ => .bind (.failIf _ _) fun _ =>
    .bind (local_createPdaAccount (by simp) _ _ _) fun _ => local_tryBorrowMutData (by simp) _

end Initialize

theorem mem_listed_of_head? {a : AccountInfo} (h : accounts.head? = some a) :
    a.key ∈ listed accounts :=
  ⟨a, List.mem_of_head? h, rfl⟩

theorem local_processReconstructCanonicalDigest (payload : List UInt8) :
    Local accounts (processReconstructCanonicalDigest P accounts payload) :=
  .bind (.failIf _ _) fun _ => .okOr_bind fun _ h => .bind (.okOr _ _) fun ⟨_, _⟩ =>
    .bind (.lift _) fun _ => .bind (.failIf _ _) fun _ =>
    .bind (local_reconstructAndDigest (mem_listed_of_head? h) _) fun ⟨_, _⟩ => .failIf _ _

theorem local_processVerifyFalconPrepared (payload : List UInt8) :
    Local accounts (processVerifyFalconPrepared P accounts payload) :=
  .okOr_bind fun _ h => .bind (.okOr _ _) fun ⟨_, _⟩ =>
    local_tryBorrowData (mem_listed_of_head? h) _

theorem local_processVerifyFalconRaw (payload : List UInt8) :
    Local accounts (processVerifyFalconRaw P payload) :=
  .bind (.okOr _ _) fun ⟨_, _⟩ => .bind (.okOr _ _) fun ⟨_, _⟩ => .lift _

theorem local_processVerifyCanonicalDigest (payload : List UInt8) :
    Local accounts (processVerifyCanonicalDigest P payload) :=
  .bind (.failIf _ _) fun _ => .bind (.lift _) fun _ => .failIf _ _

namespace Processor

theorem local_handler (ix : DualKeyInstruction) (payload : List UInt8) :
    Local accounts (handler P ix accounts payload) := by
  cases ix with
  | initializeAccount => exact Initialize.local_process payload
  | execute => exact Execute.local_process payload
  | rotateEd25519Key => exact Rotate.local_processRotateEd25519 payload
  | rotateFalconKey => exact Rotate.local_processRotateFalcon payload
  | changePolicy => exact ChangePolicy.local_process payload
  | recoverAccount => exact Recover.local_process payload
  | setRecoveryConfig => exact SocialRecovery.local_processSetRecoveryConfig payload
  | initiateSocialRecovery => exact SocialRecovery.local_processInitiateSocialRecovery payload
  | finalizeSocialRecovery => exact SocialRecovery.local_processFinalizeSocialRecovery payload
  | cancelSocialRecovery => exact SocialRecovery.local_processCancelSocialRecovery payload
  | verifyFalconPrepared => exact local_processVerifyFalconPrepared payload
  | verifyFalconRaw => exact local_processVerifyFalconRaw payload
  | verifyCanonicalDigest => exact local_processVerifyCanonicalDigest payload
  | reconstructCanonicalDigest => exact local_processReconstructCanonicalDigest payload

/-- **An instruction reads the accounts in its list and no others.** -/
theorem local_process (data : List UInt8) : Local accounts (process P accounts data) := by
  cases data with
  | nil => exact .fail _
  | cons discriminator payload => exact .bind (.okOr _ _) fun ix => local_handler ix payload

end Processor

end Handlers

/-! ### Writing -/

/-- Every account that differs is marked writable by the list. -/
def WritesOnly (accounts : List AccountInfo) (m m' : Machine) : Prop :=
  Set.EqOn m'.accounts m.accounts (writable accounts)ᶜ

section Writing

variable {P} {inv : Invocation} {accounts : List AccountInfo} {m m₁ m' : Machine} {k : Pubkey}

theorem WritesOnly.refl (m : Machine) : WritesOnly accounts m m := Set.eqOn_refl _ _

theorem WritesOnly.set (h : WritesOnly accounts m m') (hk : k ∈ writable accounts) (a : Account) :
    WritesOnly accounts m (m'.set k a) := by
  intro k' hk'
  have hne : k' ≠ k := fun heq => hk' (heq ▸ hk)
  rw [Machine.accounts_set, if_neg hne]
  exact h hk'

theorem WritesOnly.setData (h : WritesOnly accounts m m') (hk : k ∈ writable accounts)
    (d : List UInt8) : WritesOnly accounts m (m'.setData k d) := h.set hk _

theorem WritesOnly.setLamports (h : WritesOnly accounts m m') (hk : k ∈ writable accounts)
    (l : UInt64) : WritesOnly accounts m (m'.setLamports k l) := h.set hk _

theorem WritesOnly.log (h : WritesOnly accounts m m') (cpi : Cpi) :
    WritesOnly accounts m (m'.log cpi) := h

theorem WritesOnly.allot (h : WritesOnly accounts m m') (hk : k ∈ writable accounts)
    (owner : Pubkey) (space : UInt64) (seeds : List (List UInt8)) :
    WritesOnly accounts m (m'.allot owner k space seeds) :=
  (h.setData hk (List.replicate space.toNat 0)).set hk _

theorem mem_writable {a : AccountInfo} {l : List AccountInfo} (hl : accounts = l) (ha : a ∈ l)
    (h : a.isWritable = true) : a.key ∈ writable accounts :=
  ⟨a, hl ▸ ha, rfl, h⟩

/-- The runtime lets an invocation write what the list marks writable. -/
theorem Privileged.mem_writable {signers : List (List (List UInt8))} {isSigner : Bool}
    (h : Privileged P inv signers ⟨k, isSigner, true⟩) : k ∈ writable inv.accounts := by
  obtain ⟨a, ha, hkey, hwritable⟩ := h.2.1 rfl
  exact ⟨a, ha, hkey, hwritable⟩

theorem WritesOnly.systemTransfer {source target : Pubkey} {l : UInt64}
    (h : WritesOnly accounts m m₁) (hs : source ∈ writable accounts)
    (ht : target ∈ writable accounts) (htransfer : systemTransfer m₁ source target l = some m') :
    WritesOnly accounts m m' := by
  obtain ⟨-, -, rest, total, -, -, rfl⟩ := systemTransfer_eq_some.mp htransfer
  exact (h.setLamports hs rest).setLamports ht total

theorem WritesOnly.movesSpl {vault creator source mint destination tokenProgram : AccountInfo}
    {amount : UInt64} {a : HybridAccount} {decimals : UInt8} (h : WritesOnly inv.accounts m m₁)
    (hmoves : Execute.MovesSpl P inv m₁ amount
      (Execute.splCpi vault creator source mint destination tokenProgram amount a decimals) m') :
    WritesOnly inv.accounts m m' := by
  cases hmoves with
  | none _ => exact h
  | moved _ hpriv hcall =>
    -- the callee is passed the four token accounts, the first and the third to be written
    have hmetas : (Execute.splCpi vault creator source mint destination tokenProgram amount a
        decimals).instruction.metas = [⟨source.key, false, true⟩, ⟨mint.key, false, false⟩,
          ⟨destination.key, false, true⟩, ⟨vault.key, true, false⟩] :=
      SplToken.transferCheckedInstruction_accounts ..
    rw [hmetas] at hpriv
    have hs : source.key ∈ writable inv.accounts :=
      (hpriv ⟨source.key, false, true⟩ (by simp)).mem_writable
    have hd : destination.key ∈ writable inv.accounts :=
      (hpriv ⟨destination.key, false, true⟩ (by simp)).mem_writable
    obtain ⟨_, _, -, -, -, rfl⟩ := tokenTransferChecked_of_accounts
      (SplToken.transferCheckedInstruction_accounts ..) hcall
    exact ((((h.setLamports hs _).setData hs _).setLamports hd _).setData hd _).log _

theorem WritesOnly.clearsPending {config : AccountInfo} (h : WritesOnly accounts m m₁)
    (hc : config ∈ accounts) (hclears : SocialRecovery.ClearsPending P m₁ config m') :
    WritesOnly accounts m m' := by
  cases hclears with
  | absent _ => exact h
  | cleared _ hwritable _ => exact h.setData (mem_writable rfl hc hwritable) _

/-- An operation writes only accounts the list marks writable. -/
theorem Performs.writesOnly {vault : AccountInfo} {op : VaultOp}
    (h : Performs P inv m vault op m') : WritesOnly inv.accounts m m' := by
  cases h with
  | transferSol _ hc hmoves =>
    have hv := mem_writable hc.accounts (by simp) hc.vaultWritable
    have hr := mem_writable hc.accounts (by simp) hc.recipientWritable
    cases hmoves with
    | none _ => exact (WritesOnly.refl m).setData hv _
    | moved _ _ _ _ =>
      exact (((WritesOnly.refl m).setData hv _).setLamports hr _).setLamports hv _
  | transferSpl _ hc hmoves =>
    have hv := mem_writable hc.accounts (by simp) hc.vaultWritable
    exact ((WritesOnly.refl m).setData hv _).movesSpl hmoves
  | rotateEd25519 _ hc hclears =>
    have hv := mem_writable hc.accounts (by simp) hc.vaultWritable
    exact ((WritesOnly.refl m).setData hv _).clearsPending (hc.accounts ▸ by simp) hclears
  | rotateFalcon _ _ hc =>
    exact (WritesOnly.refl m).setData (mem_writable hc.accounts (by simp) hc.vaultWritable) _
  | changePolicy _ hc =>
    exact (WritesOnly.refl m).setData (mem_writable hc.accounts (by simp) hc.vaultWritable) _
  | setRecovery _ hc =>
    exact (WritesOnly.refl m).setData (mem_writable hc.accounts (by simp) hc.vaultWritable) _
  | recoverEd25519 _ hc hclears =>
    have hv := mem_writable hc.accounts (by simp) hc.vaultWritable
    exact ((WritesOnly.refl m).setData hv _).clearsPending (hc.accounts ▸ by simp) hclears
  -- three accounts are written when a config is created, the payer among them
  | @setConfig config payer _ _ _ _ _ _ _ _ _ _ hc hstores =>
    obtain ⟨systemProgram, -, haccounts⟩ := hc.accounts
    have hv := mem_writable haccounts (by simp) hc.vaultWritable
    have hconfig := mem_writable haccounts (by simp) hc.configWritable
    cases hstores with
    | created _ _ hpayer htransfer _ _ _ =>
      have hp := (hpayer ⟨payer.key, true, true⟩ (by simp [CpiInstruction.metas])).mem_writable
      have hpaid := (WritesOnly.refl m).systemTransfer hp hconfig htransfer
      exact (((hpaid.log _).allot hconfig _ _ _).setData hconfig _).setData hv _
    | updated _ _ _ => exact ((WritesOnly.refl m).setData hconfig _).setData hv _
  | initiate _ hc =>
    exact (WritesOnly.refl m).setData (mem_writable hc.accounts (by simp) hc.configWritable) _
  | finalize hc =>
    have hv := mem_writable hc.accounts (by simp) hc.vaultWritable
    have hconfig := mem_writable hc.accounts (by simp) hc.configWritable
    exact ((WritesOnly.refl m).setData hconfig _).setData hv _
  | cancel _ hc =>
    have hv := mem_writable hc.accounts (by simp) hc.vaultWritable
    have hconfig := mem_writable hc.accounts (by simp) hc.configWritable
    exact ((WritesOnly.refl m).setData hconfig _).setData hv _

/-- So does the creation of a vault. -/
theorem Initialize.Succeeds.writesOnly {payload : List UInt8} {creator vault : AccountInfo}
    {args : Initialize.Args} {bump : UInt8} {a : HybridAccount}
    (h : Initialize.Succeeds P inv payload m creator vault args bump m₁ a) :
    WritesOnly inv.accounts m ((m₁.allot P.programId vault.key (UInt64.ofNat accountDataLen)
      (Pda.signerSeeds creator.key args.accountIndex bump)).setData vault.key a.data) := by
  have hv := h.privileged.mem_writable
  have hfunded : WritesOnly inv.accounts m m₁ := by
    cases h.funded with
    | held _ => exact .refl m
    | paid _ _ hpriv htransfer =>
      have hcreator : creator.key ∈ writable inv.accounts :=
        (hpriv ⟨creator.key, true, true⟩ (by simp [CpiInstruction.metas])).mem_writable
      exact ((WritesOnly.refl m).systemTransfer hcreator hv htransfer).log _
  exact (hfunded.allot hv _ _ _).setData hv _

/-- **An instruction writes only accounts its list marks writable.** -/
theorem Outcome.writesOnly (h : Outcome P inv m m') : WritesOnly inv.accounts m m' := by
  cases h with
  | harness _ _ => exact .refl m
  | created _ hs => exact hs.writesOnly
  | performed hp _ => exact hp.writesOnly

end Writing

end DualKey
