import DualKey.Foundations.Ledger
import DualKey.Properties.NonceAccounting
import Mathlib.Algebra.Ring.Nat
import Mathlib.Data.FinEnum
import Mathlib.Data.Fintype.Vector

/-!
# Solvency

Lamports are moved in three ways: the system program pays for a new account, a token
program settles between source and destination, and a vault pays a recipient directly. Each
keeps the total (`Performs.total`, `Step.total`). A vault pays only by a signed lamport
transfer, by exactly its amount and never below the rent minimum, so from its creation on it
stays solvent, and what it has paid over a run is what its owner has signed.
-/

namespace DualKey

open Transition

/-! ### The total of all balances -/

/-- The balance of every account. -/
def Machine.balances (m : Machine) (k : Pubkey) : ℕ := (m.lamports k).toNat

/-- The lamports of all accounts. -/
def Machine.total (m : Machine) : ℕ := Ledger.total m.balances

section Balances

variable (m : Machine) (k : Pubkey)

@[simp] theorem Machine.balances_setLamports (l : UInt64) :
    (m.setLamports k l).balances = Function.update m.balances k l.toNat := by
  funext k'
  rw [balances, lamports_setLamports, Function.update_apply]
  split <;> rfl

@[simp] theorem Machine.balances_setData (d : List UInt8) :
    (m.setData k d).balances = m.balances := by
  funext k'
  rw [balances, lamports_setData, balances]

@[simp] theorem Machine.balances_log (cpi : Cpi) : (m.log cpi).balances = m.balances := rfl
@[simp] theorem Machine.balances_begin : m.begin.balances = m.balances := rfl

@[simp] theorem Machine.balances_allot (owner : Pubkey) (space : UInt64)
    (seeds : List (List UInt8)) : (m.allot owner k space seeds).balances = m.balances := by
  funext k'
  rw [balances, lamports_allot, balances]

end Balances

variable {P : Platform} {inv : Invocation} {m m' : Machine} {v : Pubkey} {l : Label}
  {op : VaultOp} {vault : AccountInfo}

theorem Machine.total_congr (h : m'.balances = m.balances) : m'.total = m.total := by
  rw [total, h, total]

/-- The system program moves lamports, also from an account to itself. -/
theorem systemTransfer_total {source target : Pubkey} {lamports : UInt64}
    (h : systemTransfer m source target lamports = some m') : m'.total = m.total := by
  obtain ⟨-, -, rest, total, hrest, htotal, rfl⟩ := systemTransfer_eq_some.mp h
  rw [Machine.total, Machine.balances_setLamports, Machine.balances_setLamports]
  refine Ledger.total_pay hrest ?_
  rw [← Machine.balances_setLamports]
  exact htotal

/-- A token program keeps the sum of the two balances it settles. -/
theorem tokenTransferChecked_total {ix : Instruction}
    {source mint destination authority : AccountMeta}
    (hix : ix.accounts = [source, mint, destination, authority])
    (hne : source.pubkey ≠ destination.pubkey) (h : tokenTransferChecked P m ix = some m') :
    m'.total = m.total := by
  -- the program may settle the two as it likes, as long as the sum stays
  obtain ⟨s', d', -, -, hcall, rfl⟩ := tokenTransferChecked_of_accounts hix h
  have hsum := P.transferChecked_lamports _ _ _ _ _ _ hcall
  rw [Machine.total]
  simp only [Machine.balances_setData, Machine.balances_setLamports]
  exact Ledger.total_exchange hne hsum

theorem Execute.MovesSol.total {vault recipient : Pubkey} {amount : UInt64}
    (hne : recipient ≠ vault) (h : MovesSol inv m vault recipient amount m') :
    m'.total = m.total := by
  cases h with
  | none _ => rfl
  | @moved remaining total _ hremaining _ htotal =>
    rw [Machine.total, Machine.balances_setLamports, Machine.balances_setLamports]
    refine Ledger.total_exchange hne ?_
    rw [Machine.balances, Machine.balances]
    omega

theorem Execute.MovesSpl.total {vault creator source mint destination tokenProgram : AccountInfo}
    {amount : UInt64} {a : HybridAccount} {decimals : UInt8}
    (hne : source.key ≠ destination.key)
    (h : MovesSpl P inv m amount
      (splCpi vault creator source mint destination tokenProgram amount a decimals) m') :
    m'.total = m.total := by
  rcases h.transferred with rfl | ⟨m₁, htransfer, rfl⟩
  · rfl
  · rw [Machine.total_congr (Machine.balances_log _ _)]
    exact tokenTransferChecked_total (SplToken.transferCheckedInstruction_accounts ..) hne htransfer

theorem SocialRecovery.ClearsPending.total {config : AccountInfo}
    (h : ClearsPending P m config m') : m'.total = m.total := by
  obtain ⟨-, hlamports, -⟩ := h.frame
  refine Machine.total_congr (funext fun k => ?_)
  rw [Machine.balances, hlamports, Machine.balances]

theorem SocialRecovery.StoresConfig.total {payer config : AccountInfo} {vault guardian : Pubkey}
    {bump : UInt8} {delay : UInt64}
    (h : StoresConfig P inv m payer config vault bump guardian delay m') : m'.total = m.total := by
  cases h with
  | @created m₁ c _ _ _ htransfer _ _ _ =>
    rw [← systemTransfer_total htransfer]
    exact Machine.total_congr (by simp)
  | updated _ _ _ => exact Machine.total_congr (by simp)

theorem Initialize.Funded.total {creator vault : Pubkey} {seeds : List (List UInt8)}
    (h : Funded P inv m creator vault seeds m') : m'.total = m.total := by
  cases h with
  | held _ => rfl
  | paid _ _ _ htransfer =>
    rw [← systemTransfer_total htransfer]
    exact Machine.total_congr (Machine.balances_log _ _)

/-- An operation keeps the total of all balances. -/
theorem Performs.total (h : Performs P inv m vault op m') : m'.total = m.total := by
  have hset (k : Pubkey) (d : List UInt8) : (m.setData k d).total = m.total :=
    Machine.total_congr (Machine.balances_setData m k d)
  cases h with
  | transferSol _ hc hmoves => exact (hmoves.total hc.distinct).trans (hset _ _)
  | transferSpl _ hc hmoves => exact (hmoves.total hc.checks.distinct).trans (hset _ _)
  | rotateEd25519 _ _ hclears => exact hclears.total.trans (hset _ _)
  | recoverEd25519 _ _ hclears => exact hclears.total.trans (hset _ _)
  | setConfig _ _ hstores =>
    rw [← hstores.total]
    exact Machine.total_congr (by simp)
  | rotateFalcon _ _ _ => exact hset _ _
  | changePolicy _ _ => exact hset _ _
  | setRecovery _ _ => exact hset _ _
  | initiate _ _ => exact hset _ _
  | finalize _ => exact Machine.total_congr (by simp)
  | cancel _ _ => exact Machine.total_congr (by simp)

/-- **An instruction keeps the total of all balances.** -/
theorem Step.total (h : Step P m (.executed inv) m') : m'.total = m.total := by
  cases h with
  | executed _ h =>
    have hout := process_outcome h
    cases hout with
    | harness _ _ => exact Machine.total_congr (Machine.balances_begin m)
    | created _ hs =>
      -- funding moves lamports; allotting the account does not
      have hpaid : _ = m.begin.total := hs.funded.total
      rw [← Machine.total_congr (Machine.balances_begin m), ← hpaid]
      exact Machine.total_congr (by simp)
    | performed hp _ => exact hp.total.trans (Machine.total_congr (Machine.balances_begin m))

/-! ### The rent minimum -/

/-- An instruction runs under a rent schedule with this minimum for a vault. -/
def Label.RentMinimum (minimum : UInt64) : Label → Prop
  | .executed inv => inv.rent.minimumBalance accountDataLen = minimum
  | .rejected _ => True
  | .environment => True

instance (minimum : UInt64) (l : Label) : Decidable (l.RentMinimum minimum) :=
  match l with
  | .executed inv => inferInstanceAs (Decidable (inv.rent.minimumBalance accountDataLen = minimum))
  | .rejected _ => inferInstanceAs (Decidable True)
  | .environment => inferInstanceAs (Decidable True)

/-- The runtime: a derived address of the program has no private key, so it signs no
transaction. -/
def Label.NoPdaSigns (P : Platform) : Label → Prop
  | .executed inv => ∀ a ∈ inv.accounts, a.isSigner = true → ¬ P.IsPda a.key
  | .rejected _ => True
  | .environment => True

/-- A step leaves a vault above the rent minimum if it was there. -/
theorem Step.solvent {minimum : UInt64} (h : Step P m l m') (hv : IsVault P m v)
    (hrent : l.RentMinimum minimum) (hl : minimum ≤ m.lamports v) : minimum ≤ m'.lamports v := by
  obtain ⟨hwf, a, hva⟩ := hv
  rcases h.vault_cases hwf hva with hquiet | ⟨op, hop⟩
  · exact UInt64.le_trans hl hquiet.lamports
  · cases hop with
    | @mk inv vault m' hruntime hkey hix hp =>
      subst hkey
      have hminimum : inv.rent.minimumBalance accountDataLen = minimum := hrent
      rcases hp.solvent with hle | hfloor
      · exact UInt64.le_trans hl hle
      · exact hminimum ▸ hfloor

/-- After funding the address holds the rent minimum, the creator being another account. -/
theorem Initialize.Funded.minimum {creator vault : Pubkey} {seeds : List (List UInt8)}
    (hne : creator ≠ vault) (h : Funded P inv m creator vault seeds m') :
    inv.rent.minimumBalance accountDataLen ≤ m'.lamports vault := by
  cases h with
  | held hle => exact hle
  | @paid shortfall m₁ hshort _ _ htransfer =>
    obtain ⟨-, -, rest, total, -, htotal, rfl⟩ := systemTransfer_eq_some.mp htransfer
    rw [Machine.lamports_setLamports, if_neg hne.symm] at htotal
    rw [Machine.lamports_log, Machine.lamports_setLamports, if_pos rfl, UInt64.le_iff_toNat_le]
    omega

/-- A new vault holds the rent minimum. -/
theorem Step.funded {minimum : UInt64} (h : Step P m l m')
    (hcall : l.call = some (.initializeAccount, v)) (hrent : l.RentMinimum minimum)
    (hsigners : l.NoPdaSigns P) : minimum ≤ m'.lamports v := by
  obtain ⟨inv, creator, vault, args, bump, m₁, a, hs, hl, hv, hm'⟩ := h.created_cases hcall
  subst hl hv hm'
  have hminimum : inv.rent.minimumBalance accountDataLen = minimum := hrent
  -- the creator signs, and the new address cannot
  have hne : creator.key ≠ vault.key := by
    intro heq
    obtain ⟨systemProgram, haccounts, -⟩ := hs.accounts
    have hmem : creator ∈ inv.accounts := haccounts ▸ List.mem_cons_self
    refine hsigners creator hmem hs.signer ?_
    rw [heq]
    exact ⟨_, Initialize.signerSeeds_create hs.address⟩
  have hfloor := hs.funded.minimum hne
  rw [Machine.lamports_setData, Machine.lamports_allot, ← hminimum]
  exact hfloor

/-! ### What a vault pays -/

/-- The step pays `amount` lamports from the vault at `v` to `recipient`, authorized by an intent
to do so. -/
structure Pays (P : Platform) (v recipient : Pubkey) (amount : UInt64) (e : Edge Machine Label) :
    Prop where
  authorized : ∃ i : AuthorizationIntent, i.account = v ∧
    i.action = .transferSol recipient amount ∧ AuthorizedBy P i e
  distinct : recipient ≠ v
  debit : (e.post.lamports v).toNat + amount.toNat = (e.pre.lamports v).toNat
  /-- The recipient is credited in full: its balance does not wrap. -/
  credit : (e.post.lamports recipient).toNat = (e.pre.lamports recipient).toNat + amount.toNat
  others : ∀ k, k ≠ v → k ≠ recipient → e.post.lamports k = e.pre.lamports k

/-- The lamports a successful `Execute` on the vault at `v` was signed for. -/
def Label.paidBy (l : Label) (v : Pubkey) : ℕ :=
  match l with
  | .executed inv =>
    if inv.call = some (.execute, v) then
      match ExecuteIntentWire.decode (inv.payload.take executeIntentWireLen) with
      | .ok wire =>
        match wire.action with
        | .transferSol _ lamports => lamports.toNat
        | _ => 0
      | .error _ => 0
    else 0
  | .rejected _ => 0
  | .environment => 0

/-- The lamports an operation pays. -/
def VaultOp.paid : VaultOp → ℕ
  | .transferSol _ lamports => lamports.toNat
  | _ => 0

/-- The payments of a step are those of its operation. -/
theorem PerformsOn.paidBy (h : PerformsOn P m v op l m') : l.paidBy v = op.paid := by
  have hcall := h.call
  cases h with
  | @mk inv vault m' hruntime hkey hix hp =>
    have hinv : inv.call = some (op.instruction, v) := hcall
    rw [Label.paidBy, hinv]
    by_cases hexecute : op.instruction = .execute
    · have hsigned : op.isSigned = true := by
        cases op <;> first | rfl | cases hexecute
      obtain ⟨wire, falconSig, sysvar, a, auth, hpresents, hsigns, -⟩ := hp.authorized hsigned
      rw [hexecute, if_pos rfl, hpresents.wire]
      cases op with
      | transferSol recipient lamports =>
        have haction : wire.action = .transferSol recipient lamports := hsigns
        simp only [haction, VaultOp.paid]
      | transferSpl destination amount =>
        have haction : wire.action = .transferSpl destination amount := hsigns
        simp only [haction, VaultOp.paid]
      | _ => cases hexecute
    · have hne : some (op.instruction, v) ≠ some (.execute, v) := by
        intro heq
        exact hexecute (congrArg Prod.fst (Option.some.inj heq))
      rw [if_neg hne]
      cases op <;> first | rfl | exact absurd rfl hexecute

/-- A step that leaves the vault alone pays nothing from it. -/
theorem Quiet.paidBy (h : Quiet P m v l m') : l.paidBy v = 0 := by
  cases l with
  | executed inv =>
    have hcall : inv.call ≠ some (.execute, v) := h.call .execute
    rw [Label.paidBy, if_neg hcall]
  | rejected _ => rfl
  | environment => rfl

/-- **A lamport transfer** moves exactly the signed amount to exactly the signed recipient. -/
theorem PerformsOn.pays {recipient : Pubkey} {amount : UInt64}
    (h : PerformsOn P m v (.transferSol recipient amount) l m') :
    Pays P v recipient amount ⟨m, l, m'⟩ := by
  cases h with
  | @mk inv vault m' hruntime hkey hix hp =>
    subst hkey
    have hperforms : PerformsOn P m vault.key (.transferSol recipient amount) (.executed inv) m' :=
      .mk hruntime rfl hix hp
    cases hp with
    | @transferSol target sysvar wire falconSig amount a auth _ hpresents hc hmoves =>
      -- a transfer of zero moves nothing, which is the same equations
      have hmoved : (m'.lamports vault.key).toNat + amount.toNat =
            (m.lamports vault.key).toNat ∧
          (m'.lamports target.key).toNat = (m.lamports target.key).toNat + amount.toNat ∧
          ∀ k, k ≠ vault.key → k ≠ target.key → m'.lamports k = m.lamports k := by
        cases hmoves with
        | none hzero =>
          subst hzero
          simp
        | @moved remaining total _ hremaining _ htotal =>
          simp only [Machine.lamports_setData, Machine.lamports_begin] at hremaining htotal
          refine ⟨?_, ?_, ?_⟩
          · rw [Machine.lamports_setLamports, if_pos rfl]
            exact hremaining
          · rw [Machine.lamports_setLamports, if_neg hc.distinct, Machine.lamports_setLamports,
              if_pos rfl]
            exact htotal.symm
          · intro k hkv hkr
            rw [Machine.lamports_setLamports, if_neg hkv, Machine.lamports_setLamports,
              if_neg hkr, Machine.lamports_setData, Machine.lamports_begin]
      obtain ⟨hdebit, hcredit, hothers⟩ := hmoved
      exact
        { authorized := ⟨_, rfl, hc.action, .mk hperforms hpresents hc.action hc.authorized rfl⟩
          distinct := hc.distinct, debit := hdebit, credit := hcredit, others := hothers }

/-- **What one step takes from a vault**: nothing, unless it is a signed lamport transfer. -/
theorem Step.pays_or_keeps (h : Step P m l m') (hv : IsVault P m v) :
    (m.lamports v ≤ m'.lamports v ∧ l.paidBy v = 0) ∨
      ∃ recipient amount, Pays P v recipient amount ⟨m, l, m'⟩ ∧ l.paidBy v = amount.toNat := by
  obtain ⟨hwf, a, hva⟩ := hv
  rcases h.vault_cases hwf hva with hquiet | ⟨op, hop⟩
  · exact Or.inl ⟨hquiet.lamports, hquiet.paidBy⟩
  · by_cases htransfer : ∃ recipient amount, op = .transferSol recipient amount
    · obtain ⟨recipient, amount, rfl⟩ := htransfer
      exact Or.inr ⟨recipient, amount, hop.pays, hop.paidBy⟩
    · push Not at htransfer
      left
      refine ⟨hop.lamports hva.owner htransfer, ?_⟩
      rw [hop.paidBy]
      cases op with
      | transferSol recipient amount => exact absurd rfl (htransfer recipient amount)
      | _ => rfl

/-- An authorized lamport transfer pays. -/
theorem AuthorizedBy.pays {i : AuthorizationIntent} {recipient : Pubkey} {amount : UInt64}
    {e : Edge Machine Label} (h : AuthorizedBy P i e) (haccount : i.account = v)
    (haction : i.action = .transferSol recipient amount) : Pays P v recipient amount e := by
  cases h with
  | @mk m m' inv vault sysvar op wire falconSig a auth hperforms hpresents hsigns hauth hintent =>
    subst hintent
    have hkey : vault.key = v := haccount
    have hwire : wire.action = .transferSol recipient amount := haction
    rw [hwire] at hsigns
    have hop : op = .transferSol recipient amount := hsigns.eq_of_transfer rfl rfl
    rw [hop, hkey] at hperforms
    exact hperforms.pays

/-- **Solvency.** In a run from a reachable state under one rent schedule, in which no derived
address of the program signs a transaction, every instruction keeps the total of all balances; and
from the step on that created it, a vault holds the rent minimum in every state, loses lamports
only by paying a signed lamport transfer in full, and has paid in total what the transfers executed
on it were signed for. -/
theorem vault_solvency {minimum : UInt64} {tr : List (Edge Machine Label)}
    (hreach : Reachable (chain P) m) (hrun : Run (chain P) m tr m')
    (hrent : ∀ e ∈ tr, e.label.RentMinimum minimum)
    (hsigners : ∀ e ∈ tr, e.label.NoPdaSigns P) :
    (∀ e ∈ tr, ∀ inv, e.label = .executed inv → e.post.total = e.pre.total) ∧
    ∀ (before after : List (Edge Machine Label)) (i : Edge Machine Label) (v : Pubkey),
      tr = before ++ i :: after → i.label.call = some (.initializeAccount, v) →
      (minimum ≤ i.post.lamports v ∧
        ∀ e ∈ after, minimum ≤ e.pre.lamports v ∧ minimum ≤ e.post.lamports v) ∧
      (∀ e ∈ after, e.post.lamports v < e.pre.lamports v →
        ∃ recipient amount, Pays P v recipient amount e) ∧
      (∀ e ∈ after, ∀ (j : AuthorizationIntent) (recipient : Pubkey) (amount : UInt64),
        AuthorizedBy P j e → j.account = v → j.action = .transferSol recipient amount →
        Pays P v recipient amount e) ∧
      (after.map fun e => (e.pre.lamports v).toNat - (e.post.lamports v).toNat).sum =
        (after.map fun e => e.label.paidBy v).sum := by
  refine ⟨?_, ?_⟩
  · intro e he inv hlabel
    have hstep := hrun.step he
    have hexecuted : Step P e.pre (.executed inv) e.post := hlabel ▸ hstep
    exact hexecuted.total
  · intro before after i v htr hcall
    subst htr
    -- from its creation on, the vault exists and holds the minimum
    obtain ⟨hbefore, hinit, hafter⟩ := Run.cons_middle_iff.mp hrun
    have hi : i ∈ before ++ i :: after := List.mem_append_right _ List.mem_cons_self
    have hmem : ∀ e ∈ after, e ∈ before ++ i :: after := fun e he =>
      List.mem_append_right _ (List.mem_cons_of_mem _ he)
    have hwf : WellFormed P i.pre := Reachable.wellFormed (hreach.run hbefore)
    have hvault : IsVault P i.post v := (Step.created hinit hwf hcall).1
    have hfunded : minimum ≤ i.post.lamports v :=
      Step.funded hinit hcall (hrent i hi) (hsigners i hi)
    have hinv := hafter.invariant_mem (I := fun s => IsVault P s v ∧ minimum ≤ s.lamports v)
      ⟨hvault, hfunded⟩ fun e he hstep hpre =>
        ⟨Step.isVault hstep hpre.1, Step.solvent hstep hpre.1 (hrent e (hmem e he)) hpre.2⟩
    -- what each step takes from the vault
    have hpays : ∀ e ∈ after, (e.pre.lamports v ≤ e.post.lamports v ∧ e.label.paidBy v = 0) ∨
        ∃ recipient amount, Pays P v recipient amount e ∧ e.label.paidBy v = amount.toNat := by
      intro e he
      have hstep := hafter.step he
      exact Step.pays_or_keeps hstep (hinv e he).1.1
    refine ⟨⟨hfunded, fun e he => ⟨(hinv e he).1.2, (hinv e he).2.2⟩⟩, ?_, ?_, ?_⟩
    · intro e he hlt
      rcases hpays e he with ⟨hle, -⟩ | ⟨recipient, amount, hpaid, -⟩
      · exact absurd hlt (UInt64.not_lt.mpr hle)
      · exact ⟨recipient, amount, hpaid⟩
    · intro e he j recipient amount hauthorized haccount haction
      exact hauthorized.pays haccount haction
    · -- the decrease of a step is what it pays, step by step
      congr 1
      refine List.map_congr_left fun e he => ?_
      rcases hpays e he with ⟨hle, hzero⟩ | ⟨recipient, amount, hpaid, hamount⟩
      · rw [UInt64.le_iff_toNat_le] at hle
        omega
      · have hdebit := hpaid.debit
        omega

section Replay

open Sample

/-- No derived address signs a replayed transaction whose signers have other addresses. -/
theorem noPdaSigns_of_replay {invs : List Invocation} {e : Edge Machine Label}
    (h : ∀ inv ∈ invs, ∀ a ∈ inv.accounts, a.isSigner = true → ∀ d ∈ derived, d.address ≠ a.key)
    (he : e ∈ replay platform m invs) : e.label.NoPdaSigns platform := by
  obtain ⟨inv, hinv, hlabel | hlabel⟩ := replay_label he
  · rw [hlabel]
    exact fun a ha hsigner => not_isPda (h inv hinv a ha hsigner)
  · rw [hlabel]
    trivial

/-- The vault that has paid a million lamports holds the rent minimum still. -/
theorem vault_solvency_replayed :
    (∀ e ∈ replay platform privilegedCreated [spendPrivileged],
      rent.minimumBalance accountDataLen ≤ e.post.lamports privilegedVault) ∧
    ((replay platform privilegedCreated [spendPrivileged]).map fun e =>
      (e.pre.lamports privilegedVault).toNat - (e.post.lamports privilegedVault).toNat).sum =
        1000000 := by
  have hruntime : ∀ inv ∈ [createPrivilegedVault, spendPrivileged],
      inv.PrecompilesAccepted platform := by
    decide +kernel
  have hsigner : ∀ inv ∈ [createPrivilegedVault, spendPrivileged], ∀ a ∈ inv.accounts,
      a.isSigner = true → ∀ d ∈ derived, d.address ≠ a.key := by
    decide +kernel
  have hrun := run_replay genesis hruntime
  have hsigners := fun e (he : e ∈ replay platform genesis [createPrivilegedVault, spendPrivileged])
    => noPdaSigns_of_replay hsigner he
  have hrent : ∀ e ∈ replay platform genesis [createPrivilegedVault, spendPrivileged],
      e.label.RentMinimum (rent.minimumBalance accountDataLen) := by
    decide +kernel
  have hcall : (submit platform genesis createPrivilegedVault).label.call =
      some (.initializeAccount, privilegedVault) := by
    decide +kernel
  have hpaid : ((replay platform privilegedCreated [spendPrivileged]).map
      fun e => e.label.paidBy privilegedVault).sum = 1000000 := by
    decide +kernel
  -- the creation is the first edge, and the rest of the run follows it
  have htr : replay platform genesis [createPrivilegedVault, spendPrivileged] =
      submit platform genesis createPrivilegedVault ::
        replay platform privilegedCreated [spendPrivileged] := rfl
  rw [htr] at hrun hsigners hrent
  -- all evaluation is done; the run is any run from here on
  generalize replay platform privilegedCreated [spendPrivileged] = later at *
  generalize submit platform genesis createPrivilegedVault = i at *
  generalize replayed platform genesis [createPrivilegedVault, spendPrivileged] = last at hrun
  obtain ⟨⟨-, hfloor⟩, -, -, hsum⟩ := (vault_solvency (Reachable.of_init genesis_init) hrun hrent
    hsigners).2 [] later i privilegedVault rfl hcall
  exact ⟨fun e he => (hfloor e he).2, hsum.trans hpaid⟩

end Replay

end DualKey
