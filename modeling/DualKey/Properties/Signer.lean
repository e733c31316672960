import DualKey.Properties.TokenAsset

/-!
# What the vault signs for

The program signs for a vault by passing its seeds to an invocation. Two handlers do so
besides the token transfer: `Initialize`, for the address it is about to turn into a vault,
and `SetRecoveryConfig`, for the recovery address. Both need the address to be an empty
account of the system program, which a vault never is again. So after its creation a vault
signs for nothing but the `TransferChecked` its owner has authorized (`PerformsOn.signs`).
-/

namespace DualKey

open Transition

/-- The step is an `Execute` of the vault at `v`, authorized for a token transfer of `amount` to
`destination`, whose accounts passed every check. -/
structure ExecutesTransfer (P : Platform) (v source mint destination tokenProgram : Pubkey)
    (amount : UInt64) (decimals : UInt8) (e : Edge Machine Label) : Prop where
  call : e.label.call = some (.execute, v)
  authorized : ∃ i : AuthorizationIntent, i.account = v ∧
    i.action = .transferSpl destination amount ∧ AuthorizedBy P i e
  distinct : source ≠ destination
  spends : SpendsToken P v source mint destination tokenProgram amount e.pre e.post
  /-- The decimals are those the mint records. -/
  decimals : (e.pre.data mint)[44]? = some decimals

variable {P : Platform} {m m' : Machine} {v : Pubkey} {l : Label} {op : VaultOp}

/-- The decimals of a mint that passes are its byte 44. -/
theorem SplToken.getElem?_of_mintDecimals {data : List UInt8} {decimals : UInt8}
    (h : mintDecimals data = .ok decimals) : data[44]? = some decimals := by
  simp only [mintDecimals, Res.bind_eq_ok, Buffer.index_eq_ok] at h
  obtain ⟨-, -, -, -, hlt, hbyte⟩ := h
  -- the handler has checked the length, so the byte is there
  rw [Buffer.byteAt, List.getD_eq_getElem?_getD, List.getElem?_eq_getElem hlt,
    Option.getD_some] at hbyte
  rw [List.getElem?_eq_getElem hlt, hbyte]

/-- A token transfer and the invocation it makes. -/
theorem PerformsOn.executesTransfer {destination : Pubkey} {amount : UInt64}
    (h : PerformsOn P m v (.transferSpl destination amount) l m') :
    ∃ source mint tokenProgram decimals seeds,
      ExecutesTransfer P v source mint destination tokenProgram amount decimals ⟨m, l, m'⟩ ∧
      m'.cpis = if amount = 0 then [] else
        [⟨.token (SplToken.transferCheckedInstruction tokenProgram source mint destination v amount
          decimals), [seeds]⟩] := by
  have hcall := h.call
  cases h with
  | @mk inv vault m' hruntime hkey hix hp =>
    subst hkey
    have hperforms : PerformsOn P m vault.key (.transferSpl destination amount) (.executed inv)
        m' := .mk hruntime rfl hix hp
    cases hp with
    | @transferSpl creator source mint destination tokenProgram sysvar wire falconSig amount a auth
        decimals _ hpresents hc hmoves =>
      -- before the transfer the step has invoked nothing
      have hspends := hc.spendsToken hmoves
      have hcpis := hmoves.cpis rfl
      rw [Machine.cpis_setData, Machine.cpis_begin, List.nil_append] at hcpis
      have hdecimals := SplToken.getElem?_of_mintDecimals hc.checks.mintAccount
      -- the mint belongs to the token program, so writing the vault has not changed it
      have hne : mint.key ≠ vault.key := by
        intro heq
        have howner : m.owner vault.key = tokenProgram.key := heq ▸ hspends.mintOwner
        exact SplToken.supported_ne_program hspends.supported
          (hc.authorized.owner.symm.trans howner)
      rw [Machine.data_setData, if_neg hne, Machine.data_begin] at hdecimals
      refine ⟨source.key, mint.key, tokenProgram.key, decimals, _, ?_, hcpis⟩
      exact
        { call := hcall
          authorized := ⟨_, rfl, hc.action, .mk hperforms hpresents hc.action hc.authorized rfl⟩
          distinct := hc.checks.distinct
          spends := hspends
          decimals := hdecimals }

/-- **What an operation signs for the vault**: an operation that makes an invocation with seeds of
the vault is a token transfer. -/
theorem PerformsOn.signs (h : PerformsOn P m v op l m') (howner : m.owner v = P.programId)
    {cpi : Cpi} (hcpi : cpi ∈ m'.cpis) {seeds : List (List UInt8)} (hseeds : seeds ∈ cpi.signers)
    (hcreate : P.createProgramAddress seeds P.programId = some v) :
    ∃ destination amount, op = .transferSpl destination amount := by
  cases h with
  | @mk inv vault m' hruntime hkey hix hp =>
    obtain ⟨k, hk, hwhich⟩ := hp.signers hcpi List.not_mem_nil hseeds
    have hkv : k = v := Option.some.inj (hk.symm.trans hcreate)
    rcases hwhich with ⟨-, htransfer⟩ | ⟨-, hsystem⟩
    · exact htransfer
    · -- a fresh recovery address is no vault
      have hsame : m.owner v = systemProgramId := hkv ▸ hsystem
      exact absurd (howner.symm.trans hsame) P.programId_ne_system

/-- **The signature of a vault is lent to authorized token transfers alone.** In every run from a
state in which the vault at `v` exists, an invocation signed with seeds of `v` is the only one of
its step, the step is an `Execute` whose authorized action is the transfer of a positive amount,
and the invocation is the `TransferChecked` of that amount to the signed destination, from a token
account of the vault whose mint, program and balance were checked. A transfer of zero passes the
same checks and makes no invocation. -/
theorem signature_lent_to_transfers {tr : List (Edge Machine Label)}
    (hreach : Reachable (chain P) m) (hvault : ∃ a, VaultAt P m v a)
    (hrun : Run (chain P) m tr m') :
    (∀ e ∈ tr, ∀ cpi ∈ e.post.cpis, ∀ seeds ∈ cpi.signers,
      P.createProgramAddress seeds P.programId = some v →
      ∃ source mint destination tokenProgram amount decimals, amount ≠ 0 ∧
        ExecutesTransfer P v source mint destination tokenProgram amount decimals e ∧
        e.post.cpis = [cpi] ∧ cpi.signers = [seeds] ∧
        cpi.instruction = .token
          { programId := tokenProgram
            accounts := [⟨source, false, true⟩, ⟨mint, false, false⟩, ⟨destination, false, true⟩,
              ⟨v, true, false⟩]
            data := 12 :: (u64ToLe amount).toList ++ [decimals] }) ∧
    ∀ e ∈ tr, ∀ (i : AuthorizationIntent) (destination : Pubkey), AuthorizedBy P i e →
      i.account = v → i.action = .transferSpl destination 0 →
      ∃ source mint tokenProgram decimals,
        ExecutesTransfer P v source mint destination tokenProgram 0 decimals e ∧
        e.post.cpis = [] := by
  have hinv : ∀ e ∈ tr, IsVault P e.pre v ∧ IsVault P e.post v :=
    hrun.invariant_mem (I := fun s => IsVault P s v) ⟨Reachable.wellFormed hreach, hvault⟩
      fun _ _ hstep => Step.isVault hstep
  refine ⟨?_, ?_⟩
  · intro e he cpi hcpi seeds hseeds hcreate
    have hstep := hrun.step he
    obtain ⟨⟨hwf, a, hva⟩, -⟩ := hinv e he
    rcases Step.vault_cases hwf hva hstep with hquiet | ⟨op, hop⟩
    · exact absurd hcreate (hquiet.signers cpi hcpi seeds hseeds)
    · obtain ⟨destination, amount, rfl⟩ := hop.signs hva.owner hcpi hseeds hcreate
      obtain ⟨source, mint, tokenProgram, decimals, seeds', htransfer, hcpis⟩ :=
        hop.executesTransfer
      -- the step makes an invocation, so the amount is positive
      have hne : amount ≠ 0 := by
        rintro rfl
        rw [hcpis, if_pos rfl] at hcpi
        exact absurd hcpi List.not_mem_nil
      rw [if_neg hne] at hcpis
      have hcpi' := hcpi
      rw [hcpis, List.mem_singleton] at hcpi'
      subst hcpi'
      obtain rfl := List.mem_singleton.mp hseeds
      exact ⟨source, mint, destination, tokenProgram, amount, decimals, hne, htransfer, hcpis, rfl,
        rfl⟩
  · intro e he i destination hauthorized haccount haction
    -- the signed action determines the operation
    cases hauthorized with
    | @mk s s' inv vault sysvar op wire falconSig a auth hperforms hpresents hsigns hauth hintent =>
      subst hintent
      have hkey : vault.key = v := haccount
      have hwire : wire.action = .transferSpl destination 0 := haction
      rw [hwire] at hsigns
      obtain rfl : op = .transferSpl destination 0 := hsigns.eq_of_transfer rfl rfl
      rw [hkey] at hperforms
      obtain ⟨source, mint, tokenProgram, decimals, seeds, htransfer, hcpis⟩ :=
        hperforms.executesTransfer
      rw [if_pos rfl] at hcpis
      exact ⟨source, mint, tokenProgram, decimals, htransfer, hcpis⟩

open Sample in
/-- The one invocation of a token transfer from the first vault is accounted for. -/
theorem signature_lent_to_transfers_replayed :
    ∃ m' source mint destination tokenProgram amount decimals, amount ≠ 0 ∧
      ExecutesTransfer platform ed25519Vault source mint destination tokenProgram amount decimals
        ⟨ed25519Created, .executed (spendToken firstSourceA mintA), m'⟩ ∧
      m'.cpis = [spent firstSourceA mintA] := by
  obtain ⟨m', hstep, hauthorized, hcpis⟩ := canSpend_firstSourceA
  have hcreate : platform.createProgramAddress (Pda.signerSeeds creator 0 255) platform.programId =
      some ed25519Vault := by
    decide +kernel
  have hvault : ∃ a, VaultAt platform ed25519Created ed25519Vault a := by
    obtain ⟨-, -, -, -, a, -, -, -, hva, -⟩ :=
      createEd25519Vault_step.initialized createEd25519Vault_call
    exact ⟨a, hva⟩
  have hmem : spent firstSourceA mintA ∈ m'.cpis := hcpis ▸ List.mem_singleton_self _
  have hsigners : Pda.signerSeeds creator 0 255 ∈ (spent firstSourceA mintA).signers :=
    List.mem_singleton_self _
  obtain ⟨source, mint, destination, tokenProgram, amount, decimals, hne, htransfer, -⟩ :=
    (signature_lent_to_transfers ed25519Created_reachable hvault (Run.single hstep)).1 _
      List.mem_cons_self _ hmem _ hsigners hcreate
  exact ⟨m', source, mint, destination, tokenProgram, amount, decimals, hne, htransfer, hcpis⟩

end DualKey
