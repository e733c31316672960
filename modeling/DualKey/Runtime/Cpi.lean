import DualKey.Runtime.Platform
import Mathlib.Data.Option.Basic

/-!
# Cross-program invocations

`invokeSigned` is the runtime's call from the program into the system program or a
token program. It checks the borrows of the accounts passed along, then the
privileges the instruction asks for, runs the callee and records the invocation. A
failing callee aborts the whole instruction, so its error never reaches the
caller's `map_err`.
Each callee is a partial function on the machine; the `*_eq_some` lemmas list what a
call that succeeds required and what it did.
-/

namespace DualKey

/-- The largest account the system program allocates: 10 MiB. -/
def maxPermittedDataLength : ℕ := 10485760

/-- System program `Transfer`: the source carries no data and can pay; only accounts of
the system program can be debited by it. -/
def systemTransfer (m : Machine) (source target : Pubkey) (lamports : UInt64) :
    Option Machine := do
  guard (m.data source = [])
  let rest ← checkedSub (m.lamports source) lamports
  guard (m.owner source = systemProgramId ∨ lamports = 0)
  -- debited before it is credited: a transfer to itself changes nothing
  let m := m.setLamports source rest
  let total ← checkedAdd (m.lamports target) lamports
  some (m.setLamports target total)

/-- System program `Allocate`: only an empty account of the system program can grow. -/
def systemAllocate (m : Machine) (account : Pubkey) (space : UInt64) : Option Machine := do
  guard (m.data account = [])
  guard (m.owner account = systemProgramId)
  guard (space.toNat ≤ maxPermittedDataLength)
  some (m.setData account (List.replicate space.toNat 0))

/-- System program `Assign`: nothing to do when the owner is the requested one;
otherwise the account is handed over by the system program, zeroed. -/
def systemAssign (m : Machine) (account owner : Pubkey) : Option Machine :=
  if m.owner account = owner then
    some m
  else do
    guard (m.owner account = systemProgramId)
    guard ((m.data account).all (· = 0))
    some (m.setOwner account owner)

/-- A token program's `TransferChecked`: source and destination are its own accounts. -/
def tokenTransferChecked (P : Platform) (m : Machine) (ix : Instruction) : Option Machine :=
  match ix.accounts with
  | [source, mint, destination, _authority] => do
    guard (m.owner source.pubkey = ix.programId)
    guard (m.owner destination.pubkey = ix.programId)
    let (source', destination') ← P.transferChecked ix (m.accounts source.pubkey)
      (m.accounts mint.pubkey) (m.accounts destination.pubkey)
    let m := (m.setLamports source.pubkey source'.lamports).setData source.pubkey source'.data
    some ((m.setLamports destination.pubkey destination'.lamports).setData destination.pubkey
      destination'.data)
  | _ => none

/-- Run the program an invocation names. -/
def runCallee (P : Platform) (c : CpiInstruction) (m : Machine) : Option Machine :=
  match c with
  | .transfer source target lamports => systemTransfer m source target lamports
  | .allocate account space => systemAllocate m account space
  | .assign account owner => systemAssign m account owner
  | .token ix => tokenTransferChecked P m ix

/-- The accounts the program signs for with `signers`. -/
def signedBy (P : Platform) (signers : List (List (List UInt8))) (k : Pubkey) : Bool :=
  signers.any fun seeds => decide (P.createProgramAddress seeds P.programId = some k)

/-- Whether the caller may grant what an account entry of an invocation asks for: the
account is among its own, writable if asked, and signed for by the transaction or by
the program. -/
def Privileged (P : Platform) (inv : InvokeContext) (signers : List (List (List UInt8)))
    (entry : AccountMeta) : Prop :=
  (∃ a ∈ inv.accounts, a.key = entry.pubkey) ∧
  (entry.isWritable = true → ∃ a ∈ inv.accounts, a.key = entry.pubkey ∧ a.isWritable = true) ∧
  (entry.isSigner = true →
    (∃ a ∈ inv.accounts, a.key = entry.pubkey ∧ a.isSigner = true) ∨
      signedBy P signers entry.pubkey = true)

instance (P : Platform) (inv : InvokeContext) (signers : List (List (List UInt8)))
    (entry : AccountMeta) : Decidable (Privileged P inv signers entry) :=
  inferInstanceAs (Decidable (_ ∧ _ ∧ _))

/-- Whether a cell of an account passed to an invocation is mutably borrowed. -/
def borrowed (env : Env) (infos : List AccountInfo) (c : CpiInstruction) : Bool :=
  c.metas.any fun entry => infos.any fun a => decide (a.key = entry.pubkey) &&
    (decide (Cell.lamports a.key ∈ env.held) || decide (Cell.data a.key ∈ env.held))

/-- `invoke_signed`, with the error its caller maps a failed borrow check to. -/
def invokeSigned (P : Platform) (c : CpiInstruction) (infos : List AccountInfo)
    (signers : List (List (List UInt8))) (e : DualKeyError) : Prog Unit := do
  let env ← Exec.ask
  -- of all failures this is the only one the caller gets to see
  Exec.failIf (borrowed env infos c = true) e
  Exec.calleeUnless (∀ seeds ∈ signers, (P.createProgramAddress seeds P.programId).isSome)
  Exec.calleeUnless (∀ entry ∈ c.metas, Privileged P env.toInvokeContext signers entry)
  Exec.callee (runCallee P c)
  Exec.modify fun m => m.log ⟨c, signers⟩

/-- The machine after an account was allocated and assigned to `owner` by invocations
signed with `seeds`. -/
def Machine.allot (m : Machine) (owner k : Pubkey) (space : UInt64)
    (seeds : List (List UInt8)) : Machine :=
  (((m.setData k (List.replicate space.toNat 0)).log ⟨.allocate k space, [seeds]⟩).setOwner k
    owner).log ⟨.assign k owner, [seeds]⟩

section Allot

variable (m : Machine) (owner k k' : Pubkey) (space : UInt64) (seeds : List (List UInt8))

@[simp] theorem Machine.data_allot :
    (m.allot owner k space seeds).data k' =
      if k' = k then List.replicate space.toNat 0 else m.data k' := by
  simp [allot]

@[simp] theorem Machine.owner_allot :
    (m.allot owner k space seeds).owner k' = if k' = k then owner else m.owner k' := by
  simp [allot]

@[simp] theorem Machine.lamports_allot :
    (m.allot owner k space seeds).lamports k' = m.lamports k' := by
  simp [allot]

@[simp] theorem Machine.cpis_allot :
    (m.allot owner k space seeds).cpis =
      m.cpis ++ [⟨.allocate k space, [seeds]⟩, ⟨.assign k owner, [seeds]⟩] := by
  simp [allot]

end Allot

section Specs

variable {P : Platform} {inv : InvokeContext} {m m' : Machine}

theorem systemTransfer_eq_some {source target : Pubkey} {lamports : UInt64} :
    systemTransfer m source target lamports = some m' ↔
      m.data source = [] ∧ (m.owner source = systemProgramId ∨ lamports = 0) ∧
      ∃ rest total, rest.toNat + lamports.toNat = (m.lamports source).toNat ∧
        ((m.setLamports source rest).lamports target).toNat + lamports.toNat = total.toNat ∧
        (m.setLamports source rest).setLamports target total = m' := by
  simp only [systemTransfer, Option.bind_eq_bind, Option.bind_eq_some_iff, Option.guard_eq_some',
    checkedSub_eq_some, checkedAdd_eq_some, Option.some.injEq]
  constructor
  · rintro ⟨-, hdata, rest, hrest, -, howner, total, htotal, rfl⟩
    exact ⟨hdata, howner, rest, total, hrest, htotal, rfl⟩
  · rintro ⟨hdata, howner, rest, total, hrest, htotal, rfl⟩
    exact ⟨(), hdata, rest, hrest, (), howner, total, htotal, rfl⟩

theorem systemAllocate_eq_some {account : Pubkey} {space : UInt64} :
    systemAllocate m account space = some m' ↔
      m.data account = [] ∧ m.owner account = systemProgramId ∧
      space.toNat ≤ maxPermittedDataLength ∧
      m.setData account (List.replicate space.toNat 0) = m' := by
  simp [systemAllocate, Option.bind_eq_some_iff, Option.guard_eq_some']

theorem systemAssign_eq_some {account owner : Pubkey} :
    systemAssign m account owner = some m' ↔
      (m.owner account = owner ∧ m = m') ∨
      (m.owner account ≠ owner ∧ m.owner account = systemProgramId ∧
        (∀ b ∈ m.data account, b = 0) ∧ m.setOwner account owner = m') := by
  unfold systemAssign
  split
  · next h => simp [h]
  · next h => simp [h, Option.bind_eq_some_iff, Option.guard_eq_some']

theorem tokenTransferChecked_eq_some {ix : Instruction} :
    tokenTransferChecked P m ix = some m' ↔
      ∃ source mint destination authority source' destination',
        ix.accounts = [source, mint, destination, authority] ∧
        m.owner source.pubkey = ix.programId ∧ m.owner destination.pubkey = ix.programId ∧
        P.transferChecked ix (m.accounts source.pubkey) (m.accounts mint.pubkey)
          (m.accounts destination.pubkey) = some (source', destination') ∧
        (((m.setLamports source.pubkey source'.lamports).setData source.pubkey
          source'.data).setLamports destination.pubkey destination'.lamports).setData
            destination.pubkey destination'.data = m' := by
  unfold tokenTransferChecked
  split
  · next source mint destination authority h =>
    simp [h, Option.bind_eq_some_iff, Option.guard_eq_some']
  · next h =>
    refine ⟨fun hn => absurd hn (by simp), ?_⟩
    rintro ⟨source, mint, destination, authority, -, -, haccounts, -⟩
    exact absurd haccounts (h _ _ _ _)

/-- A token transfer on the accounts its instruction names. -/
theorem tokenTransferChecked_of_accounts {ix : Instruction}
    {source mint destination authority : AccountMeta}
    (hix : ix.accounts = [source, mint, destination, authority])
    (h : tokenTransferChecked P m ix = some m') :
    ∃ source' destination', m.owner source.pubkey = ix.programId ∧
      m.owner destination.pubkey = ix.programId ∧
      P.transferChecked ix (m.accounts source.pubkey) (m.accounts mint.pubkey)
        (m.accounts destination.pubkey) = some (source', destination') ∧
      (((m.setLamports source.pubkey source'.lamports).setData source.pubkey
        source'.data).setLamports destination.pubkey destination'.lamports).setData
          destination.pubkey destination'.data = m' := by
  obtain ⟨s, t, d, b, s', d', hmetas, howner, howner', hcall, hm'⟩ :=
    tokenTransferChecked_eq_some.mp h
  rw [hix] at hmetas
  injection hmetas with hs hrest
  injection hrest with ht hrest
  injection hrest with hd _
  subst hs ht hd
  exact ⟨s', d', howner, howner', hcall, hm'⟩

/-- The rule of `invoke_signed`: nothing is borrowed on entry of a handler, so what is
left are the privileges and the callee. -/
theorem invokeSigned_eq_ok {c : CpiInstruction} {infos : List AccountInfo}
    {signers : List (List (List UInt8))} {e : DualKeyError} {u : Unit} :
    invokeSigned P c infos signers e inv.enter m = .ok (u, m') ↔
      (∀ seeds ∈ signers, ∃ a, P.createProgramAddress seeds P.programId = some a) ∧
      (∀ entry ∈ c.metas, Privileged P inv signers entry) ∧
      ∃ m₁, runCallee P c m = some m₁ ∧ m₁.log ⟨c, signers⟩ = m' := by
  have hfree : borrowed inv.enter infos c = false := by
    simp [borrowed]
  simp [invokeSigned, hfree, Option.isSome_iff_exists]

/-! ### Creating an account at a signed-for address -/

/-- Allocation followed by assignment to the program, both signed for by `seeds`. -/
theorem invokeSigned_allocate_assign {k : Pubkey} {space : UInt64} {infos : List AccountInfo}
    {seeds : List (List UInt8)} {e e' : DualKeyError} {u : Unit} :
    (do invokeSigned P (.allocate k space) infos [seeds] e
        invokeSigned P (.assign k P.programId) infos [seeds] e' : Prog Unit) inv.enter m =
        .ok (u, m') ↔
      (∃ a, P.createProgramAddress seeds P.programId = some a) ∧
      Privileged P inv [seeds] ⟨k, true, true⟩ ∧
      m.data k = [] ∧ m.owner k = systemProgramId ∧ space.toNat ≤ maxPermittedDataLength ∧
      m.allot P.programId k space seeds = m' := by
  simp only [Exec.bind_eq_ok, invokeSigned_eq_ok, CpiInstruction.metas, runCallee,
    systemAllocate_eq_some, systemAssign_eq_some, List.mem_singleton, forall_eq]
  constructor
  · rintro ⟨_, _, ⟨hseeds, hpriv, _, ⟨hdata, howner, hspace, rfl⟩, rfl⟩, -, -, _, h, rfl⟩
    rcases h with ⟨hprogram, -⟩ | ⟨-, -, -, rfl⟩
    · -- it was an account of the system program, so the assignment was none to itself
      rw [Machine.owner_log, Machine.owner_setData, howner] at hprogram
      exact absurd hprogram.symm P.programId_ne_system
    · exact ⟨hseeds, hpriv, hdata, howner, hspace, rfl⟩
  · rintro ⟨hseeds, hpriv, hdata, howner, hspace, rfl⟩
    refine ⟨(), _, ⟨hseeds, hpriv, _, ⟨hdata, howner, hspace, rfl⟩, rfl⟩, hseeds, hpriv, _,
      Or.inr ⟨?_, ?_, ?_, rfl⟩, rfl⟩
    · rw [Machine.owner_log, Machine.owner_setData, howner]
      exact P.programId_ne_system.symm
    · rw [Machine.owner_log, Machine.owner_setData, howner]
    · -- fresh data is zero, as the assignment demands
      rw [Machine.data_log, Machine.data_setData, if_pos rfl]
      intro b hb
      exact List.eq_of_mem_replicate hb

/-! ### What the callees leave alone -/

/-- A system transfer moves lamports only, and takes them from an account of the system
program. -/
theorem systemTransfer_frame {source target : Pubkey} {lamports : UInt64}
    (h : systemTransfer m source target lamports = some m') :
    (∀ k, m'.data k = m.data k) ∧ (∀ k, m'.owner k = m.owner k) ∧ m'.cpis = m.cpis ∧
    (∀ k, k ≠ target → lamports ≠ 0 → m.owner k ≠ systemProgramId →
      m'.lamports k = m.lamports k) ∧
    lamports ≤ m'.lamports target := by
  obtain ⟨-, howner, rest, total, -, htotal, rfl⟩ := systemTransfer_eq_some.mp h
  refine ⟨fun k => by simp, fun k => by simp, rfl, fun k htarget hpos hk => ?_, ?_⟩
  · have hsource : k ≠ source := by
      rintro rfl
      exact hk (howner.resolve_right hpos)
    rw [Machine.lamports_setLamports, if_neg htarget, Machine.lamports_setLamports,
      if_neg hsource]
  · rw [Machine.lamports_setLamports, if_pos rfl, UInt64.le_iff_toNat_le]
    omega

/-- The balances after a system transfer to another account. -/
theorem systemTransfer_balances {source target : Pubkey} {lamports : UInt64}
    (hne : source ≠ target) (h : systemTransfer m source target lamports = some m') :
    (m'.lamports source).toNat + lamports.toNat = (m.lamports source).toNat ∧
    (m'.lamports target).toNat = (m.lamports target).toNat + lamports.toNat ∧
    ∀ k, k ≠ source → k ≠ target → m'.lamports k = m.lamports k := by
  obtain ⟨-, -, rest, total, hrest, htotal, rfl⟩ := systemTransfer_eq_some.mp h
  rw [Machine.lamports_setLamports, if_neg hne.symm] at htotal
  refine ⟨by simp [hne, hrest], by simp [← htotal], fun k hs ht => by simp [hs, ht]⟩

/-- A source that can pay pays, as long as the target's balance does not overflow. -/
theorem exists_systemTransfer {source target : Pubkey} {lamports : UInt64} (hne : source ≠ target)
    (hdata : m.data source = []) (howner : m.owner source = systemProgramId)
    (hpays : lamports.toNat ≤ (m.lamports source).toNat)
    (hfits : (m.lamports target).toNat + lamports.toNat < 2 ^ 64) :
    ∃ m', systemTransfer m source target lamports = some m' := by
  have hbalance := (m.lamports source).toNat_lt
  refine ⟨_, systemTransfer_eq_some.mpr ⟨hdata, Or.inl howner,
    UInt64.ofNat ((m.lamports source).toNat - lamports.toNat),
    UInt64.ofNat ((m.lamports target).toNat + lamports.toNat), ?_, ?_, rfl⟩⟩
  · rw [UInt64.toNat_ofNat_of_lt' (by rw [show UInt64.size = 2 ^ 64 from rfl]; omega)]
    omega
  · rw [Machine.lamports_setLamports, if_neg hne.symm, UInt64.toNat_ofNat_of_lt' hfits]

/-- A token transfer changes two accounts of the token program and keeps their owner. -/
theorem tokenTransferChecked_frame {ix : Instruction}
    (h : tokenTransferChecked P m ix = some m') :
    (∀ k, m'.owner k = m.owner k) ∧ m'.cpis = m.cpis ∧
    ∀ k, m.owner k ≠ ix.programId → m'.data k = m.data k ∧ m'.lamports k = m.lamports k := by
  obtain ⟨source, mint, destination, -, source', destination', -, hsource, hdestination, -, rfl⟩ :=
    tokenTransferChecked_eq_some.mp h
  refine ⟨fun k => by simp, rfl, fun k hk => ?_⟩
  -- source and destination belong to the token program
  have hks : k ≠ source.pubkey := by
    rintro rfl
    exact hk hsource
  have hkd : k ≠ destination.pubkey := by
    rintro rfl
    exact hk hdestination
  simp [hks, hkd]

end Specs

end DualKey
