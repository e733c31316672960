import DualKey.Core.Recovery
import DualKey.Core.State
import Mathlib.Logic.Function.Basic

/-!
# Accounts, instructions and the machine

The machine is the account store of the chain together with the cross-program
invocations the running instruction has made. An `InvokeContext` is everything a
submitter and the runtime fix before an instruction runs: its account list and
data, the clock slot, the rent schedule and the instructions of its transaction.
An `Invocation` is one whose rent schedule is nowhere zero, as on every cluster;
the program runs without this, the chain relies on it.

A cell of an account that is mutably borrowed is recorded in `Env.held`. The
checked accessors report a held cell as an error; the unchecked ones panic.
-/

namespace DualKey

/-- The system program, 32 zero bytes. -/
def systemProgramId : Pubkey := ByteVec.zero 32

/-- An account as the runtime stores it. -/
@[ext] structure Account where
  lamports : UInt64
  owner : Pubkey
  data : List UInt8
deriving DecidableEq

/-- One entry of the account list an instruction receives. -/
structure AccountInfo where
  key : Pubkey
  isSigner : Bool
  isWritable : Bool
deriving DecidableEq

/-- One account an instruction names, with the privileges it asks for. -/
structure AccountMeta where
  pubkey : Pubkey
  isSigner : Bool
  isWritable : Bool
deriving DecidableEq

/-- An instruction of a transaction, or of a cross-program invocation. -/
structure Instruction where
  programId : Pubkey
  accounts : List AccountMeta
  data : List UInt8
deriving DecidableEq

/-- The rent schedule: the balance that makes an account of `n` bytes rent-exempt. -/
structure Rent where
  minimumBalance : ℕ → UInt64

/-- What an instruction is run with. -/
structure InvokeContext where
  accounts : List AccountInfo
  /-- Instruction data, the discriminator byte included. -/
  data : List UInt8
  slot : UInt64
  rent : Rent
  /-- The instructions of the transaction, as the instructions sysvar shows them. -/
  instructions : List Instruction
  /-- The position in `instructions` of the top-level instruction that runs. -/
  current : ℕ

namespace InvokeContext

/-- The instruction immediately before the current one. -/
def predecessor (inv : InvokeContext) : Option Instruction :=
  match inv.current with
  | 0 => none
  | i + 1 => inv.instructions[i]?

end InvokeContext

/-- An invocation on a cluster that asks for rent: an exempt account holds lamports. -/
structure Invocation extends InvokeContext where
  rentPos : ∀ n, 0 < rent.minimumBalance n

instance : Coe Invocation InvokeContext := ⟨Invocation.toInvokeContext⟩

/-- The two interior cells of an account. -/
inductive Cell where
  | lamports (key : Pubkey)
  | data (key : Pubkey)
deriving DecidableEq

/-- The environment of a running instruction: its context and the cells that are mutably
borrowed. -/
structure Env extends InvokeContext where
  held : List Cell

/-- The environment an instruction starts in: nothing is borrowed. -/
def InvokeContext.enter (inv : InvokeContext) : Env := { inv with held := [] }

/-- A command to the system program or an instruction to a token program. -/
inductive CpiInstruction where
  | transfer (source target : Pubkey) (lamports : UInt64)
  | allocate (account : Pubkey) (space : UInt64)
  | assign (account owner : Pubkey)
  | token (ix : Instruction)
deriving DecidableEq

/-- The accounts a cross-program invocation names. -/
def CpiInstruction.metas : CpiInstruction → List AccountMeta
  | transfer source target _ => [⟨source, true, true⟩, ⟨target, false, true⟩]
  | allocate account _ => [⟨account, true, true⟩]
  | assign account _ => [⟨account, true, true⟩]
  | token ix => ix.accounts

/-- A cross-program invocation that was made: the instruction and the signer seeds. -/
structure Cpi where
  instruction : CpiInstruction
  signers : List (List (List UInt8))
deriving DecidableEq

/-- The account store and the invocations made by the running instruction. -/
structure Machine where
  accounts : Pubkey → Account
  cpis : List Cpi

namespace Machine

variable (m : Machine) (k k' : Pubkey)

def lamports : UInt64 := (m.accounts k).lamports
def owner : Pubkey := (m.accounts k).owner
def data : List UInt8 := (m.accounts k).data

/-- Replace one account. -/
def set (a : Account) : Machine := { m with accounts := Function.update m.accounts k a }

def setLamports (lamports : UInt64) : Machine := m.set k { m.accounts k with lamports := lamports }
def setOwner (owner : Pubkey) : Machine := m.set k { m.accounts k with owner := owner }
def setData (data : List UInt8) : Machine := m.set k { m.accounts k with data := data }

/-- Record an invocation. -/
def log (cpi : Cpi) : Machine := { m with cpis := m.cpis ++ [cpi] }

section Updates

/-! Each update shows in one component of one account. -/

theorem accounts_set (a : Account) :
    (m.set k a).accounts k' = if k' = k then a else m.accounts k' :=
  Function.update_apply _ _ _ _

/-- An update that keeps a component of one account keeps it in all of them. -/
theorem component_set {β : Type} (f : Account → β) {a : Account} (h : f a = f (m.accounts k)) :
    f ((m.set k a).accounts k') = f (m.accounts k') := by
  rw [accounts_set]
  split
  · next hk => rw [h, hk]
  · rfl

@[simp] theorem data_setData (d : List UInt8) :
    (m.setData k d).data k' = if k' = k then d else m.data k' := by
  rw [Machine.data, setData, accounts_set]
  split <;> rfl

@[simp] theorem owner_setData (d : List UInt8) : (m.setData k d).owner k' = m.owner k' :=
  m.component_set k k' Account.owner rfl

@[simp] theorem lamports_setData (d : List UInt8) :
    (m.setData k d).lamports k' = m.lamports k' :=
  m.component_set k k' Account.lamports rfl

@[simp] theorem lamports_setLamports (l : UInt64) :
    (m.setLamports k l).lamports k' = if k' = k then l else m.lamports k' := by
  rw [Machine.lamports, setLamports, accounts_set]
  split <;> rfl

@[simp] theorem owner_setLamports (l : UInt64) : (m.setLamports k l).owner k' = m.owner k' :=
  m.component_set k k' Account.owner rfl

@[simp] theorem data_setLamports (l : UInt64) : (m.setLamports k l).data k' = m.data k' :=
  m.component_set k k' Account.data rfl

@[simp] theorem owner_setOwner (o : Pubkey) :
    (m.setOwner k o).owner k' = if k' = k then o else m.owner k' := by
  rw [Machine.owner, setOwner, accounts_set]
  split <;> rfl

@[simp] theorem data_setOwner (o : Pubkey) : (m.setOwner k o).data k' = m.data k' :=
  m.component_set k k' Account.data rfl

@[simp] theorem lamports_setOwner (o : Pubkey) :
    (m.setOwner k o).lamports k' = m.lamports k' :=
  m.component_set k k' Account.lamports rfl

@[simp] theorem cpis_setData (d : List UInt8) : (m.setData k d).cpis = m.cpis := rfl
@[simp] theorem cpis_setLamports (l : UInt64) : (m.setLamports k l).cpis = m.cpis := rfl
@[simp] theorem cpis_setOwner (o : Pubkey) : (m.setOwner k o).cpis = m.cpis := rfl

@[simp] theorem data_log (cpi : Cpi) : (m.log cpi).data k = m.data k := rfl
@[simp] theorem owner_log (cpi : Cpi) : (m.log cpi).owner k = m.owner k := rfl
@[simp] theorem lamports_log (cpi : Cpi) : (m.log cpi).lamports k = m.lamports k := rfl
@[simp] theorem cpis_log (cpi : Cpi) : (m.log cpi).cpis = m.cpis ++ [cpi] := rfl

end Updates

variable {m k k'}

end Machine

/-- A handler: it reads the environment and updates the machine. -/
abbrev Prog (α : Type) := Exec Env Machine DualKeyError α

/-! ### Account lists

A handler destructures its account list with a slice pattern of fixed length. -/

def twoAccounts : List AccountInfo → DkRes (AccountInfo × AccountInfo)
  | [a, b] => .ok (a, b)
  | _ => Res.fail .malformedInstructionData

def threeAccounts : List AccountInfo → DkRes (AccountInfo × AccountInfo × AccountInfo)
  | [a, b, c] => .ok (a, b, c)
  | _ => Res.fail .malformedInstructionData

def fiveAccounts : List AccountInfo →
    DkRes (AccountInfo × AccountInfo × AccountInfo × AccountInfo × AccountInfo)
  | [a, b, c, d, e] => .ok (a, b, c, d, e)
  | _ => Res.fail .malformedInstructionData

def sevenAccounts : List AccountInfo →
    DkRes (AccountInfo × AccountInfo × AccountInfo × AccountInfo × AccountInfo × AccountInfo ×
      AccountInfo)
  | [a, b, c, d, e, f, g] => .ok (a, b, c, d, e, f, g)
  | _ => Res.fail .malformedInstructionData

@[simp] theorem twoAccounts_eq_ok {l : List AccountInfo} {a b : AccountInfo} :
    twoAccounts l = .ok (a, b) ↔ l = [a, b] := by
  unfold twoAccounts
  split
  · simp
  · next h => exact ⟨fun hf => absurd hf Res.fail_ne_ok, fun hl => absurd hl (h _ _)⟩

@[simp] theorem threeAccounts_eq_ok {l : List AccountInfo} {a b c : AccountInfo} :
    threeAccounts l = .ok (a, b, c) ↔ l = [a, b, c] := by
  unfold threeAccounts
  split
  · simp
  · next h => exact ⟨fun hf => absurd hf Res.fail_ne_ok, fun hl => absurd hl (h _ _ _)⟩

@[simp] theorem fiveAccounts_eq_ok {l : List AccountInfo} {a b c d e : AccountInfo} :
    fiveAccounts l = .ok (a, b, c, d, e) ↔ l = [a, b, c, d, e] := by
  unfold fiveAccounts
  split
  · simp
  · next h => exact ⟨fun hf => absurd hf Res.fail_ne_ok, fun hl => absurd hl (h _ _ _ _ _)⟩

@[simp] theorem sevenAccounts_eq_ok {l : List AccountInfo} {a b c d e f g : AccountInfo} :
    sevenAccounts l = .ok (a, b, c, d, e, f, g) ↔ l = [a, b, c, d, e, f, g] := by
  unfold sevenAccounts
  split
  · simp
  · next h => exact ⟨fun hf => absurd hf Res.fail_ne_ok, fun hl => absurd hl (h _ _ _ _ _ _ _)⟩

/-! ### Account accessors

A borrow of account data is a scope: the continuation sees the bytes, and a mutable
borrow writes the continuation's bytes back. The continuation is pure, so nothing else
is accessed while it runs. -/

namespace AccountInfo

variable (a : AccountInfo) {α : Type}

/-- The program that owns the account. -/
def owner : Prog Pubkey := Exec.gets fun m => m.owner a.key

/-- `data_is_empty()`, which panics when the data is mutably borrowed. -/
def dataIsEmpty : Prog Bool := do
  let env ← Exec.ask
  Exec.panicUnless (Cell.data a.key ∉ env.held)
  Exec.gets fun m => (m.data a.key).isEmpty

/-- `data_len()`, which panics when the data is mutably borrowed. -/
def dataLen : Prog ℕ := do
  let env ← Exec.ask
  Exec.panicUnless (Cell.data a.key ∉ env.held)
  Exec.gets fun m => (m.data a.key).length

/-- `lamports()`, which panics when the lamports are mutably borrowed. -/
def lamports : Prog UInt64 := do
  let env ← Exec.ask
  Exec.panicUnless (Cell.lamports a.key ∉ env.held)
  Exec.gets fun m => m.lamports a.key

/-- `try_borrow_data`, scoped. -/
def tryBorrowData (k : List UInt8 → DkRes α) : Prog α := do
  let env ← Exec.ask
  Exec.failIf (Cell.data a.key ∈ env.held) .invalidAccountData
  let data ← Exec.gets fun m => m.data a.key
  liftM (k data)

/-- `try_borrow_mut_data`, scoped: the continuation returns the new bytes. -/
def tryBorrowMutData (k : List UInt8 → DkRes (List UInt8 × α)) : Prog α := do
  let env ← Exec.ask
  Exec.failIf (Cell.data a.key ∈ env.held) .invalidAccountData
  let data ← Exec.gets fun m => m.data a.key
  -- the continuation is pure, so the cell need not be held while it runs
  let (data', result) ← liftM (k data)
  Exec.modify fun m => m.setData a.key data'
  pure result

/-- `try_borrow_mut_lamports`, scoped: the cell stays held while the continuation
computes the new balance. -/
def tryBorrowMutLamports (k : UInt64 → Prog UInt64) : Prog Unit := do
  let env ← Exec.ask
  Exec.failIf (Cell.lamports a.key ∈ env.held) .invalidAccountData
  let balance ← Exec.gets fun m => m.lamports a.key
  let balance' ← Exec.withEnv (fun env => { env with held := .lamports a.key :: env.held })
    (k balance)
  Exec.modify fun m => m.setLamports a.key balance'

/-- Borrow the data mutably as a vault account and update it (`HybridAccount::try_from_bytes`
on a mutable borrow). -/
def updateVault (f : HybridAccount → DkRes HybridAccount) : Prog Unit :=
  a.tryBorrowMutData fun data => do
    let account ← HybridAccount.tryFromBytes data
    let account ← f account
    pure (account.data, ())

/-- Borrow the data mutably as a recovery config and update it
(`RecoveryConfig::try_from_bytes` on a mutable borrow). -/
def updateConfig (f : RecoveryConfig → DkRes (RecoveryConfig × α)) : Prog α :=
  a.tryBorrowMutData fun data => do
    let config ← RecoveryConfig.tryFromBytes data
    let (config, result) ← f config
    pure (config.data, result)

end AccountInfo

section Specs

/-! What an accessor returns when nothing is borrowed. -/

variable {inv : InvokeContext} {m m' : Machine} {a : AccountInfo} {α : Type} {x : α}

@[simp] theorem held_enter : inv.enter.held = [] := rfl
@[simp] theorem toInvokeContext_enter : inv.enter.toInvokeContext = inv := rfl

@[simp] theorem AccountInfo.owner_eq_ok {r : Env} {o : Pubkey} :
    a.owner r m = .ok (o, m') ↔ m.owner a.key = o ∧ m = m' := by
  simp [AccountInfo.owner]

theorem AccountInfo.dataIsEmpty_enter :
    a.dataIsEmpty inv.enter m = .ok ((m.data a.key).isEmpty, m) := rfl

theorem AccountInfo.dataLen_enter :
    a.dataLen inv.enter m = .ok ((m.data a.key).length, m) := rfl

theorem AccountInfo.lamports_enter :
    a.lamports inv.enter m = .ok (m.lamports a.key, m) := rfl

@[simp] theorem AccountInfo.dataIsEmpty_eq_ok {b : Bool} :
    a.dataIsEmpty inv.enter m = .ok (b, m') ↔ (m.data a.key).isEmpty = b ∧ m = m' := by
  rw [dataIsEmpty_enter, Except.ok.injEq, Prod.mk.injEq]

@[simp] theorem AccountInfo.dataLen_eq_ok {n : ℕ} :
    a.dataLen inv.enter m = .ok (n, m') ↔ (m.data a.key).length = n ∧ m = m' := by
  rw [dataLen_enter, Except.ok.injEq, Prod.mk.injEq]

@[simp] theorem AccountInfo.lamports_eq_ok {l : UInt64} :
    a.lamports inv.enter m = .ok (l, m') ↔ m.lamports a.key = l ∧ m = m' := by
  rw [lamports_enter, Except.ok.injEq, Prod.mk.injEq]

@[simp] theorem AccountInfo.tryBorrowData_eq_ok {k : List UInt8 → DkRes α} :
    a.tryBorrowData k inv.enter m = .ok (x, m') ↔ k (m.data a.key) = .ok x ∧ m = m' := by
  show (Exec.liftRes (k (m.data a.key)) : Prog α) inv.enter m = _ ↔ _
  exact Exec.liftRes_eq_ok

@[simp] theorem AccountInfo.tryBorrowMutData_eq_ok {k : List UInt8 → DkRes (List UInt8 × α)} :
    a.tryBorrowMutData k inv.enter m = .ok (x, m') ↔
      ∃ d, k (m.data a.key) = .ok (d, x) ∧ m.setData a.key d = m' := by
  simp [AccountInfo.tryBorrowMutData]

/-- A balance can be borrowed when its cell is free; the cell is held meanwhile. -/
theorem AccountInfo.tryBorrowMutLamports_eq_ok {k : UInt64 → Prog UInt64} {env : Env} {u : Unit} :
    a.tryBorrowMutLamports k env m = .ok (u, m') ↔
      Cell.lamports a.key ∉ env.held ∧
      ∃ l m₁, k (m.lamports a.key) { env with held := .lamports a.key :: env.held } m =
          .ok (l, m₁) ∧ m₁.setLamports a.key l = m' := by
  simp [AccountInfo.tryBorrowMutLamports]

theorem AccountInfo.updateVault_eq_ok {f : HybridAccount → DkRes HybridAccount} {u : Unit} :
    a.updateVault f inv.enter m = .ok (u, m') ↔
      ∃ v v', m.data a.key = v.data ∧ f v = .ok v' ∧ m.setData a.key v'.data = m' := by
  simp only [updateVault, tryBorrowMutData_eq_ok, Res.bind_eq_ok, Res.pure_eq_ok,
    HybridAccount.tryFromBytes_eq_ok, Prod.mk.injEq, and_true]
  constructor
  · rintro ⟨_, ⟨v, hv, v', hf, rfl⟩, hm⟩
    exact ⟨v, v', hv.symm, hf, hm⟩
  · rintro ⟨v, v', hv, hf, hm⟩
    exact ⟨_, ⟨v, hv.symm, v', hf, rfl⟩, hm⟩

theorem AccountInfo.updateConfig_eq_ok {f : RecoveryConfig → DkRes (RecoveryConfig × α)} :
    a.updateConfig f inv.enter m = .ok (x, m') ↔
      ∃ c c', m.data a.key = c.data ∧ f c = .ok (c', x) ∧ m.setData a.key c'.data = m' := by
  simp only [updateConfig, tryBorrowMutData_eq_ok, Res.bind_eq_ok, Res.pure_eq_ok,
    RecoveryConfig.tryFromBytes_eq_ok, Prod.exists, Prod.mk.injEq]
  constructor
  · rintro ⟨_, ⟨c, hc, c', _, hf, rfl, rfl⟩, hm⟩
    exact ⟨c, c', hc.symm, hf, hm⟩
  · rintro ⟨c, c', hc, hf, hm⟩
    exact ⟨_, ⟨c, hc.symm, c', x, hf, rfl, rfl⟩, hm⟩

/-- Updating a vault account whose view is known. -/
theorem AccountInfo.updateVault_of_data {f : HybridAccount → DkRes HybridAccount} {u : Unit}
    {v : HybridAccount} (hv : m.data a.key = v.data) :
    a.updateVault f inv.enter m = .ok (u, m') ↔
      ∃ v', f v = .ok v' ∧ m.setData a.key v'.data = m' := by
  rw [updateVault_eq_ok]
  constructor
  · rintro ⟨w, v', hw, hf, hm⟩
    -- the view that was opened is the known one
    rw [← HybridAccount.data_injective (hv.symm.trans hw)] at hf
    exact ⟨v', hf, hm⟩
  · rintro ⟨v', hf, hm⟩
    exact ⟨v, v', hv, hf, hm⟩

end Specs

end DualKey
