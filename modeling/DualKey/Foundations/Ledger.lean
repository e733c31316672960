import Mathlib.Algebra.BigOperators.Group.Finset.Basic

/-!
# Totals of balances

A ledger gives every account of a finite set a balance. `total_update` says how setting one
balance changes the total; from it, a payment keeps the total, also when payer and payee
are one account (`total_pay`), and so does any exchange between two accounts
(`total_exchange`).
-/

namespace Ledger

variable {ι : Type*} [Fintype ι] {f : ι → ℕ} {i j : ι} {x y n : ℕ}

/-- The sum of all balances. -/
def total (f : ι → ℕ) : ℕ := ∑ i, f i

variable [DecidableEq ι]

/-- Setting a balance changes the total by the new balance minus the old one. -/
theorem total_update (f : ι → ℕ) (i : ι) (x : ℕ) :
    total (Function.update f i x) + f i = total f + x := by
  have hsplit : f i + ∑ j ∈ Finset.univ.erase i, f j = total f :=
    Finset.add_sum_erase Finset.univ f (Finset.mem_univ i)
  have hsplit' : Function.update f i x i + ∑ j ∈ Finset.univ.erase i, Function.update f i x j =
      total (Function.update f i x) :=
    Finset.add_sum_erase Finset.univ _ (Finset.mem_univ i)
  -- the other accounts contribute the same to both totals
  have hrest : ∑ j ∈ Finset.univ.erase i, Function.update f i x j =
      ∑ j ∈ Finset.univ.erase i, f j :=
    Finset.sum_congr rfl fun j hj => Function.update_of_ne (Finset.ne_of_mem_erase hj) _ _
  rw [hrest, Function.update_self] at hsplit'
  calc total (Function.update f i x) + f i
      = x + ∑ j ∈ Finset.univ.erase i, f j + f i := by rw [hsplit']
    _ = f i + ∑ j ∈ Finset.univ.erase i, f j + x := by omega
    _ = total f + x := by rw [hsplit]

/-- A payment of `n` from `i` to `j`, debited before it is credited. -/
theorem total_pay (hdebit : x + n = f i) (hcredit : Function.update f i x j + n = y) :
    total (Function.update (Function.update f i x) j y) = total f := by
  have hfirst := total_update f i x
  -- the credited balance is read after the debit, which matters when `i` is `j`
  have hsecond := total_update (Function.update f i x) j y
  omega

/-- An exchange between two accounts. -/
theorem total_exchange (hne : i ≠ j) (h : x + y = f i + f j) :
    total (Function.update (Function.update f i x) j y) = total f := by
  have hfirst := total_update f i x
  have hsecond := total_update (Function.update f i x) j y
  rw [Function.update_of_ne hne.symm] at hsecond
  omega

end Ledger
