import DualKey.Foundations.Buffer

/-!
# Byte slices and machine words

The accesses of `Buffer` take positions that are natural numbers. A compiled program has
positions of 64 bits, adds them, and panics when a sum does not fit. What keeps such sums in range
is the bound on the length of a slice, which leaves half of the words unused: `Slice` carries it,
`usizeAdd` is the addition, and the accesses by machine words agree with those of `Buffer`.
-/

/-- The largest length of an allocation (`isize::MAX`). -/
def isizeMax : ℕ := 2 ^ 63 - 1

/-- A borrowed byte slice. -/
structure Slice where
  bytes : List UInt8
  /-- No allocation is longer. -/
  length_le : bytes.length ≤ isizeMax

section Words

variable {ε : Type}

/-- `a + b` on `usize`: the exact sum, or a panic. -/
def usizeAdd (a b : UInt64) : Res ε { c : UInt64 // c.toNat = a.toNat + b.toNat } :=
  if h : a.toNat + b.toNat < 2 ^ 64 then
    .ok ⟨a + b, by rw [UInt64.toNat_add, Nat.mod_eq_of_lt h]⟩
  else
    .error .panic

/-- A sum that fits is returned. -/
theorem usizeAdd_of_lt {a b : UInt64} (h : a.toNat + b.toNat < 2 ^ 64) :
    ∃ c : { c : UInt64 // c.toNat = a.toNat + b.toNat }, (usizeAdd a b : Res ε _) = .ok c := by
  unfold usizeAdd
  rw [dif_pos h]
  exact ⟨_, rfl⟩

end Words

namespace Slice

open Buffer

variable {ε : Type} (xs : Slice)

/-- `xs.len()`. -/
def len : UInt64 := UInt64.ofNat xs.bytes.length

theorem length_lt : xs.bytes.length < 2 ^ 63 := by
  have hle := xs.length_le
  unfold isizeMax at hle
  omega

@[simp] theorem toNat_len : xs.len.toNat = xs.bytes.length :=
  UInt64.toNat_ofNat_of_lt' (Nat.lt_trans xs.length_lt (by decide))

/-- `xs[start..stop]`. -/
def range (start stop : UInt64) : Res ε (List UInt8) := do
  Res.panicUnless (start ≤ stop ∧ stop ≤ xs.len)
  pure (read xs.bytes start.toNat (stop.toNat - start.toNat))

/-- `xs[start..stop]` copied into an array of `n` bytes, which panics when the lengths differ. -/
def rangeVec (n : ℕ) (start stop : UInt64) : Res ε (ByteVec n) := do
  Res.panicUnless (start.toNat + n = stop.toNat ∧ stop ≤ xs.len)
  pure (readVec n xs.bytes start.toNat)

/-- `xs.get(start..stop)`. -/
def get (start stop : UInt64) : Option (List UInt8) :=
  if start ≤ stop ∧ stop ≤ xs.len then
    some (read xs.bytes start.toNat (stop.toNat - start.toNat))
  else
    none

/-! ### The accesses by natural numbers -/

variable {xs} {start stop : UInt64} {n : ℕ}

theorem range_eq_slice (hstop : stop.toNat = start.toNat + n) :
    (xs.range start stop : Res ε _) = slice xs.bytes start.toNat n := by
  have hbounds : start ≤ stop ∧ stop ≤ xs.len ↔ start.toNat + n ≤ xs.bytes.length := by
    rw [UInt64.le_iff_toNat_le, UInt64.le_iff_toNat_le, toNat_len, hstop]
    omega
  unfold range slice
  simp only [hbounds, hstop, Nat.add_sub_cancel_left]

theorem rangeVec_eq_sliceVec (hstop : stop.toNat = start.toNat + n) :
    (xs.rangeVec n start stop : Res ε _) = sliceVec n xs.bytes start.toNat := by
  have hbounds : start.toNat + n = stop.toNat ∧ stop ≤ xs.len ↔
      start.toNat + n ≤ xs.bytes.length := by
    rw [UInt64.le_iff_toNat_le, toNat_len, hstop]
    omega
  unfold rangeVec sliceVec
  simp only [hbounds]

theorem get_eq_readRange (hstop : stop.toNat = start.toNat + n) :
    xs.get start stop = readRange xs.bytes start.toNat n := by
  have hbounds : start ≤ stop ∧ stop ≤ xs.len ↔ start.toNat + n ≤ xs.bytes.length := by
    rw [UInt64.le_iff_toNat_le, UInt64.le_iff_toNat_le, toNat_len, hstop]
    omega
  unfold get readRange
  simp only [hbounds, hstop, Nat.add_sub_cancel_left]

end Slice
