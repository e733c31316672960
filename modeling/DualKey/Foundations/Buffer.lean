import DualKey.Foundations.Exec
import Mathlib.Data.Vector.Basic

/-!
# Fixed-width fields of a byte buffer

A packed account or message is a byte buffer whose fields sit at fixed offsets.
`Buffer.read` and `Buffer.write` are the two accesses, `Buffer.byteAt` the access
to one byte, and the lemmas are the laws of lenses: a write inside the buffer
keeps its length, is read back by a read of the same range, and is invisible to a
read of a disjoint range. A read past the end yields zero bytes; `Buffer.index`,
`Buffer.slice` and `Buffer.sliceVec` are the accesses that panic there.

Integers are stored in little-endian order. `leBytes` and `leNat` are the codec at
any width, and the `UInt16`, `UInt32` and `UInt64` codecs are its instances.
-/

/-- A byte array of fixed length (`[u8; n]`). -/
abbrev ByteVec (n : ℕ) := List.Vector UInt8 n

/-- The all-zero array. -/
def ByteVec.zero (n : ℕ) : ByteVec n := List.Vector.replicate n 0

/-- A property of a byte holds when it holds of the 256 values. -/
theorem forall_byte {p : UInt8 → Prop} (h : ∀ n < 256, p (UInt8.ofNat n)) (b : UInt8) : p b := by
  have hb := h b.toNat b.toNat_lt
  rwa [UInt8.ofNat_toNat] at hb

namespace Buffer

/-- The byte at position `i`, zero past the end. -/
def byteAt (xs : List UInt8) (i : ℕ) : UInt8 := xs.getD i 0

/-- The `n` bytes from position `off`, padded with zeros past the end. -/
def read (xs : List UInt8) (off n : ℕ) : List UInt8 := (xs.drop off).takeD n 0

/-- The `n` bytes from position `off` as an array. -/
def readVec (n : ℕ) (xs : List UInt8) (off : ℕ) : ByteVec n :=
  ⟨read xs off n, List.takeD_length _ _ _⟩

/-- The `n` bytes from position `off`, when they all lie inside (`get(off..off + n)`). -/
def readRange (xs : List UInt8) (off n : ℕ) : Option (List UInt8) :=
  if off + n ≤ xs.length then some (read xs off n) else none

/-- `split_at_checked(mid)`. -/
def splitAtChecked (xs : List UInt8) (mid : ℕ) : Option (List UInt8 × List UInt8) :=
  if mid ≤ xs.length then some (xs.take mid, xs.drop mid) else none

/-- Overwrite the range that starts at `off` with `ys`. -/
def write (xs : List UInt8) (off : ℕ) (ys : List UInt8) : List UInt8 :=
  xs.take off ++ ys ++ xs.drop (off + ys.length)

/-- Overwrite the byte at position `off`. -/
def writeByte (xs : List UInt8) (off : ℕ) (b : UInt8) : List UInt8 := write xs off [b]

/-- Overwrite the range that starts at `off` with an array. -/
def writeVec {n : ℕ} (xs : List UInt8) (off : ℕ) (v : ByteVec n) : List UInt8 :=
  write xs off v.toList

variable {xs ys zs : List UInt8} {off off' n m i : ℕ} {b : UInt8}

/-! ### Reads and writes, position by position -/

theorem getD_takeD (l : List UInt8) (n i : ℕ) :
    (l.takeD n 0).getD i 0 = if i < n then l.getD i 0 else 0 := by
  induction n generalizing l i with
  | zero => simp
  | succ n ih =>
    cases i with
    | zero => cases l <;> simp
    | succ i =>
      have h := ih l.tail i
      cases l <;> simp_all

@[simp] theorem length_read : (read xs off n).length = n := List.takeD_length _ _ _

theorem byteAt_read : byteAt (read xs off n) i = if i < n then byteAt xs (off + i) else 0 := by
  unfold byteAt read
  rw [getD_takeD]
  simp [List.getD_eq_getElem?_getD]

theorem readRange_eq_some :
    readRange xs off n = some ys ↔ off + n ≤ xs.length ∧ read xs off n = ys := by
  unfold readRange
  split <;> simp_all

theorem splitAtChecked_eq_some {zs : List UInt8} {mid : ℕ} :
    splitAtChecked xs mid = some (ys, zs) ↔
      mid ≤ xs.length ∧ xs.take mid = ys ∧ xs.drop mid = zs := by
  unfold splitAtChecked
  split <;> simp_all

theorem length_write (h : off + ys.length ≤ xs.length) : (write xs off ys).length = xs.length := by
  simp only [write, List.length_append, List.length_take, List.length_drop]
  omega

theorem byteAt_write (h : off + ys.length ≤ xs.length) :
    byteAt (write xs off ys) i =
      if off ≤ i ∧ i < off + ys.length then byteAt ys (i - off) else byteAt xs i := by
  unfold byteAt write
  simp only [List.getD_eq_getElem?_getD, List.append_assoc]
  have hoff : (xs.take off).length = off := by
    rw [List.length_take]
    omega
  by_cases h₁ : i < off
  · -- in front of the range
    rw [List.getElem?_append_left (by omega), List.getElem?_take_of_lt h₁, if_neg (by omega)]
  · rw [List.getElem?_append_right (by omega), hoff]
    by_cases h₂ : i < off + ys.length
    · -- inside it
      rw [List.getElem?_append_left (by omega), if_pos (by omega)]
    · -- behind it
      rw [List.getElem?_append_right (by omega), List.getElem?_drop, if_neg (by omega),
        show off + ys.length + (i - off - ys.length) = i by omega]

/-- Two buffers of one length with the same bytes are equal. -/
theorem ext_byteAt (hlen : xs.length = ys.length) (h : ∀ i < xs.length, byteAt xs i = byteAt ys i) :
    xs = ys := by
  refine List.ext_getElem hlen fun i h₁ h₂ => ?_
  have := h i h₁
  simpa [byteAt, List.getD_eq_getElem?_getD, h₁, h₂] using this

theorem byteAt_append_left (h : i < xs.length) : byteAt (xs ++ ys) i = byteAt xs i := by
  unfold byteAt
  rw [List.getD_eq_getElem?_getD, List.getD_eq_getElem?_getD, List.getElem?_append_left h]

theorem byteAt_append_right : byteAt (xs ++ ys) (xs.length + i) = byteAt ys i := by
  unfold byteAt
  rw [List.getD_eq_getElem?_getD, List.getD_eq_getElem?_getD,
    List.getElem?_append_right (Nat.le_add_right _ _), Nat.add_sub_cancel_left]

/-- The whole buffer, read as a range. -/
theorem read_whole (hlen : xs.length = n) : read xs 0 n = xs := by
  refine ext_byteAt (by rw [length_read, hlen]) fun i hi => ?_
  rw [length_read] at hi
  rw [byteAt_read, if_pos hi, Nat.zero_add]

/-- A segment of a concatenation, read as a range. -/
theorem read_segment {zs : List UInt8} (hoff : xs.length = off) (hn : ys.length = n) :
    read (xs ++ (ys ++ zs)) off n = ys := by
  rw [read, List.drop_left' hoff, ← hn, List.takeD_left]

/-- A range inside the front of a concatenation. -/
theorem read_append_left (h : off + n ≤ xs.length) : read (xs ++ ys) off n = read xs off n := by
  refine ext_byteAt (by rw [length_read, length_read]) fun i hi => ?_
  rw [length_read] at hi
  rw [byteAt_read, byteAt_read, if_pos hi, if_pos hi, byteAt_append_left (by omega)]

/-- Adjacent ranges read as one. -/
theorem read_append : read xs off n ++ read xs (off + n) m = read xs off (n + m) := by
  refine ext_byteAt (by simp) fun i hi => ?_
  rw [List.length_append, length_read, length_read] at hi
  rw [byteAt_read, if_pos hi]
  by_cases hlt : i < n
  · rw [byteAt_append_left (by rwa [length_read]), byteAt_read, if_pos hlt]
  · obtain ⟨j, rfl⟩ := Nat.exists_eq_add_of_le (Nat.le_of_not_lt hlt)
    have hright : byteAt (read xs off n ++ read xs (off + n) m) ((read xs off n).length + j) =
        byteAt (read xs (off + n) m) j := byteAt_append_right
    rw [length_read] at hright
    rw [hright, byteAt_read, if_pos (by omega), Nat.add_assoc]

/-- A range of one byte. -/
theorem read_one : read xs off 1 = [byteAt xs off] := by
  refine ext_byteAt length_read fun i hi => ?_
  rw [length_read] at hi
  obtain rfl : i = 0 := by omega
  exact byteAt_read

/-- The bytes of a list whose elements are all zero. -/
theorem byteAt_of_all_zero (h : ∀ b ∈ xs, b = 0) : byteAt xs i = 0 := by
  unfold byteAt
  rw [List.getD_eq_getElem?_getD]
  cases hi : xs[i]? with
  | none => rfl
  | some b => exact h b (List.mem_of_getElem? hi)

theorem byteAt_replicate_zero : byteAt (List.replicate n 0) i = 0 :=
  byteAt_of_all_zero fun _ hb => List.eq_of_mem_replicate hb

/-- A range whose bytes are zero reads as the zero array. -/
theorem readVec_eq_zero (h : ∀ j < n, byteAt xs (off + j) = 0) :
    readVec n xs off = ByteVec.zero n := by
  refine Subtype.ext (ext_byteAt ?_ fun j hj => ?_)
  · exact (readVec n xs off).toList_length.trans (ByteVec.zero n).toList_length.symm
  · have hn : j < n := (readVec n xs off).toList_length ▸ hj
    refine Eq.trans ?_ (byteAt_replicate_zero (n := n)).symm
    show byteAt (read xs off n) j = 0
    rw [byteAt_read, if_pos hn, h j hn]

/-! ### The lens laws -/

theorem read_write_self (h : off + ys.length ≤ xs.length) :
    read (write xs off ys) off ys.length = ys := by
  refine ext_byteAt length_read fun i hi => ?_
  rw [length_read] at hi
  rw [byteAt_read, if_pos hi, byteAt_write h, if_pos (by omega), Nat.add_sub_cancel_left]

theorem read_write_of_disjoint (h : off' + ys.length ≤ xs.length)
    (hd : off + n ≤ off' ∨ off' + ys.length ≤ off) :
    read (write xs off' ys) off n = read xs off n := by
  refine ext_byteAt (by simp) fun i hi => ?_
  rw [length_read] at hi
  rw [byteAt_read, byteAt_read, if_pos hi, if_pos hi, byteAt_write h, if_neg (by omega)]

theorem byteAt_write_of_disjoint (h : off' + ys.length ≤ xs.length)
    (hd : i < off' ∨ off' + ys.length ≤ i) :
    byteAt (write xs off' ys) i = byteAt xs i := by
  rw [byteAt_write h, if_neg (by omega)]

/-! ### Arrays and single bytes -/

@[simp] theorem toList_readVec : (readVec n xs off).toList = read xs off n := rfl

theorem readVec_append_left {zs : List UInt8} (h : off + n ≤ xs.length) :
    readVec n (xs ++ zs) off = readVec n xs off := Subtype.ext (read_append_left h)

theorem readVec_eq_iff {v : ByteVec n} : readVec n xs off = v ↔ read xs off n = v.toList := by
  constructor
  · rintro rfl
    rfl
  · intro h
    exact Subtype.ext h

theorem length_writeVec {v : ByteVec n} (h : off + n ≤ xs.length) :
    (writeVec xs off v).length = xs.length := by
  unfold writeVec
  rw [length_write]
  rwa [v.toList_length]

theorem length_writeByte (h : off < xs.length) : (writeByte xs off b).length = xs.length := by
  show (write xs off [b]).length = xs.length
  exact length_write h

theorem readVec_writeVec_self {v : ByteVec n} (h : off + n ≤ xs.length) :
    readVec n (writeVec xs off v) off = v := by
  rw [readVec_eq_iff]
  unfold writeVec
  have hv := v.toList_length
  have hself : read (write xs off v.toList) off v.toList.length = v.toList :=
    read_write_self (by omega)
  rwa [hv] at hself

theorem readVec_writeVec_of_disjoint {v : ByteVec m} (h : off' + m ≤ xs.length)
    (hd : off + n ≤ off' ∨ off' + m ≤ off) :
    readVec n (writeVec xs off' v) off = readVec n xs off := by
  have hv := v.toList_length
  rw [readVec_eq_iff, toList_readVec]
  exact read_write_of_disjoint (by omega) (by omega)

theorem readVec_writeByte_of_disjoint (h : off' < xs.length) (hd : off + n ≤ off' ∨ off' < off) :
    readVec n (writeByte xs off' b) off = readVec n xs off := by
  rw [readVec_eq_iff, toList_readVec]
  show read (write xs off' [b]) off n = read xs off n
  exact read_write_of_disjoint h hd

theorem byteAt_writeVec_of_disjoint {v : ByteVec m} (h : off' + m ≤ xs.length)
    (hd : i < off' ∨ off' + m ≤ i) : byteAt (writeVec xs off' v) i = byteAt xs i := by
  have hv := v.toList_length
  exact byteAt_write_of_disjoint (by omega) (by omega)

theorem byteAt_writeByte_self (h : off < xs.length) : byteAt (writeByte xs off b) off = b := by
  have hb : off + [b].length ≤ xs.length := h
  unfold writeByte
  rw [byteAt_write hb, if_pos (by simp), Nat.sub_self]
  rfl

theorem byteAt_writeByte_of_ne (h : off' < xs.length) (hne : i ≠ off') :
    byteAt (writeByte xs off' b) i = byteAt xs i := by
  show byteAt (write xs off' [b]) i = byteAt xs i
  exact byteAt_write_of_disjoint h (Nat.lt_or_gt_of_ne hne)

/-! ### Indexing that panics out of bounds -/

section Indexing

variable {ε : Type} (xs : List UInt8) (off n : ℕ)

/-- `xs[i]`. -/
def index (i : ℕ) : Res ε UInt8 := do
  Res.panicUnless (i < xs.length)
  pure (byteAt xs i)

/-- `xs[off..off + n]`. -/
def slice : Res ε (List UInt8) := do
  Res.panicUnless (off + n ≤ xs.length)
  pure (read xs off n)

/-- `xs[off..off + n]` copied into an array. -/
def sliceVec (n : ℕ) (xs : List UInt8) (off : ℕ) : Res ε (ByteVec n) := do
  Res.panicUnless (off + n ≤ xs.length)
  pure (readVec n xs off)

variable {xs off n}

@[simp] theorem index_eq_ok {i : ℕ} {b : UInt8} :
    (index xs i : Res ε UInt8) = .ok b ↔ i < xs.length ∧ byteAt xs i = b := by
  simp [index]

@[simp] theorem slice_eq_ok :
    (slice xs off n : Res ε (List UInt8)) = .ok ys ↔
      off + n ≤ xs.length ∧ read xs off n = ys := by
  simp [slice]

@[simp] theorem sliceVec_eq_ok {v : ByteVec n} :
    (sliceVec n xs off : Res ε (ByteVec n)) = .ok v ↔
      off + n ≤ xs.length ∧ readVec n xs off = v := by
  simp [sliceVec]

theorem index_of_lt {i : ℕ} (h : i < xs.length) : (index xs i : Res ε UInt8) = .ok (byteAt xs i) :=
  index_eq_ok.mpr ⟨h, rfl⟩

theorem sliceVec_of_le (h : off + n ≤ xs.length) :
    (sliceVec n xs off : Res ε (ByteVec n)) = .ok (readVec n xs off) :=
  sliceVec_eq_ok.mpr ⟨h, rfl⟩

/-! Inside the bounds every access returns. -/

theorem index_returns {i : ℕ} (h : i < xs.length) : (index xs i : Res ε UInt8).Returns :=
  Or.inl ⟨_, index_of_lt h⟩

theorem slice_returns (h : off + n ≤ xs.length) : (slice xs off n : Res ε (List UInt8)).Returns :=
  Or.inl ⟨_, slice_eq_ok.mpr ⟨h, rfl⟩⟩

theorem sliceVec_returns (h : off + n ≤ xs.length) :
    (sliceVec n xs off : Res ε (ByteVec n)).Returns :=
  Or.inl ⟨_, sliceVec_of_le h⟩

/-- Reading a whole buffer as an array. -/
theorem sliceVec_whole {v : ByteVec n} (hlen : xs.length = n) :
    (sliceVec n xs 0 : Res ε (ByteVec n)) = .ok v ↔ v.toList = xs := by
  rw [sliceVec_eq_ok, readVec_eq_iff, read_whole hlen]
  constructor
  · rintro ⟨-, hv⟩
    exact hv.symm
  · rintro rfl
    exact ⟨by omega, rfl⟩

end Indexing

end Buffer

/-! ### Buffers of fixed length

The same accesses on a `ByteVec`: a write that fits yields a buffer of the same
length, so the laws need no bound. -/

namespace ByteVec

open Buffer

variable {n m k off off' i : ℕ} {v : ByteVec n} {w : ByteVec m} {b : UInt8}

/-- The byte at position `i`. -/
def getByte (v : ByteVec n) (i : ℕ) : UInt8 := byteAt v.toList i

/-- The array of length `k` at `off`. -/
def getVec (k : ℕ) (v : ByteVec n) (off : ℕ) : ByteVec k := readVec k v.toList off

/-- `copy_from_slice` into the range of `m` bytes at `off`. -/
def putVec (v : ByteVec n) (off : ℕ) (w : ByteVec m) (h : off + m ≤ n) : ByteVec n :=
  ⟨writeVec v.toList off w, by rw [length_writeVec (v.toList_length.symm ▸ h), v.toList_length]⟩

/-- Overwrite the byte at `off`. -/
def putByte (v : ByteVec n) (off : ℕ) (b : UInt8) (h : off < n) : ByteVec n :=
  ⟨writeByte v.toList off b, by rw [length_writeByte (v.toList_length.symm ▸ h), v.toList_length]⟩

@[simp] theorem getVec_putVec_self {h : off + m ≤ n} : getVec m (v.putVec off w h) off = w :=
  readVec_writeVec_self (v.toList_length.symm ▸ h)

theorem getVec_putVec_of_disjoint {h : off' + m ≤ n} (hd : off + k ≤ off' ∨ off' + m ≤ off) :
    getVec k (v.putVec off' w h) off = getVec k v off :=
  readVec_writeVec_of_disjoint (v.toList_length.symm ▸ h) hd

theorem getByte_putVec_of_disjoint {h : off' + m ≤ n} (hd : i < off' ∨ off' + m ≤ i) :
    (v.putVec off' w h).getByte i = v.getByte i :=
  byteAt_writeVec_of_disjoint (v.toList_length.symm ▸ h) hd

theorem getVec_putByte_of_disjoint {h : off' < n} (hd : off + k ≤ off' ∨ off' < off) :
    getVec k (v.putByte off' b h) off = getVec k v off :=
  readVec_writeByte_of_disjoint (v.toList_length.symm ▸ h) hd

@[simp] theorem getByte_putByte_self {h : off < n} : (v.putByte off b h).getByte off = b :=
  byteAt_writeByte_self (v.toList_length.symm ▸ h)

theorem getByte_putByte_of_ne {h : off' < n} (hne : i ≠ off') :
    (v.putByte off' b h).getByte i = v.getByte i :=
  byteAt_writeByte_of_ne (v.toList_length.symm ▸ h) hne

/-- Two arrays with the same bytes are equal. -/
theorem ext_getByte {v w : ByteVec n} (h : ∀ i < n, v.getByte i = w.getByte i) : v = w := by
  refine Subtype.ext (ext_byteAt (v.toList_length.trans w.toList_length.symm) fun i hi => ?_)
  have hlen : (v.1).length = n := v.2
  exact h i (hlen ▸ hi)

theorem getByte_readVec {xs : List UInt8} :
    (readVec n xs off).getByte i = if i < n then byteAt xs (off + i) else 0 := byteAt_read

theorem getByte_getVec : (getVec k v off).getByte i = if i < k then v.getByte (off + i) else 0 :=
  byteAt_read

theorem getByte_putVec {h : off + m ≤ n} :
    (v.putVec off w h).getByte i =
      if off ≤ i ∧ i < off + m then w.getByte (i - off) else v.getByte i := by
  have hfit : off + w.toList.length ≤ v.toList.length := by
    rw [v.toList_length, w.toList_length]
    exact h
  have hat := byteAt_write (i := i) hfit
  rw [w.toList_length] at hat
  exact hat

theorem getByte_putByte {h : off < n} :
    (v.putByte off b h).getByte i = if i = off then b else v.getByte i := by
  by_cases hi : i = off
  · subst hi
    rw [if_pos rfl, getByte_putByte_self]
  · rw [if_neg hi, getByte_putByte_of_ne hi]

/-- A write that lies inside the range that is read. -/
theorem getVec_putVec_inside {h : off' + m ≤ n} (hlo : off ≤ off') (hhi : off' + m ≤ off + k) :
    getVec k (v.putVec off' w h) off = (getVec k v off).putVec (off' - off) w (by omega) := by
  -- byte by byte: a position is written on both sides or on neither
  refine ext_getByte fun i hi => ?_
  rw [getByte_getVec, if_pos hi, getByte_putVec, getByte_putVec, getByte_getVec, if_pos hi]
  by_cases hin : off' ≤ off + i ∧ off + i < off' + m
  · rw [if_pos hin, if_pos (by omega), show off + i - off' = i - (off' - off) by omega]
  · rw [if_neg hin, if_neg (by omega)]

theorem getVec_putByte_inside {h : off' < n} (hlo : off ≤ off') (hhi : off' < off + k) :
    getVec k (v.putByte off' b h) off = (getVec k v off).putByte (off' - off) b (by omega) := by
  refine ext_getByte fun i hi => ?_
  rw [getByte_getVec, if_pos hi, getByte_putByte, getByte_putByte, getByte_getVec, if_pos hi]
  by_cases hin : off + i = off'
  · rw [if_pos hin, if_pos (by omega)]
  · rw [if_neg hin, if_neg (by omega)]

/-! A zeroed buffer reads as zeros everywhere. -/

theorem byteAt_zero : byteAt (zero n).toList i = 0 := byteAt_replicate_zero

theorem getByte_zero : (zero n).getByte i = 0 := byteAt_zero

theorem getVec_zero : getVec k (zero n) off = zero k :=
  readVec_eq_zero fun _ _ => byteAt_zero

/-- A range that reads as zeros has zero bytes. -/
theorem byteAt_of_readVec_zero {xs : List UInt8} (h : readVec n xs off = zero n) (hi : i < n) :
    byteAt xs (off + i) = 0 := by
  have hbyte := congrArg (fun u => getByte u i) h
  simp only [getByte_readVec, if_pos hi, getByte_zero] at hbyte
  exact hbyte

end ByteVec

/-! ### Little-endian integers -/

/-- The `k` low bytes of `n`, least significant first. -/
def leBytes : ℕ → ℕ → List UInt8
  | 0, _ => []
  | k + 1, n => UInt8.ofNat n :: leBytes k (n / 256)

/-- The number whose little-endian bytes are given. -/
def leNat : List UInt8 → ℕ
  | [] => 0
  | b :: bs => b.toNat + 256 * leNat bs

@[simp] theorem length_leBytes (k n : ℕ) : (leBytes k n).length = k := by
  induction k generalizing n with
  | zero => rfl
  | succ k ih => simp [leBytes, ih]

theorem leNat_leBytes (k n : ℕ) : leNat (leBytes k n) = n % 256 ^ k := by
  induction k generalizing n with
  | zero => simp [leBytes, leNat, Nat.mod_one]
  | succ k ih =>
    -- the head is the remainder by 256, the tail codes the quotient
    have hmod : n % (256 * 256 ^ k) = n % 256 + 256 * (n / 256 % 256 ^ k) := Nat.mod_mul
    rw [leBytes, leNat, ih, UInt8.toNat_ofNat', pow_succ' 256 k, hmod]

theorem leNat_lt (bs : List UInt8) : leNat bs < 256 ^ bs.length := by
  induction bs with
  | nil => simp [leNat]
  | cons b bs ih =>
    have hb := b.toNat_lt
    rw [leNat, List.length_cons, pow_succ]
    omega

theorem leBytes_leNat (bs : List UInt8) : leBytes bs.length (leNat bs) = bs := by
  induction bs with
  | nil => rfl
  | cons b bs ih =>
    have hb := b.toNat_lt
    -- a byte is less than 256, so division separates head and tail again
    have hdiv : (b.toNat + 256 * leNat bs) / 256 = leNat bs := by omega
    have hbyte : UInt8.ofNat (b.toNat + 256 * leNat bs) = b := by
      rw [← UInt8.toNat_inj, UInt8.toNat_ofNat']
      omega
    rw [List.length_cons, leNat, leBytes, hdiv, ih, hbyte]

/-- `u16::to_le_bytes`. -/
def u16ToLe (n : UInt16) : ByteVec 2 := ⟨leBytes 2 n.toNat, length_leBytes _ _⟩

/-- `u16::from_le_bytes`. -/
def u16FromLe (v : ByteVec 2) : UInt16 := UInt16.ofNat (leNat v.toList)

/-- `u32::to_le_bytes`. -/
def u32ToLe (n : UInt32) : ByteVec 4 := ⟨leBytes 4 n.toNat, length_leBytes _ _⟩

/-- `u32::from_le_bytes`. -/
def u32FromLe (v : ByteVec 4) : UInt32 := UInt32.ofNat (leNat v.toList)

/-- `u64::to_le_bytes`. -/
def u64ToLe (n : UInt64) : ByteVec 8 := ⟨leBytes 8 n.toNat, length_leBytes _ _⟩

/-- `u64::from_le_bytes`. -/
def u64FromLe (v : ByteVec 8) : UInt64 := UInt64.ofNat (leNat v.toList)

/-- The `u16` at position `i`, zero past the end. -/
def Buffer.u16At (xs : List UInt8) (i : ℕ) : UInt16 := u16FromLe (readVec 2 xs i)

@[simp] theorem u16FromLe_u16ToLe (n : UInt16) : u16FromLe (u16ToLe n) = n := by
  have hn := n.toNat_lt
  change UInt16.ofNat (leNat (leBytes 2 n.toNat)) = n
  rw [leNat_leBytes, Nat.mod_eq_of_lt (by omega), UInt16.ofNat_toNat]

@[simp] theorem u32FromLe_u32ToLe (n : UInt32) : u32FromLe (u32ToLe n) = n := by
  have hn := n.toNat_lt
  change UInt32.ofNat (leNat (leBytes 4 n.toNat)) = n
  rw [leNat_leBytes, Nat.mod_eq_of_lt (by omega), UInt32.ofNat_toNat]

@[simp] theorem u64FromLe_u64ToLe (n : UInt64) : u64FromLe (u64ToLe n) = n := by
  have hn := n.toNat_lt
  change UInt64.ofNat (leNat (leBytes 8 n.toNat)) = n
  rw [leNat_leBytes, Nat.mod_eq_of_lt (by omega), UInt64.ofNat_toNat]

theorem u64FromLe_zero : u64FromLe (ByteVec.zero 8) = 0 := by decide

theorem u32ToLe_injective : Function.Injective u32ToLe :=
  Function.LeftInverse.injective u32FromLe_u32ToLe

theorem u64ToLe_injective : Function.Injective u64ToLe :=
  Function.LeftInverse.injective u64FromLe_u64ToLe

theorem u32ToLe_u32FromLe (v : ByteVec 4) : u32ToLe (u32FromLe v) = v := by
  have hlt := leNat_lt v.toList
  have hround := leBytes_leNat v.toList
  rw [v.toList_length] at hlt hround
  refine Subtype.ext ?_
  -- four bytes stay below 2 ^ 32, so the conversion cuts nothing off
  change leBytes 4 (UInt32.ofNat (leNat v.toList)).toNat = v.toList
  rw [UInt32.toNat_ofNat_of_lt' hlt]
  exact hround

theorem u64ToLe_u64FromLe (v : ByteVec 8) : u64ToLe (u64FromLe v) = v := by
  have hlt := leNat_lt v.toList
  have hround := leBytes_leNat v.toList
  rw [v.toList_length] at hlt hround
  refine Subtype.ext ?_
  -- eight bytes stay below 2 ^ 64
  change leBytes 8 (UInt64.ofNat (leNat v.toList)).toNat = v.toList
  rw [UInt64.toNat_ofNat_of_lt' hlt]
  exact hround

theorem u64FromLe_injective : Function.Injective u64FromLe :=
  Function.LeftInverse.injective u64ToLe_u64FromLe

theorem ne_zero_of_le {a b : UInt64} (h : a ≤ b) (ha : a ≠ 0) : b ≠ 0 := by
  rw [UInt64.le_iff_toNat_le] at h
  rw [ne_eq, ← UInt64.toNat_inj, UInt64.toNat_zero] at ha ⊢
  omega

theorem ne_zero_of_pos {a : UInt64} (h : 0 < a) : a ≠ 0 := by
  rintro rfl
  exact absurd h (by decide)

theorem exists_toNat_eq {n : ℕ} (h : n < 2 ^ 64) : ∃ a : UInt64, a.toNat = n :=
  ⟨UInt64.ofNat n, UInt64.toNat_ofNat_of_lt' h⟩

/-- `u64::checked_add`. -/
def checkedAdd (a b : UInt64) : Option UInt64 :=
  if a.toNat + b.toNat < 2 ^ 64 then some (a + b) else none

/-- `u64::checked_sub`. -/
def checkedSub (a b : UInt64) : Option UInt64 :=
  if b.toNat ≤ a.toNat then some (a - b) else none

theorem checkedAdd_eq_some {a b c : UInt64} :
    checkedAdd a b = some c ↔ a.toNat + b.toNat = c.toNat := by
  have hc := c.toNat_lt
  unfold checkedAdd
  constructor
  · intro h
    split at h
    · next hlt =>
      cases h
      rw [UInt64.toNat_add]
      omega
    · cases h
  · intro h
    -- the sum is the value of a `u64`, hence below 2 ^ 64
    rw [if_pos (by omega), Option.some.injEq, ← UInt64.toNat_inj, UInt64.toNat_add]
    omega

/-- The difference that stops at zero. -/
theorem toNat_truncatedSub {a b : UInt64} :
    (if b ≤ a then a - b else 0).toNat = a.toNat - b.toNat := by
  split
  · next hle => exact UInt64.toNat_sub_of_le _ _ hle
  · next hlt =>
    rw [UInt64.le_iff_toNat_le] at hlt
    rw [UInt64.toNat_zero]
    omega

theorem checkedSub_eq_some {a b c : UInt64} :
    checkedSub a b = some c ↔ c.toNat + b.toNat = a.toNat := by
  have ha := a.toNat_lt
  unfold checkedSub
  constructor
  · intro h
    split at h
    · next hle =>
      cases h
      rw [UInt64.toNat_sub_of_le _ _ hle]
      omega
    · cases h
  · intro h
    have hle : b.toNat ≤ a.toNat := by omega
    rw [if_pos hle, Option.some.injEq, ← UInt64.toNat_inj, UInt64.toNat_sub_of_le _ _ hle]
    omega
