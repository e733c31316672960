import DualKey.Foundations.Buffer

/-!
# Lenses on a store of cells

A lens reads one field of a state and writes it. The state is seen through its cells, and the
lens owns a region of them. It is lawful when a written value is read back, the second of two
writes wins, reading depends on the region alone, and writing changes the region alone.

From the last two it follows that lenses with regions apart do not disturb each other
(`Lawful.get_set_of_apart`). So `n` lenses on one state are independent by `n` proofs of
lawfulness and a comparison of regions.

The cells of a byte buffer are its bits, and a region is a list of ranges. A field that is
stored in a range of bytes is a lawful lens on the bits of that range (`lawful_of_vec`,
`lawful_of_byte`).
-/

/-- A getter with its setter, and the reading of a value that was set. -/
structure Lens (S α γ : Type*) where
  get : S → γ
  set : S → α → S
  seen : α → γ

namespace Lens

section Cells

variable {S α γ γ' ι β : Type*} (cell : S → ι → β)

/-- Reading depends on the cells of a region alone. -/
def ReadsOnly (region : ι → Prop) (get : S → γ) : Prop :=
  ∀ s t, (∀ i, region i → cell s i = cell t i) → get s = get t

/-- The laws of a lens that owns a region. -/
structure Lawful (region : ι → Prop) (l : Lens S α γ) : Prop where
  get_set : ∀ s v, l.get (l.set s v) = l.seen v
  set_set : ∀ s v w, l.set (l.set s v) w = l.set s w
  reads : ReadsOnly cell region l.get
  writes : ∀ s v i, ¬ region i → cell (l.set s v) i = cell s i

variable {cell} {region region' : ι → Prop} {l : Lens S α γ}

/-- A reading of cells that are not written stays. -/
theorem Lawful.get_set_of_apart (hl : l.Lawful cell region) {get : S → γ'}
    (hget : ReadsOnly cell region' get) (hapart : ∀ i, region' i → ¬ region i) (s : S) (v : α) :
    get (l.set s v) = get s :=
  hget _ _ fun i hi => hl.writes s v i (hapart i hi)

end Cells

/-! ### Regions -/

/-- Ranges of positions: start and length. -/
abbrev Ranges := List (ℕ × ℕ)

namespace Ranges

/-- The position lies in one of the ranges. -/
def Mem (rs : Ranges) (i : ℕ) : Prop := ∃ r ∈ rs, r.1 ≤ i ∧ i < r.1 + r.2

/-- No two of the ranges overlap. -/
def Apart (rs ss : Ranges) : Prop :=
  ∀ r ∈ rs, ∀ s ∈ ss, r.1 + r.2 ≤ s.1 ∨ s.1 + s.2 ≤ r.1

instance (rs ss : Ranges) : Decidable (rs.Apart ss) :=
  inferInstanceAs (Decidable (∀ r ∈ rs, ∀ s ∈ ss, _))

instance (rs : Ranges) (i : ℕ) : Decidable (rs.Mem i) :=
  inferInstanceAs (Decidable (∃ r ∈ rs, _))

theorem Apart.not_mem {rs ss : Ranges} (h : rs.Apart ss) {i : ℕ} (hi : rs.Mem i) : ¬ ss.Mem i := by
  obtain ⟨r, hr, hlo, hhi⟩ := hi
  rintro ⟨s, hs, hlo', hhi'⟩
  have := h r hr s hs
  omega

end Ranges

/-- The bits of `k` bytes from position `off`. -/
def bitsAt (off k : ℕ) : Ranges := [(8 * off, 8 * k)]

theorem mem_bitsAt {off k i : ℕ} : (bitsAt off k).Mem i ↔ off ≤ i / 8 ∧ i / 8 < off + k := by
  simp only [Ranges.Mem, bitsAt, List.mem_singleton, exists_eq_left]
  omega

end Lens

/-! ### The bits of a buffer -/

namespace ByteVec

variable {n : ℕ}

/-- The bit at position `i`, bytes in order and the low bit of a byte first. -/
def bit (v : ByteVec n) (i : ℕ) : Bool := (v.getByte (i / 8)).toNat.testBit (i % 8)

theorem eq_of_bits {b c : UInt8} (h : ∀ j < 8, b.toNat.testBit j = c.toNat.testBit j) : b = c := by
  refine UInt8.toNat_inj.mp (Nat.eq_of_testBit_eq fun j => ?_)
  by_cases hj : j < 8
  · exact h j hj
  · -- a byte has no bits from the eighth on
    have hpow : 2 ^ 8 ≤ 2 ^ j := Nat.pow_le_pow_right Nat.two_pos (Nat.le_of_not_lt hj)
    rw [Nat.testBit_lt_two_pow (b.toNat_lt.trans_le hpow),
      Nat.testBit_lt_two_pow (c.toNat_lt.trans_le hpow)]

theorem bit_eq (v : ByteVec n) (i : ℕ) {j : ℕ} (h : j < 8) :
    v.bit (8 * i + j) = (v.getByte i).toNat.testBit j := by
  rw [bit, show (8 * i + j) / 8 = i by omega, show (8 * i + j) % 8 = j by omega]

theorem getByte_eq_of_bits {v w : ByteVec n} {i : ℕ}
    (h : ∀ j < 8, v.bit (8 * i + j) = w.bit (8 * i + j)) : v.getByte i = w.getByte i := by
  refine eq_of_bits fun j hj => ?_
  have hbit := h j hj
  rwa [bit_eq v i hj, bit_eq w i hj] at hbit

theorem bit_eq_of_getByte {v w : ByteVec n} {i : ℕ} (h : v.getByte (i / 8) = w.getByte (i / 8)) :
    v.bit i = w.bit i := by
  rw [bit, bit, h]

theorem putVec_putVec {m off : ℕ} {v : ByteVec n} {x y : ByteVec m} {h : off + m ≤ n} :
    (v.putVec off x h).putVec off y h = v.putVec off y h := by
  refine ext_getByte fun i _ => ?_
  rw [getByte_putVec, getByte_putVec, getByte_putVec]
  split <;> rfl

theorem putByte_putByte {off : ℕ} {v : ByteVec n} {b c : UInt8} {h : off < n} :
    (v.putByte off b h).putByte off c h = v.putByte off c h := by
  refine ext_getByte fun i _ => ?_
  rw [getByte_putByte, getByte_putByte, getByte_putByte]
  split <;> rfl

/-- Writes to a byte and to a range without it can be swapped. -/
theorem putVec_putByte {m off off' : ℕ} {v : ByteVec n} {x : ByteVec m} {b : UInt8}
    {h : off + m ≤ n} {h' : off' < n} (hout : off' < off ∨ off + m ≤ off') :
    (v.putByte off' b h').putVec off x h = (v.putVec off x h).putByte off' b h' := by
  refine ext_getByte fun i _ => ?_
  rw [getByte_putVec, getByte_putByte, getByte_putByte, getByte_putVec]
  by_cases hi : i = off'
  · rw [if_neg (by omega), if_pos hi, if_pos hi]
  · rw [if_neg hi, if_neg hi]

theorem bit_putByte {off : ℕ} {v : ByteVec n} {b : UInt8} {h : off < n} {i : ℕ} :
    (v.putByte off b h).bit i = if i / 8 = off then b.toNat.testBit (i % 8) else v.bit i := by
  rw [bit, getByte_putByte]
  split <;> rfl

theorem bit_putVec_of_disjoint {m off : ℕ} {v : ByteVec n} {x : ByteVec m} {h : off + m ≤ n}
    {i : ℕ} (hout : i / 8 < off ∨ off + m ≤ i / 8) : (v.putVec off x h).bit i = v.bit i :=
  bit_eq_of_getByte (getByte_putVec_of_disjoint hout)

end ByteVec

/-! ### Fields at fixed offsets -/

namespace Lens

open ByteVec

variable {S α γ : Type*} {n k off : ℕ} {bytes : S → ByteVec n}

theorem readsOnly_vec (dec : ByteVec k → γ) :
    ReadsOnly (fun s => (bytes s).bit) (bitsAt off k).Mem
      (fun s => dec (getVec k (bytes s) off)) := by
  intro s t h
  refine congrArg dec (ext_getByte fun i hi => ?_)
  rw [getByte_getVec, getByte_getVec, if_pos hi, if_pos hi]
  exact getByte_eq_of_bits fun j hj => h _ (mem_bitsAt.mpr (by omega))

theorem readsOnly_byte (dec : UInt8 → γ) :
    ReadsOnly (fun s => (bytes s).bit) (bitsAt off 1).Mem
      (fun s => dec ((bytes s).getByte off)) := by
  intro s t h
  exact congrArg dec (getByte_eq_of_bits fun j hj => h _ (mem_bitsAt.mpr (by omega)))

variable (hbytes : Function.Injective bytes) {l : Lens S α γ}

include hbytes

/-- A field of `k` bytes at `off`, with an encoder and a decoder. -/
theorem lawful_of_vec (enc : α → ByteVec k) (dec : ByteVec k → γ) (h : off + k ≤ n)
    (hget : ∀ s, l.get s = dec (getVec k (bytes s) off))
    (hset : ∀ s v, bytes (l.set s v) = (bytes s).putVec off (enc v) h)
    (hseen : ∀ v, dec (enc v) = l.seen v) :
    l.Lawful (fun s => (bytes s).bit) (bitsAt off k).Mem where
  get_set s v := by rw [hget, hset, getVec_putVec_self, hseen]
  set_set s v w := hbytes (by rw [hset, hset, hset, putVec_putVec])
  reads := by
    rw [show l.get = fun s => dec (getVec k (bytes s) off) from funext hget]
    exact readsOnly_vec dec
  writes s v i hi := by
    refine bit_eq_of_getByte ?_
    rw [hset, getByte_putVec, if_neg (mt mem_bitsAt.mpr hi)]

/-- A field of one byte at `off`. -/
theorem lawful_of_byte (enc : α → UInt8) (dec : UInt8 → γ) (h : off < n)
    (hget : ∀ s, l.get s = dec ((bytes s).getByte off))
    (hset : ∀ s v, bytes (l.set s v) = (bytes s).putByte off (enc v) h)
    (hseen : ∀ v, dec (enc v) = l.seen v) :
    l.Lawful (fun s => (bytes s).bit) (bitsAt off 1).Mem where
  get_set s v := by rw [hget, hset, getByte_putByte_self, hseen]
  set_set s v w := hbytes (by rw [hset, hset, hset, putByte_putByte])
  reads := by
    rw [show l.get = fun s => dec ((bytes s).getByte off) from funext hget]
    exact readsOnly_byte dec
  writes s v i hi := by
    refine bit_eq_of_getByte ?_
    rw [hset, getByte_putByte, if_neg fun heq => hi (mem_bitsAt.mpr (by omega))]

end Lens
