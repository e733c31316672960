import DualKey.Foundations.Slice
import DualKey.Program.Ed25519
import DualKey.Program.SplToken

/-!
# The accesses at computed positions, on machine words

Three functions of the program add to a position that comes out of untrusted bytes: the two
readers of a precompile instruction and the walk over token extensions. Their models elsewhere
add natural numbers. Here they add on `usize`, where a sum that does not fit panics, and every
range is checked when it is taken; each is shown to be its model. So no sum overflows, because a
slice is at most `isize::MAX` bytes long.
-/

namespace DualKey

/-! ### The precompile instruction -/

/-- `read_u16`. -/
def readU16Usize (data : Slice) (i : UInt64) : DkRes UInt16 := do
  let stop ← usizeAdd i 2
  let bytes ← Res.okOr (data.get i stop.1) .malformedEd25519Precompile
  pure (u16FromLe (Buffer.readVec 2 bytes 0))

/-- `slice_at`. -/
def sliceAtUsize (data : Slice) (offset : UInt16) (len : UInt64) : DkRes (List UInt8) := do
  let start := offset.toUInt64
  let stop ← usizeAdd start len
  Res.okOr (data.get start stop.1) .malformedEd25519Precompile

theorem readU16Usize_eq {data : Slice} {i : UInt64} (hi : i.toNat + 2 < 2 ^ 64) :
    readU16Usize data i = readU16 data.bytes i.toNat := by
  obtain ⟨stop, hstop⟩ : ∃ stop, (usizeAdd i 2 : DkRes _) = .ok stop := usizeAdd_of_lt hi
  have hget : data.get i stop.1 = Buffer.readRange data.bytes i.toNat 2 :=
    Slice.get_eq_readRange stop.2
  unfold readU16Usize readU16
  rw [hstop, ← hget]
  rfl

theorem sliceAtUsize_eq {data : Slice} {offset : UInt16} {len : UInt64}
    (hlen : len.toNat < 2 ^ 63) : sliceAtUsize data offset len =
      sliceAt data.bytes offset len.toNat := by
  have hoffset := offset.toNat_lt
  have hstart : offset.toUInt64.toNat = offset.toNat := UInt16.toNat_toUInt64 offset
  obtain ⟨stop, hstop⟩ : ∃ stop, (usizeAdd offset.toUInt64 len : DkRes _) = .ok stop :=
    usizeAdd_of_lt (by omega)
  have hget : data.get offset.toUInt64 stop.1 =
      Buffer.readRange data.bytes offset.toNat len.toNat := by
    rw [Slice.get_eq_readRange stop.2, hstart]
  show (usizeAdd offset.toUInt64 len >>= fun stop =>
    Res.okOr (data.get offset.toUInt64 stop.1) _) = _
  rw [hstop, sliceAt, ← hget]
  rfl

/-! ### The extension walk -/

namespace SplToken

/-- The loop of `reject_if_transfer_hook`, at position `i`. -/
def scanTlvUsize (data : Slice) (i : UInt64) : DkRes Unit := do
  let value ← usizeAdd i 4
  if _h : value.1 ≤ data.len then do
    let middle ← usizeAdd i 2
    let ty ← data.rangeVec 2 i middle.1
    let len ← data.rangeVec 2 middle.1 value.1
    let extType := u16FromLe ty
    let extLen := (u16FromLe len).toUInt64
    let next ← usizeAdd value.1 extLen
    Res.failIf (data.len < next.1) .invalidAccountData
    Res.failIf (extType = extTransferHook ∨ extType = extTransferHookAccount) .invalidAccountData
    if extType = 0 ∧ extLen = 0 then
      pure ()
    else
      scanTlvUsize data next.1
  else
    pure ()
termination_by data.bytes.length - i.toNat
decreasing_by
  have hvalue := value.2
  have hnext := next.2
  rw [UInt64.le_iff_toNat_le, Slice.toNat_len] at _h
  have hfour : (4 : UInt64).toNat = 4 := rfl
  omega

/-- From every position inside the data the loop is its model. -/
theorem scanTlvUsize_eq (data : Slice) (i : UInt64) (hi : i.toNat ≤ data.bytes.length) :
    scanTlvUsize data i = scanTlv data.bytes i.toNat := by
  induction hn : data.bytes.length - i.toNat using Nat.strong_induction_on generalizing i with
  | _ n ih =>
  have hlength := data.length_lt
  -- a position of the data is below `2 ^ 63`, so 4 can be added to it
  obtain ⟨value, hvalue⟩ : ∃ value, (usizeAdd i 4 : DkRes _) = .ok value :=
    usizeAdd_of_lt (show i.toNat + 4 < 2 ^ 64 by omega)
  obtain ⟨middle, hmiddle⟩ : ∃ middle, (usizeAdd i 2 : DkRes _) = .ok middle :=
    usizeAdd_of_lt (show i.toNat + 2 < 2 ^ 64 by omega)
  have hvalueNat : value.1.toNat = i.toNat + 4 := value.2
  have hmiddleNat : middle.1.toNat = i.toNat + 2 := middle.2
  have hlast : value.1.toNat = middle.1.toNat + 2 := by
    rw [hvalueNat, hmiddleNat]
  have htest : value.1 ≤ data.len ↔ i.toNat + 4 ≤ data.bytes.length := by
    rw [UInt64.le_iff_toNat_le, Slice.toNat_len, hvalueNat]
  rw [scanTlvUsize, scanTlv, hvalue, Res.ok_bind]
  by_cases h : i.toNat + 4 ≤ data.bytes.length
  · rw [dif_pos h, dif_pos (htest.mpr h), hmiddle, Res.ok_bind,
      Slice.rangeVec_eq_sliceVec hmiddleNat, Slice.rangeVec_eq_sliceVec hlast, hmiddleNat,
      Buffer.sliceVec_of_le (by omega), Buffer.sliceVec_of_le (by omega)]
    simp only [Res.ok_bind]
    generalize u16FromLe (Buffer.readVec 2 data.bytes i.toNat) = extType
    generalize u16FromLe (Buffer.readVec 2 data.bytes (i.toNat + 2)) = extLen
    have hext := extLen.toNat_lt
    have hextNat : extLen.toUInt64.toNat = extLen.toNat := UInt16.toNat_toUInt64 extLen
    obtain ⟨next, hnext⟩ : ∃ next, (usizeAdd value.1 extLen.toUInt64 : DkRes _) = .ok next :=
      usizeAdd_of_lt (by omega)
    have hnextNat : next.1.toNat = i.toNat + 4 + extLen.toNat := by
      rw [next.2, hvalueNat, hextNat]
    have hpast : data.len < next.1 ↔ data.bytes.length < i.toNat + 4 + extLen.toNat := by
      rw [UInt64.lt_iff_toNat_lt, Slice.toNat_len, hnextNat]
    have hzero : extLen.toUInt64 = 0 ↔ extLen.toNat = 0 := by
      rw [← UInt64.toNat_inj, hextNat]
      rfl
    rw [hnext, Res.ok_bind]
    simp only [hpast, hzero]
    by_cases hover : data.bytes.length < i.toNat + 4 + extLen.toNat
    · rw [Res.failIf, if_pos hover]
      rfl
    · -- an entry that ends inside the data is followed by a position of the data
      have hrest : scanTlvUsize data next.1 =
          scanTlv data.bytes (i.toNat + 4 + extLen.toNat) := by
        rw [ih _ (by omega) next.1 (by omega) rfl, hnextNat]
      rw [hrest]
  · rw [dif_neg h, dif_neg (fun hle => h (htest.mp hle))]

/-- `reject_if_transfer_hook`. -/
def rejectIfTransferHookUsize (data : Slice) (baseLen : UInt64) : DkRes Unit :=
  if data.len ≤ baseLen then
    pure ()
  else do
    let padded ← if 355 < data.len ∧ baseLen < 355 then do
        let padding ← data.range baseLen 355
        pure (padding.all (· = 0))
      else
        pure false
    let tlvStart := if padded then 355 else baseLen
    if data.len ≤ tlvStart then
      pure ()
    else do
      let start ← usizeAdd tlvStart 1
      scanTlvUsize data start.1

/-- The scan is its model. -/
theorem rejectIfTransferHookUsize_eq (data : Slice) (baseLen : UInt64) :
    rejectIfTransferHookUsize data baseLen = rejectIfTransferHook data.bytes baseLen.toNat := by
  have hlength := data.length_lt
  -- behind a position inside the data there is a next one
  have hwalk (start : UInt64) :
      (if data.len ≤ start then pure ()
        else usizeAdd start 1 >>= fun next => scanTlvUsize data next.1 : DkRes Unit) =
      if data.bytes.length ≤ start.toNat then pure ()
      else scanTlv data.bytes (start.toNat + 1) := by
    have htest : data.len ≤ start ↔ data.bytes.length ≤ start.toNat := by
      rw [UInt64.le_iff_toNat_le, Slice.toNat_len]
    simp only [htest]
    split
    · rfl
    · next hlt =>
      obtain ⟨next, hnext⟩ : ∃ next, (usizeAdd start 1 : DkRes _) = .ok next :=
        usizeAdd_of_lt (show start.toNat + 1 < 2 ^ 64 by omega)
      have hnextNat : next.1.toNat = start.toNat + 1 := next.2
      rw [hnext, Res.ok_bind, scanTlvUsize_eq data next.1 (by omega), hnextNat]
  have htest : data.len ≤ baseLen ↔ data.bytes.length ≤ baseLen.toNat := by
    rw [UInt64.le_iff_toNat_le, Slice.toNat_len]
  have hlong : 355 < data.len ∧ baseLen < 355 ↔
      multisigLen < data.bytes.length ∧ baseLen.toNat < multisigLen := by
    rw [UInt64.lt_iff_toNat_lt, UInt64.lt_iff_toNat_lt, Slice.toNat_len]
    rfl
  unfold rejectIfTransferHookUsize rejectIfTransferHook
  simp only [htest, hlong]
  by_cases hbase : data.bytes.length ≤ baseLen.toNat
  · rw [if_pos hbase, if_pos hbase]
  · rw [if_neg hbase, if_neg hbase]
    by_cases hpad : multisigLen < data.bytes.length ∧ baseLen.toNat < multisigLen
    · have hstop : (355 : UInt64).toNat = baseLen.toNat + (multisigLen - baseLen.toNat) := by
        rw [Nat.add_sub_cancel' hpad.2.le]
        rfl
      rw [if_pos hpad, if_pos hpad, Slice.range_eq_slice hstop,
        Buffer.slice_eq_ok.mpr ⟨by omega, rfl⟩]
      simp only [Res.ok_bind]
      generalize (Buffer.read data.bytes baseLen.toNat (multisigLen - baseLen.toNat)).all
        (· = 0) = padded
      cases padded with
      | true => exact hwalk 355
      | false => exact hwalk baseLen
    · rw [if_neg hpad, if_neg hpad]
      exact hwalk baseLen

end SplToken

end DualKey
