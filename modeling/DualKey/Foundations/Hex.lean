import Mathlib.Data.Nat.Basic
import Mathlib.Logic.Function.Basic

/-!
# Hexadecimal text

A byte string is written as two hexadecimal digits a byte. `Hex.Codec` is an encoder with a
decoder, and `Hex.Codec.Lawful` what such a pair promises: the decoder accepts the strings of
an even number of digits in either letter case, and the two are inverse to each other up to
the case of letters. `Hex.standard` is a lawful codec.
-/

namespace Hex

/-- Why a string is not decoded. -/
inductive FromHexError where
  | invalidHexCharacter (c : Char) (index : ℕ)
  | oddLength
deriving DecidableEq

/-- A hexadecimal digit, in either letter case. -/
def IsDigit (c : Char) : Prop :=
  ('0' ≤ c ∧ c ≤ '9') ∨ ('a' ≤ c ∧ c ≤ 'f') ∨ ('A' ≤ c ∧ c ≤ 'F')

instance (c : Char) : Decidable (IsDigit c) :=
  inferInstanceAs (Decidable (_ ∨ _))

/-- The text is `n` digits long. -/
def IsHex (n : ℕ) (s : String) : Prop := s.length = n ∧ ∀ c ∈ s.toList, IsDigit c

instance (n : ℕ) (s : String) : Decidable (IsHex n s) :=
  inferInstanceAs (Decidable (_ ∧ _))

/-- Equal but for the case of letters. -/
def SameUpToCase (s t : String) : Prop := s.toLower = t.toLower

theorem SameUpToCase.length_eq {s t : String} (h : SameUpToCase s t) : s.length = t.length := by
  have hlist : (s.map Char.toLower).toList = (t.map Char.toLower).toList :=
    congrArg String.toList h
  rw [String.toList_map, String.toList_map] at hlist
  have hlen := congrArg List.length hlist
  rwa [List.length_map, List.length_map, String.length_toList, String.length_toList] at hlen

/-- An encoder with its decoder. -/
structure Codec where
  encode : List UInt8 → String
  decode : String → Except FromHexError (List UInt8)

/-- What a codec promises. -/
structure Codec.Lawful (hex : Codec) : Prop where
  /-- Two digits a byte. -/
  length_encode : ∀ bytes, (hex.encode bytes).length = 2 * bytes.length
  decode_encode : ∀ bytes, hex.decode (hex.encode bytes) = .ok bytes
  encode_decode : ∀ s bytes, hex.decode s = .ok bytes → SameUpToCase (hex.encode bytes) s
  decode_isOk : ∀ s, (∃ bytes, hex.decode s = .ok bytes) ↔ ∃ n, IsHex (2 * n) s

namespace Codec.Lawful

variable {hex : Codec} (hhex : hex.Lawful) {s t : String} {bytes bytes' : List UInt8}

include hhex

theorem length_eq (h : hex.decode s = .ok bytes) : s.length = 2 * bytes.length := by
  rw [← (hhex.encode_decode s bytes h).length_eq, hhex.length_encode]

/-- Strings that decode to the same bytes differ in letter case at most. -/
theorem sameUpToCase (h : hex.decode s = .ok bytes) (h' : hex.decode t = .ok bytes) :
    SameUpToCase s t :=
  (hhex.encode_decode s bytes h).symm.trans (hhex.encode_decode t bytes h')

/-- The strings of `2 * n` digits are those that decode to `n` bytes. -/
theorem decode_length_iff {n : ℕ} :
    (∃ bytes, hex.decode s = .ok bytes ∧ bytes.length = n) ↔ IsHex (2 * n) s := by
  constructor
  · rintro ⟨bytes, h, rfl⟩
    obtain ⟨m, hlen, hdigits⟩ := (hhex.decode_isOk s).mp ⟨bytes, h⟩
    exact ⟨hhex.length_eq h, hdigits⟩
  · intro h
    obtain ⟨bytes, hbytes⟩ := (hhex.decode_isOk s).mpr ⟨n, h⟩
    have hlen : 2 * n = 2 * bytes.length := h.1.symm.trans (hhex.length_eq hbytes)
    exact ⟨bytes, hbytes, by omega⟩

end Codec.Lawful

/-! ### A lawful codec -/

/-- The two digits of a byte. -/
def byteDigits (b : UInt8) : List Char :=
  [Nat.digitChar (b.toNat / 16), Nat.digitChar (b.toNat % 16)]

/-- The value of a digit. -/
def value (c : Char) : Option ℕ :=
  if 'A' ≤ c ∧ c ≤ 'F' then some (c.toNat - 55)
  else if 'a' ≤ c ∧ c ≤ 'f' then some (c.toNat - 87)
  else if '0' ≤ c ∧ c ≤ '9' then some (c.toNat - 48)
  else none

/-- The value of the digit at position `idx`. -/
def val (c : Char) (idx : ℕ) : Except FromHexError ℕ :=
  match value c with
  | some x => .ok x
  | none => .error (.invalidHexCharacter c idx)

/-- Decode digits in pairs, the first of them at position `idx`. -/
def decodeDigits (idx : ℕ) : List Char → Except FromHexError (List UInt8)
  | [] => .ok []
  | [_] => .error .oddLength
  | c :: d :: rest =>
    match val c idx, val d (idx + 1), decodeDigits (idx + 2) rest with
    | .ok high, .ok low, .ok bytes => .ok (UInt8.ofNat (16 * high + low) :: bytes)
    | .ok _, .ok _, .error e => .error e
    | .ok _, .error e, _ => .error e
    | .error e, _, _ => .error e

/-- Lower-case digits are written, digits of either case are read. -/
def standard : Codec where
  encode bytes := String.ofList (bytes.flatMap byteDigits)
  decode s := if s.length % 2 ≠ 0 then .error .oddLength else decodeDigits 0 s.toList

/-- A digit is one of the first 128 characters. -/
theorem IsDigit.exists_ofNat {c : Char} (h : IsDigit c) : ∃ n < 128, c = Char.ofNat n := by
  refine ⟨c.toNat, ?_, (Char.ofNat_toNat c).symm⟩
  have hle {d : Char} (hd : c ≤ d) : c.toNat ≤ d.toNat := hd
  rcases h with ⟨-, h⟩ | ⟨-, h⟩ | ⟨-, h⟩
  · exact Nat.lt_of_le_of_lt (hle h) (by decide)
  · exact Nat.lt_of_le_of_lt (hle h) (by decide)
  · exact Nat.lt_of_le_of_lt (hle h) (by decide)

theorem value_of_isDigit {c : Char} (h : IsDigit c) :
    ∃ x < 16, value c = some x ∧ Nat.digitChar x = c.toLower := by
  obtain ⟨n, hn, rfl⟩ := h.exists_ofNat
  revert n
  -- a finite check of the first 128 characters
  decide +kernel

theorem isDigit_of_value {c : Char} {x : ℕ} (h : value c = some x) : IsDigit c := by
  unfold value at h
  split at h
  · next hc => exact Or.inr (Or.inr hc)
  · split at h
    · next hc => exact Or.inr (Or.inl hc)
    · split at h
      · next hc => exact Or.inl hc
      · cases h

theorem val_eq_ok {c : Char} {idx x : ℕ} : val c idx = .ok x ↔ value c = some x := by
  unfold val
  cases value c <;> simp

/-- The digits that are written. -/
theorem digitChar_laws {x : ℕ} (h : x < 16) :
    value (Nat.digitChar x) = some x ∧ (Nat.digitChar x).toLower = Nat.digitChar x := by
  revert x
  decide

theorem IsDigit.toLower_toLower {c : Char} (h : IsDigit c) : c.toLower.toLower = c.toLower := by
  obtain ⟨x, hx, -, hlower⟩ := value_of_isDigit h
  rw [← hlower, (digitChar_laws hx).2]

theorem byte_halves (b : UInt8) : UInt8.ofNat (16 * (b.toNat / 16) + b.toNat % 16) = b := by
  rw [Nat.div_add_mod, UInt8.ofNat_toNat]

theorem decodeDigits_cons_eq_ok {idx : ℕ} {c d : Char} {rest : List Char} {bytes : List UInt8} :
    decodeDigits idx (c :: d :: rest) = .ok bytes ↔
      ∃ high low tail, value c = some high ∧ value d = some low ∧
        decodeDigits (idx + 2) rest = .ok tail ∧
        UInt8.ofNat (16 * high + low) :: tail = bytes := by
  rw [decodeDigits]
  constructor
  · intro h
    split at h
    · next high low tail hc hd hrest =>
      cases h
      exact ⟨high, low, tail, val_eq_ok.mp hc, val_eq_ok.mp hd, hrest, rfl⟩
    · cases h
    · cases h
    · cases h
  · rintro ⟨high, low, tail, hc, hd, hrest, rfl⟩
    rw [val_eq_ok.mpr hc, val_eq_ok.mpr hd, hrest]

theorem decodeDigits_flatMap (idx : ℕ) (bytes : List UInt8) :
    decodeDigits idx (bytes.flatMap byteDigits) = .ok bytes := by
  induction bytes generalizing idx with
  | nil => rfl
  | cons b bytes ih =>
    have hb := b.toNat_lt
    have hhigh : b.toNat / 16 < 16 := by omega
    have hlow : b.toNat % 16 < 16 := by omega
    exact decodeDigits_cons_eq_ok.mpr ⟨_, _, bytes, (digitChar_laws hhigh).1,
      (digitChar_laws hlow).1, ih (idx + 2), by rw [byte_halves]⟩

/-- What is decoded was digits, and they are written again in lower case. -/
theorem decodeDigits_sound : ∀ {idx : ℕ} {cs : List Char} {bytes : List UInt8},
    decodeDigits idx cs = .ok bytes →
      bytes.flatMap byteDigits = cs.map Char.toLower ∧ ∀ c ∈ cs, IsDigit c
  | _, [], _, h => by
    cases h
    exact ⟨rfl, fun _ hc => absurd hc List.not_mem_nil⟩
  | _, [_], _, h => by cases h
  | idx, c :: d :: rest, bytes, h => by
    obtain ⟨high, low, tail, hc, hd, hrest, rfl⟩ := decodeDigits_cons_eq_ok.mp h
    obtain ⟨htail, hdigits⟩ := decodeDigits_sound hrest
    have hcdigit := isDigit_of_value hc
    have hddigit := isDigit_of_value hd
    obtain ⟨x, hx, hxc, hxlower⟩ := value_of_isDigit hcdigit
    obtain ⟨y, hy, hyd, hylower⟩ := value_of_isDigit hddigit
    obtain rfl : x = high := Option.some.inj (hxc.symm.trans hc)
    obtain rfl : y = low := Option.some.inj (hyd.symm.trans hd)
    -- the two values make a byte, and its halves are the values again
    have hbyte : (UInt8.ofNat (16 * x + y)).toNat = 16 * x + y :=
      UInt8.toNat_ofNat_of_lt' (show 16 * x + y < 256 by omega)
    constructor
    · rw [List.flatMap_cons, htail, byteDigits, hbyte, show (16 * x + y) / 16 = x by omega,
        show (16 * x + y) % 16 = y by omega, hxlower, hylower]
      rfl
    · intro e he
      rcases List.mem_cons.mp he with rfl | he
      · exact hcdigit
      · rcases List.mem_cons.mp he with rfl | he
        · exact hddigit
        · exact hdigits e he

/-- An even number of digits is decoded. -/
theorem decodeDigits_complete : ∀ (n idx : ℕ) {cs : List Char}, cs.length = 2 * n →
    (∀ c ∈ cs, IsDigit c) → ∃ bytes, decodeDigits idx cs = .ok bytes
  | _, _, [], _, _ => ⟨[], rfl⟩
  | n, _, [_], hlen, _ => by
    rw [List.length_singleton] at hlen
    omega
  | n, idx, c :: d :: rest, hlen, hdigits => by
    rw [List.length_cons, List.length_cons] at hlen
    obtain ⟨high, -, hc, -⟩ := value_of_isDigit (hdigits c List.mem_cons_self)
    obtain ⟨low, -, hd, -⟩ :=
      value_of_isDigit (hdigits d (List.mem_cons_of_mem _ List.mem_cons_self))
    have hrest : ∀ e ∈ rest, IsDigit e := fun e he =>
      hdigits e (List.mem_cons_of_mem _ (List.mem_cons_of_mem _ he))
    obtain ⟨tail, htail⟩ := decodeDigits_complete (n - 1) (idx + 2) (by omega) hrest
    exact ⟨_, decodeDigits_cons_eq_ok.mpr ⟨high, low, tail, hc, hd, htail, rfl⟩⟩

theorem length_flatMap_byteDigits (bytes : List UInt8) :
    (bytes.flatMap byteDigits).length = 2 * bytes.length := by
  induction bytes with
  | nil => rfl
  | cons b bytes ih =>
    rw [List.flatMap_cons, List.length_append, ih, List.length_cons]
    show 2 + 2 * bytes.length = _
    omega

theorem standard_decode_eq_ok {s : String} {bytes : List UInt8} :
    standard.decode s = .ok bytes ↔ s.length % 2 = 0 ∧ decodeDigits 0 s.toList = .ok bytes := by
  show (if s.length % 2 ≠ 0 then _ else _) = _ ↔ _
  split <;> simp_all

theorem standard_lawful : standard.Lawful where
  length_encode bytes := by
    show (String.ofList (bytes.flatMap byteDigits)).length = _
    rw [String.length_ofList, length_flatMap_byteDigits]
  decode_encode bytes := by
    have hlen : (String.ofList (bytes.flatMap byteDigits)).length = 2 * bytes.length := by
      rw [String.length_ofList, length_flatMap_byteDigits]
    refine standard_decode_eq_ok.mpr ⟨?_, ?_⟩
    · show (String.ofList (bytes.flatMap byteDigits)).length % 2 = 0
      omega
    · show decodeDigits 0 (String.ofList (bytes.flatMap byteDigits)).toList = .ok bytes
      rw [String.toList_ofList, decodeDigits_flatMap]
  encode_decode s bytes h := by
    obtain ⟨hwritten, hdigits⟩ := decodeDigits_sound (standard_decode_eq_ok.mp h).2
    refine String.toList_inj.mp ?_
    show (String.map Char.toLower (String.ofList (bytes.flatMap byteDigits))).toList =
      (String.map Char.toLower s).toList
    rw [String.toList_map, String.toList_map, String.toList_ofList, hwritten, List.map_map]
    -- lowering a digit twice is lowering it once
    exact List.map_congr_left fun c hc => (hdigits c hc).toLower_toLower
  decode_isOk s := by
    constructor
    · rintro ⟨bytes, h⟩
      obtain ⟨heven, h⟩ := standard_decode_eq_ok.mp h
      exact ⟨s.length / 2, by omega, (decodeDigits_sound h).2⟩
    · rintro ⟨n, hlen, hdigits⟩
      have hlist : s.toList.length = 2 * n := String.length_toList.trans hlen
      obtain ⟨bytes, hbytes⟩ := decodeDigits_complete n 0 hlist hdigits
      exact ⟨bytes, standard_decode_eq_ok.mpr ⟨by omega, hbytes⟩⟩

end Hex
