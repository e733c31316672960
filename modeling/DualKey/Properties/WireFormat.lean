import DualKey.Properties.Preimages

/-!
# The wire format

The wire fragment and the preimage are written by two encoders. `decode_eq_ok` says which
strings the decoder accepts for a wire intent `w`: those of 49 bytes that agree with
`w.encode` wherever the decoder looks. It looks everywhere but at the unused bytes of four
of the bodies, so for the actions with these bodies an accepted string need not be the one
the encoder writes, and there are others that decode to the same intent.
-/

namespace DualKey

open ByteVec Buffer

/-! ### Bodies -/

/-- The positions of a body that the layout of the tag does not use. -/
def unusedBody : UInt8 → List ℕ
  | 3 => List.range' 32 8
  | 4 => List.range' 32 8
  | 5 => List.range' 1 7 ++ List.range' 16 24
  | 6 => List.range' 1 7
  | 8 => List.range' 0 40
  | _ => []

/-- The unused positions that the decoder passes over: it refuses a cancellation whose body
has contents, and tests no other body. -/
def ignoredBody (tag : UInt8) : List ℕ := if tag = 8 then [] else unusedBody tag

/-- Tag and body name an action: the tag is known, a recovery names one of its three
operations, and the body of a cancellation is empty. -/
def NamesAction (tag : UInt8) (body : ℕ → UInt8) : Prop :=
  (1 ≤ tag ∧ tag ≤ 8) ∧ (tag = 6 → body 0 ≤ 2) ∧ (tag = 8 → ∀ j < 40, body j = 0)

theorem unusedBody_lt {tag : UInt8} {j : ℕ} (h : j ∈ unusedBody tag) : j < 40 := by
  unfold unusedBody at h
  split at h <;> simp [List.mem_range'_1] at h <;> omega

/-- Two bodies that agree on a range read the same there. -/
theorem sliceVec_congr {n off : ℕ} {xs ys : List UInt8} (hlen : xs.length = ys.length)
    (h : ∀ j < n, byteAt xs (off + j) = byteAt ys (off + j)) :
    (sliceVec n xs off : DkRes (ByteVec n)) = sliceVec n ys off := by
  have hvec : readVec n xs off = readVec n ys off := by
    refine ext_getByte fun j hj => ?_
    rw [getByte_readVec, getByte_readVec, if_pos hj, if_pos hj, h j hj]
  unfold sliceVec
  rw [hlen, hvec]

/-- The decoder does not depend on the bytes it ignores. -/
theorem fromWire_congr {tag : UInt8} {body body' : List UInt8} (hlen : body.length = 40)
    (hlen' : body'.length = 40)
    (h : ∀ j < 40, j ∉ ignoredBody tag → byteAt body j = byteAt body' j) :
    Action.fromWire tag body = Action.fromWire tag body' := by
  have hvec (n off : ℕ) (hread : ∀ j < n, off + j < 40 ∧ off + j ∉ ignoredBody tag) :
      (sliceVec n body off : DkRes (ByteVec n)) = sliceVec n body' off :=
    sliceVec_congr (hlen.trans hlen'.symm) fun j hj => h _ (hread j hj).1 (hread j hj).2
  have hbyte (h0 : 0 ∉ ignoredBody tag) :
      (index body 0 : DkRes UInt8) = index body' 0 := by
    rw [index_of_lt (by omega), index_of_lt (by omega), h 0 (by omega) h0]
  unfold Action.fromWire
  rw [hlen, hlen']
  congr 1
  funext _
  -- each tag reads the ranges its layout uses
  split
  case h_8 =>
    have hall : body = body' := by
      refine ext_byteAt (hlen.trans hlen'.symm) fun j hj => h j (by omega) ?_
      simp [ignoredBody]
    rw [hall]
  case h_9 => rfl
  case h_1 | h_2 | h_7 =>
    rw [hvec 32 0 fun j hj => ⟨by omega, by simp [ignoredBody, unusedBody]⟩,
      hvec 8 32 fun j hj => ⟨by omega, by simp [ignoredBody, unusedBody]⟩]
  case h_3 | h_4 =>
    rw [hvec 32 0 fun j hj => ⟨by omega, by simp [ignoredBody, unusedBody]; omega⟩]
  case h_5 =>
    rw [hbyte (by simp [ignoredBody, unusedBody]),
      hvec 8 8 fun j hj => ⟨by omega, by simp [ignoredBody, unusedBody]; omega⟩]
  case h_6 =>
    rw [hbyte (by simp [ignoredBody, unusedBody]),
      hvec 32 8 fun j hj => ⟨by omega, by simp [ignoredBody, unusedBody]⟩]

/-- The unused bytes of a body are zero. -/
theorem getByte_body_unused {a : Action} {j : ℕ} (h : j ∈ unusedBody a.tag) :
    a.body.getByte j = 0 := by
  unfold Action.body
  cases a <;>
    simp only [Action.tag, unusedBody, List.mem_append, List.mem_range'_1] at h <;>
    simp only [getByte_putVec, getByte_putByte, getByte_zero] <;>
    grind

/-- A body that decodes agrees with the body of the action wherever the decoder looks. -/
theorem byteAt_of_fromWire {tag : UInt8} {body : List UInt8} {a : Action}
    (h : Action.fromWire tag body = .ok a) :
    tag = a.tag ∧ body.length = 40 ∧
      ∀ j < 40, j ∉ ignoredBody tag → byteAt body j = a.body.getByte j := by
  unfold Action.fromWire at h
  simp only [Res.bind_eq_ok, Res.failIf_eq_ok, not_not] at h
  obtain ⟨-, hlen, h⟩ := h
  split at h
  -- no other tag is accepted
  case h_9 => exact absurd h Res.fail_ne_ok
  -- a cancellation has no data, and its body is tested to be zero
  case h_8 =>
    simp only [Res.bind_eq_ok, Res.failIf_eq_ok, Res.pure_eq_ok, List.any_eq_true, not_exists,
      not_and, decide_eq_true_eq, not_not] at h
    obtain ⟨-, hzero, rfl⟩ := h
    refine ⟨rfl, hlen, fun j _ _ => ?_⟩
    rw [byteAt_of_all_zero hzero]
    exact getByte_zero.symm
  -- the operation byte is read through the enumeration
  case h_6 =>
    simp only [Res.bind_eq_ok, sliceVec_eq_ok, index_eq_ok, Res.pure_eq_ok, Res.okOr_eq_ok] at h
    obtain ⟨_, ⟨-, rfl⟩, op, hop, _, ⟨-, rfl⟩, rfl⟩ := h
    refine ⟨rfl, hlen, fun j hj hread => ?_⟩
    simp [ignoredBody, unusedBody] at hread
    simp only [Action.body, RecoveryOp.fromU8_eq_some.mp hop, getByte_putVec, getByte_putByte,
      getByte_zero, getByte_readVec]
    grind
  all_goals
    simp only [Res.bind_eq_ok, sliceVec_eq_ok, index_eq_ok, Res.pure_eq_ok] at h
  -- a key and an integer fill the body
  case h_1 | h_2 | h_7 =>
    obtain ⟨_, ⟨-, rfl⟩, _, ⟨-, rfl⟩, rfl⟩ := h
    refine ⟨rfl, hlen, fun j hj hread => ?_⟩
    simp only [Action.body, u64ToLe_u64FromLe, getByte_putVec, getByte_zero, getByte_readVec]
    grind
  -- a key alone: the last eight bytes are not looked at
  case h_3 | h_4 =>
    obtain ⟨_, ⟨-, rfl⟩, rfl⟩ := h
    refine ⟨rfl, hlen, fun j hj hread => ?_⟩
    simp [ignoredBody, unusedBody] at hread
    simp only [Action.body, getByte_putVec, getByte_zero, getByte_readVec]
    grind
  case h_5 =>
    obtain ⟨_, ⟨-, rfl⟩, _, ⟨-, rfl⟩, rfl⟩ := h
    refine ⟨rfl, hlen, fun j hj hread => ?_⟩
    simp [ignoredBody, unusedBody] at hread
    simp only [Action.body, u64ToLe_u64FromLe, getByte_putVec, getByte_putByte, getByte_zero,
      getByte_readVec]
    grind

/-- The decoder accepts a body for an action exactly when it has the bytes the encoder writes,
those it ignores excepted. -/
theorem fromWire_eq_ok {tag : UInt8} {body : List UInt8} {a : Action} :
    Action.fromWire tag body = .ok a ↔ tag = a.tag ∧ body.length = 40 ∧
      ∀ j < 40, j ∉ ignoredBody tag → byteAt body j = a.body.getByte j := by
  constructor
  · exact byteAt_of_fromWire
  · rintro ⟨rfl, hlen, h⟩
    rw [fromWire_congr hlen a.body.toList_length h]
    exact fromWire_body a

theorem tag_bounds (a : Action) : 1 ≤ a.tag ∧ a.tag ≤ 8 := by
  cases a <;> exact ⟨by simp only [Action.tag]; decide, by simp only [Action.tag]; decide⟩

/-- The bodies the decoder accepts. -/
theorem exists_fromWire {tag : UInt8} {body : List UInt8} (hlen : body.length = 40) :
    (∃ a, Action.fromWire tag body = .ok a) ↔ NamesAction tag (byteAt body) := by
  constructor
  · rintro ⟨a, ha⟩
    obtain ⟨rfl, -, hbody⟩ := fromWire_eq_ok.mp ha
    refine ⟨tag_bounds a, fun htag => ?_, fun htag j hj => ?_⟩
    · cases a with
      | recoverAccount op k =>
        rw [hbody 0 (by omega) (by simp [ignoredBody, unusedBody, Action.tag])]
        refine RecoveryOp.exists_asU8.mp ⟨op, ?_⟩
        simp [Action.body, getByte_putVec]
      | _ => exact absurd htag (by simp [Action.tag])
    · cases a with
      | cancelSocialRecovery =>
        rw [hbody j hj (by simp [ignoredBody, Action.tag])]
        exact getByte_zero
      | _ => exact absurd htag (by simp [Action.tag])
  · rintro ⟨⟨hlo, hhi⟩, hop, hcancel⟩
    -- the tag is a byte, so eight values are left
    have hcase : tag = 1 ∨ tag = 2 ∨ tag = 3 ∨ tag = 4 ∨ tag = 5 ∨ tag = 6 ∨ tag = 7 ∨ tag = 8 := by
      rw [UInt8.le_iff_toNat_le] at hlo hhi
      simp only [← UInt8.toNat_inj]
      change 1 ≤ tag.toNat at hlo
      change tag.toNat ≤ 8 at hhi
      simp only [UInt8.reduceToNat]
      omega
    rcases hcase with rfl | rfl | rfl | rfl | rfl | rfl | rfl | rfl
    · exact ⟨.transferSol (readVec 32 body 0) (u64FromLe (readVec 8 body 32)), by
        simp [Action.fromWire, hlen]⟩
    · exact ⟨.transferSpl (readVec 32 body 0) (u64FromLe (readVec 8 body 32)), by
        simp [Action.fromWire, hlen]⟩
    · exact ⟨.rotateEd25519Key (readVec 32 body 0), by simp [Action.fromWire, hlen]⟩
    · exact ⟨.rotateFalconKey (readVec 32 body 0), by simp [Action.fromWire, hlen]⟩
    · exact ⟨.changePolicy (byteAt body 0) (u64FromLe (readVec 8 body 8)), by
        simp [Action.fromWire, hlen]⟩
    · obtain ⟨op, hasU8⟩ := RecoveryOp.exists_asU8.mpr (hop rfl)
      exact ⟨.recoverAccount op (readVec 32 body 8), by
        simp [Action.fromWire, hlen, ← hasU8]⟩
    · exact ⟨.setRecoveryConfig (readVec 32 body 0) (u64FromLe (readVec 8 body 32)), by
        simp [Action.fromWire, hlen]⟩
    · refine ⟨.cancelSocialRecovery, fromWire_eq_ok.mpr ⟨rfl, hlen, fun j hj _ => ?_⟩⟩
      rw [hcancel rfl j hj]
      exact getByte_zero.symm

/-- On a body of 40 bytes the decoder returns: every range it reads lies inside. -/
theorem fromWire_returns {tag : UInt8} {body : List UInt8} (hlen : body.length = 40) :
    (Action.fromWire tag body).Returns := by
  have hvec (n off : ℕ) (h : off + n ≤ 40) : (sliceVec n body off : DkRes (ByteVec n)).Returns :=
    sliceVec_returns (by omega)
  have hbyte : (index body 0 : DkRes UInt8).Returns := index_returns (by omega)
  unfold Action.fromWire
  refine (Res.returns_failIf _ _).bind fun _ _ => ?_
  split
  case h_1 | h_2 | h_7 =>
    exact (hvec 32 0 (by omega)).bind fun _ _ => (hvec 8 32 (by omega)).bind fun _ _ =>
      Res.returns_ok _
  case h_3 | h_4 => exact (hvec 32 0 (by omega)).bind fun _ _ => Res.returns_ok _
  case h_5 => exact hbyte.bind fun _ _ => (hvec 8 8 (by omega)).bind fun _ _ => Res.returns_ok _
  case h_6 =>
    exact hbyte.bind fun _ _ => (Res.returns_okOr _ _).bind fun _ _ =>
      (hvec 32 8 (by omega)).bind fun _ _ => Res.returns_ok _
  case h_8 => exact (Res.returns_failIf _ _).bind fun _ _ => Res.returns_ok _
  case h_9 => exact Or.inr ⟨_, rfl⟩

/-! ### Strings -/

namespace ExecuteIntentWire

variable {b : List UInt8} {w : ExecuteIntentWire}

/-- The encoder of the wire writes the end of the preimage. -/
theorem encode_fromIntent (i : AuthorizationIntent) :
    (fromIntent i).encode = getVec executeIntentWireLen (canonicalPreimage i) 123 := by
  unfold canonicalPreimage encode fromIntent
  cases i.action <;>
    simp [getVec_putVec_inside, getVec_putByte_inside, getVec_putVec_of_disjoint,
      getVec_putByte_of_disjoint, getVec_zero]

theorem getByte_tag_encode : w.encode.getByte 8 = w.action.tag := by
  unfold encode
  cases w.action <;> simp [getByte_putVec_of_disjoint, getByte_putByte_of_ne]

theorem getVec_expirySlot_encode : getVec 8 w.encode 0 = u64ToLe w.expirySlot := by
  unfold encode
  cases w.action <;> simp [getVec_putVec_of_disjoint, getVec_putByte_of_disjoint]

theorem getVec_body_encode : getVec actionBodyLen w.encode 9 = w.action.body := by
  unfold encode Action.body
  cases w.action <;>
    simp [getVec_putVec_inside, getVec_putByte_inside, getVec_putVec_of_disjoint,
      getVec_putByte_of_disjoint, getVec_zero]

theorem getByte_body_encode {j : ℕ} (hj : j < 40) :
    w.encode.getByte (9 + j) = w.action.body.getByte j := by
  rw [← getVec_body_encode, getByte_getVec, if_pos hj]

/-- The positions of a string that the decoder does not look at. -/
def Ignored (tag : UInt8) (k : ℕ) : Prop := ∃ j ∈ ignoredBody tag, k = 9 + j

/-- The strings that decode to `w` are those that agree with its encoding wherever the decoder
looks. -/
theorem decode_eq_ok : decode b = .ok w ↔ b.length = 49 ∧
    ∀ k < 49, ¬ Ignored w.action.tag k → byteAt b k = w.encode.getByte k := by
  unfold decode
  simp only [Res.bind_eq_ok, Res.failIf_eq_ok, not_not, sliceVec_eq_ok, index_eq_ok, slice_eq_ok,
    Res.pure_eq_ok]
  have hread {j : ℕ} (hj : j < 40) : byteAt (read b 9 40) j = byteAt b (9 + j) := by
    rw [byteAt_read, if_pos hj]
  constructor
  · rintro ⟨-, hlen, _, ⟨-, rfl⟩, _, ⟨-, rfl⟩, _, ⟨-, rfl⟩, a, ha, rfl⟩
    obtain ⟨htag, -, hbody⟩ := fromWire_eq_ok.mp ha
    refine ⟨hlen, fun k hk hlook => ?_⟩
    -- the expiry slot, the tag, the body
    rcases Nat.lt_trichotomy k 8 with hk8 | rfl | hk8
    · have hexpiry := congrArg (fun v => getByte v k) (getVec_expirySlot_encode
        (w := { expirySlot := u64FromLe (readVec 8 b 0), action := a }))
      simp only [u64ToLe_u64FromLe, getByte_getVec, getByte_readVec, if_pos hk8, Nat.zero_add]
        at hexpiry
      exact hexpiry.symm
    · rw [getByte_tag_encode]
      exact htag
    · obtain ⟨j, rfl⟩ : ∃ j, k = 9 + j := ⟨k - 9, by omega⟩
      have hj : j < 40 := by omega
      rw [getByte_body_encode hj, ← hread hj]
      refine hbody j hj fun hmem => hlook ⟨j, ?_, rfl⟩
      rwa [← htag]
  · rintro ⟨hlen, h⟩
    have hlow {k : ℕ} (hk : k < 9) : byteAt b k = w.encode.getByte k := by
      refine h k (by omega) ?_
      rintro ⟨j, -, hj⟩
      omega
    refine ⟨(), hlen, _, ⟨by omega, rfl⟩, _, ⟨by omega, rfl⟩, _, ⟨by simp [hlen], rfl⟩, w.action,
      fromWire_eq_ok.mpr ⟨(hlow (by omega)).trans getByte_tag_encode, length_read, ?_⟩, ?_⟩
    · intro j hj hmem
      rw [hread hj, ← getByte_body_encode hj]
      refine h (9 + j) (by omega) ?_
      rintro ⟨j', hj', heq⟩
      obtain rfl : j = j' := by omega
      rw [(hlow (by omega)).trans getByte_tag_encode] at hmem
      exact hmem hj'
    · have hexpiry : readVec 8 b 0 = u64ToLe w.expirySlot := by
        rw [← getVec_expirySlot_encode]
        refine ext_getByte fun k hk => ?_
        rw [getByte_readVec, getByte_getVec, if_pos hk, if_pos hk, Nat.zero_add,
          hlow (by omega)]
      rw [hexpiry, u64FromLe_u64ToLe]

/-- Decoding undoes encoding. -/
theorem decode_encode (w : ExecuteIntentWire) : decode w.encode.toList = .ok w :=
  decode_eq_ok.mpr ⟨w.encode.toList_length, fun _ _ _ => rfl⟩

/-- An accepted string carries the tag of the action it decodes to. -/
theorem byteAt_tag_of_decode (h : decode b = .ok w) : byteAt b 8 = w.action.tag := by
  have hlook := (decode_eq_ok.mp h).2 8 (by omega) (by rintro ⟨j, -, hj⟩; omega)
  rw [hlook, getByte_tag_encode]

/-- A string of the right length that names an action. -/
def WellFormed (b : List UInt8) : Prop :=
  b.length = 49 ∧ NamesAction (byteAt b 8) fun j => byteAt b (9 + j)

/-- The strings the decoder accepts. -/
theorem exists_decode : (∃ w, decode b = .ok w) ↔ WellFormed b := by
  unfold WellFormed
  have hread : NamesAction (byteAt b 8) (byteAt (read b 9 40)) ↔
      NamesAction (byteAt b 8) fun j => byteAt b (9 + j) := by
    unfold NamesAction
    rw [byteAt_read, if_pos (by omega)]
    refine and_congr_right fun _ => and_congr_right fun _ => imp_congr_right fun _ => ?_
    refine forall_congr' fun j => imp_congr_right fun hj => ?_
    rw [byteAt_read, if_pos hj]
  rw [← hread, ← exists_fromWire length_read]
  unfold decode
  simp only [Res.bind_eq_ok, Res.failIf_eq_ok, not_not, sliceVec_eq_ok, index_eq_ok, slice_eq_ok,
    Res.pure_eq_ok]
  constructor
  · rintro ⟨w, -, hlen, _, -, _, ⟨-, rfl⟩, _, ⟨-, rfl⟩, a, ha, -⟩
    exact ⟨hlen, a, ha⟩
  · rintro ⟨hlen, a, ha⟩
    exact ⟨_, (), hlen, _, ⟨by omega, rfl⟩, _, ⟨by omega, rfl⟩, _, ⟨by simp [hlen], rfl⟩,
      a, ha, rfl⟩

/-- The decoder returns on every string: it never reads past the end. -/
theorem decode_returns (b : List UInt8) : (decode b).Returns := by
  unfold decode
  refine (Res.returns_failIf _ _).bind fun _ hlen => ?_
  rw [Res.failIf_eq_ok, not_not] at hlen
  change b.length = 49 at hlen
  rw [sliceVec_of_le (by omega), index_of_lt (by omega),
    slice_eq_ok.mpr ⟨by simp [hlen], rfl⟩]
  exact (fromWire_returns length_read).bind fun _ _ => Res.returns_ok _

/-- The strings the decoder refuses. -/
theorem exists_decode_fail : (∃ e, decode b = Res.fail e) ↔ ¬ WellFormed b := by
  rw [← exists_decode]
  constructor
  · rintro ⟨e, he⟩ ⟨w, hw⟩
    rw [he] at hw
    exact Res.fail_ne_ok hw
  · intro h
    exact (decode_returns b).resolve_left h

/-- **Wire round trip.** Decoding undoes encoding. The fragment of an intent is the range
`123..172` of its preimage, so what is sent is what is signed, and with its own context an
intent of the current version is reconstructed from it. The decoder returns an error exactly on
the strings of another length, with an unknown tag, with an unknown recovery operation, or with
contents in a cancellation. -/
theorem wire_round_trip :
    (∀ w : ExecuteIntentWire, decode w.encode.toList = .ok w) ∧
    (∀ i : AuthorizationIntent,
      (fromIntent i).encode = getVec executeIntentWireLen (canonicalPreimage i) 123) ∧
    (∀ i : AuthorizationIntent, i.version = intentVersion →
      reconstructIntent
        { chainDomain := i.chainDomain, programId := i.programId, account := i.account,
          nonce := i.nonce } <$> decode (fromIntent i).encode.toList = .ok i) ∧
    ∀ b : List UInt8, (decode b).Returns ∧ ((∃ e, decode b = Res.fail e) ↔
      b.length ≠ 49 ∨ ¬ (1 ≤ byteAt b 8 ∧ byteAt b 8 ≤ 8) ∨
      (byteAt b 8 = 6 ∧ 2 < byteAt b 9) ∨
      (byteAt b 8 = 8 ∧ ∃ j < 40, byteAt b (9 + j) ≠ 0)) := by
  refine ⟨decode_encode, encode_fromIntent, ?_, ?_⟩
  · intro i hversion
    rw [decode_encode]
    refine congrArg Except.ok ?_
    exact AuthorizationIntent.ext hversion.symm rfl rfl rfl rfl rfl rfl
  · intro b
    refine ⟨decode_returns b, ?_⟩
    rw [exists_decode_fail, WellFormed, NamesAction]
    simp only [not_and_or, Classical.not_imp, not_forall, UInt8.not_le, ne_eq,
      Nat.add_zero]

/-! ### Accepted strings and encoded ones -/

/-- The unused bytes of the body are zero, as the encoder leaves them. -/
def ZeroPadding (b : List UInt8) : Prop := ∀ j ∈ unusedBody (byteAt b 8), byteAt b (9 + j) = 0

/-- What the decoder ignores is not used. -/
theorem mem_unusedBody_of_ignored {tag : UInt8} {j : ℕ} (hj : j ∈ ignoredBody tag) :
    j ∈ unusedBody tag := by
  unfold ignoredBody at hj
  split at hj
  · exact absurd hj List.not_mem_nil
  · exact hj

/-- An accepted string is the encoding of its intent exactly when its padding is zero. -/
theorem encode_eq_iff (h : decode b = .ok w) : w.encode.toList = b ↔ ZeroPadding b := by
  obtain ⟨hlen, hlook⟩ := decode_eq_ok.mp h
  have htag := byteAt_tag_of_decode h
  constructor
  · rintro rfl j hj
    rw [htag] at hj
    exact (getByte_body_encode (unusedBody_lt hj)).trans (getByte_body_unused hj)
  · intro hzero
    refine ext_byteAt (w.encode.toList_length.trans hlen.symm) fun k hk => ?_
    rw [w.encode.toList_length] at hk
    by_cases hignored : Ignored w.action.tag k
    · -- zero on both sides
      obtain ⟨j, hj, rfl⟩ := hignored
      have hunused := mem_unusedBody_of_ignored hj
      rw [hzero j (htag ▸ hunused)]
      exact (getByte_body_encode (unusedBody_lt hunused)).trans (getByte_body_unused hunused)
    · exact (hlook k hk hignored).symm

/-- A changed byte is noticed exactly where the decoder looks. -/
theorem decode_writeByte (h : decode b = .ok w) {i : ℕ} (hi : i < 49) {v : UInt8}
    (hv : v ≠ byteAt b i) : decode (writeByte b i v) = .ok w ↔ Ignored w.action.tag i := by
  obtain ⟨hlen, hlook⟩ := decode_eq_ok.mp h
  have hb : i < b.length := by omega
  rw [decode_eq_ok, length_writeByte hb]
  constructor
  · rintro ⟨-, hlook'⟩
    by_contra hread
    have hbyte := hlook' i hi hread
    rw [byteAt_writeByte_self hb, ← hlook i hi hread] at hbyte
    exact hv hbyte
  · intro hignored
    refine ⟨hlen, fun k hk hread => ?_⟩
    have hne : k ≠ i := by
      rintro rfl
      exact hread hignored
    rw [byteAt_writeByte_of_ne hb hne, hlook k hk hread]

/-- An accepted string is the only one with its decoding exactly when the decoder looks at all
of it. -/
theorem decode_unique_iff (h : decode b = .ok w) :
    (∀ b', decode b' = .ok w → b' = b) ↔ ignoredBody w.action.tag = [] := by
  obtain ⟨hlen, hlook⟩ := decode_eq_ok.mp h
  constructor
  · intro hunique
    refine List.eq_nil_iff_forall_not_mem.mpr fun j hj => ?_
    have hlt : 9 + j < 49 := by
      have := unusedBody_lt (mem_unusedBody_of_ignored hj)
      omega
    -- another value in an ignored place gives another string with the same decoding
    obtain ⟨v, hne⟩ : ∃ v, v ≠ byteAt b (9 + j) := by
      by_cases hzero : byteAt b (9 + j) = 0
      · exact ⟨1, by rw [hzero]; decide⟩
      · exact ⟨0, Ne.symm hzero⟩
    have hsame := (decode_writeByte h hlt hne).mpr ⟨j, hj, rfl⟩
    have hbyte := congrArg (fun xs => byteAt xs (9 + j)) (hunique _ hsame)
    simp only [byteAt_writeByte_self (hlen.symm ▸ hlt)] at hbyte
    exact hne hbyte
  · intro hnone b' h'
    obtain ⟨hlen', hlook'⟩ := decode_eq_ok.mp h'
    have hread (k : ℕ) : ¬ Ignored w.action.tag k := by
      rintro ⟨j, hj, -⟩
      rw [hnone] at hj
      exact List.not_mem_nil hj
    refine ext_byteAt (hlen'.trans hlen.symm) fun k hk => ?_
    rw [hlook k (by omega) (hread k), hlook' k (by omega) (hread k)]

/-- Two wire intents with one preimage in some context are equal. -/
theorem eq_of_preimage {w w' : ExecuteIntentWire} {ctx : IntentContext}
    (h : canonicalPreimage (reconstructIntent ctx w) =
      canonicalPreimage (reconstructIntent ctx w')) : w = w' := by
  have hintent := canonicalPreimage_injective h
  have hexpiry : w.expirySlot = w'.expirySlot := congrArg AuthorizationIntent.expirySlot hintent
  have haction : w.action = w'.action := congrArg AuthorizationIntent.action hintent
  cases w
  cases w'
  simp only at hexpiry haction
  rw [hexpiry, haction]

/-- **Which accepted strings are canonical.** An accepted string is the encoding of what it
decodes to exactly when its unused body bytes are zero. It is the only string with its decoding
exactly when the decoder looks at every byte under its tag, that is when the tag is not one of
3 to 6. And a change to one byte is refused, or changes the decoded intent and its preimage,
exactly when the decoder looks at that byte. -/
theorem decode_canonical_iff (b : List UInt8) :
    ((∀ w, decode b = .ok w → w.encode.toList = b) ↔ (WellFormed b → ZeroPadding b)) ∧
    ((∀ w, decode b = .ok w → ∀ b', decode b' = .ok w → b' = b) ↔
      (WellFormed b → ignoredBody (byteAt b 8) = [])) ∧
    ∀ i < 49, ∀ v ≠ byteAt b i,
      ((∀ w w', decode b = .ok w → decode (writeByte b i v) = .ok w' → w' ≠ w ∧
        ∀ ctx, canonicalPreimage (reconstructIntent ctx w') ≠
          canonicalPreimage (reconstructIntent ctx w)) ↔
      (WellFormed b → ¬ Ignored (byteAt b 8) i)) := by
  refine ⟨?_, ?_, fun i hi v hv => ?_⟩
  · constructor
    · intro h hwell
      obtain ⟨w, hw⟩ := exists_decode.mpr hwell
      exact (encode_eq_iff hw).mp (h w hw)
    · intro h w hw
      exact (encode_eq_iff hw).mpr (h (exists_decode.mp ⟨w, hw⟩))
  · constructor
    · intro h hwell
      obtain ⟨w, hw⟩ := exists_decode.mpr hwell
      rw [byteAt_tag_of_decode hw]
      exact (decode_unique_iff hw).mp (h w hw)
    · intro h w hw
      have hnone := h (exists_decode.mp ⟨w, hw⟩)
      rw [byteAt_tag_of_decode hw] at hnone
      exact (decode_unique_iff hw).mpr hnone
  · constructor
    -- a change the decoder does not see is decoded to the same fragment
    · intro h hwell hignored
      obtain ⟨w, hw⟩ := exists_decode.mpr hwell
      rw [byteAt_tag_of_decode hw] at hignored
      exact (h w w hw ((decode_writeByte hw hi hv).mpr hignored)).1 rfl
    · intro h w w' hw hw'
      have hread := h (exists_decode.mp ⟨w, hw⟩)
      rw [byteAt_tag_of_decode hw] at hread
      have hne : w' ≠ w := by
        rintro rfl
        exact hread ((decode_writeByte hw hi hv).mp hw')
      exact ⟨hne, fun ctx heq => hne (eq_of_preimage heq)⟩

/-- A rotation of the owner key whose last body byte is not zero. -/
def paddedRotation : List UInt8 := List.replicate 8 0 ++ [3] ++ List.replicate 39 0 ++ [1]

/-- The decoder accepts the padded rotation, and the encoder writes another string for it. -/
theorem decode_paddedRotation : paddedRotation.length = 49 ∧
    ∃ w, decode paddedRotation = .ok w ∧ w.encode.toList ≠ paddedRotation ∧
      decode w.encode.toList = .ok w := by
  refine ⟨rfl, { expirySlot := 0, action := .rotateEd25519Key (ByteVec.zero 32) }, ?_⟩
  decide

end ExecuteIntentWire

end DualKey
