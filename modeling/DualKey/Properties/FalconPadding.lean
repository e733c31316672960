import DualKey.Client.FalconInterop

/-!
# Falcon padding is reversible

A signature is padded to 666 bytes for the wire, and read back by dropping the zeros the
buffer ends in. A genuine signature never ends in a zero byte, and then nothing is lost. The
theorem says what happens to every other byte string: exactly its own trailing zeros are
dropped, and padding what is left gives the same buffer again.
-/

namespace DualKey

open Padding WireSignature

theorem WireSignature.exists_fromEncodedBytes {encoded : List UInt8}
    (h : encoded.length ≤ falconSignatureLen) :
    ∃ w, fromEncodedBytes encoded = .ok w ∧
      w.asWireBytes.toList = pad 0 falconSignatureLen encoded := by
  obtain ⟨w, hw⟩ := exists_of_fits h
  refine ⟨w, hw, ?_⟩
  rw [asWireBytes_eq_pad, (fromEncodedBytes_eq_ok.mp hw).2]

/-- Every buffer of the right length is read. -/
theorem WireSignature.exists_fromWireBytes (b : ByteVec falconSignatureLen) :
    ∃ w, fromWireBytes b.toList = .ok w ∧ w.asWireBytes = b ∧
      w.encodedBytes = strip 0 b.toList := by
  unfold fromWireBytes
  rw [dif_pos b.toList_length]
  exact ⟨_, rfl, rfl, take_rposition 0 b.toList⟩

/-- **Falcon padding is reversible and never truncates.** A byte string is refused exactly when
it is longer than 666 bytes. Any other is followed by zeros up to that length, and reading the
buffer back gives the string without the zeros it ended in: the string itself exactly when it is
empty or ends in another byte. Conversely every buffer of 666 bytes is read, is kept as it is,
splits into a tight signature and its padding, and comes back when the signature is padded. -/
theorem falcon_padding_reversible :
    (∀ e : List UInt8,
      ((∃ err, fromEncodedBytes e = .error err) ↔ falconSignatureLen < e.length) ∧
      (e.length ≤ falconSignatureLen → ∃ w w' : WireSignature,
        fromEncodedBytes e = .ok w ∧
        w.asWireBytes.toList = e ++ List.replicate (falconSignatureLen - e.length) 0 ∧
        fromWireBytes w.asWireBytes.toList = .ok w' ∧
        w'.asWireBytes = w.asWireBytes ∧
        w'.encodedBytes = strip 0 e ∧
        (w'.encodedBytes = e ↔ Tight 0 e) ∧
        (w'.encodedLen = e.length ↔ Tight 0 e))) ∧
    ∀ b : ByteVec falconSignatureLen, ∃ w w' : WireSignature,
      fromWireBytes b.toList = .ok w ∧
      w.asWireBytes = b ∧
      w.encodedLen + w.paddingLen = falconSignatureLen ∧
      Tight 0 w.encodedBytes ∧
      fromEncodedBytes w.encodedBytes = .ok w' ∧
      w'.asWireBytes = b := by
  refine ⟨fun e => ⟨?_, fun hle => ?_⟩, fun b => ?_⟩
  · constructor
    · rintro ⟨err, herr⟩
      exact (fromEncodedBytes_eq_error.mp herr).1
    · intro hlong
      exact ⟨_, fromEncodedBytes_eq_error.mpr ⟨hlong, rfl⟩⟩
  · obtain ⟨w, hw, hbytes⟩ := exists_fromEncodedBytes hle
    obtain ⟨w', hw', hkept, hstrip⟩ := exists_fromWireBytes w.asWireBytes
    have hencoded : w'.encodedBytes = strip 0 e := by rw [hstrip, hbytes, strip_pad]
    refine ⟨w, w', hw, hbytes, hw', hkept, hencoded, ?_, ?_⟩
    · rw [hencoded, strip_eq_self_iff]
    · rw [← length_encodedBytes, hencoded, length_strip_eq_iff]
  · obtain ⟨w, hw, hkept, hstrip⟩ := exists_fromWireBytes b
    have hfits : w.encodedBytes.length ≤ falconSignatureLen := by
      rw [length_encodedBytes]
      exact w.encodedLen_le
    -- padding the signature of `w` builds `w` itself
    have hagain : fromEncodedBytes w.encodedBytes = .ok w :=
      fromEncodedBytes_eq_ok.mpr ⟨hfits, rfl⟩
    refine ⟨w, w, hw, hkept, encodedLen_add_paddingLen, ?_, hagain, hkept⟩
    rw [hstrip]
    exact tight_strip 0 b.toList

end DualKey
