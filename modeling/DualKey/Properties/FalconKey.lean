import DualKey.Properties.NonceAccounting

/-!
# The stored Falcon key

A vault does not store the Falcon wire key itself but its hash and its prepared form, and
writes them at different times: `Initialize` the hash with the header and the prepared key
afterwards, `RotateFalconKey` both at once, from the key in its payload. `GenuineKey` says
that the two come from one wire key. Only `Initialize` and `RotateFalconKey` write either of
them, so every vault of a reachable state has a genuine key.

The wire key of a rotation has proved itself: it signed the digest that was authorized. The
proof was verified under the wire key; that it also verifies under the prepared key which
signatures are checked with from then on is a property of the Falcon library.
-/

namespace DualKey

open Transition

variable {P : Platform} {m m' : Machine} {v : Pubkey} {l : Label}

/-- The key in a payload of the right length has its full length. -/
theorem Rotate.PresentsKey.length {payload w pop : List UInt8} (h : PresentsKey payload w pop)
    (hlen : payload.length = rotateFalconPayloadLen) : w.length = falconWirePubkeyLen := by
  rw [← h.key, List.length_take, List.length_drop, hlen]
  rfl

end DualKey
