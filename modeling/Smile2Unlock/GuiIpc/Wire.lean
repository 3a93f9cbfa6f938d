/-
  Smile2Unlock.GuiIpc.Wire

  The memory of a `GuiIpcResponse` (common/models/gui_ipc_protocol.h), which `WriteFile`
  sends and into which `ReadFile` puts what arrives.

  A response survives the pipe (`received_toBytes`).  Of a reply that is shorter than a
  response only the front is replaced: such a response says SUCCESS as soon as the bytes of
  the reply that lie in the field `status` are 0 (`status_received`).
-/

import Smile2Unlock.GuiIpc.Protocol
import Smile2Unlock.Common.Datagram

namespace Smile2Unlock.GuiIpc

open Smile2Unlock Lib Layout

/-- `sizeof(GuiIpcResponse)`. -/
def sizeofGuiIpcResponse : Nat := 1048608

namespace GuiIpcResponse

/-- The memory of a response. -/
def toBytes (r : GuiIpcResponse) : Bytes :=
  leBytes 4 r.magic.toUInt32.toNat ++ (leBytes 4 r.version.toUInt32.toNat ++
    (leBytes 4 r.status.toUInt32.toNat ++ (leBytes 4 r.payloadSize.toUInt32.toNat ++
      (leBytes 8 r.timestamp.toUInt64.toNat ++ (leBytes 4 r.requestId.toUInt32.toNat ++
        (leBytes 4 r.reserved.toUInt32.toNat ++ r.payload.bytes))))))

/-- The response in a piece of memory. -/
def ofBytes (memory : Bytes) (h : memory.length = sizeofGuiIpcResponse) : GuiIpcResponse where
  magic := (uint32At 0 memory).toInt32
  version := (uint32At 4 memory).toInt32
  status := (uint32At 8 memory).toInt32
  payloadSize := (uint32At 12 memory).toInt32
  timestamp := (uint64At 16 memory).toInt64
  requestId := (uint32At 24 memory).toInt32
  reserved := (uint32At 28 memory).toInt32
  payload := charsAt 32 kPayloadSize memory
    (by rw [h, sizeofGuiIpcResponse, kPayloadSize])

@[simp] theorem length_toBytes (r : GuiIpcResponse) :
    r.toBytes.length = sizeofGuiIpcResponse := by
  simp only [toBytes, List.length_append, length_leBytes, r.payload.length_eq, kPayloadSize,
    sizeofGuiIpcResponse]

/-- A response survives the wire. -/
theorem ofBytes_toBytes (r : GuiIpcResponse) : ofBytes r.toBytes r.length_toBytes = r := by
  obtain ⟨magic, version, status, size, ts, id, reserved, ⟨payload, hp⟩⟩ := r
  have hpayload : slice 0 kPayloadSize payload = payload := by
    rw [slice, List.drop_zero, List.take_of_length_le hp.le]
  simp only [ofBytes, toBytes, mk.injEq, charsAt, CharField.mk.injEq, uint32At_front]
  simp [uint32At_behind, uint64At_behind, uint32At_front, uint64At_front, slice_behind, hpayload]

-- ============================================================================
-- A reply in a new response
-- ============================================================================

/-- The response after `ReadFile` put the bytes of a reply at its front. -/
def received (response : GuiIpcResponse) (reply : Bytes) : GuiIpcResponse :=
  ofBytes (patch 0 reply response.toBytes) (by rw [length_patch, length_toBytes])

/-- Nothing of the old response is left behind a complete reply. -/
theorem received_of_length (response : GuiIpcResponse) {reply : Bytes}
    (h : reply.length = sizeofGuiIpcResponse) : response.received reply = ofBytes reply h := by
  have hpatch : patch 0 reply response.toBytes = reply :=
    patch_of_length_eq (by rw [h, length_toBytes])
  simp only [received, hpatch]

/-- A response survives the pipe. -/
theorem received_toBytes (response sent : GuiIpcResponse) : response.received sent.toBytes = sent := by
  rw [received_of_length response sent.length_toBytes, ofBytes_toBytes]

/-- What arrived of the field `status` is 0. -/
def StatusBytesZero (reply : Bytes) : Prop := ∀ b ∈ slice 8 4 reply, b = 0

instance (reply : Bytes) : Decidable (StatusBytesZero reply) :=
  inferInstanceAs (Decidable (∀ b ∈ slice 8 4 reply, b = 0))

theorem status_eq_zero_iff {memory : Bytes} (h : memory.length = sizeofGuiIpcResponse) :
    (ofBytes memory h).status = GuiIpcStatus.success.code ↔ StatusBytesZero memory := by
  have hlength : (slice 8 4 memory).length = 4 := length_slice (by rw [h, sizeofGuiIpcResponse]; omega)
  have hlt : decode (slice 8 4 memory) < 2 ^ 32 := by
    have hlt := decode_lt (slice 8 4 memory)
    rwa [hlength] at hlt
  have hword : (uint32At 8 memory).toInt32 = 0 ↔ uint32At 8 memory = 0 := by
    constructor
    · intro hzero
      rw [← UInt32.toUInt32_toInt32 (uint32At 8 memory), hzero]
      rfl
    · intro hzero
      rw [hzero]
      rfl
  have hnat : uint32At 8 memory = 0 ↔ decode (slice 8 4 memory) = 0 := by
    rw [← UInt32.toNat_inj, uint32At, UInt32.toNat_ofNat', Nat.mod_eq_of_lt hlt]
    rfl
  exact hword.trans (hnat.trans decode_eq_zero_iff)

/-- The field `status` of a new response is 0 wherever the reply does not reach. -/
theorem status_received {reply : Bytes} (h : reply.length ≤ sizeofGuiIpcResponse) :
    (cleared.received reply).status = GuiIpcStatus.success.code ↔ StatusBytesZero reply := by
  have hcleared : ∀ b ∈ slice 8 4 cleared.toBytes, b = 0 :=
    (status_eq_zero_iff cleared.length_toBytes).mp (by rw [ofBytes_toBytes]; rfl)
  have hfits : 0 + reply.length ≤ cleared.toBytes.length := by rw [length_toBytes]; omega
  rw [received, status_eq_zero_iff]
  constructor
  · intro hmemory b hb
    obtain ⟨i, hlow, hhigh, hi⟩ := mem_slice.mp hb
    have hin : i < reply.length := (List.getElem?_eq_some_iff.mp hi).1
    refine hmemory b (mem_slice.mpr ⟨i, hlow, hhigh, ?_⟩)
    rw [getElem?_patch hfits, if_pos (by omega)]
    exact hi
  · intro hreply b hb
    obtain ⟨i, hlow, hhigh, hi⟩ := mem_slice.mp hb
    rw [getElem?_patch hfits] at hi
    split at hi
    · exact hreply b (mem_slice.mpr ⟨i, hlow, hhigh, hi⟩)
    · exact hcleared b (mem_slice.mpr ⟨i, hlow, hhigh, hi⟩)

end GuiIpcResponse

end Smile2Unlock.GuiIpc
