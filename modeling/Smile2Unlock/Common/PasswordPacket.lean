/-
  Smile2Unlock.Common.PasswordPacket

  The password reply (udp_password_packet.h): the packed struct, `PasswordSender` of
  udp_manager.h and the checks of `RequestAndDecryptPasswordFromSU`.

  DPAPI is a parameter.  `receiveReply_sendPassword_iff` says which replies of the
  sender give CP a password, and that it is the one that was sent.
-/

import Smile2Unlock.Common.Datagram

namespace Smile2Unlock

open Lib Layout

-- ============================================================================
-- The packed struct
-- ============================================================================

/-- `PASSWORD_RESPONSE_MAGIC` and `PASSWORD_RESPONSE_VERSION`. -/
def passwordResponseMagic : UInt32 := 0x52574450
def passwordResponseVersion : UInt32 := 1

/-- `sizeof(protected_password)` -/
def maxProtectedPassword : Nat := 512

/-- The packed `UdpPasswordResponsePacket`. -/
structure UdpPasswordResponsePacket where
  magicNumber : UInt32
  version : UInt32
  sessionId : UInt32
  resultCode : Int32
  username : CharField 64
  protectedPasswordSize : UInt32
  protectedPassword : CharField maxProtectedPassword
  timestamp : UInt64

def sizeofUdpPasswordResponsePacket : Nat := 604

/-- The memory of a password reply. -/
def UdpPasswordResponsePacket.toBytes (p : UdpPasswordResponsePacket) : Bytes :=
  leBytes 4 p.magicNumber.toNat ++ (leBytes 4 p.version.toNat ++
    (leBytes 4 p.sessionId.toNat ++ (leBytes 4 p.resultCode.toUInt32.toNat ++
      (p.username.bytes ++ (leBytes 4 p.protectedPasswordSize.toNat ++
        (p.protectedPassword.bytes ++ leBytes 8 p.timestamp.toNat))))))

/-- The password reply in a piece of memory. -/
def UdpPasswordResponsePacket.ofBytes (memory : Bytes)
    (h : memory.length = sizeofUdpPasswordResponsePacket) : UdpPasswordResponsePacket where
  magicNumber := uint32At 0 memory
  version := uint32At 4 memory
  sessionId := uint32At 8 memory
  resultCode := (uint32At 12 memory).toInt32
  username := charsAt 16 64 memory (by rw [h, sizeofUdpPasswordResponsePacket]; omega)
  protectedPasswordSize := uint32At 80 memory
  protectedPassword := charsAt 84 maxProtectedPassword memory
    (by rw [h, sizeofUdpPasswordResponsePacket, maxProtectedPassword]; omega)
  timestamp := uint64At 596 memory

@[simp] theorem UdpPasswordResponsePacket.length_toBytes (p : UdpPasswordResponsePacket) :
    p.toBytes.length = sizeofUdpPasswordResponsePacket := by
  simp only [toBytes, List.length_append, length_leBytes, p.username.length_eq,
    p.protectedPassword.length_eq, maxProtectedPassword, sizeofUdpPasswordResponsePacket]

theorem UdpPasswordResponsePacket.ofBytes_toBytes (p : UdpPasswordResponsePacket) :
    ofBytes p.toBytes p.length_toBytes = p := by
  have hname : p.username.bytes.length = 64 := p.username.length_eq
  have hblob : p.protectedPassword.bytes.length = 512 := p.protectedPassword.length_eq
  have hts : uint64At 0 (leBytes 8 p.timestamp.toNat) = p.timestamp := by
    rw [← List.append_nil (leBytes 8 _), uint64At_front]
  obtain ⟨magic, version, session, code, ⟨name, hn⟩, count, ⟨blob, hb⟩, ts⟩ := p
  dsimp only at hname hblob hts
  simp only [ofBytes, toBytes, mk.injEq, charsAt, CharField.mk.injEq, uint32At_front]
  simp [uint32At_behind, uint64At_behind, uint32At_front, slice_behind, slice_front, hname,
    hblob, hts, maxProtectedPassword]

-- ============================================================================
-- DPAPI
-- ============================================================================

/-- `CryptProtectData` and `CryptUnprotectData` of one Windows user. -/
structure Dpapi where
  cryptProtectData : Bytes → Option Bytes
  cryptUnprotectData : Bytes → Option Bytes

/-- What was protected is unprotected to the same data, and a protected blob has bytes. -/
structure Dpapi.Documented (dpapi : Dpapi) : Prop where
  unprotect : ∀ {data blob : Bytes}, dpapi.cryptProtectData data = some blob →
    dpapi.cryptUnprotectData blob = some data
  nonempty : ∀ {data : Bytes}, dpapi.cryptProtectData data ≠ some []

/-- The bytes of a `DATA_BLOB` whose `cbData` is the size of a string, cut to a `DWORD`. -/
def dataBlob (data : Bytes) : Bytes := data.take (data.length % 2 ^ 32)

-- ============================================================================
-- Sender
-- ============================================================================

/-- The packet of `send_password` with a blob that fits. -/
def passwordPacket (sessionId : UInt32) (username blob : Bytes) (success : Bool)
    (h : blob.length ≤ maxProtectedPassword) (timestamp : UInt64) : UdpPasswordResponsePacket where
  magicNumber := passwordResponseMagic
  version := passwordResponseVersion
  sessionId := sessionId
  resultCode := if success then 0 else 1
  username := strncpyTruncate 64 username
  protectedPasswordSize := UInt32.ofNat blob.length
  protectedPassword := .copied maxProtectedPassword blob h
  timestamp := timestamp

/-- `PasswordSender::send_password`: the datagram it hands to `send_to`. -/
def PasswordSender.sendPassword (dpapi : Dpapi) (initialized : Bool) (sessionId : UInt32)
    (username password : Bytes) (success : Bool) (timestamp : UInt64) : Option Bytes :=
  if ¬ initialized then none
  else if success = true ∧ password ≠ [] then
    match dpapi.cryptProtectData (dataBlob password) with
    | none => none
    | some blob =>
        if h : blob.length ≤ maxProtectedPassword then
          some (passwordPacket sessionId username blob success h timestamp).toBytes
        else none
  else
    some (passwordPacket sessionId username [] success (Nat.zero_le _) timestamp).toBytes

-- ============================================================================
-- Receiver
-- ============================================================================

/-- The checks of `RequestAndDecryptPasswordFromSU` on the variable `response`, and the
    decryption. -/
def decryptReply (dpapi : Dpapi) (sessionId : UInt32) (response : UdpPasswordResponsePacket) :
    Option Bytes :=
  if response.magicNumber ≠ passwordResponseMagic ∨ response.version ≠ passwordResponseVersion ∨
      response.sessionId ≠ sessionId then none
  else if response.resultCode ≠ 0 then none
  else if response.protectedPasswordSize = 0 ∨
      maxProtectedPassword < response.protectedPasswordSize.toNat then none
  else
    dpapi.cryptUnprotectData
      (response.protectedPassword.bytes.take response.protectedPasswordSize.toNat)

/-- The zero-initialised `response`. -/
def zeroResponse : PacketMemory sizeofUdpPasswordResponsePacket :=
  ⟨List.replicate sizeofUdpPasswordResponsePacket 0, List.length_replicate⟩

/-- `RequestAndDecryptPasswordFromSU` from `recvfrom` on: the decrypted password. -/
def receiveReply (dpapi : Dpapi) (socket : DatagramSocket) (sessionId : UInt32)
    (datagram : Bytes) : Option Bytes :=
  match socket.receiveFrom zeroResponse datagram with
  | (none, _) => none
  | (some received, response) =>
      if received < sizeofUdpPasswordResponsePacket then none
      else decryptReply dpapi sessionId (.ofBytes response.val response.property)

-- ============================================================================
-- What a reply gives
-- ============================================================================

variable {dpapi : Dpapi} {socket : DatagramSocket}

/-- Only a datagram of the packet's size is looked at, and then as it is. -/
theorem receiveReply_eq (hsocket : socket.Documented) (sessionId : UInt32) (datagram : Bytes) :
    receiveReply dpapi socket sessionId datagram =
      if h : datagram.length = sizeofUdpPasswordResponsePacket then
        decryptReply dpapi sessionId (.ofBytes datagram h)
      else none := by
  have hone : (receiveOne socket (fun packet _ => decryptReply dpapi sessionId
      (.ofBytes packet.val packet.property)) zeroResponse datagram []).2 = _ :=
    receiveOne_eq hsocket zeroResponse datagram []
  rw [delivers] at hone
  rw [← hone, receiveOne, receiveReply]
  rcases hpass : socket.receiveFrom zeroResponse datagram with ⟨len, response⟩
  cases len with
  | none => rfl
  | some received =>
      have hle : received ≤ sizeofUdpPasswordResponsePacket := by
        by_contra hlt
        by_cases hlong : sizeofUdpPasswordResponsePacket < datagram.length
        · have herror := hsocket.messageSize zeroResponse datagram hlong
          rw [hpass] at herror
          cases herror
        · have hfits := (hsocket.fits zeroResponse datagram (by omega)).1
          rw [hpass] at hfits
          cases hfits
          omega
      dsimp only
      by_cases hlt : received < sizeofUdpPasswordResponsePacket
      · rw [if_pos hlt, if_pos (by omega)]
      · rw [if_neg hlt, if_neg (by omega)]

/-- A packet of the sender, as the receiver takes it. -/
theorem decryptReply_passwordPacket {sessionId sessionId' : UInt32} {username blob : Bytes}
    {success : Bool} {h : blob.length ≤ maxProtectedPassword} {timestamp : UInt64} :
    decryptReply dpapi sessionId (passwordPacket sessionId' username blob success h timestamp) =
      if sessionId' = sessionId ∧ success = true ∧ blob ≠ [] then dpapi.cryptUnprotectData blob
      else none := by
  have hcount : (UInt32.ofNat blob.length).toNat = blob.length := by
    rw [maxProtectedPassword] at h
    rw [UInt32.toNat_ofNat', Nat.mod_eq_of_lt (by omega)]
  have hzero : UInt32.ofNat blob.length = 0 ↔ blob = [] := by
    rw [← UInt32.toNat_inj, hcount, ← List.length_eq_zero_iff]
    rfl
  simp only [decryptReply, passwordPacket, hcount, hzero, CharField.copied_bytes, List.take_left,
    ne_eq, not_true_eq_false, false_or]
  by_cases hsession : sessionId' = sessionId
  · cases success with
    | false => simp [hsession]
    | true =>
        by_cases hblob : blob = []
        · simp [hsession, hblob]
        · simp [hsession, hblob, Nat.not_lt.mpr h]
  · simp [hsession]

/-- The sender gives CP a password exactly when its session is the one that CP asked in,
    it has a password, and the protected password fits the packet; CP then has the
    password that was sent. -/
theorem receiveReply_sendPassword_iff (hdpapi : dpapi.Documented) (hsocket : socket.Documented)
    {sessionId sessionId' : UInt32} {username password plain : Bytes} {success : Bool}
    {timestamp : UInt64} :
    (∃ datagram, PasswordSender.sendPassword dpapi true sessionId' username password success
        timestamp = some datagram ∧ receiveReply dpapi socket sessionId datagram = some plain) ↔
      sessionId' = sessionId ∧ success = true ∧ password ≠ [] ∧ plain = dataBlob password ∧
        ∃ blob, dpapi.cryptProtectData (dataBlob password) = some blob ∧
          blob.length ≤ maxProtectedPassword := by
  have hreceive : ∀ {blob : Bytes} (h : blob.length ≤ maxProtectedPassword),
      receiveReply dpapi socket sessionId
        (passwordPacket sessionId' username blob success h timestamp).toBytes =
          if sessionId' = sessionId ∧ success = true ∧ blob ≠ [] then dpapi.cryptUnprotectData blob
          else none := by
    intro blob h
    rw [receiveReply_eq hsocket, dif_pos (UdpPasswordResponsePacket.length_toBytes _),
      UdpPasswordResponsePacket.ofBytes_toBytes, decryptReply_passwordPacket]
  constructor
  · rintro ⟨datagram, hsend, hreply⟩
    rw [PasswordSender.sendPassword, if_neg (by simp)] at hsend
    split at hsend
    · rename_i hsome
      split at hsend
      · cases hsend
      · rename_i blob hblob
        split at hsend
        · rename_i hfits
          obtain rfl := Option.some.inj hsend
          rw [hreceive hfits] at hreply
          split at hreply
          · rename_i hmatch
            rw [hdpapi.unprotect hblob] at hreply
            exact ⟨hmatch.1, hsome.1, hsome.2, (Option.some.inj hreply).symm, blob, hblob, hfits⟩
          · cases hreply
        · cases hsend
    · obtain rfl := Option.some.inj hsend
      rw [hreceive (Nat.zero_le _), if_neg (by simp)] at hreply
      cases hreply
  · rintro ⟨hsession, hsuccess, hpassword, rfl, blob, hblob, hfits⟩
    have hne : blob ≠ [] := by
      rintro rfl
      exact hdpapi.nonempty hblob
    refine ⟨(passwordPacket sessionId' username blob success hfits timestamp).toBytes, ?_, ?_⟩
    · rw [PasswordSender.sendPassword, if_neg (by simp), if_pos ⟨hsuccess, hpassword⟩, hblob]
      exact dif_pos hfits
    · rw [hreceive hfits, if_pos ⟨hsession, hsuccess, hne⟩, hdpapi.unprotect hblob]

end Smile2Unlock
