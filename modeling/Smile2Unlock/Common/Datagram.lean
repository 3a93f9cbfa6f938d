/-
  Smile2Unlock.Common.Datagram

  The packets as datagrams: the bytes of a packed struct, the senders that put it on
  the wire and the receive loops that read a datagram into the same memory.

  `ofBytes_toBytes` says that a packet survives the wire, and `receiveLoop_eq` that a
  receive loop delivers each datagram on its own: exactly those of the packet's size,
  magic number and version.
-/

import Smile2Unlock.Common.Packets
import Smile2Unlock.Lib.Layout

namespace Smile2Unlock

open Lib Layout

-- ============================================================================
-- Packed structs
-- ============================================================================

theorem leBytes_eq (n v : Nat) : leBytes n v = encode n v := by
  induction n generalizing v with
  | zero => rfl
  | succ n ih =>
      rw [encode, ← ih, leBytes, List.range_succ_eq_map, List.map_cons, List.map_map, leBytes]
      refine congrArg₂ List.cons rfl (List.map_congr_left fun i _ => ?_)
      rw [Function.comp_apply, Nat.mul_succ, Nat.add_comm, Nat.shiftRight_add,
        Nat.shiftRight_eq_div_pow v 8]

@[simp] theorem length_leBytes (n v : Nat) : (leBytes n v).length = n := by
  rw [leBytes_eq, length_encode]

/-- The `uint32_t` and the `uint64_t` at an offset. -/
def uint32At (offset : Nat) (memory : Bytes) : UInt32 := UInt32.ofNat (decode (slice offset 4 memory))
def uint64At (offset : Nat) (memory : Bytes) : UInt64 := UInt64.ofNat (decode (slice offset 8 memory))

/-- The `char[n]` at an offset. -/
def charsAt (offset n : Nat) (memory : Bytes) (h : offset + n ≤ memory.length) : CharField n :=
  ⟨slice offset n memory, length_slice h⟩

theorem uint32At_front (v : UInt32) (rest : Bytes) :
    uint32At 0 (leBytes 4 v.toNat ++ rest) = v := by
  rw [uint32At, slice_front (length_leBytes 4 _), leBytes_eq, decode_encode_of_lt v.toNat_lt,
    UInt32.ofNat_toNat]

theorem uint64At_front (v : UInt64) (rest : Bytes) :
    uint64At 0 (leBytes 8 v.toNat ++ rest) = v := by
  rw [uint64At, slice_front (length_leBytes 8 _), leBytes_eq, decode_encode_of_lt v.toNat_lt,
    UInt64.ofNat_toNat]

theorem uint32At_behind {offset : Nat} {field rest : Bytes} (h : field.length ≤ offset) :
    uint32At offset (field ++ rest) = uint32At (offset - field.length) rest := by
  rw [uint32At, slice_behind h, uint32At]

theorem uint64At_behind {offset : Nat} {field rest : Bytes} (h : field.length ≤ offset) :
    uint64At offset (field ++ rest) = uint64At (offset - field.length) rest := by
  rw [uint64At, slice_behind h, uint64At]

/-- `sizeof(UdpStatusPacket)`. -/
def sizeofUdpStatusPacket : Nat := 49244

/-- The memory of a status packet. -/
def UdpStatusPacket.toBytes (p : UdpStatusPacket) : Bytes :=
  leBytes 4 p.magicNumber.toNat ++ (leBytes 4 p.version.toNat ++
    (leBytes 4 p.statusCode.toUInt32.toNat ++ (leBytes 4 p.sessionId.toNat ++
      (leBytes 4 p.featureBytes.toNat ++ (p.username.bytes ++ (p.feature.bytes ++
        leBytes 8 p.timestamp.toNat))))))

/-- The status packet in a piece of memory. -/
def UdpStatusPacket.ofBytes (memory : Bytes) (h : memory.length = sizeofUdpStatusPacket) :
    UdpStatusPacket where
  magicNumber := uint32At 0 memory
  version := uint32At 4 memory
  statusCode := (uint32At 8 memory).toInt32
  sessionId := uint32At 12 memory
  featureBytes := uint32At 16 memory
  username := charsAt 20 64 memory (by rw [h, sizeofUdpStatusPacket]; omega)
  feature := charsAt 84 udpStatusMaxFeatureBytes memory
    (by rw [h, sizeofUdpStatusPacket, udpStatusMaxFeatureBytes]; omega)
  timestamp := uint64At 49236 memory

@[simp] theorem UdpStatusPacket.length_toBytes (p : UdpStatusPacket) :
    p.toBytes.length = sizeofUdpStatusPacket := by
  simp only [toBytes, List.length_append, length_leBytes, p.username.length_eq,
    p.feature.length_eq, udpStatusMaxFeatureBytes, sizeofUdpStatusPacket]

/-- A packet survives the wire. -/
theorem UdpStatusPacket.ofBytes_toBytes (p : UdpStatusPacket) :
    ofBytes p.toBytes p.length_toBytes = p := by
  have hname : p.username.bytes.length = 64 := p.username.length_eq
  have hfeature : p.feature.bytes.length = 49152 := p.feature.length_eq
  have hts : uint64At 0 (leBytes 8 p.timestamp.toNat) = p.timestamp := by
    rw [← List.append_nil (leBytes 8 _), uint64At_front]
  obtain ⟨magic, version, code, session, count, ⟨name, hn⟩, ⟨feature, hf⟩, ts⟩ := p
  dsimp only at hname hfeature hts
  simp only [ofBytes, toBytes, mk.injEq, charsAt, CharField.mk.injEq, uint32At_front]
  simp [uint32At_behind, uint64At_behind, uint32At_front, slice_behind, slice_front, hname,
    hfeature, hts, udpStatusMaxFeatureBytes]

/-- `sizeof(UdpAuthRequestPacket)`. -/
def sizeofUdpAuthRequestPacket : Nat := 88

/-- The memory of a request packet. -/
def UdpAuthRequestPacket.toBytes (p : UdpAuthRequestPacket) : Bytes :=
  leBytes 4 p.magicNumber.toNat ++ (leBytes 4 p.version.toNat ++
    (leBytes 4 p.requestType.toUInt32.toNat ++ (p.usernameHint.bytes ++
      (leBytes 8 p.timestamp.toNat ++ leBytes 4 p.sessionId.toNat))))

/-- The request packet in a piece of memory. -/
def UdpAuthRequestPacket.ofBytes (memory : Bytes)
    (h : memory.length = sizeofUdpAuthRequestPacket) : UdpAuthRequestPacket where
  magicNumber := uint32At 0 memory
  version := uint32At 4 memory
  requestType := (uint32At 8 memory).toInt32
  usernameHint := charsAt 12 64 memory (by rw [h, sizeofUdpAuthRequestPacket]; omega)
  timestamp := uint64At 76 memory
  sessionId := uint32At 84 memory

@[simp] theorem UdpAuthRequestPacket.length_toBytes (p : UdpAuthRequestPacket) :
    p.toBytes.length = sizeofUdpAuthRequestPacket := by
  simp only [toBytes, List.length_append, length_leBytes, p.usernameHint.length_eq,
    sizeofUdpAuthRequestPacket]

theorem UdpAuthRequestPacket.ofBytes_toBytes (p : UdpAuthRequestPacket) :
    ofBytes p.toBytes p.length_toBytes = p := by
  have hname : p.usernameHint.bytes.length = 64 := p.usernameHint.length_eq
  have hsession : uint32At 0 (leBytes 4 p.sessionId.toNat) = p.sessionId := by
    rw [← List.append_nil (leBytes 4 _), uint32At_front]
  obtain ⟨magic, version, code, ⟨name, hn⟩, ts, session⟩ := p
  dsimp only at hname hsession
  simp only [ofBytes, toBytes, mk.injEq, charsAt, CharField.mk.injEq, uint32At_front]
  simp [uint32At_behind, uint64At_behind, uint32At_front, uint64At_front, slice_behind,
    slice_front, hname, hsession]

-- ============================================================================
-- Senders
-- ============================================================================

/-- `UdpSender::send_status`: the datagram it hands to `send_to`. -/
def UdpSender.sendStatus (status : RecognitionStatus) (username : Bytes) (sessionId : UInt32)
    (feature : Bytes) (timestamp : UInt64) : Option Bytes :=
  (Smile2Unlock.sendStatus status username sessionId feature timestamp).map (·.toBytes)

/-- `StatusSender::send_status`: the same behind a look at `initialized_`. -/
def StatusSender.sendStatus (initialized : Bool) (status : RecognitionStatus) (username : Bytes)
    (sessionId : UInt32) (feature : Bytes) (timestamp : UInt64) : Option Bytes :=
  if ¬ initialized then none
  else UdpSender.sendStatus status username sessionId feature timestamp

/-- `AuthRequestSender::send_request`. -/
def AuthRequestSender.sendRequest (initialized : Bool) (requestType : AuthRequestType)
    (usernameHint : Bytes) (sessionId : UInt32) (timestamp : UInt64) : Option Bytes :=
  if ¬ initialized then none
  else some (Smile2Unlock.sendRequest requestType usernameHint sessionId timestamp).toBytes

-- ============================================================================
-- Receivers
-- ============================================================================

/-- The memory of the variable `packet` of a receive loop. -/
abbrev PacketMemory (size : Nat) := { memory : Bytes // memory.length = size }

/-- `receive_from` into a buffer: the number of bytes, or nothing with an error code,
    and the buffer after it. -/
structure DatagramSocket where
  receiveFrom : {size : Nat} → PacketMemory size → Bytes → Option Nat × PacketMemory size

/-- What the socket promises: a datagram that fits the buffer is copied to its front,
    one that is longer is an error (WSAEMSGSIZE). -/
structure DatagramSocket.Documented (socket : DatagramSocket) : Prop where
  fits : ∀ {size : Nat} (packet : PacketMemory size) (datagram : Bytes), datagram.length ≤ size →
    (socket.receiveFrom packet datagram).1 = some datagram.length ∧
      (socket.receiveFrom packet datagram).2.val = datagram ++ packet.val.drop datagram.length
  messageSize : ∀ {size : Nat} (packet : PacketMemory size) (datagram : Bytes),
    size < datagram.length → (socket.receiveFrom packet datagram).1 = none

section ReceiveLoop

variable {size : Nat} {α : Type} (socket : DatagramSocket)
  (decodePacket : PacketMemory size → Bytes → Option α)

/-- One pass of a receive loop: the memory of `packet` after it, and what goes to the
    callback.  `beyond` is the memory behind the variable. -/
def receiveOne (packet : PacketMemory size) (datagram beyond : Bytes) :
    PacketMemory size × Option α :=
  match socket.receiveFrom packet datagram with
  | (none, packet) => (packet, none)
  | (some len, packet) => (packet, if len ≠ size then none else decodePacket packet beyond)

/-- The deliveries of a receive loop. -/
def receiveLoop (packet : PacketMemory size) : List (Bytes × Bytes) → List α
  | [] => []
  | (datagram, beyond) :: rest =>
      let pass := receiveOne socket decodePacket packet datagram beyond
      pass.2.toList ++ receiveLoop pass.1 rest

/-- What a datagram of the packet's size holds; others hold nothing. -/
def delivers (arrival : Bytes × Bytes) : Option α :=
  if h : arrival.1.length = size then decodePacket ⟨arrival.1, h⟩ arrival.2 else none

variable {socket} {decodePacket}

/-- A pass delivers the packet that the datagram is, whatever the memory held. -/
theorem receiveOne_eq (hsocket : socket.Documented) (packet : PacketMemory size)
    (datagram beyond : Bytes) :
    (receiveOne socket decodePacket packet datagram beyond).2 =
      delivers decodePacket (datagram, beyond) := by
  rw [receiveOne, delivers]
  by_cases hlong : size < datagram.length
  · -- an error code
    have herror := hsocket.messageSize packet datagram hlong
    rcases hpass : socket.receiveFrom packet datagram with ⟨len, after⟩
    rw [hpass] at herror
    obtain rfl : len = none := herror
    rw [dif_neg (by simp only; omega)]
  · obtain ⟨hlen, hafter⟩ := hsocket.fits packet datagram (by omega)
    rcases hpass : socket.receiveFrom packet datagram with ⟨len, after⟩
    rw [hpass] at hlen hafter
    obtain rfl : len = some datagram.length := hlen
    simp only
    by_cases hsize : datagram.length = size
    · rw [if_neg (not_not.mpr hsize), dif_pos hsize]
      have hmemory : after = ⟨datagram, hsize⟩ := by
        apply Subtype.ext
        show after.val = datagram
        rw [hafter, hsize, List.drop_eq_nil_of_le packet.property.le, List.append_nil]
      rw [hmemory]
    · rw [if_pos hsize, dif_neg hsize]

/-- A receive loop handles each datagram on its own. -/
theorem receiveLoop_eq (hsocket : socket.Documented) (packet : PacketMemory size)
    (arrivals : List (Bytes × Bytes)) :
    receiveLoop socket decodePacket packet arrivals =
      arrivals.filterMap (delivers decodePacket) := by
  induction arrivals generalizing packet with
  | nil => rfl
  | cons arrival rest ih =>
      rw [receiveLoop, ih, receiveOne_eq hsocket, List.filterMap_cons]
      cases delivers decodePacket arrival <;> rfl

end ReceiveLoop

/-- `StatusReceiver::receive_loop`. -/
def StatusReceiver.decodePacket (packet : PacketMemory sizeofUdpStatusPacket) (beyond : Bytes) :
    Option StatusDelivery :=
  statusReceiver (.ofBytes packet.val packet.property) beyond

def StatusReceiver.receiveLoop (socket : DatagramSocket)
    (packet : PacketMemory sizeofUdpStatusPacket) (arrivals : List (Bytes × Bytes)) :
    List StatusDelivery :=
  Smile2Unlock.receiveLoop socket decodePacket packet arrivals

/-- `AuthRequestReceiver::receive_loop`. -/
def AuthRequestReceiver.decodePacket (packet : PacketMemory sizeofUdpAuthRequestPacket)
    (beyond : Bytes) : Option AuthRequestDelivery :=
  authRequestReceiver (.ofBytes packet.val packet.property) beyond

def AuthRequestReceiver.receiveLoop (socket : DatagramSocket)
    (packet : PacketMemory sizeofUdpAuthRequestPacket) (arrivals : List (Bytes × Bytes)) :
    List AuthRequestDelivery :=
  Smile2Unlock.receiveLoop socket decodePacket packet arrivals

-- ============================================================================
-- What is sent is delivered
-- ============================================================================

/-- The feature is read back by its length, whatever bytes it has. -/
theorem featureText_of_front {p : UdpStatusPacket} {feature rest : Bytes}
    (hbytes : p.feature.bytes = feature ++ rest) (hcount : p.featureBytes.toNat = feature.length)
    (h : feature.length ≤ udpStatusMaxFeatureBytes) : p.featureText = feature := by
  rw [UdpStatusPacket.featureText, hbytes, hcount, List.take_left]
  by_cases hnil : feature = []
  · rw [hnil, ite_self]
  · have hpos : 0 < p.featureBytes := by
      rw [UInt32.lt_iff_toNat_lt, hcount]
      exact List.length_pos_iff.mpr hnil
    rw [if_pos ⟨hpos, h⟩]

/-- The feature of a packet that was filled in. -/
theorem featureText_statusPacket {feature : Bytes}
    (h : feature.length < udpStatusMaxFeatureBytes) (status : RecognitionStatus)
    (username : Bytes) (sessionId : UInt32) (timestamp : UInt64) :
    (statusPacket status username sessionId feature h timestamp).featureText = feature := by
  have hcount : (UInt32.ofNat feature.length).toNat = feature.length := by
    rw [udpStatusMaxFeatureBytes] at h
    rw [UInt32.toNat_ofNat', Nat.mod_eq_of_lt (by omega)]
  exact featureText_of_front (CharField.copied_bytes _ _ (Nat.le_of_lt h)) hcount (Nat.le_of_lt h)

/-- A status packet is delivered with everything that was put into it. -/
theorem statusReceiver_statusPacket {feature : Bytes}
    (h : feature.length < udpStatusMaxFeatureBytes) (status : RecognitionStatus)
    (username beyond : Bytes) (sessionId : UInt32) (timestamp : UInt64) :
    statusReceiver (statusPacket status username sessionId feature h timestamp) beyond =
      some ⟨status, (cString username).take 63, sessionId, feature⟩ := by
  have hname : (strncpyTruncate 64 username).readText ((CharField.copied udpStatusMaxFeatureBytes
      feature (Nat.le_of_lt h)).bytes ++ leBytes 8 timestamp.toNat ++ beyond) =
      (cString username).take 63 := readText_strncpyTruncate (by decide) _ _
  rw [statusReceiver, if_neg (by simp [statusPacket]), featureText_statusPacket]
  simp only [statusPacket, UdpStatusPacket.usernameText, hname, RecognitionStatus.ofCode_code]

/-- The first eight bytes of a packet. -/
def packetHeader (magic version : UInt32) : Bytes := leBytes 4 magic.toNat ++ leBytes 4 version.toNat

/-- The bytes behind a `uint32_t`. -/
theorem slice_of_uint32At {offset : Nat} {memory : Bytes} {v : UInt32}
    (h : offset + 4 ≤ memory.length) (hv : uint32At offset memory = v) :
    slice offset 4 memory = leBytes 4 v.toNat := by
  have hlength := length_slice h
  have hbound := decode_lt (slice offset 4 memory)
  rw [hlength] at hbound
  have hdecode : decode (slice offset 4 memory) = v.toNat := by
    rw [← hv, uint32At, UInt32.toNat_ofNat', Nat.mod_eq_of_lt (by omega)]
  rw [leBytes_eq, ← hdecode]
  conv_lhs => rw [← encode_decode (slice offset 4 memory), hlength]

theorem header_of_uint32At {memory : Bytes} {magic version : UInt32} (h : 8 ≤ memory.length)
    (hmagic : uint32At 0 memory = magic) (hversion : uint32At 4 memory = version) :
    slice 0 8 memory = packetHeader magic version := by
  rw [packetHeader, ← slice_of_uint32At (by omega) hmagic, ← slice_of_uint32At (by omega) hversion]
  exact (slice_append_slice 0 4 4 memory).symm

/-- A datagram with the size, the magic number and the version of a packet. -/
def IsPacket (size : Nat) (magic version : UInt32) (datagram : Bytes) : Prop :=
  datagram.length = size ∧ slice 0 8 datagram = packetHeader magic version

instance (size : Nat) (magic version : UInt32) (datagram : Bytes) :
    Decidable (IsPacket size magic version datagram) :=
  inferInstanceAs (Decidable (_ ∧ _))

/-- From either sender a status arrives, among any other datagrams, with its session and
    feature and its name cut; a feature that does not fit is not sent. -/
def StatusArrives (socket : DatagramSocket) : Prop :=
  ∀ (status : RecognitionStatus) (username : Bytes) (sessionId : UInt32) (feature : Bytes)
    (timestamp : UInt64),
    (feature.length < udpStatusMaxFeatureBytes → ∃ datagram,
      UdpSender.sendStatus status username sessionId feature timestamp = some datagram ∧
      StatusSender.sendStatus true status username sessionId feature timestamp = some datagram ∧
      ∀ packet before beyond after,
        StatusReceiver.receiveLoop socket packet (before ++ (datagram, beyond) :: after) =
          StatusReceiver.receiveLoop socket packet before ++
            ⟨status, (cString username).take 63, sessionId, feature⟩ ::
              StatusReceiver.receiveLoop socket packet after) ∧
    (udpStatusMaxFeatureBytes ≤ feature.length →
      UdpSender.sendStatus status username sessionId feature timestamp = none ∧
      StatusSender.sendStatus true status username sessionId feature timestamp = none)

/-- A request arrives with its type and session and its hint cut. -/
def RequestArrives (socket : DatagramSocket) : Prop :=
  ∀ (requestType : AuthRequestType) (usernameHint : Bytes) (sessionId : UInt32)
    (timestamp : UInt64), ∃ datagram,
    AuthRequestSender.sendRequest true requestType usernameHint sessionId timestamp =
      some datagram ∧
    ∀ packet before beyond after,
      AuthRequestReceiver.receiveLoop socket packet (before ++ (datagram, beyond) :: after) =
        AuthRequestReceiver.receiveLoop socket packet before ++
          ⟨requestType, (cString usernameHint).take 63, sessionId⟩ ::
            AuthRequestReceiver.receiveLoop socket packet after

/-- The receivers do not see any other datagram. -/
def OnlyPacketsArrive (socket : DatagramSocket) : Prop :=
  (∀ packet arrivals, StatusReceiver.receiveLoop socket packet arrivals =
    StatusReceiver.receiveLoop socket packet (arrivals.filter fun arrival =>
      IsPacket sizeofUdpStatusPacket magicNumber protocolVersion arrival.1)) ∧
  (∀ packet arrivals, AuthRequestReceiver.receiveLoop socket packet arrivals =
    AuthRequestReceiver.receiveLoop socket packet (arrivals.filter fun arrival =>
      IsPacket sizeofUdpAuthRequestPacket authRequestMagic authRequestVersion arrival.1))

/-- A loop that delivers only what satisfies `p` may skip the rest. -/
theorem receiveLoop_filter {size : Nat} {α : Type} {socket : DatagramSocket}
    {decodePacket : PacketMemory size → Bytes → Option α} (hsocket : socket.Documented)
    {p : Bytes × Bytes → Bool}
    (hp : ∀ arrival, p arrival = false → delivers decodePacket arrival = none)
    (packet : PacketMemory size) (arrivals : List (Bytes × Bytes)) :
    receiveLoop socket decodePacket packet arrivals =
      receiveLoop socket decodePacket packet (arrivals.filter p) := by
  rw [receiveLoop_eq hsocket, receiveLoop_eq hsocket, List.filterMap_filter]
  refine List.filterMap_congr fun arrival _ => ?_
  cases harrival : p arrival with
  | false => rw [hp arrival harrival]; rfl
  | true => rfl

theorem statusArrives {socket : DatagramSocket} (hsocket : socket.Documented) :
    StatusArrives socket := by
  intro status username sessionId feature timestamp
  refine ⟨fun h => ?_, fun h => ?_⟩
  · have hsent : UdpSender.sendStatus status username sessionId feature timestamp =
        some (statusPacket status username sessionId feature h timestamp).toBytes := by
      rw [UdpSender.sendStatus, sendStatus, dif_pos h, Option.map_some]
    refine ⟨_, hsent, by rw [StatusSender.sendStatus, if_neg (by simp), hsent], ?_⟩
    intro packet before beyond after
    have hdelivers : delivers StatusReceiver.decodePacket
        ((statusPacket status username sessionId feature h timestamp).toBytes, beyond) =
        some ⟨status, (cString username).take 63, sessionId, feature⟩ := by
      rw [delivers, dif_pos (UdpStatusPacket.length_toBytes _), StatusReceiver.decodePacket,
        UdpStatusPacket.ofBytes_toBytes, statusReceiver_statusPacket]
    rw [StatusReceiver.receiveLoop, receiveLoop_eq hsocket, StatusReceiver.receiveLoop,
      receiveLoop_eq hsocket, StatusReceiver.receiveLoop, receiveLoop_eq hsocket,
      List.filterMap_append, List.filterMap_cons_some hdelivers]
  · have hnone : UdpSender.sendStatus status username sessionId feature timestamp = none := by
      rw [UdpSender.sendStatus, sendStatus, dif_neg (by omega), Option.map_none]
    exact ⟨hnone, by rw [StatusSender.sendStatus, if_neg (by simp), hnone]⟩

theorem requestArrives {socket : DatagramSocket} (hsocket : socket.Documented) :
    RequestArrives socket := by
  intro requestType usernameHint sessionId timestamp
  refine ⟨_, by rw [AuthRequestSender.sendRequest, if_neg (by simp)], ?_⟩
  intro packet before beyond after
  have hdelivers : delivers AuthRequestReceiver.decodePacket
      ((sendRequest requestType usernameHint sessionId timestamp).toBytes, beyond) =
      some ⟨requestType, (cString usernameHint).take 63, sessionId⟩ := by
    rw [delivers, dif_pos (UdpAuthRequestPacket.length_toBytes _),
      AuthRequestReceiver.decodePacket, UdpAuthRequestPacket.ofBytes_toBytes,
      authRequestReceiver_sendRequest]
  rw [AuthRequestReceiver.receiveLoop, receiveLoop_eq hsocket, AuthRequestReceiver.receiveLoop,
    receiveLoop_eq hsocket, AuthRequestReceiver.receiveLoop, receiveLoop_eq hsocket,
    List.filterMap_append, List.filterMap_cons_some hdelivers]

/-- A delivered status comes in a packet. -/
theorem isPacket_of_status {arrival : Bytes × Bytes} {d : StatusDelivery}
    (h : delivers StatusReceiver.decodePacket arrival = some d) :
    IsPacket sizeofUdpStatusPacket magicNumber protocolVersion arrival.1 := by
  rw [delivers] at h
  split at h
  · rename_i hsize
    rw [StatusReceiver.decodePacket, statusReceiver] at h
    split at h
    · cases h
    · rename_i hvalid
      obtain ⟨hmagic, hversion⟩ := not_or.mp hvalid
      refine ⟨hsize, header_of_uint32At ?_ (not_not.mp hmagic) (not_not.mp hversion)⟩
      rw [hsize, sizeofUdpStatusPacket]
      omega
  · cases h

theorem isPacket_of_request {arrival : Bytes × Bytes} {d : AuthRequestDelivery}
    (h : delivers AuthRequestReceiver.decodePacket arrival = some d) :
    IsPacket sizeofUdpAuthRequestPacket authRequestMagic authRequestVersion arrival.1 := by
  rw [delivers] at h
  split at h
  · rename_i hsize
    rw [AuthRequestReceiver.decodePacket, authRequestReceiver] at h
    split at h
    · cases h
    · rename_i hvalid
      obtain ⟨hmagic, hversion⟩ := not_or.mp hvalid
      refine ⟨hsize, header_of_uint32At ?_ (not_not.mp hmagic) (not_not.mp hversion)⟩
      rw [hsize, sizeofUdpAuthRequestPacket]
      omega
  · cases h

theorem onlyPacketsArrive {socket : DatagramSocket} (hsocket : socket.Documented) :
    OnlyPacketsArrive socket := by
  refine ⟨fun packet arrivals => receiveLoop_filter hsocket (fun arrival hno => ?_) _ _,
    fun packet arrivals => receiveLoop_filter hsocket (fun arrival hno => ?_) _ _⟩
  · by_contra hsome
    obtain ⟨d, hd⟩ := Option.ne_none_iff_exists'.mp hsome
    exact of_decide_eq_false hno (isPacket_of_status hd)
  · by_contra hsome
    obtain ⟨d, hd⟩ := Option.ne_none_iff_exists'.mp hsome
    exact of_decide_eq_false hno (isPacket_of_request hd)

/-- What is sent is delivered, cut only in its name, and nothing else is. -/
theorem packets_arrive (socket : DatagramSocket) (hsocket : socket.Documented) :
    StatusArrives socket ∧ RequestArrives socket ∧ OnlyPacketsArrive socket :=
  ⟨statusArrives hsocket, requestArrives hsocket, onlyPacketsArrive hsocket⟩

/-- `recvfrom` of Winsock: a datagram that is too long fills the buffer and is an
    error. -/
def winsock : DatagramSocket where
  receiveFrom := fun {size} packet datagram =>
    if datagram.length ≤ size then
      (some datagram.length, ⟨slice 0 size (datagram ++ packet.val.drop datagram.length), by
        rw [length_slice]
        rw [List.length_append, List.length_drop, packet.property]
        omega⟩)
    else (none, ⟨slice 0 size (datagram ++ packet.val), by
      rw [length_slice]
      rw [List.length_append, packet.property]
      omega⟩)

theorem winsock_documented : winsock.Documented where
  fits := by
    intro size packet datagram h
    have hlength : (datagram ++ packet.val.drop datagram.length).length = size := by
      rw [List.length_append, List.length_drop, packet.property]
      omega
    simp only [winsock, if_pos h, slice, List.drop_zero, true_and]
    exact List.take_of_length_le hlength.le
  messageSize := by
    intro size packet datagram h
    simp only [winsock]
    rw [if_neg (by omega)]

theorem packets_arrive_winsock : winsock.Documented ∧
    StatusArrives winsock ∧ RequestArrives winsock ∧ OnlyPacketsArrive winsock :=
  ⟨winsock_documented, packets_arrive winsock winsock_documented⟩

end Smile2Unlock
