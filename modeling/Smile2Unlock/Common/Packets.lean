/-
  Smile2Unlock.Common.Packets

  The UDP packets between FaceRecognizer, the service and the Credential
  Provider (common/models), and the senders and receivers that pack and unpack
  them (common/managers/ipc/udp).

  A receiver hands its callback the decoded fields only: `StatusDelivery` for a
  status packet, `AuthRequestDelivery` for a request packet.
-/

import Smile2Unlock.Common.Text

namespace Smile2Unlock

-- ============================================================================
-- Status and request codes
-- ============================================================================

/-- `enum class RecognitionStatus : int32_t`.  A value that comes from a packet
    may be any 32-bit code; the codes without a name are `unnamed`. -/
inductive RecognitionStatus where
  | idle
  | recognizing
  | success
  | failed
  | timeout
  | recognitionError
  | faceDetected
  | processEnded
  | unnamed (code : Int32) (h : code < 0 ∨ 7 < code)
deriving DecidableEq, Repr

/-- `static_cast<RecognitionStatus>(packet.status_code)`. -/
def RecognitionStatus.ofCode (code : Int32) : RecognitionStatus :=
  if code = 0 then .idle
  else if code = 1 then .recognizing
  else if code = 2 then .success
  else if code = 3 then .failed
  else if code = 4 then .timeout
  else if code = 5 then .recognitionError
  else if code = 6 then .faceDetected
  else if code = 7 then .processEnded
  else if h : code < 0 ∨ 7 < code then .unnamed code h
  else .idle

/-- `static_cast<int32_t>(status)`. -/
def RecognitionStatus.code : RecognitionStatus → Int32
  | .idle => 0
  | .recognizing => 1
  | .success => 2
  | .failed => 3
  | .timeout => 4
  | .recognitionError => 5
  | .faceDetected => 6
  | .processEnded => 7
  | .unnamed code _ => code

/-- The status code of a packet is read back as the status that was sent. -/
@[simp] theorem RecognitionStatus.ofCode_code (s : RecognitionStatus) : ofCode s.code = s := by
  cases s with
  | unnamed code h =>
      have hne : ∀ k : Int32, 0 ≤ k → k ≤ 7 → code ≠ k := by
        rintro k h0 h7 rfl
        rcases h with h | h
        · exact absurd h0 (Int32.not_le.mpr h)
        · exact absurd h7 (Int32.not_le.mpr h)
      simp [ofCode, RecognitionStatus.code, hne, h]
  | _ => rfl

/-- `enum class AuthRequestType : int32_t`. -/
inductive AuthRequestType where
  | startRecognition
  | cancelRecognition
  | queryStatus
  | getPassword
  | unnamed (code : Int32) (h : code < 1 ∨ 4 < code)
deriving DecidableEq, Repr

/-- `static_cast<AuthRequestType>(packet.request_type)`. -/
def AuthRequestType.ofCode (code : Int32) : AuthRequestType :=
  if code = 1 then .startRecognition
  else if code = 2 then .cancelRecognition
  else if code = 3 then .queryStatus
  else if code = 4 then .getPassword
  else if h : code < 1 ∨ 4 < code then .unnamed code h
  else .queryStatus

/-- `static_cast<int32_t>(request_type)`. -/
def AuthRequestType.code : AuthRequestType → Int32
  | .startRecognition => 1
  | .cancelRecognition => 2
  | .queryStatus => 3
  | .getPassword => 4
  | .unnamed code _ => code

@[simp] theorem AuthRequestType.ofCode_code (t : AuthRequestType) : ofCode t.code = t := by
  cases t with
  | unnamed code h =>
      have hne : ∀ k : Int32, 1 ≤ k → k ≤ 4 → code ≠ k := by
        rintro k h1 h4 rfl
        rcases h with h | h
        · exact absurd h1 (Int32.not_le.mpr h)
        · exact absurd h4 (Int32.not_le.mpr h)
      simp [ofCode, AuthRequestType.code, hne, h]
  | _ => rfl

-- ============================================================================
-- Status packets
-- ============================================================================

/-- `MAGIC_NUMBER` and `PROTOCOL_VERSION` of udp_status_packet.h. -/
def magicNumber : UInt32 := 0x8581DAF3
def protocolVersion : UInt32 := 2

/-- `UDP_STATUS_MAX_FEATURE_BYTES`. -/
def udpStatusMaxFeatureBytes : Nat := 48 * 1024

/-- The packed `UdpStatusPacket`. -/
structure UdpStatusPacket where
  magicNumber : UInt32
  version : UInt32
  statusCode : Int32
  sessionId : UInt32
  featureBytes : UInt32
  username : CharField 64
  feature : CharField udpStatusMaxFeatureBytes
  timestamp : UInt64

/-- The arguments of a status callback. -/
structure StatusDelivery where
  status : RecognitionStatus
  username : Bytes
  sessionId : UInt32
  feature : Bytes
deriving DecidableEq, Repr

/-- The little-endian bytes of an `n`-byte integer field. -/
def leBytes (n v : Nat) : Bytes := (List.range n).map fun i => UInt8.ofNat (v >>> (8 * i))

theorem nil_fits_feature : ([] : Bytes).length < udpStatusMaxFeatureBytes := by decide

/-- The packet that `send_status` fills in. -/
def statusPacket (status : RecognitionStatus) (username : Bytes) (sessionId : UInt32)
    (feature : Bytes) (h : feature.length < udpStatusMaxFeatureBytes) (timestamp : UInt64) :
    UdpStatusPacket where
  magicNumber := Smile2Unlock.magicNumber
  version := protocolVersion
  statusCode := status.code
  sessionId := sessionId
  featureBytes := UInt32.ofNat feature.length
  username := strncpyTruncate 64 username
  feature := CharField.copied udpStatusMaxFeatureBytes feature (Nat.le_of_lt h)
  timestamp := timestamp

/-- `StatusSender::send_status` (and `UdpSender::send_status`): the packet, or
    nothing for a feature that does not fit. -/
def sendStatus (status : RecognitionStatus) (username : Bytes) (sessionId : UInt32)
    (feature : Bytes) (timestamp : UInt64) : Option UdpStatusPacket :=
  if h : feature.length < udpStatusMaxFeatureBytes then
    some (statusPacket status username sessionId feature h timestamp)
  else none

/-- The username text of a status packet, `std::string(packet.username)`.  The
    packet lies in the receiver's buffer with `beyond` behind it. -/
def UdpStatusPacket.usernameText (p : UdpStatusPacket) (beyond : Bytes) : Bytes :=
  p.username.readText (p.feature.bytes ++ leBytes 8 p.timestamp.toNat ++ beyond)

/-- The feature of a status packet; one of size 0 or beyond the field is dropped. -/
def UdpStatusPacket.featureText (p : UdpStatusPacket) : Bytes :=
  if 0 < p.featureBytes ∧ p.featureBytes.toNat ≤ udpStatusMaxFeatureBytes then
    p.feature.bytes.take p.featureBytes.toNat
  else []

/-- `StatusReceiver::receive_loop` on a datagram of the packet's size. -/
def statusReceiver (p : UdpStatusPacket) (beyond : Bytes) : Option StatusDelivery :=
  if p.magicNumber ≠ Smile2Unlock.magicNumber ∨ p.version ≠ protocolVersion then none
  else some {
    status := RecognitionStatus.ofCode p.statusCode
    username := p.usernameText beyond
    sessionId := p.sessionId
    feature := p.featureText }

-- ============================================================================
-- Request packets
-- ============================================================================

/-- `AUTH_REQUEST_MAGIC` and `AUTH_REQUEST_VERSION`. -/
def authRequestMagic : UInt32 := 0x41555448
def authRequestVersion : UInt32 := 1

/-- The packed `UdpAuthRequestPacket`. -/
structure UdpAuthRequestPacket where
  magicNumber : UInt32
  version : UInt32
  requestType : Int32
  usernameHint : CharField 64
  timestamp : UInt64
  sessionId : UInt32

/-- The arguments of the request callback. -/
structure AuthRequestDelivery where
  requestType : AuthRequestType
  usernameHint : Bytes
  sessionId : UInt32
deriving DecidableEq, Repr

/-- `AuthRequestSender::send_request`. -/
def sendRequest (requestType : AuthRequestType) (usernameHint : Bytes) (sessionId : UInt32)
    (timestamp : UInt64) : UdpAuthRequestPacket where
  magicNumber := authRequestMagic
  version := authRequestVersion
  requestType := requestType.code
  usernameHint := strncpyTruncate 64 usernameHint
  timestamp := timestamp
  sessionId := sessionId

/-- `AuthRequestReceiver::receive_loop` on a datagram of the packet's size. -/
def authRequestReceiver (p : UdpAuthRequestPacket) (beyond : Bytes) :
    Option AuthRequestDelivery :=
  if p.magicNumber ≠ authRequestMagic ∨ p.version ≠ authRequestVersion then none
  else some {
    requestType := AuthRequestType.ofCode p.requestType
    usernameHint := p.usernameHint.readText
      (leBytes 8 p.timestamp.toNat ++ leBytes 4 p.sessionId.toNat ++ beyond)
    sessionId := p.sessionId }

/-- A request arrives with its hint cut at the first NUL and to 63 bytes. -/
theorem authRequestReceiver_sendRequest (requestType : AuthRequestType)
    (usernameHint beyond : Bytes) (sessionId : UInt32) (timestamp : UInt64) :
    authRequestReceiver (sendRequest requestType usernameHint sessionId timestamp) beyond =
      some ⟨requestType, (cString usernameHint).take 63, sessionId⟩ := by
  have hvalid : ¬ ((sendRequest requestType usernameHint sessionId timestamp).magicNumber
      ≠ authRequestMagic ∨ (sendRequest requestType usernameHint sessionId timestamp).version
      ≠ authRequestVersion) := by simp [sendRequest]
  have hhint : (strncpyTruncate 64 usernameHint).readText
      (leBytes 8 timestamp.toNat ++ leBytes 4 sessionId.toNat ++ beyond) =
      (cString usernameHint).take 63 := readText_strncpyTruncate (by decide) _ _
  rw [authRequestReceiver, if_neg hvalid]
  simp only [sendRequest, AuthRequestType.ofCode_code, hhint]

end Smile2Unlock
