/-
  Smile2Unlock.CredentialProvider.StatusRegister

  The process-wide register of the Credential Provider (udp_receiver.h): the last
  status with its arrival tick, and the name, session and feature that came with
  it.  `UdpReceiver::receive_loop` writes it; every credential reads it.
-/

import Smile2Unlock.Common.Packets

namespace Smile2Unlock.CredentialProvider

open Smile2Unlock

/-- `face_recognition_status`, `face_recognition_status_tick`, `recognized_username`,
    `recognized_session_id` and `recognized_feature`. -/
structure StatusRegister where
  faceRecognitionStatus : RecognitionStatus
  faceRecognitionStatusTick : Nat
  recognizedUsername : Bytes
  recognizedSessionId : UInt32
  recognizedFeature : Bytes
deriving DecidableEq

/-- The initial values of the globals. -/
def StatusRegister.initial : StatusRegister := ⟨.idle, 0, [], 0, []⟩

/-- `UdpReceiver::receive_loop` on a datagram of the packet's size, at `tick`.  An
    empty name in the packet leaves the name of an earlier one. -/
def StatusRegister.receive (register : StatusRegister) (p : UdpStatusPacket) (beyond : Bytes)
    (tick : Nat) : StatusRegister :=
  if p.magicNumber ≠ magicNumber ∨ p.version ≠ protocolVersion then register
  else {
    faceRecognitionStatus := RecognitionStatus.ofCode p.statusCode
    faceRecognitionStatusTick := tick
    recognizedUsername :=
      if p.username.bytes.head? ≠ some 0 then p.usernameText beyond
      else register.recognizedUsername
    recognizedSessionId := p.sessionId
    recognizedFeature := p.featureText }

/-- The name in the register after a packet of `send_status`. -/
theorem StatusRegister.receive_recognizedUsername {status : RecognitionStatus}
    {username feature beyond : Bytes} {sessionId : UInt32} {timestamp : UInt64} {tick : Nat}
    (register : StatusRegister) (hfeature : feature.length < udpStatusMaxFeatureBytes) :
    (register.receive (statusPacket status username sessionId feature hfeature timestamp)
      beyond tick).recognizedUsername =
      if cString username = [] then register.recognizedUsername
      else (cString username).take 63 := by
  have hfield : (strncpyTruncate 64 username).bytes.head? ≠ some 0 ↔ cString username ≠ [] := by
    have hzero := zero_not_mem_cString username
    rw [strncpyTruncate, CharField.copied_bytes]
    cases hname : cString username with
    | nil => simp
    | cons b bs =>
        have hb : b ≠ 0 := fun h => hzero (by rw [hname, h]; exact List.mem_cons_self)
        simpa using hb
  have hpacket : ¬ ((statusPacket status username sessionId feature hfeature timestamp).magicNumber
      ≠ magicNumber ∨ (statusPacket status username sessionId feature hfeature timestamp).version
      ≠ protocolVersion) := by simp [statusPacket]
  rw [StatusRegister.receive, if_neg hpacket]
  show (if (strncpyTruncate 64 username).bytes.head? ≠ some 0 then _ else _) = _
  by_cases hempty : cString username = []
  · rw [if_neg (by rw [hfield]; exact fun h => h hempty), if_pos hempty]
  · rw [if_pos (hfield.mpr hempty), if_neg hempty]
    exact readText_strncpyTruncate (by decide) _ _

/-- `IsAckStatusForRequest`. -/
def isAckStatusForRequest : AuthRequestType → RecognitionStatus → Bool
  | .startRecognition, status =>
      status = .recognizing || status = .success || status = .failed || status = .timeout ||
        status = .recognitionError || status = .processEnded
  | .cancelRecognition, status => status = .idle || status = .processEnded
  | .queryStatus, _ => true
  | .getPassword, _ => false
  | .unnamed _ _, _ => false

/-- `IsTerminalFailureStatus`. -/
def isTerminalFailureStatus (status : RecognitionStatus) : Bool :=
  status = .failed || status = .timeout || status = .recognitionError || status = .processEnded

/-- The hint of `RequestAndDecryptPasswordFromSU`: the recognized name, or the UTF-8
    of `_pwzUsername`. -/
def passwordHint (register : StatusRegister) (tileUsername : Bytes) : Bytes :=
  if register.recognizedUsername = [] then tileUsername else register.recognizedUsername

end Smile2Unlock.CredentialProvider
