/-
  Smile2Unlock.Service.FaceRecognition

  The recognition manager of the service (modules/face_recognition.cppm): its
  fields and the callbacks and calls that change them.

  Each function returns the new state with the datagrams it sent, in order.
  `start_fr_process` sleeps 1.5 s after it has launched the process, and the
  other threads run meanwhile: a start that launches a process is therefore in
  two parts, and `Progress.sleeping` marks the place between them.

  What does not depend on the fields is a parameter: the feature comparison, the
  decryption of a stored password and the default threshold.
-/

import Mathlib.Order.Lattice
import Smile2Unlock.Common.Packets
import Smile2Unlock.Service.Database

namespace Smile2Unlock.Service

open Smile2Unlock

/-- `compare_features_on_su` (`none` when it returns false), `DecryptPassword`
    and `kRecognitionThreshold`.  `R` stands for the floats it compares. -/
structure Env (R : Type) where
  compareFeaturesOnSu : Bytes → Bytes → Option R
  decryptPassword : Bytes → Bytes
  kRecognitionThreshold : R

/-- `struct RecognitionResult`. -/
structure RecognitionResult (R : Type) where
  success : Bool
  username : Bytes
  confidence : R
  errorMessage : Bytes
deriving DecidableEq

/-- What `GetExitCodeProcess` says of the process behind `fr_process_`. -/
inductive FrProcess where
  | active
  | exited
deriving DecidableEq

/-- The fields of `class FaceRecognition` that the callbacks use. -/
structure FaceRecognition (R : Type) where
  initialized : Bool
  isRunning : Bool
  lastResult : RecognitionResult R
  frProcess : Option FrProcess
  udpSender : Bool
  udpPasswordSender : Bool
  database : Option Database
  /-- `config_.face_threshold` -/
  faceThreshold : R
  currentSessionId : UInt32
  pendingUsernameHint : Bytes
  lastRecognitionFeature : Bytes
deriving DecidableEq

/-- A call of `send_status` or of `send_password`. -/
inductive Sent where
  | status (status : RecognitionStatus) (username : Bytes) (sessionId : UInt32)
  | password (sessionId : UInt32) (username password : Bytes) (success : Bool)
deriving DecidableEq

/-- Where a call that may launch the process stands. -/
inductive Progress where
  | returned
  | sleeping
deriving DecidableEq

namespace FaceRecognition

variable {R : Type}

/-- The fields after the constructor and a successful `Initialize`. -/
def afterInitialize [Zero R] (db : Database) (faceThreshold : R) : FaceRecognition R where
  initialized := true
  isRunning := false
  lastResult := { success := false, username := [], confidence := 0, errorMessage := [] }
  frProcess := none
  udpSender := true
  udpPasswordSender := true
  database := some db
  faceThreshold := faceThreshold
  currentSessionId := 0
  pendingUsernameHint := []
  lastRecognitionFeature := []

-- ============================================================================
-- The recognizer process
-- ============================================================================

/-- `if (udp_sender_) udp_sender_->send_status(..)`. -/
def sendStatus (s : FaceRecognition R) (status : RecognitionStatus) (username : Bytes)
    (sessionId : UInt32) : List Sent :=
  if s.udpSender then [.status status username sessionId] else []

/-- `fr_process_ && !IsProcessHandleActive(fr_process_)`. -/
def frProcessDead (s : FaceRecognition R) : Bool := s.frProcess = some .exited

/-- `cleanup_fr_process_handles`. -/
def cleanupFrProcessHandles (s : FaceRecognition R) : FaceRecognition R :=
  { s with frProcess := none }

/-- `stop_fr_process`. -/
def stopFrProcess (s : FaceRecognition R) : FaceRecognition R × List Sent :=
  (s.cleanupFrProcessHandles,
    if s.frProcess.isSome then s.sendStatus .processEnded [] s.currentSessionId else [])

/-- `StopRecognition`. -/
def stopRecognition (s : FaceRecognition R) : FaceRecognition R × List Sent :=
  if ¬ s.isRunning then (s, [])
  else { s with isRunning := false }.stopFrProcess

/-- `if (fr_process_ && !IsProcessHandleActive(fr_process_)) cleanup_fr_process_handles();` -/
def cleanupIfDead (s : FaceRecognition R) : FaceRecognition R :=
  if s.frProcessDead then s.cleanupFrProcessHandles else s

/-- `start_fr_process` up to its `Sleep(1500)`. -/
def launched (s : FaceRecognition R) : FaceRecognition R :=
  { s with frProcess := some .active }

-- ============================================================================
-- Matching the probe
-- ============================================================================

section Matching

variable [LinearOrder R] [Zero R] (env : Env R)

/-- `threshold` of `resolve_recognized_username`. -/
def threshold (s : FaceRecognition R) : R :=
  if 0 < s.faceThreshold then s.faceThreshold else env.kRecognitionThreshold

/-- The body of `compare_user_faces` for one face: best similarity and best
    username so far. -/
def compareFace (probe : Bytes) (username : Bytes) (best : R × Bytes) (face : FaceData) :
    R × Bytes :=
  if face.feature = [] then best
  else
    match env.compareFeaturesOnSu probe face.feature with
    | none => best
    | some similarity => if best.1 < similarity then (similarity, username) else best

/-- `compare_user_faces`. -/
def compareUserFaces (probe : Bytes) (best : R × Bytes) (user : User) : R × Bytes :=
  user.faces.foldl (compareFace env probe user.username) best

/-- The end of `resolve_recognized_username`: no match, a match below the
    threshold, or the match. -/
def acceptBest (threshold : R) (best : R × Bytes) (noMatch : Bytes) : Except Bytes (R × Bytes) :=
  if best.2 = [] then .error noMatch
  else if best.1 < threshold then .error (utf8 "匹配分数不足，拒绝识别")
  else .ok best

/-- `resolve_recognized_username`: the confidence and the username, or the error. -/
def resolveRecognizedUsername (s : FaceRecognition R) (probe hint : Bytes) :
    Except Bytes (R × Bytes) :=
  match s.database with
  | none => .error (utf8 "识别数据库未初始化")
  | some db =>
      if probe = [] then .error (utf8 "识别结果特征为空")
      else
        let threshold := s.threshold env
        if hint ≠ [] then
          match db.getUserByUsername hint with
          | none =>
              -- compared with everyone all the same, and rejected in both cases
              let best := db.getAllUsers.foldl (compareUserFaces env probe) (0, [])
              if best.2 ≠ [] then .error (utf8 "用户名无效但检测到人脸匹配 - 疑似攻击尝试")
              else .error (utf8 "指定用户不存在")
          | some hintedUser =>
              let best := compareUserFaces env probe (0, []) hintedUser
              if best.2 ≠ [] ∧ best.2 ≠ hint then .error (utf8 "识别结果与指定用户不匹配")
              else acceptBest threshold best (utf8 "指定用户没有匹配的人脸特征")
        else
          let best := db.getAllUsers.foldl (compareUserFaces env probe) (0, [])
          acceptBest threshold best (utf8 "未找到匹配的人脸用户")

end Matching

-- ============================================================================
-- on_fr_status_received
-- ============================================================================

/-- The fields before the result is decided: session, stored probe and a fresh
    `last_result_`. -/
def receiveProbe [Zero R] (s : FaceRecognition R) (d : StatusDelivery) : FaceRecognition R :=
  { s with
    currentSessionId := if d.sessionId ≠ 0 then d.sessionId else s.currentSessionId
    lastRecognitionFeature :=
      if d.feature ≠ [] then d.feature
      else if d.status ≠ .success then []
      else s.lastRecognitionFeature
    lastResult := {
      success := false
      username := []
      confidence := 0
      errorMessage := if d.status = .success then [] else utf8 "Recognition failed" } }

/-- The statuses after which `is_running_` is cleared. -/
def endsRun (status : RecognitionStatus) : Bool :=
  status = .success || status = .timeout || status = .recognitionError || status = .processEnded

/-- `final_status` and `last_result_` of `on_fr_status_received`, read on the
    fields that `receiveProbe` leaves. -/
def decideResult [LinearOrder R] [Zero R] (env : Env R) (s : FaceRecognition R)
    (d : StatusDelivery) : RecognitionStatus × RecognitionResult R :=
  if d.status = .success then
    match s.resolveRecognizedUsername env s.lastRecognitionFeature s.pendingUsernameHint with
    | .ok (confidence, matchedUsername) =>
        (.success, { success := true, username := matchedUsername, confidence := confidence,
                     errorMessage := [] })
    | .error matchError =>
        (.recognitionError, { s.lastResult with
          success := false
          username := []
          errorMessage := if matchError ≠ [] then matchError else utf8 "未找到匹配的人脸用户" })
  else
    (d.status, { s.lastResult with
      username := if d.username = [] then s.pendingUsernameHint else d.username })

/-- `on_fr_status_received`. -/
def onFrStatusReceived [LinearOrder R] [Zero R] (env : Env R) (s : FaceRecognition R)
    (d : StatusDelivery) : FaceRecognition R × List Sent :=
  let received := s.receiveProbe d
  let (finalStatus, result) := received.decideResult env d
  let after := { received with
    lastResult := result
    isRunning := if endsRun finalStatus then false else received.isRunning }
  (after, after.sendStatus finalStatus result.username after.currentSessionId)

-- ============================================================================
-- on_cp_request_received
-- ============================================================================

/-- The end of the START branch, once a process is there. -/
def cpStarted (s : FaceRecognition R) (sessionId : UInt32) : FaceRecognition R × List Sent :=
  let after := { s with isRunning := true }
  (after, after.sendStatus .recognizing [] sessionId)

/-- The START branch; `launches` is whether `start_fr_process` gets its process. -/
def cpStart (s : FaceRecognition R) (sessionId : UInt32) (launches : Bool) :
    FaceRecognition R × List Sent × Progress :=
  let ready := s.cleanupIfDead
  if ready.frProcess.isSome then
    let (after, sent) := ready.cpStarted sessionId
    (after, sent, .returned)
  else if launches then (ready.launched, [], .sleeping)
  else (ready, ready.sendStatus .recognitionError [] sessionId, .returned)

/-- The CANCEL branch. -/
def cpCancel (s : FaceRecognition R) (sessionId : UInt32) : FaceRecognition R × List Sent :=
  let (after, sent) := s.stopRecognition
  (after, sent ++ after.sendStatus .idle [] sessionId)

/-- The QUERY branch. -/
def cpQuery (s : FaceRecognition R) (sessionId : UInt32) : FaceRecognition R × List Sent :=
  if s.udpSender then
    let after := if s.frProcessDead then
      { s.cleanupFrProcessHandles with isRunning := false } else s
    let currentStatus := if after.isRunning then .recognizing else .idle
    (after, [.status currentStatus after.lastResult.username sessionId])
  else (s, [])

/-- The GET_PASSWORD branch. -/
def cpGetPassword (env : Env R) (s : FaceRecognition R) (hint : Bytes) (sessionId : UInt32) :
    List Sent :=
  match s.udpPasswordSender, s.database with
  | true, some db =>
      match db.getUserByUsername hint with
      | some user =>
          let decryptedPassword := env.decryptPassword user.encryptedPassword
          [.password sessionId user.username decryptedPassword (decryptedPassword ≠ [])]
      | none => [.password sessionId hint [] false]
  | _, _ => []

/-- The two fields that every request writes before the switch. -/
def receiveRequest (s : FaceRecognition R) (r : AuthRequestDelivery) : FaceRecognition R :=
  { s with currentSessionId := r.sessionId, pendingUsernameHint := r.usernameHint }

/-- `on_cp_request_received`, up to the sleep of a START that launches. -/
def onCpRequestReceived (env : Env R) (s : FaceRecognition R) (r : AuthRequestDelivery)
    (launches : Bool) : FaceRecognition R × List Sent × Progress :=
  let received := s.receiveRequest r
  match r.requestType with
  | .startRecognition => received.cpStart r.sessionId launches
  | .cancelRecognition =>
      let (after, sent) := received.cpCancel r.sessionId
      (after, sent, .returned)
  | .queryStatus =>
      let (after, sent) := received.cpQuery r.sessionId
      (after, sent, .returned)
  | .getPassword => (received, received.cpGetPassword env r.usernameHint r.sessionId, .returned)
  | .unnamed _ _ => (received, [], .returned)

-- ============================================================================
-- StartRecognition
-- ============================================================================

/-- `StartRecognition` up to its sleep; it sends nothing. -/
def startRecognition (s : FaceRecognition R) (launches : Bool) : FaceRecognition R × Progress :=
  if ¬ s.initialized then (s, .returned)
  else
    let ready := { s.cleanupIfDead with lastRecognitionFeature := [] }
    if ready.frProcess.isSome then ({ ready with isRunning := true }, .returned)
    else if launches then (ready.launched, .sleeping)
    else (ready, .returned)

end FaceRecognition

end Smile2Unlock.Service
