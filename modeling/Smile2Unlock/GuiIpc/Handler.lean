/-
  Smile2Unlock.GuiIpc.Handler

  `GuiIpcRequestHandler` (backend/gui_ipc_handler.h) on the service's side of the pipe.

  A request is answered at once or with one call of the backend (`Handling`); the
  answer is then made from the result of the call, or from the message of the
  exception it throws.  A `Handled` records what `handle` did with a request record:
  how many payload bytes it read, the calls it made, and the response, or the
  exception that left `handle`.
-/

import Smile2Unlock.GuiIpc.Protocol
import Smile2Unlock.Lib.Split
import Smile2Unlock.Service.FaceRecognition

namespace Smile2Unlock.GuiIpc

open Smile2Unlock Lib
open Smile2Unlock.Service (User FaceData RecognitionResult)

-- ============================================================================
-- The backend
-- ============================================================================

/-- `struct DllStatus`. -/
structure DllStatus where
  isInjected : Bool
  isRegistryConfigured : Bool
  sourcePath : Bytes
  targetPath : Bytes
  sourceHash : Bytes
  targetHash : Bytes
  sourceVersion : Bytes
  targetVersion : Bytes
  hashMatch : Bool
  versionMatch : Bool
deriving DecidableEq

/-- `struct FaceRecognizerConfig`; the thresholds are of type `F`. -/
structure FaceRecognizerConfig (F : Type) where
  camera : Int
  liveness : Bool
  faceThreshold : F
  livenessThreshold : F
  debug : Bool
  language : Bytes
  autoUpdateCheck : Bool
deriving DecidableEq

/-- `FaceRecognizerConfig config;` -/
def FaceRecognizerConfig.default {F : Type} (ft : FloatText F) : FaceRecognizerConfig F where
  camera := 0
  liveness := true
  faceThreshold := ft.faceThreshold
  livenessThreshold := ft.livenessThreshold
  debug := false
  language := utf8 "zh-CN"
  autoUpdateCheck := true

/-- What `GetLatestCameraPreview` and `CapturePreviewFrame` leave in their arguments. -/
structure Preview where
  ok : Bool
  imageData : Bytes
  width : Int
  height : Int
  errorMessage : Bytes

/-- The calls of `IBackendService` that the handler makes. -/
inductive BackendCall (F : Type) where
  | getAllUsers
  | addUser (username password remark : Bytes)
  | updateUser (userId : Int) (username password remark : Bytes)
  | deleteUser (userId : Int)
  | getUserFaces (userId : Int)
  | deleteFace (userId faceId : Int)
  | captureAndAddFace (userId : Int) (remark : Bytes)
  | startCameraPreview
  | stopCameraPreview
  | isCameraPreviewRunning
  | getLatestCameraPreview
  | capturePreviewFrame
  | getDllStatus
  | injectDll
  | startRecognition
  | stopRecognition
  | isRecognitionRunning
  | getRecognitionResult
  | getRecognizerConfig
  | saveRecognizerConfig (config : FaceRecognizerConfig F)

/-- What a call returns; a call with an `error_message` returns that too. -/
def BackendCall.Result {F : Type} : BackendCall F → Type
  | .getAllUsers => List User
  | .addUser _ _ _ | .updateUser _ _ _ _ | .deleteUser _ | .deleteFace _ _
  | .captureAndAddFace _ _ | .startCameraPreview | .injectDll | .startRecognition
  | .saveRecognizerConfig _ => Bool × Bytes
  | .getUserFaces _ => List FaceData
  | .stopCameraPreview | .stopRecognition => Unit
  | .isCameraPreviewRunning | .isRecognitionRunning => Bool
  | .getLatestCameraPreview | .capturePreviewFrame => Preview
  | .getDllStatus => DllStatus
  | .getRecognitionResult => RecognitionResult F
  | .getRecognizerConfig => Bool × FaceRecognizerConfig F × Bytes

/-- An `IBackendService`: the result of each call, or the `what()` of an exception. -/
abbrev Backend (F : Type) := (call : BackendCall F) → Except Bytes call.Result

/-- How a request is handled: a response, or a call and the response to its result. -/
inductive Handling (F : Type) where
  | respond (response : GuiIpcResponse)
  | call (call : BackendCall F) (answer : call.Result → GuiIpcResponse)

/-- The call that a handling makes, if any. -/
def Handling.calls {F : Type} : Handling F → List (BackendCall F)
  | .respond _ => []
  | .call c _ => [c]

-- ============================================================================
-- Numbers in a request
-- ============================================================================

/-- `parse_int`: the whole text has to be read. -/
def parseInt (s : Bytes) : Option Int :=
  match stoi s with
  | .ok (value, pos) => if pos ≠ s.length then none else some value
  | .error _ => none

theorem parseInt_toText {i : Int} (hi : IsInt i) : parseInt (toText i) = some i := by
  rw [parseInt, stoi_toText hi]
  dsimp only
  rw [if_neg (not_not_intro rfl)]

/-- `parse_float`. -/
def parseFloat {F : Type} (ft : FloatText F) (s : Bytes) : Option F :=
  match ft.stof s with
  | .ok (value, pos) => if pos ≠ s.length then none else some value
  | .error _ => none

-- ============================================================================
-- Users and faces
-- ============================================================================

/-- `npos + 1` is 0. -/
def next : Option Nat → Nat
  | none => 0
  | some p => p + 1

/-- `s.substr(pos, count)`. -/
def substr (s : Bytes) (pos count : Nat) : Bytes := (s.drop pos).take count

namespace Handler

variable {F : Type} (ft : FloatText F) (response : GuiIpcResponse)

/-- The answer to a call with a result and an `error_message`. -/
def answerResult (result : Bool × Bytes) : GuiIpcResponse :=
  response.setPayloadText result.2 (if result.1 then .success else .serviceError)

/-- The answer to a question. -/
def answerBool (running : Bool) : GuiIpcResponse :=
  response.putText .success (if running then utf8 "1" else utf8 "0") (by
    cases running
    · decide
    · decide)

/-- A row of the answer to `GET_ALL_USERS`, without its newline. -/
def userRow (user : User) : Bytes :=
  toText user.id ++ tab :: (user.username ++ tab :: (user.encryptedPassword ++ tab :: user.remark))

/-- `handle_get_all_users`. -/
def getAllUsers : Handling F :=
  .call .getAllUsers fun users =>
    response.setPayloadText (users.flatMap fun user => userRow user ++ [newline]) .success

/-- `handle_add_user`. -/
def addUser (payload : Bytes) : Handling F :=
  let p1 := find bar payload 0
  let p2 := find bar payload (next p1)
  match p1, p2 with
  | some p1, some p2 =>
      let username := payload.take p1
      let password := substr payload (p1 + 1) (p2 - p1 - 1)
      let remark := payload.drop (p2 + 1)
      .call (.addUser username password remark) (answerResult response)
  | _, _ => .respond (response.setError (utf8 "Invalid payload format"))

/-- `handle_update_user`. -/
def updateUser (payload : Bytes) : Handling F :=
  let p1 := find bar payload 0
  let p2 := find bar payload (next p1)
  let p3 := find bar payload (next p2)
  match p1, p2, p3 with
  | some p1, some p2, some p3 =>
      match parseInt (payload.take p1) with
      | none => .respond (response.setError (utf8 "Invalid user_id format"))
      | some userId =>
          let username := substr payload (p1 + 1) (p2 - p1 - 1)
          let password := substr payload (p2 + 1) (p3 - p2 - 1)
          let remark := payload.drop (p3 + 1)
          .call (.updateUser userId username password remark) (answerResult response)
  | _, _, _ => .respond (response.setError (utf8 "Invalid payload format"))

/-- `handle_delete_user`. -/
def deleteUser (payload : Bytes) : Handling F :=
  match parseInt payload with
  | none => .respond (response.setError (utf8 "Invalid user_id format"))
  | some userId => .call (.deleteUser userId) (answerResult response)

/-- A row of the answer to `GET_USER_FACES`, without its newline. -/
def faceRow (face : FaceData) : Bytes := toText face.id ++ tab :: face.remark

/-- `handle_get_user_faces`. -/
def getUserFaces (payload : Bytes) : Handling F :=
  match parseInt payload with
  | none => .respond (response.setError (utf8 "Invalid user_id format"))
  | some userId => .call (.getUserFaces userId) fun faces =>
      response.setPayloadText (faces.flatMap fun face => faceRow face ++ [newline]) .success

/-- `handle_delete_face`. -/
def deleteFace (payload : Bytes) : Handling F :=
  match find bar payload 0 with
  | none => .respond (response.setError (utf8 "Invalid payload format"))
  | some p =>
      match parseInt (payload.take p), parseInt (payload.drop (p + 1)) with
      | some userId, some faceId => .call (.deleteFace userId faceId) (answerResult response)
      | _, _ => .respond (response.setError (utf8 "Invalid ID format"))

/-- `handle_capture_and_add_face`. -/
def captureAndAddFace (payload : Bytes) : Handling F :=
  match find bar payload 0 with
  | none => .respond (response.setError (utf8 "Invalid payload format"))
  | some p =>
      match parseInt (payload.take p) with
      | none => .respond (response.setError (utf8 "Invalid user_id format"))
      | some userId =>
          .call (.captureAndAddFace userId (payload.drop (p + 1))) (answerResult response)

-- ============================================================================
-- Previews
-- ============================================================================

/-- What Windows does while a preview is put into shared memory. -/
structure MappingIo where
  securityBuilt : Bool
  created : Bool
  mapped : Bool
  lastError : UInt32
  processId : UInt32

/-- `last_error_message`. -/
def lastErrorMessage (io : MappingIo) (what : Bytes) : Bytes :=
  what ++ utf8 " (GetLastError=" ++ Decimal.nat io.lastError.toNat ++ utf8 ")"

/-- A line `key=value` of an answer. -/
def keyLine (key : String) (value : Bytes) : Bytes := utf8 key ++ equals :: (value ++ [newline])

/-- `serialize_preview_via_shared_mapping`. -/
def serializePreview (io : MappingIo) (mappingTag : String) (preview : Preview) : GuiIpcResponse :=
  if io.securityBuilt = false then
    response.setError (lastErrorMessage io (utf8 "构建共享内存安全描述符失败"))
  else if 4294967295 < preview.imageData.length then
    response.setError (utf8 "Image data too large for shared memory mapping")
  else if io.created = false then
    response.setError (lastErrorMessage io (utf8 "创建 GUI 预览共享内存失败"))
  else if io.mapped = false then
    response.setError (lastErrorMessage io (utf8 "映射 GUI 预览共享内存失败"))
  else
    let mappingName := utf8 "Local\\Smile2Unlock_GuiPreview_" ++ utf8 mappingTag ++ utf8 "_" ++
      Decimal.nat io.processId.toNat
    response.setPayloadText
      (keyLine "transport" (utf8 "shared_memory") ++ keyLine "map_name" mappingName ++
        keyLine "width" (toText preview.width) ++ keyLine "height" (toText preview.height) ++
        keyLine "channels" (utf8 "3") ++
        keyLine "image_bytes" (Decimal.nat preview.imageData.length) ++
        keyLine "compression" (utf8 "0"))
      .success

/-- The end of `handle_get_latest_preview` and of `handle_capture_preview_frame`. -/
def answerPreview (io : MappingIo) (mappingTag : String) (preview : Preview) : GuiIpcResponse :=
  if preview.ok then serializePreview response io mappingTag preview
  else response.setPayloadText preview.errorMessage .serviceError

-- ============================================================================
-- Texts with keys
-- ============================================================================

/-- `"1"` or `"0"`. -/
def flag (value : Bool) : Bytes := if value then utf8 "1" else utf8 "0"

/-- The text of `handle_get_dll_status`. -/
def dllStatusText (status : DllStatus) : Bytes :=
  keyLine "is_injected" (flag status.isInjected) ++
    keyLine "is_registry_configured" (flag status.isRegistryConfigured) ++
    keyLine "source_path" status.sourcePath ++ keyLine "target_path" status.targetPath ++
    keyLine "source_hash" status.sourceHash ++ keyLine "target_hash" status.targetHash ++
    keyLine "source_version" status.sourceVersion ++ keyLine "target_version" status.targetVersion

/-- The text of `handle_get_recognition_result`. -/
def recognitionResultText (result : RecognitionResult F) : Bytes :=
  keyLine "success" (flag result.success) ++ keyLine "username" result.username ++
    keyLine "confidence" (ft.print result.confidence) ++
    keyLine "error_message" result.errorMessage

/-- The text of `handle_get_recognizer_config`. -/
def recognizerConfigText (config : FaceRecognizerConfig F) : Bytes :=
  keyLine "camera" (toText config.camera) ++ (keyLine "liveness" (flag config.liveness) ++
    (keyLine "face_threshold" (ft.print config.faceThreshold) ++
    (keyLine "liveness_threshold" (ft.print config.livenessThreshold) ++
    (keyLine "debug" (flag config.debug) ++ (keyLine "language" config.language ++
    keyLine "auto_update_check" (flag config.autoUpdateCheck))))))

/-- `handle_get_recognizer_config`. -/
def getRecognizerConfig : Handling F :=
  .call .getRecognizerConfig fun result =>
    if result.1 then response.setPayloadText (recognizerConfigText ft result.2.1) .success
    else response.setPayloadText result.2.2 .serviceError

/-- `value == "1" || value == "true"`. -/
def readsTrue (value : Bytes) : Bool := value = utf8 "1" || value = utf8 "true"

/-- One line of `handle_save_recognizer_config`. -/
def readConfigLine (config : FaceRecognizerConfig F) (line : Bytes) : FaceRecognizerConfig F :=
  match splitAtFirst equals line with
  | none => config
  | some (key, value) =>
      if key = utf8 "camera" then { config with camera := (parseInt value).getD config.camera }
      else if key = utf8 "liveness" then { config with liveness := readsTrue value }
      else if key = utf8 "face_threshold" then
        { config with faceThreshold := (parseFloat ft value).getD config.faceThreshold }
      else if key = utf8 "liveness_threshold" then
        { config with livenessThreshold := (parseFloat ft value).getD config.livenessThreshold }
      else if key = utf8 "debug" then { config with debug := readsTrue value }
      else if key = utf8 "language" then { config with language := value }
      else if key = utf8 "auto_update_check" then { config with autoUpdateCheck := readsTrue value }
      else config

/-- `handle_save_recognizer_config`. -/
def saveRecognizerConfig (payload : Bytes) : Handling F :=
  let config := (lines newline payload).foldl (readConfigLine ft) (.default ft)
  .call (.saveRecognizerConfig config) (answerResult response)

-- ============================================================================
-- Handling a request
-- ============================================================================

/-- `handle_command`. -/
def handleCommand (io : MappingIo) (payload : Bytes) : Option GuiIpcCommand → Handling F
  | some .ping => .respond (response.putText .success (utf8 "pong") (by decide))
  | some .getAllUsers => getAllUsers response
  | some .addUser => addUser response payload
  | some .updateUser => updateUser response payload
  | some .deleteUser => deleteUser response payload
  | some .getUserFaces => getUserFaces response payload
  | some .deleteFace => deleteFace response payload
  | some .captureAndAddFace => captureAndAddFace response payload
  | some .startCameraPreview => .call .startCameraPreview (answerResult response)
  | some .stopCameraPreview =>
      .call .stopCameraPreview fun _ => { response with status := GuiIpcStatus.success.code }
  | some .isCameraPreviewRunning => .call .isCameraPreviewRunning (answerBool response)
  | some .getLatestPreview => .call .getLatestCameraPreview (answerPreview response io "stream")
  | some .capturePreviewFrame => .call .capturePreviewFrame (answerPreview response io "capture")
  | some .getDllStatus =>
      .call .getDllStatus fun status => response.setPayloadText (dllStatusText status) .success
  | some .injectDll => .call .injectDll (answerResult response)
  | some .startRecognition => .call .startRecognition (answerResult response)
  | some .stopRecognition =>
      .call .stopRecognition fun _ => { response with status := GuiIpcStatus.success.code }
  | some .isRecognitionRunning => .call .isRecognitionRunning (answerBool response)
  | some .getRecognitionResult =>
      .call .getRecognitionResult fun result =>
        response.setPayloadText (recognitionResultText ft result) .success
  | some .getRecognizerConfig => getRecognizerConfig ft response
  | some .saveRecognizerConfig => saveRecognizerConfig ft response payload
  | none => .respond (response.setError (utf8 "Unknown command"))

/-- What `handle` did. -/
structure Handled (F : Type) where
  bytesRead : Nat
  calls : List (BackendCall F)
  result : Except StdException GuiIpcResponse

/-- The `try` block of `handle`. -/
def run (backend : Backend F) : Handling F → List (BackendCall F) × GuiIpcResponse
  | .respond response => ([], response)
  | .call call answer =>
      match backend call with
      | .ok result => ([call], answer result)
      | .error what => ([call], response.setError what)

theorem run_fst (backend : Backend F) (handling : Handling F) :
    (run response backend handling).1 = handling.calls := by
  cases handling with
  | respond response' => rfl
  | call call answer =>
      rw [run]
      cases backend call with
      | ok result => rfl
      | error what => rfl

/-- `response.clear()` and the two fields taken from the request. -/
def opened (request : GuiIpcRequest) : GuiIpcResponse :=
  { GuiIpcResponse.cleared with
    requestId := request.requestId
    timestamp := request.timestamp }

/-- `handle`; `backend` is a pointer, `beyond` what lies in memory behind the request.
    The string of the payload is made before the `try` block. -/
def handle (io : MappingIo) (backend : Option (Backend F)) (request : GuiIpcRequest)
    (beyond : Bytes) : Handled F :=
  match backend with
  | none => ⟨0, [], .ok ((opened request).setError (utf8 "Backend not available"))⟩
  | some backend =>
      -- a negative size becomes a `size_t` no string can have
      if request.payloadSize < 0 then ⟨0, [], .error .lengthError⟩
      else
        let size := request.payloadSize.toInt.toNat
        let payload := (request.payload.bytes ++ beyond).take size
        let ran := run (opened request) backend
          (handleCommand ft (opened request) io payload (GuiIpcCommand.ofCode request.command))
        ⟨size, ran.1, .ok ran.2⟩

end Handler

end Smile2Unlock.GuiIpc
