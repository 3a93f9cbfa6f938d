/-
  Smile2Unlock.GuiIpc.Remote

  `RemoteBackendService` (backend/remote_backend_service.h), the GUI's end of the pipe,
  and the service at the other end (`GuiIpcServer::handle_client`).

  `ClientIo` is what happens to a call of the client: whether it connects, the time,
  and what the pipe does with a request record.  With a service behind the pipe
  (`PipeService.clientIo`), `handled_record` says that the handler gets the payload of the
  call up to its first `kPayloadSize - 1` bytes.
-/

import Smile2Unlock.GuiIpc.Handler

namespace Smile2Unlock.GuiIpc

open Smile2Unlock Lib
open Smile2Unlock.Service (User FaceData)

-- ============================================================================
-- The pipe
-- ============================================================================

/-- `WriteFile` of a request and `ReadFile` of the response; after a read the record is
    what the buffer holds, however many bytes arrived. -/
inductive PipeOutcome where
  | writeFailed
  | readFailed
  | read (bytesRead : Nat) (response : GuiIpcResponse)

/-- What happens to a call: whether `connect` succeeds, the time, the pipe, and what lies
    in memory behind the response. -/
structure ClientIo where
  connects : Bool
  now : Int64
  exchange : GuiIpcRequest → PipeOutcome
  beyond : Bytes

/-- The fields of `class RemoteBackendService`. -/
structure RemoteBackendService where
  pipeOpen : Bool
  requestId : Int32
  initialized : Bool

/-- The result of `send_request`, the response record and the object after it, and the
    request if it was written. -/
structure Exchanged where
  ok : Bool
  response : GuiIpcResponse
  remote : RemoteBackendService
  written : Option GuiIpcRequest

/-- What a call returns, the object after it, and the request if it was written. -/
structure Called (α : Type) where
  value : α
  remote : RemoteBackendService
  written : Option GuiIpcRequest

namespace RemoteBackendService

/-- The request record; an empty payload leaves the field as `clear` did. -/
def record (requestId : Int32) (now : Int64) (cmd : GuiIpcCommand) (payload : Bytes) :
    GuiIpcRequest :=
  { GuiIpcRequest.cleared with
    command := cmd.code
    requestId := requestId
    timestamp := now
    payloadSize := Int32.ofNat (payload.take (kPayloadSize - 1)).length
    payload := zeroPayload.overwrite (payload.take (kPayloadSize - 1))
      (Nat.le_of_lt (GuiIpcResponse.length_fitting payload)) }

/-- `disconnect`. -/
def disconnect (remote : RemoteBackendService) : RemoteBackendService :=
  if remote.pipeOpen then { remote with pipeOpen := false, initialized := false } else remote

/-- `send_request`, with a new response record. -/
def sendRequest (io : ClientIo) (remote : RemoteBackendService) (cmd : GuiIpcCommand)
    (payload : Bytes) : Exchanged :=
  if remote.initialized = false ∧ remote.pipeOpen = false ∧ io.connects = false then
    ⟨false, GuiIpcResponse.cleared.setError (utf8 "Not connected"), remote, none⟩
  else
    let remote' := { remote with
      pipeOpen := remote.pipeOpen || !remote.initialized
      requestId := remote.requestId + 1 }
    let request := record remote'.requestId io.now cmd payload
    match io.exchange request with
    | .writeFailed =>
        ⟨false, GuiIpcResponse.cleared.setError (utf8 "Write failed"), remote'.disconnect, none⟩
    | .readFailed =>
        ⟨false, GuiIpcResponse.cleared.setError (utf8 "Read failed"), remote'.disconnect,
          some request⟩
    | .read _ response =>
        ⟨response.status = GuiIpcStatus.success.code, response, remote', some request⟩

-- ============================================================================
-- Calls with a result and a message
-- ============================================================================

/-- A call that returns whether the status is SUCCESS and leaves the payload in
    `error_message`. -/
def callForMessage (io : ClientIo) (remote : RemoteBackendService) (cmd : GuiIpcCommand)
    (payload : Bytes) : Called (Bool × Bytes) :=
  let exchanged := sendRequest io remote cmd payload
  let errorMessage := exchanged.response.payload.readText io.beyond
  let ok := exchanged.ok && exchanged.response.status = GuiIpcStatus.success.code
  ⟨(ok, errorMessage), exchanged.remote, exchanged.written⟩

/-- The fields of `AddUser` and of `UpdateUser`, joined. -/
def joinUser (username password remark : Bytes) : Bytes :=
  username ++ bar :: (password ++ bar :: remark)

variable (io : ClientIo) (remote : RemoteBackendService)

/-- `AddUser`. -/
def addUser (username password remark : Bytes) : Called (Bool × Bytes) :=
  callForMessage io remote .addUser (joinUser username password remark)

/-- `UpdateUser`. -/
def updateUser (userId : Int) (username password remark : Bytes) : Called (Bool × Bytes) :=
  callForMessage io remote .updateUser (toText userId ++ bar :: joinUser username password remark)

/-- `SaveRecognizerConfig`. -/
def saveRecognizerConfig {F : Type} (ft : FloatText F) (config : FaceRecognizerConfig F) :
    Called (Bool × Bytes) :=
  callForMessage io remote .saveRecognizerConfig
    (Handler.keyLine "camera" (toText config.camera) ++
      (Handler.keyLine "liveness" (Handler.flag config.liveness) ++
      (Handler.keyLine "face_threshold" (ft.print config.faceThreshold) ++
      (Handler.keyLine "liveness_threshold" (ft.print config.livenessThreshold) ++
      (Handler.keyLine "debug" (Handler.flag config.debug) ++
      Handler.keyLine "language" config.language)))))

-- ============================================================================
-- Lists
-- ============================================================================

/-- `User user;` and `FaceData face;` -/
def newUser : User := ⟨0, [], [], [], []⟩
def newFace : FaceData := ⟨0, [], [], [], []⟩

/-- A field that a tab ends, in `parse_users`. -/
def readUserField (user : User) (field : Bytes × Nat) : Except StdException User :=
  match field.2 with
  | 0 => (stoi field.1).map fun read => { user with id := read.1 }
  | 1 => .ok { user with username := field.1 }
  | 3 => .ok { user with remark := field.1 }
  | _ => .ok user

/-- A line of `parse_users`; a user without a name is dropped. -/
def readUserLine (users : List User) (line : Bytes) : Except StdException (List User) :=
  if line = [] then .ok users
  else
    match (ended tab line).zipIdx.foldlM readUserField newUser with
    | .error e => .error e
    | .ok user => .ok (if user.username = [] then users else users ++ [user])

/-- `parse_users`. -/
def parseUsers (data : Bytes) : Except StdException (List User) :=
  (lines newline data).foldlM readUserLine []

/-- A field that a tab ends, in `parse_faces`. -/
def readFaceField (face : FaceData) (field : Bytes × Nat) : Except StdException FaceData :=
  match field.2 with
  | 0 => (stoi field.1).map fun read => { face with id := read.1 }
  | 1 => .ok { face with remark := field.1 }
  | _ => .ok face

/-- A line of `parse_faces`. -/
def readFaceLine (faces : List FaceData) (line : Bytes) : Except StdException (List FaceData) :=
  if line = [] then .ok faces
  else
    match (ended tab line).zipIdx.foldlM readFaceField newFace with
    | .error e => .error e
    | .ok face => .ok (faces ++ [face])

/-- `parse_faces`. -/
def parseFaces (data : Bytes) : Except StdException (List FaceData) :=
  (lines newline data).foldlM readFaceLine []

/-- `GetAllUsers`. -/
def getAllUsers : Called (Except StdException (List User)) :=
  let exchanged := sendRequest io remote .getAllUsers []
  ⟨if exchanged.ok then parseUsers (exchanged.response.payload.readText io.beyond) else .ok [],
    exchanged.remote, exchanged.written⟩

/-- `GetUserFaces`. -/
def getUserFaces (userId : Int) : Called (Except StdException (List FaceData)) :=
  let exchanged := sendRequest io remote .getUserFaces (toText userId)
  ⟨if exchanged.ok then parseFaces (exchanged.response.payload.readText io.beyond) else .ok [],
    exchanged.remote, exchanged.written⟩

-- ============================================================================
-- The recognizer configuration
-- ============================================================================

/-- A line of `parse_recognizer_config`. -/
def readConfigLine {F : Type} (ft : FloatText F) (config : FaceRecognizerConfig F) (line : Bytes) :
    Except StdException (FaceRecognizerConfig F) :=
  match splitAtFirst equals line with
  | none => .ok config
  | some (key, val) =>
      if key = utf8 "camera" then (stoi val).map fun read => { config with camera := read.1 }
      else if key = utf8 "liveness" then .ok { config with liveness := val = utf8 "1" }
      else if key = utf8 "face_threshold" then
        (ft.stof val).map fun read => { config with faceThreshold := read.1 }
      else if key = utf8 "liveness_threshold" then
        (ft.stof val).map fun read => { config with livenessThreshold := read.1 }
      else if key = utf8 "debug" then .ok { config with debug := val = utf8 "1" }
      else if key = utf8 "language" then .ok { config with language := val }
      else .ok config

/-- `parse_recognizer_config`. -/
def parseRecognizerConfig {F : Type} (ft : FloatText F) (data : Bytes) :
    Except StdException (FaceRecognizerConfig F) :=
  (lines newline data).foldlM (readConfigLine ft) (.default ft)

/-- `GetRecognizerConfig`: the result, the argument `config` and `error_message` after it. -/
def getRecognizerConfig {F : Type} (ft : FloatText F) (config : FaceRecognizerConfig F) :
    Called (Except StdException (Bool × FaceRecognizerConfig F × Bytes)) :=
  let exchanged := sendRequest io remote .getRecognizerConfig []
  let text := exchanged.response.payload.readText io.beyond
  ⟨if exchanged.ok then (parseRecognizerConfig ft text).map fun read => (true, read, [])
    else .ok (false, config, text), exchanged.remote, exchanged.written⟩

end RemoteBackendService

-- ============================================================================
-- The service at the other end
-- ============================================================================

/-- The service process: its backend, what Windows does for it, and its memory behind a
    request record. -/
structure PipeService (F : Type) where
  ft : FloatText F
  io : Handler.MappingIo
  backend : Backend F
  beyond : Bytes

namespace PipeService

variable {F : Type} (service : PipeService F)

/-- What `GuiIpcServer::handle_client` does with a record that was read in full. -/
def handled (request : GuiIpcRequest) : Handler.Handled F :=
  if request.magic ≠ guiIpcMagic then
    ⟨0, [], .ok (GuiIpcResponse.cleared.setError (utf8 "Invalid magic number"))⟩
  else if request.version ≠ guiIpcVersion then
    ⟨0, [], .ok (GuiIpcResponse.cleared.setError (utf8 "Version mismatch"))⟩
  else Handler.handle service.ft service.io (some service.backend) request service.beyond

/-- `sizeof(GuiIpcResponse)`. -/
def responseRecordSize : Nat := 32 + kPayloadSize

/-- A pipe to the service; an exception ends the process and with it the pipe. -/
def exchange (request : GuiIpcRequest) : PipeOutcome :=
  match (service.handled request).result with
  | .ok response => .read responseRecordSize response
  | .error _ => .readFailed

/-- A client that is or gets connected to the service. -/
def clientIo (now : Int64) (beyond : Bytes) : ClientIo where
  connects := true
  now := now
  exchange := service.exchange
  beyond := beyond

/-- The calls that the service makes of its backend for a request. -/
def callsFor (written : Option GuiIpcRequest) : List (BackendCall F) :=
  match written with
  | none => []
  | some request => (service.handled request).calls

-- ============================================================================
-- A call of the client
-- ============================================================================

variable (cmd : GuiIpcCommand) (now : Int64) (beyond payload : Bytes)
  (remote : RemoteBackendService)

/-- What the handler's `try` block does with a payload under a command. -/
def ran (request : GuiIpcRequest) : List (BackendCall F) × GuiIpcResponse :=
  Handler.run (Handler.opened request) service.backend
    (Handler.handleCommand service.ft (Handler.opened request) service.io
      (payload.take (kPayloadSize - 1)) (some cmd))

/-- The handler gets as much of the payload as fits. -/
theorem handled_record (requestId : Int32) :
    service.handled (RemoteBackendService.record requestId now cmd payload) =
      ⟨(payload.take (kPayloadSize - 1)).length,
        (service.ran cmd payload (RemoteBackendService.record requestId now cmd payload)).1,
        .ok (service.ran cmd payload (RemoteBackendService.record requestId now cmd payload)).2⟩ := by
  have hfit := GuiIpcResponse.length_fitting payload
  generalize hrequest : RemoteBackendService.record requestId now cmd payload = request
  have hmagic : ¬ request.magic ≠ guiIpcMagic := by
    rw [← hrequest]
    exact not_not_intro rfl
  have hversion : ¬ request.version ≠ guiIpcVersion := by
    rw [← hrequest]
    exact not_not_intro rfl
  have hcommand : GuiIpcCommand.ofCode request.command = some cmd := by
    rw [← hrequest]
    exact GuiIpcCommand.ofCode_code cmd
  have hsize : request.payloadSize.toInt = (payload.take (kPayloadSize - 1)).length := by
    rw [← hrequest]
    exact GuiIpcResponse.toInt_ofNat hfit
  have hnonneg : ¬ request.payloadSize < 0 := by
    rw [Int32.lt_iff_toInt_lt, hsize]
    exact Int.not_lt.mpr (Int.natCast_nonneg _)
  have hbytes : request.payload.bytes = payload.take (kPayloadSize - 1) ++
      zeroPayload.bytes.drop (payload.take (kPayloadSize - 1)).length := by
    rw [← hrequest]
    rfl
  rw [handled, if_neg hmagic, if_neg hversion, Handler.handle]
  dsimp only
  rw [if_neg hnonneg, hsize, hcommand, hbytes, Int.toNat_natCast, List.append_assoc,
    List.take_left]
  rfl

/-- A call reaches the service and gets its response. -/
theorem sendRequest_clientIo :
    ∃ requestId remote',
      RemoteBackendService.sendRequest (service.clientIo now beyond) remote cmd payload =
        ⟨(service.ran cmd payload (RemoteBackendService.record requestId now cmd payload)).2.status =
            GuiIpcStatus.success.code,
          (service.ran cmd payload (RemoteBackendService.record requestId now cmd payload)).2,
          remote', some (RemoteBackendService.record requestId now cmd payload)⟩ := by
  refine ⟨remote.requestId + 1, { remote with
    pipeOpen := remote.pipeOpen || !remote.initialized
    requestId := remote.requestId + 1 }, ?_⟩
  have hconnects : ¬ (remote.initialized = false ∧ remote.pipeOpen = false ∧
      (service.clientIo now beyond).connects = false) := by
    rintro ⟨-, -, hconnects⟩
    cases hconnects
  have hexchange : (service.clientIo now beyond).exchange
      (RemoteBackendService.record (remote.requestId + 1) now cmd payload) =
      .read responseRecordSize
        (service.ran cmd payload
          (RemoteBackendService.record (remote.requestId + 1) now cmd payload)).2 := by
    show service.exchange _ = _
    rw [exchange, handled_record]
  rw [RemoteBackendService.sendRequest, if_neg hconnects]
  dsimp only
  rw [show (service.clientIo now beyond).now = now from rfl, hexchange]

/-- A call that is answered with a text and SUCCESS gets the text up to its first NUL,
    as much of it as fits. -/
theorem sendRequest_text {text : Bytes}
    (hran : ∀ request, (service.ran cmd payload request).2 =
      (Handler.opened request).setPayloadText text .success) :
    (RemoteBackendService.sendRequest (service.clientIo now beyond) remote cmd payload).ok = true ∧
    (RemoteBackendService.sendRequest (service.clientIo now beyond) remote cmd
      payload).response.payload.readText (service.clientIo now beyond).beyond =
        cString (text.take (kPayloadSize - 1)) := by
  obtain ⟨requestId, remote', hsend⟩ :=
    service.sendRequest_clientIo cmd now beyond payload remote
  generalize RemoteBackendService.record requestId now cmd payload = request at hsend
  have hstatus : ((Handler.opened request).setPayloadText text .success).status =
      GuiIpcStatus.success.code := rfl
  rw [hsend, hran]
  exact ⟨decide_eq_true hstatus, GuiIpcResponse.readText_setPayloadText ..⟩

/-- The calls that the handler makes for a payload. -/
theorem callsFor_callForMessage :
    ∃ request, service.callsFor (RemoteBackendService.callForMessage (service.clientIo now beyond)
      remote cmd payload).written = (service.ran cmd payload request).1 := by
  obtain ⟨requestId, remote', hsend⟩ :=
    service.sendRequest_clientIo cmd now beyond payload remote
  refine ⟨RemoteBackendService.record requestId now cmd payload, ?_⟩
  rw [RemoteBackendService.callForMessage, hsend]
  dsimp only
  rw [callsFor, handled_record]

end PipeService

/-- A service whose backend does nothing, and a connected client. -/
def exampleService : PipeService Bool where
  ft := exampleFloats
  io := ⟨true, true, true, 0, 0⟩
  backend _ := .error []
  beyond := []

def exampleRemote : RemoteBackendService := ⟨true, 0, true⟩

end Smile2Unlock.GuiIpc
