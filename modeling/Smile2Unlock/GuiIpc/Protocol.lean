/-
  Smile2Unlock.GuiIpc.Protocol

  The records that the GUI and the service exchange over the named pipe
  (common/models/gui_ipc_protocol.h).

  Both payload fields have `kPayloadSize` bytes.  A response is filled by `putText`
  only, the common part of `set_payload_text` and of the `strcpy` calls of the
  handler; `putText_bytes` says what then lies in the field.
-/

import Smile2Unlock.Common.Numbers

namespace Smile2Unlock.GuiIpc

open Smile2Unlock

/-- `GUI_IPC_MAGIC` and `GUI_IPC_VERSION`. -/
def guiIpcMagic : Int32 := 0x53325549
def guiIpcVersion : Int32 := 1

/-- `sizeof(payload)`, in a request and in a response. -/
def kPayloadSize : Nat := 1024 * 1024

-- ============================================================================
-- Commands and status codes
-- ============================================================================

/-- `enum class GuiIpcCommand : int32_t`. -/
inductive GuiIpcCommand where
  | ping
  | getAllUsers
  | addUser
  | updateUser
  | deleteUser
  | getUserFaces
  | deleteFace
  | captureAndAddFace
  | startCameraPreview
  | stopCameraPreview
  | getLatestPreview
  | capturePreviewFrame
  | getDllStatus
  | injectDll
  | startRecognition
  | stopRecognition
  | isRecognitionRunning
  | getRecognitionResult
  | getRecognizerConfig
  | saveRecognizerConfig
  | isCameraPreviewRunning
deriving DecidableEq, Repr

/-- `static_cast<int32_t>(cmd)`. -/
def GuiIpcCommand.code : GuiIpcCommand → Int32
  | .ping => 0
  | .getAllUsers => 100
  | .addUser => 101
  | .updateUser => 102
  | .deleteUser => 103
  | .getUserFaces => 200
  | .deleteFace => 201
  | .captureAndAddFace => 202
  | .startCameraPreview => 300
  | .stopCameraPreview => 3001
  | .getLatestPreview => 302
  | .capturePreviewFrame => 303
  | .getDllStatus => 400
  | .injectDll => 401
  | .startRecognition => 500
  | .stopRecognition => 501
  | .isRecognitionRunning => 502
  | .getRecognitionResult => 503
  | .getRecognizerConfig => 504
  | .saveRecognizerConfig => 505
  | .isCameraPreviewRunning => 600

def GuiIpcCommand.all : List GuiIpcCommand :=
  [.ping, .getAllUsers, .addUser, .updateUser, .deleteUser, .getUserFaces, .deleteFace,
    .captureAndAddFace, .startCameraPreview, .stopCameraPreview, .getLatestPreview,
    .capturePreviewFrame, .getDllStatus, .injectDll, .startRecognition, .stopRecognition,
    .isRecognitionRunning, .getRecognitionResult, .getRecognizerConfig, .saveRecognizerConfig,
    .isCameraPreviewRunning]

/-- `static_cast<GuiIpcCommand>(request.command)`; `none` is a code without a name. -/
def GuiIpcCommand.ofCode (code : Int32) : Option GuiIpcCommand := all.find? (·.code = code)

/-- A command is recognized by its code. -/
@[simp] theorem GuiIpcCommand.ofCode_code (cmd : GuiIpcCommand) : ofCode cmd.code = some cmd := by
  cases cmd <;> rfl

/-- `enum class GuiIpcStatus : int32_t`. -/
inductive GuiIpcStatus where
  | success
  | failure
  | notImplemented
  | invalidPayload
  | serviceError
deriving DecidableEq, Repr

/-- `static_cast<int32_t>(status)`. -/
def GuiIpcStatus.code : GuiIpcStatus → Int32
  | .success => 0
  | .failure => 1
  | .notImplemented => 2
  | .invalidPayload => 3
  | .serviceError => 4

-- ============================================================================
-- Records
-- ============================================================================

/-- A payload field of zeros. -/
def zeroPayload : CharField kPayloadSize := .copied kPayloadSize [] (Nat.zero_le _)

structure GuiIpcRequest where
  magic : Int32
  version : Int32
  command : Int32
  payloadSize : Int32
  timestamp : Int64
  requestId : Int32
  reserved : Int32
  payload : CharField kPayloadSize

structure GuiIpcResponse where
  magic : Int32
  version : Int32
  status : Int32
  payloadSize : Int32
  timestamp : Int64
  requestId : Int32
  reserved : Int32
  payload : CharField kPayloadSize

/-- A request after `clear`. -/
def GuiIpcRequest.cleared : GuiIpcRequest where
  magic := guiIpcMagic
  version := guiIpcVersion
  command := 0
  payloadSize := 0
  timestamp := 0
  requestId := 0
  reserved := 0
  payload := zeroPayload

namespace GuiIpcResponse

/-- A response after `clear`. -/
def cleared : GuiIpcResponse where
  magic := guiIpcMagic
  version := guiIpcVersion
  status := GuiIpcStatus.success.code
  payloadSize := 0
  timestamp := 0
  requestId := 0
  reserved := 0
  payload := zeroPayload

/-- A text at the front of the payload with a NUL behind it, its length and a status. -/
def putText (response : GuiIpcResponse) (status : GuiIpcStatus) (text : Bytes)
    (h : text.length < kPayloadSize) : GuiIpcResponse :=
  { response with
    status := status.code
    payloadSize := Int32.ofNat text.length
    payload := response.payload.overwrite (text ++ [0]) (by
      rw [List.length_append]
      exact h) }

theorem length_fitting (msg : Bytes) : (msg.take (kPayloadSize - 1)).length < kPayloadSize := by
  have hpos : 0 < kPayloadSize := by decide
  rw [List.length_take]
  omega

/-- `set_payload_text` of a `std::string`: as much of it as leaves room for the NUL. -/
def setPayloadText (response : GuiIpcResponse) (msg : Bytes) (status : GuiIpcStatus) :
    GuiIpcResponse :=
  response.putText status (msg.take (kPayloadSize - 1)) (length_fitting msg)

/-- `set_error`: the message is a C string. -/
def setError (response : GuiIpcResponse) (msg : Bytes) : GuiIpcResponse :=
  response.setPayloadText (cString msg) .failure

/-- The size is that of a text in the field, and a NUL stands behind the text. -/
def Terminated (response : GuiIpcResponse) : Prop :=
  0 ≤ response.payloadSize.toInt ∧ response.payloadSize.toInt < kPayloadSize ∧
    response.payload.bytes[response.payloadSize.toInt.toNat]? = some 0

-- ============================================================================
-- What a response says
-- ============================================================================

variable (response : GuiIpcResponse) (status : GuiIpcStatus)

theorem toInt_ofNat {n : Nat} (h : n < kPayloadSize) : (Int32.ofNat n).toInt = n := by
  apply Int32.toInt_ofNat_of_lt
  exact Nat.lt_trans h (by decide)

theorem putText_bytes (text : Bytes) (h : text.length < kPayloadSize) :
    ∃ rest, (response.putText status text h).payload.bytes = text ++ 0 :: rest := by
  refine ⟨response.payload.bytes.drop (text.length + 1), ?_⟩
  rw [putText, CharField.overwrite_bytes, List.length_append, List.append_assoc]
  rfl

theorem terminated_putText (text : Bytes) (h : text.length < kPayloadSize) :
    (response.putText status text h).Terminated := by
  obtain ⟨rest, hrest⟩ := putText_bytes response status text h
  have hsize : (response.putText status text h).payloadSize.toInt = text.length := toInt_ofNat h
  refine ⟨by omega, by omega, ?_⟩
  rw [hsize, hrest, Int.toNat_natCast, List.getElem?_append_right (Nat.le_refl _), Nat.sub_self]
  rfl

theorem terminated_cleared : cleared.Terminated := by
  refine ⟨by decide, by decide, ?_⟩
  have hsize : cleared.payloadSize.toInt.toNat = 0 := by decide
  rw [hsize, cleared, zeroPayload, CharField.copied_bytes, List.nil_append, List.length_nil,
    List.getElem?_replicate_of_lt (by decide)]

/-- What a reader of the payload as a C string sees of a text. -/
theorem readText_setPayloadText (msg following : Bytes) :
    (response.setPayloadText msg status).payload.readText following =
      cString (msg.take (kPayloadSize - 1)) := by
  obtain ⟨rest, hrest⟩ := putText_bytes response status _ (length_fitting msg)
  exact CharField.readText_of_zero hrest following

end GuiIpcResponse

end Smile2Unlock.GuiIpc
