/-
  Smile2Unlock.GuiIpc.RemoteSession

  The GUI's backend over whole sessions: `RemoteBackendService` with the service behind the
  pipe, compared with the backend itself.

  A backend is an `Object` with a state of its own.  `overPipe` is the object that the GUI
  has instead: every call goes through the client, the pipe, `GuiIpcRequestHandler` and,
  for previews, a file mapping.  `overPipe_standsFor` is the step; `session_overPipe`
  follows for sessions of any length.
-/

import Smile2Unlock.GuiIpc.RemoteCalls
import Smile2Unlock.Lib.Session

namespace Smile2Unlock.GuiIpc

open Smile2Unlock Lib
open Smile2Unlock.Service (User FaceData RecognitionResult)

-- ============================================================================
-- The remaining calls of the client
-- ============================================================================

/-- The value of a call in another form. -/
def Called.map {α β : Type} (f : α → β) (called : Called α) : Called β :=
  ⟨f called.value, called.remote, called.written⟩

namespace RemoteBackendService

variable (io : ClientIo) (remote : RemoteBackendService)

/-- `DeleteUser`. -/
def deleteUser (userId : Int) : Called (Bool × Bytes) :=
  callForMessage io remote .deleteUser (toText userId)

/-- `DeleteFace`. -/
def deleteFace (userId faceId : Int) : Called (Bool × Bytes) :=
  callForMessage io remote .deleteFace (toText userId ++ bar :: toText faceId)

/-- `CaptureAndAddFace`. -/
def captureAndAddFace (userId : Int) (remark : Bytes) : Called (Bool × Bytes) :=
  callForMessage io remote .captureAndAddFace (toText userId ++ bar :: remark)

/-- `StartCameraPreview`, `InjectDll` and `StartRecognition`. -/
def startCameraPreview : Called (Bool × Bytes) := callForMessage io remote .startCameraPreview []
def injectDll : Called (Bool × Bytes) := callForMessage io remote .injectDll []
def startRecognition : Called (Bool × Bytes) := callForMessage io remote .startRecognition []

/-- A call without a result. -/
def callForNothing (cmd : GuiIpcCommand) : Called Unit :=
  let exchanged := sendRequest io remote cmd []
  ⟨(), exchanged.remote, exchanged.written⟩

/-- `StopCameraPreview` and `StopRecognition`. -/
def stopCameraPreview : Called Unit := callForNothing io remote .stopCameraPreview
def stopRecognition : Called Unit := callForNothing io remote .stopRecognition

/-- A question, answered with `"1"` or `"0"`. -/
def callForBool (cmd : GuiIpcCommand) : Called Bool :=
  let exchanged := sendRequest io remote cmd []
  ⟨exchanged.ok && exchanged.response.payload.readText io.beyond = utf8 "1", exchanged.remote,
    exchanged.written⟩

/-- `IsCameraPreviewRunning` and `IsRecognitionRunning`. -/
def isCameraPreviewRunning : Called Bool := callForBool io remote .isCameraPreviewRunning
def isRecognitionRunning : Called Bool := callForBool io remote .isRecognitionRunning

end RemoteBackendService

-- ============================================================================
-- Sessions
-- ============================================================================

/-- A backend with its state; a call returns or throws. -/
abbrev BackendObject (F σ : Type) := Object (BackendCall F) (fun call => Except Bytes call.Result) σ

/-- What stands around a call: the times and the memory of both processes, what Windows
    does for them, and the arguments of the GUI that a call may fill in. -/
structure Moment (F : Type) where
  now : Int64
  mappingIo : Handler.MappingIo
  viewIo : RemoteBackendService.ViewIo
  behindResponse : Bytes
  behindRequest : Bytes
  config : FaceRecognizerConfig F
  preview : Preview

/-- The client, the backend and the handler's slots. -/
structure RemoteState (σ : Type) where
  remote : RemoteBackendService
  backend : σ
  mappings : TransportMappings

variable {F σ : Type}

/-- The member function of `RemoteBackendService` for a call. -/
def RemoteBackendService.through [Zero F] (ft : FloatText F) (io : ClientIo)
    (named : Option GuiIpcRequest → Bytes → Option Bytes) (moment : Moment F)
    (remote : RemoteBackendService) :
    (call : BackendCall F) → Called (Except StdException call.Result)
  | .getAllUsers => remote.getAllUsers io
  | .addUser username password remark => (remote.addUser io username password remark).map .ok
  | .updateUser userId username password remark =>
      (remote.updateUser io userId username password remark).map .ok
  | .deleteUser userId => (remote.deleteUser io userId).map .ok
  | .getUserFaces userId => remote.getUserFaces io userId
  | .deleteFace userId faceId => (remote.deleteFace io userId faceId).map .ok
  | .captureAndAddFace userId remark => (remote.captureAndAddFace io userId remark).map .ok
  | .startCameraPreview => (remote.startCameraPreview io).map .ok
  | .stopCameraPreview => (remote.stopCameraPreview io).map .ok
  | .isCameraPreviewRunning => (remote.isCameraPreviewRunning io).map .ok
  | .getLatestCameraPreview =>
      remote.getLatestCameraPreview io moment.viewIo named moment.preview
  | .capturePreviewFrame => remote.capturePreviewFrame io moment.viewIo named moment.preview
  | .getDllStatus => (remote.getDllStatus io).map .ok
  | .injectDll => (remote.injectDll io).map .ok
  | .startRecognition => (remote.startRecognition io).map .ok
  | .stopRecognition => (remote.stopRecognition io).map .ok
  | .isRecognitionRunning => (remote.isRecognitionRunning io).map .ok
  | .getRecognitionResult => remote.getRecognitionResult io ft
  | .getRecognizerConfig => remote.getRecognizerConfig io ft moment.config
  | .saveRecognizerConfig config => (remote.saveRecognizerConfig io ft config).map .ok

/-- The calls of a session made on the backend itself. -/
def directly (object : BackendObject F σ) :
    Object (Moment F × BackendCall F) (fun c => Except Bytes c.2.Result) σ where
  call s c := object.call s c.2

/-- The service process at a moment, with its backend in a state. -/
def serviceAt (object : BackendObject F σ) (ft : FloatText F) (processId : UInt32)
    (moment : Moment F) (s : σ) : PipeService F where
  ft := ft
  io := { moment.mappingIo with processId := processId }
  backend call := (object.call s call).1
  beyond := moment.behindRequest

/-- The same calls made through the pipe. -/
def overPipe [Zero F] (object : BackendObject F σ) (ft : FloatText F) (processId : UInt32) :
    Object (Moment F × BackendCall F) (fun c => Except StdException c.2.Result)
      (RemoteState σ) where
  call s c :=
    let service := serviceAt object ft processId c.1 s.backend
    -- the GUI opens a mapping after the service has answered
    let named written := (service.mappingsFor s.mappings written).named service.io
    let called := s.remote.through ft (service.clientIo c.1.now c.1.behindResponse) named c.1 c.2
    (called.value,
      { remote := called.remote
        backend := object.after s.backend (service.callsFor called.written)
        mappings := service.mappingsFor s.mappings called.written })

-- ============================================================================
-- What the GUI sees
-- ============================================================================

/-- A frame and its size, or a message; what the call leaves alone stays. -/
def seenPreview (args : Preview) : Except Bytes Preview → Preview
  | .ok preview =>
      if preview.ok then
        { args with
          ok := true, imageData := preview.imageData, width := preview.width
          height := preview.height }
      else { args with ok := false, errorMessage := seenText preview.errorMessage }
  | .error what => { args with ok := false, errorMessage := seenWhat what }

theorem seenPreview_frame (args : Preview) {preview : Preview} (h : preview.ok = true) :
    seenPreview args (.ok preview) =
      { args with
        ok := true, imageData := preview.imageData, width := preview.width
        height := preview.height } := if_pos h

theorem seenPreview_message (args : Preview) {preview : Preview} (h : preview.ok = false) :
    seenPreview args (.ok preview) =
      { args with ok := false, errorMessage := seenText preview.errorMessage } :=
  if_neg (Bool.not_eq_true _ ▸ h)

/-- The configuration without `auto_update_check`, or a message. -/
def seenConfig (config : FaceRecognizerConfig F) :
    Except Bytes (Bool × FaceRecognizerConfig F × Bytes) → Bool × FaceRecognizerConfig F × Bytes
  | .ok (true, read, _) => (true, { read with autoUpdateCheck := true }, [])
  | .ok (false, _, message) => (false, config, seenText message)
  | .error what => (false, config, seenWhat what)

/-- What the GUI gets of the outcome of a call; an exception of the backend is a failed
    call or an empty answer. -/
def seen [Zero F] (moment : Moment F) :
    (call : BackendCall F) → Except Bytes call.Result → call.Result
  | .getAllUsers, outcome => (outcome.toOption.getD []).map shownUser
  | .getUserFaces _, outcome => (outcome.toOption.getD []).map shownFace
  | .addUser _ _ _, outcome | .updateUser _ _ _ _, outcome | .deleteUser _, outcome
  | .deleteFace _ _, outcome | .captureAndAddFace _ _, outcome | .startCameraPreview, outcome
  | .injectDll, outcome | .startRecognition, outcome | .saveRecognizerConfig _, outcome =>
      PipeService.seenMessage outcome
  | .stopCameraPreview, _ | .stopRecognition, _ => ()
  | .isCameraPreviewRunning, outcome | .isRecognitionRunning, outcome =>
      outcome.toOption.getD false
  | .getLatestCameraPreview, outcome | .capturePreviewFrame, outcome =>
      seenPreview moment.preview outcome
  | .getDllStatus, outcome =>
      { outcome.toOption.getD RemoteBackendService.newDllStatus with
        hashMatch := false, versionMatch := false }
  | .getRecognitionResult, outcome =>
      outcome.toOption.getD RemoteBackendService.newRecognitionResult
  | .getRecognizerConfig, outcome => seenConfig moment.config outcome

/-- A frame that the backend returns can be described, and Windows maps it on both sides. -/
def PreviewPasses (moment : Moment F) (outcome : Except Bytes Preview) : Prop :=
  ∀ preview, outcome = .ok preview → preview.ok = true → preview.Fits ∧
    moment.mappingIo.Succeeds ∧ moment.viewIo.opens = true ∧ moment.viewIo.maps = true

/-- The arguments and the outcome of a call go through the text formats of the pipe. -/
def Passes (ft : FloatText F) (moment : Moment F) :
    (call : BackendCall F) → Except Bytes call.Result → Prop
  | .addUser username password remark, _ => bar ∉ username ∧ bar ∉ password ∧
      (RemoteBackendService.joinUser username password remark).length < kPayloadSize
  | .updateUser userId username password remark, _ => IsInt userId ∧ bar ∉ username ∧
      bar ∉ password ∧ (toText userId ++ bar ::
        RemoteBackendService.joinUser username password remark).length < kPayloadSize
  | .deleteUser userId, _ => IsInt userId
  | .deleteFace userId faceId, _ => IsInt userId ∧ IsInt faceId
  | .captureAndAddFace userId remark, _ =>
      IsInt userId ∧ (toText userId ++ bar :: remark).length < kPayloadSize
  | .saveRecognizerConfig config, _ => newline ∉ config.language ∧ Carried ft config ∧
      config.autoUpdateCheck = true ∧
      (withLanguage ft config config.language [newline]).length < kPayloadSize
  | .getAllUsers, outcome => ∀ users, outcome = .ok users → UsersFit users
  | .getUserFaces userId, outcome =>
      IsInt userId ∧ ∀ faces, outcome = .ok faces → FacesFit faces
  | .getDllStatus, outcome => ∀ status, outcome = .ok status →
      status.OneLines ∧ (Handler.dllStatusText status).length < kPayloadSize
  | .getRecognitionResult, outcome => ∀ result, outcome = .ok result → ResultOneLines result ∧
      ft.Survives result.confidence ∧
      (Handler.recognitionResultText ft result).length < kPayloadSize
  | .getRecognizerConfig, outcome => ∀ config message, outcome = .ok (true, config, message) →
      newline ∉ config.language ∧ 0 ∉ config.language ∧ Carried ft config ∧
        (configHead ft config).length < kPayloadSize
  | .getLatestCameraPreview, outcome | .capturePreviewFrame, outcome =>
      PreviewPasses moment outcome
  | .startCameraPreview, _ | .injectDll, _ | .startRecognition, _ | .stopCameraPreview, _
  | .stopRecognition, _ | .isCameraPreviewRunning, _ | .isRecognitionRunning, _ => True

-- ============================================================================
-- One call
-- ============================================================================

/-- A call of the client returns a value, and the service makes one call for it. -/
structure Gives {α : Type} (service : PipeService F) (call : BackendCall F) (value : α)
    (called : Called (Except StdException α)) : Prop where
  value : called.value = .ok value
  calls : service.callsFor called.written = [call]

namespace PipeService

variable (service : PipeService F) (now : Int64) (beyond : Bytes) (remote : RemoteBackendService)
  {cmd : GuiIpcCommand} {payload : Bytes} {call : BackendCall F}

theorem message_gives {outcome : Except Bytes (Bool × Bytes)}
    (hran : ∀ request, service.ran cmd payload request =
      ([call], Handler.answerOutcome (Handler.opened request)
        (Handler.answerResult (Handler.opened request)) outcome)) :
    Gives service call (seenMessage outcome) ((RemoteBackendService.callForMessage
      (service.clientIo now beyond) remote cmd payload).map .ok) :=
  ⟨congrArg _ (service.callForMessage_value now beyond remote hran),
    (service.reaches_of_ran now beyond remote hran).calls⟩

theorem nothing_gives {answer : GuiIpcRequest → Unit → GuiIpcResponse}
    {outcome : Except Bytes Unit}
    (hran : ∀ request, service.ran cmd [] request =
      ([call], Handler.answerOutcome (Handler.opened request) (answer request) outcome)) :
    Gives service call () ((RemoteBackendService.callForNothing
      (service.clientIo now beyond) remote cmd).map .ok) :=
  ⟨rfl, (service.reaches_of_ran now beyond remote hran).calls⟩

theorem callForBool_value {outcome : Except Bytes Bool}
    (hran : ∀ request, service.ran cmd [] request =
      ([call], Handler.answerOutcome (Handler.opened request)
        (Handler.answerBool (Handler.opened request)) outcome)) :
    (RemoteBackendService.callForBool (service.clientIo now beyond) remote cmd).value =
      outcome.toOption.getD false := by
  rw [RemoteBackendService.callForBool]
  dsimp only
  cases houtcome : outcome with
  | error what =>
      rw [(service.answer_error now beyond remote hran houtcome).1]
      rfl
  | ok running =>
      obtain ⟨request, hresponse, hok⟩ := service.answer_ok now beyond remote hran houtcome
      have hlength : (if running then utf8 "1" else utf8 "0").length < kPayloadSize := by
        cases running
        · decide
        · decide
      obtain ⟨rest, hrest⟩ :=
        GuiIpcResponse.putText_bytes (Handler.opened request) .success _ hlength
      have htext := CharField.readText_of_zero hrest (service.clientIo now beyond).beyond
      have hstatus : (Handler.answerBool (Handler.opened request) running).status =
          GuiIpcStatus.success.code := rfl
      rw [hok, hstatus, decide_eq_true rfl, Bool.true_and, hresponse]
      refine (congrArg (fun text => decide (text = utf8 "1")) htext).trans ?_
      cases running
      · decide
      · decide

theorem bool_gives {outcome : Except Bytes Bool}
    (hran : ∀ request, service.ran cmd [] request =
      ([call], Handler.answerOutcome (Handler.opened request)
        (Handler.answerBool (Handler.opened request)) outcome)) :
    Gives service call (outcome.toOption.getD false) ((RemoteBackendService.callForBool
      (service.clientIo now beyond) remote cmd).map .ok) :=
  ⟨congrArg _ (service.callForBool_value now beyond remote hran),
    (service.reaches_of_ran now beyond remote hran).calls⟩

/-- `GET_ALL_USERS`, also when the backend throws. -/
theorem getAllUsers_gives (h : ∀ users, service.backend .getAllUsers = .ok users → UsersFit users) :
    Gives service .getAllUsers (((service.backend .getAllUsers).toOption.getD []).map shownUser)
      (remote.getAllUsers (service.clientIo now beyond)) := by
  have hran := fun request => service.ran_nil .getAllUsers request fun _ => rfl
  refine ⟨?_, (service.reaches_of_ran now beyond remote hran).calls⟩
  cases houtcome : service.backend .getAllUsers with
  | ok users => exact getAllUsers_value service now beyond remote houtcome (h users houtcome)
  | error what =>
      obtain ⟨hok, -⟩ := service.answer_error now beyond remote hran houtcome
      rw [RemoteBackendService.getAllUsers]
      dsimp only
      rw [hok]
      rfl

theorem getUserFaces_gives {userId : Int} (hid : IsInt userId)
    (h : ∀ faces, service.backend (.getUserFaces userId) = .ok faces → FacesFit faces) :
    Gives service (.getUserFaces userId)
      (((service.backend (.getUserFaces userId)).toOption.getD []).map shownFace)
      (remote.getUserFaces (service.clientIo now beyond) userId) := by
  have hran := fun request => service.ran_getUserFaces request hid
  refine ⟨?_, (service.reaches_of_ran now beyond remote hran).calls⟩
  cases houtcome : service.backend (.getUserFaces userId) with
  | ok faces => exact getUserFaces_value service now beyond remote hid houtcome (h faces houtcome)
  | error what =>
      obtain ⟨hok, -⟩ := service.answer_error now beyond remote hran houtcome
      rw [RemoteBackendService.getUserFaces]
      dsimp only
      rw [hok]
      rfl

theorem getDllStatus_gives
    (h : ∀ status, service.backend .getDllStatus = .ok status →
      status.OneLines ∧ (Handler.dllStatusText status).length < kPayloadSize) :
    Gives service .getDllStatus
      { (service.backend .getDllStatus).toOption.getD RemoteBackendService.newDllStatus with
        hashMatch := false, versionMatch := false }
      ((remote.getDllStatus (service.clientIo now beyond)).map .ok) := by
  have hran := fun request => service.ran_nil .getDllStatus request fun _ => rfl
  refine ⟨?_, (service.reaches_of_ran now beyond remote hran).calls⟩
  show Except.ok (remote.getDllStatus (service.clientIo now beyond)).value = _
  cases houtcome : service.backend .getDllStatus with
  | ok status =>
      obtain ⟨hlines, hlength⟩ := h status houtcome
      rw [getDllStatus_value service now beyond remote houtcome hlines hlength]
      rfl
  | error what =>
      obtain ⟨hok, -⟩ := service.answer_error now beyond remote hran houtcome
      rw [RemoteBackendService.getDllStatus]
      dsimp only
      rw [hok]
      rfl

theorem getRecognitionResult_gives [Zero F]
    (h : ∀ result, service.backend .getRecognitionResult = .ok result → ResultOneLines result ∧
      service.ft.Survives result.confidence ∧
      (Handler.recognitionResultText service.ft result).length < kPayloadSize) :
    Gives service .getRecognitionResult
      ((service.backend .getRecognitionResult).toOption.getD
        RemoteBackendService.newRecognitionResult)
      (remote.getRecognitionResult (service.clientIo now beyond) service.ft) := by
  have hran := fun request => service.ran_nil .getRecognitionResult request fun _ => rfl
  refine ⟨?_, (service.reaches_of_ran now beyond remote hran).calls⟩
  cases houtcome : service.backend .getRecognitionResult with
  | ok result =>
      obtain ⟨hlines, hsurvives, hlength⟩ := h result houtcome
      exact getRecognitionResult_value service now beyond remote houtcome hlines hlength hsurvives
  | error what =>
      obtain ⟨hok, -⟩ := service.answer_error now beyond remote hran houtcome
      rw [RemoteBackendService.getRecognitionResult]
      dsimp only
      rw [hok]
      rfl

theorem getRecognizerConfig_gives (config : FaceRecognizerConfig F)
    (h : ∀ read message, service.backend .getRecognizerConfig = .ok (true, read, message) →
      newline ∉ read.language ∧ 0 ∉ read.language ∧ Carried service.ft read ∧
        (configHead service.ft read).length < kPayloadSize) :
    Gives service .getRecognizerConfig (seenConfig config (service.backend .getRecognizerConfig))
      (remote.getRecognizerConfig (service.clientIo now beyond) service.ft config) := by
  have hran := fun request => service.ran_nil .getRecognizerConfig request fun _ => rfl
  refine ⟨?_, (service.reaches_of_ran now beyond remote hran).calls⟩
  cases houtcome : service.backend .getRecognizerConfig with
  | error what =>
      obtain ⟨hok, htext⟩ := service.answer_error now beyond remote hran houtcome
      rw [RemoteBackendService.getRecognizerConfig]
      dsimp only
      rw [hok, htext]
      rfl
  | ok result =>
      obtain ⟨ok, read, message⟩ := result
      cases ok with
      | true =>
          obtain ⟨hnewline, hzero, hcarried, hlength⟩ := h read message houtcome
          rw [getRecognizerConfig_value service now beyond remote hnewline hcarried houtcome config,
            (fittingLanguage_eq_iff hcarried).mpr hlength, cString_eq_self hzero]
          rfl
      | false =>
          obtain ⟨request, hresponse, hok⟩ := service.answer_ok now beyond remote hran houtcome
          have htext := GuiIpcResponse.readText_setPayloadText (Handler.opened request)
            .serviceError message (service.clientIo now beyond).beyond
          rw [RemoteBackendService.getRecognizerConfig]
          dsimp only
          rw [hok, hresponse]
          exact congrArg (fun text => Except.ok (false, config, text)) htext

-- ============================================================================
-- Previews
-- ============================================================================

/-- The name of the capture is not that of the stream. -/
theorem named_capture (mappings : TransportMappings) (io : Handler.MappingIo) :
    mappings.named io (Handler.mappingName io "capture") = mappings.capture := by
  have hne : Handler.mappingName io "capture" ≠ Handler.mappingName io "stream" := by
    intro h
    have hlength := congrArg List.length h
    have htags : (utf8 "capture").length = 7 ∧ (utf8 "stream").length = 6 := by decide
    simp only [Handler.mappingName, List.length_append, htags] at hlength
    omega
  rw [TransportMappings.named, if_neg hne, if_pos rfl]

theorem named_stream (mappings : TransportMappings) (io : Handler.MappingIo) :
    mappings.named io (Handler.mappingName io "stream") = mappings.preview := if_pos rfl

/-- The answer to a preview without a frame. -/
theorem answerPreview_message (response : GuiIpcResponse) (io : Handler.MappingIo) (tag : String)
    {preview : Preview} (hok : preview.ok = false) :
    Handler.answerPreview response io tag preview =
      response.setPayloadText preview.errorMessage .serviceError := by
  rw [Handler.answerPreview, hok]
  rfl

/-- The answer to a preview with a frame that fits. -/
theorem answerPreview_descriptor (response : GuiIpcResponse) {io : Handler.MappingIo}
    (hio : io.Succeeds) (tag : String) {preview : Preview} (hok : preview.ok = true)
    (h : preview.Fits) :
    Handler.answerPreview response io tag preview =
      response.setPayloadText (keyLines (descriptorFields io tag preview)) .success := by
  rw [Handler.answerPreview, if_pos hok, serializePreview_eq response hio tag h]

section

variable {mappings : TransportMappings} {named : Option GuiIpcRequest → Bytes → Option Bytes}
  (hnamed : ∀ written, named written = (service.mappingsFor mappings written).named service.io)
  {viewIo : RemoteBackendService.ViewIo} {args : Preview}

include hnamed

theorem getLatestCameraPreview_gives
    (h : ∀ preview, service.backend .getLatestCameraPreview = .ok preview → preview.ok = true →
      preview.Fits ∧ service.io.Succeeds ∧ viewIo.opens = true ∧ viewIo.maps = true) :
    Gives service .getLatestCameraPreview
      (seenPreview args (service.backend .getLatestCameraPreview))
      (remote.getLatestCameraPreview (service.clientIo now beyond) viewIo named args) := by
  have hran := fun request => service.ran_nil .getLatestPreview request fun _ => rfl
  have hreaches := service.reaches_of_ran now beyond remote hran
  refine ⟨?_, hreaches.calls⟩
  rw [RemoteBackendService.getLatestCameraPreview]
  dsimp only
  cases houtcome : service.backend .getLatestCameraPreview with
  | error what =>
      obtain ⟨hok, htext⟩ := service.answer_error now beyond remote hran houtcome
      rw [hok, htext]
      rfl
  | ok preview =>
      obtain ⟨request, hresponse, hok⟩ := service.answer_ok now beyond remote hran houtcome
      rw [hok, hresponse]
      cases hframe : preview.ok with
      | false =>
          have htext := GuiIpcResponse.readText_setPayloadText (Handler.opened request)
            .serviceError preview.errorMessage (service.clientIo now beyond).beyond
          rw [answerPreview_message _ _ _ hframe]
          refine Eq.trans ?_ (congrArg Except.ok (seenPreview_message args hframe).symm)
          exact congrArg (fun text => Except.ok { args with ok := false, errorMessage := text }) htext
      | true =>
          obtain ⟨hfits, hio, hopens, hmaps⟩ := h preview houtcome hframe
          have htag : OneLine (utf8 "stream") := by decide
          have hlength := length_descriptor service.io "stream" preview (by decide)
            hfits
          obtain ⟨hsize, htake⟩ := GuiIpcResponse.take_setPayloadText (Handler.opened request)
            .success hlength (service.clientIo now beyond).beyond
          have hobject : named (RemoteBackendService.sendRequest (service.clientIo now beyond) remote
              .getLatestPreview []).written (Handler.mappingName service.io "stream") =
              some (storedFrame preview.imageData) := by
            rw [hnamed, named_stream, hreaches.mappings, Handler.mappingsAfter, houtcome]
            dsimp only
            rw [if_pos hframe]
            exact mappingAfter_eq hio hfits
          refine Eq.trans ?_ (congrArg Except.ok (seenPreview_frame args hframe).symm)
          rw [answerPreview_descriptor _ hio _ hframe hfits, if_neg hsize, htake,
            parsePreviewData_descriptor service.io _ htag preview hopens hmaps hobject hfits]
          rfl

theorem capturePreviewFrame_gives
    (h : ∀ preview, service.backend .capturePreviewFrame = .ok preview → preview.ok = true →
      preview.Fits ∧ service.io.Succeeds ∧ viewIo.opens = true ∧ viewIo.maps = true) :
    Gives service .capturePreviewFrame
      (seenPreview args (service.backend .capturePreviewFrame))
      (remote.capturePreviewFrame (service.clientIo now beyond) viewIo named args) := by
  have hran := fun request => service.ran_nil .capturePreviewFrame request fun _ => rfl
  have hreaches := service.reaches_of_ran now beyond remote hran
  refine ⟨?_, hreaches.calls⟩
  rw [RemoteBackendService.capturePreviewFrame]
  dsimp only
  cases houtcome : service.backend .capturePreviewFrame with
  | error what =>
      obtain ⟨hok, htext⟩ := service.answer_error now beyond remote hran houtcome
      rw [hok, htext]
      rfl
  | ok preview =>
      obtain ⟨request, hresponse, hok⟩ := service.answer_ok now beyond remote hran houtcome
      rw [hok, hresponse]
      cases hframe : preview.ok with
      | false =>
          have htext := GuiIpcResponse.readText_setPayloadText (Handler.opened request)
            .serviceError preview.errorMessage (service.clientIo now beyond).beyond
          rw [answerPreview_message _ _ _ hframe]
          refine Eq.trans ?_ (congrArg Except.ok (seenPreview_message args hframe).symm)
          exact congrArg (fun text => Except.ok { args with ok := false, errorMessage := text }) htext
      | true =>
          obtain ⟨hfits, hio, hopens, hmaps⟩ := h preview houtcome hframe
          have htag : OneLine (utf8 "capture") := by decide
          have hlength := length_descriptor service.io "capture" preview (by decide)
            hfits
          have htext : ((Handler.opened request).setPayloadText
              (keyLines (descriptorFields service.io "capture" preview))
              .success).payload.readText (service.clientIo now beyond).beyond =
              keyLines (descriptorFields service.io "capture" preview) := by
            rw [GuiIpcResponse.readText_setPayloadText, take_eq_self_iff.mpr hlength]
            exact cString_eq_self (zero_not_mem_descriptor service.io _ htag preview)
          have hobject : named (RemoteBackendService.sendRequest (service.clientIo now beyond) remote
              .capturePreviewFrame []).written (Handler.mappingName service.io "capture") =
              some (storedFrame preview.imageData) := by
            rw [hnamed, named_capture, hreaches.mappings, Handler.mappingsAfter, houtcome]
            dsimp only
            rw [if_pos hframe]
            exact mappingAfter_eq hio hfits
          refine Eq.trans ?_ (congrArg Except.ok (seenPreview_frame args hframe).symm)
          rw [answerPreview_descriptor _ hio _ hframe hfits, htext,
            parsePreviewData_descriptor service.io _ htag preview hopens hmaps hobject hfits]
          rfl

/-- Every call whose texts pass gives the GUI its view of what the backend did. -/
theorem through_gives [Zero F] (moment : Moment F)
    (hio : moment.mappingIo.Succeeds → service.io.Succeeds)
    (hpasses : Passes service.ft moment call (service.backend call)) :
    Gives service call (seen moment call (service.backend call))
      (remote.through service.ft (service.clientIo now beyond) named moment call) := by
  cases call with
  | getAllUsers => exact service.getAllUsers_gives now beyond remote hpasses
  | addUser username password remark =>
      obtain ⟨husername, hpassword, hfits⟩ := hpasses
      exact service.message_gives now beyond remote fun request =>
        service.ran_addUser request husername hpassword hfits
  | updateUser userId username password remark =>
      obtain ⟨hid, husername, hpassword, hfits⟩ := hpasses
      exact service.message_gives now beyond remote fun request =>
        service.ran_updateUser request hid husername hpassword hfits
  | deleteUser userId =>
      exact service.message_gives now beyond remote fun request =>
        service.ran_deleteUser request hpasses
  | getUserFaces userId => exact service.getUserFaces_gives now beyond remote hpasses.1 hpasses.2
  | deleteFace userId faceId =>
      exact service.message_gives now beyond remote fun request =>
        service.ran_deleteFace request hpasses.1 hpasses.2
  | captureAndAddFace userId remark =>
      exact service.message_gives now beyond remote fun request =>
        service.ran_captureAndAddFace request hpasses.1 hpasses.2
  | startCameraPreview | injectDll | startRecognition =>
      exact service.message_gives now beyond remote fun request =>
        service.ran_nil _ request fun _ => rfl
  | stopCameraPreview | stopRecognition =>
      exact service.nothing_gives now beyond remote fun request =>
        service.ran_nil _ request fun _ => rfl
  | isCameraPreviewRunning | isRecognitionRunning =>
      exact service.bool_gives now beyond remote fun request =>
        service.ran_nil _ request fun _ => rfl
  | getLatestCameraPreview =>
      refine service.getLatestCameraPreview_gives now beyond remote hnamed ?_
      intro preview houtcome hframe
      obtain ⟨hfits, hsucceeds, hviews⟩ := hpasses preview houtcome hframe
      exact ⟨hfits, hio hsucceeds, hviews⟩
  | capturePreviewFrame =>
      refine service.capturePreviewFrame_gives now beyond remote hnamed ?_
      intro preview houtcome hframe
      obtain ⟨hfits, hsucceeds, hviews⟩ := hpasses preview houtcome hframe
      exact ⟨hfits, hio hsucceeds, hviews⟩
  | getDllStatus => exact service.getDllStatus_gives now beyond remote hpasses
  | getRecognitionResult => exact service.getRecognitionResult_gives now beyond remote hpasses
  | getRecognizerConfig =>
      exact service.getRecognizerConfig_gives now beyond remote moment.config hpasses
  | saveRecognizerConfig config =>
      obtain ⟨hlanguage, hcarried, hauto, hfits⟩ := hpasses
      have hpayload : remote.saveRecognizerConfig (service.clientIo now beyond) service.ft config =
          RemoteBackendService.callForMessage (service.clientIo now beyond) remote
            .saveRecognizerConfig (withLanguage service.ft config config.language [newline]) := by
        rw [RemoteBackendService.saveRecognizerConfig]
        simp [withLanguage, beforeLanguage, keyed, Handler.keyLine]
      have hgives := service.message_gives now beyond remote fun request =>
        service.ran_saveRecognizerConfig request hlanguage hcarried hauto hfits
      rw [← hpayload] at hgives
      exact hgives

end

end PipeService

-- ============================================================================
-- Whole sessions
-- ============================================================================

variable [Zero F] (object : BackendObject F σ) (ft : FloatText F) (processId : UInt32)

/-- The remote service stands for the backend, as long as what is passed survives the text
    formats. -/
theorem overPipe_standsFor :
    StandsFor (overPipe object ft processId) (directly object) (fun t s => t.backend = s)
      (fun s c => Passes ft c.1 c.2 (object.call s c.2).1)
      (fun c outcome => .ok (seen c.1 c.2 outcome)) := by
  have hgives : ∀ {t : RemoteState σ} {c : Moment F × BackendCall F},
      Passes ft c.1 c.2 (object.call t.backend c.2).1 →
      Gives (serviceAt object ft processId c.1 t.backend) c.2
        (seen c.1 c.2 (object.call t.backend c.2).1)
        (t.remote.through ft
          ((serviceAt object ft processId c.1 t.backend).clientIo c.1.now c.1.behindResponse)
          (fun written => ((serviceAt object ft processId c.1 t.backend).mappingsFor t.mappings
            written).named (serviceAt object ft processId c.1 t.backend).io) c.1 c.2) :=
    fun {t c} hpasses => (serviceAt object ft processId c.1 t.backend).through_gives c.1.now
      c.1.behindResponse t.remote (fun _ => rfl) c.1
      (fun hsucceeds => ⟨hsucceeds.securityBuilt, hsucceeds.created, hsucceeds.mapped⟩) hpasses
  constructor
  · rintro t s c rfl hpasses
    exact (hgives hpasses).value
  · rintro t s c rfl hpasses
    show object.after t.backend ((serviceAt object ft processId c.1 t.backend).callsFor _) = _
    rw [(hgives hpasses).calls]
    rfl

/-- A backend that keeps the users it is given and has one frame. -/
def exampleObject : BackendObject Bool (List User) where
  call users
    | .addUser username _ remark =>
        (.ok (true, utf8 "ok"), users ++ [⟨1, username, utf8 "aes256cbc:00:00", [], remark⟩])
    | .getAllUsers => (.ok users, users)
    | .getLatestCameraPreview => (.ok ⟨true, [1, 2, 3], 1, 1, []⟩, users)
    | _ => (.error (utf8 "no"), users)

def exampleMoment : Moment Bool where
  now := 0
  mappingIo := ⟨true, true, true, 0, 0⟩
  viewIo := ⟨true, true, 0⟩
  behindResponse := []
  behindRequest := []
  config := .default exampleFloats
  preview := ⟨false, [], 0, 0, []⟩

def exampleCalls : List (Moment Bool × BackendCall Bool) :=
  [(exampleMoment, .addUser (utf8 "alice") (utf8 "pw") []), (exampleMoment, .getAllUsers),
    (exampleMoment, .getLatestCameraPreview), (exampleMoment, .stopRecognition)]

end Smile2Unlock.GuiIpc
