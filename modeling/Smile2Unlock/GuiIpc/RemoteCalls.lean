/-
  Smile2Unlock.GuiIpc.RemoteCalls

  What one call of `RemoteBackendService` amounts to on the backend behind the pipe.

  `Reaches` says that a call leads to exactly one call of the backend, and to the slots
  that its handler leaves.  What the client returns is read off the outcome of that call:
  `answer_ok` where the backend returned, `answer_error` where it threw.
-/

import Smile2Unlock.GuiIpc.PreviewMapping
import Smile2Unlock.GuiIpc.Rows
import Smile2Unlock.GuiIpc.UserArguments

namespace Smile2Unlock.GuiIpc

open Smile2Unlock Lib
open Smile2Unlock.Service (User FaceData RecognitionResult)

/-- A text of the service as the client gets it. -/
def seenText (text : Bytes) : Bytes := cString (text.take (kPayloadSize - 1))

/-- The same for the message of an exception. -/
def seenWhat (what : Bytes) : Bytes := seenText (cString what)

namespace Handler

variable {F : Type}

/-- The response to what a call of the backend did. -/
def answerOutcome {ρ : Type} (response : GuiIpcResponse) (answer : ρ → GuiIpcResponse) :
    Except Bytes ρ → GuiIpcResponse
  | .ok result => answer result
  | .error what => response.setError what

theorem run_call (response : GuiIpcResponse) (backend : Backend F) (call : BackendCall F)
    (answer : call.Result → GuiIpcResponse) :
    run response backend (.call call answer) =
      ([call], answerOutcome response answer (backend call)) := by
  rw [run]
  cases backend call with
  | ok result => rfl
  | error what => rfl

end Handler

namespace PipeService

variable {F : Type} (service : PipeService F) (now : Int64) (beyond : Bytes)
  (remote : RemoteBackendService) {cmd : GuiIpcCommand} {payload : Bytes} {call : BackendCall F}

-- ============================================================================
-- What reaches the service
-- ============================================================================

/-- The service made this one call for a request, and its handler for `cmd` left the slots. -/
structure Reaches (cmd : GuiIpcCommand) (call : BackendCall F)
    (written : Option GuiIpcRequest) : Prop where
  calls : service.callsFor written = [call]
  mappings : ∀ mappings, service.mappingsFor mappings written =
    Handler.mappingsAfter service.io service.backend mappings (some cmd)

theorem mappingsFor_record (mappings : TransportMappings) (requestId : Int32) :
    service.mappingsFor mappings (some (RemoteBackendService.record requestId now cmd payload)) =
      Handler.mappingsAfter service.io service.backend mappings (some cmd) := by
  have hfit := GuiIpcResponse.length_fitting payload
  generalize hrequest : RemoteBackendService.record requestId now cmd payload = request
  have hmagic : request.magic = guiIpcMagic := by
    rw [← hrequest]
    rfl
  have hversion : request.version = guiIpcVersion := by
    rw [← hrequest]
    rfl
  have hcommand : GuiIpcCommand.ofCode request.command = some cmd := by
    rw [← hrequest]
    exact GuiIpcCommand.ofCode_code cmd
  have hsize : request.payloadSize.toInt = (payload.take (kPayloadSize - 1)).length := by
    rw [← hrequest]
    exact GuiIpcResponse.toInt_ofNat hfit
  have hnonneg : ¬ request.payloadSize < 0 := by
    rw [Int32.lt_iff_toInt_lt, hsize]
    exact Int.not_lt.mpr (Int.natCast_nonneg _)
  rw [mappingsFor, if_neg (not_not_intro hmagic), if_neg (not_not_intro hversion), if_neg hnonneg,
    hcommand]

section

variable {ρ : Type} {answer : GuiIpcRequest → ρ → GuiIpcResponse} {outcome : Except Bytes ρ}
  (hran : ∀ request, service.ran cmd payload request =
    ([call], Handler.answerOutcome (Handler.opened request) (answer request) outcome))

include hran

theorem reaches_of_ran :
    service.Reaches cmd call
      (RemoteBackendService.sendRequest (service.clientIo now beyond) remote cmd payload).written := by
  obtain ⟨requestId, remote', hsend⟩ := service.sendRequest_clientIo cmd now beyond payload remote
  rw [hsend]
  refine ⟨?_, fun mappings => service.mappingsFor_record now mappings requestId⟩
  show (service.handled (RemoteBackendService.record requestId now cmd payload)).calls = [call]
  rw [handled_record, hran]

/-- The answer to a call that the backend returned from. -/
theorem answer_ok {result : ρ} (houtcome : outcome = .ok result) :
    ∃ request, (RemoteBackendService.sendRequest (service.clientIo now beyond) remote cmd
        payload).response = answer request result ∧
      (RemoteBackendService.sendRequest (service.clientIo now beyond) remote cmd payload).ok =
        decide ((answer request result).status = GuiIpcStatus.success.code) := by
  obtain ⟨requestId, remote', hsend⟩ := service.sendRequest_clientIo cmd now beyond payload remote
  refine ⟨RemoteBackendService.record requestId now cmd payload, ?_⟩
  rw [hsend, hran, houtcome]
  exact ⟨rfl, rfl⟩

/-- The answer to a call that threw. -/
theorem answer_error {what : Bytes} (houtcome : outcome = .error what) :
    (RemoteBackendService.sendRequest (service.clientIo now beyond) remote cmd payload).ok = false ∧
      (RemoteBackendService.sendRequest (service.clientIo now beyond) remote cmd
        payload).response.payload.readText (service.clientIo now beyond).beyond = seenWhat what := by
  obtain ⟨requestId, remote', hsend⟩ := service.sendRequest_clientIo cmd now beyond payload remote
  rw [hsend, hran, houtcome]
  exact ⟨rfl, GuiIpcResponse.readText_setPayloadText ..⟩

end

-- ============================================================================
-- Calls with a result and a message
-- ============================================================================

/-- What the client returns of such a call. -/
def seenMessage : Except Bytes (Bool × Bytes) → Bool × Bytes
  | .ok (ok, message) => (ok, seenText message)
  | .error what => (false, seenWhat what)

section

variable {outcome : Except Bytes (Bool × Bytes)}

theorem callForMessage_value
    (hran : ∀ request, service.ran cmd payload request =
      ([call], Handler.answerOutcome (Handler.opened request)
        (Handler.answerResult (Handler.opened request)) outcome)) :
    (RemoteBackendService.callForMessage (service.clientIo now beyond) remote cmd payload).value =
      seenMessage outcome := by
  rw [RemoteBackendService.callForMessage]
  dsimp only
  cases houtcome : outcome with
  | error what =>
      obtain ⟨hok, htext⟩ := service.answer_error now beyond remote hran houtcome
      rw [hok, htext]
      rfl
  | ok result =>
      obtain ⟨ok, message⟩ := result
      obtain ⟨request, hresponse, hok⟩ := service.answer_ok now beyond remote hran houtcome
      have htext := GuiIpcResponse.readText_setPayloadText (Handler.opened request)
        (if ok then .success else .serviceError) message (service.clientIo now beyond).beyond
      rw [hok, hresponse, Handler.answerResult]
      dsimp only
      rw [htext]
      cases ok
      · rfl
      · rfl

end

-- ============================================================================
-- How each command is handled
-- ============================================================================

/-- A payload that fits reaches the handler as it is. -/
theorem ran_eq (hfits : payload.length < kPayloadSize) {request : GuiIpcRequest}
    {handling : Handling F} (h : Handler.handleCommand service.ft (Handler.opened request) service.io
      payload (some cmd) = handling) :
    service.ran cmd payload request = Handler.run (Handler.opened request) service.backend
      handling := by
  rw [ran, take_eq_self_iff.mpr hfits, h]

theorem length_id_lt {userId : Int} (hid : IsInt userId) :
    (toText userId).length < kPayloadSize :=
  Nat.lt_of_le_of_lt (length_toText_le hid) (by decide)

section

variable (request : GuiIpcRequest)

theorem ran_addUser {username password remark : Bytes} (husername : bar ∉ username)
    (hpassword : bar ∉ password)
    (hfits : (RemoteBackendService.joinUser username password remark).length < kPayloadSize) :
    service.ran .addUser (RemoteBackendService.joinUser username password remark) request =
      ([.addUser username password remark], Handler.answerOutcome (Handler.opened request)
        (Handler.answerResult (Handler.opened request))
        (service.backend (.addUser username password remark))) := by
  refine (service.ran_eq hfits ?_).trans (Handler.run_call ..)
  show Handler.addUser _ _ = _
  rw [addUser_eq, splitUser_eq_some_iff.mpr ⟨rfl, husername, hpassword⟩]

theorem ran_updateUser {userId : Int} (hid : IsInt userId) {username password remark : Bytes}
    (husername : bar ∉ username) (hpassword : bar ∉ password)
    (hfits : (toText userId ++ bar ::
      RemoteBackendService.joinUser username password remark).length < kPayloadSize) :
    service.ran .updateUser
        (toText userId ++ bar :: RemoteBackendService.joinUser username password remark) request =
      ([.updateUser userId username password remark], Handler.answerOutcome (Handler.opened request)
        (Handler.answerResult (Handler.opened request))
        (service.backend (.updateUser userId username password remark))) := by
  refine (service.ran_eq hfits ?_).trans (Handler.run_call ..)
  show Handler.updateUser _ _ = _
  rw [updateUser_eq, splitAtFirst_append (bar_not_mem_toText userId)]
  dsimp only
  rw [splitUser_eq_some_iff.mpr ⟨rfl, husername, hpassword⟩]
  dsimp only
  rw [parseInt_toText hid]

theorem ran_deleteUser {userId : Int} (hid : IsInt userId) :
    service.ran .deleteUser (toText userId) request =
      ([.deleteUser userId], Handler.answerOutcome (Handler.opened request)
        (Handler.answerResult (Handler.opened request)) (service.backend (.deleteUser userId))) := by
  refine (service.ran_eq (length_id_lt hid) ?_).trans (Handler.run_call ..)
  show Handler.deleteUser _ _ = _
  rw [Handler.deleteUser, parseInt_toText hid]

/-- An id, a separator and a rest are taken apart again. -/
theorem find_id (userId : Int) (rest : Bytes) :
    find bar (toText userId ++ bar :: rest) 0 = some (toText userId).length ∧
      (toText userId ++ bar :: rest).take (toText userId).length = toText userId ∧
      (toText userId ++ bar :: rest).drop ((toText userId).length + 1) = rest := by
  refine ⟨?_, List.take_left, drop_behind _ _⟩
  rw [find_zero, splitAtFirst_append (bar_not_mem_toText userId)]
  rfl

theorem ran_deleteFace {userId faceId : Int} (huser : IsInt userId) (hface : IsInt faceId) :
    service.ran .deleteFace (toText userId ++ bar :: toText faceId) request =
      ([.deleteFace userId faceId], Handler.answerOutcome (Handler.opened request)
        (Handler.answerResult (Handler.opened request))
        (service.backend (.deleteFace userId faceId))) := by
  have hfits : (toText userId ++ bar :: toText faceId).length < kPayloadSize := by
    have hlength := length_toText_le huser
    have hlength' := length_toText_le hface
    have hsize : 100 < kPayloadSize := by decide
    rw [List.length_append, List.length_cons]
    omega
  obtain ⟨hfind, htake, hdrop⟩ := find_id userId (toText faceId)
  refine (service.ran_eq hfits ?_).trans (Handler.run_call ..)
  show Handler.deleteFace _ _ = _
  rw [Handler.deleteFace, hfind]
  dsimp only
  rw [htake, hdrop, parseInt_toText huser, parseInt_toText hface]

theorem ran_captureAndAddFace {userId : Int} (hid : IsInt userId) {remark : Bytes}
    (hfits : (toText userId ++ bar :: remark).length < kPayloadSize) :
    service.ran .captureAndAddFace (toText userId ++ bar :: remark) request =
      ([.captureAndAddFace userId remark], Handler.answerOutcome (Handler.opened request)
        (Handler.answerResult (Handler.opened request))
        (service.backend (.captureAndAddFace userId remark))) := by
  obtain ⟨hfind, htake, hdrop⟩ := find_id userId remark
  refine (service.ran_eq hfits ?_).trans (Handler.run_call ..)
  show Handler.captureAndAddFace _ _ = _
  rw [Handler.captureAndAddFace, hfind]
  dsimp only
  rw [htake, hdrop, parseInt_toText hid]

theorem ran_getUserFaces {userId : Int} (hid : IsInt userId) :
    service.ran .getUserFaces (toText userId) request =
      ([.getUserFaces userId], Handler.answerOutcome (Handler.opened request)
        (fun faces => (Handler.opened request).setPayloadText
          (faces.flatMap fun face => Handler.faceRow face ++ [newline]) .success)
        (service.backend (.getUserFaces userId))) := by
  refine (service.ran_eq (length_id_lt hid) ?_).trans (Handler.run_call ..)
  show Handler.getUserFaces _ _ = _
  rw [Handler.getUserFaces, parseInt_toText hid]

theorem ran_saveRecognizerConfig {config : FaceRecognizerConfig F}
    (hlanguage : newline ∉ config.language) (hcarried : Carried service.ft config)
    (hauto : config.autoUpdateCheck = true)
    (hfits : (withLanguage service.ft config config.language [newline]).length < kPayloadSize) :
    service.ran .saveRecognizerConfig
        (withLanguage service.ft config config.language [newline]) request =
      ([.saveRecognizerConfig config], Handler.answerOutcome (Handler.opened request)
        (Handler.answerResult (Handler.opened request))
        (service.backend (.saveRecognizerConfig config))) := by
  have harrived : arrived config config.language = config := by
    rw [arrived, ← hauto]
  refine (service.ran_eq hfits ?_).trans (Handler.run_call ..)
  show Handler.saveRecognizerConfig _ _ _ = _
  rw [Handler.saveRecognizerConfig,
    lines_withLanguage service.ft config hlanguage (Or.inr ⟨_, rfl⟩), List.tail_cons,
    lines_nil, List.append_nil, foldl_head hcarried, harrived]

end

/-- A command without arguments makes its call. -/
theorem ran_nil (cmd : GuiIpcCommand) (request : GuiIpcRequest)
    {answer : GuiIpcResponse → call.Result → GuiIpcResponse}
    (h : ∀ response, Handler.handleCommand service.ft response service.io [] (some cmd) =
      .call call (answer response)) :
    service.ran cmd [] request = ([call], Handler.answerOutcome (Handler.opened request)
      (answer (Handler.opened request)) (service.backend call)) :=
  (service.ran_eq (by decide) (h _)).trans (Handler.run_call ..)

end PipeService

end Smile2Unlock.GuiIpc
