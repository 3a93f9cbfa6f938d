/-
  Smile2Unlock.GuiIpc.Responses

  What `GuiIpcRequestHandler::handle` guarantees for any request record.

  `all_handleCommand` goes through the commands: each of them only fills in the response
  it is given, so that the id of the request stays and the text is terminated, whatever
  the backend returns (`kept_answers`).  `answersSafely_iff` adds the string of
  the payload, which is made outside the `try` block from a size that nothing has checked.
-/

import Smile2Unlock.GuiIpc.Handler

namespace Smile2Unlock.GuiIpc

open Smile2Unlock Lib

/-- A response to the request with this id, with its text in the field. -/
def Answers (requestId : Int32) (response : GuiIpcResponse) : Prop :=
  response.requestId = requestId ∧ response.Terminated

/-- Every response that the handling can lead to has the property. -/
def Handling.All {F : Type} (P : GuiIpcResponse → Prop) : Handling F → Prop
  | .respond response => P response
  | .call _ answer => ∀ result, P (answer result)

/-- Filling in a response keeps the property. -/
structure Kept (P : GuiIpcResponse → Prop) : Prop where
  putText : ∀ {response : GuiIpcResponse} (status : GuiIpcStatus) {text : Bytes}
    (h : text.length < kPayloadSize), P response → P (response.putText status text h)
  status : ∀ {response : GuiIpcResponse} (status : Int32), P response →
    P { response with status := status }

namespace Kept

variable {P : GuiIpcResponse → Prop} {response : GuiIpcResponse}

theorem setPayloadText (hP : Kept P) (h : P response) (msg : Bytes) (status : GuiIpcStatus) :
    P (response.setPayloadText msg status) := hP.putText status _ h

theorem setError (hP : Kept P) (h : P response) (msg : Bytes) : P (response.setError msg) :=
  hP.setPayloadText h _ _

end Kept

namespace Handler

variable {F : Type} {response : GuiIpcResponse} {requestId : Int32}

/-- A status alone does not touch the payload, and a text is terminated. -/
theorem kept_answers (requestId : Int32) : Kept (Answers requestId) where
  putText status _ htext h := ⟨h.1, GuiIpcResponse.terminated_putText _ status _ htext⟩
  status _ h := h

theorem answers_opened (request : GuiIpcRequest) : Answers request.requestId (opened request) :=
  ⟨rfl, GuiIpcResponse.terminated_cleared⟩

-- ============================================================================
-- The commands
-- ============================================================================

section

variable {P : GuiIpcResponse → Prop} (hP : Kept P)

include hP

theorem all_serializePreview (h : P response) (io : MappingIo) (tag : String)
    (preview : Preview) : P (serializePreview response io tag preview) := by
  unfold serializePreview
  split
  · exact hP.setError h _
  · split
    · exact hP.setError h _
    · split
      · exact hP.setError h _
      · split
        · exact hP.setError h _
        · exact hP.setPayloadText h _ _

theorem all_answerPreview (h : P response) (io : MappingIo) (tag : String)
    (preview : Preview) : P (answerPreview response io tag preview) := by
  unfold answerPreview
  split
  · exact all_serializePreview hP h io tag preview
  · exact hP.setPayloadText h _ _

-- A handler that checks its payload responds with an error or makes its call.

theorem all_addUser (h : P response) (payload : Bytes) :
    (addUser (F := F) response payload).All P := by
  unfold addUser
  dsimp only
  split
  · exact fun _ => hP.setPayloadText h _ _
  · exact hP.setError h _

theorem all_updateUser (h : P response) (payload : Bytes) :
    (updateUser (F := F) response payload).All P := by
  unfold updateUser
  dsimp only
  split
  · split
    · exact hP.setError h _
    · exact fun _ => hP.setPayloadText h _ _
  · exact hP.setError h _

theorem all_deleteUser (h : P response) (payload : Bytes) :
    (deleteUser (F := F) response payload).All P := by
  unfold deleteUser
  split
  · exact hP.setError h _
  · exact fun _ => hP.setPayloadText h _ _

theorem all_getUserFaces (h : P response) (payload : Bytes) :
    (getUserFaces (F := F) response payload).All P := by
  unfold getUserFaces
  split
  · exact hP.setError h _
  · exact fun _ => hP.setPayloadText h _ _

theorem all_deleteFace (h : P response) (payload : Bytes) :
    (deleteFace (F := F) response payload).All P := by
  unfold deleteFace
  split
  · exact hP.setError h _
  · split
    · exact fun _ => hP.setPayloadText h _ _
    · exact hP.setError h _

theorem all_captureAndAddFace (h : P response) (payload : Bytes) :
    (captureAndAddFace (F := F) response payload).All P := by
  unfold captureAndAddFace
  split
  · exact hP.setError h _
  · split
    · exact hP.setError h _
    · exact fun _ => hP.setPayloadText h _ _

/-- Every command only fills in the response. -/
theorem all_handleCommand (ft : FloatText F) (h : P response) (io : MappingIo)
    (payload : Bytes) (cmd : Option GuiIpcCommand) :
    (handleCommand ft response io payload cmd).All P := by
  cases cmd with
  | none => exact hP.setError h _
  | some cmd =>
      cases cmd with
      | ping => exact hP.putText _ _ h
      | addUser => exact all_addUser hP h payload
      | updateUser => exact all_updateUser hP h payload
      | deleteUser => exact all_deleteUser hP h payload
      | getUserFaces => exact all_getUserFaces hP h payload
      | deleteFace => exact all_deleteFace hP h payload
      | captureAndAddFace => exact all_captureAndAddFace hP h payload
      | stopCameraPreview | stopRecognition => exact fun _ => hP.status _ h
      | isCameraPreviewRunning | isRecognitionRunning => exact fun _ => hP.putText _ _ h
      | getLatestPreview | capturePreviewFrame => exact fun _ => all_answerPreview hP h io _ _
      | getRecognizerConfig =>
          intro result
          dsimp only
          split
          · exact hP.setPayloadText h _ _
          · exact hP.setPayloadText h _ _
      | _ => exact fun _ => hP.setPayloadText h _ _

theorem all_run (backend : Backend F) (h : P response) {handling : Handling F}
    (hhandling : handling.All P) : P (run response backend handling).2 := by
  cases handling with
  | respond response' => exact hhandling
  | call call answer =>
      rw [run]
      cases backend call with
      | ok result => exact hhandling result
      | error what => exact hP.setError h what

/-- What holds of the opened response and is kept holds of the answer. -/
theorem all_handle (ft : FloatText F) (io : MappingIo) (backend : Option (Backend F))
    (request : GuiIpcRequest) (beyond : Bytes) (h : P (opened request))
    {answer : GuiIpcResponse} (hanswer : (handle ft io backend request beyond).result = .ok answer) :
    P answer := by
  cases backend with
  | none =>
      obtain rfl := Except.ok.inj hanswer
      exact hP.setError h _
  | some backend =>
      rw [handle] at hanswer
      dsimp only at hanswer
      split at hanswer
      · cases hanswer
      · obtain rfl := Except.ok.inj hanswer
        exact all_run hP backend h (all_handleCommand hP ft h io _ _)

end

-- ============================================================================
-- Any request
-- ============================================================================

/-- `handle` returns, has read no byte outside the payload field, and the response is one
    to the request. -/
def AnswersSafely (request : GuiIpcRequest) (handled : Handled F) : Prop :=
  handled.bytesRead ≤ kPayloadSize ∧
    ∃ response, handled.result = .ok response ∧ Answers request.requestId response

/-- A request is handled safely exactly if the service has no backend or the request's
    payload size is one of the payload field. -/
theorem answersSafely_iff (ft : FloatText F) (io : MappingIo) (backend : Option (Backend F))
    (request : GuiIpcRequest) (beyond : Bytes) :
    AnswersSafely request (handle ft io backend request beyond) ↔
      backend.isNone ∨
        (0 ≤ request.payloadSize.toInt ∧ request.payloadSize.toInt ≤ kPayloadSize) := by
  cases backend with
  | none =>
      have hopened := answers_opened request
      exact iff_of_true ⟨Nat.zero_le _, _, rfl, (kept_answers _).setError hopened _⟩ (Or.inl rfl)
  | some backend =>
      rw [handle]
      dsimp only
      by_cases hneg : request.payloadSize < 0
      · have hsize : request.payloadSize.toInt < 0 := Int32.lt_iff_toInt_lt.mp hneg
        rw [if_pos hneg]
        refine iff_of_false ?_ ?_
        · rintro ⟨-, response, hresponse, -⟩
          cases hresponse
        · rintro (hnone | ⟨hpos, -⟩)
          · cases hnone
          · omega
      · have hsize : ¬ request.payloadSize.toInt < 0 := fun h => hneg (Int32.lt_iff_toInt_lt.mpr h)
        rw [if_neg hneg]
        constructor
        · rintro ⟨hread, -⟩
          have hread' : request.payloadSize.toInt.toNat ≤ kPayloadSize := hread
          exact Or.inr ⟨by omega, by omega⟩
        · rintro (hnone | ⟨-, hle⟩)
          · cases hnone
          · have hread : request.payloadSize.toInt.toNat ≤ kPayloadSize := by omega
            refine ⟨hread, _, rfl, ?_⟩
            have hopened := answers_opened request
            exact all_run (kept_answers _) backend hopened
              (all_handleCommand (kept_answers _) ft hopened io _ _)

/-- A size of -1 lets an exception out of `handle`. -/
theorem answersSafely_fails :
    ¬ ∀ (F : Type) (ft : FloatText F) (io : MappingIo) (backend : Option (Backend F))
      (request : GuiIpcRequest) (beyond : Bytes), request.magic = guiIpcMagic →
      request.version = guiIpcVersion →
      AnswersSafely request (handle ft io backend request beyond) := by
  intro h
  obtain ⟨-, response, hresponse, -⟩ := h Bool exampleFloats ⟨true, true, true, 0, 0⟩
    (some fun _ => .error []) { GuiIpcRequest.cleared with payloadSize := -1 } [] rfl rfl
  cases hresponse

end Handler

end Smile2Unlock.GuiIpc
