/-
  Smile2Unlock.GuiIpc.PayloadFields

  The four requests whose payload is joined with `|`: `ADD_USER`, `UPDATE_USER`,
  `DELETE_FACE` and `CAPTURE_AND_ADD_FACE`.

  A handler searches one separator after the other and looks only then whether all were
  found.  The search behind a separator that is missing starts at `npos + 1`, which is 0;
  `addUser_eq` and `updateUser_eq` say that it does no harm.  So a payload is malformed
  exactly if it has too few separators or an id that `parse_int` rejects, and what is not
  malformed reaches the backend as it was joined (`handlesPayload`).
-/

import Mathlib.Data.List.Count
import Smile2Unlock.GuiIpc.UserArguments

namespace Smile2Unlock.GuiIpc

open Smile2Unlock Lib
open RemoteBackendService (joinUser)

variable {F : Type}

-- ============================================================================
-- What a payload says
-- ============================================================================

/-- The separators that a payload needs. -/
def separators : GuiIpcCommand → Nat
  | .addUser => 2
  | .updateUser => 3
  | .deleteFace | .captureAndAddFace => 1
  | _ => 0

/-- The id texts of a payload, by its first `|`. -/
def idTexts (payload : Bytes) : GuiIpcCommand → List Bytes
  | .updateUser | .captureAndAddFace => [payload.takeWhile (· ≠ bar)]
  | .deleteFace => [payload.takeWhile (· ≠ bar), (payload.dropWhile (· ≠ bar)).tail]
  | _ => []

/-- Too few separators, or an id that is no number. -/
def Malformed (command : GuiIpcCommand) (payload : Bytes) : Prop :=
  payload.count bar < separators command ∨ ∃ text ∈ idTexts payload command, parseInt text = none

/-- The arguments of a call, joined again, are the payload; an id stands for its text.
    No field but the last has a `|`. -/
def Rejoins : GuiIpcCommand → Bytes → BackendCall F → Prop
  | .addUser, payload, .addUser username password remark =>
      payload = joinUser username password remark ∧ bar ∉ username ∧ bar ∉ password
  | .updateUser, payload, .updateUser userId username password remark =>
      ∃ idText, parseInt idText = some userId ∧
        payload = idText ++ bar :: joinUser username password remark ∧
        bar ∉ idText ∧ bar ∉ username ∧ bar ∉ password
  | .deleteFace, payload, .deleteFace userId faceId =>
      ∃ userText faceText, parseInt userText = some userId ∧ parseInt faceText = some faceId ∧
        payload = userText ++ bar :: faceText ∧ bar ∉ userText
  | .captureAndAddFace, payload, .captureAndAddFace userId remark =>
      ∃ idText, parseInt idText = some userId ∧ payload = idText ++ bar :: remark ∧ bar ∉ idText
  | _, _, _ => False

-- ============================================================================
-- What a handler does
-- ============================================================================

variable (response : GuiIpcResponse)

/-- A failure is answered, and the backend is not called. -/
def Rejected (handling : Handling F) : Prop :=
  ∀ backend : Backend F, (Handler.run response backend handling).1 = [] ∧
    (Handler.run response backend handling).2.status = GuiIpcStatus.failure.code

/-- The backend is called once, with arguments that make up the payload. -/
def CalledOnce (command : GuiIpcCommand) (payload : Bytes) (handling : Handling F) : Prop :=
  ∃ call, Rejoins command payload call ∧
    ∀ backend : Backend F, (Handler.run response backend handling).1 = [call]

/-- A malformed payload is rejected, any other one leads to one call. -/
structure HandlesPayload (command : GuiIpcCommand) (payload : Bytes) (handling : Handling F) :
    Prop where
  rejected_iff : Rejected response handling ↔ Malformed command payload
  calledOnce_iff : CalledOnce response command payload handling ↔ ¬ Malformed command payload

theorem rejected_setError (message : Bytes) :
    Rejected response (.respond (response.setError message) : Handling F) := fun _ => ⟨rfl, rfl⟩

theorem not_calledOnce_of_rejected {command : GuiIpcCommand} {payload : Bytes}
    {handling : Handling F} (h : Rejected response handling) :
    ¬ CalledOnce response command payload handling := by
  rintro ⟨call, -, hcall⟩
  have hnone := (h fun _ => .error []).1
  rw [hcall] at hnone
  cases hnone

/-- A handler that answers an error has to have found the payload malformed. -/
theorem handlesPayload_setError {command : GuiIpcCommand} {payload : Bytes}
    (h : Malformed command payload) (message : Bytes) :
    HandlesPayload response command payload
      (.respond (response.setError message) : Handling F) where
  rejected_iff := iff_of_true (rejected_setError response message) h
  calledOnce_iff := iff_of_false
    (not_calledOnce_of_rejected response (rejected_setError response message)) (not_not_intro h)

/-- One that calls has to have split it. -/
theorem handlesPayload_call {command : GuiIpcCommand} {payload : Bytes} {call : BackendCall F}
    {answer : call.Result → GuiIpcResponse} (hwell : ¬ Malformed command payload)
    (h : Rejoins command payload call) :
    HandlesPayload response command payload (.call call answer) := by
  have hcalled : CalledOnce response command payload (.call call answer) :=
    ⟨call, h, fun backend => Handler.run_fst response backend _⟩
  refine ⟨iff_of_false (fun hrejected => ?_) hwell, iff_of_true hcalled hwell⟩
  exact not_calledOnce_of_rejected response hrejected hcalled

-- ============================================================================
-- Separators and ids
-- ============================================================================

theorem malformed_of_none {command : GuiIpcCommand} {payload : Bytes}
    (hneeds : 0 < separators command) (h : splitAtFirst bar payload = none) :
    Malformed command payload := by
  refine .inl ?_
  rw [count_of_splitAtFirst_none h]
  exact hneeds

theorem not_malformed {command : GuiIpcCommand} {payload : Bytes}
    (hcount : separators command ≤ payload.count bar)
    (hids : ∀ text ∈ idTexts payload command, parseInt text ≠ none) :
    ¬ Malformed command payload := by
  rintro (hfew | ⟨text, hmem, hnone⟩)
  · exact absurd hcount (Nat.not_le.mpr hfew)
  · exact hids text hmem hnone

/-- One separator is enough where a payload is split once. -/
theorem one_le_count {payload a b : Bytes} (h : splitAtFirst bar payload = some (a, b)) :
    1 ≤ payload.count bar := by
  rw [count_of_splitAtFirst h]
  exact Nat.succ_le_succ (Nat.zero_le _)

theorem parseInt_ne_none {text : Bytes} {id : Int} (h : parseInt text = some id) :
    parseInt text ≠ none := by
  rw [h]
  exact Option.some_ne_none id

-- ============================================================================
-- The four handlers
-- ============================================================================

theorem count_of_splitUser_none {payload : Bytes} (h : splitUser payload = none) :
    payload.count bar < 2 := by
  rw [splitUser] at h
  cases hfirst : splitAtFirst bar payload with
  | none =>
      rw [count_of_splitAtFirst_none hfirst]
      decide
  | some parts =>
      simp only [hfirst] at h
      cases hsecond : splitAtFirst bar parts.2 with
      | none =>
          rw [count_of_splitAtFirst hfirst, count_of_splitAtFirst_none hsecond]
          decide
      | some rest =>
          simp only [hsecond] at h
          cases h

theorem le_count_joinUser (username password remark : Bytes) :
    2 ≤ (joinUser username password remark).count bar := by
  rw [joinUser, List.count_append, List.count_cons_self, List.count_append, List.count_cons_self]
  omega

theorem handlesPayload_addUser (payload : Bytes) :
    HandlesPayload response .addUser payload (Handler.addUser (F := F) response payload) := by
  rw [addUser_eq]
  cases hsplit : splitUser payload with
  | none => exact handlesPayload_setError response (.inl (count_of_splitUser_none hsplit)) _
  | some fields =>
      obtain ⟨username, password, remark⟩ := fields
      have hjoin := splitUser_eq_some_iff.mp hsplit
      refine handlesPayload_call response (not_malformed ?_ ?_) hjoin
      · rw [hjoin.1]
        exact le_count_joinUser username password remark
      · intro text htext
        cases htext

theorem handlesPayload_updateUser (payload : Bytes) :
    HandlesPayload response .updateUser payload
      (Handler.updateUser (F := F) response payload) := by
  rw [updateUser_eq]
  cases hfirst : splitAtFirst bar payload with
  | none => exact handlesPayload_setError response (malformed_of_none (by decide) hfirst) _
  | some parts =>
      obtain ⟨idText, rest⟩ := parts
      have hcount := count_of_splitAtFirst hfirst
      obtain ⟨htext, -⟩ := takeWhile_of_splitAtFirst hfirst
      obtain ⟨hpayload, hidText⟩ := splitAtFirst_eq_some_iff.mp hfirst
      dsimp only
      cases hsplit : splitUser rest with
      | none =>
          refine handlesPayload_setError response (.inl ?_) _
          rw [hcount]
          exact Nat.succ_lt_succ (count_of_splitUser_none hsplit)
      | some fields =>
          obtain ⟨username, password, remark⟩ := fields
          obtain ⟨hrest, husername, hpassword⟩ := splitUser_eq_some_iff.mp hsplit
          dsimp only
          cases hid : parseInt idText with
          | none =>
              refine handlesPayload_setError response (.inr ⟨idText, ?_, hid⟩) _
              exact List.mem_singleton.mpr htext.symm
          | some userId =>
              dsimp only
              refine handlesPayload_call response (not_malformed ?_ ?_)
                ⟨idText, hid, hrest ▸ hpayload, hidText, husername, hpassword⟩
              · rw [hcount, hrest]
                exact Nat.succ_le_succ (le_count_joinUser username password remark)
              · intro text hmem
                rw [List.mem_singleton.mp hmem, htext]
                exact parseInt_ne_none hid

theorem handlesPayload_deleteFace (payload : Bytes) :
    HandlesPayload response .deleteFace payload
      (Handler.deleteFace (F := F) response payload) := by
  rw [Handler.deleteFace, find_zero]
  cases hfirst : splitAtFirst bar payload with
  | none => exact handlesPayload_setError response (malformed_of_none (by decide) hfirst) _
  | some parts =>
      obtain ⟨userText, faceText⟩ := parts
      obtain ⟨huser, hface⟩ := takeWhile_of_splitAtFirst hfirst
      obtain ⟨hpayload, huserText⟩ := splitAtFirst_eq_some_iff.mp hfirst
      have hids : idTexts payload .deleteFace = [userText, faceText] := by
        rw [idTexts, huser, hface]
      obtain ⟨htake, hdrop⟩ := take_drop_of_splitAtFirst hfirst
      simp only [Option.map_some, htake, hdrop]
      cases huserId : parseInt userText with
      | none =>
          refine handlesPayload_setError response (.inr ⟨userText, ?_, huserId⟩) _
          rw [hids]
          exact List.mem_cons_self
      | some userId =>
          cases hfaceId : parseInt faceText with
          | none =>
              refine handlesPayload_setError response (.inr ⟨faceText, ?_, hfaceId⟩) _
              rw [hids]
              exact List.mem_cons_of_mem _ List.mem_cons_self
          | some faceId =>
              refine handlesPayload_call response (not_malformed (one_le_count hfirst) ?_)
                ⟨userText, faceText, huserId, hfaceId, hpayload, huserText⟩
              intro text hmem
              rw [hids, List.mem_cons, List.mem_singleton] at hmem
              rcases hmem with rfl | rfl
              · exact parseInt_ne_none huserId
              · exact parseInt_ne_none hfaceId

theorem handlesPayload_captureAndAddFace (payload : Bytes) :
    HandlesPayload response .captureAndAddFace payload
      (Handler.captureAndAddFace (F := F) response payload) := by
  rw [Handler.captureAndAddFace, find_zero]
  cases hfirst : splitAtFirst bar payload with
  | none => exact handlesPayload_setError response (malformed_of_none (by decide) hfirst) _
  | some parts =>
      obtain ⟨idText, remark⟩ := parts
      obtain ⟨htext, -⟩ := takeWhile_of_splitAtFirst hfirst
      obtain ⟨hpayload, hidText⟩ := splitAtFirst_eq_some_iff.mp hfirst
      obtain ⟨htake, hdrop⟩ := take_drop_of_splitAtFirst hfirst
      have hjoin : payload = idText ++ bar :: payload.drop (idText.length + 1) := by
        rw [hdrop]
        exact hpayload
      simp only [Option.map_some, htake]
      cases hid : parseInt idText with
      | none =>
          refine handlesPayload_setError response (.inr ⟨idText, ?_, hid⟩) _
          exact List.mem_singleton.mpr htext.symm
      | some userId =>
          refine handlesPayload_call response (not_malformed (one_le_count hfirst) ?_)
            ⟨idText, hid, hjoin, hidText⟩
          intro text hmem
          rw [List.mem_singleton.mp hmem, htext]
          exact parseInt_ne_none hid

/-- Each of the four handlers rejects exactly the malformed payloads, with a failure and
    without a call, and calls the backend once with the parts of any other one. -/
theorem handlesPayload (response : GuiIpcResponse) (payload : Bytes) :
    HandlesPayload response .addUser payload (Handler.addUser (F := F) response payload) ∧
    HandlesPayload response .updateUser payload
      (Handler.updateUser (F := F) response payload) ∧
    HandlesPayload response .deleteFace payload
      (Handler.deleteFace (F := F) response payload) ∧
    HandlesPayload response .captureAndAddFace payload
      (Handler.captureAndAddFace (F := F) response payload) :=
  ⟨handlesPayload_addUser response payload, handlesPayload_updateUser response payload,
    handlesPayload_deleteFace response payload, handlesPayload_captureAndAddFace response payload⟩

end Smile2Unlock.GuiIpc
