/-
  Smile2Unlock.GuiIpc.StatusTexts

  `GetDllStatus` and `GetRecognitionResult` over the pipe: the service writes a record as
  lines `key=value`, the client reads them back into a new record.

  `lines_keyLines` takes such a text apart, whatever fields it has.  `getDllStatus_value`
  and `getRecognitionResult_value` say what the client gets: of a `DllStatus` everything
  but the two fields that neither side of the pipe knows (`sameValues_iff`).
-/

import Mathlib.Algebra.Ring.BooleanRing
import Smile2Unlock.GuiIpc.ConfigText

namespace Smile2Unlock.GuiIpc

open Smile2Unlock Lib
open Smile2Unlock.Service (RecognitionResult)
open Handler (keyLine flag dllStatusText recognitionResultText)

-- ============================================================================
-- The client's readers
-- ============================================================================

namespace RemoteBackendService

variable (io : ClientIo) (remote : RemoteBackendService)

/-- `DllStatus status;` -/
def newDllStatus : DllStatus := ⟨false, false, [], [], [], [], [], [], false, false⟩

/-- A line of `parse_dll_status`. -/
def readDllStatusLine (status : DllStatus) (line : Bytes) : DllStatus :=
  match splitAtFirst equals line with
  | none => status
  | some (key, val) =>
      if key = utf8 "is_injected" then { status with isInjected := val = utf8 "1" }
      else if key = utf8 "is_registry_configured" then
        { status with isRegistryConfigured := val = utf8 "1" }
      else if key = utf8 "source_path" then { status with sourcePath := val }
      else if key = utf8 "target_path" then { status with targetPath := val }
      else if key = utf8 "source_hash" then { status with sourceHash := val }
      else if key = utf8 "target_hash" then { status with targetHash := val }
      else if key = utf8 "source_version" then { status with sourceVersion := val }
      else if key = utf8 "target_version" then { status with targetVersion := val }
      else status

/-- `parse_dll_status`. -/
def parseDllStatus (data : Bytes) (status : DllStatus) : DllStatus :=
  (lines newline data).foldl readDllStatusLine status

/-- `GetDllStatus`. -/
def getDllStatus : Called DllStatus :=
  let exchanged := sendRequest io remote .getDllStatus []
  ⟨if exchanged.ok then parseDllStatus (exchanged.response.payload.readText io.beyond) newDllStatus
    else newDllStatus, exchanged.remote, exchanged.written⟩

variable {F : Type} [Zero F] (ft : FloatText F)

/-- `RecognitionResult result;` -/
def newRecognitionResult : RecognitionResult F := ⟨false, [], 0, []⟩

omit [Zero F] in
/-- A line of `parse_recognition_result`. -/
def readResultLine (result : RecognitionResult F) (line : Bytes) :
    Except StdException (RecognitionResult F) :=
  match splitAtFirst equals line with
  | none => .ok result
  | some (key, val) =>
      if key = utf8 "success" then .ok { result with success := val = utf8 "1" }
      else if key = utf8 "username" then .ok { result with username := val }
      else if key = utf8 "confidence" then
        (ft.stof val).map fun read => { result with confidence := read.1 }
      else if key = utf8 "error_message" then .ok { result with errorMessage := val }
      else .ok result

/-- `parse_recognition_result`. -/
def parseRecognitionResult (data : Bytes) : Except StdException (RecognitionResult F) :=
  (lines newline data).foldlM (readResultLine ft) newRecognitionResult

/-- `GetRecognitionResult`. -/
def getRecognitionResult : Called (Except StdException (RecognitionResult F)) :=
  let exchanged := sendRequest io remote .getRecognitionResult []
  ⟨if exchanged.ok then parseRecognitionResult ft (exchanged.response.payload.readText io.beyond)
    else .ok newRecognitionResult, exchanged.remote, exchanged.written⟩

end RemoteBackendService

-- ============================================================================
-- Texts of lines with a key
-- ============================================================================

/-- A record as lines `key=value`. -/
def keyLines (fields : List (String × Bytes)) : Bytes :=
  fields.flatMap fun field => keyLine field.1 field.2

/-- A value that stays on its line and in its C string. -/
def OneLine (value : Bytes) : Prop := newline ∉ value ∧ 0 ∉ value

instance (value : Bytes) : Decidable (OneLine value) := inferInstanceAs (Decidable (_ ∧ _))

/-- Every line of the text is one field. -/
theorem lines_keyLines {fields : List (String × Bytes)}
    (h : ∀ field ∈ fields, IsKey field.1 ∧ newline ∉ field.2) :
    lines newline (keyLines fields) = fields.map fun field => keyed field.1 field.2 := by
  induction fields with
  | nil => rfl
  | cons field rest ih =>
      obtain ⟨⟨hkey, hvalue⟩, hrest⟩ := List.forall_mem_cons.mp h
      have hcons : keyLines (field :: rest) = keyLine field.1 field.2 ++ keyLines rest := rfl
      rw [hcons, lines_keyLine hkey hvalue, ih hrest, List.map_cons]

theorem zero_not_mem_keyLines {fields : List (String × Bytes)}
    (h : ∀ field ∈ fields, 0 ∉ utf8 field.1 ∧ 0 ∉ field.2) : 0 ∉ keyLines fields := by
  intro hzero
  obtain ⟨field, hfield, hmem⟩ := List.mem_flatMap.mp hzero
  obtain ⟨hkey, hvalue⟩ := h field hfield
  have hseparators : (0 : UInt8) ≠ equals ∧ (0 : UInt8) ≠ newline := by decide
  simp [keyLine, hkey, hvalue, hseparators] at hmem

/-- A text of fields that fits is read back as its lines. -/
theorem arrived_keyLines {fields : List (String × Bytes)}
    (hkeys : ∀ field ∈ fields, IsKey field.1 ∧ 0 ∉ utf8 field.1)
    (hvalues : ∀ field ∈ fields, OneLine field.2) (hlength : (keyLines fields).length < kPayloadSize) :
    lines newline (cString ((keyLines fields).take (kPayloadSize - 1))) =
      fields.map fun field => keyed field.1 field.2 := by
  have hfits : (keyLines fields).take (kPayloadSize - 1) = keyLines fields :=
    List.take_of_length_le (by omega)
  have hzero : 0 ∉ keyLines fields := zero_not_mem_keyLines fun field hfield =>
    ⟨(hkeys field hfield).2, (hvalues field hfield).2⟩
  rw [hfits, cString_eq_self hzero, lines_keyLines fun field hfield =>
    ⟨(hkeys field hfield).1, (hvalues field hfield).1⟩]

theorem oneLine_flag (value : Bool) : OneLine (flag value) := newline_not_mem_flag value

-- ============================================================================
-- DllStatus
-- ============================================================================

/-- The lines of a `DllStatus`. -/
def dllStatusFields (status : DllStatus) : List (String × Bytes) :=
  [("is_injected", flag status.isInjected),
    ("is_registry_configured", flag status.isRegistryConfigured),
    ("source_path", status.sourcePath), ("target_path", status.targetPath),
    ("source_hash", status.sourceHash), ("target_hash", status.targetHash),
    ("source_version", status.sourceVersion), ("target_version", status.targetVersion)]

theorem dllStatusText_eq (status : DllStatus) :
    dllStatusText status = keyLines (dllStatusFields status) := by
  simp [dllStatusText, keyLines, dllStatusFields]

/-- The strings of a `DllStatus` are one-line texts. -/
structure DllStatus.OneLines (status : DllStatus) : Prop where
  sourcePath : OneLine status.sourcePath
  targetPath : OneLine status.targetPath
  sourceHash : OneLine status.sourceHash
  targetHash : OneLine status.targetHash
  sourceVersion : OneLine status.sourceVersion
  targetVersion : OneLine status.targetVersion

/-- The client's reading of a line, for each key of the text. -/
theorem readDllStatusLine_keyed (s : DllStatus) (value : Bytes) :
    RemoteBackendService.readDllStatusLine s (keyed "is_injected" value) =
      { s with isInjected := value = utf8 "1" } ∧
    RemoteBackendService.readDllStatusLine s (keyed "is_registry_configured" value) =
      { s with isRegistryConfigured := value = utf8 "1" } ∧
    RemoteBackendService.readDllStatusLine s (keyed "source_path" value) =
      { s with sourcePath := value } ∧
    RemoteBackendService.readDllStatusLine s (keyed "target_path" value) =
      { s with targetPath := value } ∧
    RemoteBackendService.readDllStatusLine s (keyed "source_hash" value) =
      { s with sourceHash := value } ∧
    RemoteBackendService.readDllStatusLine s (keyed "target_hash" value) =
      { s with targetHash := value } ∧
    RemoteBackendService.readDllStatusLine s (keyed "source_version" value) =
      { s with sourceVersion := value } ∧
    RemoteBackendService.readDllStatusLine s (keyed "target_version" value) =
      { s with targetVersion := value } := by
  refine ⟨?_, ?_, ?_, ?_, ?_, ?_, ?_, ?_⟩
  all_goals
    rw [RemoteBackendService.readDllStatusLine, splitAtFirst_keyed (by decide)]
    rfl

/-- The client reads every line of the text into its field; two fields have no line. -/
theorem foldl_readDllStatusLine (status new : DllStatus) :
    ((dllStatusFields status).map fun field => keyed field.1 field.2).foldl
      RemoteBackendService.readDllStatusLine new =
      { status with hashMatch := new.hashMatch, versionMatch := new.versionMatch } := by
  simp only [dllStatusFields, List.map_cons, List.map_nil, List.foldl_cons, List.foldl_nil,
    readDllStatusLine_keyed, flag_eq_one]

section

variable {F : Type} (service : PipeService F) (now : Int64) (beyond : Bytes)
  (remote : RemoteBackendService)

/-- The client gets the status that the backend returns, without the two comparisons. -/
theorem getDllStatus_value {status : DllStatus}
    (hbackend : service.backend .getDllStatus = .ok status) (hlines : status.OneLines)
    (hlength : (dllStatusText status).length < kPayloadSize) :
    (remote.getDllStatus (service.clientIo now beyond)).value =
      { status with hashMatch := false, versionMatch := false } := by
  have hran : ∀ request, (service.ran .getDllStatus [] request).2 =
      (Handler.opened request).setPayloadText (dllStatusText status) .success := by
    intro request
    rw [PipeService.ran]
    show (Handler.run _ _ (.call .getDllStatus _)).2 = _
    rw [Handler.run, hbackend]
  obtain ⟨hok, htext⟩ := service.sendRequest_text .getDllStatus now beyond [] remote hran
  have hkeys : ∀ field ∈ dllStatusFields status, IsKey field.1 ∧ 0 ∉ utf8 field.1 := by
    simp only [dllStatusFields, List.forall_mem_cons]
    decide
  have hvalues : ∀ field ∈ dllStatusFields status, OneLine field.2 := by
    simp only [dllStatusFields, List.forall_mem_cons]
    exact ⟨oneLine_flag _, oneLine_flag _, hlines.sourcePath, hlines.targetPath,
      hlines.sourceHash, hlines.targetHash, hlines.sourceVersion, hlines.targetVersion,
      List.forall_mem_nil _⟩
  rw [dllStatusText_eq] at hlength
  rw [RemoteBackendService.getDllStatus]
  dsimp only
  rw [if_pos hok, htext, dllStatusText_eq, RemoteBackendService.parseDllStatus,
    arrived_keyLines hkeys hvalues hlength, foldl_readDllStatusLine]
  rfl

end

-- ============================================================================
-- RecognitionResult
-- ============================================================================

variable {F : Type} {ft : FloatText F}

/-- The lines of a `RecognitionResult`. -/
def recognitionResultFields (ft : FloatText F) (result : RecognitionResult F) :
    List (String × Bytes) :=
  [("success", flag result.success), ("username", result.username),
    ("confidence", ft.print result.confidence), ("error_message", result.errorMessage)]

theorem recognitionResultText_eq (ft : FloatText F) (result : RecognitionResult F) :
    recognitionResultText ft result = keyLines (recognitionResultFields ft result) := by
  simp [recognitionResultText, keyLines, recognitionResultFields]

/-- The strings of a `RecognitionResult` are one-line texts. -/
structure ResultOneLines (result : RecognitionResult F) : Prop where
  username : OneLine result.username
  errorMessage : OneLine result.errorMessage

/-- The two results agree in every field, the confidence in its printed form. -/
def SameResult (ft : FloatText F) (result result' : RecognitionResult F) : Prop :=
  result.success = result'.success ∧ result.username = result'.username ∧
    ft.print result.confidence = ft.print result'.confidence ∧
    result.errorMessage = result'.errorMessage

/-- The client's reading of a line, for each key of the text. -/
theorem readResultLine_keyed (ft : FloatText F) (r : RecognitionResult F) (value : Bytes) :
    RemoteBackendService.readResultLine ft r (keyed "success" value) =
      .ok { r with success := value = utf8 "1" } ∧
    RemoteBackendService.readResultLine ft r (keyed "username" value) =
      .ok { r with username := value } ∧
    RemoteBackendService.readResultLine ft r (keyed "confidence" value) =
      (ft.stof value).map (fun read => { r with confidence := read.1 }) ∧
    RemoteBackendService.readResultLine ft r (keyed "error_message" value) =
      .ok { r with errorMessage := value } := by
  refine ⟨?_, ?_, ?_, ?_⟩
  all_goals
    rw [RemoteBackendService.readResultLine, splitAtFirst_keyed (by decide)]
    rfl

theorem foldlM_readResultLine {result : RecognitionResult F} {y : F} {pos : Nat}
    (hread : ft.stof (ft.print result.confidence) = .ok (y, pos)) (new : RecognitionResult F) :
    ((recognitionResultFields ft result).map fun field => keyed field.1 field.2).foldlM
      (RemoteBackendService.readResultLine ft) new = .ok { result with confidence := y } := by
  simp only [recognitionResultFields, List.map_cons, List.map_nil, List.foldlM_cons,
    List.foldlM_nil, readResultLine_keyed, flag_eq_one, hread, bind, Except.bind, Except.map]
  rfl

section

variable [Zero F] (service : PipeService F) (now : Int64) (beyond : Bytes)
  (remote : RemoteBackendService)

/-- The client gets the result that the backend returns, with the confidence as it was
    printed. -/
theorem getRecognitionResult_value {result : RecognitionResult F}
    (hbackend : service.backend .getRecognitionResult = .ok result)
    (hlines : ResultOneLines result)
    (hlength : (recognitionResultText service.ft result).length < kPayloadSize) {y : F} {pos : Nat}
    (hread : service.ft.stof (service.ft.print result.confidence) = .ok (y, pos)) :
    (remote.getRecognitionResult (service.clientIo now beyond) service.ft).value =
      .ok { result with confidence := y } := by
  have hran : ∀ request, (service.ran .getRecognitionResult [] request).2 =
      (Handler.opened request).setPayloadText (recognitionResultText service.ft result) .success := by
    intro request
    rw [PipeService.ran]
    show (Handler.run _ _ (.call .getRecognitionResult _)).2 = _
    rw [Handler.run, hbackend]
  obtain ⟨hok, htext⟩ :=
    service.sendRequest_text .getRecognitionResult now beyond [] remote hran
  have hkeys : ∀ field ∈ recognitionResultFields service.ft result,
      IsKey field.1 ∧ 0 ∉ utf8 field.1 := by
    simp only [recognitionResultFields, List.forall_mem_cons]
    decide
  have hvalues : ∀ field ∈ recognitionResultFields service.ft result, OneLine field.2 := by
    simp only [recognitionResultFields, List.forall_mem_cons]
    exact ⟨oneLine_flag _, hlines.username, not_mem_print service.ft _, hlines.errorMessage,
      List.forall_mem_nil _⟩
  rw [recognitionResultText_eq] at hlength
  rw [RemoteBackendService.getRecognitionResult]
  dsimp only
  rw [if_pos hok, htext, recognitionResultText_eq, RemoteBackendService.parseRecognitionResult,
    arrived_keyLines hkeys hvalues hlength, foldlM_readResultLine hread]

-- ============================================================================
-- Both calls
-- ============================================================================

/-- The client gets, field by field, the values that the service's backend returns. -/
def SameValues (status : DllStatus) (result : RecognitionResult F) : Prop :=
  (remote.getDllStatus (service.clientIo now beyond)).value = status ∧
    ∃ result', (remote.getRecognitionResult (service.clientIo now beyond) service.ft).value =
      .ok result' ∧ SameResult service.ft result' result

/-- One-line texts that fit and a confidence that is read as it was printed arrive
    unchanged exactly if both comparisons of the status are false. -/
theorem sameValues_iff {status : DllStatus} {result : RecognitionResult F}
    (hstatus : service.backend .getDllStatus = .ok status)
    (hresult : service.backend .getRecognitionResult = .ok result)
    (hstatusLines : status.OneLines) (hresultLines : ResultOneLines result)
    (hstatusLength : (dllStatusText status).length < kPayloadSize)
    (hresultLength : (recognitionResultText service.ft result).length < kPayloadSize)
    (hconfidence : service.ft.ReadsPrint result.confidence) :
    SameValues service now beyond remote status result ↔
      status.hashMatch = false ∧ status.versionMatch = false := by
  obtain ⟨y, pos, hread, hprint⟩ := hconfidence
  have hgetStatus := getDllStatus_value service now beyond remote hstatus hstatusLines hstatusLength
  have hgetResult :=
    getRecognitionResult_value service now beyond remote hresult hresultLines hresultLength hread
  rw [SameValues, hgetStatus, hgetResult]
  constructor
  · rintro ⟨hsame, -⟩
    exact ⟨congrArg DllStatus.hashMatch hsame.symm, congrArg DllStatus.versionMatch hsame.symm⟩
  · rintro ⟨hhash, hversion⟩
    refine ⟨?_, _, rfl, rfl, rfl, hprint, rfl⟩
    cases status
    cases hhash
    cases hversion
    rfl

end

/-- A service that answers both calls. -/
def exampleStatusService (status : DllStatus) (result : RecognitionResult Bool) :
    PipeService Bool :=
  { exampleService with
    backend := fun
      | .getDllStatus => .ok status
      | .getRecognitionResult => .ok result
      | _ => .error [] }

/-- A status with a path, and a recognized user. -/
def exampleStatus (hashMatch : Bool) : DllStatus :=
  { RemoteBackendService.newDllStatus with
    isInjected := true
    sourcePath := utf8 "C:\\a=b.dll"
    hashMatch := hashMatch }

def exampleResult : RecognitionResult Bool := ⟨true, utf8 "alice", true, []⟩

theorem exampleStatus_oneLines (hashMatch : Bool) : (exampleStatus hashMatch).OneLines := by
  have hempty : OneLine [] := by decide
  have hpath : OneLine (utf8 "C:\\a=b.dll") := by decide
  exact ⟨hpath, hempty, hempty, hempty, hempty, hempty⟩

theorem exampleStatus_fits (hashMatch : Bool) :
    (dllStatusText (exampleStatus hashMatch)).length < kPayloadSize ∧
      (recognitionResultText exampleFloats exampleResult).length < kPayloadSize := by
  have hstatus : (dllStatusText (exampleStatus hashMatch)).length = 133 := rfl
  have hresult : (recognitionResultText exampleFloats exampleResult).length = 55 := rfl
  rw [hstatus, hresult]
  decide

theorem sameValues_example :
    SameValues (exampleStatusService (exampleStatus false) exampleResult) 0 [] exampleRemote
      (exampleStatus false) exampleResult := by
  have hresult : ResultOneLines exampleResult := ⟨by decide, by decide⟩
  exact (sameValues_iff (exampleStatusService (exampleStatus false) exampleResult) 0 []
    exampleRemote rfl rfl (exampleStatus_oneLines false) hresult (exampleStatus_fits false).1
    (exampleStatus_fits false).2 ⟨true, 3, rfl, rfl⟩).mpr ⟨rfl, rfl⟩

/-- A status whose hashes match arrives as one whose hashes differ. -/
theorem sameValues_fails :
    ¬ ∀ (F : Type) [Zero F] (service : PipeService F) (now : Int64) (beyond : Bytes)
      (remote : RemoteBackendService) (status : DllStatus) (result : RecognitionResult F),
      service.backend .getDllStatus = .ok status →
      service.backend .getRecognitionResult = .ok result →
      status.OneLines → ResultOneLines result →
      (dllStatusText status).length < kPayloadSize →
      (recognitionResultText service.ft result).length < kPayloadSize →
      service.ft.ReadsPrint result.confidence →
      SameValues service now beyond remote status result := by
  intro h
  have hresult : ResultOneLines exampleResult := ⟨by decide, by decide⟩
  have hstatusLength := (exampleStatus_fits true).1
  obtain ⟨hsame, -⟩ := h Bool (exampleStatusService (exampleStatus true) exampleResult) 0 []
    exampleRemote (exampleStatus true) exampleResult rfl rfl (exampleStatus_oneLines true) hresult
    hstatusLength (exampleStatus_fits true).2 ⟨true, 3, rfl, rfl⟩
  rw [getDllStatus_value _ 0 [] exampleRemote rfl (exampleStatus_oneLines true) hstatusLength] at hsame
  cases hsame

end Smile2Unlock.GuiIpc
