/-
  Smile2Unlock.GuiIpc.PreviewMapping

  Camera previews from the service to the GUI: the frame goes through a named file mapping
  that the handler keeps open, its description through the pipe.

  `Handler.mappingAfter` is what `serialize_preview_via_shared_mapping` leaves in its slot,
  `parsePreviewData` what the client makes of the answer.  `preview_value` says that the
  client has the frame of the backend; nothing of it goes through the payload, so only a
  frame of 4 GiB is too large.
-/

import Smile2Unlock.Common.Datagram
import Smile2Unlock.GuiIpc.StatusTexts

namespace Smile2Unlock.GuiIpc

open Smile2Unlock Lib
open Handler (MappingIo keyLine)

-- ============================================================================
-- The handler's mappings
-- ============================================================================

/-- `preview_transport_mapping_` and `capture_transport_mapping_`: the bytes of the object
    that each handle keeps alive. -/
structure TransportMappings where
  preview : Option Bytes
  capture : Option Bytes

namespace Handler

variable {F : Type}

/-- `mapping_name`. -/
def mappingName (io : MappingIo) (mappingTag : String) : Bytes :=
  utf8 "Local\\Smile2Unlock_GuiPreview_" ++ utf8 mappingTag ++ utf8 "_" ++
    Decimal.nat io.processId.toNat

/-- What `serialize_preview_via_shared_mapping` leaves in its slot; the old mapping is closed
    first, whatever follows. -/
def mappingAfter (io : MappingIo) (preview : Preview) : Option Bytes :=
  if io.securityBuilt = false then none
  else if 4294967295 < preview.imageData.length then none
  else if io.created = false then none
  else if io.mapped = false then none
  -- a mapping has at least one byte
  else some (if preview.imageData = [] then [0] else preview.imageData)

/-- The slots after a command. -/
def mappingsAfter (io : MappingIo) (backend : Backend F) (mappings : TransportMappings) :
    Option GuiIpcCommand → TransportMappings
  | some .getLatestPreview =>
      match backend .getLatestCameraPreview with
      | .ok preview =>
          if preview.ok then { mappings with preview := mappingAfter io preview } else mappings
      | .error _ => mappings
  | some .capturePreviewFrame =>
      match backend .capturePreviewFrame with
      | .ok preview =>
          if preview.ok then { mappings with capture := mappingAfter io preview } else mappings
      | .error _ => mappings
  | _ => mappings

end Handler

/-- The object that has a name, if the handler keeps it. -/
def TransportMappings.named (mappings : TransportMappings) (io : MappingIo) (name : Bytes) :
    Option Bytes :=
  if name = Handler.mappingName io "stream" then mappings.preview
  else if name = Handler.mappingName io "capture" then mappings.capture
  else none

/-- The slots of the service after a request that was read in full. -/
def PipeService.mappingsFor {F : Type} (service : PipeService F) (mappings : TransportMappings) :
    Option GuiIpcRequest → TransportMappings
  | none => mappings
  | some request =>
      if request.magic ≠ guiIpcMagic then mappings
      else if request.version ≠ guiIpcVersion then mappings
      else if request.payloadSize < 0 then mappings
      else Handler.mappingsAfter service.io service.backend mappings
        (GuiIpcCommand.ofCode request.command)

-- ============================================================================
-- The client
-- ============================================================================

namespace RemoteBackendService

/-- What Windows does while the client reads a mapping. -/
structure ViewIo where
  opens : Bool
  maps : Bool
  lastError : UInt32

/-- The message of a step that failed. -/
def viewError (io : ViewIo) (what : String) : Bytes :=
  utf8 what ++ utf8 " failed (GetLastError=" ++ Decimal.nat io.lastError.toNat ++ utf8 ")"

/-- The end of `parse_preview_data` for a mapping; a view longer than the object cannot be
    mapped. -/
def readMapping (io : ViewIo) (named : Bytes → Option Bytes) (name : Bytes) (imageBytes : Nat)
    (args : Preview) : Preview :=
  match if io.opens then named (cString name) else none with
  | none => { args with ok := false, errorMessage := viewError io "OpenFileMapping" }
  | some object =>
      if io.maps = false ∨ object.length < (if imageBytes = 0 then 1 else imageBytes) then
        { args with ok := false, errorMessage := viewError io "MapViewOfFile" }
      else { args with ok := true, imageData := object.take imageBytes }

/-- `fields[key] = value`; the newest value of a key comes first. -/
def addField (fields : List (Bytes × Bytes)) (line : Bytes) : List (Bytes × Bytes) :=
  match splitAtFirst equals line with
  | none => fields
  | some field => field :: fields

/-- The numbers of a descriptor; `width` may have been written before `height` fails. -/
def readDescriptor (io : ViewIo) (named : Bytes → Option Bytes)
    (mapName imageBytes width height : Bytes) (args : Preview) : Preview :=
  let failed := { args with
    ok := false, errorMessage := utf8 "Invalid preview descriptor numeric field" }
  match stoul imageBytes with
  | .error _ => failed
  | .ok imageBytes =>
      match stoi width with
      | .error _ => failed
      | .ok (width, _) =>
          match stoi height with
          | .error _ => { failed with width := width }
          | .ok (height, _) =>
              readMapping io named mapName imageBytes { args with width := width, height := height }

/-- The binary format of `parse_preview_data`. -/
def readBinaryPreview (data : Bytes) (args : Preview) : Preview :=
  if data.length < 12 then
    { args with ok := false, errorMessage := utf8 "Invalid preview data: too short" }
  else
    let args := { args with
      width := (uint32At 0 data).toInt32.toInt, height := (uint32At 4 data).toInt32.toInt }
    let dataSize := (uint32At 8 data).toInt32.toInt
    if dataSize < 0 ∨ data.length < 12 + dataSize.toNat then
      { args with ok := false, errorMessage := utf8 "Invalid preview data: size mismatch" }
    else { args with ok := true, imageData := (data.drop 12).take dataSize.toNat }

/-- `parse_preview_data`: the result and the four arguments after it; `named` are the
    objects that can be opened. -/
def parsePreviewData (io : ViewIo) (named : Bytes → Option Bytes) (data : Bytes) (args : Preview) :
    Preview :=
  if (utf8 "transport=shared_memory\n").isPrefixOf data then
    let fields := (lines newline data).foldl addField []
    match fields.lookup (utf8 "map_name"), fields.lookup (utf8 "image_bytes"),
      fields.lookup (utf8 "width"), fields.lookup (utf8 "height") with
    | some mapName, some imageBytes, some width, some height =>
        readDescriptor io named mapName imageBytes width height args
    | _, _, _, _ =>
        { args with ok := false, errorMessage := utf8 "Invalid preview descriptor" }
  else readBinaryPreview data args

variable (io : ClientIo) (viewIo : ViewIo) (named : Option GuiIpcRequest → Bytes → Option Bytes)
  (remote : RemoteBackendService) (args : Preview)

/-- `GetLatestCameraPreview`; `named` are the objects after a request, `args` the arguments
    before the call. -/
def getLatestCameraPreview : Called (Except StdException Preview) :=
  let exchanged := sendRequest io remote .getLatestPreview []
  let response := exchanged.response
  let value :=
    if exchanged.ok then
      -- the payload with its size, not as a C string
      if response.payloadSize < 0 then .error .lengthError
      else .ok (parsePreviewData viewIo (named exchanged.written)
        ((response.payload.bytes ++ io.beyond).take response.payloadSize.toInt.toNat) args)
    else .ok { args with ok := false, errorMessage := response.payload.readText io.beyond }
  ⟨value, exchanged.remote, exchanged.written⟩

/-- `CapturePreviewFrame`. -/
def capturePreviewFrame : Called (Except StdException Preview) :=
  let exchanged := sendRequest io remote .capturePreviewFrame []
  let text := exchanged.response.payload.readText io.beyond
  let value :=
    if exchanged.ok then parsePreviewData viewIo (named exchanged.written) text args
    else { args with ok := false, errorMessage := text }
  ⟨.ok value, exchanged.remote, exchanged.written⟩

end RemoteBackendService

-- ============================================================================
-- The descriptor
-- ============================================================================

/-- The lines of the text that `serialize_preview_via_shared_mapping` writes. -/
def descriptorFields (io : MappingIo) (mappingTag : String) (preview : Preview) :
    List (String × Bytes) :=
  [("transport", utf8 "shared_memory"), ("map_name", Handler.mappingName io mappingTag),
    ("width", toText preview.width), ("height", toText preview.height), ("channels", utf8 "3"),
    ("image_bytes", Decimal.nat preview.imageData.length), ("compression", utf8 "0")]

/-- Windows builds, creates and maps what the handler asks for. -/
structure Handler.MappingIo.Succeeds (io : MappingIo) : Prop where
  securityBuilt : io.securityBuilt = true
  created : io.created = true
  mapped : io.mapped = true

/-- A frame that a descriptor can describe. -/
structure Preview.Fits (preview : Preview) : Prop where
  length : preview.imageData.length ≤ 4294967295
  width : IsInt preview.width
  height : IsInt preview.height

theorem serializePreview_eq (response : GuiIpcResponse) {io : MappingIo} (hio : io.Succeeds)
    (mappingTag : String) {preview : Preview} (h : preview.Fits) :
    Handler.serializePreview response io mappingTag preview =
      response.setPayloadText (keyLines (descriptorFields io mappingTag preview)) .success := by
  have hlength := h.length
  rw [Handler.serializePreview, if_neg (by simp [hio.securityBuilt]), if_neg (by omega),
    if_neg (by simp [hio.created]), if_neg (by simp [hio.mapped])]
  simp [keyLines, descriptorFields, Handler.mappingName]

/-- The bytes of the mapping that holds a frame. -/
def storedFrame (image : Bytes) : Bytes := if image = [] then [0] else image

theorem mappingAfter_eq {io : MappingIo} (hio : io.Succeeds) {preview : Preview}
    (h : preview.Fits) :
    Handler.mappingAfter io preview = some (storedFrame preview.imageData) := by
  have hlength := h.length
  rw [Handler.mappingAfter, if_neg (by simp [hio.securityBuilt]), if_neg (by omega),
    if_neg (by simp [hio.created]), if_neg (by simp [hio.mapped])]
  rfl

theorem oneLine_nat (n : Nat) : OneLine (Decimal.nat n) := by
  constructor
  · intro hmem
    exact absurd (Decimal.isDigit_of_mem_nat hmem) (by decide)
  · intro hmem
    exact absurd (Decimal.isDigit_of_mem_nat hmem) (by decide)

theorem oneLine_append {a b : Bytes} (ha : OneLine a) (hb : OneLine b) : OneLine (a ++ b) := by
  simp only [OneLine, List.mem_append, not_or]
  exact ⟨⟨ha.1, hb.1⟩, ⟨ha.2, hb.2⟩⟩

theorem oneLine_mappingName (io : MappingIo) {mappingTag : String}
    (htag : OneLine (utf8 mappingTag)) : OneLine (Handler.mappingName io mappingTag) := by
  have hhead : OneLine (utf8 "Local\\Smile2Unlock_GuiPreview_") := by decide
  have hunderscore : OneLine (utf8 "_") := by decide
  exact oneLine_append (oneLine_append (oneLine_append hhead htag) hunderscore) (oneLine_nat _)

theorem oneLine_toText (i : Int) : OneLine (toText i) :=
  ⟨not_mem_toText (by decide) (by decide) i, not_mem_toText (by decide) (by decide) i⟩

section

variable (io : MappingIo) (mappingTag : String) (htag : OneLine (utf8 mappingTag))
  (preview : Preview)

theorem isKey_descriptorFields :
    ∀ field ∈ descriptorFields io mappingTag preview, IsKey field.1 ∧ 0 ∉ utf8 field.1 := by
  simp only [descriptorFields, List.forall_mem_cons]
  decide

include htag in
theorem oneLine_descriptorFields :
    ∀ field ∈ descriptorFields io mappingTag preview, OneLine field.2 := by
  have hconstants : OneLine (utf8 "shared_memory") ∧ OneLine (utf8 "3") ∧ OneLine (utf8 "0") := by
    decide
  simp only [descriptorFields, List.forall_mem_cons]
  exact ⟨hconstants.1, oneLine_mappingName io htag, oneLine_toText _, oneLine_toText _,
    hconstants.2.1, oneLine_nat _, hconstants.2.2, List.forall_mem_nil _⟩

/-- The fields that the client finds in the lines of a record, the last one first. -/
theorem foldl_addField {fields : List (String × Bytes)}
    (h : ∀ field ∈ fields, IsKey field.1) (found : List (Bytes × Bytes)) :
    (fields.map fun field => keyed field.1 field.2).foldl RemoteBackendService.addField found =
      (fields.map fun field => (utf8 field.1, field.2)).reverse ++ found := by
  induction fields generalizing found with
  | nil => rfl
  | cons field rest ih =>
      obtain ⟨hkey, hrest⟩ := List.forall_mem_cons.mp h
      have hadd : RemoteBackendService.addField found (keyed field.1 field.2) =
          (utf8 field.1, field.2) :: found := by
        rw [RemoteBackendService.addField, splitAtFirst_keyed hkey]
      rw [List.map_cons, List.foldl_cons, hadd, ih hrest, List.map_cons, List.reverse_cons,
        List.append_assoc, List.singleton_append]

/-- A key that stands once is looked up with its value. -/
theorem lookup_of_mem {α β : Type} [BEq α] [LawfulBEq α] {l : List (α × β)} {k : α} {v : β}
    (hkeys : (l.map Prod.fst).Nodup) (h : (k, v) ∈ l) : l.lookup k = some v := by
  induction l with
  | nil => cases h
  | cons entry l ih =>
      obtain ⟨k', v'⟩ := entry
      obtain ⟨hnew, hrest⟩ := List.nodup_cons.mp hkeys
      rcases List.mem_cons.mp h with heq | hmem
      · obtain ⟨rfl, rfl⟩ := Prod.mk.inj heq
        exact List.lookup_cons_self
      · have hne : (k == k') = false := by
          refine beq_eq_false_iff_ne.mpr ?_
          rintro rfl
          exact hnew (List.mem_map.mpr ⟨_, hmem, rfl⟩)
        rw [List.lookup_cons, hne]
        exact ih hrest hmem

include htag in
/-- The client finds every line of a descriptor under its key. -/
theorem lookup_descriptorFields {key : String} {value : Bytes}
    (h : (key, value) ∈ descriptorFields io mappingTag preview) :
    ((lines newline (keyLines (descriptorFields io mappingTag preview))).foldl
      RemoteBackendService.addField []).lookup (utf8 key) = some value := by
  have hkeys := isKey_descriptorFields io mappingTag preview
  have hlines := oneLine_descriptorFields io mappingTag htag preview
  rw [lines_keyLines fun field hfield => ⟨(hkeys field hfield).1, (hlines field hfield).1⟩,
    foldl_addField fun field hfield => (hkeys field hfield).1, List.append_nil]
  refine lookup_of_mem ?_ (List.mem_reverse.mpr (List.mem_map.mpr ⟨_, h, rfl⟩))
  rw [List.map_reverse, List.nodup_reverse, List.map_map]
  simp only [descriptorFields, List.map_cons, List.map_nil, Function.comp_apply]
  decide

include htag in
/-- The client reads the frame out of the mapping that the descriptor names. -/
theorem parsePreviewData_descriptor {viewIo : RemoteBackendService.ViewIo}
    (hopens : viewIo.opens = true) (hmaps : viewIo.maps = true) {named : Bytes → Option Bytes}
    (hnamed : named (Handler.mappingName io mappingTag) = some (storedFrame preview.imageData))
    (h : preview.Fits) (args : Preview) :
    RemoteBackendService.parsePreviewData viewIo named
        (keyLines (descriptorFields io mappingTag preview)) args =
      { args with
        ok := true, imageData := preview.imageData, width := preview.width
        height := preview.height } := by
  have hlookup := @lookup_descriptorFields io mappingTag htag preview
  have hname := @hlookup "map_name" (Handler.mappingName io mappingTag) (by simp [descriptorFields])
  have hbytes := @hlookup "image_bytes" (Decimal.nat preview.imageData.length)
    (by simp [descriptorFields])
  have hwidth := @hlookup "width" (toText preview.width) (by simp [descriptorFields])
  have hheight := @hlookup "height" (toText preview.height) (by simp [descriptorFields])
  have hprefix : (utf8 "transport=shared_memory\n").isPrefixOf
      (keyLines (descriptorFields io mappingTag preview)) = true := by
    rw [List.isPrefixOf_iff_prefix]
    exact ⟨_, rfl⟩
  have hcString : cString (Handler.mappingName io mappingTag) = Handler.mappingName io mappingTag :=
    cString_eq_self (oneLine_mappingName io htag).2
  rw [RemoteBackendService.parsePreviewData, if_pos hprefix]
  dsimp only
  rw [hname, hbytes, hwidth, hheight]
  dsimp only
  rw [RemoteBackendService.readDescriptor, stoul_nat h.length, stoi_toText h.width,
    stoi_toText h.height]
  dsimp only
  rw [RemoteBackendService.readMapping, if_pos hopens, hcString, hnamed]
  dsimp only
  cases himage : preview.imageData with
  | nil =>
      rw [if_neg (by rw [hmaps]; decide)]
      rfl
  | cons b rest =>
      have hstored : storedFrame (b :: rest) = b :: rest := rfl
      have hviewed : ¬ (viewIo.maps = false ∨ (b :: rest).length <
          if (b :: rest).length = 0 then 1 else (b :: rest).length) := by
        rw [hmaps, if_neg (by rw [List.length_cons]; omega)]
        rintro (hfalse | hlt)
        · cases hfalse
        · exact absurd hlt (Nat.lt_irrefl _)
      rw [hstored, if_neg hviewed, List.take_length]

include htag in
theorem zero_not_mem_descriptor : 0 ∉ keyLines (descriptorFields io mappingTag preview) := by
  have hkeys := isKey_descriptorFields io mappingTag preview
  have hlines := oneLine_descriptorFields io mappingTag htag preview
  exact zero_not_mem_keyLines fun field hfield =>
    ⟨(hkeys field hfield).2, (hlines field hfield).2⟩

/-- A descriptor is short. -/
theorem length_descriptor (hlength : (utf8 mappingTag).length ≤ 7) (h : preview.Fits) :
    (keyLines (descriptorFields io mappingTag preview)).length < kPayloadSize := by
  have hwidth := length_toText_le h.width
  have hheight := length_toText_le h.height
  have hnat : ∀ n : Nat, n ≤ 4294967295 → (Decimal.nat n).length ≤ 11 := by
    intro n hn
    have hint : Decimal.int n = Decimal.nat n := by
      rw [Decimal.int, if_neg (by omega), Int.natAbs_natCast]
    rw [← hint]
    exact Decimal.length_int_le (by decide) (by omega)
  have hbytes := hnat _ h.length
  have hpid := hnat io.processId.toNat (by have := io.processId.toNat_lt; omega)
  have hkeys : (utf8 "transport").length = 9 ∧ (utf8 "shared_memory").length = 13 ∧
      (utf8 "map_name").length = 8 ∧ (utf8 "Local\\Smile2Unlock_GuiPreview_").length = 30 ∧
      (utf8 "_").length = 1 ∧ (utf8 "width").length = 5 ∧ (utf8 "height").length = 6 ∧
      (utf8 "channels").length = 8 ∧ (utf8 "3").length = 1 ∧ (utf8 "image_bytes").length = 11 ∧
      (utf8 "compression").length = 11 ∧ (utf8 "0").length = 1 := by decide
  have hsize : 1000 ≤ kPayloadSize := by decide
  simp only [keyLines, descriptorFields, List.flatMap_cons, List.flatMap_nil, keyLine,
    Handler.mappingName, List.length_append, List.length_cons, List.length_nil, hkeys]
  omega

end

/-- A text that was put into a response, read with the size of the payload. -/
theorem GuiIpcResponse.take_setPayloadText (response : GuiIpcResponse) (status : GuiIpcStatus)
    {text : Bytes} (htext : text.length < kPayloadSize) (beyond : Bytes) :
    ¬ (response.setPayloadText text status).payloadSize < 0 ∧
      ((response.setPayloadText text status).payload.bytes ++ beyond).take
        (response.setPayloadText text status).payloadSize.toInt.toNat = text := by
  have hfits : text.take (kPayloadSize - 1) = text := List.take_of_length_le (by omega)
  have hsize : (response.setPayloadText text status).payloadSize.toInt = text.length := by
    rw [← congrArg List.length hfits]
    exact GuiIpcResponse.toInt_ofNat (GuiIpcResponse.length_fitting text)
  obtain ⟨rest, hrest⟩ := GuiIpcResponse.putText_bytes response status _
    (GuiIpcResponse.length_fitting text)
  constructor
  · rw [Int32.lt_iff_toInt_lt, hsize]
    exact Int.not_lt.mpr (Int.natCast_nonneg _)
  · rw [hsize, GuiIpcResponse.setPayloadText, hrest, hfits, Int.toNat_natCast, List.append_assoc,
      List.take_left]

end Smile2Unlock.GuiIpc
