/-
  Smile2Unlock.FaceRecognizer.SharedFrame

  The shared memory through which a single frame reaches the service
  (shared_frame_ipc.h): `captureImageToSharedMemory` of FaceRecognizer writes it,
  `capture_shared_payload` of the service reads it.

  Pixels start behind the header and the feature behind the pixels.  Every access is
  logged with its offset and length, so that the bounds of the mapping are a statement
  about the log.
-/

import Mathlib.Algebra.Ring.Int.Defs
import Smile2Unlock.Common.Datagram
import Smile2Unlock.Common.FeatureHex

namespace Smile2Unlock.FaceRecognizer

open Smile2Unlock Lib Layout

-- ============================================================================
-- The mapping
-- ============================================================================

/-- `MAGIC`, `VERSION`, `MAX_IMAGE_BYTES` and `MAX_FEATURE_BYTES` of
    `SharedFrameHeader`, and its size. -/
def sharedFrameMagic : UInt32 := 0x5346524D
def sharedFrameVersion : UInt32 := 2
def maxImageBytes : Nat := 8 * 1024 * 1024
def maxFeatureBytes : Nat := 64 * 1024
def sizeofSharedFrameHeader : Nat := 44

/-- `kSharedFrameMappingSize`, `mapping_size` in the writer. -/
def kSharedFrameMappingSize : Nat := sizeofSharedFrameHeader + maxImageBytes + maxFeatureBytes

/-- `enum class SharedFrameStatus`, as far as single frames use it. -/
inductive SharedFrameStatus where
  | empty
  | ready
  | captureFailed
  | invalidFrame
  | featureExtractionFailed
  | featureTooLarge
deriving DecidableEq

def SharedFrameStatus.code : SharedFrameStatus → Int32
  | .empty => 0
  | .ready => 1
  | .captureFailed => -1
  | .invalidFrame => -2
  | .featureExtractionFailed => -3
  | .featureTooLarge => -4

/-- The view of a mapping, with the accesses that were made through it. -/
structure View where
  memory : PacketMemory kSharedFrameMappingSize
  accesses : List (Nat × Nat)

namespace View

/-- A write of bytes at an offset. -/
def store (view : View) (offset : Nat) (field : Bytes) : View where
  memory := ⟨patch offset field view.memory.val, by rw [length_patch, view.memory.property]⟩
  accesses := view.accesses ++ [(offset, field.length)]

/-- A read of `n` bytes at an offset. -/
def load (view : View) (offset n : Nat) : Bytes × View :=
  (slice offset n view.memory.val, { view with accesses := view.accesses ++ [(offset, n)] })

/-- The fields of the header. -/
def storeUInt32 (view : View) (offset : Nat) (v : UInt32) : View :=
  view.store offset (leBytes 4 v.toNat)

def storeInt32 (view : View) (offset : Nat) (v : Int32) : View :=
  view.storeUInt32 offset v.toUInt32

/-- `header->status_code = ..`. -/
def storeStatus (view : View) (status : SharedFrameStatus) : View :=
  view.storeInt32 8 status.code

end View

/-- `SharedFrameHeader{}`: all but the first two fields are zero. -/
def defaultHeader : Bytes :=
  leBytes 4 sharedFrameMagic.toNat ++ (leBytes 4 sharedFrameVersion.toNat ++ List.replicate 36 0)

-- ============================================================================
-- The writer
-- ============================================================================

/-- `SeetaImageData` with the pixels behind its pointer. -/
structure SeetaImageData where
  width : Int32
  height : Int32
  channels : Int32
  data : Bytes
  size : data.length = (width.toInt * height.toInt * channels.toInt).toNat

/-- `image_bytes`. -/
def SeetaImageData.imageBytes (image : SeetaImageData) : UInt32 :=
  (image.width * image.height * image.channels).toUInt32

/-- What `img2features` and `feature_size` give: the bytes of the feature, a null
    pointer, or an exception; loading the models may throw too. -/
inductive Extraction where
  | feature (bytes : Bytes)
  | noFace
  | failed
deriving DecidableEq

/-- The hex form of the feature, empty without one. -/
def Extraction.hex : Extraction → Bytes
  | .feature bytes => encodeBytesToHex bytes
  | .noFace | .failed => []

/-- The camera: not opened, or opened with or without a frame. -/
inductive Camera where
  | notOpened
  | opened (frame : Option SeetaImageData)

/-- The frame and its header. -/
def storeFrame (image : SeetaImageData) (view : View) : View :=
  let view := (((view.storeInt32 12 image.width).storeInt32 16 image.height).storeInt32 20
    image.channels).storeUInt32 24 image.imageBytes
  (view.storeStatus .ready).store sizeofSharedFrameHeader (image.data.take image.imageBytes.toNat)

/-- The part of the writer behind `if (extract_feature)`; pixels take `imageBytes`
    bytes. -/
def storeFeature (extraction : Extraction) (imageBytes : UInt32) (view : View) : View :=
  match extraction with
  | .noFace | .failed => view.storeStatus .featureExtractionFailed
  | .feature bytes =>
      let featureHex := encodeBytesToHex bytes
      if maxFeatureBytes < featureHex.length then view.storeStatus .featureTooLarge
      else
        (view.storeUInt32 28 (UInt32.ofNat featureHex.length)).store
          (sizeofSharedFrameHeader + imageBytes.toNat) featureHex

/-- `captureImageToSharedMemory` once it has its view: the view after it and the exit
    code of the process.  An exception leaves `main` with the code -1 as well. -/
def captureImageToSharedMemory (camera : Camera) (extraction : Extraction) (extractFeature : Bool)
    (view : View) : View × Int :=
  let view := view.store 0 defaultHeader
  match camera with
  | .notOpened | .opened none => (view.storeStatus .captureFailed, -1)
  | .opened (some image) =>
      if image.width ≤ 0 ∨ image.height ≤ 0 then (view.storeStatus .captureFailed, -1)
      else if image.imageBytes = 0 ∨ maxImageBytes < image.imageBytes.toNat then
        (view.storeStatus .invalidFrame, -1)
      else
        let view := storeFrame image view
        (if extractFeature then storeFeature extraction image.imageBytes view else view, 0)

-- ============================================================================
-- The reader
-- ============================================================================

/-- How `start_fr_capture_process` finds the process. -/
inductive CaptureProcess where
  | missing
  | notStarted
  | timedOut
  | exited (code : Int)

/-- `start_fr_capture_process`: its error message, if it returns false. -/
def startFrCaptureProcess : CaptureProcess → Except Bytes Unit
  | .missing => .error (utf8 "FaceRecognizer.exe 不存在")
  | .notStarted => .error (utf8 "启动 FaceRecognizer 抓拍进程失败")
  | .timedOut => .error (utf8 "等待 FaceRecognizer 抓拍超时")
  | .exited code =>
      if code ≠ 0 then .error (utf8 "FaceRecognizer 抓拍进程返回失败") else .ok ()

/-- What `capture_shared_payload` returns and leaves in its reference parameters;
    without a `feature` pointer the feature is empty. -/
structure CapturedPayload where
  ok : Bool
  imageData : Bytes
  width : Int32
  height : Int32
  feature : Bytes
  errorMessage : Bytes
deriving DecidableEq

def CapturedPayload.failed (errorMessage : Bytes) : CapturedPayload :=
  ⟨false, [], 0, 0, [], errorMessage⟩

/-- The text for a status other than READY. -/
def statusMessage (statusCode : Int32) : Bytes :=
  if statusCode = SharedFrameStatus.featureExtractionFailed.code then
    utf8 "未检测到可录入的人脸，请调整角度后重试"
  else if statusCode = SharedFrameStatus.featureTooLarge.code then utf8 "人脸特征数据过大，无法保存"
  else if statusCode = SharedFrameStatus.invalidFrame.code then utf8 "共享图像数据无效"
  else if statusCode = SharedFrameStatus.captureFailed.code then utf8 "FaceRecognizer 抓拍失败"
  else utf8 "共享图像数据无效"

/-- The reader after the process has exited with success. -/
def readPayload (wantsFeature : Bool) (view : View) : View × CapturedPayload :=
  let (header, view) := view.load 0 sizeofSharedFrameHeader
  let imageBytes := (uint32At 24 header).toNat
  let featureBytes := (uint32At 28 header).toNat
  let statusCode := (uint32At 8 header).toInt32
  if uint32At 0 header = sharedFrameMagic ∧ uint32At 4 header = sharedFrameVersion ∧
      0 < imageBytes ∧ imageBytes ≤ maxImageBytes then
    let (pixels, view) := view.load sizeofSharedFrameHeader imageBytes
    let captured : CapturedPayload :=
      ⟨false, pixels, (uint32At 12 header).toInt32, (uint32At 16 header).toInt32, [], []⟩
    if statusCode = SharedFrameStatus.ready.code then
      if ¬ wantsFeature then (view, { captured with ok := true })
      else if featureBytes = 0 ∨ maxFeatureBytes < featureBytes then
        (view, { captured with errorMessage := utf8 "共享特征数据无效" })
      else
        let (feature, view) := view.load (sizeofSharedFrameHeader + imageBytes) featureBytes
        (view, { captured with ok := true, feature := feature })
    else (view, { captured with errorMessage := statusMessage statusCode })
  else (view, .failed (utf8 "共享图像数据无效"))

/-- `capture_shared_payload` once it has its view; `process` is what the FaceRecognizer
    process does to the memory, and its end. -/
def captureSharedPayload (process : View → View × CaptureProcess) (wantsFeature : Bool)
    (view : View) : View × CapturedPayload :=
  let view := view.store 0 defaultHeader
  match process view with
  | (view, ended) =>
      match startFrCaptureProcess ended with
      | .error errorMessage => (view, .failed errorMessage)
      | .ok () => readPayload wantsFeature view

/-- The process in capture mode, on the same memory. -/
def captureProcess (camera : Camera) (extraction : Extraction) (extractFeature : Bool)
    (view : View) : View × CaptureProcess :=
  match captureImageToSharedMemory camera extraction extractFeature view with
  | (view, code) => (view, .exited code)

-- ============================================================================
-- Reading back what was written
-- ============================================================================

/-- The integer in a part of the memory. -/
theorem uint32At_slice {o n : Nat} (h : o + 4 ≤ n) (memory : Bytes) :
    uint32At o (slice 0 n memory) = uint32At o memory := by
  have hslice : slice o 4 (slice 0 n memory) = slice o 4 memory := by
    apply List.ext_getElem?
    intro i
    simp only [getElem?_slice, Nat.zero_add]
    split
    · rw [if_pos (by omega)]
    · rfl
  rw [uint32At, hslice, uint32At]

/-- The header as the reader sees it. -/
structure FrameHeader where
  magic : UInt32
  version : UInt32
  statusCode : Int32
  width : Int32
  height : Int32
  imageBytes : UInt32
  featureBytes : UInt32
deriving DecidableEq

namespace View

def header (view : View) : FrameHeader where
  magic := uint32At 0 view.memory.val
  version := uint32At 4 view.memory.val
  statusCode := (uint32At 8 view.memory.val).toInt32
  width := (uint32At 12 view.memory.val).toInt32
  height := (uint32At 16 view.memory.val).toInt32
  imageBytes := uint32At 24 view.memory.val
  featureBytes := uint32At 28 view.memory.val

theorem slice_store (view : View) {offset : Nat} {field : Bytes}
    (h : offset + field.length ≤ kSharedFrameMappingSize) :
    slice offset field.length (view.store offset field).memory.val = field := by
  have hbound : offset + field.length ≤ view.memory.val.length := by
    rw [view.memory.property]
    exact h
  rw [store, slice_patch hbound (Nat.le_refl _) (Nat.le_refl _), Nat.sub_self, slice,
    List.drop_zero, List.take_length]

theorem slice_store_of_disjoint (view : View) {offset o n : Nat} {field : Bytes}
    (h : offset + field.length ≤ kSharedFrameMappingSize)
    (hdisjoint : o + n ≤ offset ∨ offset + field.length ≤ o) :
    slice o n (view.store offset field).memory.val = slice o n view.memory.val := by
  have hbound : offset + field.length ≤ view.memory.val.length := by
    rw [view.memory.property]
    exact h
  exact slice_patch_of_disjoint hbound hdisjoint

theorem uint32At_store (view : View) {o offset : Nat} {field : Bytes}
    (h : offset + field.length ≤ kSharedFrameMappingSize) (hbefore : o + 4 ≤ offset) :
    uint32At o (view.store offset field).memory.val = uint32At o view.memory.val := by
  rw [uint32At, slice_store_of_disjoint _ h (.inl hbefore), uint32At]

/-- An integer that was written, and one that lies beside it. -/
theorem uint32At_storeUInt32 (view : View) {o offset : Nat} (v : UInt32)
    (h : offset + 4 ≤ kSharedFrameMappingSize)
    (hapart : o = offset ∨ o + 4 ≤ offset ∨ offset + 4 ≤ o) :
    uint32At o (view.storeUInt32 offset v).memory.val =
      if o = offset then v else uint32At o view.memory.val := by
  have hlength : (leBytes 4 v.toNat).length = 4 := length_leBytes 4 _
  by_cases heq : o = offset
  · have hbound : offset + (leBytes 4 v.toNat).length ≤ kSharedFrameMappingSize := by
      rw [hlength]
      exact h
    have hslice := slice_store view hbound
    rw [hlength] at hslice
    rw [if_pos heq, heq, uint32At, storeUInt32, hslice, leBytes_eq,
      decode_encode_of_lt v.toNat_lt, UInt32.ofNat_toNat]
  · rw [if_neg heq, uint32At, storeUInt32, slice_store_of_disjoint _ (by rw [hlength]; exact h)
      (by rw [hlength]; exact hapart.resolve_left heq), uint32At]

/-- The pixels and the feature are behind the header. -/
theorem header_store {view : View} {offset : Nat} {field : Bytes}
    (h : offset + field.length ≤ kSharedFrameMappingSize)
    (hbehind : sizeofSharedFrameHeader ≤ offset) : (view.store offset field).header = view.header := by
  rw [sizeofSharedFrameHeader] at hbehind
  have hsame := fun o (ho : o + 4 ≤ offset) => uint32At_store view h ho
  simp only [header, hsame 0 (by omega), hsame 4 (by omega), hsame 8 (by omega),
    hsame 12 (by omega), hsame 16 (by omega), hsame 24 (by omega), hsame 28 (by omega)]

theorem length_defaultHeader : defaultHeader.length = sizeofSharedFrameHeader := by decide

/-- The header that both programs start from. -/
theorem header_default (view : View) : (view.store 0 defaultHeader).header =
    ⟨sharedFrameMagic, sharedFrameVersion, SharedFrameStatus.empty.code, 0, 0, 0, 0⟩ := by
  have hbound : 0 + defaultHeader.length ≤ kSharedFrameMappingSize := by
    rw [length_defaultHeader]
    decide
  have hslice := slice_store view hbound
  rw [length_defaultHeader] at hslice
  have hat : ∀ o, o + 4 ≤ 44 →
      uint32At o (view.store 0 defaultHeader).memory.val = uint32At o defaultHeader := by
    intro o ho
    rw [← uint32At_slice ho]
    exact congrArg (uint32At o) hslice
  simp only [header, hat 0 (by omega), hat 4 (by omega), hat 8 (by omega), hat 12 (by omega),
    hat 16 (by omega), hat 24 (by omega), hat 28 (by omega)]
  decide

/-- A write of one field of the header. -/
theorem header_storeUInt32 (view : View) {offset : Nat} (v : UInt32)
    (h : offset + 4 ≤ kSharedFrameMappingSize) (haligned : 4 ∣ offset) :
    (view.storeUInt32 offset v).header =
      ⟨if 0 = offset then v else view.header.magic,
        if 4 = offset then v else view.header.version,
        if 8 = offset then v.toInt32 else view.header.statusCode,
        if 12 = offset then v.toInt32 else view.header.width,
        if 16 = offset then v.toInt32 else view.header.height,
        if 24 = offset then v else view.header.imageBytes,
        if 28 = offset then v else view.header.featureBytes⟩ := by
  have hat := fun o (ho : 4 ∣ o) =>
    uint32At_storeUInt32 (o := o) view v h (by omega)
  simp only [header, hat 0 (by omega), hat 4 (by omega), hat 8 (by omega), hat 12 (by omega),
    hat 16 (by omega), hat 24 (by omega), hat 28 (by omega), apply_ite UInt32.toInt32]

theorem header_storeStatus (view : View) (status : SharedFrameStatus) :
    (view.storeStatus status).header = { view.header with statusCode := status.code } :=
  header_storeUInt32 view status.code.toUInt32 (by decide) (by decide)

theorem header_storeFeatureBytes (view : View) (v : UInt32) :
    (view.storeUInt32 28 v).header = { view.header with featureBytes := v } :=
  header_storeUInt32 view v (by decide) (by decide)

/-- The frame takes its place behind the header. -/
theorem header_storeFrame {image : SeetaImageData} (view : View)
    (h : image.imageBytes.toNat ≤ maxImageBytes) :
    (storeFrame image view).header =
      ⟨view.header.magic, view.header.version, SharedFrameStatus.ready.code, image.width,
        image.height, image.imageBytes, view.header.featureBytes⟩ := by
  have hpixels : (image.data.take image.imageBytes.toNat).length ≤ maxImageBytes :=
    (List.length_take_le _ _).trans h
  have hroom : sizeofSharedFrameHeader + maxImageBytes ≤ kSharedFrameMappingSize := by decide
  rw [storeFrame, header_store (by omega) (Nat.le_refl _), header_storeStatus,
    header_storeUInt32 _ _ (by decide) (by decide), storeInt32,
    header_storeUInt32 _ _ (by decide) (by decide), storeInt32,
    header_storeUInt32 _ _ (by decide) (by decide), storeInt32,
    header_storeUInt32 _ _ (by decide) (by decide)]
  rfl

/-- Every access stays inside the mapping. -/
def InBounds (view : View) : Prop :=
  ∀ access ∈ view.accesses, access.1 + access.2 ≤ kSharedFrameMappingSize

theorem inBounds_store {view : View} {offset : Nat} {field : Bytes} (hview : view.InBounds)
    (h : offset + field.length ≤ kSharedFrameMappingSize) : (view.store offset field).InBounds := by
  intro access hmem
  rcases List.mem_append.mp hmem with hold | hnew
  · exact hview access hold
  · rw [List.mem_singleton.mp hnew]
    exact h

theorem inBounds_storeUInt32 {view : View} {offset : Nat} (hview : view.InBounds) (v : UInt32)
    (h : offset + 4 ≤ kSharedFrameMappingSize) : (view.storeUInt32 offset v).InBounds :=
  inBounds_store hview (by rw [length_leBytes]; exact h)

theorem inBounds_storeStatus {view : View} (hview : view.InBounds) (status : SharedFrameStatus) :
    (view.storeStatus status).InBounds := inBounds_storeUInt32 hview _ (by decide)

theorem inBounds_load {view : View} (hview : view.InBounds) (offset n : Nat)
    (h : offset + n ≤ kSharedFrameMappingSize) : (view.load offset n).2.InBounds := by
  intro access hmem
  rcases List.mem_append.mp hmem with hold | hnew
  · exact hview access hold
  · rw [List.mem_singleton.mp hnew]
    exact h

end View

open View

-- ============================================================================
-- Bounds
-- ============================================================================

theorem inBounds_storeFrame {image : SeetaImageData} {view : View} (hview : view.InBounds)
    (h : image.imageBytes.toNat ≤ maxImageBytes) : (storeFrame image view).InBounds := by
  have hpixels : (image.data.take image.imageBytes.toNat).length ≤ maxImageBytes :=
    (List.length_take_le _ _).trans h
  have hroom : sizeofSharedFrameHeader + maxImageBytes ≤ kSharedFrameMappingSize := by decide
  refine inBounds_store (inBounds_storeStatus ?_ _) (by omega)
  refine inBounds_storeUInt32 (inBounds_storeUInt32 (inBounds_storeUInt32
    (inBounds_storeUInt32 hview _ ?_) _ ?_) _ ?_) _ ?_
  all_goals decide

theorem inBounds_storeFeature {extraction : Extraction} {imageBytes : UInt32} {view : View}
    (hview : view.InBounds) (h : imageBytes.toNat ≤ maxImageBytes) :
    (storeFeature extraction imageBytes view).InBounds := by
  have hroom : sizeofSharedFrameHeader + maxImageBytes + maxFeatureBytes =
      kSharedFrameMappingSize := rfl
  cases extraction with
  | noFace => exact inBounds_storeStatus hview _
  | failed => exact inBounds_storeStatus hview _
  | feature bytes =>
      rw [storeFeature]
      split
      · exact inBounds_storeStatus hview _
      · exact inBounds_store (inBounds_storeUInt32 hview _ (by decide)) (by omega)

theorem inBounds_captureImageToSharedMemory (camera : Camera) (extraction : Extraction)
    (extractFeature : Bool) {view : View} (hview : view.InBounds) :
    (captureImageToSharedMemory camera extraction extractFeature view).1.InBounds := by
  have hheader : (view.store 0 defaultHeader).InBounds :=
    inBounds_store hview (by rw [length_defaultHeader]; decide)
  unfold captureImageToSharedMemory
  cases camera with
  | notOpened => exact inBounds_storeStatus hheader _
  | opened frame =>
      cases frame with
      | none => exact inBounds_storeStatus hheader _
      | some image =>
          simp only
          split
          · exact inBounds_storeStatus hheader _
          · split
            · exact inBounds_storeStatus hheader _
            · rename_i hsize
              have hframe := inBounds_storeFrame hheader (Nat.le_of_not_lt (not_or.mp hsize).2)
              split
              · exact inBounds_storeFeature hframe (Nat.le_of_not_lt (not_or.mp hsize).2)
              · exact hframe

theorem inBounds_readPayload (wantsFeature : Bool) {view : View} (hview : view.InBounds) :
    (readPayload wantsFeature view).1.InBounds := by
  have hroom : sizeofSharedFrameHeader + maxImageBytes + maxFeatureBytes =
      kSharedFrameMappingSize := rfl
  have hheader := inBounds_load hview 0 sizeofSharedFrameHeader (by decide)
  rw [readPayload]
  rcases hload : view.load 0 sizeofSharedFrameHeader with ⟨header, after⟩
  rw [hload] at hheader
  simp only
  split
  · rename_i hvalid
    have hpixels := inBounds_load hheader sizeofSharedFrameHeader (uint32At 24 header).toNat
      (by omega)
    split
    · split
      · exact hpixels
      · split
        · exact hpixels
        · rename_i hfeature
          exact inBounds_load hpixels _ _ (by omega)
    · exact hpixels
  · exact hheader

-- ============================================================================
-- What is written is read back
-- ============================================================================

/-- `image_bytes` is the size of the pixels if nothing overflows. -/
theorem imageBytes_eq {image : SeetaImageData} (hwidth : 0 < image.width)
    (hheight : 0 < image.height) (hchannels : 0 < image.channels)
    (hproduct : image.width.toInt * image.height.toInt * image.channels.toInt ≤ 2 ^ 31 - 1) :
    image.imageBytes.toNat = image.data.length := by
  rw [Int32.lt_iff_toInt_lt, Int32.toInt_zero] at hwidth hheight hchannels
  have harea : 0 < image.width.toInt * image.height.toInt := Int.mul_pos hwidth hheight
  have hle : image.width.toInt * image.height.toInt ≤
      image.width.toInt * image.height.toInt * image.channels.toInt := by
    have hone : 1 ≤ image.channels.toInt := hchannels
    have hmul := Int.mul_le_mul_of_nonneg_left hone (Int.le_of_lt harea)
    rwa [Int.mul_one] at hmul
  have hvolume := Int.mul_pos harea hchannels
  have hexact : (image.width * image.height * image.channels).toInt =
      image.width.toInt * image.height.toInt * image.channels.toInt := by
    rw [Int32.toInt_mul, Int32.toInt_mul, Int.bmod_eq_of_le (n := image.width.toInt * _),
      Int.bmod_eq_of_le]
    all_goals omega
  have hpos : 0 ≤ image.width * image.height * image.channels := by
    rw [Int32.le_iff_toInt_le, Int32.toInt_zero, hexact]
    omega
  rw [SeetaImageData.imageBytes, Int32.toNat_toUInt32_of_le hpos, ← Int32.toNat_toInt, hexact,
    image.size]

/-- A frame as `storeFrame` and `storeFeature` leave it. -/
structure Published (image : SeetaImageData) (view : View) : Prop where
  magic : view.header.magic = sharedFrameMagic
  version : view.header.version = sharedFrameVersion
  width : view.header.width = image.width
  height : view.header.height = image.height
  imageBytes : view.header.imageBytes = image.imageBytes
  pixels : slice sizeofSharedFrameHeader image.imageBytes.toNat view.memory.val = image.data

theorem published_storeFrame {image : SeetaImageData} (view : View)
    (hsize : image.imageBytes.toNat = image.data.length)
    (hbound : image.imageBytes.toNat ≤ maxImageBytes)
    (hheader : view.header.magic = sharedFrameMagic ∧ view.header.version = sharedFrameVersion) :
    Published image (storeFrame image view) := by
  have hroom : sizeofSharedFrameHeader + maxImageBytes ≤ kSharedFrameMappingSize := by decide
  have hframe := header_storeFrame view hbound
  refine ⟨by rw [hframe]; exact hheader.1, by rw [hframe]; exact hheader.2, by rw [hframe],
    by rw [hframe], by rw [hframe], ?_⟩
  rw [storeFrame, hsize, List.take_length]
  exact slice_store _ (by omega)

/-- What the reader makes of a published frame. -/
theorem readPayload_published {image : SeetaImageData} {view : View}
    (h : Published image view) (hpos : 0 < image.imageBytes.toNat)
    (hbound : image.imageBytes.toNat ≤ maxImageBytes) (wantsFeature : Bool) :
    (readPayload wantsFeature view).2 =
      if view.header.statusCode = SharedFrameStatus.ready.code then
        if ¬ wantsFeature then ⟨true, image.data, image.width, image.height, [], []⟩
        else if view.header.featureBytes.toNat = 0 ∨
            maxFeatureBytes < view.header.featureBytes.toNat then
          ⟨false, image.data, image.width, image.height, [], utf8 "共享特征数据无效"⟩
        else
          ⟨true, image.data, image.width, image.height,
            slice (sizeofSharedFrameHeader + image.imageBytes.toNat)
              view.header.featureBytes.toNat view.memory.val, []⟩
      else ⟨false, image.data, image.width, image.height, [],
        statusMessage view.header.statusCode⟩ := by
  have hat : ∀ o, o + 4 ≤ 44 → uint32At o (slice 0 sizeofSharedFrameHeader view.memory.val) =
      uint32At o view.memory.val := fun o ho => uint32At_slice ho view.memory.val
  have hmagic : uint32At 0 view.memory.val = sharedFrameMagic := h.magic
  have hversion : uint32At 4 view.memory.val = sharedFrameVersion := h.version
  have hwidth : (uint32At 12 view.memory.val).toInt32 = image.width := h.width
  have hheight : (uint32At 16 view.memory.val).toInt32 = image.height := h.height
  have hbytes : uint32At 24 view.memory.val = image.imageBytes := h.imageBytes
  have hpixels := h.pixels
  simp only [readPayload, load, hat 0 (by omega), hat 4 (by omega), hat 8 (by omega),
    hat 12 (by omega), hat 16 (by omega), hat 24 (by omega), hat 28 (by omega), hmagic, hversion,
    hwidth, hheight, hbytes, hpixels, hpos, hbound, and_self, if_true]
  simp only [apply_ite Prod.snd, header]
  rfl

theorem Published.storeStatus {image : SeetaImageData} {view : View} (h : Published image view)
    (status : SharedFrameStatus) : Published image (view.storeStatus status) := by
  have hheader := header_storeStatus view status
  refine ⟨by rw [hheader]; exact h.magic, by rw [hheader]; exact h.version,
    by rw [hheader]; exact h.width, by rw [hheader]; exact h.height,
    by rw [hheader]; exact h.imageBytes, ?_⟩
  rw [View.storeStatus, storeInt32, storeUInt32, slice_store_of_disjoint]
  · exact h.pixels
  · rw [length_leBytes]
    decide
  · rw [length_leBytes]
    exact .inr (by decide)

/-- A feature that fits, and the header that announces it. -/
theorem storeFeature_eq {imageBytes : UInt32} {bytes : Bytes} (view : View)
    (hfits : (encodeBytesToHex bytes).length ≤ maxFeatureBytes) :
    storeFeature (.feature bytes) imageBytes view =
      (view.storeUInt32 28 (UInt32.ofNat (encodeBytesToHex bytes).length)).store
        (sizeofSharedFrameHeader + imageBytes.toNat) (encodeBytesToHex bytes) := by
  rw [storeFeature, if_neg (Nat.not_lt.mpr hfits)]

theorem header_storeFeature {imageBytes : UInt32} {bytes : Bytes} (view : View)
    (hbound : imageBytes.toNat ≤ maxImageBytes)
    (hfits : (encodeBytesToHex bytes).length ≤ maxFeatureBytes) :
    (storeFeature (.feature bytes) imageBytes view).header =
      { view.header with featureBytes := UInt32.ofNat (encodeBytesToHex bytes).length } := by
  have hroom : sizeofSharedFrameHeader + maxImageBytes + maxFeatureBytes =
      kSharedFrameMappingSize := rfl
  rw [storeFeature_eq view hfits, header_store (by omega) (Nat.le_add_right _ _),
    header_storeFeatureBytes]

/-- A feature that fits is put behind the pixels. -/
theorem storeFeature_fits {image : SeetaImageData} {view : View} {bytes : Bytes}
    (h : Published image view) (hbound : image.imageBytes.toNat ≤ maxImageBytes)
    (hfits : (encodeBytesToHex bytes).length ≤ maxFeatureBytes) :
    Published image (storeFeature (.feature bytes) image.imageBytes view) ∧
    (storeFeature (.feature bytes) image.imageBytes view).header.statusCode =
      view.header.statusCode ∧
    (storeFeature (.feature bytes) image.imageBytes view).header.featureBytes.toNat =
      (encodeBytesToHex bytes).length ∧
    slice (sizeofSharedFrameHeader + image.imageBytes.toNat) (encodeBytesToHex bytes).length
      (storeFeature (.feature bytes) image.imageBytes view).memory.val = encodeBytesToHex bytes := by
  have hroom : sizeofSharedFrameHeader + maxImageBytes + maxFeatureBytes =
      kSharedFrameMappingSize := rfl
  have hstored := @storeFeature_eq image.imageBytes bytes view hfits
  have hheader := header_storeFeature view hbound hfits
  have hsmall : maxFeatureBytes < 2 ^ 32 := by decide
  refine ⟨⟨by rw [hheader]; exact h.magic, by rw [hheader]; exact h.version,
    by rw [hheader]; exact h.width, by rw [hheader]; exact h.height,
    by rw [hheader]; exact h.imageBytes, ?_⟩, by rw [hheader], ?_, ?_⟩
  · rw [hstored, slice_store_of_disjoint _ (by omega) (.inl (Nat.le_refl _)), storeUInt32,
      slice_store_of_disjoint]
    · exact h.pixels
    · rw [length_leBytes]
      decide
    · rw [length_leBytes]
      exact .inr (by decide)
  · rw [hheader, UInt32.toNat_ofNat', Nat.mod_eq_of_lt (by omega)]
  · rw [hstored]
    exact slice_store _ (by omega)

/-- Without a feature that fits the frame is not READY. -/
theorem storeFeature_fails {image : SeetaImageData} {view : View} {extraction : Extraction}
    (h : Published image view)
    (hfails : ∀ bytes, extraction = .feature bytes →
      maxFeatureBytes < (encodeBytesToHex bytes).length) :
    Published image (storeFeature extraction image.imageBytes view) ∧
    (storeFeature extraction image.imageBytes view).header.statusCode ≠
      SharedFrameStatus.ready.code := by
  have hstatus : ∃ status : SharedFrameStatus, status.code ≠ SharedFrameStatus.ready.code ∧
      storeFeature extraction image.imageBytes view = view.storeStatus status := by
    cases extraction with
    | noFace => exact ⟨.featureExtractionFailed, by decide, rfl⟩
    | failed => exact ⟨.featureExtractionFailed, by decide, rfl⟩
    | feature bytes =>
        exact ⟨.featureTooLarge, by decide, by rw [storeFeature, if_pos (hfails bytes rfl)]⟩
  obtain ⟨status, hcode, hstored⟩ := hstatus
  rw [hstored, header_storeStatus]
  exact ⟨h.storeStatus status, hcode⟩

/-- Both programs on a fresh mapping, for an image that was captured. -/
def captureImage (image : SeetaImageData) (extraction : Extraction) (wantsFeature : Bool)
    (memory : PacketMemory kSharedFrameMappingSize) : View × CapturedPayload :=
  captureSharedPayload (captureProcess (.opened (some image)) extraction wantsFeature) wantsFeature
    ⟨memory, []⟩

theorem inBounds_captureImage (image : SeetaImageData) (extraction : Extraction)
    (wantsFeature : Bool) (memory : PacketMemory kSharedFrameMappingSize) :
    (captureImage image extraction wantsFeature memory).1.InBounds := by
  have hstart : (View.store ⟨memory, []⟩ 0 defaultHeader).InBounds :=
    inBounds_store (fun _ hmem => absurd hmem List.not_mem_nil)
      (by rw [length_defaultHeader]; decide)
  have hwritten := inBounds_captureImageToSharedMemory (.opened (some image)) extraction
    wantsFeature hstart
  rw [captureImage, captureSharedPayload, captureProcess]
  rcases hprocess : captureImageToSharedMemory (.opened (some image)) extraction wantsFeature
    (View.store ⟨memory, []⟩ 0 defaultHeader) with ⟨view, code⟩
  rw [hprocess] at hwritten
  by_cases hcode : code = 0
  · simp only [startFrCaptureProcess, hcode, ne_eq, not_true_eq_false, if_false]
    exact inBounds_readPayload wantsFeature hwritten
  · simp only [startFrCaptureProcess, hcode, ne_eq, not_false_eq_true, if_true]
    exact hwritten

/-- The outcome for an image that overflows nothing. -/
theorem captureImage_eq {image : SeetaImageData} (hwidth : 0 < image.width)
    (hheight : 0 < image.height) (hpos : 0 < image.imageBytes.toNat) (extraction : Extraction)
    (wantsFeature : Bool) (memory : PacketMemory kSharedFrameMappingSize) :
    (captureImage image extraction wantsFeature memory).2 =
      if image.imageBytes.toNat ≤ maxImageBytes then
        let view := storeFrame image ((View.store ⟨memory, []⟩ 0 defaultHeader).store 0 defaultHeader)
        (readPayload wantsFeature
          (if wantsFeature then storeFeature extraction image.imageBytes view else view)).2
      else .failed (utf8 "FaceRecognizer 抓拍进程返回失败") := by
  have hdims : ¬ (image.width ≤ 0 ∨ image.height ≤ 0) := by
    rw [not_or, Int32.not_le, Int32.not_le]
    exact ⟨hwidth, hheight⟩
  have hnonzero : image.imageBytes ≠ 0 := by
    intro hzero
    rw [hzero] at hpos
    exact absurd hpos (by decide)
  rw [captureImage, captureSharedPayload, captureProcess]
  by_cases hbound : image.imageBytes.toNat ≤ maxImageBytes
  · simp only [captureImageToSharedMemory, if_neg hdims, hnonzero, false_or,
      if_neg (Nat.not_lt.mpr hbound), if_pos hbound]
    rfl
  · simp only [captureImageToSharedMemory, if_neg hdims, hnonzero, false_or,
      if_pos (Nat.lt_of_not_le hbound), if_neg hbound]
    rfl

/-- A frame with a feature that was asked for, as it is read. -/
theorem readPayload_storeFeature {image : SeetaImageData} {view : View}
    (h : Published image view) (hready : view.header.statusCode = SharedFrameStatus.ready.code)
    (hpos : 0 < image.imageBytes.toNat) (hbound : image.imageBytes.toNat ≤ maxImageBytes)
    (extraction : Extraction) :
    ∃ errorMessage,
      (readPayload true (storeFeature extraction image.imageBytes view)).2 =
        if extraction.hex ≠ [] ∧ extraction.hex.length ≤ maxFeatureBytes then
          ⟨true, image.data, image.width, image.height, extraction.hex, []⟩
        else ⟨false, image.data, image.width, image.height, [], errorMessage⟩ := by
  by_cases hfits : ∃ bytes, extraction = .feature bytes ∧
      (encodeBytesToHex bytes).length ≤ maxFeatureBytes
  · obtain ⟨bytes, rfl, hle⟩ := hfits
    obtain ⟨hpublished, hstatus, hcount, hfeature⟩ := storeFeature_fits h hbound hle
    refine ⟨utf8 "共享特征数据无效", ?_⟩
    rw [readPayload_published hpublished hpos hbound, if_pos (hstatus.trans hready), hcount,
      hfeature, if_neg (by simp), Extraction.hex]
    by_cases hnil : encodeBytesToHex bytes = []
    · rw [if_pos (.inl (by rw [hnil]; rfl)), if_neg (fun hhex => hhex.1 hnil)]
    · have hlength := List.length_pos_iff.mpr hnil
      rw [if_neg (by omega), if_pos ⟨hnil, hle⟩]
  · have hfails : ∀ bytes, extraction = .feature bytes →
        maxFeatureBytes < (encodeBytesToHex bytes).length :=
      fun bytes heq => Nat.lt_of_not_le fun hle => hfits ⟨bytes, heq, hle⟩
    have hno : ¬ (extraction.hex ≠ [] ∧ extraction.hex.length ≤ maxFeatureBytes) := by
      rintro ⟨hhex, hle⟩
      cases extraction with
      | noFace => exact hhex rfl
      | failed => exact hhex rfl
      | feature bytes => exact hfits ⟨bytes, rfl, hle⟩
    obtain ⟨hpublished, hstatus⟩ := storeFeature_fails h hfails
    refine ⟨statusMessage
      (storeFeature extraction image.imageBytes view).header.statusCode, ?_⟩
    rw [readPayload_published hpublished hpos hbound, if_neg hstatus, if_neg hno]

/-- The outcome in terms of what was captured. -/
theorem captureImage_payload {image : SeetaImageData} (hwidth : 0 < image.width)
    (hheight : 0 < image.height) (hchannels : 0 < image.channels)
    (hproduct : image.width.toInt * image.height.toInt * image.channels.toInt ≤ 2 ^ 31 - 1)
    (extraction : Extraction) (wantsFeature : Bool)
    (memory : PacketMemory kSharedFrameMappingSize) :
    ∃ errorMessage, (captureImage image extraction wantsFeature memory).2 =
      if image.data.length ≤ maxImageBytes then
        if ¬ wantsFeature then ⟨true, image.data, image.width, image.height, [], []⟩
        else if extraction.hex ≠ [] ∧ extraction.hex.length ≤ maxFeatureBytes then
          ⟨true, image.data, image.width, image.height, extraction.hex, []⟩
        else ⟨false, image.data, image.width, image.height, [], errorMessage⟩
      else .failed errorMessage := by
  have hsize := imageBytes_eq hwidth hheight hchannels hproduct
  have hpos : 0 < image.imageBytes.toNat := by
    rw [hsize, image.size]
    rw [Int32.lt_iff_toInt_lt, Int32.toInt_zero] at hwidth hheight hchannels
    have hvolume := Int.mul_pos (Int.mul_pos hwidth hheight) hchannels
    omega
  rw [captureImage_eq hwidth hheight hpos, ← hsize]
  by_cases hbound : image.imageBytes.toNat ≤ maxImageBytes
  · have hdefault := header_default (View.store ⟨memory, []⟩ 0 defaultHeader)
    have hpublished := published_storeFrame
      ((View.store ⟨memory, []⟩ 0 defaultHeader).store 0 defaultHeader) hsize hbound
      (by rw [hdefault]; exact ⟨rfl, rfl⟩)
    have hready : (storeFrame image ((View.store ⟨memory, []⟩ 0 defaultHeader).store 0
        defaultHeader)).header.statusCode = SharedFrameStatus.ready.code := by
      rw [header_storeFrame _ hbound]
    simp only [if_pos hbound]
    cases wantsFeature with
    | false =>
        refine ⟨[], ?_⟩
        rw [if_neg (by simp), if_pos (by simp),
          readPayload_published hpublished hpos hbound, if_pos hready, if_pos (by simp)]
    | true =>
        obtain ⟨errorMessage, hread⟩ :=
          readPayload_storeFeature hpublished hready hpos hbound extraction
        refine ⟨errorMessage, ?_⟩
        rw [if_pos rfl, if_neg (by simp), hread]
  · exact ⟨_, by rw [if_neg hbound, if_neg hbound]⟩

/-- What the reader takes as a feature lies behind the pixels of a READY frame. -/
theorem readPayload_ok {view : View} (h : (readPayload true view).2.ok = true) :
    view.header.statusCode = SharedFrameStatus.ready.code ∧
    (readPayload true view).2.feature =
      slice (sizeofSharedFrameHeader + view.header.imageBytes.toNat)
        view.header.featureBytes.toNat view.memory.val := by
  have hat : ∀ o, o + 4 ≤ 44 → uint32At o (slice 0 sizeofSharedFrameHeader view.memory.val) =
      uint32At o view.memory.val := fun o ho => uint32At_slice ho view.memory.val
  simp only [readPayload, load, hat 0 (by omega), hat 4 (by omega), hat 8 (by omega),
    hat 12 (by omega), hat 16 (by omega), hat 24 (by omega), hat 28 (by omega)] at h ⊢
  split at h
  · rename_i hvalid
    rw [if_pos hvalid]
    split at h
    · rename_i hready
      rw [if_pos hready]
      simp only [not_true_eq_false, if_false] at h ⊢
      split at h
      · cases h
      · rename_i hfeature
        rw [if_neg hfeature]
        exact ⟨hready, rfl⟩
    · cases h
  · cases h

/-- A successful capture has a frame that fits. -/
theorem frame_of_captureImage_ok {image : SeetaImageData} {extraction : Extraction}
    {wantsFeature : Bool} {memory : PacketMemory kSharedFrameMappingSize}
    (h : (captureImage image extraction wantsFeature memory).2.ok = true) :
    0 < image.width ∧ 0 < image.height ∧ 0 < image.imageBytes.toNat ∧
      image.imageBytes.toNat ≤ maxImageBytes := by
  rw [captureImage, captureSharedPayload, captureProcess] at h
  by_cases hdims : image.width ≤ 0 ∨ image.height ≤ 0
  · simp only [captureImageToSharedMemory, if_pos hdims, startFrCaptureProcess] at h
    cases h
  · by_cases hbytes : image.imageBytes = 0 ∨ maxImageBytes < image.imageBytes.toNat
    · simp only [captureImageToSharedMemory, if_neg hdims, if_pos hbytes, startFrCaptureProcess] at h
      cases h
    · rw [not_or, Int32.not_le, Int32.not_le] at hdims
      rw [not_or, Nat.not_lt] at hbytes
      refine ⟨hdims.1, hdims.2, Nat.pos_of_ne_zero fun hzero => hbytes.1 ?_, hbytes.2⟩
      exact UInt32.toNat_inj.mp hzero

/-- A capture with a feature that succeeds gives this feature, and it fits. -/
theorem feature_of_captureImage_ok {image : SeetaImageData} {bytes : Bytes}
    {memory : PacketMemory kSharedFrameMappingSize}
    (h : (captureImage image (.feature bytes) true memory).2.ok = true) :
    (captureImage image (.feature bytes) true memory).2.feature = encodeBytesToHex bytes ∧
      (encodeBytesToHex bytes).length ≤ maxFeatureBytes := by
  have hroom : sizeofSharedFrameHeader + maxImageBytes + maxFeatureBytes =
      kSharedFrameMappingSize := rfl
  have hsmall : maxFeatureBytes < 2 ^ 32 := by decide
  obtain ⟨hwidth, hheight, hpos, hbound⟩ := frame_of_captureImage_ok h
  rw [captureImage_eq hwidth hheight hpos, if_pos hbound] at h ⊢
  have hframe := header_storeFrame
    ((View.store ⟨memory, []⟩ 0 defaultHeader).store 0 defaultHeader) hbound
  simp only [if_true] at h ⊢
  generalize storeFrame image ((View.store ⟨memory, []⟩ 0 defaultHeader).store 0 defaultHeader) =
    view at *
  obtain ⟨hready, hfeature⟩ := readPayload_ok h
  by_cases hfits : (encodeBytesToHex bytes).length ≤ maxFeatureBytes
  · refine ⟨?_, hfits⟩
    rw [hfeature, header_storeFeature view hbound hfits, hframe, storeFeature_eq view hfits]
    dsimp only
    rw [UInt32.toNat_ofNat', Nat.mod_eq_of_lt (by omega)]
    exact slice_store _ (by omega)
  · rw [storeFeature, if_pos (Nat.lt_of_not_le hfits), header_storeStatus] at hready
    have hcode : SharedFrameStatus.featureTooLarge.code ≠ SharedFrameStatus.ready.code := by decide
    exact absurd hready hcode

/-- The payload is what was captured: if it fits, with the feature if one was asked
    for, and nothing else; no access is outside the mapping. -/
def CapturedExactly (image : SeetaImageData) (extraction : Extraction) (wantsFeature : Bool)
    (view : View) (captured : CapturedPayload) : Prop :=
  (captured.ok = true ↔ image.data.length ≤ maxImageBytes ∧
    (wantsFeature = true → extraction.hex ≠ [] ∧ extraction.hex.length ≤ maxFeatureBytes)) ∧
  (captured.ok = true → captured.imageData = image.data ∧ captured.width = image.width ∧
    captured.height = image.height ∧
    captured.feature = if wantsFeature then extraction.hex else []) ∧
  (captured.ok = false → captured.feature = []) ∧ view.InBounds

/-- The service gets what FaceRecognizer captured. -/
theorem captured_exactly (image : SeetaImageData) (hwidth : 0 < image.width)
    (hheight : 0 < image.height) (hchannels : 0 < image.channels)
    (hproduct : image.width.toInt * image.height.toInt * image.channels.toInt ≤ 2 ^ 31 - 1)
    (extraction : Extraction) (wantsFeature : Bool)
    (memory : PacketMemory kSharedFrameMappingSize) :
    CapturedExactly image extraction wantsFeature
      (captureImage image extraction wantsFeature memory).1
      (captureImage image extraction wantsFeature memory).2 := by
  obtain ⟨errorMessage, hpayload⟩ :=
    captureImage_payload hwidth hheight hchannels hproduct extraction wantsFeature memory
  have hbounds := inBounds_captureImage image extraction wantsFeature memory
  rw [hpayload]
  by_cases hsize : image.data.length ≤ maxImageBytes
  · rw [if_pos hsize]
    cases wantsFeature with
    | false => simp [CapturedExactly, hsize, hbounds]
    | true =>
        by_cases hhex : extraction.hex ≠ [] ∧ extraction.hex.length ≤ maxFeatureBytes
        · simp [CapturedExactly, hsize, hhex, hbounds]
        · rw [if_neg (by simp), if_neg hhex]
          simp [CapturedExactly, hsize, hhex, hbounds]
  · rw [if_neg hsize]
    simp [CapturedExactly, hsize, hbounds, CapturedPayload.failed]

/-- One grey pixel, and a mapping as `CreateFileMapping` makes it. -/
def greyPixel : SeetaImageData := ⟨1, 1, 1, [7], by decide⟩

def zeroMapping : PacketMemory kSharedFrameMappingSize :=
  ⟨List.replicate kSharedFrameMappingSize 0, List.length_replicate⟩

theorem captured_exactly_greyPixel :
    0 < greyPixel.width ∧ 0 < greyPixel.height ∧ 0 < greyPixel.channels ∧
    greyPixel.width.toInt * greyPixel.height.toInt * greyPixel.channels.toInt ≤ 2 ^ 31 - 1 ∧
    CapturedExactly greyPixel (.feature [0xAB]) true
      (captureImage greyPixel (.feature [0xAB]) true zeroMapping).1
      (captureImage greyPixel (.feature [0xAB]) true zeroMapping).2 :=
  ⟨by decide, by decide, by decide, by decide,
    captured_exactly greyPixel (by decide) (by decide) (by decide) (by decide) (.feature [0xAB]) true
      zeroMapping⟩

end Smile2Unlock.FaceRecognizer
