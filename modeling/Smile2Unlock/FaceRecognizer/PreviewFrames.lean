/-
  Smile2Unlock.FaceRecognizer.PreviewFrames

  Frames of the camera preview in shared memory: `streamPreviewToSharedMemory` of
  FaceRecognizer writes them over each other, `GetLatestPreviewFrame` of the service reads
  the newest.

  `StreamMemory` is what the memory says after any number of passes of the writer: the
  number of frames so far, and the last one.  `streamPass_kept` is one pass,
  `readFrame_eq` what a reader makes of it.
-/

import Smile2Unlock.Common.Numbers
import Smile2Unlock.FaceRecognizer.CaptureFrame
import Smile2Unlock.FaceRecognizer.SharedFrame

namespace Smile2Unlock.FaceRecognizer

open Smile2Unlock Lib Layout View

-- ============================================================================
-- The writer
-- ============================================================================

/-- A frame of `CameraCapture::CaptureFrame`. -/
structure CameraFrame where
  image : SeetaImageData
  channels : image.channels = 3

/-- A frame as a reader of the memory finds it. -/
structure ShownFrame where
  width : Int32
  height : Int32
  pixels : Bytes
deriving DecidableEq

/-- The bytes that `memcpy` takes are `image_bytes`, whatever the image has. -/
def CameraFrame.shown (frame : CameraFrame) : ShownFrame :=
  ⟨frame.image.width, frame.image.height, frame.image.data.take frame.image.imageBytes.toNat⟩

namespace View

/-- `frame_sequence`. -/
def sequence (view : View) : UInt32 := uint32At 32 view.memory.val

end View

/-- The pixels, then their header; the sequence number is counted up last. -/
def storeStreamFrame (image : SeetaImageData) (view : View) : View :=
  let view := view.store sizeofSharedFrameHeader (image.data.take image.imageBytes.toNat)
  let view := (((view.storeInt32 12 image.width).storeInt32 16 image.height).storeInt32 20
    image.channels).storeUInt32 24 image.imageBytes
  let view := (view.storeUInt32 28 0).storeStatus .ready
  view.storeUInt32 32 (view.sequence + 1)

/-- The frame is one that the loop of `streamPreviewToSharedMemory` stores. -/
def CameraFrame.Fits (frame : CameraFrame) : Prop :=
  0 < frame.image.width ∧ 0 < frame.image.height ∧ frame.image.imageBytes ≠ 0 ∧
    frame.image.imageBytes.toNat ≤ maxImageBytes

instance (frame : CameraFrame) : Decidable frame.Fits := inferInstanceAs (Decidable (_ ∧ _ ∧ _ ∧ _))

/-- A pass of the loop in `streamPreviewToSharedMemory`. -/
def streamPass (frame : Option CameraFrame) (view : View) : View :=
  match frame with
  | none => view.storeStatus .captureFailed
  | some frame =>
      if frame.image.width ≤ 0 ∨ frame.image.height ≤ 0 then view.storeStatus .captureFailed
      else if frame.image.imageBytes = 0 ∨ maxImageBytes < frame.image.imageBytes.toNat then
        view.storeStatus .invalidFrame
      else storeStreamFrame frame.image view

-- ============================================================================
-- The reader
-- ============================================================================

/-- What `GetLatestPreviewFrame` returns and leaves in its reference parameters. -/
structure PreviewFrame where
  ok : Bool
  imageData : Bytes
  width : Int32
  height : Int32
  errorMessage : Bytes
deriving DecidableEq

/-- No frame, with a message. -/
def PreviewFrame.failed (errorMessage : Bytes) : PreviewFrame := ⟨false, [], 0, 0, errorMessage⟩

/-- A frame as it is returned, and the frame that was returned. -/
def ShownFrame.returned (errorMessage : Bytes) (frame : ShownFrame) : PreviewFrame :=
  ⟨true, frame.pixels, frame.width, frame.height, errorMessage⟩

def PreviewFrame.shown (frame : PreviewFrame) : ShownFrame :=
  ⟨frame.width, frame.height, frame.imageData⟩

/-- `GetLatestPreviewFrame` once it has a running process and a view: the result and
    `last_preview_sequence_` after it.  Without a new frame the message stays. -/
def readFrame (view : View) (lastSequence : UInt32) (errorMessage : Bytes) :
    PreviewFrame × UInt32 :=
  let header := view.header
  if header.magic ≠ sharedFrameMagic ∨ header.version ≠ sharedFrameVersion then
    (.failed (utf8 "预览共享内存无效"), lastSequence)
  else if header.statusCode ≠ SharedFrameStatus.ready.code then
    (.failed (utf8 "摄像头尚未输出可用画面"), lastSequence)
  else if header.imageBytes = 0 ∨ maxImageBytes < header.imageBytes.toNat then
    (.failed (utf8 "预览帧数据无效"), lastSequence)
  else if view.sequence = lastSequence then (.failed errorMessage, lastSequence)
  else
    (⟨true, slice sizeofSharedFrameHeader header.imageBytes.toNat view.memory.val, header.width,
      header.height, errorMessage⟩, view.sequence)

-- ============================================================================
-- The memory of a stream
-- ============================================================================

/-- The memory shows a frame. -/
structure View.Shows (view : View) (frame : ShownFrame) : Prop where
  width : view.header.width = frame.width
  height : view.header.height = frame.height
  imageBytes : view.header.imageBytes.toNat = frame.pixels.length
  pixels : slice sizeofSharedFrameHeader frame.pixels.length view.memory.val = frame.pixels
  nonempty : 0 < frame.pixels.length
  fits : frame.pixels.length ≤ maxImageBytes

/-- The memory after the writer has stored these frames; `ready` is whether its last pass
    stored one. -/
structure StreamMemory (view : View) (frames : List ShownFrame) (ready : Bool) : Prop where
  magic : view.header.magic = sharedFrameMagic
  version : view.header.version = sharedFrameVersion
  status : view.header.statusCode = SharedFrameStatus.ready.code ↔ ready = true
  sequence : view.sequence = UInt32.ofNat frames.length
  last : ∀ frame ∈ frames.getLast?, view.Shows frame
  some : ready = true → frames ≠ []

/-- A frame that fits has the bytes that are taken of it. -/
theorem length_shown {frame : CameraFrame} (h : frame.Fits) :
    frame.shown.pixels.length = frame.image.imageBytes.toNat := by
  obtain ⟨hwidth, hheight, -, -⟩ := h
  have hw : 0 < frame.image.width.toInt := Int32.lt_iff_toInt_lt.mp hwidth
  have hh : 0 < frame.image.height.toInt := Int32.lt_iff_toInt_lt.mp hheight
  have hc : frame.image.channels.toInt = 3 := by
    rw [frame.channels]
    rfl
  -- the product in 32 bits is at most the product
  have hbytes : (frame.image.imageBytes.toNat : Int) =
      (frame.image.width.toInt * frame.image.height.toInt * frame.image.channels.toInt) %
        4294967296 := by
    have hmod : ∀ x : Int, x.bmod (2 ^ 32) % 4294967296 = x % 4294967296 := fun _ => Int.bmod_emod
    rw [SeetaImageData.imageBytes, toNat_toUInt32, Int32.toInt_mul, Int32.toInt_mul, hmod,
      Int.mul_emod, hmod, ← Int.mul_emod]
  have hpos : 0 < frame.image.width.toInt * frame.image.height.toInt := Int.mul_pos hw hh
  have hsize := frame.image.size
  rw [hc] at hbytes hsize
  rw [CameraFrame.shown, List.length_take]
  omega

-- ============================================================================
-- A pass of the writer
-- ============================================================================

namespace View

/-- A field of the header lies beside the pixels. -/
theorem slice_storeUInt32 (view : View) {offset o n : Nat} (v : UInt32) (h : offset + 4 ≤ o) (ho :
    o ≤ kSharedFrameMappingSize) :
    slice o n (view.storeUInt32 offset v).memory.val = slice o n view.memory.val := by
  have hlength : (leBytes 4 v.toNat).length = 4 := length_leBytes 4 _
  rw [storeUInt32]
  exact slice_store_of_disjoint _ (by omega) (.inr (by omega))

/-- A write beside the sequence number. -/
theorem sequence_storeUInt32 (view : View) {offset : Nat} (v : UInt32)
    (h : offset + 4 ≤ kSharedFrameMappingSize) (hapart : 32 + 4 ≤ offset ∨ offset + 4 ≤ 32) :
    (view.storeUInt32 offset v).sequence = view.sequence := by
  rw [View.sequence, uint32At_storeUInt32 view v h (.inr hapart), if_neg (by omega)]
  rfl

theorem sequence_storeStatus (view : View) (status : SharedFrameStatus) :
    (view.storeStatus status).sequence = view.sequence :=
  sequence_storeUInt32 view _ (by decide) (by decide)

/-- The status is a field of its own. -/
theorem Shows.storeStatus {view : View} {frame : ShownFrame} (h : view.Shows frame)
    (status : SharedFrameStatus) : (view.storeStatus status).Shows frame := by
  have hheader := header_storeStatus view status
  refine ⟨?_, ?_, ?_, ?_, h.nonempty, h.fits⟩
  · rw [hheader]
    exact h.width
  · rw [hheader]
    exact h.height
  · rw [hheader]
    exact h.imageBytes
  · exact (slice_storeUInt32 view _ (by decide) (by decide)).trans h.pixels

end View

section

variable {frame : CameraFrame} (h : frame.Fits) (view : View)

include h

theorem header_storeStreamFrame :
    (storeStreamFrame frame.image view).header =
      ⟨view.header.magic, view.header.version, SharedFrameStatus.ready.code, frame.image.width,
        frame.image.height, frame.image.imageBytes, 0⟩ := by
  have hroom : sizeofSharedFrameHeader + maxImageBytes ≤ kSharedFrameMappingSize := by decide
  have hlength : (frame.image.data.take frame.image.imageBytes.toNat).length =
      frame.image.imageBytes.toNat := length_shown h
  have hfits := h.2.2.2
  rw [storeStreamFrame, header_storeUInt32 _ _ (by decide) (by decide), header_storeStatus,
    header_storeFeatureBytes, header_storeUInt32 _ _ (by decide) (by decide), storeInt32,
    header_storeUInt32 _ _ (by decide) (by decide), storeInt32,
    header_storeUInt32 _ _ (by decide) (by decide), storeInt32,
    header_storeUInt32 _ _ (by decide) (by decide), header_store (by omega) (Nat.le_refl _)]
  rfl

theorem sequence_storeStreamFrame :
    (storeStreamFrame frame.image view).sequence = view.sequence + 1 := by
  have hroom : sizeofSharedFrameHeader + maxImageBytes ≤ kSharedFrameMappingSize := by decide
  have hlength : (frame.image.data.take frame.image.imageBytes.toNat).length =
      frame.image.imageBytes.toNat := length_shown h
  have hfits := h.2.2.2
  -- the sequence number before the last write is still the old one
  have hbefore : ∀ view' : View, view'.sequence = view.sequence →
      (view'.storeUInt32 32 (view'.sequence + 1)).sequence = view.sequence + 1 := by
    intro view' hsame
    rw [View.sequence, uint32At_storeUInt32 view' _ (by decide) (.inl rfl), if_pos rfl, hsame]
  rw [storeStreamFrame]
  apply hbefore
  rw [sequence_storeStatus, sequence_storeUInt32 _ _ (by decide) (by decide),
    sequence_storeUInt32 _ _ (by decide) (by decide), storeInt32,
    sequence_storeUInt32 _ _ (by decide) (by decide), storeInt32,
    sequence_storeUInt32 _ _ (by decide) (by decide), storeInt32,
    sequence_storeUInt32 _ _ (by decide) (by decide)]
  exact uint32At_store view (by omega) (by decide)

theorem shows_storeStreamFrame : (storeStreamFrame frame.image view).Shows frame.shown := by
  have hroom : sizeofSharedFrameHeader + maxImageBytes ≤ kSharedFrameMappingSize := by decide
  have hheader := header_storeStreamFrame h view
  have hlength : (frame.image.data.take frame.image.imageBytes.toNat).length =
      frame.image.imageBytes.toNat := length_shown h
  obtain ⟨-, -, hnonzero, hfits⟩ := h
  refine ⟨?_, ?_, ?_, ?_, ?_, hlength.le.trans hfits⟩
  · rw [hheader]
    rfl
  · rw [hheader]
    rfl
  · rw [hheader]
    exact hlength.symm
  · have hbound : sizeofSharedFrameHeader +
        (frame.image.data.take frame.image.imageBytes.toNat).length ≤ kSharedFrameMappingSize := by
      omega
    rw [storeStreamFrame, slice_storeUInt32 _ _ (by decide) (by decide), storeStatus, storeInt32,
      slice_storeUInt32 _ _ (by decide) (by decide), slice_storeUInt32 _ _ (by decide) (by decide),
      slice_storeUInt32 _ _ (by decide) (by decide), storeInt32,
      slice_storeUInt32 _ _ (by decide) (by decide), storeInt32,
      slice_storeUInt32 _ _ (by decide) (by decide), storeInt32,
      slice_storeUInt32 _ _ (by decide) (by decide)]
    exact slice_store view hbound
  · refine Nat.lt_of_lt_of_eq ?_ hlength.symm
    exact Nat.pos_of_ne_zero fun hzero => hnonzero (UInt32.toNat_inj.mp hzero)

end

-- ============================================================================
-- Any number of passes
-- ============================================================================

/-- The frame that a pass stores. -/
def storedBy (frame : Option CameraFrame) : Option ShownFrame :=
  frame.bind fun frame => if frame.Fits then some frame.shown else none

/-- The memory that both programs start from. -/
theorem streamMemory_default (view : View) :
    StreamMemory (view.store 0 defaultHeader) [] false := by
  have hheader := header_default view
  have hready : SharedFrameStatus.empty.code ≠ SharedFrameStatus.ready.code := by decide
  refine ⟨?_, ?_, ?_, ?_, ?_, nofun⟩
  · rw [hheader]
  · rw [hheader]
  · rw [hheader]
    exact iff_of_false hready Bool.false_ne_true
  · have hslice := @slice_store view 0 defaultHeader (by decide)
    rw [length_defaultHeader] at hslice
    rw [View.sequence, ← uint32At_slice (show 32 + 4 ≤ sizeofSharedFrameHeader by decide), hslice]
    decide
  · intro frame hframe
    cases hframe

/-- A status other than READY leaves the frames as they are. -/
theorem StreamMemory.storeStatus {view : View} {frames : List ShownFrame} {ready : Bool}
    (h : StreamMemory view frames ready) {status : SharedFrameStatus}
    (hstatus : status.code ≠ SharedFrameStatus.ready.code) :
    StreamMemory (view.storeStatus status) frames false := by
  have hheader := header_storeStatus view status
  refine ⟨?_, ?_, ?_, ?_, ?_, nofun⟩
  · rw [hheader]
    exact h.magic
  · rw [hheader]
    exact h.version
  · rw [hheader]
    exact iff_of_false hstatus Bool.false_ne_true
  · rw [sequence_storeStatus]
    exact h.sequence
  · intro frame hframe
    exact (h.last frame hframe).storeStatus status

/-- A pass adds the frame that it stores. -/
theorem StreamMemory.pass {view : View} {frames : List ShownFrame} {ready : Bool}
    (h : StreamMemory view frames ready) (frame : Option CameraFrame) :
    StreamMemory (streamPass frame view) (frames ++ (storedBy frame).toList)
      (storedBy frame).isSome := by
  have hfailed : ∀ status : SharedFrameStatus, status.code ≠ SharedFrameStatus.ready.code →
      StreamMemory (view.storeStatus status) (frames ++ []) false := by
    intro status hstatus
    rw [List.append_nil]
    exact h.storeStatus hstatus
  cases frame with
  | none => exact hfailed _ (by decide)
  | some frame =>
      rw [storedBy, Option.bind_some, streamPass]
      by_cases hsize : frame.image.width ≤ 0 ∨ frame.image.height ≤ 0
      · have hfits : ¬ frame.Fits := by
          rintro ⟨hwidth, hheight, -⟩
          rcases hsize with hle | hle
          · exact Int32.lt_irrefl (Int32.lt_of_lt_of_le hwidth hle)
          · exact Int32.lt_irrefl (Int32.lt_of_lt_of_le hheight hle)
        rw [if_pos hsize, if_neg hfits]
        exact hfailed _ (by decide)
      · rw [if_neg hsize]
        by_cases hbytes : frame.image.imageBytes = 0 ∨ maxImageBytes < frame.image.imageBytes.toNat
        · have hfits : ¬ frame.Fits := by
            rintro ⟨-, -, hnonzero, hle⟩
            rcases hbytes with hzero | hlt
            · exact hnonzero hzero
            · omega
          rw [if_pos hbytes, if_neg hfits]
          exact hfailed _ (by decide)
        · obtain ⟨hwidth, hheight⟩ := not_or.mp hsize
          obtain ⟨hnonzero, hle⟩ := not_or.mp hbytes
          have hfits : frame.Fits :=
            ⟨Int32.not_le.mp hwidth, Int32.not_le.mp hheight, hnonzero, Nat.le_of_not_lt hle⟩
          have hheader := header_storeStreamFrame hfits view
          rw [if_neg hbytes, if_pos hfits, Option.toList_some, Option.isSome_some]
          refine ⟨?_, ?_, ?_, ?_, ?_, ?_⟩
          · rw [hheader]
            exact h.magic
          · rw [hheader]
            exact h.version
          · rw [hheader]
            exact iff_of_true rfl rfl
          · rw [sequence_storeStreamFrame hfits, h.sequence, List.length_append,
              List.length_singleton, UInt32.ofNat_add]
            rfl
          · intro last hlast
            rw [List.getLast?_concat] at hlast
            obtain rfl := Option.some.inj hlast
            exact shows_storeStreamFrame hfits view
          · exact fun _ => List.append_ne_nil_of_right_ne_nil _ (List.cons_ne_nil _ _)

/-- A reader gets the last frame, if the last pass stored one and the number of frames is
    not the one it remembers. -/
theorem readFrame_eq {view : View} {frames : List ShownFrame} {ready : Bool}
    (h : StreamMemory view frames ready) (lastSequence : UInt32) (errorMessage : Bytes) :
    readFrame view lastSequence errorMessage =
      if ready = false then (.failed (utf8 "摄像头尚未输出可用画面"), lastSequence)
      else if UInt32.ofNat frames.length = lastSequence then (.failed errorMessage, lastSequence)
      else
        match frames.getLast? with
        | none => (.failed errorMessage, lastSequence)
        | some frame => (frame.returned errorMessage, UInt32.ofNat frames.length) := by
  have hvalid : ¬ (view.header.magic ≠ sharedFrameMagic ∨
      view.header.version ≠ sharedFrameVersion) := by
    rw [h.magic, h.version]
    simp
  rw [readFrame, if_neg hvalid]
  cases hready : ready with
  | false =>
      have hstatus : view.header.statusCode ≠ SharedFrameStatus.ready.code := by
        intro hcode
        have htrue := h.status.mp hcode
        rw [hready] at htrue
        cases htrue
      rw [if_pos hstatus, if_pos rfl]
  | true =>
      obtain ⟨frame, hlast⟩ := Option.ne_none_iff_exists'.mp
        (mt List.getLast?_eq_none_iff.mp (h.some hready))
      have hshows := h.last frame hlast
      have hbytes : ¬ (view.header.imageBytes = 0 ∨
          maxImageBytes < view.header.imageBytes.toNat) := by
        have hlength := hshows.imageBytes
        have hpos := hshows.nonempty
        have hfits := hshows.fits
        rintro (hzero | hlt)
        · rw [hzero, UInt32.toNat_zero] at hlength
          omega
        · omega
      rw [if_neg (not_not_intro (h.status.mpr hready)), if_neg hbytes, h.sequence, hlast,
        hshows.width, hshows.height, hshows.imageBytes, hshows.pixels]
      exact (if_neg Bool.noConfusion).symm

end Smile2Unlock.FaceRecognizer
