/-
  Smile2Unlock.FaceRecognizer.FrameLayout

  Which samples of a delivered frame `CaptureFrame` (camera.cppm) makes a pixel from.

  `layoutByte` is the layout of a frame: rows at the distance of the stride, the last one
  first for a negative stride of RGB, and the chroma plane of NV12 behind all rows of Y.
  `capture` runs the conversion (`convert`) on a locked buffer.  The two agree for RGB24;
  for RGB32 and NV12 `followsLayout_iff` says which strides the code takes into account.
-/

import Smile2Unlock.FaceRecognizer.CaptureFrame

namespace Smile2Unlock.FaceRecognizer

open Lib.Raster

-- ============================================================================
-- A run of the conversion
-- ============================================================================

/-- The end of a conversion: it is refused, or it touches memory outside a buffer, or there
    is a picture in `image.data`. -/
inductive Outcome where
  | failed
  | undefined
  | picture (image : Int → UInt8)

/-- The picture, if there is one, is as said. -/
def Outcome.Shows (p : (Int → UInt8) → Prop) : Outcome → Prop
  | .failed => True
  | .undefined => False
  | .picture image => p image

/-- The conversion of a locked buffer, with what `new` left in `image.data`; `argb_buffer`
    is filled with zeros at first. -/
def capture (lib : Libyuv) (s : Sample) (locked fresh : Int → UInt8) : Outcome :=
  match convert lib s with
  | .failed => .failed
  | .direct stores =>
      if Within s.currentLength.toNat (reads stores) ∧ Within (imageSize s) (writes stores) then
        .picture (execute locked stores fresh)
      else .undefined
  | .throughArgb toArgb toImage =>
      if (Within s.currentLength.toNat (reads toArgb) ∧ Within (argbSize s) (writes toArgb)) ∧
          Within (argbSize s) (reads toImage) ∧ Within (imageSize s) (writes toImage) then
        .picture (execute (execute locked toArgb fun _ => 0) toImage fresh)
      else .undefined

-- ============================================================================
-- The layout of a frame
-- ============================================================================

/-- The bytes that the pixels of a row need. -/
def rowBytes (s : Sample) : Nat :=
  match s.subtype with
  | .nv12 => s.width.toNat
  | .rgb24 => 3 * s.width.toNat
  | _ => 4 * s.width.toNat

/-- The row of the buffer that holds a row of the picture. -/
def layoutRow (s : Sample) (stride : Int32) (y : Nat) : Nat :=
  if stride.toInt < 0 then s.height.toNat - 1 - y else y

/-- The samples of U and V follow the rows of Y. -/
def chromaOffset (s : Sample) (stride : Int32) (y x : Nat) : Nat :=
  stride.toInt.natAbs * s.height.toNat + y / 2 * stride.toInt.natAbs + 2 * (x / 2)

/-- Where the layout of a frame ends. -/
def layoutEnd (s : Sample) (stride : Int32) : Nat :=
  match s.subtype with
  | .nv12 => chromaOffset s stride (s.height.toNat - 1) (s.width.toNat - 1) + 2
  | _ => (s.height.toNat - 1) * stride.toInt.natAbs + rowBytes s

/-- A frame that a camera may deliver as NV12, RGB24 or RGB32 with a reported stride: the
    rows do not overlap, they are all in the buffer, and only RGB has rows from the bottom
    up. -/
structure Delivered (s : Sample) (stride : Int32) : Prop where
  subtype : s.subtype = .nv12 ∨ s.subtype = .rgb24 ∨ s.subtype = .rgb32
  width : s.width ≠ 0
  height : s.height ≠ 0
  reported : s.stride = some stride
  upright : s.subtype = .nv12 → 0 ≤ stride.toInt
  padded : rowBytes s ≤ stride.toInt.natAbs
  complete : layoutEnd s stride ≤ s.currentLength.toNat

/-- Byte `c` (R, G, B) of the pixel at `x` and `y`, from the samples that the layout assigns
    to it. -/
def layoutByte (lib : Libyuv) (s : Sample) (stride : Int32) (locked : Int → UInt8)
    (y x c : Nat) : UInt8 :=
  match s.subtype with
  | .nv12 =>
      lib.nv12ToArgb [locked (y * stride.toInt.natAbs + x : Nat), locked (chromaOffset s stride y x : Nat),
        locked (chromaOffset s stride y x + 1 : Nat)] (2 - c)
  | .rgb24 => locked (layoutRow s stride y * stride.toInt.natAbs + (3 * x + (2 - c)) : Nat)
  | _ => locked (layoutRow s stride y * stride.toInt.natAbs + (4 * x + (2 - c)) : Nat)

/-- Every pixel of the picture is made from the samples that the layout assigns to it. -/
def FollowsLayout (s : Sample) (stride : Int32) : Prop :=
  ∀ (lib : Libyuv) (locked fresh : Int → UInt8),
    (capture lib s locked fresh).Shows fun image =>
      ∀ y < s.height.toNat, ∀ x < s.width.toNat, ∀ c < 3,
        image (pixelIndex s.width.toNat 3 y x c : Nat) = layoutByte lib s stride locked y x c

/-- The strides that the code of a format takes into account: all of them for RGB24, none
    but that of rows without gaps for RGB32, and for NV12 none with rows of Y that are
    padded.  A picture of 2^32 bytes or more as ARGB is left out, unless the size of its
    `argb_buffer` is 0 in 32 bits: then there is no picture. -/
def StrideUsed (s : Sample) (stride : Int32) : Prop :=
  match s.subtype with
  | .nv12 => 4 * (s.width.toNat * s.height.toNat) % 4294967296 = 0 ∨
      stride.toInt.natAbs = s.width.toNat ∧ 4 * (s.width.toNat * s.height.toNat) < 4294967296
  | .rgb32 => s.height = 1 ∨ stride.toInt = 4 * s.width.toNat
  | _ => True

theorem capture_direct {lib : Libyuv} {s : Sample} {locked fresh : Int → UInt8}
    {stores : List (Store UInt8)} {p : (Int → UInt8) → Prop} (h : convert lib s = .direct stores)
    (hreads : Within s.currentLength.toNat (reads stores))
    (hwrites : Within (imageSize s) (writes stores)) :
    (capture lib s locked fresh).Shows p ↔ p (execute locked stores fresh) := by
  rw [capture, h]
  simp only [if_pos (And.intro hreads hwrites), Outcome.Shows]

/-- Rows at a distance that is not less than their length. -/
theorem rows_fit {rows bytes pitch size : Nat} (hpadded : bytes ≤ pitch)
    (hend : (rows - 1) * pitch + bytes ≤ size) (hrows : 0 < rows) :
    (∀ y < rows, y * pitch + bytes ≤ size) ∧ bytes * rows ≤ size := by
  constructor
  · intro y hy
    have hstart : y * pitch ≤ (rows - 1) * pitch := Nat.mul_le_mul_right pitch (by omega)
    omega
  · obtain ⟨r, rfl⟩ : ∃ r, rows = r + 1 := ⟨rows - 1, by omega⟩
    calc bytes * (r + 1) = r * bytes + bytes := by ring
      _ ≤ r * pitch + bytes := Nat.add_le_add_right (Nat.mul_le_mul_left r hpadded) _
      _ ≤ size := hend

theorem sourceRow_eq (s : Sample) (stride : Int32) (y : Nat) :
    sourceRow s stride y = layoutRow s stride y := by
  simp only [sourceRow, Extent.row, layoutRow, decide_eq_true_eq, Int32.lt_iff_toInt_lt,
    Int32.toInt_zero]

theorem layoutRow_lt {s : Sample} (stride : Int32) {y : Nat} (hy : y < s.height.toNat) :
    layoutRow s stride y < s.height.toNat := by
  rw [layoutRow]
  split <;> omega

-- ============================================================================
-- RGB24
-- ============================================================================

/-- The loop over the rows leaves at each byte of the picture what the layout says. -/
theorem execute_rgb24Rows {s : Sample} {stride : Int32} {y x c : Nat}
    (hrows : ∀ y < s.height.toNat, y * stride.toInt.natAbs + 3 * s.width.toNat < 4294967296)
    (himage : 3 * (s.width.toNat * s.height.toNat) < 4294967296)
    (hy : y < s.height.toNat) (hx : x < s.width.toNat) (hc : c < 3) (locked fresh : Int → UInt8) :
    execute locked (rgb24Rows s stride) fresh (pixelIndex s.width.toNat 3 y x c : Nat) =
      locked (layoutRow s stride y * stride.toInt.natAbs + (3 * x + (2 - c)) : Nat) := by
  rw [rgb24Rows, execute_grid locked ?_ hy hx hc]
  · have hrow := hrows _ (layoutRow_lt stride hy)
    simp only [Store.result, List.map_cons, List.map_nil, copyByte, List.headD_cons,
      toNat_sourceStart hy, toNat_index, sourceRow_eq, UInt32.reduceToNat]
    rw [Nat.mod_eq_of_lt (by omega), Nat.mod_eq_of_lt (by omega)]
  · intro y hy x hx c hc
    have hstart : (UInt32.ofNat y * s.width * 3).toNat = y * s.width.toNat * 3 % 4294967296 := by
      simp
    have hbyte : 3 * (y * s.width.toNat + x) + c < 3 * (s.width.toNat * s.height.toNat) :=
      pixelIndex_lt hy hx hc
    simp only [hstart, toNat_index, UInt32.reduceToNat, pixelIndex]
    rw [Nat.mod_eq_of_lt (show y * s.width.toNat * 3 < 4294967296 by omega),
      Nat.mod_eq_of_lt (show 3 * x + c < 4294967296 by omega)]
    push_cast
    ring

theorem followsLayout_rgb24 {s : Sample} {stride : Int32} (h : Delivered s stride)
    (hrgb24 : s.subtype = .rgb24) : FollowsLayout s stride := by
  have hw := toNat_pos h.width
  have hh := toNat_pos h.height
  have hlen := s.currentLength.toNat_lt
  have hpadded := h.padded
  have hcomplete := h.complete
  simp only [layoutEnd, rowBytes, hrgb24] at hpadded hcomplete
  obtain ⟨hrows, hpicture⟩ := rows_fit hpadded hcomplete hh
  rw [Nat.mul_assoc] at hpicture
  have hstride : stride ≠ 0 := by
    rintro rfl
    simp only [Int32.toInt_zero, Int.natAbs_zero] at hpadded
    omega
  intro lib locked fresh
  have hconvert : convert lib s = .direct (rgb24Rows s stride) := by
    rw [convert, if_neg (not_or.mpr ⟨h.width, h.height⟩), hrgb24, h.reported]
    exact congrArg Conversion.direct (if_pos hstride)
  rw [capture_direct hconvert]
  · intro y hy x hx c hc
    rw [execute_rgb24Rows (fun y hy => Nat.lt_of_le_of_lt (hrows y hy) hlen) (by omega) hy hx hc,
      layoutByte, hrgb24]
  · rw [within_reads_rgb24Rows_iff hw (by omega)]
    intro y hy
    exact le_trans (Nat.add_le_add_right (Nat.mod_le _ _) _) (hrows y hy)
  · rw [within_writes_rgb24Rows_iff hw hh]
    omega

-- ============================================================================
-- RGB32
-- ============================================================================

/-- The loop over all pixels takes four bytes for each, whatever the stride. -/
theorem execute_contiguous {s : Sample} {y x c : Nat}
    (hpicture : 4 * (s.width.toNat * s.height.toNat) < 4294967296)
    (hy : y < s.height.toNat) (hx : x < s.width.toNat) (hc : c < 3) (locked fresh : Int → UInt8) :
    execute locked (contiguous s 4) fresh (pixelIndex s.width.toNat 3 y x c : Nat) =
      locked (4 * (y * s.width.toNat + x) + (2 - c) : Nat) := by
  have hcount := toNat_pixels hpicture
  have hpixel : y * s.width.toNat + x < s.width.toNat * s.height.toNat := by
    have hindex := @pixelIndex_lt s.height.toNat s.width.toNat 1 y x 0 hy hx (by decide)
    simp only [pixelIndex, Nat.one_mul, Nat.add_zero] at hindex
    exact hindex
  have hindex : pixelIndex s.width.toNat 3 y x c =
      pixelIndex (s.width * s.height).toNat 3 0 (y * s.width.toNat + x) c := by
    simp only [pixelIndex, Nat.zero_mul, Nat.zero_add]
  rw [hindex, contiguous, execute_grid locked ?_ Nat.one_pos (hcount ▸ hpixel) hc]
  · simp only [Store.result, List.map_cons, List.map_nil, copyByte, List.headD_cons, toNat_index,
      UInt32.reduceToNat]
    rw [Nat.mod_eq_of_lt (by omega)]
  · intro y' hy' i hi c hc
    have hzero : y' = 0 := by omega
    subst hzero
    simp only [toNat_index, UInt32.reduceToNat, pixelIndex, Nat.zero_mul, Nat.zero_add]
    rw [Nat.mod_eq_of_lt (by omega)]

/-- Rows without gaps and from the top down are where the loop reads them. -/
theorem contiguous_offsets_iff {w h : Nat} {stride : Int} (hw : 0 < w) (hh : 0 < h)
    (hpadded : 4 * w ≤ stride.natAbs) :
    (∀ y < h, ∀ x < w, ∀ c < 3, 4 * (y * w + x) + (2 - c) =
      (if stride < 0 then h - 1 - y else y) * stride.natAbs + (4 * x + (2 - c))) ↔
      h = 1 ∨ stride = 4 * w := by
  constructor
  · intro hsame
    by_contra hgap
    obtain ⟨hone, hstride⟩ := not_or.mp hgap
    by_cases hneg : stride < 0
    · -- the first pixel of the picture is in the last row
      have hfirst := hsame 0 hh 0 hw 0 (by decide)
      rw [if_pos hneg] at hfirst
      have hlast : stride.natAbs ≤ (h - 1 - 0) * stride.natAbs :=
        Nat.le_mul_of_pos_left _ (by omega)
      omega
    · have hsecond := hsame 1 (by omega) 0 hw 0 (by decide)
      rw [if_neg hneg] at hsecond
      omega
  · rintro hrows y hy x hx c hc
    rcases hrows with rfl | rfl
    · have hzero : y = 0 := by omega
      subst hzero
      simp only [Nat.sub_self, ite_self, Nat.zero_mul, Nat.zero_add]
    · rw [if_neg (by omega), show (4 * (w : Int)).natAbs = 4 * w by omega]
      ring

theorem followsLayout_rgb32_iff {s : Sample} {stride : Int32} (h : Delivered s stride)
    (hrgb32 : s.subtype = .rgb32) :
    FollowsLayout s stride ↔ s.height = 1 ∨ stride.toInt = 4 * s.width.toNat := by
  have hw := toNat_pos h.width
  have hh := toNat_pos h.height
  have hlen := s.currentLength.toNat_lt
  have hpadded := h.padded
  have hcomplete := h.complete
  simp only [layoutEnd, rowBytes, hrgb32] at hpadded hcomplete
  obtain ⟨-, hpicture⟩ := rows_fit hpadded hcomplete hh
  rw [Nat.mul_assoc] at hpicture
  have hcount := @toNat_pixels s (by omega)
  have hreads : Within s.currentLength.toNat (reads (contiguous s 4)) := by
    rw [within_reads_contiguous_iff, hcount]
    intro i hi c hc
    simp only [UInt32.reduceToNat]
    omega
  have hwrites : Within (imageSize s) (writes (contiguous s 4)) := by
    rw [within_writes_contiguous_iff (imageSize_lt s), toNat_imageSize, hcount]
    omega
  have hconvert : ∀ lib, convert lib s = .direct (contiguous s 4) := by
    intro lib
    rw [convert, if_neg (not_or.mpr ⟨h.width, h.height⟩), hrgb32]
  -- the loop and the layout take over one byte each
  have hbytes : FollowsLayout s stride ↔
      ∀ locked : Int → UInt8, ∀ y < s.height.toNat, ∀ x < s.width.toNat, ∀ c < 3,
        locked (4 * (y * s.width.toNat + x) + (2 - c) : Nat) =
          locked (layoutRow s stride y * stride.toInt.natAbs + (4 * x + (2 - c)) : Nat) := by
    simp only [FollowsLayout, capture_direct (hconvert _) hreads hwrites]
    constructor
    · intro hall locked y hy x hx c hc
      have hbyte := hall ⟨fun _ _ => 0, fun _ _ => 0⟩ locked (fun _ => 0) y hy x hx c hc
      rwa [execute_contiguous (by omega) hy hx hc, layoutByte, hrgb32] at hbyte
    · intro hall lib locked fresh y hy x hx c hc
      rw [execute_contiguous (by omega) hy hx hc, layoutByte, hrgb32]
      exact hall locked y hy x hx c hc
  have hone : s.height = 1 ↔ s.height.toNat = 1 := UInt32.toNat_inj.symm
  rw [hbytes, hone, ← contiguous_offsets_iff hw hh hpadded]
  constructor
  · intro hall y hy x hx c hc
    have hoffset := eq_of_forall_source (show (0 : UInt8) ≠ 1 by decide) fun locked =>
      hall locked y hy x hx c hc
    exact Int.natCast_inj.mp hoffset
  · intro hall locked y hy x hx c hc
    rw [hall y hy x hx c hc, layoutRow]

-- ============================================================================
-- NV12
-- ============================================================================

theorem capture_throughArgb {lib : Libyuv} {s : Sample} {locked fresh : Int → UInt8}
    {toArgb toImage : List (Store UInt8)} {p : (Int → UInt8) → Prop}
    (h : convert lib s = .throughArgb toArgb toImage) :
    (capture lib s locked fresh).Shows p ↔
      ((Within s.currentLength.toNat (reads toArgb) ∧ Within (argbSize s) (writes toArgb)) ∧
        Within (argbSize s) (reads toImage) ∧ Within (imageSize s) (writes toImage)) ∧
      p (execute (execute locked toArgb fun _ => 0) toImage fresh) := by
  rw [capture, h]
  simp only
  split
  · rename_i hbounds
    simp only [Outcome.Shows, hbounds, true_and, and_true]
  · rename_i hbounds
    simp only [Outcome.Shows, hbounds, false_and]

/-- The offset of a byte, with the length of a row as an `int`. -/
theorem packed_offset {pitch : UInt32} {width k rows y x c : Nat}
    (hpitch : pitch.toNat = k * width % 4294967296) (hsize : k * (width * rows) < 4294967296)
    (hy : y < rows) :
    (y : Int) * pitch.toInt32.toInt + (k * x + c : Nat) = (pixelIndex width k y x c : Nat) := by
  rw [pixelIndex]
  by_cases hfirst : y = 0
  · subst hfirst
    simp only [Nat.cast_zero, Int.zero_mul, Nat.zero_mul, Int.zero_add, Nat.zero_add]
  · -- there are two rows in less than 2^32 bytes
    have htwo : 2 * (k * width) ≤ k * (width * rows) := by
      calc 2 * (k * width) ≤ rows * (k * width) := Nat.mul_le_mul_right _ (by omega)
        _ = k * (width * rows) := by ring
    rw [toInt_toInt32, hpitch, Nat.mod_eq_of_lt (by omega), if_pos (by omega)]
    push_cast
    ring

theorem within_writes_nv12ToArgb_iff {lib : Libyuv} {s : Sample} {size : Extent}
    {stride : Int32} {uvPlane : UInt32} (hwidth : size.width = s.width.toNat)
    (hpos : 0 < s.width.toNat) (hrows : 0 < size.rows) :
    Within (argbSize s) (writes (nv12ToArgb lib size stride uvPlane stride (s.width * 4).toInt32)) ↔
      4 * s.width.toNat * size.rows ≤ argbSize s := by
  rw [nv12ToArgb, within_writes_grid_iff, hwidth,
    ← packed_pixels_iff (argb_pitch s) hrows (Nat.mul_pos (by decide) hpos) (argbSize_lt s)]
  exact forall_row_iff (p := fun y : Nat => ∀ x < s.width.toNat, ∀ c < 4,
    0 ≤ y * (s.width * 4).toInt32.toInt + (4 * x + c : Nat) ∧
      y * (s.width * 4).toInt32.toInt + (4 * x + c : Nat) < argbSize s)

/-- The size that libyuv is given, when neither number is negative as an `int`. -/
theorem extent_upright {s : Sample} (hw : 0 < s.width.toNat) (hh : 0 < s.height.toNat)
    (hwidth : s.width.toNat < 2147483648) (hheight : s.height.toNat < 2147483648) :
    extent s.width s.height = some ⟨s.height.toNat, s.width.toNat, false⟩ := by
  have hw' : s.width.toInt32.toInt = s.width.toNat := by rw [toInt_toInt32, if_pos hwidth]
  have hh' : s.height.toInt32.toInt = s.height.toNat := by rw [toInt_toInt32, if_pos hheight]
  rw [extent, hw', hh', if_neg (by omega), Int.natAbs_natCast, Int.toNat_natCast,
    decide_eq_false (by omega)]

theorem convert_nv12 {s : Sample} {stride : Int32} {size : Extent} (h : Delivered s stride)
    (hnv12 : s.subtype = .nv12) (hargb : argbSize s ≠ 0)
    (hextent : extent s.width s.height = some size) (lib : Libyuv) :
    convert lib s = .throughArgb
      (nv12ToArgb lib size (absStride stride) (s.width * s.height) (absStride stride)
        (s.width * 4).toInt32)
      (argbToRaw size (s.width * 4).toInt32 (s.width * 3).toInt32) := by
  rw [convert, if_neg (not_or.mpr ⟨h.width, h.height⟩), hnv12]
  simp only [convertYuv, if_neg hargb, hextent, nv12Stride, h.reported]

/-- Both steps together: libyuv makes the pixel from the samples at the offsets it is
    given. -/
theorem execute_nv12 {lib : Libyuv} {s : Sample} {stride : Int32} {uvPlane : UInt32} {y x c : Nat}
    (hpicture : 4 * (s.width.toNat * s.height.toNat) < 4294967296)
    (hy : y < s.height.toNat) (hx : x < s.width.toNat) (hc : c < 3) (locked fresh : Int → UInt8) :
    execute
      (execute locked (nv12ToArgb lib ⟨s.height.toNat, s.width.toNat, false⟩ stride uvPlane stride
        (s.width * 4).toInt32) fun _ => 0)
      (argbToRaw ⟨s.height.toNat, s.width.toNat, false⟩ (s.width * 4).toInt32
        (s.width * 3).toInt32) fresh (pixelIndex s.width.toNat 3 y x c : Nat) =
    lib.nv12ToArgb [locked (y * stride.toInt + (x : Nat)),
      locked (uvPlane.toNat + (y / 2 : Nat) * stride.toInt + (2 * (x / 2) : Nat)),
      locked (uvPlane.toNat + (y / 2 : Nat) * stride.toInt + (2 * (x / 2) + 1 : Nat))] (2 - c) := by
  rw [argbToRaw, execute_grid _ ?_ hy hx hc]
  · simp only [Store.result, List.map_cons, List.map_nil, copyByte, List.headD_cons, Extent.row,
      Bool.false_eq_true, if_false]
    rw [packed_offset (argb_pitch s) hpicture hy, nv12ToArgb, execute_grid locked ?_ hy hx (by omega)]
    · simp only [Store.result, List.map_cons, List.map_nil]
    · intro y hy x hx c hc
      simp only [Extent.row, Bool.false_eq_true, if_false]
      exact packed_offset (argb_pitch s) hpicture hy
  · intro y hy x hx c hc
    exact packed_offset (raw_pitch s) (by omega) hy

/-- A delivered frame with rows that wrap as an `int` is not as large as its buffers. -/
theorem argb_not_wrapped {w h pitch len : Nat} (hw : 0 < w) (hh : h < 4294967296)
    (hpadded : w ≤ pitch) (hend : pitch * h + (h - 1) / 2 * pitch + 2 * ((w - 1) / 2) + 2 ≤ len)
    (hlen : len < 4294967296)
    (hargb : 4 * w * (if h < 2147483648 then h else 4294967296 - h) ≤ 4 * (w * h) % 4294967296)
    (himage : 3 * w * (if h < 2147483648 then h else 4294967296 - h) ≤ 3 * (w * h) % 4294967296) :
    4 * (w * h) < 4294967296 := by
  by_cases hsmall : h < 2147483648
  · rw [if_pos hsmall, Nat.mul_assoc] at hargb
    omega
  · -- so many rows are of one byte
    have hpitch : pitch = 1 := by
      by_contra hne
      have htwo : 2 * h ≤ pitch * h := Nat.mul_le_mul_right h (by omega)
      omega
    have hwidth : w = 1 := by omega
    subst hpitch hwidth
    rw [if_neg hsmall] at himage
    omega

theorem rowCount_eq (s : Sample) : rowCount s =
    if s.height.toNat < 2147483648 then s.height.toNat else 4294967296 - s.height.toNat := by
  have hlt := s.height.toNat_lt
  rw [rowCount, toInt_toInt32]
  split <;> omega

theorem picture_lt_of_followsLayout {s : Sample} {stride : Int32} (h : Delivered s stride)
    (hnv12 : s.subtype = .nv12) (hargb : argbSize s ≠ 0) (hfollows : FollowsLayout s stride) :
    4 * (s.width.toNat * s.height.toNat) < 4294967296 := by
  have hw := toNat_pos h.width
  have hpadded := h.padded
  have hcomplete := h.complete
  simp only [layoutEnd, chromaOffset, rowBytes, hnv12] at hpadded hcomplete
  obtain ⟨hrows, hextent⟩ := extent_eq h.width h.height
  rcases hextent with ⟨hlarge, -⟩ | ⟨-, inverted, hsome⟩
  · -- two rows of so many bytes are longer than any buffer
    have hlen := s.currentLength.toNat_lt
    have hrow : stride.toInt.natAbs ≤ stride.toInt.natAbs * s.height.toNat :=
      Nat.le_mul_of_pos_right _ (toNat_pos h.height)
    omega
  · have hshows := hfollows ⟨fun _ _ => 0, fun _ _ => 0⟩ (fun _ => 0) fun _ => 0
    rw [capture_throughArgb (convert_nv12 h hnv12 hargb hsome _)] at hshows
    obtain ⟨⟨⟨-, hargbWrites⟩, -, himageWrites⟩, -⟩ := hshows
    rw [within_writes_nv12ToArgb_iff rfl hw hrows, toNat_argbSize, rowCount_eq] at hargbWrites
    rw [within_writes_argbToRaw_iff rfl hw hrows, toNat_imageSize, rowCount_eq] at himageWrites
    exact argb_not_wrapped hw s.height.toNat_lt hpadded hcomplete s.currentLength.toNat_lt
      hargbWrites himageWrites

/-- A stride of NV12 is used as it was reported. -/
theorem toInt_absStride_of_nonneg {stride : Int32} (h : 0 ≤ stride.toInt) :
    (absStride stride).toInt = stride.toInt.natAbs := by
  rw [toInt_absStride, if_neg (by omega)]

/-- Without padding all buffers are kept to. -/
theorem within_nv12 {lib : Libyuv} {s : Sample} {stride : Int32} (h : Delivered s stride)
    (hnv12 : s.subtype = .nv12) (hpicture : 4 * (s.width.toNat * s.height.toNat) < 4294967296)
    (hpadded : stride.toInt.natAbs = s.width.toNat) :
    (Within s.currentLength.toNat (reads (nv12ToArgb lib ⟨s.height.toNat, s.width.toNat, false⟩
        (absStride stride) (s.width * s.height) (absStride stride) (s.width * 4).toInt32)) ∧
      Within (argbSize s) (writes (nv12ToArgb lib ⟨s.height.toNat, s.width.toNat, false⟩
        (absStride stride) (s.width * s.height) (absStride stride) (s.width * 4).toInt32))) ∧
      Within (argbSize s) (reads (argbToRaw ⟨s.height.toNat, s.width.toNat, false⟩
        (s.width * 4).toInt32 (s.width * 3).toInt32)) ∧
      Within (imageSize s) (writes (argbToRaw ⟨s.height.toNat, s.width.toNat, false⟩
        (s.width * 4).toInt32 (s.width * 3).toInt32)) := by
  have hw := toNat_pos h.width
  have hh := toNat_pos h.height
  have hargb : argbSize s = 4 * (s.width.toNat * s.height.toNat) := by
    rw [toNat_argbSize, Nat.mod_eq_of_lt hpicture]
  refine ⟨⟨?_, ?_⟩, ?_, ?_⟩
  · have hcomplete := h.complete
    have hlast : (s.height.toNat - 1) * s.width.toNat + s.width.toNat =
        s.width.toNat * s.height.toNat := by
      obtain ⟨r, hr⟩ : ∃ r, s.height.toNat = r + 1 := ⟨s.height.toNat - 1, by omega⟩
      rw [hr, Nat.add_sub_cancel]
      ring
    rw [within_reads_nv12ToArgb_iff hw hh, toInt_absStride_of_nonneg (h.upright hnv12),
      toNat_pixels hpicture, hpadded]
    simp only [layoutEnd, hnv12, chromaOffset, hpadded] at hcomplete
    dsimp only
    refine ⟨.inl (Int.natCast_nonneg _), ?_, ?_⟩
    · norm_cast
      omega
    · norm_cast
      omega
  · rw [within_writes_nv12ToArgb_iff rfl hw hh, hargb, Nat.mul_assoc]
  · rw [argbToRaw, within_reads_grid_iff]
    intro y hy x hx c hc o ho
    rw [List.mem_singleton] at ho
    subst ho
    have hbyte := pixelIndex_lt hy hx (show 2 - c < 4 by omega)
    simp only [Extent.row, Bool.false_eq_true, if_false] at hbyte ⊢
    rw [packed_offset (argb_pitch s) hpicture hy, hargb]
    exact ⟨Int.natCast_nonneg _, Int.ofNat_lt.mpr hbyte⟩
  · rw [within_writes_argbToRaw_iff rfl hw hh, toNat_imageSize, Nat.mul_assoc]
    dsimp only
    omega

/-- A picture that 32 bits can describe is right exactly if the rows of Y have no gaps: the
    chroma plane is taken from behind `width * height` bytes. -/
theorem followsLayout_nv12_iff_of_lt {s : Sample} {stride : Int32} (h : Delivered s stride)
    (hnv12 : s.subtype = .nv12) (hpicture : 4 * (s.width.toNat * s.height.toNat) < 4294967296) :
    FollowsLayout s stride ↔ stride.toInt.natAbs = s.width.toNat := by
  have hw := toNat_pos h.width
  have hh := toNat_pos h.height
  have hwidth : s.width.toNat ≤ s.width.toNat * s.height.toNat := Nat.le_mul_of_pos_right _ hh
  have hheight : s.height.toNat ≤ s.width.toNat * s.height.toNat := Nat.le_mul_of_pos_left _ hw
  have hcount := toNat_pixels hpicture
  have hargb : argbSize s ≠ 0 := by
    rw [toNat_argbSize, Nat.mod_eq_of_lt hpicture]
    omega
  have hconvert := convert_nv12 h hnv12 hargb (extent_upright hw hh (by omega) (by omega))
  constructor
  · intro hfollows
    -- the first sample of U, with the byte of libyuv taken from it
    have hoffset : ((s.width.toNat * s.height.toNat : Nat) : Int) =
        (chromaOffset s stride 0 0 : Nat) := by
      refine eq_of_forall_source (show (0 : UInt8) ≠ 1 by decide) fun locked => ?_
      have hshows := hfollows ⟨fun _ _ => 0, fun samples _ => samples.getD 1 0⟩ locked fun _ => 0
      rw [capture_throughArgb (hconvert _)] at hshows
      have hpixel := hshows.2 0 hh 0 hw 0 (by decide)
      rw [execute_nv12 hpicture hh hw (by decide), layoutByte, hnv12, hcount] at hpixel
      simpa using hpixel
    have hplane : s.width.toNat * s.height.toNat = stride.toInt.natAbs * s.height.toNat := by
      have hnat := Int.natCast_inj.mp hoffset
      simpa [chromaOffset] using hnat
    exact (Nat.mul_right_cancel hh hplane).symm
  · intro hpadded lib locked fresh
    rw [capture_throughArgb (hconvert lib)]
    refine ⟨within_nv12 h hnv12 hpicture hpadded, fun y hy x hx c hc => ?_⟩
    rw [execute_nv12 hpicture hy hx hc, layoutByte, hnv12,
      toInt_absStride_of_nonneg (h.upright hnv12), hcount, chromaOffset, hpadded]
    norm_cast

theorem followsLayout_nv12_iff {s : Sample} {stride : Int32} (h : Delivered s stride)
    (hnv12 : s.subtype = .nv12) : FollowsLayout s stride ↔
      4 * (s.width.toNat * s.height.toNat) % 4294967296 = 0 ∨
        stride.toInt.natAbs = s.width.toNat ∧
          4 * (s.width.toNat * s.height.toNat) < 4294967296 := by
  rw [← toNat_argbSize]
  by_cases hargb : argbSize s = 0
  · -- there is no picture
    refine iff_of_true (fun lib locked fresh => ?_) (.inl hargb)
    have hconvert : convert lib s = .failed := by
      rw [convert, if_neg (not_or.mpr ⟨h.width, h.height⟩), hnv12]
      exact if_pos hargb
    rw [capture, hconvert]
    trivial
  · rw [or_iff_right hargb]
    constructor
    · intro hfollows
      have hpicture := picture_lt_of_followsLayout h hnv12 hargb hfollows
      exact ⟨(followsLayout_nv12_iff_of_lt h hnv12 hpicture).mp hfollows, hpicture⟩
    · rintro ⟨hpadded, hpicture⟩
      exact (followsLayout_nv12_iff_of_lt h hnv12 hpicture).mpr hpadded

-- ============================================================================
-- The three formats
-- ============================================================================

/-- A delivered frame is converted by its layout exactly if the code of its format uses the
    stride that was reported. -/
theorem followsLayout_iff {s : Sample} {stride : Int32} (h : Delivered s stride) :
    FollowsLayout s stride ↔ StrideUsed s stride := by
  rw [StrideUsed]
  rcases h.subtype with hnv12 | hrgb24 | hrgb32
  · rw [hnv12]
    exact followsLayout_nv12_iff h hnv12
  · rw [hrgb24]
    exact iff_of_true (followsLayout_rgb24 h hrgb24) trivial
  · rw [hrgb32]
    exact followsLayout_rgb32_iff h hrgb32

/-- RGB24 from the bottom up with padded rows. -/
theorem followsLayout_bottomUp : FollowsLayout ⟨.rgb24, 2, 2, some (-8), 14⟩ (-8) :=
  (followsLayout_iff
    { subtype := by decide, width := by decide, height := by decide, reported := rfl
      upright := fun h => absurd h (by decide), padded := by decide, complete := by decide }).mpr
    trivial

/-- NV12 with rows of four bytes for two pixels: the chroma plane is at 8, and is read from
    4 on. -/
theorem followsLayout_fails :
    ¬ ∀ (s : Sample) (stride : Int32), Delivered s stride → FollowsLayout s stride := by
  intro h
  have hdelivered : Delivered ⟨.nv12, 2, 2, some 4, 10⟩ 4 :=
    { subtype := by decide, width := by decide, height := by decide, reported := rfl
      upright := fun _ => by decide, padded := by decide, complete := by decide }
  rcases (followsLayout_nv12_iff hdelivered rfl).mp (h _ _ hdelivered) with hzero | ⟨hstride, -⟩
  · exact absurd hzero (by decide)
  · exact absurd hstride (by decide)

end Smile2Unlock.FaceRecognizer
