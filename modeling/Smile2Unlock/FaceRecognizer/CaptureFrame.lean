/-
  Smile2Unlock.FaceRecognizer.CaptureFrame

  `CameraCapture::CaptureFrame` (camera.cppm) from the locked buffer of a sample to the RGB
  picture: the four formats and the memory they touch.

  The loops and the calls of libyuv are lists of stores (`Lib.Raster`), with the offsets in
  the 32-bit arithmetic of the code.  libyuv is a parameter that says what it makes of the
  samples of a pixel; which rows it reads and writes follows from the strides and sizes it
  is given.

  Nothing compares the offsets with `currentLength`: `inBounds_iff` says for which samples
  both buffers are kept to.
-/

import Smile2Unlock.Lib.Raster

namespace Smile2Unlock.FaceRecognizer

open Lib.Raster

-- ============================================================================
-- Samples
-- ============================================================================

/-- The subtypes that `CaptureFrame` knows, and any other. -/
inductive VideoFormat where
  | yuy2
  | nv12
  | rgb24
  | rgb32
  | other
deriving DecidableEq, Repr

/-- A sample of the reader: the current media type, with `MF_MT_DEFAULT_STRIDE` if it is
    set, and the length of the locked buffer. -/
structure Sample where
  subtype : VideoFormat
  width : UInt32
  height : UInt32
  stride : Option Int32
  currentLength : UInt32
deriving DecidableEq

/-- What libyuv makes of the samples of a pixel: the bytes of the ARGB pixel, which lie in
    memory as B, G, R, A. -/
structure Libyuv where
  yuy2ToArgb : List UInt8 → Nat → UInt8
  nv12ToArgb : List UInt8 → Nat → UInt8

/-- The size that libyuv is given; a negative height turns the picture over. -/
structure Extent where
  rows : Nat
  width : Nat
  inverted : Bool

/-- The arguments `width` and `height` are of type `int`; `none` is a return value other
    than 0. -/
def extent (width height : UInt32) : Option Extent :=
  if width.toInt32.toInt ≤ 0 ∨ height.toInt32.toInt = 0 then none
  else some ⟨height.toInt32.toInt.natAbs, width.toInt32.toInt.toNat, height.toInt32.toInt < 0⟩

def Extent.row (size : Extent) (y : Nat) : Nat := if size.inverted then size.rows - 1 - y else y

/-- `abs(stride)`, and `(stride < 0) ? -stride : stride`. -/
def absStride (stride : Int32) : Int32 := if stride < 0 then -stride else stride

-- ============================================================================
-- Conversions
-- ============================================================================

/-- A byte that is taken over. -/
def copyByte (samples : List UInt8) : UInt8 := samples.headD 0

/-- `libyuv::YUY2ToARGB`: two pixels have four bytes, Y U Y V. -/
def yuy2ToArgb (lib : Libyuv) (size : Extent) (yuy2Stride argbStride : Int32) :
    List (Store UInt8) :=
  grid size.rows size.width 4 fun y x c =>
    { target := y * argbStride.toInt + (4 * x + c : Nat)
      sources := [size.row y * yuy2Stride.toInt + (2 * x : Nat),
        size.row y * yuy2Stride.toInt + (4 * (x / 2) + 1 : Nat),
        size.row y * yuy2Stride.toInt + (4 * (x / 2) + 3 : Nat)]
      value := fun samples => lib.yuy2ToArgb samples c }

/-- `libyuv::NV12ToARGB`: a plane of Y, and one of U and V for two by two pixels. -/
def nv12ToArgb (lib : Libyuv) (size : Extent) (yStride : Int32) (uvPlane : UInt32)
    (uvStride argbStride : Int32) : List (Store UInt8) :=
  grid size.rows size.width 4 fun y x c =>
    { target := size.row y * argbStride.toInt + (4 * x + c : Nat)
      sources := [y * yStride.toInt + (x : Nat),
        uvPlane.toNat + (y / 2 : Nat) * uvStride.toInt + (2 * (x / 2) : Nat),
        uvPlane.toNat + (y / 2 : Nat) * uvStride.toInt + (2 * (x / 2) + 1 : Nat)]
      value := fun samples => lib.nv12ToArgb samples c }

/-- `libyuv::ARGBToRAW`: R, G, B. -/
def argbToRaw (size : Extent) (argbStride rawStride : Int32) : List (Store UInt8) :=
  grid size.rows size.width 3 fun y x c =>
    { target := y * rawStride.toInt + (3 * x + c : Nat)
      sources := [size.row y * argbStride.toInt + (4 * x + (2 - c) : Nat)]
      value := copyByte }

/-- The loop for RGB24 with a stride; `height - 1 - y` and the products are of type
    `UINT32`. -/
def rgb24Rows (s : Sample) (stride : Int32) : List (Store UInt8) :=
  grid s.height.toNat s.width.toNat 3 fun y x c =>
    let row := if stride < 0 then s.height - 1 - UInt32.ofNat y else UInt32.ofNat y
    { target := (UInt32.ofNat y * s.width * 3).toNat +
        (UInt32.ofNat x * 3 + UInt32.ofNat c).toNat
      sources := [((row * (absStride stride).toUInt32).toNat +
        (UInt32.ofNat x * 3 + UInt32.ofNat (2 - c)).toNat : Nat)]
      value := copyByte }

/-- The loop over `width * height` pixels without a stride: RGB24 with the stride 0, and
    RGB32. -/
def contiguous (s : Sample) (pixelBytes : UInt32) : List (Store UInt8) :=
  grid 1 (s.width * s.height).toNat 3 fun _ i c =>
    { target := (UInt32.ofNat i * 3 + UInt32.ofNat c).toNat
      sources := [((UInt32.ofNat i * pixelBytes + UInt32.ofNat (2 - c)).toNat : Nat)]
      value := copyByte }

/-- What is done with a sample: from the locked buffer to `image.data`, or through
    `argb_buffer`. -/
inductive Conversion where
  | failed
  | direct (stores : List (Store UInt8))
  | throughArgb (toArgb toImage : List (Store UInt8))

/-- The sizes of `image.data` and of `argb_buffer`. -/
def imageSize (s : Sample) : Nat := (s.width * s.height * 3).toNat

def argbSize (s : Sample) : Nat := (s.width * s.height * 4).toNat

/-- The formats of YUV; both calls of libyuv get the same size.  An `argb_buffer` without
    bytes has no address, which libyuv refuses, too. -/
def convertYuv (s : Sample) (toArgb : Extent → List (Store UInt8)) : Conversion :=
  if argbSize s = 0 then .failed
  else
    match extent s.width s.height with
    | none => .failed
    | some size =>
        .throughArgb (toArgb size) (argbToRaw size (s.width * 4).toInt32 (s.width * 3).toInt32)

def yuy2Stride (s : Sample) : Int32 :=
  match s.stride with
  | some stride => absStride stride
  | none => (s.width * 2).toInt32

def nv12Stride (s : Sample) : Int32 :=
  match s.stride with
  | some stride => absStride stride
  | none => ((s.width + 1) &&& ~~~1).toInt32

/-- The part of `CaptureFrame` behind the checks of the media type. -/
def convert (lib : Libyuv) (s : Sample) : Conversion :=
  if s.width = 0 ∨ s.height = 0 then .failed
  else
    match s.subtype with
    | .yuy2 => convertYuv s fun size => yuy2ToArgb lib size (yuy2Stride s) (s.width * 4).toInt32
    | .nv12 => convertYuv s fun size =>
        nv12ToArgb lib size (nv12Stride s) (s.width * s.height) (nv12Stride s)
          (s.width * 4).toInt32
    | .rgb24 =>
        .direct (if s.stride.getD 0 ≠ 0 then rgb24Rows s (s.stride.getD 0) else contiguous s 3)
    | .rgb32 => .direct (contiguous s 4)
    | .other => .failed

-- ============================================================================
-- The memory they touch
-- ============================================================================

/-- The offsets that are read from the locked buffer, and those that are written to
    `image.data`. -/
def Conversion.lockedReads : Conversion → List Int
  | .failed => []
  | .direct stores => reads stores
  | .throughArgb toArgb _ => reads toArgb

def Conversion.imageWrites : Conversion → List Int
  | .failed => []
  | .direct stores => writes stores
  | .throughArgb _ toImage => writes toImage

/-- The locked buffer is read below `currentLength` only, and `image.data` is written below
    its size. -/
def InBounds (lib : Libyuv) (s : Sample) : Prop :=
  Within s.currentLength.toNat (convert lib s).lockedReads ∧
    Within (imageSize s) (convert lib s).imageWrites

-- ============================================================================
-- Offsets in 32 bits
-- ============================================================================

theorem toNat_pos {n : UInt32} (h : n ≠ 0) : 0 < n.toNat :=
  Nat.pos_of_ne_zero fun hzero => h (UInt32.toNat_inj.mp hzero)

theorem toInt_toInt32 (x : UInt32) :
    x.toInt32.toInt =
      if x.toNat < 2147483648 then (x.toNat : Int) else x.toNat - 4294967296 := by
  have hmod : x.toInt32.toInt = (x.toNat : Int).bmod 4294967296 := by
    show x.toBitVec.toInt = _
    rw [BitVec.toInt_eq_toNat_bmod]
    rfl
  have hlt := x.toNat_lt
  rw [hmod, Int.bmod_def]
  split <;> split <;> omega

/-- The index of a byte of a pixel. -/
theorem toNat_index (k : UInt32) (i c : Nat) :
    (UInt32.ofNat i * k + UInt32.ofNat c).toNat = (k.toNat * i + c) % 4294967296 := by
  simp [Nat.mul_comm]

theorem toNat_imageSize (s : Sample) :
    imageSize s = 3 * (s.width.toNat * s.height.toNat) % 4294967296 := by
  simp [imageSize, Nat.mul_comm]

theorem toNat_argbSize (s : Sample) :
    argbSize s = 4 * (s.width.toNat * s.height.toNat) % 4294967296 := by
  simp [argbSize, Nat.mul_comm]

theorem imageSize_lt (s : Sample) : imageSize s < 4294967296 := UInt32.toNat_lt _

theorem argbSize_lt (s : Sample) : argbSize s < 4294967296 := UInt32.toNat_lt _

/-- The number of pixels, for a picture that 32 bits can describe as ARGB. -/
theorem toNat_pixels {s : Sample}
    (hpicture : 4 * (s.width.toNat * s.height.toNat) < 4294967296) :
    (s.width * s.height).toNat = s.width.toNat * s.height.toNat := by
  rw [UInt32.toNat_mul, Nat.mod_eq_of_lt (by omega)]

/-- The lengths of a row of ARGB and of RGB. -/
theorem argb_pitch (s : Sample) : (s.width * 4).toNat = 4 * s.width.toNat % 4294967296 := by
  simp [Nat.mul_comm]

theorem raw_pitch (s : Sample) : (s.width * 3).toNat = 3 * s.width.toNat % 4294967296 := by
  simp [Nat.mul_comm]

/-- Bytes with an index that wraps stay below a size exactly if there are not more. -/
theorem wrapped_bytes_iff {n k size : Nat} (hsize : size < 4294967296) :
    (∀ i < n, ∀ c < k, (k * i + c) % 4294967296 < size) ↔ k * n ≤ size := by
  rw [forall_bytes_iff (p := fun b => b % 4294967296 < size)]
  constructor
  · intro h
    by_contra hlt
    have hbyte := h size (by omega)
    omega
  · intro h b hb
    omega

/-- Three of the four bytes of each pixel. -/
theorem wrapped_pixels_iff {n size : Nat} (hsize : size < 4294967296) :
    (∀ i < n, ∀ c < 3, (4 * i + c) % 4294967296 < size) ↔ min (4 * n) 4294967296 ≤ size + 1 := by
  constructor
  · intro h
    by_cases hn : n = 0
    · omega
    · have hlast := h (min n 1073741824 - 1) (by omega) 2 (by decide)
      omega
  · intro h i hi c hc
    omega

/-- Rows without gaps, when their length is passed as an `int`. -/
theorem packed_rows_iff {pitch : UInt32} {bytes rows size : Nat}
    (hpitch : pitch.toNat = bytes % 4294967296) (hrows : 0 < rows) (hsize : size < 4294967296) :
    ((0 ≤ pitch.toInt32.toInt ∨ rows = 1) ∧
      ((rows - 1 : Nat) : Int) * pitch.toInt32.toInt + bytes ≤ size) ↔ bytes * rows ≤ size := by
  obtain ⟨r, rfl⟩ : ∃ r, rows = r + 1 := ⟨rows - 1, by omega⟩
  rw [toInt_toInt32, hpitch, Nat.add_sub_cancel, Nat.mul_add, Nat.mul_one]
  by_cases hshort : bytes < 2147483648
  · have hmod : bytes % 4294967296 = bytes := by omega
    rw [hmod, if_pos hshort]
    have hcomm : ((r : Nat) : Int) * (bytes : Int) = (bytes * r : Nat) := by
      push_cast
      ring
    rw [hcomm]
    omega
  · -- a second row would not fit
    have hsecond : r ≠ 0 → 2147483648 ≤ bytes * r := by
      intro hr
      calc 2147483648 ≤ bytes := Nat.le_of_not_lt hshort
        _ ≤ bytes * r := Nat.le_mul_of_pos_right bytes (Nat.pos_of_ne_zero hr)
    constructor
    · rintro ⟨hsign, hle⟩
      by_cases hr : r = 0
      · subst hr
        simp only [Nat.cast_zero, Int.zero_mul] at hle
        omega
      · split at hsign
        · rename_i hsmall
          rw [if_pos hsmall] at hle
          have hnonneg : (0 : Int) ≤ (r : Int) * (bytes % 4294967296 : Nat) := by positivity
          omega
        · omega
    · intro hle
      have hr : r = 0 := by
        by_contra hr
        have := hsecond hr
        omega
      subst hr
      refine ⟨.inr rfl, ?_⟩
      simp only [Nat.cast_zero, Int.zero_mul]
      omega

-- ============================================================================
-- The calls of libyuv
-- ============================================================================

/-- The rows of the picture for libyuv. -/
def rowCount (s : Sample) : Nat := s.height.toInt32.toInt.natAbs

/-- A width that is negative as an `int` is refused, any other one is taken. -/
theorem extent_eq {s : Sample} (hwidth : s.width ≠ 0) (hheight : s.height ≠ 0) :
    0 < rowCount s ∧
    ((2147483648 ≤ s.width.toNat ∧ extent s.width s.height = none) ∨
      (s.width.toNat < 2147483648 ∧
        ∃ inverted, extent s.width s.height = some ⟨rowCount s, s.width.toNat, inverted⟩)) := by
  have hw := toNat_pos hwidth
  have hh := toNat_pos hheight
  have hwlt := s.width.toNat_lt
  have hhlt := s.height.toNat_lt
  have hheight' : s.height.toInt32.toInt ≠ 0 := by
    rw [toInt_toInt32]
    split <;> omega
  refine ⟨Int.natAbs_pos.mpr hheight', ?_⟩
  by_cases hneg : 2147483648 ≤ s.width.toNat
  · refine .inl ⟨hneg, if_pos (.inl ?_)⟩
    rw [toInt_toInt32, if_neg (Nat.not_lt.mpr hneg)]
    omega
  · have hwidth' : s.width.toInt32.toInt = s.width.toNat := by
      rw [toInt_toInt32, if_pos (Nat.lt_of_not_le hneg)]
    refine .inr ⟨Nat.lt_of_not_le hneg, decide (s.height.toInt32.toInt < 0), ?_⟩
    rw [extent, hwidth', if_neg (not_or.mpr ⟨by omega, hheight'⟩), Int.toNat_natCast, rowCount]

/-- Turning the picture over visits the same rows. -/
theorem forall_row_iff {size : Extent} {p : Nat → Prop} :
    (∀ y < size.rows, p (size.row y)) ↔ ∀ y < size.rows, p y := by
  cases hinverted : size.inverted with
  | false => simp [Extent.row, hinverted]
  | true =>
      simp only [Extent.row, hinverted, if_true]
      constructor
      · intro h y hy
        have hrow := h (size.rows - 1 - y) (by omega)
        rwa [show size.rows - 1 - (size.rows - 1 - y) = y by omega] at hrow
      · exact fun h y hy => h _ (by omega)

/-- The bytes that a row of YUY2 needs: four for two pixels, also for a last single one. -/
theorem yuy2_row_iff {width : Nat} (hwidth : 0 < width) {start : Int} {size : Nat} :
    (∀ x < width, Within size [start + (2 * x : Nat), start + (4 * (x / 2) + 1 : Nat),
      start + (4 * (x / 2) + 3 : Nat)]) ↔
    ∀ b < 4 * ((width + 1) / 2), 0 ≤ start + (b : Nat) ∧ start + (b : Nat) < size := by
  simp only [Within, List.mem_cons, List.not_mem_nil, or_false, forall_eq_or_imp, forall_eq]
  constructor
  · intro h b hb
    have hfirst := (h 0 hwidth).1
    have hlast := (h (width - 1) (by omega)).2.2
    omega
  · intro h x hx
    have hy := h (2 * x) (by omega)
    have hu := h (4 * (x / 2) + 1) (by omega)
    have hv := h (4 * (x / 2) + 3) (by omega)
    omega

/-- The bytes that a row of the chroma plane of NV12 needs. -/
theorem chroma_row_iff {width : Nat} (hwidth : 0 < width) {start : Int} {size : Nat} :
    (∀ x < width, Within size [start + (2 * (x / 2) : Nat), start + (2 * (x / 2) + 1 : Nat)]) ↔
    ∀ b < 2 * ((width + 1) / 2), 0 ≤ start + (b : Nat) ∧ start + (b : Nat) < size := by
  simp only [Within, List.mem_cons, List.not_mem_nil, or_false, forall_eq_or_imp, forall_eq]
  constructor
  · intro h b hb
    have hfirst := (h 0 hwidth).1
    have hlast := (h (width - 1) (by omega)).2
    omega
  · intro h x hx
    have hu := h (2 * (x / 2)) (by omega)
    have hv := h (2 * (x / 2) + 1) (by omega)
    omega

/-- Pixels that are written row by row, with the length of a row as an `int`. -/
theorem packed_pixels_iff {pitch : UInt32} {width k rows size : Nat}
    (hpitch : pitch.toNat = k * width % 4294967296) (hrows : 0 < rows) (hbytes : 0 < k * width)
    (hsize : size < 4294967296) :
    (∀ y < rows, ∀ x < width, ∀ c < k,
      0 ≤ y * pitch.toInt32.toInt + (k * x + c : Nat) ∧
        y * pitch.toInt32.toInt + (k * x + c : Nat) < size) ↔ k * width * rows ≤ size := by
  rw [← packed_rows_iff hpitch hrows hsize, ← rows_within_iff hrows hbytes]
  refine forall_congr' fun y => imp_congr_right fun _ => ?_
  exact forall_bytes_iff (p := fun b : Nat =>
    0 ≤ y * pitch.toInt32.toInt + (b : Int) ∧ y * pitch.toInt32.toInt + (b : Int) < size)

theorem within_writes_argbToRaw_iff {s : Sample} {size : Extent} {argbStride : Int32}
    (hwidth : size.width = s.width.toNat) (hpos : 0 < s.width.toNat) (hrows : 0 < size.rows) :
    Within (imageSize s) (writes (argbToRaw size argbStride (s.width * 3).toInt32)) ↔
      3 * s.width.toNat * size.rows ≤ imageSize s := by
  rw [argbToRaw, within_writes_grid_iff, hwidth]
  exact packed_pixels_iff (raw_pitch s) hrows (Nat.mul_pos (by decide) hpos) (imageSize_lt s)

theorem within_reads_yuy2ToArgb_iff {lib : Libyuv} {size : Extent} {yuy2Stride argbStride : Int32}
    {len : Nat} (hpos : 0 < size.width) (hrows : 0 < size.rows) :
    Within len (reads (yuy2ToArgb lib size yuy2Stride argbStride)) ↔
      (0 ≤ yuy2Stride.toInt ∨ size.rows = 1) ∧
        ((size.rows - 1 : Nat) : Int) * yuy2Stride.toInt + (4 * ((size.width + 1) / 2) : Nat) ≤
          len := by
  rw [yuy2ToArgb, within_reads_pixels_iff (by decide),
    ← rows_within_iff hrows (by omega)]
  simp only [yuy2_row_iff hpos]
  exact forall_row_iff (p := fun y : Nat => ∀ b < 4 * ((size.width + 1) / 2),
    0 ≤ y * yuy2Stride.toInt + (b : Int) ∧ y * yuy2Stride.toInt + (b : Int) < len)

theorem within_reads_nv12ToArgb_iff {lib : Libyuv} {size : Extent} {stride argbStride : Int32}
    {uvPlane : UInt32} {len : Nat} (hpos : 0 < size.width) (hrows : 0 < size.rows) :
    Within len (reads (nv12ToArgb lib size stride uvPlane stride argbStride)) ↔
      (0 ≤ stride.toInt ∨ size.rows = 1) ∧
        ((size.rows - 1 : Nat) : Int) * stride.toInt + size.width ≤ len ∧
        (uvPlane.toNat : Int) + ((size.rows - 1) / 2 : Nat) * stride.toInt +
          (2 * ((size.width + 1) / 2) : Nat) ≤ len := by
  rw [nv12ToArgb, within_reads_pixels_iff (by decide), ← and_assoc,
    ← rows_within_iff hrows hpos]
  have hsplit : ∀ y x : Nat, Within len [y * stride.toInt + (x : Nat),
      uvPlane.toNat + (y / 2 : Nat) * stride.toInt + (2 * (x / 2) : Nat),
      uvPlane.toNat + (y / 2 : Nat) * stride.toInt + (2 * (x / 2) + 1 : Nat)] ↔
      (0 ≤ y * stride.toInt + (x : Int) ∧ y * stride.toInt + (x : Int) < len) ∧
      Within len [uvPlane.toNat + (y / 2 : Nat) * stride.toInt + (2 * (x / 2) : Nat),
        uvPlane.toNat + (y / 2 : Nat) * stride.toInt + (2 * (x / 2) + 1 : Nat)] :=
    fun y x => List.forall_mem_cons
  simp only [hsplit]
  rw [forall_pixels_and]
  simp only [chroma_row_iff hpos]
  refine and_congr_right fun hluma => ?_
  obtain ⟨hpitch, -⟩ := (rows_within_iff hrows hpos).mp hluma
  -- two rows of the picture share one of the plane
  have hchroma : 0 < (size.rows + 1) / 2 := by omega
  have hpitch' : 0 ≤ stride.toInt ∨ (size.rows + 1) / 2 = 1 :=
    hpitch.imp_right fun hone => by omega
  have hplane := rows_from_within_iff (len : Int) (Int.natCast_nonneg uvPlane.toNat) hpitch' hchroma
    (show 0 < 2 * ((size.width + 1) / 2) by omega)
  rw [show (size.rows + 1) / 2 - 1 = (size.rows - 1) / 2 by omega] at hplane
  rw [← hplane]
  constructor
  · intro h y hy
    have hrow := h (2 * y) (by omega)
    rwa [show 2 * y / 2 = y by omega] at hrow
  · intro h y hy
    exact h (y / 2) (by omega)

-- ============================================================================
-- The loops for RGB
-- ============================================================================

/-- The bytes of a pixel are visited in either order. -/
theorem forall_reversed_iff {p : Nat → Prop} : (∀ c < 3, p (2 - c)) ↔ ∀ c < 3, p c := by
  constructor
  · intro h c hc
    have hbyte := h (2 - c) (by omega)
    rwa [show 2 - (2 - c) = c by omega] at hbyte
  · exact fun h c hc => h (2 - c) (by omega)

theorem within_cast_iff {size n : Nat} : Within size [(n : Int)] ↔ n < size := by
  simp only [Within, List.mem_singleton, forall_eq]
  omega

/-- The loop over all pixels writes three bytes for each. -/
theorem within_writes_contiguous_iff {s : Sample} {pixelBytes : UInt32} {size : Nat}
    (hsize : size < 4294967296) : Within size (writes (contiguous s pixelBytes)) ↔
      3 * (s.width * s.height).toNat ≤ size := by
  rw [contiguous, within_writes_grid_iff, ← wrapped_bytes_iff hsize]
  simp only [toNat_index, UInt32.reduceToNat, Nat.cast_lt, Nat.lt_one_iff, forall_eq,
    Int.natCast_nonneg, true_and]

/-- It reads three bytes of each. -/
theorem within_reads_contiguous_iff {s : Sample} {pixelBytes : UInt32} {size : Nat} :
    Within size (reads (contiguous s pixelBytes)) ↔
      ∀ i < (s.width * s.height).toNat, ∀ c < 3,
        (pixelBytes.toNat * i + c) % 4294967296 < size := by
  rw [contiguous, within_reads_grid_iff]
  simp only [toNat_index, within_cast_iff, Nat.lt_one_iff, forall_eq]
  exact forall₂_congr fun i _ =>
    forall_reversed_iff (p := fun c => (pixelBytes.toNat * i + c) % 4294967296 < size)

/-- The destination rows of a picture lie in it exactly if its size does not wrap. -/
theorem image_rows_iff {w h : Nat} (hw : 0 < w) (hh : 0 < h) :
    (∀ y < h, ∀ x < w, ∀ c < 3, y * w * 3 % 4294967296 + (3 * x + c) % 4294967296 <
      3 * (w * h) % 4294967296) ↔ 3 * (w * h) < 4294967296 := by
  constructor
  · intro hall
    have hfirst : 3 * w < 4294967296 := by
      have hle := (wrapped_bytes_iff (Nat.mod_lt _ (by decide))).mp fun x hx c hc => by
        have hbyte := hall 0 hh x hx c hc
        rwa [Nat.zero_mul, Nat.zero_mul, Nat.zero_mod, Nat.zero_add] at hbyte
      omega
    by_contra hwrap
    -- the last row that starts below 2^32 ends behind it
    have hlast : 4294967295 / (3 * w) < h := by
      rw [Nat.div_lt_iff_lt_mul (by omega)]
      have hcomm : h * (3 * w) = 3 * (w * h) := by ring
      omega
    have hbyte := hall (4294967295 / (3 * w)) hlast (w - 1) (by omega) 2 (by decide)
    have hstart : 4294967295 / (3 * w) * w * 3 = 3 * w * (4294967295 / (3 * w)) := by ring
    have hdiv := Nat.div_add_mod 4294967295 (3 * w)
    have hmod := Nat.mod_lt 4294967295 (show 0 < 3 * w by omega)
    rw [hstart] at hbyte
    generalize 3 * w * (4294967295 / (3 * w)) = start at hbyte hdiv
    omega
  · intro hfits y hy x hx c hc
    have hrow : y * w * 3 + 3 * w ≤ 3 * (w * h) := by
      calc y * w * 3 + 3 * w = 3 * (w * (y + 1)) := by ring
        _ ≤ 3 * (w * h) := Nat.mul_le_mul_left 3 (Nat.mul_le_mul_left w hy)
    rw [Nat.mod_eq_of_lt (show y * w * 3 < 4294967296 by omega),
      Nat.mod_eq_of_lt (show 3 * x + c < 4294967296 by omega), Nat.mod_eq_of_lt hfits]
    omega

theorem within_writes_rgb24Rows_iff {s : Sample} {stride : Int32} (hwidth : 0 < s.width.toNat)
    (hheight : 0 < s.height.toNat) : Within (imageSize s) (writes (rgb24Rows s stride)) ↔
      3 * (s.width.toNat * s.height.toNat) < 4294967296 := by
  have hstart : ∀ y < s.height.toNat,
      (UInt32.ofNat y * s.width * 3).toNat = y * s.width.toNat * 3 % 4294967296 := by
    intro y hy
    simp
  rw [rgb24Rows, within_writes_grid_iff, ← image_rows_iff hwidth hheight, toNat_imageSize]
  refine forall₂_congr fun y hy => forall₂_congr fun x _ => forall₂_congr fun c _ => ?_
  simp only [hstart y hy, toNat_index, UInt32.reduceToNat]
  omega

theorem toNat_toUInt32 (i : Int32) : (i.toUInt32.toNat : Int) = i.toInt % 4294967296 := by
  show (i.toBitVec.toNat : Int) = i.toBitVec.toInt % 4294967296
  rw [BitVec.toInt_eq_toNat_cond]
  have hlt := i.toBitVec.isLt
  split <;> omega

theorem toInt_absStride (stride : Int32) :
    (absStride stride).toInt =
      if stride.toInt = -2147483648 then (-2147483648 : Int) else stride.toInt.natAbs := by
  have hlow := stride.le_toInt
  have hhigh := stride.toInt_lt
  rw [absStride]
  by_cases hneg : stride < 0
  · have hneg' : stride.toInt < 0 := Int32.lt_iff_toInt_lt.mp hneg
    rw [if_pos hneg, Int32.toInt_neg, Int.bmod_def]
    split <;> split <;> omega
  · have hneg' : ¬ stride.toInt < 0 := fun h => hneg (Int32.lt_iff_toInt_lt.mpr h)
    rw [if_neg hneg]
    split <;> omega

/-- As a `UINT32` the stride is right, also for the smallest `int`. -/
theorem toNat_absStride (stride : Int32) :
    (absStride stride).toUInt32.toNat = stride.toInt.natAbs := by
  have hcast := toNat_toUInt32 (absStride stride)
  have hlow := stride.le_toInt
  have hhigh := stride.toInt_lt
  rw [toInt_absStride] at hcast
  split at hcast <;> omega

/-- The row that is read for a row of the picture: the last one first for a negative
    stride. -/
def sourceRow (s : Sample) (stride : Int32) (y : Nat) : Nat :=
  Extent.row ⟨s.height.toNat, s.width.toNat, stride < 0⟩ y

theorem toNat_sourceRow {s : Sample} {stride : Int32} {y : Nat} (hy : y < s.height.toNat) :
    (if stride < 0 then s.height - 1 - UInt32.ofNat y else UInt32.ofNat y).toNat =
      sourceRow s stride y := by
  have hlt := s.height.toNat_lt
  have hy' : (UInt32.ofNat y).toNat = y := UInt32.toNat_ofNat_of_lt' (lt_trans hy hlt)
  have hone : (1 : UInt32) ≤ s.height := UInt32.le_iff_toNat_le.mpr (by simp; omega)
  have hpred : (s.height - 1).toNat = s.height.toNat - 1 := UInt32.toNat_sub_of_le _ _ hone
  simp only [sourceRow, Extent.row, decide_eq_true_eq]
  split
  · rw [UInt32.toNat_sub_of_le _ _ (UInt32.le_iff_toNat_le.mpr (by omega)), hpred, hy']
  · exact hy'

theorem forall_sourceRow_iff (s : Sample) (stride : Int32) {p : Nat → Prop} :
    (∀ y < s.height.toNat, p (sourceRow s stride y)) ↔ ∀ y < s.height.toNat, p y :=
  @forall_row_iff ⟨s.height.toNat, s.width.toNat, stride < 0⟩ p

/-- Where a row of the locked buffer starts. -/
theorem toNat_sourceStart {s : Sample} {stride : Int32} {y : Nat} (hy : y < s.height.toNat) :
    ((if stride < 0 then s.height - 1 - UInt32.ofNat y else UInt32.ofNat y) *
      (absStride stride).toUInt32).toNat =
      sourceRow s stride y * stride.toInt.natAbs % 4294967296 := by
  rw [UInt32.toNat_mul, toNat_sourceRow hy, toNat_absStride]

theorem within_reads_rgb24Rows_iff {s : Sample} {stride : Int32} {len : Nat}
    (hwidth : 0 < s.width.toNat) (hfits : 3 * s.width.toNat < 4294967296) :
    Within len (reads (rgb24Rows s stride)) ↔
      ∀ y < s.height.toNat,
        y * stride.toInt.natAbs % 4294967296 + 3 * s.width.toNat ≤ len := by
  rw [rgb24Rows, within_reads_grid_iff]
  refine Iff.trans (forall₂_congr fun y hy => ?_) (forall_sourceRow_iff s stride (p := fun y =>
    y * stride.toInt.natAbs % 4294967296 + 3 * s.width.toNat ≤ len))
  simp only [toNat_sourceStart hy, toNat_index, within_cast_iff, UInt32.reduceToNat]
  constructor
  · intro h
    have hlast := h (s.width.toNat - 1) (by omega) 0 (by decide)
    omega
  · intro h x hx c hc
    omega

-- ============================================================================
-- Samples that keep both buffers
-- ============================================================================

/-- The rows at a pitch, each of some bytes, end in a buffer. -/
def RowsFit (len rows : Nat) (pitch : Int) (bytes : Nat) : Prop :=
  (0 ≤ pitch ∨ rows = 1) ∧ ((rows - 1 : Nat) : Int) * pitch + bytes ≤ len

instance (len rows : Nat) (pitch : Int) (bytes : Nat) : Decidable (RowsFit len rows pitch bytes) :=
  inferInstanceAs (Decidable (_ ∧ _))

/-- The chroma plane ends in a buffer. -/
def ChromaFits (s : Sample) : Prop :=
  ((s.width * s.height).toNat : Int) + ((rowCount s - 1) / 2 : Nat) * (nv12Stride s).toInt +
    (2 * ((s.width.toNat + 1) / 2) : Nat) ≤ s.currentLength.toNat

instance (s : Sample) : Decidable (ChromaFits s) := inferInstanceAs (Decidable (_ ≤ _))

/-- libyuv refuses the size. -/
def Refused (s : Sample) : Prop :=
  2147483648 ≤ s.width.toNat ∨ 4 * (s.width.toNat * s.height.toNat) % 4294967296 = 0

instance (s : Sample) : Decidable (Refused s) := inferInstanceAs (Decidable (_ ∨ _))

/-- The sample is long enough for its format, width, height and stride, and the picture is
    as large as 32 bits can say. -/
def Fits (s : Sample) : Prop :=
  match s.subtype with
  | .yuy2 => Refused s ∨
      3 * s.width.toNat * rowCount s ≤ 3 * (s.width.toNat * s.height.toNat) % 4294967296 ∧
      RowsFit s.currentLength.toNat (rowCount s) (yuy2Stride s).toInt (4 * ((s.width.toNat + 1) / 2))
  | .nv12 => Refused s ∨
      3 * s.width.toNat * rowCount s ≤ 3 * (s.width.toNat * s.height.toNat) % 4294967296 ∧
      RowsFit s.currentLength.toNat (rowCount s) (nv12Stride s).toInt s.width.toNat ∧ ChromaFits s
  | .rgb24 =>
      if s.stride.getD 0 ≠ 0 then
        3 * (s.width.toNat * s.height.toNat) < 4294967296 ∧
        ∀ y < s.height.toNat, y * (s.stride.getD 0).toInt.natAbs % 4294967296 +
          3 * s.width.toNat ≤ s.currentLength.toNat
      else 3 * (s.width * s.height).toNat ≤ s.currentLength.toNat
  | .rgb32 => 3 * (s.width * s.height).toNat < 4294967296 ∧
      min (4 * (s.width * s.height).toNat) 4294967296 ≤ s.currentLength.toNat + 1
  | .other => True

theorem within_nil (size : Nat) : Within size [] := fun _ ho => absurd ho List.not_mem_nil

/-- A format of YUV: libyuv refuses the size, or reads and writes its rows. -/
theorem inBounds_convertYuv_iff {s : Sample} {toArgb : Extent → List (Store UInt8)} {source : Prop}
    (hwidth : s.width ≠ 0) (hheight : s.height ≠ 0)
    (hsource : ∀ size : Extent, 0 < size.rows → 0 < size.width → size.rows = rowCount s →
      size.width = s.width.toNat →
        (Within s.currentLength.toNat (reads (toArgb size)) ↔ source)) :
    (Within s.currentLength.toNat (convertYuv s toArgb).lockedReads ∧
      Within (imageSize s) (convertYuv s toArgb).imageWrites) ↔
    (Refused s ∨
      3 * s.width.toNat * rowCount s ≤ 3 * (s.width.toNat * s.height.toNat) % 4294967296 ∧
        source) := by
  rw [convertYuv, Refused, ← toNat_argbSize, ← toNat_imageSize]
  by_cases hempty : argbSize s = 0
  · rw [if_pos hempty]
    exact iff_of_true ⟨within_nil _, within_nil _⟩ (.inl (.inr hempty))
  rw [if_neg hempty]
  obtain ⟨hrows, hextent⟩ := extent_eq hwidth hheight
  have hpos := toNat_pos hwidth
  rcases hextent with ⟨hlarge, hnone⟩ | ⟨hsmall, inverted, hsome⟩
  · rw [hnone]
    exact iff_of_true ⟨within_nil _, within_nil _⟩ (.inl (.inl hlarge))
  · rw [hsome]
    have htaken : ¬ (2147483648 ≤ s.width.toNat ∨ argbSize s = 0) :=
      not_or.mpr ⟨Nat.not_le.mpr hsmall, hempty⟩
    have himage := @within_writes_argbToRaw_iff s ⟨rowCount s, s.width.toNat, inverted⟩
      (s.width * 4).toInt32 rfl hpos hrows
    have hlocked := hsource ⟨rowCount s, s.width.toNat, inverted⟩ hrows hpos rfl rfl
    simp only [Conversion.lockedReads, Conversion.imageWrites, himage, hlocked]
    rw [and_comm, or_iff_right htaken]

/-- The conversion keeps both buffers exactly if the sample fits. -/
theorem inBounds_iff (lib : Libyuv) (s : Sample) (hwidth : s.width ≠ 0) (hheight : s.height ≠ 0) :
    InBounds lib s ↔ Fits s := by
  have hw := toNat_pos hwidth
  have hh := toNat_pos hheight
  have hlen := s.currentLength.toNat_lt
  have himage := toNat_imageSize s
  have hpixels : (s.width * s.height).toNat = s.width.toNat * s.height.toNat % 4294967296 :=
    UInt32.toNat_mul s.width s.height
  rw [InBounds, convert, if_neg (not_or.mpr ⟨hwidth, hheight⟩), Fits]
  cases s.subtype with
  | yuy2 =>
      refine inBounds_convertYuv_iff hwidth hheight fun size hrows hpos heq heq' => ?_
      rw [within_reads_yuy2ToArgb_iff hpos hrows, heq, heq', RowsFit]
  | nv12 =>
      refine inBounds_convertYuv_iff hwidth hheight fun size hrows hpos heq heq' => ?_
      rw [within_reads_nv12ToArgb_iff hpos hrows, heq, heq', RowsFit, and_assoc, ChromaFits]
  | rgb24 =>
      simp only [Conversion.lockedReads, Conversion.imageWrites]
      by_cases hstride : s.stride.getD 0 ≠ 0
      · rw [if_pos hstride, if_pos hstride, within_writes_rgb24Rows_iff hw hh, and_comm]
        refine and_congr_right fun hfits => within_reads_rgb24Rows_iff hw ?_
        have hle : s.width.toNat ≤ s.width.toNat * s.height.toNat := Nat.le_mul_of_pos_right _ hh
        omega
      · rw [if_neg hstride, if_neg hstride, within_writes_contiguous_iff (imageSize_lt s),
          within_reads_contiguous_iff]
        rw [show (3 : UInt32).toNat = 3 from rfl, wrapped_bytes_iff hlen]
        omega
  | rgb32 =>
      simp only [Conversion.lockedReads, Conversion.imageWrites]
      rw [within_writes_contiguous_iff (imageSize_lt s), within_reads_contiguous_iff,
        show (4 : UInt32).toNat = 4 from rfl, wrapped_pixels_iff hlen]
      omega
  | other => exact iff_of_true ⟨within_nil _, within_nil _⟩ trivial

/-- libyuv that keeps the first sample of a pixel. -/
def exampleLibyuv : Libyuv := ⟨fun samples _ => samples.headD 0, fun samples _ => samples.headD 0⟩

theorem inBounds_nv12 : InBounds exampleLibyuv ⟨.nv12, 2, 2, some 2, 6⟩ := by
  refine (inBounds_iff exampleLibyuv ⟨.nv12, 2, 2, some 2, 6⟩ (by decide) (by decide)).mpr ?_
  exact .inr ⟨by decide, by decide, by decide⟩

/-- A sample that ends behind its first row is read further. -/
theorem inBounds_fails :
    ¬ ∀ (lib : Libyuv) (s : Sample), s.subtype ≠ .other → s.width ≠ 0 → s.height ≠ 0 →
      InBounds lib s := by
  intro h
  have hbounds := h exampleLibyuv ⟨.rgb24, 2, 2, some 6, 6⟩ (by decide) (by decide) (by decide)
  have hsecond : (6 : Int) ∈ (convert exampleLibyuv ⟨.rgb24, 2, 2, some 6, 6⟩).lockedReads := by
    decide
  exact absurd (hbounds.1 6 hsecond).2 (by decide)

end Smile2Unlock.FaceRecognizer
