/-
  Smile2Unlock.Lib.Raster

  Loops over the pixels of a picture: each pass stores a byte of one memory, made from
  bytes of another.

  A `Store` says where it writes, what it reads and what it makes of it, so the same list
  of stores gives the memory after the loop (`execute`) and the offsets it touches
  (`reads`, `writes`).  `grid` is the loop over rows, pixels and bytes of a pixel, and
  `rows_within_iff` says when rows at a pitch stay inside a buffer.
-/

import Mathlib.Logic.Function.Basic
import Mathlib.Tactic.Ring
import Mathlib.Tactic.Linarith

namespace Lib.Raster

variable {V : Type _}

-- ============================================================================
-- Stores
-- ============================================================================

/-- A byte that is written, from the bytes at some offsets of the source. -/
structure Store (V : Type _) where
  target : Int
  sources : List Int
  value : List V → V

/-- What a store writes. -/
def Store.result (source : Int → V) (s : Store V) : V := s.value (s.sources.map source)

/-- The memory after a list of stores. -/
def execute (source : Int → V) (stores : List (Store V)) (memory : Int → V) : Int → V :=
  stores.foldl (fun memory s => Function.update memory s.target (s.result source)) memory

/-- The offsets that are read, and those that are written. -/
def reads (stores : List (Store V)) : List Int := stores.flatMap (·.sources)

def writes (stores : List (Store V)) : List Int := stores.map (·.target)

/-- All offsets lie in a buffer of a size. -/
def Within (size : Nat) (offsets : List Int) : Prop := ∀ o ∈ offsets, 0 ≤ o ∧ o < size

instance (size : Nat) (offsets : List Int) : Decidable (Within size offsets) :=
  inferInstanceAs (Decidable (∀ o ∈ offsets, _))

theorem execute_of_not_mem (source : Int → V) {stores : List (Store V)} {t : Int}
    (h : ∀ s ∈ stores, s.target ≠ t) (memory : Int → V) :
    execute source stores memory t = memory t := by
  induction stores generalizing memory with
  | nil => rfl
  | cons s stores ih =>
      have hs := h s List.mem_cons_self
      rw [execute, List.foldl_cons, ← execute, ih fun s' hs' => h s' (List.mem_cons_of_mem _ hs'),
        Function.update_of_ne hs.symm]

/-- A byte that is stored has the value on which all stores to it agree. -/
theorem execute_of_agree (source : Int → V) {stores : List (Store V)} {t : Int} {v : V}
    (hmem : ∃ s ∈ stores, s.target = t)
    (h : ∀ s ∈ stores, s.target = t → s.result source = v) (memory : Int → V) :
    execute source stores memory t = v := by
  induction stores generalizing memory with
  | nil =>
      obtain ⟨s, hs, -⟩ := hmem
      cases hs
  | cons s stores ih =>
      rw [execute, List.foldl_cons, ← execute]
      have hrest : ∀ s' ∈ stores, s'.target = t → s'.result source = v :=
        fun s' hs' => h s' (List.mem_cons_of_mem _ hs')
      by_cases hlater : ∃ s' ∈ stores, s'.target = t
      · exact ih hlater hrest _
      · -- the first store is the last one to this offset
        obtain ⟨s', hs', htarget⟩ := hmem
        have hfirst : s' = s := (List.mem_cons.mp hs').resolve_right
          fun hmem => hlater ⟨s', hmem, htarget⟩
        subst hfirst
        have hnone : ∀ s'' ∈ stores, s''.target ≠ t :=
          fun s'' hs'' heq => hlater ⟨s'', hs'', heq⟩
        rw [execute_of_not_mem source hnone, htarget, Function.update_self]
        exact h s' List.mem_cons_self htarget

-- ============================================================================
-- Loops over pixels
-- ============================================================================

/-- The stores for each row, each pixel of it and each byte of the pixel. -/
def grid (rows width bytes : Nat) (store : Nat → Nat → Nat → Store V) : List (Store V) :=
  (List.range rows).flatMap fun y => (List.range width).flatMap fun x =>
    (List.range bytes).map fun c => store y x c

variable {rows width bytes : Nat} {store : Nat → Nat → Nat → Store V}

theorem mem_grid {s : Store V} : s ∈ grid rows width bytes store ↔
    ∃ y < rows, ∃ x < width, ∃ c < bytes, store y x c = s := by
  simp only [grid, List.mem_flatMap, List.mem_map, List.mem_range]

theorem within_writes_grid_iff {size : Nat} : Within size (writes (grid rows width bytes store)) ↔
    ∀ y < rows, ∀ x < width, ∀ c < bytes,
      0 ≤ (store y x c).target ∧ (store y x c).target < size := by
  constructor
  · intro h y hy x hx c hc
    exact h _ (List.mem_map_of_mem (mem_grid.mpr ⟨y, hy, x, hx, c, hc, rfl⟩))
  · intro h o ho
    obtain ⟨s, hs, rfl⟩ := List.mem_map.mp ho
    obtain ⟨y, hy, x, hx, c, hc, rfl⟩ := mem_grid.mp hs
    exact h y hy x hx c hc

theorem within_reads_grid_iff {size : Nat} : Within size (reads (grid rows width bytes store)) ↔
    ∀ y < rows, ∀ x < width, ∀ c < bytes, Within size (store y x c).sources := by
  constructor
  · intro h y hy x hx c hc o ho
    exact h o (List.mem_flatMap.mpr ⟨_, mem_grid.mpr ⟨y, hy, x, hx, c, hc, rfl⟩, ho⟩)
  · intro h o ho
    obtain ⟨s, hs, ho⟩ := List.mem_flatMap.mp ho
    obtain ⟨y, hy, x, hx, c, hc, rfl⟩ := mem_grid.mp hs
    exact h y hy x hx c hc o ho

/-- The bytes of a pixel may be made from the same sources. -/
theorem within_reads_pixels_iff {size : Nat} {target : Nat → Nat → Nat → Int}
    {sources : Nat → Nat → List Int} {value : Nat → Nat → Nat → List V → V} (hbytes : 0 < bytes) :
    Within size (reads (grid rows width bytes fun y x c => ⟨target y x c, sources y x, value y x c⟩)) ↔
      ∀ y < rows, ∀ x < width, Within size (sources y x) := by
  rw [within_reads_grid_iff]
  exact forall₂_congr fun y _ => forall₂_congr fun x _ =>
    ⟨fun hall => hall 0 hbytes, fun hwithin _ _ => hwithin⟩

theorem forall_pixels_and {p q : Nat → Nat → Prop} :
    (∀ y < rows, ∀ x < width, p y x ∧ q y x) ↔
      (∀ y < rows, ∀ x < width, p y x) ∧ ∀ y < rows, ∀ x < width, q y x :=
  ⟨fun h => ⟨fun y hy x hx => (h y hy x hx).1, fun y hy x hx => (h y hy x hx).2⟩,
    fun h y hy x hx => ⟨h.1 y hy x hx, h.2 y hy x hx⟩⟩

/-- Where a byte of a picture without gaps lies. -/
def pixelIndex (width bytes y x c : Nat) : Nat := bytes * (y * width + x) + c

theorem pixelIndex_inj {y x c y' x' c' : Nat} (hx : x < width) (hc : c < bytes) (hx' : x' < width)
    (hc' : c' < bytes) (h : pixelIndex width bytes y x c = pixelIndex width bytes y' x' c') :
    y = y' ∧ x = x' ∧ c = c' := by
  rw [pixelIndex, pixelIndex] at h
  have hbyte := congrArg (· % bytes) h
  have hpixel := congrArg (· / bytes) h
  simp only [Nat.mul_add_mod, Nat.mod_eq_of_lt hc, Nat.mod_eq_of_lt hc'] at hbyte
  simp only [Nat.mul_add_div (Nat.lt_of_le_of_lt (Nat.zero_le c) hc), Nat.div_eq_of_lt hc,
    Nat.div_eq_of_lt hc', Nat.add_zero] at hpixel
  have hcolumn := congrArg (· % width) hpixel
  have hrow := congrArg (· / width) hpixel
  simp only [Nat.mul_comm _ width, Nat.mul_add_mod, Nat.mod_eq_of_lt hx,
    Nat.mod_eq_of_lt hx'] at hcolumn
  simp only [Nat.mul_comm _ width, Nat.mul_add_div (Nat.lt_of_le_of_lt (Nat.zero_le x) hx),
    Nat.div_eq_of_lt hx, Nat.div_eq_of_lt hx', Nat.add_zero] at hrow
  exact ⟨hrow, hcolumn, hbyte⟩

theorem pixelIndex_lt {y x c : Nat} (hy : y < rows) (hx : x < width) (hc : c < bytes) :
    pixelIndex width bytes y x c < bytes * (width * rows) := by
  have hrow : y * width + x < width * rows := by
    calc y * width + x < y * width + width := Nat.add_lt_add_left hx _
      _ = width * (y + 1) := by ring
      _ ≤ width * rows := Nat.mul_le_mul_left width hy
  calc bytes * (y * width + x) + c < bytes * (y * width + x) + bytes := Nat.add_lt_add_left hc _
    _ = bytes * (y * width + x + 1) := by ring
    _ ≤ bytes * (width * rows) := Nat.mul_le_mul_left bytes hrow

/-- A loop that fills a picture without gaps leaves at each byte what its pass stored. -/
theorem execute_grid (source : Int → V)
    (htarget : ∀ y < rows, ∀ x < width, ∀ c < bytes,
      (store y x c).target = (pixelIndex width bytes y x c : Nat))
    {y x c : Nat} (hy : y < rows) (hx : x < width) (hc : c < bytes) (memory : Int → V) :
    execute source (grid rows width bytes store) memory (pixelIndex width bytes y x c : Nat) =
      (store y x c).result source := by
  refine execute_of_agree source
    ⟨_, mem_grid.mpr ⟨y, hy, x, hx, c, hc, rfl⟩, htarget y hy x hx c hc⟩ ?_ memory
  intro s hs hsame
  obtain ⟨y', hy', x', hx', c', hc', rfl⟩ := mem_grid.mp hs
  rw [htarget y' hy' x' hx' c' hc', Int.natCast_inj] at hsame
  obtain ⟨rfl, rfl, rfl⟩ := pixelIndex_inj hx' hc' hx hc hsame
  rfl

/-- Offsets that hold the same byte in every source are the same. -/
theorem eq_of_forall_source {u v : V} (huv : u ≠ v) {a b : Int}
    (h : ∀ source : Int → V, source a = source b) : a = b := by
  by_contra hne
  have hmarked := h (Function.update (fun _ => u) b v)
  rw [Function.update_self, Function.update_of_ne hne] at hmarked
  exact huv hmarked

-- ============================================================================
-- Rows at a pitch
-- ============================================================================

/-- The bytes of the pixels of a row are the bytes of the row. -/
theorem forall_bytes_iff {k : Nat} {p : Nat → Prop} :
    (∀ x < width, ∀ c < k, p (k * x + c)) ↔ ∀ b < k * width, p b := by
  constructor
  · intro h b hb
    have hk : 0 < k := Nat.pos_of_mul_pos_right (Nat.lt_of_le_of_lt (Nat.zero_le b) hb)
    have hbyte := h (b / k) (Nat.div_lt_of_lt_mul hb) (b % k) (Nat.mod_lt b hk)
    rwa [Nat.div_add_mod] at hbyte
  · intro h x hx c hc
    refine h _ ?_
    calc k * x + c < k * x + k := Nat.add_lt_add_left hc _
      _ = k * (x + 1) := (Nat.mul_succ k x).symm
      _ ≤ k * width := Nat.mul_le_mul_left k hx

/-- Rows from some offset on, at a pitch that is not negative, lie in a buffer exactly if
    the last one does. -/
theorem rows_from_within_iff {start pitch : Int} (size : Int) (hstart : 0 ≤ start)
    (hpitch : 0 ≤ pitch ∨ rows = 1) (hrows : 0 < rows) (hbytes : 0 < bytes) :
    (∀ y < rows, ∀ b < bytes, 0 ≤ start + y * pitch + b ∧ start + y * pitch + b < size) ↔
      start + (rows - 1 : Nat) * pitch + bytes ≤ size := by
  constructor
  · intro h
    have hlast := (h (rows - 1) (by omega) (bytes - 1) (by omega)).2
    omega
  · intro h y hy b hb
    have hrow : (0 : Int) ≤ y * pitch ∧ y * pitch ≤ (rows - 1 : Nat) * pitch := by
      rcases hpitch with hpitch | hone
      · have hle : (y : Int) ≤ (rows - 1 : Nat) := by omega
        exact ⟨mul_nonneg (Int.natCast_nonneg y) hpitch, mul_le_mul_of_nonneg_right hle hpitch⟩
      · have hzero : y = 0 := by omega
        rw [hzero, hone]
        simp
    omega

/-- Rows at a pitch lie in a buffer exactly if the pitch is not negative, or there is one
    row, and the last one ends in the buffer. -/
theorem rows_within_iff {pitch size : Int} (hrows : 0 < rows) (hbytes : 0 < bytes) :
    (∀ y < rows, ∀ b < bytes, 0 ≤ y * pitch + b ∧ y * pitch + b < size) ↔
      (0 ≤ pitch ∨ rows = 1) ∧ (rows - 1 : Nat) * pitch + bytes ≤ size := by
  constructor
  · intro h
    have hpitch : 0 ≤ pitch ∨ rows = 1 := by
      by_cases hone : rows = 1
      · exact .inr hone
      · -- the second row starts at the pitch
        have hsecond := (h 1 (by omega) 0 hbytes).1
        exact .inl (by omega)
    refine ⟨hpitch, ?_⟩
    have hlast := rows_from_within_iff size (le_refl 0) hpitch hrows hbytes
    simp only [Int.zero_add] at hlast
    exact hlast.mp h
  · rintro ⟨hpitch, h⟩
    have hlast := rows_from_within_iff size (le_refl 0) hpitch hrows hbytes
    simp only [Int.zero_add] at hlast
    exact hlast.mpr h

end Lib.Raster
