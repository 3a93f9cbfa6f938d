/-
  Smile2Unlock.Lib.Layout

  Memory with a fixed layout: integers as little-endian bytes, and fields at their
  offsets.

  `decode_encode` and `encode_decode` say that `n` bytes and the integers below
  `256 ^ n` are the same thing, `decodeUnits_encodeUnits` that two-byte units are read
  back from their bytes.  `slice` reads a field and `patch` writes one; a read
  sees what was written (`slice_patch`) and nothing else changes
  (`slice_patch_of_disjoint`).  `patchAll` performs several stores; where they are
  apart, each of them is read back (`slice_patchAll_of_mem`).
-/

import Mathlib.Algebra.GroupWithZero.Nat
import Mathlib.Data.List.GetD
import Mathlib.Data.List.TakeDrop

namespace Lib.Layout

-- ============================================================================
-- Integers
-- ============================================================================

/-- The low `n` bytes of an integer, the lowest first. -/
def encode : Nat → Nat → List UInt8
  | 0, _ => []
  | n + 1, v => UInt8.ofNat v :: encode n (v / 256)

/-- The integer with these bytes. -/
def decode : List UInt8 → Nat
  | [] => 0
  | b :: bytes => b.toNat + 256 * decode bytes

@[simp] theorem length_encode (n v : Nat) : (encode n v).length = n := by
  induction n generalizing v with
  | zero => rfl
  | succ n ih => rw [encode, List.length_cons, ih]

/-- What is read back is the integer modulo its width. -/
theorem decode_encode (n v : Nat) : decode (encode n v) = v % 256 ^ n := by
  induction n generalizing v with
  | zero => rw [encode, decode, Nat.pow_zero, Nat.mod_one]
  | succ n ih =>
      have hbyte : (UInt8.ofNat v).toNat = v % 256 := UInt8.toNat_ofNat'
      rw [encode, decode, ih, hbyte, Nat.pow_succ', Nat.mod_mul]

theorem decode_encode_of_lt {n v : Nat} (h : v < 256 ^ n) : decode (encode n v) = v := by
  rw [decode_encode, Nat.mod_eq_of_lt h]

theorem decode_lt (bytes : List UInt8) : decode bytes < 256 ^ bytes.length := by
  induction bytes with
  | nil => exact Nat.one_pos
  | cons b bytes ih =>
      have hb : b.toNat < 256 := b.toNat_lt
      rw [decode, List.length_cons, Nat.pow_succ']
      omega

/-- Bytes are the encoding of what they decode to. -/
theorem encode_decode (bytes : List UInt8) : encode bytes.length (decode bytes) = bytes := by
  induction bytes with
  | nil => rfl
  | cons b bytes ih =>
      have hb : b.toNat < 256 := b.toNat_lt
      have hlow : UInt8.ofNat (b.toNat + 256 * decode bytes) = b := by
        apply UInt8.toNat.inj
        rw [UInt8.toNat_ofNat', Nat.add_mul_mod_self_left, Nat.mod_eq_of_lt hb]
      have hhigh : (b.toNat + 256 * decode bytes) / 256 = decode bytes := by omega
      rw [List.length_cons, decode, encode, hlow, hhigh, ih]

/-- Two-byte units one after the other. -/
def encodeUnits (units : List UInt16) : List UInt8 := units.flatMap fun u => encode 2 u.toNat

/-- The units in these bytes; an odd last byte is left out. -/
def decodeUnits : List UInt8 → List UInt16
  | low :: high :: bytes => UInt16.ofNat (decode [low, high]) :: decodeUnits bytes
  | _ => []

theorem encodeUnits_cons (u : UInt16) (units : List UInt16) :
    encodeUnits (u :: units) = encode 2 u.toNat ++ encodeUnits units := List.flatMap_cons

@[simp] theorem length_encodeUnits (units : List UInt16) :
    (encodeUnits units).length = 2 * units.length := by
  induction units with
  | nil => rfl
  | cons u units ih =>
      rw [encodeUnits_cons, List.length_append, length_encode, ih, List.length_cons]
      omega

theorem decodeUnits_encodeUnits (units : List UInt16) : decodeUnits (encodeUnits units) = units := by
  induction units with
  | nil => rfl
  | cons u units ih =>
      have hu : decode (encode 2 u.toNat) = u.toNat := decode_encode_of_lt u.toNat_lt
      show UInt16.ofNat (decode (encode 2 u.toNat)) :: decodeUnits (encodeUnits units) = u :: units
      rw [hu, UInt16.ofNat_toNat, ih]

theorem take_encodeUnits (units : List UInt16) (n : Nat) :
    (encodeUnits units).take (2 * n) = encodeUnits (units.take n) := by
  induction units generalizing n with
  | nil => rw [List.take_nil, encodeUnits, List.flatMap_nil, List.take_nil]
  | cons u units ih =>
      match n with
      | 0 => rfl
      | n + 1 =>
          have hlength : (encode 2 u.toNat).length = 2 := length_encode 2 _
          rw [encodeUnits_cons, Nat.mul_succ, Nat.add_comm, List.take_append, hlength,
            List.take_of_length_le (by omega), Nat.add_sub_cancel_left, ih, List.take_succ_cons,
            encodeUnits_cons]

theorem decode_eq_zero_iff {bytes : List UInt8} : decode bytes = 0 ↔ ∀ b ∈ bytes, b = 0 := by
  induction bytes with
  | nil => exact iff_of_true rfl (List.forall_mem_nil _)
  | cons b bytes ih =>
      have hb : b.toNat = 0 ↔ b = 0 := UInt8.toNat_inj (b := 0)
      rw [decode, List.forall_mem_cons, ← ih, ← hb]
      omega

-- ============================================================================
-- Fields
-- ============================================================================

variable {α : Type _}

/-- The `n` entries from `offset` on. -/
def slice (offset n : Nat) (memory : List α) : List α := (memory.drop offset).take n

theorem length_slice {offset n : Nat} {memory : List α} (h : offset + n ≤ memory.length) :
    (slice offset n memory).length = n := by
  rw [slice, List.length_take, List.length_drop]
  omega

/-- The field at the front. -/
theorem slice_front {n : Nat} {field rest : List α} (h : field.length = n) :
    slice 0 n (field ++ rest) = field := by
  rw [slice, List.drop_zero, ← h, List.take_left]

/-- A field behind the first one. -/
theorem slice_behind {offset n : Nat} {field rest : List α} (h : field.length ≤ offset) :
    slice offset n (field ++ rest) = slice (offset - field.length) n rest := by
  rw [slice, List.drop_append, List.drop_eq_nil_of_le h, List.nil_append, slice]

theorem slice_append_slice (offset n m : Nat) (memory : List α) :
    slice offset n memory ++ slice (offset + n) m memory = slice offset (n + m) memory := by
  rw [slice, slice, slice, List.take_add, List.drop_drop]

theorem getElem?_slice (offset n i : Nat) (memory : List α) :
    (slice offset n memory)[i]? = if i < n then memory[offset + i]? else none := by
  rw [slice, List.getElem?_take, List.getElem?_drop]

theorem mem_slice {offset n : Nat} {memory : List α} {b : α} :
    b ∈ slice offset n memory ↔ ∃ i, offset ≤ i ∧ i < offset + n ∧ memory[i]? = some b := by
  rw [List.mem_iff_getElem?]
  constructor
  · rintro ⟨i, hi⟩
    rw [getElem?_slice] at hi
    split at hi
    · exact ⟨offset + i, by omega, by omega, hi⟩
    · cases hi
  · rintro ⟨i, hlow, hhigh, hi⟩
    refine ⟨i - offset, ?_⟩
    rw [getElem?_slice, if_pos (by omega), Nat.add_sub_cancel' hlow]
    exact hi

/-- Copying `field` to `offset`; what would lie behind the memory is dropped. -/
def patch (offset : Nat) (field memory : List α) : List α :=
  memory.mapIdx fun i b => if offset ≤ i then field.getD (i - offset) b else b

@[simp] theorem length_patch (offset : Nat) (field memory : List α) :
    (patch offset field memory).length = memory.length := List.length_mapIdx

theorem getElem?_patch {offset : Nat} {field memory : List α}
    (h : offset + field.length ≤ memory.length) (i : Nat) :
    (patch offset field memory)[i]? =
      if offset ≤ i ∧ i < offset + field.length then field[i - offset]? else memory[i]? := by
  rw [patch, List.getElem?_mapIdx]
  by_cases hi : i < memory.length
  · rw [List.getElem?_eq_getElem hi, Option.map_some]
    by_cases hin : offset ≤ i ∧ i < offset + field.length
    · have hfield : i - offset < field.length := by omega
      rw [if_pos hin, if_pos hin.1, List.getElem?_eq_getElem hfield, List.getD_eq_getElem _ _ hfield]
    · rw [if_neg hin]
      by_cases hafter : offset ≤ i
      · rw [if_pos hafter, List.getD_eq_default _ _ (by omega)]
      · rw [if_neg hafter]
  · rw [List.getElem?_eq_none (by omega), Option.map_none, if_neg (by omega)]

/-- A field as long as the memory replaces it. -/
theorem patch_of_length_eq {field memory : List α} (h : field.length = memory.length) :
    patch 0 field memory = field := by
  apply List.ext_getElem?
  intro i
  rw [getElem?_patch (by omega)]
  split
  · rw [Nat.sub_zero]
  · rw [List.getElem?_eq_none (by omega), List.getElem?_eq_none (by omega)]

/-- What was written is read back, also in part. -/
theorem slice_patch {offset o n : Nat} {field memory : List α}
    (h : offset + field.length ≤ memory.length) (hlow : offset ≤ o)
    (hhigh : o + n ≤ offset + field.length) :
    slice o n (patch offset field memory) = slice (o - offset) n field := by
  apply List.ext_getElem?
  intro i
  rw [getElem?_slice, getElem?_slice, getElem?_patch h]
  split
  · rw [if_pos (by omega), show o + i - offset = o - offset + i by omega]
  · rfl

/-- Elsewhere nothing changes. -/
theorem slice_patch_of_disjoint {offset o n : Nat} {field memory : List α}
    (h : offset + field.length ≤ memory.length)
    (hdisjoint : o + n ≤ offset ∨ offset + field.length ≤ o) :
    slice o n (patch offset field memory) = slice o n memory := by
  apply List.ext_getElem?
  intro i
  rw [getElem?_slice, getElem?_slice, getElem?_patch h]
  split
  · rw [if_neg (by omega)]
  · rfl

-- ============================================================================
-- Several stores
-- ============================================================================

/-- Stores one after the other, each an offset with the entries that go there. -/
def patchAll (stores : List (Nat × List α)) (memory : List α) : List α :=
  stores.foldl (fun memory s => patch s.1 s.2 memory) memory

/-- Two stores without a common entry. -/
def Apart (s t : Nat × List α) : Prop := s.1 + s.2.length ≤ t.1 ∨ t.1 + t.2.length ≤ s.1

/-- A store that ends inside the memory. -/
def Fits (memory : List α) (s : Nat × List α) : Prop := s.1 + s.2.length ≤ memory.length

@[simp] theorem length_patchAll (stores : List (Nat × List α)) (memory : List α) :
    (patchAll stores memory).length = memory.length := by
  induction stores generalizing memory with
  | nil => rfl
  | cons s stores ih => rw [patchAll, List.foldl_cons, ← patchAll, ih, length_patch]

/-- A field that no store touches. -/
theorem slice_patchAll_of_apart {stores : List (Nat × List α)} {memory : List α} {o n : Nat}
    (hfits : ∀ s ∈ stores, Fits memory s)
    (hapart : ∀ s ∈ stores, o + n ≤ s.1 ∨ s.1 + s.2.length ≤ o) :
    slice o n (patchAll stores memory) = slice o n memory := by
  induction stores generalizing memory with
  | nil => rfl
  | cons s stores ih =>
      rw [List.forall_mem_cons] at hfits hapart
      have hrest : ∀ t ∈ stores, Fits (patch s.1 s.2 memory) t := by
        intro t ht
        rw [Fits, length_patch]
        exact hfits.2 t ht
      rw [patchAll, List.foldl_cons, ← patchAll, ih hrest hapart.2,
        slice_patch_of_disjoint hfits.1 hapart.1]

/-- A store that no later one touches is read back. -/
theorem slice_patchAll_of_mem {stores : List (Nat × List α)} {memory : List α}
    {s : Nat × List α} (hfits : ∀ t ∈ stores, Fits memory t) (hapart : stores.Pairwise Apart)
    (hmem : s ∈ stores) : slice s.1 s.2.length (patchAll stores memory) = s.2 := by
  induction stores generalizing memory with
  | nil => cases hmem
  | cons t stores ih =>
      rw [List.forall_mem_cons] at hfits
      rw [List.pairwise_cons] at hapart
      have hrest : ∀ u ∈ stores, Fits (patch t.1 t.2 memory) u := by
        intro u hu
        rw [Fits, length_patch]
        exact hfits.2 u hu
      rw [patchAll, List.foldl_cons, ← patchAll]
      rcases List.mem_cons.mp hmem with rfl | htail
      · rw [slice_patchAll_of_apart hrest fun u hu => hapart.1 u hu,
          slice_patch hfits.1 (Nat.le_refl _) (Nat.le_refl _), Nat.sub_self, slice,
          List.drop_zero, List.take_length]
      · exact ih hrest hapart.2 htail

/-- The entries between the stores are what they were. -/
theorem getElem?_patchAll_of_apart {stores : List (Nat × List α)} {memory : List α} {i : Nat}
    (hfits : ∀ s ∈ stores, Fits memory s) (hapart : ∀ s ∈ stores, i < s.1 ∨ s.1 + s.2.length ≤ i) :
    (patchAll stores memory)[i]? = memory[i]? := by
  have h := congrArg (·[0]?) (slice_patchAll_of_apart (n := 1) hfits hapart)
  simpa only [getElem?_slice, Nat.zero_lt_one, if_true, Nat.add_zero] using h

end Lib.Layout
