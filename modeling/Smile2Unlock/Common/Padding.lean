/-
  Smile2Unlock.Common.Padding

  The padding of `AddPadding`, as a code: `RemovePadding` accepts its image and nothing
  else (`removePadding_eq_ok_iff`), and takes off what was put on.

  The length of the padding is read from the data.  `removePaddingChecked` is
  `RemovePadding` with each access to `data` checked; it never leaves the data
  (`removePaddingChecked_eq`).
-/

import Smile2Unlock.Common.Crypto
import Smile2Unlock.Lib.ArrayAccess
import Mathlib.Order.Bounds.Basic

namespace Smile2Unlock

open Lib

-- ============================================================================
-- The accesses of RemovePadding
-- ============================================================================

/-- `RemovePadding`: the last byte, the loop over the padding, and the `memcpy` of what
    stands before it. -/
def removePaddingChecked (data : Bytes) : Except (Fault Bytes) Bytes := do
  let len := data.length
  if len = 0 ∨ len % kAesBlockSize ≠ 0 then
    throw (.thrown (utf8 "Invalid padded data length"))
  let padLen ← readAt data (len - 1)
  if padLen = 0 ∨ kAesBlockSize < padLen.toNat ∨ len < padLen.toNat then
    throw (.thrown (utf8 "Invalid padding"))
  checkRange (· == padLen) (utf8 "Invalid padding") data (len - padLen.toNat) padLen.toNat
  readRange data 0 (len - padLen.toNat)

theorem not_all_eq_any (p : UInt8) (data : Bytes) :
    (data.all (· == p)) = !(data.any fun b => decide (b ≠ p)) := by
  rw [List.all_eq_not_any_not]
  congr 2
  funext b
  by_cases hb : b = p <;> simp [hb]

/-- Every access is inside, and the result is that of `removePadding`. -/
theorem removePaddingChecked_eq (data : Bytes) :
    removePaddingChecked data = (removePadding data).mapError .thrown := by
  rw [removePaddingChecked, removePadding]
  cases hlast : data.getLast? with
  | none =>
      obtain rfl := List.getLast?_eq_none_iff.mp hlast
      rfl
  | some padLen =>
      have hne : data ≠ [] := by
        rintro rfl
        cases hlast
      have hpos := List.length_pos_iff.mpr hne
      have hread : readAt (ε := Bytes) data (data.length - 1) = .ok padLen := by
        rw [List.getLast?_eq_getElem?] at hlast
        rw [readAt, hlast]
      by_cases hmod : data.length % kAesBlockSize ≠ 0
      · rw [if_pos (.inr hmod), if_pos hmod]
        rfl
      · rw [if_neg (by omega), if_neg hmod, hread]
        dsimp only [bind, Except.bind]
        by_cases hpad : padLen = 0 ∨ kAesBlockSize < padLen.toNat ∨ data.length < padLen.toNat
        · rw [if_pos hpad, if_pos hpad]
          rfl
        · have hle : padLen.toNat ≤ data.length := by
            rw [not_or, not_or] at hpad
            omega
          have hdrop : (data.drop (data.length - padLen.toNat)).length = padLen.toNat := by
            rw [List.length_drop]
            omega
          have htake : (data.drop (data.length - padLen.toNat)).take padLen.toNat =
              data.drop (data.length - padLen.toNat) := List.take_of_length_le (by omega)
          rw [if_neg hpad, if_neg hpad, checkRange_eq (by omega), htake, not_all_eq_any,
            readRange_eq (by omega), List.drop_zero]
          cases (data.drop (data.length - padLen.toNat)).any fun b => decide (b ≠ padLen) with
          | true => rfl
          | false => rfl

-- ============================================================================
-- What RemovePadding accepts
-- ============================================================================

/-- Data whose padding comes off is padded data. -/
theorem eq_addPadding_of_removePadding {data unpadded : Bytes}
    (h : removePadding data = .ok unpadded) : data = addPadding unpadded := by
  rw [removePadding] at h
  split at h
  · cases h
  rename_i hmod
  split at h
  · cases h
  rename_i padLen hlast
  split at h
  · cases h
  rename_i hpad
  split at h
  · cases h
  rename_i hsame
  cases h
  rw [not_or, not_or, ← UInt8.toNat_inj] at hpad
  have hzero : (0 : UInt8).toNat = 0 := rfl
  have hblock : kAesBlockSize = 16 := rfl
  have hlength : (data.take (data.length - padLen.toNat)).length = data.length - padLen.toNat := by
    rw [List.length_take]
    omega
  -- the padding that the shortened data calls for is the one that was there
  have hneeded : kAesBlockSize - (data.length - padLen.toNat) % kAesBlockSize = padLen.toNat := by
    rw [hblock] at hmod hpad ⊢
    omega
  have hreplicate : data.drop (data.length - padLen.toNat) =
      List.replicate padLen.toNat padLen := by
    rw [List.eq_replicate_iff]
    refine ⟨by rw [List.length_drop]; omega, fun b hb => ?_⟩
    by_contra hne
    exact hsame (List.any_eq_true.mpr ⟨b, hb, decide_eq_true hne⟩)
  rw [addPadding, hlength, hneeded, UInt8.ofNat_toNat, ← hreplicate, List.take_append_drop]

theorem removePadding_eq_ok_iff {data unpadded : Bytes} :
    removePadding data = .ok unpadded ↔ data = addPadding unpadded := by
  refine ⟨eq_addPadding_of_removePadding, ?_⟩
  rintro rfl
  exact removePadding_addPadding unpadded

theorem addPadding_injective : Function.Injective addPadding := by
  intro a b h
  have hb := removePadding_addPadding b
  rw [← h, removePadding_addPadding a] at hb
  exact Except.ok.inj hb

/-- Padded data ends with the next block border behind the data. -/
theorem isLeast_length_addPadding (data : Bytes) :
    IsLeast {n | 16 ∣ n ∧ data.length < n} (addPadding data).length := by
  have hlength := length_addPadding data
  have hblock : kAesBlockSize = 16 := rfl
  constructor
  · refine ⟨Nat.dvd_of_mod_eq_zero ?_, ?_⟩
    · exact (length_addPadding_mod data).1
    · have hpos := (padLen_bounds data).1
      omega
  · rintro n ⟨⟨k, rfl⟩, hlt⟩
    rw [hlength, hblock]
    omega

/-- `RemovePadding` accepts exactly what `AddPadding` produces, and reads nothing else. -/
theorem padding_code :
    (∀ x m, removePadding x = .ok m ↔ x = addPadding m) ∧
    Function.Injective addPadding ∧
    (∀ m, IsLeast {n | 16 ∣ n ∧ m.length < n} (addPadding m).length) ∧
    ∀ x, removePaddingChecked x = (removePadding x).mapError .thrown ∧
      removePaddingChecked x ≠ .error .outside := by
  refine ⟨fun x m => removePadding_eq_ok_iff, addPadding_injective, isLeast_length_addPadding,
    fun x => ⟨removePaddingChecked_eq x, ?_⟩⟩
  rw [removePaddingChecked_eq]
  cases removePadding x with
  | ok m =>
      intro h
      cases h
  | error e =>
      intro h
      cases h

end Smile2Unlock
