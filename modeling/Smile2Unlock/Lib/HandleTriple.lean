/-
  Smile2Unlock.Lib.HandleTriple

  Triples for stretches of handle calls.

  `Carries had got calls` says what a stretch does to the handles of its owner: started with
  exactly the handles `had` it closes open handles only and ends with exactly `got`, whatever
  `frame` of other handles is open meanwhile.  The frame is in the definition, so a triple can
  be used anywhere (`Carries.frame`), and the triples of a program are put together in the
  order of its calls (`Carries.append`).
-/

import Mathlib.Data.List.Perm.Basic
import Smile2Unlock.Lib.Handles

namespace Lib.HandleCall

open HandleVar

variable {η : Type _} [DecidableEq η]

/-- The open handles are those of the list, each of them once. -/
structure Holding (held : List η) (opened : Finset η) : Prop where
  nodup : held.Nodup
  mem_iff : ∀ h, h ∈ held ↔ h ∈ opened

omit [DecidableEq η] in
theorem holding_nil : Holding ([] : List η) ∅ where
  nodup := List.nodup_nil
  mem_iff h := iff_of_false List.not_mem_nil (Finset.notMem_empty h)

omit [DecidableEq η] in
theorem Holding.perm {held held' : List η} {opened : Finset η} (h : Holding held opened)
    (hperm : held.Perm held') : Holding held' opened where
  nodup := hperm.nodup_iff.mp h.nodup
  mem_iff handle := hperm.mem_iff.symm.trans (h.mem_iff handle)

def Carries (had got : List η) (calls : List (HandleCall η)) : Prop :=
  ∀ (frame : List η) (opened : Finset η), Holding (had ++ frame) opened → Granted opened calls →
    Orderly opened calls ∧ Holding (got ++ frame) (openAfter opened calls)

section Rules

variable {had had' got got' : List η} {calls calls' : List (HandleCall η)} {x : η}

theorem carries_nil (had : List η) : Carries had had [] :=
  fun _ _ hheld _ => ⟨trivial, hheld⟩

theorem Carries.append (h : Carries had got calls) (h' : Carries got got' calls') :
    Carries had got' (calls ++ calls') := by
  intro frame opened hheld hgranted
  obtain ⟨hg, hg'⟩ := along_append.mp hgranted
  obtain ⟨horderly, hmid⟩ := h frame opened hheld hg
  obtain ⟨horderly', hend⟩ := h' frame _ hmid hg'
  rw [openAfter_append]
  exact ⟨along_append.mpr ⟨horderly, horderly'⟩, hend⟩

theorem Carries.perm (h : Carries had got calls) (hperm : got.Perm got') :
    Carries had got' calls := by
  intro frame opened hheld hgranted
  obtain ⟨horderly, hend⟩ := h frame opened hheld hgranted
  exact ⟨horderly, hend.perm (hperm.append_right frame)⟩

theorem Carries.perm_left (h : Carries had got calls) (hperm : had'.Perm had) :
    Carries had' got calls := by
  intro frame opened hheld hgranted
  exact h frame opened (hheld.perm (hperm.append_right frame)) hgranted

/-- A stretch leaves other handles of its owner alone. -/
theorem Carries.frame (h : Carries had got calls) (more : List η) :
    Carries (had ++ more) (got ++ more) calls := by
  intro frame opened hheld hgranted
  rw [List.append_assoc] at hheld ⊢
  exact h (more ++ frame) opened hheld hgranted

theorem carries_obtained (had : List η) (x : η) : Carries had (x :: had) [.obtained x] := by
  intro frame opened hheld hgranted
  have hnot : x ∉ opened := hgranted.1
  refine ⟨⟨trivial, trivial⟩, List.nodup_cons.mpr ⟨?_, hheld.nodup⟩, fun h => ?_⟩
  · exact mt (hheld.mem_iff x).mp hnot
  · rw [openAfter_cons, openAfter_nil, apply, Finset.mem_insert, ← hheld.mem_iff h]
    exact List.mem_cons

theorem carries_closed (had : List η) (x : η) : Carries (x :: had) had [.closed x] := by
  intro frame opened hheld _
  obtain ⟨hnot, hnodup⟩ := List.nodup_cons.mp hheld.nodup
  refine ⟨⟨(hheld.mem_iff x).mp List.mem_cons_self, trivial⟩, hnodup, fun h => ?_⟩
  rw [openAfter_cons, openAfter_nil, apply, Finset.mem_erase, ← hheld.mem_iff h]
  constructor
  · intro hmem
    refine ⟨?_, List.mem_cons_of_mem x hmem⟩
    rintro rfl
    exact hnot hmem
  · rintro ⟨hne, hmem⟩
    exact (List.mem_cons.mp hmem).resolve_left hne

/-- One more call. -/
theorem Carries.obtained (h : Carries had got calls) (x : η) :
    Carries had (x :: got) (calls ++ [.obtained x]) :=
  h.append (carries_obtained got x)

theorem Carries.closed (h : Carries had (x :: got) calls) :
    Carries had got (calls ++ [.closed x]) :=
  h.append (carries_closed got x)

/-- The test for null and the close of a variable. -/
theorem carries_close {v : HandleVar η} (hv : v ≠ .unset) (had : List η) :
    Carries (v.held ++ had) had v.close := by
  cases v with
  | unset => exact absurd rfl hv
  | null => exact carries_nil had
  | handle h => exact carries_closed had h

/-- The system has no part in a stretch that obtains nothing. -/
theorem granted_of_closes {calls : List (HandleCall η)} (h : ∀ x, .obtained x ∉ calls)
    (opened : Finset η) : Granted opened calls := by
  induction calls generalizing opened with
  | nil => trivial
  | cons c calls ih =>
      refine ⟨?_, ih (fun x hx => h x (List.mem_cons_of_mem c hx)) _⟩
      cases c with
      | obtained x => exact absurd List.mem_cons_self (h x)
      | closed x => trivial
      | unwritten => trivial

/-- A program that starts with nothing. -/
theorem Carries.from_nil (h : Carries [] got calls) (hgranted : Granted ∅ calls) :
    Orderly ∅ calls ∧ Holding got (openAfter ∅ calls) := by
  obtain ⟨horderly, hend⟩ := h [] ∅ holding_nil hgranted
  rw [List.append_nil] at hend
  exact ⟨horderly, hend⟩

end Rules

end Lib.HandleCall
