/-
  Smile2Unlock.Lib.HeapTriple

  Triples for stretches of code that allocate, free and read blocks.

  Without its reads a log of `HeapCall`s is one of handle calls, and the rules of
  `Lib.HandleTriple` say what is allocated after it.  `Uses` adds which function a block is
  freed with, and the reads: each is of an allocated block, as long as the pointers of the
  program are right.  Whether or not they are, allocated blocks only are freed, and each once.
-/

import Mathlib.Logic.Function.Basic
import Smile2Unlock.Lib.HandleTriple

namespace Lib

/-- A call of an allocator, or a look into a block.  A block is freed by one of the functions
    `δ`. -/
inductive HeapCall (β δ : Type _) where
  | allocated (b : β)
  | freed (function : δ) (b : β)
  | read (b : β)
deriving DecidableEq

namespace HeapCall

open HandleCall

variable {β δ : Type _}

def handleCall? : HeapCall β δ → Option (HandleCall β)
  | .allocated b => some (.obtained b)
  | .freed _ b => some (.closed b)
  | .read _ => none

/-- The log without its reads. -/
def handleCalls (calls : List (HeapCall β δ)) : List (HandleCall β) :=
  calls.filterMap handleCall?

theorem handleCalls_append (calls calls' : List (HeapCall β δ)) :
    handleCalls (calls ++ calls') = handleCalls calls ++ handleCalls calls' :=
  List.filterMap_append

theorem handleCalls_reads (bs : List β) :
    handleCalls (bs.map (.read : β → HeapCall β δ)) = [] := by
  induction bs with
  | nil => rfl
  | cons b bs ih => exact ih

variable [DecidableEq β]

/-- Every read is of a block that is allocated at the time. -/
def ReadsAllocated : Finset β → List (HeapCall β δ) → Prop
  | _, [] => True
  | opened, .allocated b :: calls => ReadsAllocated (insert b opened) calls
  | opened, .freed _ b :: calls => ReadsAllocated (opened.erase b) calls
  | opened, .read b :: calls => b ∈ opened ∧ ReadsAllocated opened calls

theorem readsAllocated_append {opened : Finset β} {calls calls' : List (HeapCall β δ)} :
    ReadsAllocated opened (calls ++ calls') ↔ ReadsAllocated opened calls ∧
      ReadsAllocated (openAfter opened (handleCalls calls)) calls' := by
  induction calls generalizing opened with
  | nil => exact (iff_of_eq (true_and _)).symm
  | cons c calls ih =>
      cases c with
      | allocated b => exact ih
      | freed function b => exact ih
      | read b =>
          have hassoc := and_congr_right (a := b ∈ opened) fun _ => @ih opened
          exact hassoc.trans and_assoc.symm

/-- What the frees and the reads of a program have to satisfy: `fits` says which function may
    free a block, `pointed` what the program needs of its pointers. -/
structure HeapRules (β δ : Type _) where
  fits : δ → β → Prop
  pointed : Prop

/-- Started with the blocks `had`, the calls free allocated blocks only, with a function that
    fits, and end with `got`; the reads are of allocated blocks if the pointers are right. -/
structure Uses (R : HeapRules β δ) (had got : List β) (calls : List (HeapCall β δ)) : Prop where
  carries : Carries had got (handleCalls calls)
  fits : ∀ function b, .freed function b ∈ calls → R.fits function b
  reads : ∀ (frame : List β) (opened : Finset β), Holding (had ++ frame) opened →
    Granted opened (handleCalls calls) → R.pointed → ReadsAllocated opened calls

section Rules

variable {R : HeapRules β δ} {had had' got got' more : List β} {calls calls' : List (HeapCall β δ)}
  {b : β}

theorem uses_nil (R : HeapRules β δ) (had : List β) : Uses R had had [] where
  carries := carries_nil had
  fits _ _ h := absurd h List.not_mem_nil
  reads _ _ _ _ _ := trivial

theorem Uses.append (h : Uses R had got calls) (h' : Uses R got got' calls') :
    Uses R had got' (calls ++ calls') where
  carries := by
    rw [handleCalls_append]
    exact h.carries.append h'.carries
  fits function b hmem := by
    rcases List.mem_append.mp hmem with hmem | hmem
    · exact h.fits function b hmem
    · exact h'.fits function b hmem
  reads frame opened hheld hgranted hpointed := by
    rw [handleCalls_append] at hgranted
    obtain ⟨hg, hg'⟩ := along_append.mp hgranted
    obtain ⟨-, hmid⟩ := h.carries frame opened hheld hg
    rw [readsAllocated_append]
    exact ⟨h.reads frame opened hheld hg hpointed, h'.reads frame _ hmid hg' hpointed⟩

theorem Uses.perm (h : Uses R had got calls) (hperm : got.Perm got') : Uses R had got' calls :=
  ⟨h.carries.perm hperm, h.fits, h.reads⟩

theorem Uses.perm_left (h : Uses R had got calls) (hperm : had'.Perm had) :
    Uses R had' got calls := by
  refine ⟨h.carries.perm_left hperm, h.fits, ?_⟩
  intro frame opened hheld
  exact h.reads frame opened (hheld.perm (hperm.append_right frame))

theorem Uses.frame (h : Uses R had got calls) (more : List β) :
    Uses R (had ++ more) (got ++ more) calls := by
  refine ⟨h.carries.frame more, h.fits, ?_⟩
  intro frame opened hheld
  rw [List.append_assoc] at hheld
  exact h.reads (more ++ frame) opened hheld

/-- The same with the other blocks in front. -/
theorem Uses.under (h : Uses R had got calls) (more : List β) :
    Uses R (more ++ had) (more ++ got) calls :=
  ((h.frame more).perm List.perm_append_comm).perm_left List.perm_append_comm

/-- Rules that ask for less. -/
theorem Uses.mono (h : Uses R had got calls) {R' : HeapRules β δ}
    (hfits : ∀ function b, R.fits function b → R'.fits function b)
    (hpointed : R'.pointed → R.pointed) : Uses R' had got calls where
  carries := h.carries
  fits function b hmem := hfits function b (h.fits function b hmem)
  reads frame opened hheld hgranted hp := h.reads frame opened hheld hgranted (hpointed hp)

theorem uses_allocated (R : HeapRules β δ) (had : List β) (b : β) :
    Uses R had (b :: had) [.allocated b] where
  carries := carries_obtained had b
  fits _ _ h := absurd h (by simp)
  reads _ _ _ _ _ := trivial

theorem uses_freed {function : δ} (h : R.fits function b) (had : List β) :
    Uses R (b :: had) had [.freed function b] where
  carries := carries_closed had b
  fits function' b' hmem := by
    cases List.mem_singleton.mp hmem
    exact h
  reads _ _ _ _ _ := trivial

/-- Reads of blocks that are held. -/
theorem uses_reads {bs : List β} (h : R.pointed → ∀ b ∈ bs, b ∈ had) :
    Uses R had had (bs.map .read) := by
  refine ⟨by rw [handleCalls_reads]; exact carries_nil had, by simp, ?_⟩
  intro frame opened hheld hgranted hpointed
  have hopen (b : β) (hb : b ∈ bs) : b ∈ opened :=
    (hheld.mem_iff b).mp (List.mem_append_left frame (h hpointed b hb))
  clear h hgranted
  induction bs with
  | nil => trivial
  | cons b bs ih =>
      obtain ⟨hb, hbs⟩ := List.forall_mem_cons.mp hopen
      exact ⟨hb, ih hbs⟩

/-- A program that starts with nothing. -/
theorem Uses.from_nil (h : Uses R [] got calls) (hgranted : Granted ∅ (handleCalls calls)) :
    Orderly ∅ (handleCalls calls) ∧ Holding got (openAfter ∅ (handleCalls calls)) ∧
      (R.pointed → ReadsAllocated ∅ calls) := by
  obtain ⟨horderly, hend⟩ := h.carries.from_nil hgranted
  exact ⟨horderly, hend, h.reads [] ∅ holding_nil hgranted⟩

end Rules

end HeapCall

-- ============================================================================
-- Variables
-- ============================================================================

section Slots

variable {ι α : Type _} {l : List ι}

/-- What is in the variables of a list. -/
def heldIn (slots : ι → Option α) (l : List ι) : List α := l.flatMap fun i => (slots i).toList

theorem mem_heldIn {slots : ι → Option α} {i : ι} (hi : i ∈ l) {x : α} (hx : slots i = some x) :
    x ∈ heldIn slots l :=
  List.mem_flatMap.mpr ⟨i, hi, by simp [hx]⟩

variable [DecidableEq ι]

theorem heldIn_perm (slots : ι → Option α) {i : ι} (hi : i ∈ l) :
    (heldIn slots l).Perm ((slots i).toList ++ heldIn slots (l.erase i)) :=
  (List.perm_cons_erase hi).flatMap_right _

/-- After an assignment. -/
theorem heldIn_update (slots : ι → Option α) {i : ι} (hi : i ∈ l) (hn : l.Nodup)
    (v : Option α) :
    (heldIn (Function.update slots i v) l).Perm (v.toList ++ heldIn slots (l.erase i)) := by
  have hothers : heldIn (Function.update slots i v) (l.erase i) = heldIn slots (l.erase i) := by
    apply List.flatMap_congr
    intro j hj
    have hne : j ≠ i := fun heq => (hn.mem_erase_iff.mp hj).1 heq
    rw [Function.update_of_ne hne]
  have hperm := heldIn_perm (Function.update slots i v) hi
  rwa [Function.update_self, hothers] at hperm

end Slots

end Lib
