/-
  Smile2Unlock.Lib.Handles

  Handles that a system gives out and takes back, and the variables a program
  keeps them in.

  A program is seen through the list of its calls.  `openAfter` folds the list to
  the set of the handles that are open after it; `Along` says that every call
  satisfies a condition in the set that is open at its time.  `Granted` is what the
  system does (a handle it gives out is not open) and `Orderly` what the program
  should do (it closes open handles only, and reads no variable before it has
  written it).  Both are read call by call, and `along_append` puts stretches
  together.
-/

import Mathlib.Data.Finset.Basic
import Smile2Unlock.Lib.Trace

namespace Lib

variable {η : Type _}

/-- A call of the system, or a look at a variable that nothing has been written to. -/
inductive HandleCall (η : Type _) where
  | obtained (h : η)
  | closed (h : η)
  | unwritten
deriving DecidableEq

namespace HandleCall

/-- The handle was obtained and has not been closed since. -/
def OpenIn (log : List (HandleCall η)) (h : η) : Prop :=
  Since (· = .obtained h) (· = .closed h) log

variable [DecidableEq η]

/-- The open handles after one more call. -/
def apply (opened : Finset η) : HandleCall η → Finset η
  | .obtained h => insert h opened
  | .closed h => opened.erase h
  | .unwritten => opened

/-- The open handles after a list of calls. -/
def openAfter (opened : Finset η) (calls : List (HandleCall η)) : Finset η :=
  calls.foldl apply opened

@[simp] theorem openAfter_nil (opened : Finset η) : openAfter opened [] = opened := rfl

@[simp] theorem openAfter_cons (opened : Finset η) (c : HandleCall η) (cs : List (HandleCall η)) :
    openAfter opened (c :: cs) = openAfter (apply opened c) cs := rfl

theorem openAfter_append (opened : Finset η) (cs ds : List (HandleCall η)) :
    openAfter opened (cs ++ ds) = openAfter (openAfter opened cs) ds :=
  List.foldl_append

theorem mem_apply {opened : Finset η} {c : HandleCall η} {h : η} :
    h ∈ apply opened c ↔ c = .obtained h ∨ (h ∈ opened ∧ c ≠ .closed h) := by
  cases c with
  | obtained h' => simp [apply, eq_comm]
  | closed h' =>
      simp only [apply, Finset.mem_erase]
      constructor
      · rintro ⟨hne, hmem⟩
        exact Or.inr ⟨hmem, by simpa using Ne.symm hne⟩
      · rintro (heq | ⟨hmem, hne⟩)
        · cases heq
        · exact ⟨by simpa [eq_comm] using hne, hmem⟩
  | unwritten => simp [apply]

/-- The open handles are those obtained and not closed since. -/
theorem mem_openAfter {log : List (HandleCall η)} {h : η} :
    h ∈ openAfter ∅ log ↔ OpenIn log h := by
  induction log using List.reverseRecOn with
  | nil => exact iff_of_false (Finset.notMem_empty h) not_since_nil
  | append_singleton log c ih =>
      rw [openAfter_append, openAfter_cons, openAfter_nil, mem_apply, ih, OpenIn, OpenIn,
        since_snoc]

-- ============================================================================
-- Conditions on every call
-- ============================================================================

/-- Every call satisfies `P` with the handles that are open before it. -/
def Along (P : Finset η → HandleCall η → Prop) : Finset η → List (HandleCall η) → Prop
  | _, [] => True
  | opened, c :: cs => P opened c ∧ Along P (apply opened c) cs

instance decidableAlong {P : Finset η → HandleCall η → Prop}
    [∀ opened c, Decidable (P opened c)] :
    ∀ opened calls, Decidable (Along P opened calls)
  | _, [] => inferInstanceAs (Decidable True)
  | opened, c :: cs =>
      have := decidableAlong (P := P) (apply opened c) cs
      inferInstanceAs (Decidable (P opened c ∧ Along P (apply opened c) cs))

variable {P : Finset η → HandleCall η → Prop}

theorem along_append {opened : Finset η} {cs ds : List (HandleCall η)} :
    Along P opened (cs ++ ds) ↔ Along P opened cs ∧ Along P (openAfter opened cs) ds := by
  induction cs generalizing opened with
  | nil => simp [Along]
  | cons c cs ih =>
      rw [List.cons_append, Along, Along, ih, openAfter_cons]
      exact and_assoc.symm

/-- Read from the first call on, the condition is one on the log. -/
theorem always_of_along {log : List (HandleCall η)} (h : Along P ∅ log) :
    Always (fun pre c => P (openAfter ∅ pre) c) log := by
  rintro pre c post rfl
  obtain ⟨-, hc, -⟩ := along_append.mp h
  exact hc

/-- The system's part: a handle that it gives out is not open. -/
def IsGranted (opened : Finset η) : HandleCall η → Prop
  | .obtained h => h ∉ opened
  | _ => True

instance (opened : Finset η) : ∀ c, Decidable (IsGranted opened c)
  | .obtained h => inferInstanceAs (Decidable (h ∉ opened))
  | .closed _ => inferInstanceAs (Decidable True)
  | .unwritten => inferInstanceAs (Decidable True)

abbrev Granted : Finset η → List (HandleCall η) → Prop := Along IsGranted

/-- The program's part: what it closes is open, and it reads what it has written. -/
def IsOrderly (opened : Finset η) : HandleCall η → Prop
  | .obtained _ => True
  | .closed h => h ∈ opened
  | .unwritten => False

abbrev Orderly : Finset η → List (HandleCall η) → Prop := Along IsOrderly

-- ============================================================================
-- Orderly logs
-- ============================================================================

section Orderly

variable {log : List (HandleCall η)}

/-- Only open handles are closed. -/
theorem Orderly.closes_open (h : Orderly ∅ log) :
    Always (fun pre c => ∀ handle, c = .closed handle → OpenIn pre handle) log := by
  refine (always_of_along h).mono fun pre c hc handle heq => ?_
  rw [heq] at hc
  exact mem_openAfter.mp hc

theorem Orderly.unwritten_notMem (h : Orderly ∅ log) : .unwritten ∉ log := by
  intro hmem
  obtain ⟨pre, post, heq⟩ := List.append_of_mem hmem
  exact always_of_along h pre .unwritten post heq

/-- No handle is closed twice: between two calls that close the same one the system
    has given it out again. -/
theorem Orderly.closes_once (h : Orderly ∅ log) {pre mid post : List (HandleCall η)} {handle : η}
    (heq : log = pre ++ .closed handle :: (mid ++ .closed handle :: post)) :
    .obtained handle ∈ mid := by
  have hopen : OpenIn (pre ++ .closed handle :: mid) handle :=
    h.closes_open _ (.closed handle) post (by simp [heq]) handle rfl
  clear heq
  induction mid using List.reverseRecOn with
  | nil =>
      rcases since_snoc.mp hopen with hobtained | ⟨-, hclosed⟩
      · cases hobtained
      · exact absurd rfl hclosed
  | append_singleton mid c ih =>
      rw [← List.cons_append, ← List.append_assoc, OpenIn, since_snoc] at hopen
      rcases hopen with rfl | ⟨hopen, -⟩
      · exact List.mem_append_right _ (List.mem_singleton_self _)
      · exact List.mem_append_left _ (ih hopen)

end Orderly

/-- Distinct open handles can be closed one after the other, and the rest stays open. -/
theorem orderly_closed {l : List η} (hn : l.Nodup) {opened : Finset η}
    (hopen : ∀ h ∈ l, h ∈ opened) :
    Orderly opened (l.map .closed) ∧ openAfter opened (l.map .closed) = opened \ l.toFinset := by
  induction l generalizing opened with
  | nil => exact ⟨trivial, by simp⟩
  | cons h l ih =>
      obtain ⟨hnot, hn'⟩ := List.nodup_cons.mp hn
      obtain ⟨hhead, htail⟩ := List.forall_mem_cons.mp hopen
      have hopen' : ∀ h' ∈ l, h' ∈ opened.erase h := by
        intro h' hmem
        apply Finset.mem_erase_of_ne_of_mem
        · rintro rfl
          exact hnot hmem
        · exact htail h' hmem
      obtain ⟨horderly, hafter⟩ := ih hn' hopen'
      refine ⟨⟨hhead, horderly⟩, ?_⟩
      rw [List.map_cons, openAfter_cons, apply, hafter, List.toFinset_cons,
        Finset.sdiff_insert, Finset.erase_sdiff_comm]

/-- The handles of one stretch are distinct and not open before it. -/
theorem granted_obtained {l : List η} {opened : Finset η} (h : Granted opened (l.map .obtained)) :
    l.Nodup ∧ ∀ handle ∈ l, handle ∉ opened := by
  induction l generalizing opened with
  | nil => exact ⟨List.nodup_nil, by simp⟩
  | cons h₀ l ih =>
      obtain ⟨hhead, htail⟩ := h
      obtain ⟨hn, hnot⟩ := ih htail
      have hne : h₀ ∉ l := fun hmem => hnot h₀ hmem (Finset.mem_insert_self h₀ opened)
      refine ⟨List.nodup_cons.mpr ⟨hne, hn⟩, List.forall_mem_cons.mpr ⟨hhead, ?_⟩⟩
      exact fun handle hmem hopen => hnot handle hmem (Finset.mem_insert_of_mem hopen)

theorem mem_openAfter_obtained {l : List η} {opened : Finset η} {handle : η} :
    handle ∈ openAfter opened (l.map .obtained) ↔ handle ∈ l ∨ handle ∈ opened := by
  induction l generalizing opened with
  | nil => simp
  | cons h₀ l ih =>
      rw [List.map_cons, openAfter_cons, ih, apply, Finset.mem_insert, List.mem_cons]
      tauto

theorem orderly_obtained (l : List η) (opened : Finset η) :
    Orderly opened (l.map .obtained) := by
  induction l generalizing opened with
  | nil => trivial
  | cons h₀ l ih => exact ⟨trivial, ih (insert h₀ opened)⟩

end HandleCall

-- ============================================================================
-- Variables
-- ============================================================================

/-- A variable for a handle.  `unset` is one that nothing has been written to. -/
inductive HandleVar (η : Type _) where
  | unset
  | null
  | handle (h : η)
deriving DecidableEq

namespace HandleVar

/-- The handle in the variable. -/
def held : HandleVar η → List η
  | .handle h => [h]
  | _ => []

@[simp] theorem held_unset : (unset : HandleVar η).held = [] := rfl
@[simp] theorem held_null : (null : HandleVar η).held = [] := rfl
@[simp] theorem held_handle (h : η) : (handle h).held = [h] := rfl

/-- The test for null, and the call that closes what is not null. -/
def close : HandleVar η → List (HandleCall η)
  | .unset => [.unwritten]
  | .null => []
  | .handle h => [.closed h]

theorem close_of_ne_unset {v : HandleVar η} (hv : v ≠ .unset) : v.close = v.held.map .closed := by
  cases v with
  | unset => exact absurd rfl hv
  | null => rfl
  | handle h => rfl

/-- The handles of a list of variables, and the calls that close them. -/
def heldAll (vars : List (HandleVar η)) : List η := vars.flatMap held

def closeAll (vars : List (HandleVar η)) : List (HandleCall η) := vars.flatMap close

@[simp] theorem heldAll_nil : heldAll ([] : List (HandleVar η)) = [] := rfl

@[simp] theorem heldAll_cons (v : HandleVar η) (vars : List (HandleVar η)) :
    heldAll (v :: vars) = v.held ++ heldAll vars := rfl

theorem closeAll_eq {vars : List (HandleVar η)} (hset : ∀ v ∈ vars, v ≠ .unset) :
    closeAll vars = (heldAll vars).map .closed := by
  induction vars with
  | nil => rfl
  | cons v vars ih =>
      obtain ⟨hv, hvars⟩ := List.forall_mem_cons.mp hset
      rw [closeAll, List.flatMap_cons, ← closeAll, ih hvars, close_of_ne_unset hv, heldAll_cons,
        List.map_append]

/-- The variables hold the open handles, each of them once. -/
structure Owns (vars : List (HandleVar η)) (opened : Finset η) : Prop where
  nodup : (heldAll vars).Nodup
  mem_iff : ∀ h, h ∈ heldAll vars ↔ h ∈ opened

/-- An owner that has written all its variables can close them all, and nothing
    stays open. -/
theorem Owns.closeAll [DecidableEq η] {vars : List (HandleVar η)} {opened : Finset η}
    (h : Owns vars opened) (hset : ∀ v ∈ vars, v ≠ .unset) :
    HandleCall.Orderly opened (closeAll vars) ∧
      HandleCall.openAfter opened (closeAll vars) = ∅ := by
  have hopen : ∀ handle ∈ heldAll vars, handle ∈ opened := fun handle => (h.mem_iff handle).mp
  obtain ⟨horderly, hafter⟩ := HandleCall.orderly_closed h.nodup hopen
  rw [closeAll_eq hset]
  refine ⟨horderly, ?_⟩
  rw [hafter, Finset.sdiff_eq_empty_iff_subset]
  intro handle hmem
  exact List.mem_toFinset.mpr ((h.mem_iff handle).mpr hmem)

/-- Nothing is open when the variables hold nothing. -/
theorem Owns.eq_empty {vars : List (HandleVar η)} {opened : Finset η} (h : Owns vars opened)
    (hnone : heldAll vars = []) : opened = ∅ := by
  apply Finset.eq_empty_of_forall_notMem
  intro handle hmem
  have hheld := (h.mem_iff handle).mpr hmem
  rw [hnone] at hheld
  cases hheld

/-- What a program obtains while nothing is open is kept in its variables or closed
    again. -/
theorem owns_of_obtained [DecidableEq η] (got temps : List η) {vars : List (HandleVar η)}
    (hgranted : HandleCall.Granted ∅ (got.map .obtained ++ temps.map .closed))
    (hperm : got.Perm (heldAll vars ++ temps)) :
    HandleCall.Orderly ∅ (got.map .obtained ++ temps.map .closed) ∧
      Owns vars (HandleCall.openAfter ∅ (got.map .obtained ++ temps.map .closed)) := by
  obtain ⟨hgot, -⟩ := HandleCall.granted_obtained (HandleCall.along_append.mp hgranted).1
  obtain ⟨hheld, htemps, hapart⟩ := List.nodup_append.mp (hperm.nodup_iff.mp hgot)
  have hopen : ∀ h, h ∈ HandleCall.openAfter ∅ (got.map .obtained) ↔ h ∈ got := by
    intro h
    rw [HandleCall.mem_openAfter_obtained]
    simp
  have htempsOpen : ∀ h ∈ temps, h ∈ HandleCall.openAfter ∅ (got.map .obtained) := by
    intro h hmem
    rw [hopen, hperm.mem_iff]
    exact List.mem_append_right _ hmem
  obtain ⟨horderly, hafter⟩ := HandleCall.orderly_closed htemps htempsOpen
  refine ⟨HandleCall.along_append.mpr ⟨HandleCall.orderly_obtained got ∅, horderly⟩, hheld, ?_⟩
  intro h
  rw [HandleCall.openAfter_append, hafter, Finset.mem_sdiff, hopen, hperm.mem_iff,
    List.mem_append, List.mem_toFinset]
  constructor
  · intro hmem
    exact ⟨Or.inl hmem, fun htemp => hapart h hmem h htemp rfl⟩
  · rintro ⟨hmem | hmem, hnot⟩
    · exact hmem
    · exact absurd hmem hnot

theorem owns_empty {vars : List (HandleVar η)} (hnone : heldAll vars = []) :
    Owns vars (∅ : Finset η) := by
  refine ⟨?_, fun h => ?_⟩
  · rw [hnone]
    exact List.nodup_nil
  · rw [hnone]
    exact iff_of_false List.not_mem_nil (Finset.notMem_empty h)

end HandleVar

end Lib
