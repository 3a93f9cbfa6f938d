/-
  Smile2Unlock.Lib.Machine

  Machines that take one event at a time and emit outputs, and their finite
  runs.

  A run is recorded as the list of its transitions, oldest first, so that a
  property of a run may speak about the states, the inputs and the outputs of
  every step and about their order.  `Steps.invariant` is the induction rule:
  what holds of the empty run and is kept by every step holds of every run, the
  history included.  `Steps.invariant_under` is the same rule for the runs whose
  steps all meet a condition, `Run.always_iff` turns a condition on one step into
  one on whole runs, `Run.flag_iff_since` links a flag of the state to the order of
  the steps so far, and `Run.map` carries the runs of a machine over to the machine
  it refines (`Run.map_under` with an invariant of the first).
-/

import Smile2Unlock.Lib.Trace

namespace Lib

variable {σ ε ω : Type _}

/-- A machine with states `σ`, events `ε` and outputs `ω`.  An event that is not
    enabled in a state has no result there. -/
structure Machine (σ ε ω : Type _) where
  init : σ → Prop
  step : σ → ε → Option (σ × List ω)

/-- One step of a run: the state before, the event, what was sent and the state
    after. -/
structure Transition (σ ε ω : Type _) where
  before : σ
  event : ε
  sent : List ω
  after : σ

namespace Machine

variable {M : Machine σ ε ω}

/-- The machine can take the transition. -/
def Takes (M : Machine σ ε ω) (t : Transition σ ε ω) : Prop :=
  M.step t.before t.event = some (t.after, t.sent)

/-- The machine gets from `s₀` to a state by a list of transitions. -/
inductive Steps (M : Machine σ ε ω) (s₀ : σ) :
    List (Transition σ ε ω) → σ → Prop where
  | nil : Steps M s₀ [] s₀
  | snoc {tr : List (Transition σ ε ω)} {t : Transition σ ε ω}
      (h : Steps M s₀ tr t.before) (ht : M.Takes t) : Steps M s₀ (tr ++ [t]) t.after

/-- A run starts in an initial state. -/
def Run (M : Machine σ ε ω) (tr : List (Transition σ ε ω)) (s : σ) : Prop :=
  ∃ s₀, M.init s₀ ∧ Steps M s₀ tr s

-- ============================================================================
-- Induction rules
-- ============================================================================

/-- What holds before the first step and is kept by every step holds of every
    run, together with the history of the run. -/
theorem Steps.invariant {s₀ s : σ} {tr : List (Transition σ ε ω)}
    {P : List (Transition σ ε ω) → σ → Prop} (h0 : P [] s₀)
    (hstep : ∀ tr t, P tr t.before → M.Takes t → P (tr ++ [t]) t.after)
    (h : Steps M s₀ tr s) : P tr s := by
  induction h with
  | nil => exact h0
  | snoc _ ht ih => exact hstep _ _ ih ht

/-- The invariant rule for the runs whose steps all meet `C`. -/
theorem Steps.invariant_under {s₀ s : σ} {tr : List (Transition σ ε ω)}
    {C : List (Transition σ ε ω) → Transition σ ε ω → Prop}
    {P : List (Transition σ ε ω) → σ → Prop} (h0 : P [] s₀)
    (hstep : ∀ tr t, P tr t.before → M.Takes t → C tr t → P (tr ++ [t]) t.after)
    (h : Steps M s₀ tr s) (hC : Always C tr) : P tr s := by
  induction h with
  | nil => exact h0
  | snoc _ ht ih =>
      obtain ⟨hC', hCt⟩ := always_snoc.mp hC
      exact hstep _ _ (ih hC') ht hCt

/-- A run can be cut at each of its steps. -/
theorem Steps.cut {s₀ s : σ} {tr : List (Transition σ ε ω)} (h : Steps M s₀ tr s) :
    Always (fun pre t => Steps M s₀ pre t.before ∧ M.Takes t) tr := by
  induction h with
  | nil => exact always_nil
  | snoc h ht ih => exact always_snoc.mpr ⟨ih, h, ht⟩

theorem steps_snoc {s₀ s : σ} {tr : List (Transition σ ε ω)} {t : Transition σ ε ω} :
    Steps M s₀ (tr ++ [t]) s ↔ Steps M s₀ tr t.before ∧ M.Takes t ∧ t.after = s := by
  constructor
  · intro h
    generalize hl : tr ++ [t] = l at h
    cases h with
    | nil => simp at hl
    | snoc h ht =>
        obtain ⟨rfl, rfl⟩ := List.append_singleton_inj.mp hl
        exact ⟨h, ht, rfl⟩
  · rintro ⟨h, ht, rfl⟩
    exact h.snoc ht

/-- A run through two stretches has a state between them. -/
theorem Steps.split {s₀ s : σ} {tr₁ tr₂ : List (Transition σ ε ω)}
    (h : Steps M s₀ (tr₁ ++ tr₂) s) : ∃ s₁, Steps M s₀ tr₁ s₁ ∧ Steps M s₁ tr₂ s := by
  induction tr₂ using List.reverseRecOn generalizing s with
  | nil =>
      rw [List.append_nil] at h
      exact ⟨s, h, .nil⟩
  | append_singleton tr₂ t ih =>
      rw [← List.append_assoc] at h
      obtain ⟨hpre, ht, rfl⟩ := steps_snoc.mp h
      obtain ⟨s₁, h₁, h₂⟩ := ih hpre
      exact ⟨s₁, h₁, h₂.snoc ht⟩

/-- Two stretches of a run put together. -/
theorem Steps.append {s₀ s₁ s₂ : σ} {tr₁ tr₂ : List (Transition σ ε ω)}
    (h₁ : Steps M s₀ tr₁ s₁) (h₂ : Steps M s₁ tr₂ s₂) : Steps M s₀ (tr₁ ++ tr₂) s₂ := by
  induction h₂ with
  | nil => simpa using h₁
  | snoc _ ht ih =>
      rw [← List.append_assoc]
      exact ih.snoc ht

/-- A single step. -/
theorem Steps.single {t : Transition σ ε ω} (ht : M.Takes t) :
    Steps M t.before [t] t.after :=
  Steps.nil.snoc ht

theorem Steps.cons {t : Transition σ ε ω} {tr : List (Transition σ ε ω)} {s : σ}
    (ht : M.Takes t) (h : Steps M t.after tr s) : Steps M t.before (t :: tr) s :=
  (Steps.single ht).append h

theorem steps_nil {s₀ s : σ} : Steps M s₀ [] s ↔ s₀ = s := by
  constructor
  · intro h
    generalize hl : ([] : List (Transition σ ε ω)) = l at h
    cases h with
    | nil => rfl
    | snoc => simp at hl
  · rintro rfl
    exact .nil

theorem steps_cons {s₀ s : σ} {tr : List (Transition σ ε ω)} {t : Transition σ ε ω} :
    Steps M s₀ (t :: tr) s ↔ s₀ = t.before ∧ M.Takes t ∧ Steps M t.after tr s := by
  constructor
  · intro h
    have h' : Steps M s₀ ([t] ++ tr) s := h
    obtain ⟨s₁, h₁, h₂⟩ := h'.split
    have h₁' : Steps M s₀ ([] ++ [t]) s₁ := h₁
    obtain ⟨h₀, ht, rfl⟩ := steps_snoc.mp h₁'
    exact ⟨steps_nil.mp h₀, ht, h₂⟩
  · rintro ⟨rfl, ht, h⟩
    exact .cons ht h

theorem Run.append {s s' : σ} {tr tr' : List (Transition σ ε ω)}
    (h : M.Run tr s) (h' : Steps M s tr' s') : M.Run (tr ++ tr') s' := by
  obtain ⟨s₀, h0, hs⟩ := h
  exact ⟨s₀, h0, hs.append h'⟩

theorem Run.snoc {tr : List (Transition σ ε ω)} {t : Transition σ ε ω}
    (h : M.Run tr t.before) (ht : M.Takes t) : M.Run (tr ++ [t]) t.after :=
  h.append (Steps.single ht)

theorem Run.nil {s : σ} (h : M.init s) : M.Run [] s := ⟨s, h, .nil⟩

/-- One more event. -/
theorem Steps.event {s₀ s s' : σ} {e : ε} {out : List ω} {tr : List (Transition σ ε ω)}
    (h : Steps M s₀ tr s) (hs : M.step s e = some (s', out)) :
    Steps M s₀ (tr ++ [⟨s, e, out, s'⟩]) s' :=
  Steps.snoc (t := ⟨s, e, out, s'⟩) h hs

theorem Run.event {s s' : σ} {e : ε} {out : List ω} {tr : List (Transition σ ε ω)}
    (h : M.Run tr s) (hs : M.step s e = some (s', out)) : M.Run (tr ++ [⟨s, e, out, s'⟩]) s' :=
  Run.snoc (t := ⟨s, e, out, s'⟩) h hs

theorem Run.invariant {s : σ} {tr : List (Transition σ ε ω)}
    {P : List (Transition σ ε ω) → σ → Prop} (h0 : ∀ s₀, M.init s₀ → P [] s₀)
    (hstep : ∀ tr t, P tr t.before → M.Takes t → P (tr ++ [t]) t.after)
    (h : M.Run tr s) : P tr s := by
  obtain ⟨s₀, hi, hs⟩ := h
  exact hs.invariant (h0 s₀ hi) hstep

theorem Run.invariant_under {s : σ} {tr : List (Transition σ ε ω)}
    {C : List (Transition σ ε ω) → Transition σ ε ω → Prop}
    {P : List (Transition σ ε ω) → σ → Prop} (h0 : ∀ s₀, M.init s₀ → P [] s₀)
    (hstep : ∀ tr t, P tr t.before → M.Takes t → C tr t → P (tr ++ [t]) t.after)
    (h : M.Run tr s) (hC : Always C tr) : P tr s := by
  obtain ⟨s₀, hi, hs⟩ := h
  exact hs.invariant_under (h0 s₀ hi) hstep hC

/-- A flag that every step sets when it satisfies `p` and else clears when it
    satisfies `q` says in every run whether `Since p q` holds of the history. -/
theorem Run.flag_iff_since {s : σ} {tr : List (Transition σ ε ω)} {f : σ → Prop}
    {p q : Transition σ ε ω → Prop} (h0 : ∀ s₀, M.init s₀ → ¬ f s₀)
    (hstep : ∀ tr t, M.Run tr t.before → M.Takes t →
      (f t.after ↔ p t ∨ (f t.before ∧ ¬ q t)))
    (h : M.Run tr s) : f s ↔ Since p q tr := by
  obtain ⟨s₀, hi, hs⟩ := h
  induction hs with
  | nil => exact iff_of_false (h0 s₀ hi) not_since_nil
  | snoc hs ht ih => rw [hstep _ _ ⟨s₀, hi, hs⟩ ht, since_snoc, ih]

theorem Run.cut {s : σ} {tr : List (Transition σ ε ω)} (h : M.Run tr s) :
    Always (fun pre t => M.Run pre t.before ∧ M.Takes t) tr := by
  obtain ⟨s₀, hi, hs⟩ := h
  exact hs.cut.mono fun pre t ht => ⟨⟨s₀, hi, ht.1⟩, ht.2⟩

/-- If after a history of good steps a step is good exactly when it meets `C`, then the
    runs of good steps are the runs whose steps all meet `C`. -/
theorem Run.always_iff {s : σ} {tr : List (Transition σ ε ω)}
    {P C : List (Transition σ ε ω) → Transition σ ε ω → Prop}
    (hstep : ∀ tr t, M.Run tr t.before → M.Takes t → Always P tr → (P tr t ↔ C tr t))
    (h : M.Run tr s) : Always P tr ↔ Always C tr := by
  obtain ⟨s₀, hi, hs⟩ := h
  induction hs with
  | nil => exact iff_of_true always_nil always_nil
  | @snoc tr t hs ht ih =>
      rw [always_snoc, always_snoc, ih]
      refine and_congr_right fun hC => ?_
      exact hstep tr t ⟨s₀, hi, hs⟩ ht (ih.mpr hC)

-- ============================================================================
-- Refinement
-- ============================================================================

/-- If every step of `M` is, seen through `f`, a step of `N` between the views of
    its states, then every run of `M` is a run of `N`. -/
theorem Run.map {σ' ε' ω' : Type _} {N : Machine σ' ε' ω'} (view : σ → σ')
    (f : Transition σ ε ω → Transition σ' ε' ω') (h0 : ∀ s, M.init s → N.init (view s))
    (hbefore : ∀ t, (f t).before = view t.before) (hafter : ∀ t, (f t).after = view t.after)
    (hstep : ∀ t, M.Takes t → N.Takes (f t)) {s : σ} {tr : List (Transition σ ε ω)}
    (h : M.Run tr s) : N.Run (tr.map f) (view s) := by
  obtain ⟨s₀, hi, hs⟩ := h
  refine ⟨view s₀, h0 s₀ hi, ?_⟩
  induction hs with
  | nil => exact .nil
  | @snoc tr t _ ht ih =>
      rw [← hbefore] at ih
      rw [List.map_append, List.map_singleton, ← hafter]
      exact ih.snoc (hstep t ht)

/-- `Run.map` for a view that follows the steps from the states of an invariant. -/
theorem Run.map_under {σ' ε' ω' : Type _} {N : Machine σ' ε' ω'} {I : σ → Prop} (view : σ → σ')
    (f : Transition σ ε ω → Transition σ' ε' ω') (h0 : ∀ s, M.init s → I s ∧ N.init (view s))
    (hbefore : ∀ t, (f t).before = view t.before) (hafter : ∀ t, (f t).after = view t.after)
    (hstep : ∀ t, I t.before → M.Takes t → I t.after ∧ N.Takes (f t)) {s : σ}
    {tr : List (Transition σ ε ω)} (h : M.Run tr s) : I s ∧ N.Run (tr.map f) (view s) := by
  refine h.invariant (P := fun tr s => I s ∧ N.Run (tr.map f) (view s)) ?_ ?_
  · intro s₀ hi
    exact ⟨(h0 s₀ hi).1, .nil (h0 s₀ hi).2⟩
  · rintro tr t ⟨hI, hrun⟩ ht
    obtain ⟨hI', htakes⟩ := hstep t hI ht
    rw [← hbefore] at hrun
    rw [List.map_append, List.map_singleton, ← hafter]
    exact ⟨hI', hrun.snoc htakes⟩

-- ============================================================================
-- Runs without some of their steps
-- ============================================================================

/-- The event of a step and what was sent. -/
def observed (t : Transition σ ε ω) : ε × List ω := (t.event, t.sent)

/-- If the steps in `drop` keep `R` while the second run stands still, and it can follow
    every other step with the same outputs, then there is a run without these steps. -/
theorem Steps.without {s₀ s : σ} {tr : List (Transition σ ε ω)} {drop : Transition σ ε ω → Prop}
    [DecidablePred drop] {C : List (Transition σ ε ω) → Transition σ ε ω → Prop}
    {R : List (Transition σ ε ω) → σ → σ → Prop} (h0 : R [] s₀ s₀)
    (hdrop : ∀ tr t s', R tr t.before s' → M.Takes t → drop t → R (tr ++ [t]) t.after s')
    (hkeep : ∀ tr t s', R tr t.before s' → M.Takes t → C tr t → ¬ drop t →
      ∃ s'', M.step s' t.event = some (s'', t.sent) ∧ R (tr ++ [t]) t.after s'')
    (h : Steps M s₀ tr s) (hC : Always C tr) :
    ∃ tr' s', Steps M s₀ tr' s' ∧
      tr'.map observed = (tr.filter (¬ drop ·)).map observed ∧ R tr s s' := by
  induction h with
  | nil => exact ⟨[], s₀, .nil, rfl, h0⟩
  | @snoc tr t _ ht ih =>
      obtain ⟨hC', hCt⟩ := always_snoc.mp hC
      obtain ⟨tr', s', hsteps, hobserved, hR⟩ := ih hC'
      by_cases hd : drop t
      · refine ⟨tr', s', hsteps, ?_, hdrop tr t s' hR ht hd⟩
        rw [hobserved, List.filter_append, List.filter_cons_of_neg (by simpa using hd),
          List.filter_nil, List.append_nil]
      · obtain ⟨s'', hstep, hR'⟩ := hkeep tr t s' hR ht hCt hd
        refine ⟨tr' ++ [⟨s', t.event, t.sent, s''⟩], s'', hsteps.event hstep, ?_, hR'⟩
        rw [List.map_append, hobserved, List.filter_append,
          List.filter_cons_of_pos (by simpa using hd), List.filter_nil, List.map_append]
        rfl

end Machine

end Lib
