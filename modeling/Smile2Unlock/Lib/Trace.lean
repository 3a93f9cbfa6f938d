/-
  Smile2Unlock.Lib.Trace

  Past-time operators over finite traces, newest entry last.

  A trace is read from its end: `Since p q` says that some entry satisfies `p`
  and no entry after it satisfies `q`; `newest f` is the last value that `f` reads
  off an entry; `Always C` says that every entry satisfies `C` together with the
  part of the trace before it.  All unfold one entry at a time (`since_snoc`,
  `newest_snoc`, `always_snoc`), so a run that grows at its end carries them
  through its step lemma.
-/

import Mathlib.Data.List.Induction

namespace Lib

variable {α : Type _}

theorem forall_mem_snoc {P : α → Prop} {tr : List α} {t : α} :
    (∀ u ∈ tr ++ [t], P u) ↔ (∀ u ∈ tr, P u) ∧ P t := by
  rw [List.forall_mem_append, List.forall_mem_singleton]

theorem exists_mem_snoc {P : α → Prop} {tr : List α} (h : ∃ u ∈ tr, P u) (t : α) :
    ∃ u ∈ tr ++ [t], P u := by
  obtain ⟨u, hu, hP⟩ := h
  exact ⟨u, List.mem_append_left _ hu, hP⟩

-- ============================================================================
-- Since
-- ============================================================================

/-- Some entry of the trace satisfies `p`, and no later entry satisfies `q`. -/
def Since (p q : α → Prop) (tr : List α) : Prop :=
  ∃ pre t post, tr = pre ++ t :: post ∧ p t ∧ ∀ u ∈ post, ¬ q u

theorem not_since_nil {p q : α → Prop} : ¬ Since p q [] := by
  rintro ⟨pre, t, post, h, -, -⟩
  simp at h

/-- The newest entry decides: it satisfies `p` itself, or `Since` held before
    it and it does not satisfy `q`. -/
theorem since_snoc {p q : α → Prop} {tr : List α} {t : α} :
    Since p q (tr ++ [t]) ↔ p t ∨ (Since p q tr ∧ ¬ q t) := by
  constructor
  · rintro ⟨pre, u, post, h, hp, hq⟩
    rcases List.eq_nil_or_concat post with rfl | ⟨post', v, rfl⟩
    · obtain ⟨-, rfl⟩ := List.append_singleton_inj.mp h
      exact Or.inl hp
    · have h' : tr ++ [t] = (pre ++ u :: post') ++ [v] := by simpa using h
      obtain ⟨rfl, rfl⟩ := List.append_singleton_inj.mp h'
      exact Or.inr ⟨⟨pre, u, post', rfl, hp, fun w hw => hq w (by simp [hw])⟩,
        hq t (by simp)⟩
  · rintro (hp | ⟨⟨pre, u, post, rfl, hp, hq⟩, hqt⟩)
    · exact ⟨tr, t, [], by simp, hp, by simp⟩
    · refine ⟨pre, u, post ++ [t], by simp, hp, ?_⟩
      intro w hw
      rcases List.mem_append.mp hw with hw | hw
      · exact hq w hw
      · rw [List.mem_singleton.mp hw]
        exact hqt

/-- The entry that `Since` finds is an entry of the trace. -/
theorem Since.exists_mem {p q : α → Prop} {tr : List α} (h : Since p q tr) :
    ∃ t ∈ tr, p t := by
  obtain ⟨pre, t, post, rfl, hp, -⟩ := h
  exact ⟨t, by simp, hp⟩

/-- `Since` is monotone in what starts it and antitone in what ends it. -/
theorem Since.mono {p p' q q' : α → Prop} {tr : List α} (h : Since p q tr)
    (hp : ∀ t, p t → p' t) (hq : ∀ t, q' t → q t) : Since p' q' tr := by
  obtain ⟨pre, t, post, heq, hpt, hpost⟩ := h
  exact ⟨pre, t, post, heq, hp t hpt, fun u hu h' => hpost u hu (hq u h')⟩

/-- What starts a `Since` may be read in another way at the entries of the trace. -/
theorem since_congr {p p' q : α → Prop} {tr : List α} (h : ∀ t ∈ tr, (p t ↔ p' t)) :
    Since p q tr ↔ Since p' q tr := by
  induction tr using List.reverseRecOn with
  | nil => exact iff_of_false not_since_nil not_since_nil
  | append_singleton tr t ih =>
      obtain ⟨hpre, ht⟩ := forall_mem_snoc.mp h
      rw [since_snoc, since_snoc, ih hpre, ht]

/-- Reading a translated trace is reading the trace through the translation. -/
theorem since_map {β : Type _} {f : α → β} {p q : β → Prop} {tr : List α} :
    Since p q (tr.map f) ↔ Since (fun t => p (f t)) (fun t => q (f t)) tr := by
  induction tr using List.reverseRecOn with
  | nil => exact iff_of_false not_since_nil not_since_nil
  | append_singleton tr t ih =>
      rw [List.map_append, List.map_singleton, since_snoc, since_snoc, ih]

/-- Two `Since` chained: the newest `q` is a `p` if nothing after that `p` is a
    `q`, so what ends the second ends the first. -/
theorem Since.chain {p q r : α → Prop} {tr : List α} (hpq : Since p q tr) (hqr : Since q r tr) :
    Since p (fun t => q t ∨ r t) tr := by
  induction tr using List.reverseRecOn with
  | nil => exact absurd hpq not_since_nil
  | append_singleton tr t ih =>
      rcases since_snoc.mp hpq with hp | ⟨hp, hnq⟩
      · exact since_snoc.mpr (Or.inl hp)
      · rcases since_snoc.mp hqr with hq | ⟨hq, hnr⟩
        · exact absurd hq hnq
        · exact since_snoc.mpr (Or.inr ⟨ih hp hq, not_or.mpr ⟨hnq, hnr⟩⟩)

-- ============================================================================
-- Newest
-- ============================================================================

/-- The value that `f` reads off the newest entry that has one. -/
def newest {β : Type _} (f : α → Option β) (tr : List α) : Option β := (tr.filterMap f).getLast?

theorem newest_snoc {β : Type _} (f : α → Option β) (tr : List α) (t : α) :
    newest f (tr ++ [t]) = (f t).or (newest f tr) := by
  rw [newest, List.filterMap_append, List.getLast?_append, newest]
  cases ht : f t with
  | none => simp [ht]
  | some r => simp [ht]

/-- The newest value comes from an entry. -/
theorem mem_of_newest {β : Type _} {f : α → Option β} {tr : List α} {b : β}
    (h : newest f tr = some b) : b ∈ tr.filterMap f :=
  List.mem_of_getLast? h

-- ============================================================================
-- Always
-- ============================================================================

/-- Every entry of the trace satisfies `C`, read with the entries before it. -/
def Always (C : List α → α → Prop) (tr : List α) : Prop :=
  ∀ pre t post, tr = pre ++ t :: post → C pre t

theorem always_nil {C : List α → α → Prop} : Always C [] := by
  intro pre t post h
  simp at h

theorem always_snoc {C : List α → α → Prop} {tr : List α} {t : α} :
    Always C (tr ++ [t]) ↔ Always C tr ∧ C tr t := by
  constructor
  · intro h
    exact ⟨fun pre u post heq => h pre u (post ++ [t]) (by simp [heq]),
      h tr t [] (by simp)⟩
  · rintro ⟨h, ht⟩ pre u post heq
    rcases List.eq_nil_or_concat post with rfl | ⟨post', v, rfl⟩
    · obtain ⟨rfl, rfl⟩ := List.append_singleton_inj.mp heq
      exact ht
    · have h' : tr ++ [t] = (pre ++ u :: post') ++ [v] := by simpa using heq
      obtain ⟨rfl, -⟩ := List.append_singleton_inj.mp h'
      exact h pre u post' rfl

theorem always_of_forall_mem {P : α → Prop} {tr : List α} (h : ∀ t ∈ tr, P t) :
    Always (fun _ t => P t) tr := by
  rintro pre t post rfl
  exact h t (List.mem_append_right _ List.mem_cons_self)

/-- Each entry satisfies what holds of all of them. -/
theorem Always.forall_mem {P : α → Prop} {tr : List α} (h : Always (fun _ t => P t) tr) :
    ∀ t ∈ tr, P t := by
  intro t ht
  obtain ⟨pre, post, heq⟩ := List.append_of_mem ht
  exact h pre t post heq

theorem always_and {C D : List α → α → Prop} {tr : List α} :
    Always (fun pre t => C pre t ∧ D pre t) tr ↔ Always C tr ∧ Always D tr := by
  induction tr using List.reverseRecOn with
  | nil => exact iff_of_true always_nil ⟨always_nil, always_nil⟩
  | append_singleton tr t ih =>
      rw [always_snoc, always_snoc, always_snoc, ih]
      exact and_and_and_comm

theorem Always.mono {C D : List α → α → Prop} {tr : List α} (h : Always C tr)
    (hCD : ∀ pre t, C pre t → D pre t) : Always D tr :=
  fun pre t post heq => hCD pre t (h pre t post heq)

/-- Two conditions that agree at every entry agree on the trace. -/
theorem Always.congr {C D : List α → α → Prop} {tr : List α}
    (h : Always (fun pre t => C pre t ↔ D pre t) tr) : Always C tr ↔ Always D tr :=
  ⟨fun hC pre t post heq => (h pre t post heq).mp (hC pre t post heq),
    fun hD pre t post heq => (h pre t post heq).mpr (hD pre t post heq)⟩

end Lib
