/-
  Smile2Unlock.CredentialProvider.StopTasks

  Old stop tasks against new sessions.  A stop task compares its generation with
  `_serviceGeneration` before its first CANCEL and before the termination, and not
  in between: once past a check it is `Armed`, and a session that starts after the
  check does not disarm it.

  `notArmed_of_takes` is the step lemma: below the current generation no stop task
  becomes armed.  `oldStopActs_iff` states exactly which STARTs an old stop task can
  still follow with a CANCEL or a termination.
-/

import Smile2Unlock.CredentialProvider.Process

namespace Smile2Unlock.CredentialProvider

open Smile2Unlock Lib Machine

/-- The task can send a CANCEL or terminate the service without another look at the
    generation. -/
def StopPc.Armed : StopPc → Prop
  | .cancelling send => send.tickBeforeSend = none ∨ send.attempt + 1 < kMaxAttempts
  | .terminating => True
  | _ => False

variable {ι : Type} [DecidableEq ι] {platform : Platform} {t : ProcessStep ι}

/-- A stop task older than generation `g` sends a CANCEL or terminates the service. -/
def OldStopActs (i : ι) (g : Nat) (t : ProcessStep ι) : Prop :=
  ∃ g' < g, (∃ hint sessionId,
      (i, .authRequest (.stopTask g') .cancelRecognition hint sessionId) ∈ t.sent) ∨
    (i, .terminatesService (.stopTask g')) ∈ t.sent

/-- No stop task older than generation `g` is armed. -/
def NoOldArmed (c : Credential) (g : Nat) : Prop := ∀ g' < g, ¬ (c.stopTasks g').Armed

-- ============================================================================
-- Steps of a stop task
-- ============================================================================

namespace AuthSend

variable {type : AuthRequestType} {register : StatusRegister} {ownsProcess : Bool}

/-- A loop that waits after its last attempt sends nothing more. -/
theorem step_of_last {a : AuthSend} {e : AuthSendEvent} {r : AuthSend ⊕ HResult}
    (htick : a.tickBeforeSend ≠ none) (hlast : ¬ a.attempt + 1 < kMaxAttempts)
    (h : a.step type register ownsProcess e = some r) : sends e = none ∧ ∃ hr, r = .inr hr := by
  obtain ⟨tick, htick⟩ := Option.ne_none_iff_exists'.mp htick
  cases e with
  | send delivered sessionId => simp [step, htick] at h
  | acknowledged =>
      simp only [step, htick] at h
      split at h
      · exact ⟨rfl, .ok, (Option.some.inj h).symm⟩
      · cases h
  | processExited =>
      simp only [step] at h
      split at h
      · exact ⟨rfl, .fail, (Option.some.inj h).symm⟩
      · cases h
  | timeout =>
      simp only [step, nextAttempt, if_neg hlast] at h
      split at h
      · exact ⟨rfl, .fail, (Option.some.inj h).symm⟩
      · cases h

end AuthSend

/-- An unarmed task of another generation than the current one stays unarmed and
    sends nothing. -/
theorem Credential.stopStep_of_not_armed {c c' : Credential} {register : StatusRegister}
    {g : Nat} {pc pc' : StopPc} {se : StopEvent} {out : List Output}
    (hg : c.serviceGeneration ≠ g) (hpc : ¬ pc.Armed)
    (h : c.stopStep platform register g pc se = some (c', pc', out)) :
    out = [] ∧ ¬ pc'.Armed := by
  unfold stopStep at h
  split at h
  case h_1 =>
    rw [if_pos hg] at h
    cases h
    exact ⟨rfl, fun harmed => harmed⟩
  case h_2 send ae =>
    obtain ⟨r, hr, heq⟩ := Option.map_eq_some_iff.mp h
    cases heq
    obtain ⟨htick, hlast⟩ := not_or.mp hpc
    obtain ⟨hsends, hres, rfl⟩ := AuthSend.step_of_last htick hlast hr
    rw [authOutput, hsends]
    exact ⟨rfl, fun harmed => harmed⟩
  case h_3 =>
    rw [if_pos hg] at h
    cases h
    exact ⟨rfl, fun harmed => harmed⟩
  case h_4 => exact absurd trivial hpc
  case h_5 => cases h

/-- A step of a stop task is a step of the process. -/
theorem takes_stopTask {s : Process ι} {i : ι} {g : Nat} {se : StopEvent}
    {r : Credential × StopPc × List Output}
    (h : (s.credentials i).stopStep platform s.register g ((s.credentials i).stopTasks g) se =
      some r) :
    (process ι platform).Takes ⟨s, .credential i (.stopTask g se), r.2.2.map fun o => (i, o),
      ⟨s.register, Function.update s.credentials i (r.1.setStop g r.2.1)⟩⟩ := by
  simp [Takes, process, Process.step, Credential.step, CredentialEvent.isCall,
    Credential.perform, h]

/-- A task that is about to send can do so. -/
theorem oldStopActs_of_send (platform : Platform) {s : Process ι} {i : ι} {g' g : Nat}
    {send : AuthSend} (hg : g' < g)
    (hpc : (s.credentials i).stopTasks g' = .cancelling send) (hnone : send.tickBeforeSend = none) :
    ∃ u, u.before = s ∧ (process ι platform).Takes u ∧ OldStopActs i g u := by
  have hstep : (s.credentials i).stopStep platform s.register g' ((s.credentials i).stopTasks g')
      (.auth (.send true 0)) = some (s.credentials i,
        .cancelling { send with tickBeforeSend := some s.register.faceRecognitionStatusTick },
        [.authRequest (.stopTask g') .cancelRecognition send.usernameHint 0]) := by
    rw [hpc]
    simp [Credential.stopStep, AuthSend.step, hnone, Credential.authOutput, AuthSend.sends]
  exact ⟨_, rfl, takes_stopTask hstep, g', hg, Or.inl ⟨send.usernameHint, 0, by simp⟩⟩

/-- An armed task needs at most two steps to act. -/
theorem StopPc.Armed.acts (platform : Platform) {s : Process ι} {i : ι} {g' g : Nat}
    (hg : g' < g) (harmed : ((s.credentials i).stopTasks g').Armed) :
    ∃ seg s', Steps (process ι platform) s seg s' ∧ ∃ u ∈ seg, OldStopActs i g u := by
  cases hpc : (s.credentials i).stopTasks g' with
  | absent => simp [hpc, StopPc.Armed] at harmed
  | cancelCheck => simp [hpc, StopPc.Armed] at harmed
  | terminateCheck => simp [hpc, StopPc.Armed] at harmed
  | done => simp [hpc, StopPc.Armed] at harmed
  | terminating =>
      have hstep : (s.credentials i).stopStep platform s.register g'
          ((s.credentials i).stopTasks g') .advance =
          some ({ s.credentials i with ownsProcess := false }, .done,
            [.terminatesService (.stopTask g')]) := by rw [hpc]; rfl
      exact ⟨_, _, .single (takes_stopTask hstep), _, List.mem_singleton_self _, g', hg,
        Or.inr (by simp)⟩
  | cancelling send =>
      rw [hpc] at harmed
      by_cases hnone : send.tickBeforeSend = none
      · obtain ⟨u, rfl, hu, hacts⟩ := oldStopActs_of_send platform hg hpc hnone
        exact ⟨[u], _, .single hu, u, by simp, hacts⟩
      · -- it waits: the end of the wait is the next attempt
        have hnext : send.attempt + 1 < kMaxAttempts := harmed.resolve_left hnone
        have hstep : (s.credentials i).stopStep platform s.register g'
            ((s.credentials i).stopTasks g') (.auth .timeout) = some (s.credentials i,
              .cancelling { send with attempt := send.attempt + 1, tickBeforeSend := none }, []) := by
          rw [hpc]
          simp [Credential.stopStep, AuthSend.step, AuthSend.nextAttempt, hnext,
            Option.isSome_iff_ne_none, hnone, Credential.authOutput, AuthSend.sends]
        have ht := takes_stopTask hstep
        have hpc' : ((Function.update s.credentials i ((s.credentials i).setStop g'
            (.cancelling { send with
              attempt := send.attempt + 1, tickBeforeSend := none })) i).stopTasks g') =
            .cancelling { send with attempt := send.attempt + 1, tickBeforeSend := none } := by
          simp [Credential.setStop]
        obtain ⟨u, hbefore, hu, hacts⟩ := oldStopActs_of_send platform (i := i)
          (s := ⟨s.register, _⟩) hg hpc' rfl
        have htail : Steps (process ι platform) _ [u] u.after := .single hu
        rw [hbefore] at htail
        exact ⟨_, _, .cons ht htail, u, by simp, hacts⟩

-- ============================================================================
-- Steps and runs
-- ============================================================================

/-- Below the current generation no stop task becomes armed, and none acts. -/
theorem Credential.noOldArmed_of_step {c c' : Credential} {register register' : StatusRegister}
    {e : CredentialEvent} {out : List Output} {g : Nat}
    (h : c.step platform register e = some (c', register', out))
    (hg : g ≤ c.serviceGeneration) (hno : NoOldArmed c g) :
    (∀ o ∈ out, ∀ g' < g, o.owner ≠ some (.stopTask g')) ∧ g ≤ c'.serviceGeneration ∧
      NoOldArmed c' g := by
  rcases cases_of_step h with ⟨se, ses, c₁, pc', -, -, hs, rfl, -⟩ |
    ⟨g₁, se, c₁, pc', -, hs, rfl, -⟩ | ⟨hstart, rfl⟩ | ⟨rfl, -, rfl⟩ | hcalls
  · obtain ⟨_, _, _, _, _, rfl⟩ := sessionStep_frame hs
    refine ⟨fun o ho g' _ howner => ?_, hg, hno⟩
    rw [owner_of_sessionStep hs ho] at howner
    cases howner
  · obtain ⟨_, rfl⟩ := stopStep_frame hs
    by_cases hold : g₁ < g
    · have hne : c.serviceGeneration ≠ g₁ := by omega
      obtain ⟨rfl, hpc'⟩ := stopStep_of_not_armed hne (hno g₁ hold) hs
      refine ⟨by simp, hg, fun g' hg' => ?_⟩
      by_cases heq : g' = g₁
      · subst heq
        simpa [setStop] using hpc'
      · simpa [setStop, heq] using hno g' hg'
    · refine ⟨fun o ho g' hg' howner => ?_, hg, fun g' hg' => ?_⟩
      · rw [owner_of_stopStep hs ho] at howner
        cases howner
        exact hold hg'
      · have heq : g' ≠ g₁ := by omega
        simpa [setStop, heq] using hno g' hg'
  · cases hstart
    exact ⟨by simp, Nat.le_succ_of_le hg, hno⟩
  · refine ⟨by simp, Nat.le_succ_of_le hg, fun g' hg' => ?_⟩
    have heq : g' ≠ c.serviceGeneration + 1 := by omega
    simpa [setStop, heq] using hno g' hg'
  · obtain ⟨_, _, _, _, _, rfl⟩ := hcalls.fields
    refine ⟨fun o ho g' _ howner => ?_, hg, hno⟩
    obtain ⟨account, rfl, -⟩ := hcalls.out o ho
    cases howner

theorem noOldArmed_of_takes {i : ι} {g : Nat} (ht : (process ι platform).Takes t)
    (hg : g ≤ (t.before.credentials i).serviceGeneration)
    (hno : NoOldArmed (t.before.credentials i) g) :
    ¬ OldStopActs i g t ∧ g ≤ (t.after.credentials i).serviceGeneration ∧
      NoOldArmed (t.after.credentials i) g := by
  rcases credential_of_takes ht i with ⟨e, out, -, hstep, hsent⟩ | ⟨-, hafter, hsent⟩
  · obtain ⟨hout, hle, hno'⟩ := Credential.noOldArmed_of_step hstep hg hno
    refine ⟨?_, hle, hno'⟩
    rintro ⟨g', hg', ⟨hint, sessionId, hmem⟩ | hmem⟩
    · exact hout _ ((hsent _).mp hmem) g' hg' rfl
    · exact hout _ ((hsent _).mp hmem) g' hg' rfl
  · rw [hafter]
    refine ⟨?_, hg, hno⟩
    rintro ⟨g', -, ⟨hint, sessionId, hmem⟩ | hmem⟩
    · exact hsent _ hmem
    · exact hsent _ hmem

/-- No stop task older than `g` acts in a run from a state in which `g` is reached and
    none of them is armed. -/
theorem not_oldStopActs_of_steps {i : ι} {g : Nat} {s s' : Process ι} {seg : List (ProcessStep ι)}
    (h : Steps (process ι platform) s seg s') (hg : g ≤ (s.credentials i).serviceGeneration)
    (hno : NoOldArmed (s.credentials i) g) : ∀ u ∈ seg, ¬ OldStopActs i g u := by
  refine (h.invariant (P := fun seg s => (∀ u ∈ seg, ¬ OldStopActs i g u) ∧
    g ≤ (s.credentials i).serviceGeneration ∧ NoOldArmed (s.credentials i) g)
    ⟨by simp, hg, hno⟩ ?_).1
  rintro seg t ⟨hseg, hg, hno⟩ ht
  obtain ⟨hacts, hg', hno'⟩ := noOldArmed_of_takes ht hg hno
  refine ⟨fun u hu => ?_, hg', hno'⟩
  rcases List.mem_append.mp hu with hu | hu
  · exact hseg u hu
  · rw [List.mem_singleton.mp hu]
    exact hacts

/-- The generation of a session is at most the current one. -/
theorem session_generation_le {tr : List (ProcessStep ι)} {s : Process ι}
    (h : (process ι platform).Run tr s) {i : ι} {ses : Session}
    (hses : (s.credentials i).session = some ses) :
    ses.generation ≤ (s.credentials i).serviceGeneration := by
  refine credential_invariant (P := fun c => ∀ ses, c.session = some ses →
    ses.generation ≤ c.serviceGeneration) (fun _ _ _ hses => by cases hses) ?_ h i ses hses
  intro c c' register register' e out hle hstep ses hses
  rcases Credential.cases_of_step hstep with ⟨se, ses₀, c₁, pc', -, hses₀, hs, rfl, -⟩ |
    ⟨g₁, se, c₁, pc', -, hs, rfl, -⟩ | ⟨hstart, -⟩ | ⟨rfl, -, -⟩ | hcalls
  · obtain ⟨_, _, _, _, _, rfl⟩ := Credential.sessionStep_frame hs
    cases hses
    exact hle ses₀ hses₀
  · obtain ⟨_, rfl⟩ := Credential.stopStep_frame hs
    exact hle ses hses
  · cases hstart
    cases hses
    exact Nat.le_refl _
  · exact Nat.le_succ_of_le (hle ses hses)
  · obtain ⟨_, _, _, _, _, rfl⟩ := hcalls.fields
    exact hle ses hses

/-- After a START of the session of generation `g` no older stop task ever sends a
    CANCEL or terminates the service, exactly when none of them was armed at the
    START. -/
theorem oldStopActs_iff {pre : List (ProcessStep ι)} {i : ι} {g : Nat} {hint : Bytes}
    {sessionId : UInt32} (h : (process ι platform).Run pre t.before)
    (ht : (process ι platform).Takes t)
    (hstart : (i, .authRequest (.session g) .startRecognition hint sessionId) ∈ t.sent) :
    (∀ seg s', Steps (process ι platform) t.after seg s' → ∀ u ∈ seg, ¬ OldStopActs i g u) ↔
      NoOldArmed (t.before.credentials i) g := by
  obtain ⟨se, pc, c', pc', outs, -, hses, -, hs, hafter⟩ := session_of_mem_sent ht hstart rfl
  have hle : g ≤ (t.before.credentials i).serviceGeneration := session_generation_le h hses
  constructor
  · intro hnever g' hg' harmed
    have hstops : (t.after.credentials i).stopTasks = (t.before.credentials i).stopTasks := by
      obtain ⟨_, _, _, _, _, rfl⟩ := Credential.sessionStep_frame hs
      rw [hafter]
    rw [← hstops] at harmed
    obtain ⟨seg, s', hseg, u, hu, hacts⟩ := StopPc.Armed.acts platform hg' harmed
    exact hnever seg s' hseg u hu hacts
  · intro hno seg s' hseg
    obtain ⟨-, hle', hno'⟩ := noOldArmed_of_takes ht hle hno
    exact not_oldStopActs_of_steps hseg hle' hno'

/-- The first session of a tile: no stop task can end it. -/
theorem oldStopActs_firstSession : ∃ t : ProcessStep Unit,
    ((), .authRequest (.session 1) .startRecognition [] 7) ∈ t.sent ∧
    ∀ seg s', Steps (process Unit examplePlatform) t.after seg s' →
      ∀ u ∈ seg, ¬ OldStopActs () 1 u := by
  have h1 := (exampleProcess_run .logon none).event (e := .credential () (.start false)) rfl
  have h2 := h1.event (e := .credential () (.session (.launch true true))) rfl
  have h3 := h2.event (e := .credential () (.session .advance)) rfl
  have h4 := h3.event (e := .credential () (.session .advance)) rfl
  have h5 := h4.event (e := .credential () (.session (.auth (.send true 7)))) rfl
  obtain ⟨hrun, ht⟩ := (always_snoc.mp h5.cut).2
  have hstart := List.mem_singleton_self
    (((), .authRequest (.session 1) .startRecognition [] 7) : Unit × Output)
  refine ⟨_, hstart, (oldStopActs_iff hrun ht hstart).mpr ?_⟩
  intro g' _ harmed
  exact harmed

/-- The stop task of generation 2 passes its check and sends a CANCEL, session 3 starts
    and sends its START, and the stop task goes on to its second CANCEL. -/
theorem oldStopActs_fails :
    ¬ ∀ (pre : List (ProcessStep Unit)) (t : ProcessStep Unit) (g : Nat) (hint : Bytes)
      (sessionId : UInt32),
      (process Unit examplePlatform).Run pre t.before → (process Unit examplePlatform).Takes t →
      ((), .authRequest (.session g) .startRecognition hint sessionId) ∈ t.sent →
      ∀ seg s', Steps (process Unit examplePlatform) t.after seg s' →
        ∀ u ∈ seg, ¬ OldStopActs () g u := by
  intro hall
  -- a first session, its stop task, and the end of its thread
  have h1 := (exampleProcess_run .logon none).event (e := .credential () (.start false)) rfl
  have h2 := h1.event (e := .credential () .stopFlag) rfl
  have h3 := h2.event (e := .credential () .stopSpawn) rfl
  have h4 := h3.event (e := .credential () (.session (.launch true true))) rfl
  have h5 := h4.event (e := .credential () (.session .advance)) rfl
  have h6 := h5.event (e := .credential () (.session .advance)) rfl
  have h7 := h6.event (e := .credential () (.session .advance)) rfl
  have h8 := h7.event (e := .credential () (.stopTask 2 .advance)) rfl
  have h9 := h8.event (e := .credential () (.stopTask 2 (.auth (.send true 6)))) rfl
  -- the second session, up to its START
  have h10 := h9.event (e := .credential () (.start true)) rfl
  have h11 := h10.event (e := .credential () .joined) rfl
  have h12 := h11.event (e := .credential () (.session (.launch true true))) rfl
  have h13 := h12.event (e := .credential () (.session .advance)) rfl
  have h14 := h13.event (e := .credential () (.session .advance)) rfl
  have h15 := h14.event (e := .credential () (.session (.auth (.send true 7)))) rfl
  obtain ⟨hrun, ht⟩ := (always_snoc.mp h15.cut).2
  have hnever := hall _ _ 3 [] 7 hrun ht (List.mem_singleton_self _)
  refine hnever _ _ (.event (e := .credential () (.stopTask 2 (.auth (.send true 8))))
    (.event (e := .credential () (.stopTask 2 (.auth .timeout))) .nil rfl) rfl) _
    (List.mem_append_right _ (List.mem_singleton_self _)) ?_
  exact ⟨2, by decide, Or.inl ⟨[], 8, List.mem_singleton_self _⟩⟩

end Smile2Unlock.CredentialProvider
