/-
  Smile2Unlock.CredentialProvider.Cancel

  Does `StopFaceRecognition` stop the session it supersedes?  The thread looks at
  the flag and the generation before it acts, and not while it acts: between a
  check and its act it is `Committed`, and a stop in between comes too late.

  `notCommitted_of_takes` is the step lemma: below the current generation no
  session becomes committed.  `supersededActs_iff` states exactly which stops a
  session survives.

  That is about what comes after the stop.  A thread that enters the wait between the
  two halves of `StopFaceRecognition`, behind the reset of the flag, raises it again, and
  this stop does not reset it any more: the wait looks at the flag only, and goes on until
  a final status or the next stop.
-/

import Smile2Unlock.CredentialProvider.StopTasks

namespace Smile2Unlock.CredentialProvider

open Smile2Unlock Lib Machine

/-- The thread is past a check and acts without another one: it raises the flag in
    `WaitForFaceRecognitionResult`, or stores the password and notifies. -/
def SessionPc.Committed : SessionPc → Prop
  | .waitEnter | .readingName _ _ | .storing _ _ _ | .notifying => True
  | _ => False

variable {ι : Type} [DecidableEq ι] {platform : Platform} {t : ProcessStep ι}

/-- A session older than generation `g` makes `_fFaceRecognitionRunning` true, stores a
    password in `SFI_PASSWORD` or calls `OnCredentialReady`. -/
def SupersededActs (i : ι) (g : Nat) (t : ProcessStep ι) : Prop :=
  ∃ g' < g, ∃ se pc, t.event = .credential i (.session se) ∧
    (t.before.credentials i).session = some ⟨g', pc⟩ ∧
    (((t.before.credentials i).faceRecognitionRunning = false ∧
        (t.after.credentials i).faceRecognitionRunning = true) ∨
      (∃ hint password name, pc = .storing hint password name ∧
        (t.after.credentials i).password = some password) ∨
      (i, .credentialReady g') ∈ t.sent)

/-- The generation `g` is reached, and no older session is committed. -/
def Cancelled (c : Credential) (g : Nat) : Prop :=
  g ≤ c.serviceGeneration ∧ ∀ ses, c.session = some ses → ses.generation < g → ¬ ses.pc.Committed

-- ============================================================================
-- Steps of a superseded session
-- ============================================================================

namespace Credential

variable {c c' : Credential} {register register' : StatusRegister} {g : Nat}
  {pc pc' : SessionPc} {se : SessionEvent} {out : List Output}

/-- `is_session_current` is false for another generation than the current one. -/
theorem isSessionCurrent_of_ne (hg : c.serviceGeneration ≠ g) : c.isSessionCurrent g = false := by
  simp [isSessionCurrent, hg]

/-- A superseded thread that is not committed stays so: it does not raise the flag,
    stores nothing and does not notify. -/
theorem sessionStep_of_not_committed (hg : c.serviceGeneration ≠ g) (hpc : ¬ pc.Committed)
    (h : c.sessionStep platform register g pc se = some (c', pc', out)) :
    ¬ pc'.Committed ∧ (c'.faceRecognitionRunning = true → c.faceRecognitionRunning = true) ∧
      .credentialReady g ∉ out := by
  have hcurrent := isSessionCurrent_of_ne hg
  cases cases_of_sessionStep h
  case launching =>
    refine ⟨?_, id, by simp⟩
    split
    · exact id
    · exact id
  case launched =>
    rw [if_pos hg]
    exact ⟨id, id, by simp⟩
  -- the checks of the generation fail
  case startCheck => simp [hcurrent, SessionPc.Committed]
  case waitCheck => simp [hcurrent, SessionPc.Committed]
  case resultCheck => simp [hcurrent, SessionPc.Committed]
  case storeCheck => simp [hcurrent, SessionPc.Committed]
  case starting send ae r =>
    refine ⟨?_, id, fun hmem => ?_⟩
    · split
      · exact id
      · exact id
      · exact id
    · obtain ⟨_, -, hout⟩ := mem_authOutput hmem
      cases hout
  case waitFlag =>
    refine ⟨?_, id, by simp⟩
    split
    · exact id
    · exact id
  case waitPoll =>
    refine ⟨?_, id, by simp⟩
    split
    · exact id
    · split
      · exact id
      · exact id
  case asked => exact ⟨id, id, by simp⟩
  case notAsked => exact ⟨id, id, by simp⟩
  case awaitingPassword =>
    refine ⟨?_, id, by simp⟩
    split
    · exact id
    · exact id
  case cleanup =>
    refine ⟨?_, id, by simp⟩
    split
    · exact id
    · exact id
  case terminating => exact ⟨id, id, by simp⟩
  case finishing => exact ⟨id, by simp, by simp⟩
  -- the places that are committed
  case waitEnter => exact absurd trivial hpc
  case readingName => exact absurd trivial hpc
  case storing => exact absurd trivial hpc
  case notifying => exact absurd trivial hpc

/-- What a cancelled credential is stays so, whatever it does next. -/
theorem cancelled_of_step {e : CredentialEvent}
    (h : c.step platform register e = some (c', register', out)) (hc : Cancelled c g) :
    Cancelled c' g := by
  obtain ⟨hg, hpc⟩ := hc
  rcases cases_of_step h with ⟨se, ses, c₁, pc', -, hses, hs, rfl, -⟩ |
    ⟨g₁, se, c₁, pc', -, hs, rfl, -⟩ | ⟨hstart, -⟩ | ⟨rfl, -, -⟩ | hcalls
  · obtain ⟨_, _, _, _, _, rfl⟩ := sessionStep_frame hs
    refine ⟨hg, fun ses' hses' hlt => ?_⟩
    cases hses'
    have hne : c.serviceGeneration ≠ ses.generation := Nat.ne_of_gt (Nat.lt_of_lt_of_le hlt hg)
    exact (sessionStep_of_not_committed hne (hpc ses hses hlt) hs).1
  · obtain ⟨_, rfl⟩ := stopStep_frame hs
    exact ⟨hg, hpc⟩
  · -- the new session is of a generation past `g`
    cases hstart
    refine ⟨Nat.le_succ_of_le hg, fun ses hses hlt => ?_⟩
    cases hses
    exact absurd hlt (by simp only [not_lt]; omega)
  · exact ⟨Nat.le_succ_of_le hg, hpc⟩
  · obtain ⟨_, _, _, _, _, rfl⟩ := hcalls.fields
    exact ⟨hg, hpc⟩

end Credential

-- ============================================================================
-- Steps and runs
-- ============================================================================

theorem notCommitted_of_takes {i : ι} {g : Nat} (ht : (process ι platform).Takes t)
    (hc : Cancelled (t.before.credentials i) g) :
    ¬ SupersededActs i g t ∧ Cancelled (t.after.credentials i) g := by
  rcases credential_of_takes ht i with ⟨e, out, he, hstep, hsent⟩ | ⟨he, hafter, -⟩
  · refine ⟨?_, Credential.cancelled_of_step hstep hc⟩
    rintro ⟨g', hlt, se, pc, he', hses, hacts⟩
    obtain rfl : e = .session se := by
      rw [he'] at he
      exact (ProcessEvent.credential.inj he).2.symm
    have hne : (t.before.credentials i).serviceGeneration ≠ g' :=
      Nat.ne_of_gt (Nat.lt_of_lt_of_le hlt hc.1)
    have hpc : ¬ pc.Committed := hc.2 _ hses hlt
    obtain ⟨ses, c₁, pc', hses', hs, hafter, -⟩ := Credential.sessionStep_of_step hstep
    rw [hses] at hses'
    cases hses'
    obtain ⟨-, hflag, hready⟩ := Credential.sessionStep_of_not_committed hne hpc hs
    rcases hacts with ⟨hbefore, hraised⟩ | ⟨hint, password, name, rfl, -⟩ | hmem
    · rw [hafter] at hraised
      rw [hflag hraised] at hbefore
      cases hbefore
    · exact hpc trivial
    · exact hready ((hsent _).mp hmem)
  · refine ⟨?_, by rw [hafter]; exact hc⟩
    rintro ⟨g', -, se, pc, he', -⟩
    exact he _ he'

/-- No superseded session acts in a run from a cancelled state. -/
theorem not_supersededActs_of_steps {i : ι} {g : Nat} {s s' : Process ι}
    {seg : List (ProcessStep ι)} (h : Steps (process ι platform) s seg s')
    (hc : Cancelled (s.credentials i) g) : ∀ u ∈ seg, ¬ SupersededActs i g u := by
  refine (h.invariant (P := fun seg s => (∀ u ∈ seg, ¬ SupersededActs i g u) ∧
    Cancelled (s.credentials i) g) ⟨by simp, hc⟩ ?_).1
  rintro seg t ⟨hseg, hc⟩ ht
  obtain ⟨hacts, hc'⟩ := notCommitted_of_takes ht hc
  exact ⟨forall_mem_snoc.mpr ⟨hseg, hacts⟩, hc'⟩

/-- A step of the session thread is a step of the process. -/
theorem takes_session (platform : Platform) (s : Process ι) {i : ι} {ses : Session}
    (se : SessionEvent) {c' : Credential} {pc' : SessionPc} {out : List Output}
    (hses : (s.credentials i).session = some ses)
    (h : (s.credentials i).sessionStep platform s.register ses.generation ses.pc se =
      some (c', pc', out)) :
    ∃ u, (process ι platform).Takes u ∧ u.before = s ∧ u.event = .credential i (.session se) ∧
      u.sent = out.map (fun o => (i, o)) ∧
      u.after.credentials i = { c' with session := some ⟨ses.generation, pc'⟩ } := by
  refine ⟨⟨s, .credential i (.session se), out.map fun o => (i, o), ⟨s.register,
    Function.update s.credentials i { c' with session := some ⟨ses.generation, pc'⟩ }⟩⟩, ?_,
    rfl, rfl, rfl, Function.update_self ..⟩
  simp [Takes, process, Process.step, Credential.step, CredentialEvent.isCall,
    Credential.perform, hses, h]

/-- A thread that is about to store stores. -/
theorem supersededActs_of_storing (platform : Platform) {s : Process ι} {i : ι} {g' g : Nat}
    {hint : Bytes} {password : Wide} {name : Option Wide} (hg : g' < g)
    (hses : (s.credentials i).session = some ⟨g', .storing hint password name⟩) :
    ∃ u, (process ι platform).Takes u ∧ u.before = s ∧
      u.event = .credential i (.session .advance) ∧ SupersededActs i g u := by
  obtain ⟨u, hu, rfl, hevent, -, hafter⟩ := takes_session platform s .advance hses rfl
  refine ⟨u, hu, rfl, hevent, g', hg, .advance, _, hevent, hses, Or.inr (Or.inl ?_)⟩
  exact ⟨hint, password, name, rfl, by rw [hafter]⟩

/-- A thread that enters the wait raises the flag if it is down. -/
theorem supersededActs_of_waitEnter (platform : Platform) {s : Process ι} {i : ι} {g' g : Nat}
    (hg : g' < g) (hses : (s.credentials i).session = some ⟨g', .waitEnter⟩)
    (hflag : (s.credentials i).faceRecognitionRunning = false) :
    ∃ u, (process ι platform).Takes u ∧ u.before = s ∧
      u.event = .credential i (.session .advance) ∧ SupersededActs i g u := by
  obtain ⟨u, hu, rfl, hevent, -, hafter⟩ := takes_session platform s .advance hses rfl
  exact ⟨u, hu, rfl, hevent, g', hg, .advance, _, hevent, hses,
    Or.inl ⟨hflag, by rw [hafter]⟩⟩

/-- A committed thread needs at most two steps to act, none of them a start. -/
theorem SessionPc.Committed.acts (platform : Platform) {s : Process ι} {i : ι} {ses : Session}
    {g : Nat} (hg : ses.generation < g) (hses : (s.credentials i).session = some ses)
    (hpc : ses.pc.Committed) (hui : (s.credentials i).ui = .idle) :
    ∃ seg s', Steps (process ι platform) s seg s' ∧
      (∀ u ∈ seg, ∀ processAlive, u.event ≠ .credential i (.start processAlive)) ∧
      ∃ u ∈ seg, SupersededActs i g u := by
  obtain ⟨g', pc⟩ := ses
  cases pc with
  | waitEnter =>
      -- `UnAdvise` after `SetDeselected`: the flag is down, whoever raised it before
      let stopped : Process ι := ⟨s.register, Function.update s.credentials i
        { s.credentials i with faceRecognitionRunning := false, ui := .stopping }⟩
      have hstopped : stopped.credentials i =
          { s.credentials i with faceRecognitionRunning := false, ui := .stopping } :=
        Function.update_self ..
      have hstop : (process ι platform).Takes ⟨s, .credential i .stopFlag, [], stopped⟩ := by
        simp [Takes, process, Process.step, Credential.step, Credential.perform, hui, stopped]
      obtain ⟨u, hu, hbefore, hevent, hacts⟩ := supersededActs_of_waitEnter platform hg
        (by rw [hstopped]; exact hses) (by rw [hstopped])
      have htail : Steps (process ι platform) u.before [u] u.after := .single hu
      rw [hbefore] at htail
      exact ⟨_, _, .cons hstop htail, by simp [hevent], u, by simp, hacts⟩
  | readingName hint password =>
      obtain ⟨v, hv, rfl, hevent₁, -, hafter⟩ := takes_session platform s .advance hses rfl
      obtain ⟨u, hu, hbefore, hevent, hacts⟩ := supersededActs_of_storing platform hg
        (by rw [hafter])
      have htail : Steps (process ι platform) u.before [u] u.after := .single hu
      rw [hbefore] at htail
      exact ⟨_, _, .cons hv htail, by simp [hevent₁, hevent], u, by simp, hacts⟩
  | storing hint password name =>
      obtain ⟨u, hu, rfl, hevent, hacts⟩ := supersededActs_of_storing platform hg hses
      exact ⟨[u], _, .single hu, by simp [hevent], u, by simp, hacts⟩
  | notifying =>
      obtain ⟨u, hu, rfl, hevent, hsent, -⟩ := takes_session platform s (.notify true)
        hses rfl
      exact ⟨[u], _, .single hu, by simp [hevent], u, by simp, g', hg, .notify true, _, hevent,
        hses, Or.inr (Or.inr (by simp [hsent]))⟩
  | _ => exact absurd hpc id

-- ============================================================================
-- Stops
-- ============================================================================

/-- The second half of `StopFaceRecognition` starts a new generation. -/
theorem credential_of_stopSpawn {i : ι} (ht : (process ι platform).Takes t)
    (he : t.event = .credential i .stopSpawn) :
    t.after.credentials i = { t.before.credentials i with
      serviceGeneration := (t.before.credentials i).serviceGeneration + 1, ui := .idle }.setStop
        ((t.before.credentials i).serviceGeneration + 1) .cancelCheck := by
  obtain ⟨out, hstep, -, -⟩ := takes_of_credential ht he
  simp only [Credential.step, CredentialEvent.isCall, Bool.false_eq_true, false_and, if_false,
    Credential.perform] at hstep
  split at hstep
  · cases hstep
  · exact (congrArg Prod.fst (Option.some.inj hstep)).symm

/-- After a `StopFaceRecognition` and until the next start, the sessions it supersedes
    never raise the flag, store a password or signal the credential, exactly when
    the thread was not committed at the stop. -/
theorem supersededActs_iff {pre : List (ProcessStep ι)} {i : ι}
    (h : (process ι platform).Run pre t.before) (ht : (process ι platform).Takes t)
    (he : t.event = .credential i .stopSpawn) :
    (∀ seg s', Steps (process ι platform) t.after seg s' →
      (∀ u ∈ seg, ∀ processAlive, u.event ≠ .credential i (.start processAlive)) →
      ∀ u ∈ seg, ¬ SupersededActs i (t.after.credentials i).serviceGeneration u) ↔
    ∀ ses, (t.before.credentials i).session = some ses → ¬ ses.pc.Committed := by
  have hafter := credential_of_stopSpawn ht he
  have hsession : (t.after.credentials i).session = (t.before.credentials i).session := by
    rw [hafter]
    rfl
  have hgeneration : (t.after.credentials i).serviceGeneration =
      (t.before.credentials i).serviceGeneration + 1 := by
    rw [hafter]
    rfl
  constructor
  · intro hnever ses hses hcommitted
    have hlt : ses.generation < (t.after.credentials i).serviceGeneration := by
      rw [hgeneration]
      exact Nat.lt_succ_of_le (session_generation_le h hses)
    have hui : (t.after.credentials i).ui = .idle := by
      rw [hafter]
      rfl
    rw [← hsession] at hses
    obtain ⟨seg, s', hseg, hstarts, u, hu, hacts⟩ :=
      SessionPc.Committed.acts platform hlt hses hcommitted hui
    exact hnever seg s' hseg hstarts u hu hacts
  · intro hpc seg s' hseg _
    refine not_supersededActs_of_steps hseg ⟨Nat.le_refl _, fun ses hses _ => ?_⟩
    rw [hsession] at hses
    exact hpc ses hses

/-- A session that is stopped while it launches the service never acts. -/
theorem supersededActs_launching : ∃ t : ProcessStep Unit,
    t.event = .credential () .stopSpawn ∧
    (t.before.credentials ()).session = some ⟨1, .launching⟩ ∧
    ∀ seg s', Steps (process Unit examplePlatform) t.after seg s' →
      (∀ u ∈ seg, ∀ processAlive, u.event ≠ .credential () (.start processAlive)) →
      ∀ u ∈ seg, ¬ SupersededActs () (t.after.credentials ()).serviceGeneration u := by
  have h1 := (exampleProcess_run .logon none).event (e := .credential () (.start false)) rfl
  have h2 := h1.event (e := .credential () .stopFlag) rfl
  have h3 := h2.event (e := .credential () .stopSpawn) rfl
  obtain ⟨hrun, ht⟩ := (always_snoc.mp h3.cut).2
  refine ⟨_, rfl, rfl, (supersededActs_iff hrun ht rfl).mpr ?_⟩
  intro ses hses
  cases hses
  exact id

/-- `SetDeselected` falls between the check before `WaitForFaceRecognitionResult` and
    its first line: the flag it has lowered is raised again. -/
theorem supersededActs_fails :
    ¬ ∀ (pre : List (ProcessStep Unit)) (t : ProcessStep Unit),
      (process Unit examplePlatform).Run pre t.before → (process Unit examplePlatform).Takes t →
      t.event = .credential () .stopSpawn →
      ∀ seg s', Steps (process Unit examplePlatform) t.after seg s' →
        (∀ u ∈ seg, ∀ processAlive, u.event ≠ .credential () (.start processAlive)) →
        ∀ u ∈ seg, ¬ SupersededActs () (t.after.credentials ()).serviceGeneration u := by
  intro hall
  have h1 := (exampleProcess_run .logon none).event (e := .credential () (.start false)) rfl
  have h2 := h1.event (e := .credential () (.session (.launch true true))) rfl
  have h3 := h2.event (e := .credential () (.session .advance)) rfl
  have h4 := h3.event (e := .credential () (.session .advance)) rfl
  have h5 := h4.event (e := .credential () (.session (.auth (.send true 7)))) rfl
  have h6 := h5.event (e := exampleDatagram .recognizing [] 7 1) rfl
  have h7 := h6.event (e := .credential () (.session (.auth .acknowledged))) rfl
  have h8 := h7.event (e := .credential () (.session .advance)) rfl
  have h9 := h8.event (e := .credential () .stopFlag) rfl
  have h10 := h9.event (e := .credential () .stopSpawn) rfl
  obtain ⟨hrun, ht⟩ := (always_snoc.mp h10.cut).2
  refine hall _ _ hrun ht rfl _ _ (.event (e := .credential () (.session .advance)) .nil rfl) ?_ _
    (List.mem_singleton_self _) ?_
  · simp
  · exact ⟨1, by decide, .advance, .waitEnter, rfl, rfl, Or.inl ⟨rfl, rfl⟩⟩

end Smile2Unlock.CredentialProvider
