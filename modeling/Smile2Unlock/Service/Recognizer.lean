/-
  Smile2Unlock.Service.Recognizer

  The recognizer process behind `is_running_`.

  Whenever `is_running_` is set a process should be there, so that a QUERY answered
  with RECOGNIZING finds one alive.  Two steps can break this: a start that finds no
  live process and gets none, which leaves `is_running_` as it was, and the return
  from the sleep of a launch, which sets `is_running_` without a look at
  `fr_process_`.
-/

import Smile2Unlock.Service.Guarantees

namespace Smile2Unlock.Service

open Smile2Unlock Lib FaceRecognition

variable {R : Type}

-- ============================================================================
-- What the functions do to fr_process_
-- ============================================================================

namespace FaceRecognition

/-- `is_running_` implies a non-null `fr_process_`. -/
def HasProcess (s : FaceRecognition R) : Prop := s.isRunning = true → s.frProcess ≠ none

@[simp] theorem frProcess_receiveRequest (s : FaceRecognition R) (r : AuthRequestDelivery) :
    (s.receiveRequest r).frProcess = s.frProcess := rfl

@[simp] theorem isRunning_receiveRequest (s : FaceRecognition R) (r : AuthRequestDelivery) :
    (s.receiveRequest r).isRunning = s.isRunning := rfl

theorem frProcess_of_cleanupIfDead {s : FaceRecognition R} (h : s.frProcess ≠ some .active) :
    s.cleanupIfDead.frProcess = none := by
  have hnone := mt (frProcess_cleanupIfDead s).mp h
  simpa using hnone

/-- A start has its process alive already or launches one; else there is none. -/
theorem frProcess_cpStart (s : FaceRecognition R) (sessionId : UInt32) (launches : Bool) :
    (s.cpStart sessionId launches).1.frProcess =
      if s.frProcess = some .active ∨ launches = true then some .active else none := by
  rw [cpStart]
  by_cases halive : s.frProcess = some .active
  · have hready : s.cleanupIfDead = s := by simp [cleanupIfDead, frProcessDead, halive]
    simp [hready, halive, cpStarted]
  · have hnone := frProcess_of_cleanupIfDead halive
    cases launches <;> simp [hnone, halive, launched]

theorem frProcess_startRecognition {s : FaceRecognition R} (hinit : s.initialized = true)
    (launches : Bool) :
    (s.startRecognition launches).1.frProcess =
      if s.frProcess = some .active ∨ launches = true then some .active else none := by
  rw [startRecognition, if_neg (by simp [hinit])]
  by_cases halive : s.frProcess = some .active
  · have hready : s.cleanupIfDead = s := by simp [cleanupIfDead, frProcessDead, halive]
    simp [hready, halive]
  · have hnone := frProcess_of_cleanupIfDead halive
    cases launches <;> simp [hnone, halive, launched]

theorem frProcess_stopRecognition (s : FaceRecognition R) :
    s.stopRecognition.1.frProcess = if s.isRunning = true then none else s.frProcess := by
  rw [stopRecognition]
  by_cases hrun : s.isRunning = true
  · simp [hrun, stopFrProcess, cleanupFrProcessHandles]
  · simp [hrun]

theorem frProcess_cpQuery {s : FaceRecognition R} (hsender : s.udpSender = true)
    (sessionId : UInt32) :
    (s.cpQuery sessionId).1.frProcess = s.cleanupIfDead.frProcess := by
  rw [cpQuery, if_pos hsender, cleanupIfDead]
  cases hdead : s.frProcessDead <;> simp [cleanupFrProcessHandles]

/-- QUERY answers with RECOGNIZING exactly when it leaves `is_running_` set. -/
theorem mem_cpQuery_iff {s : FaceRecognition R} (hsender : s.udpSender = true)
    (sessionId : UInt32) :
    (∃ username sessionId', .status .recognizing username sessionId' ∈ (s.cpQuery sessionId).2) ↔
      (s.cpQuery sessionId).1.isRunning = true := by
  rw [cpQuery, if_pos hsender]
  cases hdead : s.frProcessDead
  · cases hrun : s.isRunning <;> simp [hrun]
  · simp

/-- A start keeps the promise unless it finds no live process, gets none and
    `is_running_` is set. -/
theorem hasProcess_cpStart {s : FaceRecognition R} {sessionId : UInt32} {launches : Bool} :
    (s.cpStart sessionId launches).1.HasProcess ↔
      (s.frProcess ≠ some .active → launches = false → s.isRunning = false) := by
  rw [HasProcess, isRunning_cpStart, frProcess_cpStart]
  by_cases halive : s.frProcess = some .active
  · simp [halive]
  · cases launches <;> simp [halive]

theorem hasProcess_stopRecognition (s : FaceRecognition R) : s.stopRecognition.1.HasProcess := by
  intro hrun
  rw [isRunning_stopRecognition] at hrun
  cases hrun

theorem HasProcess.cpQuery {s : FaceRecognition R} (h : s.HasProcess)
    (hsender : s.udpSender = true) (sessionId : UInt32) :
    (s.cpQuery sessionId).1.HasProcess := by
  rw [HasProcess, isRunning_cpQuery hsender, frProcess_cpQuery hsender]
  rintro ⟨hrun, hdead⟩
  have hready : s.cleanupIfDead = s := by simp [cleanupIfDead, frProcessDead, hdead]
  rw [hready]
  exact h hrun

end FaceRecognition

-- ============================================================================
-- What a step does to fr_process_
-- ============================================================================

/-- A start that finds no process alive. -/
def NeedsProcess (t : ServiceStep R) : Prop :=
  IsStart t ∧ t.before.fr.frProcess ≠ some .active

/-- `start_fr_process` gets its process. -/
def Launches (t : ServiceStep R) : Prop := NeedsProcess t ∧ t.event.launches = true

/-- `start_fr_process` returns false. -/
def FailsToLaunch (t : ServiceStep R) : Prop := NeedsProcess t ∧ t.event.launches = false

/-- A thread returns from the sleep of its launch. -/
def Wakes (t : ServiceStep R) : Prop := t.event = .cpWake ∨ t.event = .guiWake

/-- The condition on a step: `is_running_` is not set when a launch fails, and
    `fr_process_` is there when a launch returns. -/
def KeepsProcess (t : ServiceStep R) : Prop :=
  (FailsToLaunch t → t.before.fr.isRunning = false) ∧
  (Wakes t → t.before.fr.frProcess ≠ none)

variable [LinearOrder R] [Zero R] {env : Env R} {t : ServiceStep R}
  {tr : List (ServiceStep R)} {s : ServiceState R}

theorem hasProcess_of_request {r : AuthRequestDelivery} (hinit : Initialized t.before)
    (hbefore : t.before.fr.HasProcess) (ht : (service env).Takes t)
    (hr : t.event.request = some r) :
    t.after.fr.HasProcess ↔ KeepsProcess t := by
  have hwake : ¬ Wakes t := by
    have hevent := event_of_callback (t := t) (Or.inl (by simp [hr]))
    exact not_or.mpr ⟨hevent.1, hevent.2.1⟩
  have hgui : ∀ launches, t.event ≠ .guiStart launches :=
    (event_of_callback (t := t) (Or.inl (by simp [hr]))).2.2.2
  have hreceived : (t.before.fr.receiveRequest r).HasProcess := hbefore
  rw [(takes_of_request_launches ht hr).1, onCpRequestReceived, KeepsProcess,
    FailsToLaunch, NeedsProcess, IsStart, requests_iff hr]
  cases r.requestType with
  | startRecognition =>
      simp [hasProcess_cpStart, hwake, hgui]
  | cancelRecognition =>
      have hstop := hasProcess_stopRecognition (t.before.fr.receiveRequest r)
      simp [cpCancel, hstop, hwake, hgui]
  | queryStatus =>
      have hquery := HasProcess.cpQuery hreceived
        hinit.udpSender r.sessionId
      simp [hquery, hwake, hgui]
  | getPassword => simpa [hwake, hgui] using hreceived
  | unnamed code h => simpa [hwake, hgui] using hreceived

omit [LinearOrder R] [Zero R] in
/-- The condition where no request is handled. -/
theorem keepsProcess_iff (hr : t.event.request = none) :
    KeepsProcess t ↔
      (t.event = .guiStart false → t.before.fr.frProcess ≠ some .active →
        t.before.fr.isRunning = false) ∧
      (t.event = .cpWake ∨ t.event = .guiWake → t.before.fr.frProcess ≠ none) := by
  refine and_congr ⟨fun h he hdead => ?_, fun h hfails => ?_⟩ Iff.rfl
  · exact h ⟨⟨Or.inr ⟨false, he⟩, hdead⟩, by rw [he, ServiceEvent.launches]⟩
  · obtain ⟨⟨hstart, hdead⟩, hlaunch⟩ := hfails
    rcases hstart with hstart | ⟨launches, he⟩
    · exact absurd hstart (not_requests hr)
    · rw [he, ServiceEvent.launches] at hlaunch
      exact h (by rw [he, hlaunch]) hdead

/-- Outside the two callbacks the process is changed by a start, by a stop and by its
    own exit. -/
theorem process_of_internal (hinit : Initialized t.before) (ht : (service env).Takes t)
    (hr : t.event.request = none) (hd : t.event.delivery = none) :
    (∃ launches, t.event = .guiStart launches ∧ t.after.fr.frProcess =
      if t.before.fr.frProcess = some .active ∨ launches = true then some .active else none) ∨
    (t.event = .guiStop ∧ t.after.fr.frProcess =
      if t.before.fr.isRunning = true then none else t.before.fr.frProcess) ∨
    (t.event = .frExit ∧ t.before.fr.frProcess = some .active ∧
      t.after.fr.frProcess = some .exited) ∨
    ((∀ launches, t.event ≠ .guiStart launches) ∧ t.event ≠ .guiStop ∧
      t.after.fr.frProcess = t.before.fr.frProcess) := by
  obtain ⟨before, event, sent, after⟩ := t
  have hstep : InternalStep before event sent after := internalStep_of_step ht hr hd
  cases hstep with
  | requestDropped => simp
  | statusDropped => simp
  | cpWake => simp [cpStarted]
  | guiStart => exact Or.inl ⟨_, rfl, frProcess_startRecognition hinit.initialized _⟩
  | guiWake => simp
  | guiStop => exact Or.inr (Or.inl ⟨rfl, frProcess_stopRecognition before.fr⟩)
  | frExit hactive => exact Or.inr (Or.inr (Or.inl ⟨rfl, hactive, rfl⟩))
  | setConfig => simp
  | databaseWrite => simp

theorem hasProcess_of_internal (hinit : Initialized t.before)
    (hbefore : t.before.fr.HasProcess) (ht : (service env).Takes t)
    (hr : t.event.request = none) (hd : t.event.delivery = none) :
    t.after.fr.HasProcess ↔ KeepsProcess t := by
  have hrun := isRunning_of_internal hinit ht hr hd
  rw [keepsProcess_iff hr, HasProcess, hrun]
  rcases process_of_internal hinit ht hr hd with ⟨launches, he, hprocess⟩ | ⟨he, hprocess⟩ |
    ⟨he, hactive, hprocess⟩ | ⟨hstart, hstop, hprocess⟩
  · rw [he, hprocess]
    by_cases halive : t.before.fr.frProcess = some .active
    · simp [halive]
    · cases launches <;> simp [halive]
  · simp [he]
  · simp [he, hprocess]
  · rw [hprocess]
    constructor
    · exact fun h => ⟨fun he => absurd he (hstart false), fun he => h (Or.inl (Or.inr he))⟩
    · rintro ⟨-, hwake⟩ ((⟨⟨launches, he⟩, -⟩ | he) | ⟨hrun, -⟩)
      · exact absurd he (hstart launches)
      · exact hwake he
      · exact hbefore hrun

/-- A step from a state with its process leads to such a state exactly when it meets
    the condition. -/
theorem hasProcess_of_takes (hinit : Initialized t.before) (hbefore : t.before.fr.HasProcess)
    (ht : (service env).Takes t) : t.after.fr.HasProcess ↔ KeepsProcess t := by
  cases hr : t.event.request with
  | some r => exact hasProcess_of_request hinit hbefore ht hr
  | none =>
      cases hd : t.event.delivery with
      | none => exact hasProcess_of_internal hinit hbefore ht hr hd
      | some d =>
          have hevent := event_of_callback (t := t) (Or.inr (by simp [hd]))
          have hkeeps : KeepsProcess t := by
            refine ⟨fun hfails => ?_, fun hwake => ?_⟩
            · rcases hfails.1.1 with hstart | ⟨launches, he⟩
              · exact absurd hstart (not_requests hr)
              · exact absurd he (hevent.2.2.2 launches)
            · exact absurd hwake (not_or.mpr ⟨hevent.1, hevent.2.1⟩)
          refine iff_of_true (fun hrun => ?_) hkeeps
          rw [(takes_of_delivery ht hd).1] at hrun ⊢
          exact hbefore ((isRunning_onFrStatusReceived env _ d).mp hrun).1

/-- A step that ends with a process had it before or launched it. -/
theorem launches_of_process (hinit : Initialized t.before) (ht : (service env).Takes t)
    (h : t.after.fr.frProcess ≠ none) : t.before.fr.frProcess ≠ none ∨ Launches t := by
  by_cases halive : t.before.fr.frProcess = some .active
  · exact Or.inl (by simp [halive])
  cases hr : t.event.request with
  | some r =>
      rw [(takes_of_request_launches ht hr).1, onCpRequestReceived] at h
      cases htype : r.requestType with
      | startRecognition =>
          simp only [htype, frProcess_cpStart] at h
          rw [ite_ne_right_iff] at h
          exact Or.inr ⟨⟨Or.inl ⟨r, hr, htype⟩, halive⟩, h.1.resolve_left halive⟩
      | cancelRecognition =>
          simp only [htype, cpCancel, frProcess_stopRecognition] at h
          rw [ite_ne_left_iff, frProcess_receiveRequest] at h
          exact Or.inl h.2.symm
      | queryStatus =>
          simp only [htype] at h
          rw [frProcess_cpQuery (by exact hinit.udpSender)] at h
          refine absurd (frProcess_of_cleanupIfDead ?_) h
          rwa [frProcess_receiveRequest]
      | getPassword => exact Or.inl (by simpa [htype] using h)
      | unnamed code hcode => exact Or.inl (by simpa [htype] using h)
  | none =>
      cases hd : t.event.delivery with
      | some d =>
          rw [(takes_of_delivery ht hd).1] at h
          exact Or.inl h
      | none =>
          rcases process_of_internal hinit ht hr hd with ⟨launches, he, hprocess⟩ |
            ⟨-, hprocess⟩ | ⟨-, hactive, -⟩ | ⟨-, -, hprocess⟩
          · rw [hprocess, ite_ne_right_iff] at h
            refine Or.inr ⟨⟨Or.inr ⟨launches, he⟩, halive⟩, ?_⟩
            rw [he, ServiceEvent.launches]
            exact h.1.resolve_left halive
          · rw [hprocess, ite_ne_left_iff] at h
            exact Or.inl h.2.symm
          · exact absurd hactive halive
          · rw [hprocess] at h
            exact Or.inl h

/-- A process in a reachable state was launched in the run. -/
theorem exists_launches (h : (service env).Run tr s) (hprocess : s.fr.frProcess ≠ none) :
    ∃ u ∈ tr, Launches u := by
  revert hprocess
  refine (h.invariant (P := fun tr s => Initialized s ∧
    (s.fr.frProcess ≠ none → ∃ u ∈ tr, Launches u)) ?_ ?_).2
  · rintro s₀ hs₀
    refine ⟨initialized_of_run ⟨s₀, hs₀, .nil⟩, ?_⟩
    obtain ⟨db, faceThreshold, -, rfl⟩ := hs₀
    exact fun hprocess => absurd rfl hprocess
  · rintro tr t ⟨hinit, hlaunched⟩ ht
    refine ⟨initialized_of_takes hinit ht, fun hprocess => ?_⟩
    rcases launches_of_process hinit ht hprocess with hbefore | hlaunch
    · exact exists_mem_snoc (hlaunched hbefore) t
    · exact ⟨t, by simp, hlaunch⟩

-- ============================================================================
-- RECOGNIZING means that a process is alive
-- ============================================================================

/-- A QUERY is answered with RECOGNIZING. -/
def AnswersRecognizing (t : ServiceStep R) : Prop :=
  Requests .queryStatus t ∧ ∃ username sessionId, .status .recognizing username sessionId ∈ t.sent

/-- `is_running_` implies a non-null `fr_process_` after the step, and RECOGNIZING is
    answered only for a process that was launched and is alive. -/
def RunningHasProcess (pre : List (ServiceStep R)) (t : ServiceStep R) : Prop :=
  t.after.fr.HasProcess ∧
  (AnswersRecognizing t →
    t.before.fr.frProcess = some .active ∧ ∃ u ∈ pre, Launches u)

/-- RECOGNIZING is answered when `is_running_` is set and no dead process is found. -/
theorem answersRecognizing_iff (hinit : Initialized t.before) (ht : (service env).Takes t) :
    AnswersRecognizing t ↔ Requests .queryStatus t ∧ t.before.fr.isRunning = true ∧
      t.before.fr.frProcess ≠ some .exited := by
  refine and_congr_right ?_
  rintro ⟨r, hr, htype⟩
  have hsender : (t.before.fr.receiveRequest r).udpSender = true := hinit.udpSender
  rw [(takes_of_request_launches ht hr).2, onCpRequestReceived]
  simp only [htype]
  rw [mem_cpQuery_iff hsender, isRunning_cpQuery hsender]
  simp

theorem hasProcess_of_always (h : (service env).Run tr s) (hall : Always RunningHasProcess tr) :
    s.fr.HasProcess := by
  refine h.invariant_under (P := fun _ s => s.fr.HasProcess) ?_ (fun _ _ _ _ hC => hC.1) hall
  rintro s₀ ⟨db, faceThreshold, -, rfl⟩ hrun
  cases hrun

/-- In every run whose starts and wakes meet the condition, and in no other, a
    recognition in progress has its process. -/
theorem runningHasProcess_iff (h : (service env).Run tr s) :
    Always RunningHasProcess tr ↔ Always (fun _ t => KeepsProcess t) tr := by
  refine h.always_iff ?_
  intro tr t hrun ht hall
  have hinit := initialized_of_run hrun
  have hbefore := hasProcess_of_always hrun hall
  have hstep := hasProcess_of_takes hinit hbefore ht
  refine ⟨fun hhas => hstep.mp hhas.1, fun hkeeps => ⟨hstep.mpr hkeeps, fun hanswer => ?_⟩⟩
  obtain ⟨-, hrunning, hdead⟩ := (answersRecognizing_iff hinit ht).mp hanswer
  have hprocess := hbefore hrunning
  refine ⟨?_, exists_launches hrun hprocess⟩
  -- neither null nor exited
  match hactive : t.before.fr.frProcess with
  | none => exact absurd hactive hprocess
  | some .exited => exact absurd hactive hdead
  | some .active => rfl

/-- A recognition that ends with the exit of the process, and the QUERY after it. -/
theorem runningHasProcess_signIn : ∃ tr s, (service exampleEnv).Run tr s ∧ tr ≠ [] ∧
    (Always RunningHasProcess tr ↔ Always (fun _ t => KeepsProcess t) tr) := by
  have h1 := exampleStart_run.event (e := exampleRequest .startRecognition [] 1) rfl
  have h2 := h1.event (e := .cpWake) rfl
  have h3 := h2.event (e := .frExit) rfl
  have h4 := h3.event (e := exampleRequest .queryStatus [] 1) rfl
  exact ⟨_, _, h4, by simp, runningHasProcess_iff h4⟩

/-- The process dies, the next START cannot launch another: QUERY answers RECOGNIZING
    without a process. -/
theorem runningHasProcess_fails :
    ¬ ∀ tr s, (service exampleEnv).Run tr s → Always RunningHasProcess tr := by
  intro hall
  have h1 := exampleStart_run.event (e := exampleRequest .startRecognition [] 1) rfl
  have h2 := h1.event (e := .cpWake) rfl
  have h3 := h2.event (e := .frExit) rfl
  have h4 := h3.event
    (e := .cpRequest (sendRequest .startRecognition [] 2 0) [] false) rfl
  have h5 := h4.event (e := exampleRequest .queryStatus [] 2) rfl
  have hlast := (always_snoc.mp (hall _ _ h5)).2
  have halive := (hlast.2 ⟨⟨_, rfl, rfl⟩, [], 2, by decide⟩).1
  cases halive

end Smile2Unlock.Service
