/-
  Smile2Unlock.Service.History

  The fields of the recognition manager read as the history of the run.

    * `last_result_.success` — the newest FR status was a match, and was sent on
      as SUCCESS (`producesMatch_of_success`).
    * `last_recognition_feature_` — the feature of the newest FR status that
      carried one (`carries_of_probe`).
    * `is_running_` — a start has come into effect and nothing has ended the
      recognition since (`isRunning_iff`).
-/

import Smile2Unlock.Service.Runs

namespace Smile2Unlock.Service

open Smile2Unlock Lib

variable {R : Type}

-- ============================================================================
-- Steps by what they handle
-- ============================================================================

/-- A CP request of the given type is handled. -/
def Requests (type : AuthRequestType) (t : ServiceStep R) : Prop :=
  ∃ r, t.event.request = some r ∧ r.requestType = type

/-- START_RECOGNITION or `StartRecognition`. -/
def IsStart (t : ServiceStep R) : Prop :=
  Requests .startRecognition t ∨ ∃ launches, t.event = .guiStart launches

/-- An FR status is handled. -/
def IsFrStatus (t : ServiceStep R) : Prop := ∃ d, t.event.delivery = some d

/-- An FR status with this feature is handled. -/
def Carries (feature : Bytes) (t : ServiceStep R) : Prop :=
  ∃ d, t.event.delivery = some d ∧ d.feature = feature

/-- An FR status with some feature is handled. -/
def CarriesFeature (t : ServiceStep R) : Prop :=
  ∃ d, t.event.delivery = some d ∧ d.feature ≠ []

/-- SUCCESS is sent to CP. -/
def SendsSuccess (t : ServiceStep R) : Prop :=
  ∃ username sessionId, .status .success username sessionId ∈ t.sent

/-- The step sets `last_result_` to a match of the user and sends SUCCESS. -/
def ProducesMatch (username : Bytes) (t : ServiceStep R) : Prop :=
  IsFrStatus t ∧ t.after.fr.lastResult.success = true ∧
    t.after.fr.lastResult.username = username ∧ SendsSuccess t

theorem request_of_delivery {t : ServiceStep R} {d : StatusDelivery}
    (h : t.event.delivery = some d) : t.event.request = none := by
  obtain ⟨before, event, sent, after⟩ := t
  cases event with
  | frStatus packet beyond => rfl
  | _ => cases h

theorem delivery_of_request {t : ServiceStep R} {r : AuthRequestDelivery}
    (h : t.event.request = some r) : t.event.delivery = none := by
  obtain ⟨before, event, sent, after⟩ := t
  cases event with
  | cpRequest packet beyond launches => rfl
  | _ => cases h

variable [LinearOrder R] [Zero R] {env : Env R} {t : ServiceStep R}
  {tr : List (ServiceStep R)} {s : ServiceState R}

-- ============================================================================
-- last_result_
-- ============================================================================

/-- Only an FR status changes `last_result_`. -/
theorem lastResult_of_not_frStatus (hinit : Initialized t.before) (ht : (service env).Takes t)
    (h : ¬ IsFrStatus t) : t.after.fr.lastResult = t.before.fr.lastResult := by
  rcases cases_of_takes ht with ⟨r, hr⟩ | hd | ⟨launches, he⟩ | ⟨-, -, -, hint⟩
  · obtain ⟨launches, hafter, -⟩ := takes_of_request ht hr
    obtain ⟨running, process, heq⟩ :=
      FaceRecognition.onCpRequestReceived_eq env t.before.fr r launches
    rw [hafter, heq]
    rfl
  · exact absurd hd h
  · obtain ⟨hafter, -⟩ := takes_of_guiStart ht he
    obtain ⟨running, process, heq⟩ :=
      FaceRecognition.startRecognition_eq hinit.initialized launches
    rw [hafter, heq]
  · obtain ⟨running, process, faceThreshold, database, hafter, -⟩ := hint.fields
    rw [hafter]

/-- An FR status is passed on as SUCCESS exactly when it leaves a success. -/
theorem sendsSuccess_of_frStatus {d : StatusDelivery} (hinit : Initialized t.before)
    (ht : (service env).Takes t) (hd : t.event.delivery = some d) :
    SendsSuccess t ↔ t.before.fr.finalStatus env d = .success := by
  obtain ⟨-, hsent⟩ := takes_of_delivery ht hd
  rw [FaceRecognition.onFrStatusReceived_sent d hinit.udpSender] at hsent
  constructor
  · rintro ⟨username, sessionId, hmem⟩
    rw [hsent, List.mem_singleton, Sent.status.injEq] at hmem
    exact hmem.1.symm
  · intro hfinal
    rw [hfinal] at hsent
    exact ⟨_, _, by rw [hsent]; exact List.mem_singleton.mpr rfl⟩

/-- A success left in `last_result_` is what the newest FR status produced. -/
theorem producesMatch_of_success (h : (service env).Run tr s)
    (hsuccess : s.fr.lastResult.success = true) :
    Since (ProducesMatch s.fr.lastResult.username) IsFrStatus tr := by
  revert hsuccess
  refine (h.invariant (P := fun tr s => Initialized s ∧ (s.fr.lastResult.success = true →
    Since (ProducesMatch s.fr.lastResult.username) IsFrStatus tr)) ?_ ?_).2
  · rintro s₀ hs₀
    refine ⟨initialized_of_run ⟨s₀, hs₀, .nil⟩, ?_⟩
    obtain ⟨db, faceThreshold, -, rfl⟩ := hs₀
    intro hsuccess
    cases hsuccess
  · rintro tr t ⟨hinit, hmatch⟩ ht
    refine ⟨initialized_of_takes hinit ht, fun hsuccess => ?_⟩
    rw [since_snoc]
    by_cases hd : IsFrStatus t
    · have hd' := hd
      obtain ⟨d, hd⟩ := hd
      obtain ⟨hafter, -⟩ := takes_of_delivery ht hd
      rw [hafter, ← FaceRecognition.finalStatus_eq_success] at hsuccess
      have hsends := (sendsSuccess_of_frStatus hinit ht hd).mpr hsuccess
      rw [FaceRecognition.finalStatus_eq_success, ← hafter] at hsuccess
      exact Or.inl ⟨hd', hsuccess, rfl, hsends⟩
    · have hkeep := lastResult_of_not_frStatus hinit ht hd
      rw [hkeep] at hsuccess ⊢
      exact Or.inr ⟨hmatch hsuccess, hd⟩

-- ============================================================================
-- SUCCESS comes from an FR status
-- ============================================================================

omit [LinearOrder R] [Zero R] in
/-- No request is answered with SUCCESS. -/
theorem success_not_mem_onCpRequestReceived {fr : FaceRecognition R} {r : AuthRequestDelivery}
    {launches : Bool} {username : Bytes} {sessionId : UInt32} :
    .status .success username sessionId ∉ (fr.onCpRequestReceived env r launches).2.1 := by
  intro hmem
  rw [FaceRecognition.onCpRequestReceived] at hmem
  cases htype : r.requestType with
  | startRecognition =>
      simp only [htype, FaceRecognition.cpStart] at hmem
      split at hmem
      · cases FaceRecognition.mem_sendStatus hmem
      · split at hmem
        · cases hmem
        · cases FaceRecognition.mem_sendStatus hmem
  | cancelRecognition =>
      simp only [htype, FaceRecognition.cpCancel] at hmem
      rcases List.mem_append.mp hmem with hmem | hmem
      · obtain ⟨_, heq⟩ := FaceRecognition.mem_stopRecognition hmem
        cases heq
      · cases FaceRecognition.mem_sendStatus hmem
  | queryStatus =>
      simp only [htype, FaceRecognition.cpQuery] at hmem
      split at hmem
      · rw [List.mem_singleton, Sent.status.injEq] at hmem
        have hstatus := hmem.1
        split at hstatus <;> split at hstatus <;> cases hstatus
      · cases hmem
  | getPassword =>
      simp only [htype, FaceRecognition.cpGetPassword] at hmem
      split at hmem
      · split at hmem
        · cases List.mem_singleton.mp hmem
        · cases List.mem_singleton.mp hmem
      · cases hmem
  | unnamed code h =>
      simp only [htype] at hmem
      cases hmem

/-- Only an FR status makes the service send SUCCESS. -/
theorem frStatus_of_sendsSuccess (ht : (service env).Takes t) (h : SendsSuccess t) :
    IsFrStatus t := by
  obtain ⟨username, sessionId, hmem⟩ := h
  rcases cases_of_takes ht with ⟨r, hr⟩ | hd | ⟨launches, he⟩ | ⟨-, -, -, hint⟩
  · obtain ⟨launches, -, hsent⟩ := takes_of_request ht hr
    rw [hsent] at hmem
    exact absurd hmem success_not_mem_onCpRequestReceived
  · exact hd
  · obtain ⟨-, hsent⟩ := takes_of_guiStart ht he
    rw [hsent] at hmem
    cases hmem
  · obtain ⟨status, _, _, heq, hne⟩ := hint.sent _ hmem
    cases heq
    exact absurd rfl hne

-- ============================================================================
-- last_recognition_feature_
-- ============================================================================

/-- Outside an FR status the stored probe stays or is cleared. -/
theorem probe_of_not_frStatus (hinit : Initialized t.before) (ht : (service env).Takes t)
    (h : ¬ IsFrStatus t) :
    t.after.fr.lastRecognitionFeature = t.before.fr.lastRecognitionFeature ∨
      t.after.fr.lastRecognitionFeature = [] := by
  rcases cases_of_takes ht with ⟨r, hr⟩ | hd | ⟨launches, he⟩ | ⟨-, -, -, hint⟩
  · obtain ⟨launches, hafter, -⟩ := takes_of_request ht hr
    obtain ⟨running, process, heq⟩ :=
      FaceRecognition.onCpRequestReceived_eq env t.before.fr r launches
    rw [hafter, heq]
    exact Or.inl rfl
  · exact absurd hd h
  · obtain ⟨hafter, -⟩ := takes_of_guiStart ht he
    obtain ⟨running, process, heq⟩ :=
      FaceRecognition.startRecognition_eq hinit.initialized launches
    rw [hafter, heq]
    exact Or.inr rfl
  · obtain ⟨running, process, faceThreshold, database, hafter, -⟩ := hint.fields
    rw [hafter]
    exact Or.inl rfl

/-- An FR status stores the probe it is decided on. -/
theorem probe_of_delivery {d : StatusDelivery} (ht : (service env).Takes t)
    (hd : t.event.delivery = some d) :
    t.after.fr.lastRecognitionFeature = t.before.fr.probeFor d := by
  obtain ⟨hafter, -⟩ := takes_of_delivery ht hd
  rw [hafter, ← FaceRecognition.receiveProbe_lastRecognitionFeature]
  rfl

/-- A stored probe came with the newest FR status that carried a feature. -/
theorem carries_of_probe (h : (service env).Run tr s)
    (hprobe : s.fr.lastRecognitionFeature ≠ []) :
    Since (Carries s.fr.lastRecognitionFeature) CarriesFeature tr := by
  revert hprobe
  refine (h.invariant (P := fun tr s => Initialized s ∧ (s.fr.lastRecognitionFeature ≠ [] →
    Since (Carries s.fr.lastRecognitionFeature) CarriesFeature tr)) ?_ ?_).2
  · rintro s₀ hs₀
    refine ⟨initialized_of_run ⟨s₀, hs₀, .nil⟩, ?_⟩
    obtain ⟨db, faceThreshold, -, rfl⟩ := hs₀
    exact fun hprobe => absurd rfl hprobe
  · rintro tr t ⟨hinit, hcarries⟩ ht
    refine ⟨initialized_of_takes hinit ht, fun hprobe => ?_⟩
    rw [since_snoc]
    by_cases hfr : IsFrStatus t
    · obtain ⟨d, hd⟩ := hfr
      have hstored := probe_of_delivery ht hd
      by_cases hfeature : d.feature = []
      · -- nothing carried: the probe is the stored one
        have hnone : ¬ CarriesFeature t := by
          rintro ⟨d', hd', hne⟩
          rw [hd] at hd'
          exact hne (Option.some.inj hd' ▸ hfeature)
        have hkeep : t.after.fr.lastRecognitionFeature = t.before.fr.lastRecognitionFeature := by
          rw [FaceRecognition.probeFor, if_neg (by simp [hfeature])] at hstored
          split at hstored
          · exact hstored
          · exact absurd hstored hprobe
        rw [hkeep] at hprobe ⊢
        exact Or.inr ⟨hcarries hprobe, hnone⟩
      · rw [FaceRecognition.probeFor, if_pos hfeature] at hstored
        exact Or.inl ⟨d, hd, hstored.symm⟩
    · have hnone : ¬ CarriesFeature t := by
        rintro ⟨d, hd, -⟩
        exact hfr ⟨d, hd⟩
      rcases probe_of_not_frStatus hinit ht hfr with hkeep | hclear
      · rw [hkeep] at hprobe ⊢
        exact Or.inr ⟨hcarries hprobe, hnone⟩
      · exact absurd hclear hprobe

-- ============================================================================
-- is_running_
-- ============================================================================

namespace FaceRecognition

omit [LinearOrder R] [Zero R]

theorem isRunning_stopRecognition (s : FaceRecognition R) :
    s.stopRecognition.1.isRunning = false := by
  obtain ⟨process, hstop⟩ := stopRecognition_eq s
  rw [hstop]

/-- After the dead process is cleaned up, a process is there iff it is alive. -/
theorem frProcess_cleanupIfDead (s : FaceRecognition R) :
    s.cleanupIfDead.frProcess.isSome = true ↔ s.frProcess = some .active := by
  rw [cleanupIfDead, frProcessDead]
  cases hprocess : s.frProcess with
  | none => simp [hprocess]
  | some process =>
      cases process with
      | active => simp [hprocess]
      | exited => simp [cleanupFrProcessHandles]

theorem isRunning_cleanupIfDead (s : FaceRecognition R) :
    s.cleanupIfDead.isRunning = s.isRunning := by
  obtain ⟨process, hready⟩ := cleanupIfDead_eq s
  rw [hready]

theorem isRunning_cpStart (s : FaceRecognition R) (sessionId : UInt32) (launches : Bool) :
    (s.cpStart sessionId launches).1.isRunning = true ↔
      s.frProcess = some .active ∨ s.isRunning = true := by
  rw [← frProcess_cleanupIfDead, ← isRunning_cleanupIfDead s, cpStart]
  by_cases hprocess : s.cleanupIfDead.frProcess.isSome = true
  · simp [hprocess, cpStarted]
  · simp only [hprocess, Bool.false_eq_true, if_false, false_or]
    split <;> rfl

theorem isRunning_startRecognition {s : FaceRecognition R} (hinit : s.initialized = true)
    (launches : Bool) :
    (s.startRecognition launches).1.isRunning = true ↔
      s.frProcess = some .active ∨ s.isRunning = true := by
  rw [← frProcess_cleanupIfDead, ← isRunning_cleanupIfDead s, startRecognition,
    if_neg (by simp [hinit])]
  by_cases hprocess : s.cleanupIfDead.frProcess.isSome = true
  · simp [hprocess]
  · simp only [hprocess, Bool.false_eq_true, if_false, false_or]
    split <;> rfl

theorem isRunning_cpQuery {s : FaceRecognition R} (hsender : s.udpSender = true)
    (sessionId : UInt32) :
    (s.cpQuery sessionId).1.isRunning = true ↔
      s.isRunning = true ∧ s.frProcess ≠ some .exited := by
  rw [cpQuery, if_pos hsender]
  by_cases hdead : s.frProcess = some .exited
  · simp [frProcessDead, hdead]
  · simp [frProcessDead, hdead]

end FaceRecognition

theorem isRunning_onFrStatusReceived (env : Env R) (s : FaceRecognition R) (d : StatusDelivery) :
    (s.onFrStatusReceived env d).1.isRunning = true ↔
      s.isRunning = true ∧ FaceRecognition.endsRun (s.finalStatus env d) = false := by
  show (if FaceRecognition.endsRun (s.finalStatus env d) = true then false
    else s.isRunning) = true ↔ _
  cases FaceRecognition.endsRun (s.finalStatus env d) <;> simp

/-- A start comes into effect: at once with a process that is alive, else on the
    return from the launch. -/
def CompletesStart (t : ServiceStep R) : Prop :=
  (IsStart t ∧ t.before.fr.frProcess = some .active) ∨ t.event = .cpWake ∨ t.event = .guiWake

/-- CANCEL, `StopRecognition`, a terminal status, or a QUERY that finds the process
    dead. -/
def EndsRecognition (t : ServiceStep R) : Prop :=
  Requests .cancelRecognition t ∨ t.event = .guiStop ∨
  (IsFrStatus t ∧ ∃ status username sessionId, .status status username sessionId ∈ t.sent ∧
    FaceRecognition.endsRun status = true) ∨
  (Requests .queryStatus t ∧ t.before.fr.frProcess = some .exited)

omit [LinearOrder R] [Zero R] in
theorem requests_iff {r : AuthRequestDelivery} (hr : t.event.request = some r)
    (type : AuthRequestType) : Requests type t ↔ r.requestType = type := by
  constructor
  · rintro ⟨r', hr', htype⟩
    rw [hr] at hr'
    rw [Option.some.inj hr', htype]
  · exact fun htype => ⟨r, hr, htype⟩

omit [LinearOrder R] [Zero R] in
theorem not_requests {type : AuthRequestType} (hr : t.event.request = none) :
    ¬ Requests type t := by
  rintro ⟨r, hr', -⟩
  rw [hr] at hr'
  cases hr'

/-- A request sets `is_running_` or clears it as the run's history says. -/
theorem isRunning_of_request {r : AuthRequestDelivery} (hinit : Initialized t.before)
    (ht : (service env).Takes t) (hr : t.event.request = some r) :
    t.after.fr.isRunning = true ↔
      (r.requestType = .startRecognition ∧ t.before.fr.frProcess = some .active) ∨
      (t.before.fr.isRunning = true ∧ ¬ (r.requestType = .cancelRecognition ∨
        (r.requestType = .queryStatus ∧ t.before.fr.frProcess = some .exited))) := by
  obtain ⟨launches, hafter, -⟩ := takes_of_request ht hr
  rw [hafter, FaceRecognition.onCpRequestReceived]
  cases r.requestType with
  | startRecognition =>
      rw [FaceRecognition.isRunning_cpStart]
      simp [FaceRecognition.receiveRequest]
  | cancelRecognition =>
      have hstop := FaceRecognition.isRunning_stopRecognition (t.before.fr.receiveRequest r)
      simp [FaceRecognition.cpCancel, hstop]
  | queryStatus =>
      have hquery := FaceRecognition.isRunning_cpQuery
        (show (t.before.fr.receiveRequest r).udpSender = true from hinit.udpSender) r.sessionId
      simp only [hquery]
      simp [FaceRecognition.receiveRequest]
  | getPassword => simp [FaceRecognition.receiveRequest]
  | unnamed code h => simp [FaceRecognition.receiveRequest]

/-- The step of the flag outside the two callbacks. -/
theorem isRunning_of_internal (hinit : Initialized t.before) (ht : (service env).Takes t)
    (hr : t.event.request = none) (hd : t.event.delivery = none) :
    t.after.fr.isRunning = true ↔
      ((∃ launches, t.event = .guiStart launches) ∧ t.before.fr.frProcess = some .active ∨
        t.event = .cpWake ∨ t.event = .guiWake) ∨
      (t.before.fr.isRunning = true ∧ t.event ≠ .guiStop) := by
  obtain ⟨before, event, sent, after⟩ := t
  have hstep : InternalStep before event sent after := internalStep_of_step ht hr hd
  cases hstep with
  | requestDropped => simp
  | statusDropped => simp
  | cpWake => simp [FaceRecognition.cpStarted]
  | guiStart =>
      rw [FaceRecognition.isRunning_startRecognition hinit.initialized]
      simp
  | guiWake => simp
  | guiStop =>
      rw [FaceRecognition.isRunning_stopRecognition]
      simp
  | frExit => simp
  | setConfig => simp
  | databaseWrite => simp

omit [LinearOrder R] [Zero R] in
/-- A callback is none of the events of the threads. -/
theorem event_of_callback (h : t.event.request ≠ none ∨ t.event.delivery ≠ none) :
    t.event ≠ .cpWake ∧ t.event ≠ .guiWake ∧ t.event ≠ .guiStop ∧
      ∀ launches, t.event ≠ .guiStart launches := by
  refine ⟨?_, ?_, ?_, fun launches => ?_⟩ <;>
  · intro he
    rw [he] at h
    simp [ServiceEvent.request, ServiceEvent.delivery] at h

/-- The step of the flag: a start that comes into effect sets it, the end of a
    recognition clears it. -/
theorem isRunning_of_takes (hinit : Initialized t.before) (ht : (service env).Takes t) :
    t.after.fr.isRunning = true ↔
      CompletesStart t ∨ (t.before.fr.isRunning = true ∧ ¬ EndsRecognition t) := by
  cases hr : t.event.request with
  | some r =>
      have hfr : ¬ IsFrStatus t := by
        rintro ⟨d, hd⟩
        rw [delivery_of_request hr] at hd
        cases hd
      have hevent := event_of_callback (t := t) (Or.inl (by simp [hr]))
      rw [isRunning_of_request hinit ht hr, CompletesStart, EndsRecognition, IsStart,
        requests_iff hr, requests_iff hr, requests_iff hr]
      simp [hfr, hevent]
  | none =>
      have hreq : ∀ type, ¬ Requests type t := fun type => not_requests hr
      cases hd : t.event.delivery with
      | some d =>
          have hevent := event_of_callback (t := t) (Or.inr (by simp [hd]))
          obtain ⟨hafter, hsent⟩ := takes_of_delivery ht hd
          rw [FaceRecognition.onFrStatusReceived_sent d hinit.udpSender] at hsent
          rw [hafter, isRunning_onFrStatusReceived, CompletesStart, EndsRecognition, IsStart]
          simp [hreq, hevent, hsent, show IsFrStatus t from ⟨d, hd⟩]
      | none =>
          have hfr : ¬ IsFrStatus t := by
            rintro ⟨d, hd'⟩
            rw [hd] at hd'
            cases hd'
          rw [isRunning_of_internal hinit ht hr hd]
          simp [CompletesStart, EndsRecognition, IsStart, hreq, hfr]

/-- `is_running_` says that a start has come into effect and nothing has ended the
    recognition since. -/
theorem isRunning_iff (h : (service env).Run tr s) :
    s.fr.isRunning = true ↔ Since CompletesStart EndsRecognition tr := by
  refine Machine.Run.flag_iff_since (f := fun s => s.fr.isRunning = true) ?_
    (fun tr t hrun ht => isRunning_of_takes (initialized_of_run hrun) ht) h
  rintro s₀ ⟨db, faceThreshold, -, rfl⟩
  simp [FaceRecognition.afterInitialize]

-- ============================================================================
-- pending_username_hint_ and current_session_id_
-- ============================================================================

omit [LinearOrder R] [Zero R]

/-- The newest request of a stretch of a run. -/
def lastRequest (tr : List (ServiceStep R)) : Option AuthRequestDelivery :=
  newest (·.event.request) tr

/-- The hint and the session that the next result is decided for. -/
def ServiceState.addressee (s : ServiceState R) : Bytes × UInt32 :=
  (s.fr.pendingUsernameHint, s.fr.currentSessionId)

theorem lastRequest_snoc (tr : List (ServiceStep R)) (t : ServiceStep R) :
    lastRequest (tr ++ [t]) = (t.event.request).or (lastRequest tr) :=
  newest_snoc _ tr t

/-- Every request overwrites hint and session; an FR status of session 0 and all
    else leave them. -/
theorem addressee_of_takes [LinearOrder R] [Zero R] {env : Env R} (hinit : Initialized t.before)
    (ht : (service env).Takes t) (hfr : ∀ d, t.event.delivery = some d → d.sessionId = 0) :
    t.after.addressee =
      ((t.event.request).map fun r => (r.usernameHint, r.sessionId)).getD t.before.addressee := by
  rcases cases_of_takes ht with ⟨r, hr⟩ | ⟨d, hd⟩ | ⟨launches, he⟩ | ⟨hr, -, -, hint⟩
  · obtain ⟨launches, hafter, -⟩ := takes_of_request ht hr
    obtain ⟨running, process, heq⟩ :=
      FaceRecognition.onCpRequestReceived_eq env t.before.fr r launches
    rw [ServiceState.addressee, hafter, heq, hr]
    rfl
  · obtain ⟨hafter, -⟩ := takes_of_delivery ht hd
    rw [ServiceState.addressee, hafter, request_of_delivery hd]
    simp [FaceRecognition.onFrStatusReceived, FaceRecognition.receiveProbe, hfr d hd,
      ServiceState.addressee]
  · obtain ⟨hafter, -⟩ := takes_of_guiStart ht he
    obtain ⟨running, process, heq⟩ :=
      FaceRecognition.startRecognition_eq hinit.initialized launches
    rw [ServiceState.addressee, hafter, heq, he]
    rfl
  · obtain ⟨running, process, faceThreshold, database, hafter, -⟩ := hint.fields
    rw [ServiceState.addressee, hafter, hr]
    rfl

/-- Over a stretch of a run hint and session are those of its newest request. -/
theorem addressee_of_steps [LinearOrder R] [Zero R] {env : Env R} {s₀ s : ServiceState R}
    {tr : List (ServiceStep R)} (h : Machine.Steps (service env) s₀ tr s) (hinit : Initialized s₀)
    (hfr : ∀ t ∈ tr, ∀ d, t.event.delivery = some d → d.sessionId = 0) :
    s.addressee =
      ((lastRequest tr).map fun r => (r.usernameHint, r.sessionId)).getD s₀.addressee := by
  suffices hboth : Initialized s ∧ s.addressee =
      ((lastRequest tr).map fun r => (r.usernameHint, r.sessionId)).getD s₀.addressee from hboth.2
  induction h with
  | nil => exact ⟨hinit, rfl⟩
  | snoc h ht ih =>
      rename_i tr t
      obtain ⟨hinit', hold⟩ := ih fun u hu => hfr u (List.mem_append_left _ hu)
      refine ⟨initialized_of_takes hinit' ht, ?_⟩
      rw [addressee_of_takes hinit' ht (hfr t (by simp)), lastRequest_snoc, hold]
      cases t.event.request <;> rfl

end Smile2Unlock.Service
