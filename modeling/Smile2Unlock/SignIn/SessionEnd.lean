/-
  Smile2Unlock.SignIn.SessionEnd

  The statuses that end a session, in the service and in CP.

  CP stops waiting after SUCCESS and after the four failures of
  `IsTerminalFailureStatus`; the service clears `is_running_` after SUCCESS and after
  three of them.  `brings_iff_sends` says from which inputs a status that CP treats as
  final comes; a run in which it ends the session on both sides is one in which no
  FAILED and no failed launch meets a recognition in progress, and no launch returns
  after such a status (`sessionEnds_iff`).
-/

import Smile2Unlock.Service.Recognizer
import Smile2Unlock.CredentialProvider.StatusRegister

namespace Smile2Unlock.SignIn

open Smile2Unlock Lib Service CredentialProvider

-- ============================================================================
-- The two lists
-- ============================================================================

/-- SUCCESS, or a status for which `IsTerminalFailureStatus` holds. -/
def isFinalForCp (status : RecognitionStatus) : Bool :=
  status = .success || isTerminalFailureStatus status

/-- The list of the service lacks FAILED. -/
theorem endsRun_iff (status : RecognitionStatus) :
    FaceRecognition.endsRun status = true ↔ isFinalForCp status = true ∧ status ≠ .failed := by
  cases status <;> simp [FaceRecognition.endsRun, isFinalForCp, isTerminalFailureStatus]

/-- A status that CP treats as final is sent. -/
def isFinalSent : Sent → Bool
  | .status status _ _ => isFinalForCp status
  | .password .. => false

variable {R : Type}

/-- The step sends CP a status that CP treats as final. -/
def SendsFinal (t : ServiceStep R) : Prop := ∃ m ∈ t.sent, isFinalSent m = true

-- ============================================================================
-- Where they come from
-- ============================================================================

/-- An FR status that CP treats as final is handled. -/
def ReportsFinal (t : ServiceStep R) : Prop :=
  ∃ d, t.event.delivery = some d ∧ isFinalForCp d.status = true

/-- CANCEL or `StopRecognition` stops a process. -/
def StopsProcess (t : ServiceStep R) : Prop :=
  (Requests .cancelRecognition t ∨ t.event = .guiStop) ∧
    t.before.fr.isRunning = true ∧ t.before.fr.frProcess ≠ none

/-- A START of CP does not get its process. -/
def RefusesStart (t : ServiceStep R) : Prop := Requests .startRecognition t ∧ FailsToLaunch t

/-- The inputs after which a final status is sent. -/
def BringsFinal (t : ServiceStep R) : Prop := ReportsFinal t ∨ StopsProcess t ∨ RefusesStart t

theorem exists_final_stopRecognition {s : FaceRecognition R} (hsender : s.udpSender = true) :
    (∃ m ∈ s.stopRecognition.2, isFinalSent m = true) ↔
      s.isRunning = true ∧ s.frProcess ≠ none := by
  rw [FaceRecognition.stopRecognition]
  by_cases hrun : s.isRunning = true
  · cases hprocess : s.frProcess with
    | none => simp [hrun, FaceRecognition.stopFrProcess]
    | some process =>
        simp [hrun, FaceRecognition.stopFrProcess, FaceRecognition.sendStatus, hsender,
          isFinalSent, isFinalForCp, isTerminalFailureStatus]
  · simp [hrun]

theorem exists_final_cpStart {s : FaceRecognition R} (hsender : s.udpSender = true)
    (sessionId : UInt32) (launches : Bool) :
    (∃ m ∈ (s.cpStart sessionId launches).2.1, isFinalSent m = true) ↔
      s.frProcess ≠ some .active ∧ launches = false := by
  obtain ⟨process, hready⟩ := FaceRecognition.cleanupIfDead_eq s
  have hready' : s.cleanupIfDead.udpSender = true := by rw [hready]; exact hsender
  rw [FaceRecognition.cpStart]
  by_cases halive : s.frProcess = some .active
  · have hthere := (FaceRecognition.frProcess_cleanupIfDead s).mpr halive
    simp [hthere, halive, FaceRecognition.cpStarted, FaceRecognition.sendStatus, isFinalSent,
      isFinalForCp, isTerminalFailureStatus]
  · have hnone := FaceRecognition.frProcess_of_cleanupIfDead halive
    cases launches <;>
      simp [hnone, halive, FaceRecognition.sendStatus, hready', isFinalSent, isFinalForCp,
        isTerminalFailureStatus]

theorem not_final_cpQuery (s : FaceRecognition R) (sessionId : UInt32) :
    ¬ ∃ m ∈ (s.cpQuery sessionId).2, isFinalSent m = true := by
  rw [FaceRecognition.cpQuery]
  split
  · simp only [List.mem_singleton, exists_eq_left, isFinalSent]
    split <;> split <;> simp [isFinalForCp, isTerminalFailureStatus]
  · simp

theorem not_final_cpGetPassword (env : Env R) (s : FaceRecognition R) (hint : Bytes)
    (sessionId : UInt32) : ¬ ∃ m ∈ s.cpGetPassword env hint sessionId, isFinalSent m = true := by
  rw [FaceRecognition.cpGetPassword]
  split
  · split <;> simp [isFinalSent]
  · simp

variable [LinearOrder R] [Zero R] {env : Env R} {t : ServiceStep R}
  {tr : List (ServiceStep R)} {s : ServiceState R}

/-- A recognizer status is passed on as a final one exactly when it is one. -/
theorem isFinalForCp_finalStatus (fr : FaceRecognition R) (d : StatusDelivery) :
    isFinalForCp (fr.finalStatus env d) = isFinalForCp d.status := by
  rw [FaceRecognition.finalStatus, FaceRecognition.decideResult]
  by_cases hsuccess : d.status = .success
  · rw [if_pos hsuccess, hsuccess]
    split <;> rfl
  · rw [if_neg hsuccess]

/-- FAILED is passed on as it is, and nothing else becomes FAILED. -/
theorem finalStatus_eq_failed (fr : FaceRecognition R) (d : StatusDelivery) :
    fr.finalStatus env d = .failed ↔ d.status = .failed := by
  rw [FaceRecognition.finalStatus, FaceRecognition.decideResult]
  by_cases hsuccess : d.status = .success
  · rw [if_pos hsuccess, hsuccess]
    split <;> simp
  · rw [if_neg hsuccess]

theorem sendsFinal_of_request {r : AuthRequestDelivery} (hinit : Initialized t.before)
    (ht : (service env).Takes t) (hr : t.event.request = some r) :
    SendsFinal t ↔
      (r.requestType = .cancelRecognition ∧ t.before.fr.isRunning = true ∧
        t.before.fr.frProcess ≠ none) ∨
      (r.requestType = .startRecognition ∧ t.before.fr.frProcess ≠ some .active ∧
        t.event.launches = false) := by
  have hsender : (t.before.fr.receiveRequest r).udpSender = true := hinit.udpSender
  rw [SendsFinal, (takes_of_request_launches ht hr).2, FaceRecognition.onCpRequestReceived]
  cases r.requestType with
  | startRecognition =>
      simp [exists_final_cpStart hsender, FaceRecognition.frProcess_receiveRequest]
  | cancelRecognition =>
      have hstop := exists_final_stopRecognition hsender
      have hidle : ∀ m ∈ (t.before.fr.receiveRequest r).stopRecognition.1.sendStatus .idle []
          r.sessionId, isFinalSent m = false := by
        intro m hm
        rw [FaceRecognition.mem_sendStatus hm]
        rfl
      simp only [FaceRecognition.cpCancel, List.mem_append, or_and_right, exists_or, hstop]
      simp
      exact fun m hm hfinal => by
        rw [hidle m hm] at hfinal
        cases hfinal
  | queryStatus => simpa using not_final_cpQuery (t.before.fr.receiveRequest r) r.sessionId
  | getPassword =>
      simpa using not_final_cpGetPassword env (t.before.fr.receiveRequest r) r.usernameHint
        r.sessionId
  | unnamed code h => simp

/-- Outside the two callbacks only `StopRecognition` sends a final status. -/
theorem sendsFinal_of_internal (hinit : Initialized t.before) (ht : (service env).Takes t)
    (hr : t.event.request = none) (hd : t.event.delivery = none) :
    SendsFinal t ↔ t.event = .guiStop ∧ t.before.fr.isRunning = true ∧
      t.before.fr.frProcess ≠ none := by
  obtain ⟨before, event, sent, after⟩ := t
  have hstep : InternalStep before event sent after := internalStep_of_step ht hr hd
  cases hstep with
  | requestDropped => simp [SendsFinal]
  | statusDropped => simp [SendsFinal]
  | cpWake =>
      simp only [SendsFinal, reduceCtorEq, false_and, iff_false]
      rintro ⟨m, hm, hfinal⟩
      rw [FaceRecognition.mem_sendStatus hm] at hfinal
      cases hfinal
  | guiStart => simp [SendsFinal]
  | guiWake => simp [SendsFinal]
  | guiStop => simpa [SendsFinal] using exists_final_stopRecognition hinit.udpSender
  | frExit => simp [SendsFinal]
  | setConfig => simp [SendsFinal]
  | databaseWrite => simp [SendsFinal]

theorem sendsFinal_of_delivery {d : StatusDelivery} (hinit : Initialized t.before)
    (ht : (service env).Takes t) (hd : t.event.delivery = some d) :
    SendsFinal t ↔ isFinalForCp d.status = true := by
  obtain ⟨-, hsent⟩ := takes_of_delivery ht hd
  rw [FaceRecognition.onFrStatusReceived_sent d hinit.udpSender] at hsent
  rw [SendsFinal, hsent]
  simp [isFinalSent, isFinalForCp_finalStatus]

/-- A final status is sent on these inputs, and on no others. -/
theorem brings_iff_sends (hinit : Initialized t.before) (ht : (service env).Takes t) :
    SendsFinal t ↔ BringsFinal t := by
  cases hr : t.event.request with
  | some r =>
      have hevent := event_of_callback (t := t) (Or.inl (by simp [hr]))
      rw [sendsFinal_of_request hinit ht hr, BringsFinal, ReportsFinal, StopsProcess,
        RefusesStart, FailsToLaunch, NeedsProcess, IsStart, requests_iff hr, requests_iff hr,
        delivery_of_request hr]
      simp only [hevent, reduceCtorEq, false_and, exists_false, or_false, false_or]
      tauto
  | none =>
      have hreq : ∀ type, ¬ Requests type t := fun type => not_requests hr
      cases hd : t.event.delivery with
      | some d =>
          have hevent := event_of_callback (t := t) (Or.inr (by simp [hd]))
          rw [sendsFinal_of_delivery hinit ht hd]
          simp [BringsFinal, ReportsFinal, StopsProcess, RefusesStart, hreq, hevent, hd]
      | none =>
          rw [sendsFinal_of_internal hinit ht hr hd]
          simp [BringsFinal, ReportsFinal, StopsProcess, RefusesStart, hreq, hd]

-- ============================================================================
-- After a final status nothing runs
-- ============================================================================

/-- After a final status `is_running_` is false until the next start. -/
def SessionEnds (pre : List (ServiceStep R)) (t : ServiceStep R) : Prop :=
  Since SendsFinal IsStart (pre ++ [t]) → t.after.fr.isRunning = false

/-- FAILED and a START without a process come only while `is_running_` is false, and
    no launch returns after an input that brings a final status. -/
def EndsWithCp (pre : List (ServiceStep R)) (t : ServiceStep R) : Prop :=
  ((∃ d, t.event.delivery = some d ∧ d.status = .failed) ∨ RefusesStart t →
    t.before.fr.isRunning = false) ∧
  (Wakes t → ¬ Since BringsFinal IsStart pre)

/-- A final status leaves `is_running_` set only when it is FAILED or the refusal of a
    START, and a recognition is in progress. -/
theorem isRunning_of_sendsFinal (hinit : Initialized t.before) (ht : (service env).Takes t)
    (hsends : SendsFinal t) :
    t.after.fr.isRunning = false ↔
      ((∃ d, t.event.delivery = some d ∧ d.status = .failed) ∨ RefusesStart t →
        t.before.fr.isRunning = false) := by
  rw [← Bool.not_eq_true, ← Bool.not_eq_true]
  cases hr : t.event.request with
  | some r =>
      have hfinal := (sendsFinal_of_request hinit ht hr).mp hsends
      rw [isRunning_of_request hinit ht hr, RefusesStart, FailsToLaunch, NeedsProcess, IsStart,
        requests_iff hr, delivery_of_request hr]
      rcases hfinal with ⟨htype, -, -⟩ | ⟨htype, hdead, hlaunch⟩
      · simp [htype]
      · simp [htype, hdead, hlaunch]
  | none =>
      have hrefuses : ¬ RefusesStart t := fun h => not_requests hr h.1
      cases hd : t.event.delivery with
      | some d =>
          have hfinal := (sendsFinal_of_delivery hinit ht hd).mp hsends
          have hends := endsRun_iff (t.before.fr.finalStatus env d)
          rw [isFinalForCp_finalStatus, Ne, finalStatus_eq_failed] at hends
          rw [(takes_of_delivery ht hd).1, isRunning_onFrStatusReceived, ← Bool.not_eq_true, hends]
          simp only [hrefuses, Option.some.injEq, exists_eq_left', or_false, hfinal, true_and]
          tauto
      | none =>
          have hstop := (sendsFinal_of_internal hinit ht hr hd).mp hsends
          rw [isRunning_of_internal hinit ht hr hd]
          simp [hstop.1, hrefuses]

/-- Only the return from a launch sets `is_running_` outside a start. -/
theorem isRunning_of_not_start (hinit : Initialized t.before) (ht : (service env).Takes t)
    (hstart : ¬ IsStart t) (hbefore : t.before.fr.isRunning = false) :
    t.after.fr.isRunning = false ↔ ¬ Wakes t := by
  rw [← Bool.not_eq_true, isRunning_of_takes hinit ht]
  simp [CompletesStart, hstart, hbefore, Wakes]

/-- The step of the promise. -/
theorem sessionEnds_of_takes (hinit : Initialized t.before) (ht : (service env).Takes t)
    (hbrings : Since SendsFinal IsStart tr ↔ Since BringsFinal IsStart tr)
    (hbefore : Since SendsFinal IsStart tr → t.before.fr.isRunning = false) :
    SessionEnds tr t ↔ EndsWithCp tr t := by
  rw [SessionEnds, since_snoc, EndsWithCp, ← hbrings]
  by_cases hsends : SendsFinal t
  · -- the step itself ends the session: a wake sends no final status
    have hwake : ¬ Wakes t := by
      rintro (he | he)
      · rw [sendsFinal_of_internal hinit ht (by rw [he]; rfl) (by rw [he]; rfl), he] at hsends
        cases hsends.1
      · rw [sendsFinal_of_internal hinit ht (by rw [he]; rfl) (by rw [he]; rfl), he] at hsends
        cases hsends.1
    have hflag := isRunning_of_sendsFinal hinit ht hsends
    simp only [hsends, true_or, forall_const, hwake, false_implies, and_true]
    exact hflag
  · -- it ends no session: FAILED and a refusal would
    have hquiet : ¬ ((∃ d, t.event.delivery = some d ∧ d.status = .failed) ∨ RefusesStart t) := by
      rintro (⟨d, hd, hfailed⟩ | hrefuses)
      · refine hsends ((sendsFinal_of_delivery hinit ht hd).mpr ?_)
        rw [hfailed]
        rfl
      · exact hsends ((brings_iff_sends hinit ht).mpr (Or.inr (Or.inr hrefuses)))
    simp only [hsends, false_or, hquiet, false_implies, true_and]
    constructor
    · intro h hwake hsince
      have hstart : ¬ IsStart t := by
        rintro (hreq | ⟨launches, he⟩)
        · rcases hwake with he | he <;> exact not_requests (by rw [he]; rfl) hreq
        · rcases hwake with he' | he' <;> rw [he] at he' <;> cases he'
      exact (isRunning_of_not_start hinit ht hstart (hbefore hsince)).mp (h ⟨hsince, hstart⟩) hwake
    · rintro h ⟨hsince, hstart⟩
      exact (isRunning_of_not_start hinit ht hstart (hbefore hsince)).mpr fun hwake =>
        h hwake hsince

theorem since_brings_iff (h : (service env).Run tr s) :
    Since SendsFinal IsStart tr ↔ Since BringsFinal IsStart tr :=
  since_congr fun _ hu => (h.cut.mono fun _ _ hu =>
    brings_iff_sends (initialized_of_run hu.1) hu.2).forall_mem _ hu

theorem isRunning_of_always (h : (service env).Run tr s) (hall : Always SessionEnds tr) :
    Since SendsFinal IsStart tr → s.fr.isRunning = false := by
  refine h.invariant_under (P := fun tr s => Since SendsFinal IsStart tr → s.fr.isRunning = false)
    ?_ (fun _ _ _ _ hC => hC) hall
  exact fun _ _ hsince => absurd hsince not_since_nil

/-- A run in which every final status ends the recognition until the next start is one
    whose inputs meet the condition. -/
theorem sessionEnds_iff (h : (service env).Run tr s) :
    Always SessionEnds tr ↔ Always EndsWithCp tr := by
  refine h.always_iff ?_
  intro tr t hrun ht hall
  exact sessionEnds_of_takes (initialized_of_run hrun) ht (since_brings_iff hrun)
    (isRunning_of_always hrun hall)

/-- Two recognitions, the first ended by TIMEOUT. -/
theorem sessionEnds_twice : ∃ tr s, (service FaceRecognition.exampleEnv).Run tr s ∧ tr ≠ [] ∧
    (Always SessionEnds tr ↔ Always EndsWithCp tr) := by
  have h1 := exampleStart_run.event (e := exampleRequest .startRecognition [] 1) rfl
  have h2 := h1.event (e := .cpWake) rfl
  have h3 := h2.event (e := exampleStatus .timeout []) rfl
  have h4 := h3.event (e := exampleRequest .startRecognition [] 2) rfl
  exact ⟨_, _, h4, by simp, sessionEnds_iff h4⟩

/-- The process of a recognition dies, the next START cannot launch another and is
    answered with RECOGNITION_ERROR: `is_running_` stays set. -/
theorem sessionEnds_fails :
    ¬ ∀ tr s, (service FaceRecognition.exampleEnv).Run tr s → Always SessionEnds tr := by
  intro hall
  have h1 := exampleStart_run.event (e := exampleRequest .startRecognition [] 1) rfl
  have h2 := h1.event (e := .cpWake) rfl
  have h3 := h2.event (e := .frExit) rfl
  have h4 := h3.event
    (e := .cpRequest (sendRequest .startRecognition [] 2 0) [] false) rfl
  have hlast := (always_snoc.mp (hall _ _ h4)).2
  have hidle := hlast (since_snoc.mpr (Or.inl ⟨.status .recognitionError [] 2, by decide, rfl⟩))
  cases hidle

end Smile2Unlock.SignIn
