/-
  Smile2Unlock.Service.FrObject

  A `FaceRecognition` from its constructor to the end of its destructor, seen
  through the handles of the recognizer process.

  `ServiceState.ops` says which calls of `start_fr_process`, `stop_fr_process` and
  `cleanup_fr_process_handles` an event makes.  The system gives out handles that are
  not open; a step in which it would do otherwise is not enabled.  `Initialize`
  starts the receivers before it makes the senders, and the receivers end in the
  destructors of the members: requests come in while `Initialize` runs and after the
  body of `~FaceRecognition` has run.

  The preview process has fields of its own and is not part of this.
-/

import Smile2Unlock.Service.FrHandles
import Smile2Unlock.Service.Recognizer

namespace Smile2Unlock.Service

open Smile2Unlock Lib HandleCall

variable {R η : Type}

-- ============================================================================
-- The calls of an event
-- ============================================================================

namespace FaceRecognition

/-- The fields after the constructor; the default configuration has the threshold. -/
def constructed [Zero R] (faceThreshold : R) : FaceRecognition R where
  initialized := false
  isRunning := false
  lastResult := { success := false, username := [], confidence := 0, errorMessage := [] }
  frProcess := none
  udpSender := false
  udpPasswordSender := false
  database := none
  faceThreshold := faceThreshold
  currentSessionId := 0
  pendingUsernameHint := []
  lastRecognitionFeature := []

/-- `StartRecognition` and the START branch: a dead process is cleaned up, and
    without a process one is started. -/
def startOps (s : FaceRecognition R) (io : StartIo η) : List (FrOp η) :=
  (if s.frProcessDead then [.cleanup] else []) ++
    (if s.cleanupIfDead.frProcess.isSome then [] else [.start io])

/-- `StopRecognition`. -/
def stopOps (s : FaceRecognition R) : List (FrOp η) := if s.isRunning then [.stop] else []

/-- `on_cp_request_received`. -/
def requestOps (s : FaceRecognition R) (r : AuthRequestDelivery) (io : StartIo η) :
    List (FrOp η) :=
  match r.requestType with
  | .startRecognition => s.startOps io
  | .cancelRecognition => s.stopOps
  | .queryStatus => if s.udpSender && s.frProcessDead then [.cleanup] else []
  | .getPassword => []
  | .unnamed _ _ => []

/-- `~FaceRecognition`, less the preview. -/
def destructorOps (s : FaceRecognition R) : List (FrOp η) := s.stopOps ++ [.stop]

def destructed (s : FaceRecognition R) : FaceRecognition R := s.stopRecognition.1.stopFrProcess.1

end FaceRecognition

/-- The calls of an event that the threads of `s` can take. -/
def ServiceState.ops (s : ServiceState R) (e : ServiceEvent R) (io : StartIo η) :
    List (FrOp η) :=
  match e with
  | .cpRequest packet beyond _ =>
      match authRequestReceiver packet beyond with
      | none => []
      | some r => s.fr.requestOps r io
  | .guiStart _ => if s.fr.initialized then s.fr.startOps io else []
  | .guiStop => s.fr.stopOps
  | _ => []

/-- A thread of a receiver makes the call. -/
def ServiceEvent.fromReceiver : ServiceEvent R → Bool
  | .cpRequest _ _ _ => true
  | .frStatus _ _ => true
  | _ => false

/-- The owner of the object makes the call. -/
def ServiceEvent.fromOwner : ServiceEvent R → Bool
  | .guiStart _ => true
  | .guiWake => true
  | .guiStop => true
  | .setConfig _ => true
  | _ => false

-- ============================================================================
-- The object
-- ============================================================================

/-- `closing` is the time from the end of the destructor's body to the end of the
    members' destructors. -/
inductive Life where
  | alive
  | closing
  | destroyed
deriving DecidableEq

/-- The fields, the threads of the receivers, the handle fields, and the handles that
    are open in the system. -/
structure FrObject (R η : Type) where
  service : ServiceState R
  receiving : Bool
  life : Life
  handles : FrHandles η
  openHandles : Finset η
deriving DecidableEq

/-- `initializeListens` and `initializeEnds` are the two parts of `Initialize`, up to
    the start of the receivers and after it; in the second a sender may throw.
    `initializeFails` is one whose database fails. -/
inductive ObjectEvent (R η : Type) where
  | initializeFails
  | initializeListens (db : Database)
  | initializeEnds (udpSender udpPasswordSender : Bool)
  | call (e : ServiceEvent R) (io : StartIo η)
  | destroy
  | release

namespace FrObject

/-- The owner is inside `Initialize`. -/
def initializing (s : FrObject R η) : Bool := s.receiving && !s.service.fr.initialized

/-- `Initialize` gets past its first test. -/
def initializes (s : FrObject R η) : Bool :=
  s.life = .alive && !s.receiving && !s.service.fr.initialized

/-- The event can come from a thread that is there. -/
def admits (s : FrObject R η) (e : ServiceEvent R) : Bool :=
  (s.life = .alive || (s.life = .closing && !e.fromOwner)) && (s.receiving || !e.fromReceiver)

theorem alive_of_initializes {s : FrObject R η} (h : s.initializes = true) :
    s.life ≠ .destroyed := by
  intro hlife
  simp [initializes, hlife] at h

theorem alive_of_admits {s : FrObject R η} {e : ServiceEvent R} (h : s.admits e = true) :
    s.life ≠ .destroyed := by
  intro hlife
  simp [admits, hlife] at h

variable [DecidableEq η]

/-- The calls on the handle fields, as far as the system takes part. -/
def runOps (s : FrObject R η) (service : ServiceState R) (ops : List (FrOp η)) :
    Option (FrObject R η × List (HandleCall η)) :=
  let (handles, calls) := s.handles.execAll ops
  if Granted s.openHandles calls then
    some ({ s with
      service := service
      handles := handles
      openHandles := openAfter s.openHandles calls }, calls)
  else none

variable [LinearOrder R] [Zero R]

def step (env : Env R) (s : FrObject R η) :
    ObjectEvent R η → Option (FrObject R η × List (HandleCall η))
  | .initializeFails =>
      if s.initializes then
        let fr := { s.service.fr with database := none }
        some ({ s with service := { s.service with fr := fr } }, [])
      else none
  | .initializeListens db =>
      if s.initializes then
        let fr := { s.service.fr with database := some db }
        some ({ s with service := { s.service with fr := fr }, receiving := true }, [])
      else none
  | .initializeEnds udpSender udpPasswordSender =>
      if s.life = .alive ∧ s.initializing then
        let done := udpSender && udpPasswordSender
        let fr := { s.service.fr with
          udpSender := s.service.fr.udpSender || udpSender
          udpPasswordSender := s.service.fr.udpPasswordSender || done
          initialized := done }
        some ({ s with service := { s.service with fr := fr }, receiving := done }, [])
      else none
  | .call e io =>
      if s.admits e ∧ e.launches = io.launches then
        match s.service.step env e with
        | none => none
        | some (service, _) => s.runOps service (s.service.ops e io)
      else none
  | .destroy =>
      if s.life = .alive ∧ s.service.guiThread = .returned ∧ ¬ s.initializing then
        { s with life := .closing }.runOps { s.service with fr := s.service.fr.destructed }
          s.service.fr.destructorOps
      else none
  | .release =>
      -- the receivers join their threads
      if s.life = .closing ∧ s.service.cpThread = .ready then
        some ({ s with receiving := false, life := .destroyed }, [])
      else none

end FrObject

variable [LinearOrder R] [Zero R] [DecidableEq η]

/-- The object from its constructor on, with no handle open that it knows of. -/
def frObject (env : Env R) : Machine (FrObject R η) (ObjectEvent R η) (HandleCall η) where
  init s := ∃ faceThreshold, s =
    { service := ⟨.constructed faceThreshold, .ready, .returned⟩, receiving := false
      life := .alive, handles := .constructed, openHandles := ∅ }
  step s e := s.step env e

abbrev ObjectStep (R η : Type) := Transition (FrObject R η) (ObjectEvent R η) (HandleCall η)

/-- All calls of a run, in order. -/
def handleLog (tr : List (ObjectStep R η)) : List (HandleCall η) := tr.flatMap (·.sent)

-- ============================================================================
-- What the calls do to fr_process_
-- ============================================================================

open FrHandles FaceRecognition

namespace FaceRecognition

omit [LinearOrder R] [Zero R] [DecidableEq η]

theorem startOps_eq (s : FaceRecognition R) (io : StartIo η) :
    s.startOps io = match s.frProcess with
      | none => [.start io]
      | some .active => []
      | some .exited => [.cleanup, .start io] := by
  rw [startOps, cleanupIfDead, frProcessDead]
  cases hprocess : s.frProcess with
  | none => simp [hprocess]
  | some process => cases process <;> simp [hprocess, cleanupFrProcessHandles]

theorem startOps_receiveRequest (s : FaceRecognition R) (r : AuthRequestDelivery)
    (io : StartIo η) : (s.receiveRequest r).startOps io = s.startOps io := by
  rw [startOps_eq, startOps_eq, frProcess_receiveRequest]

/-- There is a process, or a recognition that was started with one. -/
def HasRun (s : FaceRecognition R) : Prop := s.isRunning = true ∨ s.frProcess ≠ none

/-- A dead process is cleaned up before its successor is started, which needs
    `fr_process_info_` only; without a process the read end matters. -/
theorem safeAll_startOps {s : FaceRecognition R} {f : FrHandles η} {io : StartIo η}
    (hinfo : s.HasRun → f.InfoWritten)
    (hstdout : s.frProcess = none → io.createsStdoutPipe = true → f.frStdoutRead = .null) :
    SafeAll s.frProcess.isSome f (s.startOps io) := by
  rw [startOps_eq]
  cases hprocess : s.frProcess with
  | none => exact ⟨⟨rfl, hstdout hprocess⟩, trivial⟩
  | some process =>
      have hwritten : f.InfoWritten := hinfo (Or.inr (by simp [hprocess]))
      cases process with
      | active => trivial
      | exited => exact ⟨hwritten, ⟨rfl, fun _ => rfl⟩, trivial⟩

theorem safeAll_stopOps {s : FaceRecognition R} {f : FrHandles η}
    (hinfo : s.HasRun → f.InfoWritten) : SafeAll s.frProcess.isSome f s.stopOps := by
  rw [stopOps]
  split
  · rename_i hrun
    exact ⟨hinfo (Or.inl hrun), trivial⟩
  · trivial

theorem safeAll_requestOps {s : FaceRecognition R} {f : FrHandles η} {r : AuthRequestDelivery}
    {io : StartIo η} (hinfo : s.HasRun → f.InfoWritten)
    (hstdout : .start io ∈ s.requestOps r io → s.frProcess = none →
      io.createsStdoutPipe = true → f.frStdoutRead = .null) :
    SafeAll s.frProcess.isSome f (s.requestOps r io) := by
  rw [requestOps] at hstdout ⊢
  cases htype : r.requestType with
  | startRecognition =>
      rw [htype] at hstdout
      apply safeAll_startOps hinfo
      intro hnone
      apply hstdout _ hnone
      simp [startOps_eq, hnone]
  | cancelRecognition => exact safeAll_stopOps hinfo
  | queryStatus =>
      show SafeAll _ f (if s.udpSender && s.frProcessDead then [.cleanup] else [])
      split
      · rename_i hdead
        have hprocess : s.frProcess = some .exited := by
          simpa [frProcessDead] using (Bool.and_eq_true_iff.mp hdead).2
        exact ⟨hinfo (Or.inr (by simp [hprocess])), trivial⟩
      · trivial
  | getPassword => trivial
  | unnamed _ _ => trivial

theorem mem_startOps {s : FaceRecognition R} {io : StartIo η} :
    .start io ∈ s.startOps io ↔ s.frProcess ≠ some .active := by
  rw [startOps_eq]
  cases s.frProcess with
  | none => simp
  | some process => cases process <;> simp

theorem processAfter_startOps (s : FaceRecognition R) (io : StartIo η) :
    processAfter s.frProcess.isSome (s.startOps io) =
      decide (s.frProcess = some .active ∨ io.launches = true) := by
  rw [startOps_eq]
  cases s.frProcess with
  | none => simp [processAfter, afterOp]
  | some process => cases process <;> simp [processAfter, afterOp]

theorem processAfter_stopOps (s : FaceRecognition R) :
    processAfter s.frProcess.isSome (s.stopOps : List (FrOp η)) =
      s.stopRecognition.1.frProcess.isSome := by
  rw [frProcess_stopRecognition, stopOps]
  split
  · rfl
  · rfl

theorem processAfter_queryOps (s : FaceRecognition R) (sessionId : UInt32) :
    processAfter s.frProcess.isSome
        (if s.udpSender && s.frProcessDead then [.cleanup] else [] : List (FrOp η)) =
      (s.cpQuery sessionId).1.frProcess.isSome := by
  rw [cpQuery]
  cases hsender : s.udpSender with
  | false => rfl
  | true =>
      cases hdead : s.frProcessDead with
      | false => simp [processAfter]
      | true => rfl

theorem processAfter_requestOps (env : Env R) (s : FaceRecognition R) (r : AuthRequestDelivery)
    (io : StartIo η) :
    processAfter s.frProcess.isSome (s.requestOps r io) =
      (s.onCpRequestReceived env r io.launches).1.frProcess.isSome := by
  rw [requestOps, onCpRequestReceived]
  cases r.requestType with
  | startRecognition =>
      show _ = ((s.receiveRequest r).cpStart r.sessionId io.launches).1.frProcess.isSome
      rw [processAfter_startOps, frProcess_cpStart, frProcess_receiveRequest]
      split <;> simp [*]
  | cancelRecognition => exact processAfter_stopOps (s.receiveRequest r)
  | queryStatus => exact processAfter_queryOps (s.receiveRequest r) r.sessionId
  | getPassword => rfl
  | unnamed _ _ => rfl

/-- What a start leaves running was there before it, or it got its process. -/
theorem hasRun_of_started {s s' : FaceRecognition R} {io : StartIo η}
    (hrunning : s'.isRunning = true ↔ s.frProcess = some .active ∨ s.isRunning = true)
    (hprocess : s'.frProcess =
      if s.frProcess = some .active ∨ io.launches = true then some .active else none)
    (h : s'.HasRun) : s.HasRun ∨ (.start io ∈ s.startOps io ∧ io.launches = true) := by
  by_cases hactive : s.frProcess = some .active
  · exact Or.inl (Or.inr (by simp [hactive]))
  · rcases h with hrun | hsome
    · exact Or.inl (Or.inl ((hrunning.mp hrun).resolve_left hactive))
    · rw [hprocess] at hsome
      split at hsome
      · rename_i hlaunches
        exact Or.inr ⟨mem_startOps.mpr hactive, hlaunches.resolve_left hactive⟩
      · exact absurd rfl hsome

theorem launches_of_sleeping_cpStart {s : FaceRecognition R} {sessionId : UInt32}
    {launches : Bool} (h : (s.cpStart sessionId launches).2.2 = .sleeping) :
    s.frProcess ≠ some .active ∧ launches = true := by
  rw [cpStart] at h
  by_cases hprocess : s.cleanupIfDead.frProcess.isSome = true
  · simp [hprocess] at h
  · refine ⟨mt (frProcess_cleanupIfDead s).mpr hprocess, ?_⟩
    cases launches with
    | false => simp [hprocess] at h
    | true => rfl

theorem launches_of_sleeping_startRecognition {s : FaceRecognition R} {launches : Bool}
    (h : (s.startRecognition launches).2 = .sleeping) :
    s.initialized = true ∧ s.frProcess ≠ some .active ∧ launches = true := by
  rw [startRecognition] at h
  by_cases hinit : s.initialized = true
  · by_cases hprocess : s.cleanupIfDead.frProcess.isSome = true
    · simp [hinit, hprocess] at h
    · refine ⟨hinit, mt (frProcess_cleanupIfDead s).mpr hprocess, ?_⟩
      cases launches with
      | false => simp [hinit, hprocess] at h
      | true => rfl
  · simp [hinit] at h

theorem hasRun_of_stopRecognition {s : FaceRecognition R} (h : s.stopRecognition.1.HasRun) :
    s.HasRun := by
  rcases h with hrun | hprocess
  · rw [isRunning_stopRecognition] at hrun
    cases hrun
  · rw [frProcess_stopRecognition] at hprocess
    split at hprocess
    · exact absurd rfl hprocess
    · exact Or.inr hprocess

theorem hasRun_of_cpQuery {s : FaceRecognition R} {sessionId : UInt32}
    (h : (s.cpQuery sessionId).1.HasRun) : s.HasRun := by
  rw [cpQuery] at h
  split at h
  · split at h
    · rcases h with hrun | hprocess
      · cases hrun
      · exact absurd rfl hprocess
    · exact h
  · exact h

theorem hasRun_of_request {env : Env R} {s : FaceRecognition R} {r : AuthRequestDelivery}
    {io : StartIo η} (h : (s.onCpRequestReceived env r io.launches).1.HasRun ∨
      (s.onCpRequestReceived env r io.launches).2.2 = .sleeping) :
    s.HasRun ∨ (.start io ∈ s.requestOps r io ∧ io.launches = true) := by
  have hreturned : Progress.returned ≠ .sleeping := by decide
  rw [onCpRequestReceived] at h
  rw [requestOps]
  cases htype : r.requestType with
  | startRecognition =>
      rw [htype] at h
      rcases h with h | h
      · have hrun := hasRun_of_started (isRunning_cpStart (s.receiveRequest r) _ _)
          (frProcess_cpStart (s.receiveRequest r) _ _) h
        rw [startOps_receiveRequest] at hrun
        exact hrun
      · obtain ⟨hactive, hlaunches⟩ := launches_of_sleeping_cpStart h
        exact Or.inr ⟨mem_startOps.mpr hactive, hlaunches⟩
  | cancelRecognition =>
      rw [htype] at h
      exact Or.inl (hasRun_of_stopRecognition (s := s.receiveRequest r) (h.resolve_right hreturned))
  | queryStatus =>
      rw [htype] at h
      exact Or.inl (hasRun_of_cpQuery (s := s.receiveRequest r) (h.resolve_right hreturned))
  | getPassword =>
      rw [htype] at h
      exact Or.inl (h.resolve_right hreturned)
  | unnamed _ _ =>
      rw [htype] at h
      exact Or.inl (h.resolve_right hreturned)

theorem processAfter_guiStart (s : FaceRecognition R) (io : StartIo η) :
    processAfter s.frProcess.isSome (if s.initialized then s.startOps io else []) =
      (s.startRecognition io.launches).1.frProcess.isSome := by
  by_cases hinit : s.initialized = true
  · rw [if_pos hinit, processAfter_startOps, frProcess_startRecognition hinit]
    split <;> simp [*]
  · rw [if_neg hinit, startRecognition, if_pos hinit]
    rfl

theorem hasRun_of_guiStart {s : FaceRecognition R} {io : StartIo η}
    (h : (s.startRecognition io.launches).1.HasRun ∨
      (s.startRecognition io.launches).2 = .sleeping) :
    s.HasRun ∨
      (.start io ∈ (if s.initialized then s.startOps io else []) ∧ io.launches = true) := by
  rcases h with h | h
  · by_cases hinit : s.initialized = true
    · rw [if_pos hinit]
      exact hasRun_of_started (isRunning_startRecognition hinit _)
        (frProcess_startRecognition hinit _) h
    · rw [startRecognition, if_pos hinit] at h
      exact Or.inl h
  · obtain ⟨hinit, hactive, hlaunches⟩ := launches_of_sleeping_startRecognition h
    rw [if_pos hinit]
    exact Or.inr ⟨mem_startOps.mpr hactive, hlaunches⟩

/-- The destructor leaves no process and no recognition. -/
theorem not_hasRun_destructed (s : FaceRecognition R) : ¬ s.destructed.HasRun := by
  rintro (hrun | hprocess)
  · rw [destructed, stopFrProcess, cleanupFrProcessHandles] at hrun
    simp [isRunning_stopRecognition] at hrun
  · exact hprocess rfl

end FaceRecognition

/-- A process, a recognition, or a thread inside a start. -/
def ServiceState.HasRun (s : ServiceState R) : Prop :=
  s.fr.HasRun ∨ s.cpThread ≠ .ready ∨ s.guiThread ≠ .returned

section Call

variable {env : Env R} {s s' : ServiceState R} {e : ServiceEvent R} {sent : List Sent}
  {io : StartIo η}

omit [DecidableEq η]

/-- The calls leave `fr_process_` as the step does, and what runs after it ran before it
    or got its process from a start. -/
structure OpsMatch (s s' : ServiceState R) (ops : List (FrOp η)) : Prop where
  frProcess : processAfter s.fr.frProcess.isSome ops = s'.fr.frProcess.isSome
  hasRun : s'.HasRun → s.HasRun ∨ ∃ op ∈ ops, GetsBothPipes op

omit [LinearOrder R] [Zero R] in
theorem opsMatch_nil (hprocess : s.fr.frProcess.isSome = s'.fr.frProcess.isSome)
    (hrun : s'.HasRun → s.HasRun) : OpsMatch s s' ([] : List (FrOp η)) :=
  ⟨hprocess, fun h => Or.inl (hrun h)⟩

omit [LinearOrder R] [Zero R] in
theorem exists_getsBothPipes {ops : List (FrOp η)}
    (h : .start io ∈ ops ∧ io.launches = true) : ∃ op ∈ ops, GetsBothPipes op :=
  ⟨_, h.1, io, rfl, StartIo.createsBothPipes_of_launches h.2⟩

theorem opsMatch_cpRequest {packet : UdpAuthRequestPacket} {beyond : Bytes}
    (hs : s.step env (.cpRequest packet beyond io.launches) = some (s', sent)) :
    OpsMatch s s' (s.ops (.cpRequest packet beyond io.launches) io) := by
  simp only [ServiceState.step] at hs
  rw [ServiceState.ops]
  cases hcp : s.cpThread with
  | starting _ => simp [hcp] at hs
  | ready =>
      cases hr : authRequestReceiver packet beyond with
      | none =>
          simp only [hcp, hr, Option.some.injEq, Prod.mk.injEq] at hs
          obtain ⟨rfl, -⟩ := hs
          exact opsMatch_nil rfl id
      | some r =>
          simp only [hcp, hr, Option.some.injEq, Prod.mk.injEq] at hs
          obtain ⟨rfl, -⟩ := hs
          refine ⟨processAfter_requestOps env s.fr r io, ?_⟩
          rintro (hrun | hthread | hgui)
          · exact (hasRun_of_request (Or.inl hrun)).imp Or.inl exists_getsBothPipes
          · -- the thread is asleep in the launch that this request made
            have hsleeping : (s.fr.onCpRequestReceived env r io.launches).2.2 = .sleeping := by
              revert hthread
              cases (s.fr.onCpRequestReceived env r io.launches).2.2 with
              | returned => exact fun hthread => absurd rfl hthread
              | sleeping => exact fun _ => rfl
            exact (hasRun_of_request (Or.inr hsleeping)).imp Or.inl exists_getsBothPipes
          · exact Or.inl (Or.inr (Or.inr hgui))

theorem opsMatch_guiStart (hs : s.step env (.guiStart io.launches) = some (s', sent)) :
    OpsMatch s s' (s.ops (.guiStart io.launches) io) := by
  cases internalStep_of_step hs rfl rfl with
  | guiStart =>
      refine ⟨processAfter_guiStart s.fr io, ?_⟩
      rintro (hrun | hcp | hgui)
      · exact (hasRun_of_guiStart (Or.inl hrun)).imp Or.inl exists_getsBothPipes
      · exact Or.inl (Or.inr (Or.inl hcp))
      · have hsleeping : (s.fr.startRecognition io.launches).2 = .sleeping := by
          cases hprogress : (s.fr.startRecognition io.launches).2 with
          | returned => exact absurd hprogress hgui
          | sleeping => rfl
        exact (hasRun_of_guiStart (Or.inr hsleeping)).imp Or.inl exists_getsBothPipes

/-- The calls of an event match what the event does. -/
theorem opsMatch_of_step (hs : s.step env e = some (s', sent))
    (hlaunches : e.launches = io.launches) : OpsMatch s s' (s.ops e io) := by
  have hinternal : e.request = none → e.delivery = none → InternalStep s e sent s' :=
    internalStep_of_step hs
  cases e with
  | cpRequest packet beyond launches =>
      obtain rfl : launches = io.launches := hlaunches
      exact opsMatch_cpRequest hs
  | guiStart launches =>
      obtain rfl : launches = io.launches := hlaunches
      exact opsMatch_guiStart hs
  | frStatus packet beyond =>
      simp only [ServiceState.step] at hs
      split at hs
      · cases hs
        exact opsMatch_nil rfl id
      · rename_i d hd
        cases hs
        refine opsMatch_nil rfl fun hrun => hrun.imp_left fun hfr => hfr.imp_left fun h => ?_
        exact ((isRunning_onFrStatusReceived env s.fr d).mp h).1
  | guiStop =>
      cases hinternal rfl rfl with
      | guiStop =>
          refine ⟨processAfter_stopOps s.fr, fun hrun => Or.inl ?_⟩
          exact hrun.imp_left hasRun_of_stopRecognition
  | frExit =>
      cases hinternal rfl rfl with
      | frExit hactive =>
          have hprocess : s.fr.frProcess ≠ none := by simp [hactive]
          exact opsMatch_nil (by simp [hactive]) fun _ => Or.inl (Or.inr hprocess)
  | cpWake =>
      cases hinternal rfl rfl with
      | cpWake hcp =>
          have hthread : s.cpThread ≠ .ready := by simp [hcp]
          exact opsMatch_nil rfl fun _ => Or.inr (Or.inl hthread)
  | guiWake =>
      cases hinternal rfl rfl with
      | guiWake hgui =>
          have hthread : s.guiThread ≠ .returned := by simp [hgui]
          exact opsMatch_nil rfl fun _ => Or.inr (Or.inr hthread)
  | setConfig faceThreshold =>
      cases hinternal rfl rfl with
      | setConfig => exact opsMatch_nil rfl id
  | databaseWrite db =>
      cases hinternal rfl rfl with
      | databaseWrite => exact opsMatch_nil rfl id

end Call

-- ============================================================================
-- What a step does
-- ============================================================================

/-- The calls that a step makes. -/
def opsOf (t : ObjectStep R η) : List (FrOp η) :=
  match t.event with
  | .call e io => t.before.service.ops e io
  | .destroy => t.before.service.fr.destructorOps
  | _ => []

/-- The calls of a run, in order. -/
def opLog (tr : List (ObjectStep R η)) : List (FrOp η) := tr.flatMap opsOf

omit [LinearOrder R] [Zero R] in
theorem runOps_eq_some {s s' : FrObject R η} {service : ServiceState R} {ops : List (FrOp η)}
    {calls : List (HandleCall η)} (h : s.runOps service ops = some (s', calls)) :
    s.handles.execAll ops = (s'.handles, calls) ∧ Granted s.openHandles calls ∧
      s' = { s with service := service, handles := s'.handles,
                    openHandles := openAfter s.openHandles calls } := by
  simp only [FrObject.runOps] at h
  split at h
  · rename_i hgranted
    cases h
    exact ⟨rfl, hgranted, rfl⟩
  · cases h

variable {env : Env R} {t : ObjectStep R η} {tr : List (ObjectStep R η)} {s : FrObject R η}

/-- A step of `Initialize`, or the end of the members: no call, and nothing that the
    calls depend on changes. -/
structure Quiet (t : ObjectStep R η) : Prop where
  ops : opsOf t = []
  sent : t.sent = []
  handles : t.after.handles = t.before.handles
  openHandles : t.after.openHandles = t.before.openHandles
  frProcess : t.after.service.fr.frProcess = t.before.service.fr.frProcess
  hasRun : t.after.service.HasRun → t.before.service.HasRun
  destroyed : t.after.life = .destroyed → t.event = .release

/-- A step that makes its calls on the handle fields. -/
structure Calls (t : ObjectStep R η) : Prop where
  exec : t.before.handles.execAll (opsOf t) = (t.after.handles, t.sent)
  granted : Granted t.before.openHandles t.sent
  openHandles : t.after.openHandles = openAfter t.before.openHandles t.sent
  alive : t.after.life ≠ .destroyed

/-- The inversion of a step. -/
theorem cases_of_objectStep (ht : (frObject env).Takes t) :
    Quiet t ∨
    (Calls t ∧ ∃ e io sent, t.event = .call e io ∧ e.launches = io.launches ∧
      t.before.service.step env e = some (t.after.service, sent)) ∨
    (Calls t ∧ t.event = .destroy ∧
      t.after.service = { t.before.service with fr := t.before.service.fr.destructed }) := by
  obtain ⟨before, event, sent, after⟩ := t
  simp only [Machine.Takes, frObject] at ht
  cases event with
  | initializeFails =>
      simp only [FrObject.step] at ht
      split at ht
      · rename_i halive
        have hlife := FrObject.alive_of_initializes halive
        cases ht
        exact Or.inl ⟨rfl, rfl, rfl, rfl, rfl, id, fun hdestroyed => absurd hdestroyed hlife⟩
      · cases ht
  | initializeListens db =>
      simp only [FrObject.step] at ht
      split at ht
      · rename_i halive
        have hlife := FrObject.alive_of_initializes halive
        cases ht
        exact Or.inl ⟨rfl, rfl, rfl, rfl, rfl, id, fun hdestroyed => absurd hdestroyed hlife⟩
      · cases ht
  | initializeEnds udpSender udpPasswordSender =>
      simp only [FrObject.step] at ht
      split at ht
      · rename_i halive
        cases ht
        exact Or.inl ⟨rfl, rfl, rfl, rfl, rfl, id, fun hlife =>
          absurd (halive.1.symm.trans hlife) (by decide)⟩
      · cases ht
  | call e io =>
      simp only [FrObject.step] at ht
      split at ht
      · rename_i hadmits
        split at ht
        · cases ht
        · rename_i service sent' hstep
          obtain ⟨hexec, hgranted, hafter⟩ := runOps_eq_some ht
          have hlife : after.life ≠ .destroyed := by
            rw [hafter]
            exact FrObject.alive_of_admits hadmits.1
          refine Or.inr (Or.inl ⟨⟨hexec, hgranted, by rw [hafter], hlife⟩, e, io, sent', rfl,
            hadmits.2, ?_⟩)
          rw [hstep, hafter]
      · cases ht
  | destroy =>
      simp only [FrObject.step] at ht
      split at ht
      · obtain ⟨hexec, hgranted, hafter⟩ := runOps_eq_some ht
        have hlife : after.life ≠ .destroyed := by
          rw [hafter]
          simp
        exact Or.inr (Or.inr ⟨⟨hexec, hgranted, by rw [hafter], hlife⟩, rfl, by rw [hafter]⟩)
      · cases ht
  | release =>
      simp only [FrObject.step] at ht
      split at ht
      · cases ht
        exact Or.inl ⟨rfl, rfl, rfl, rfl, rfl, id, fun _ => rfl⟩
      · cases ht

/-- The fields change by the calls, and the system's part in them is what it should be. -/
theorem calls_of_takes (ht : (frObject env).Takes t) :
    t.before.handles.execAll (opsOf t) = (t.after.handles, t.sent) ∧
      Granted t.before.openHandles t.sent ∧
      t.after.openHandles = openAfter t.before.openHandles t.sent := by
  rcases cases_of_objectStep ht with hquiet | ⟨hcalls, -⟩ | ⟨hcalls, -⟩
  · rw [hquiet.ops, hquiet.sent, hquiet.handles, hquiet.openHandles]
    exact ⟨rfl, trivial, rfl⟩
  · exact ⟨hcalls.exec, hcalls.granted, hcalls.openHandles⟩
  · exact ⟨hcalls.exec, hcalls.granted, hcalls.openHandles⟩

/-- The calls keep `fr_process_` in step, and a process comes from a start that got its
    pipes. -/
theorem opsMatch_of_takes (ht : (frObject env).Takes t) :
    OpsMatch t.before.service t.after.service (opsOf t) := by
  rcases cases_of_objectStep ht with hquiet | ⟨-, e, io, sent, he, hlaunches, hstep⟩ |
    ⟨-, he, hafter⟩
  · rw [hquiet.ops]
    exact opsMatch_nil (by rw [hquiet.frProcess]) hquiet.hasRun
  · have hops : opsOf t = t.before.service.ops e io := by rw [opsOf, he]
    rw [hops]
    exact opsMatch_of_step hstep hlaunches
  · have hops : opsOf t = t.before.service.fr.destructorOps := by rw [opsOf, he]
    have hprocess : processAfter t.before.service.fr.frProcess.isSome
        (t.before.service.fr.destructorOps : List (FrOp η)) = false := by
      rw [destructorOps, processAfter_append]
      rfl
    rw [hops, hafter]
    refine ⟨hprocess, ?_⟩
    rintro (hrun | hthread)
    · exact absurd hrun (not_hasRun_destructed _)
    · exact Or.inl (Or.inr hthread)

-- ============================================================================
-- Runs
-- ============================================================================

/-- What holds of every run: the object is where the sequence of its calls leads from
    the constructor. -/
structure Follows (tr : List (ObjectStep R η)) (s : FrObject R η) : Prop where
  exec : constructed.execAll (opLog tr) = (s.handles, handleLog tr)
  granted : Granted ∅ (handleLog tr)
  openHandles : s.openHandles = openAfter ∅ (handleLog tr)
  frProcess : processAfter false (opLog tr) = s.service.fr.frProcess.isSome
  hasRun : s.service.HasRun → ∃ op ∈ opLog tr, GetsBothPipes op

omit [LinearOrder R] [Zero R] [DecidableEq η] in
theorem opLog_snoc : opLog (tr ++ [t]) = opLog tr ++ opsOf t := by
  simp [opLog]

omit [LinearOrder R] [Zero R] [DecidableEq η] in
theorem handleLog_snoc : handleLog (tr ++ [t]) = handleLog tr ++ t.sent := by
  simp [handleLog]

theorem Follows.snoc (h : Follows tr t.before) (ht : (frObject env).Takes t) :
    Follows (tr ++ [t]) t.after := by
  obtain ⟨hexec, hgranted, hopen⟩ := calls_of_takes ht
  obtain ⟨hprocess, hrun⟩ := opsMatch_of_takes ht
  constructor
  · rw [opLog_snoc, handleLog_snoc, execAll_append, h.exec, hexec]
  · rw [handleLog_snoc]
    refine along_append.mpr ⟨h.granted, ?_⟩
    rw [← h.openHandles]
    exact hgranted
  · rw [hopen, handleLog_snoc, openAfter_append, h.openHandles]
  · rw [opLog_snoc, processAfter_append, h.frProcess, hprocess]
  · intro hafter
    rw [opLog_snoc]
    rcases hrun hafter with hbefore | ⟨op, hop, hgets⟩
    · obtain ⟨op, hop, hgets⟩ := h.hasRun hbefore
      exact ⟨op, List.mem_append_left _ hop, hgets⟩
    · exact ⟨op, List.mem_append_right _ hop, hgets⟩

theorem follows_of_run (h : (frObject env).Run tr s) : Follows tr s := by
  refine h.invariant (P := Follows) ?_ fun tr t hbefore ht => hbefore.snoc ht
  rintro s₀ ⟨faceThreshold, rfl⟩
  refine ⟨rfl, trivial, rfl, rfl, ?_⟩
  rintro ((hrun | hprocess) | hcp | hgui)
  · cases hrun
  · exact absurd rfl hprocess
  · exact absurd rfl hcp
  · exact absurd rfl hgui

-- ============================================================================
-- Every handle is closed once, and by the end
-- ============================================================================

/-- The program closes what it has obtained and not closed yet, never twice, and tests
    only fields that have been written. -/
structure ClosesProperly (log : List (HandleCall η)) : Prop where
  closesOpen : Always (fun pre c => ∀ h, c = .closed h → OpenIn pre h) log
  closesOnce : ∀ pre mid post h,
    log = pre ++ .closed h :: (mid ++ .closed h :: post) → .obtained h ∈ mid
  readsWritten : .unwritten ∉ log

/-- At the end nothing is open. -/
def KeepsNothingOpen (tr : List (ObjectStep R η)) (s : FrObject R η) : Prop :=
  s.life = .destroyed → ∀ h, ¬ OpenIn (handleLog tr) h

/-- The read end of stdout from an earlier start is still there. -/
def ReadEndLeft (pre : List (ObjectStep R η)) : Prop :=
  Since GetsStdoutPipe CleansUp (opLog pre)

/-- The condition on a step.  The destructor runs after a start that got both pipes.
    Without a process to clean up, a start gets its stdout pipe only when there is no
    read end left of an earlier one, and there is none when the receivers end. -/
structure KeepsHandles (pre : List (ObjectStep R η)) (t : ObjectStep R η) : Prop where
  destroy : t.event = .destroy → ∃ op ∈ opLog pre, GetsBothPipes op
  start : (∃ op ∈ opsOf t, GetsStdoutPipe op) → t.before.service.fr.frProcess = none →
    ¬ ReadEndLeft pre
  release : t.event = .release → ¬ ReadEndLeft pre

omit [LinearOrder R] [Zero R] [DecidableEq η] in
/-- The calls of an event are safe on fields that were written by the time something
    ran. -/
theorem safeAll_ops {s : ServiceState R} {f : FrHandles η} {e : ServiceEvent R} {io : StartIo η}
    (hinfo : s.fr.HasRun → f.InfoWritten)
    (hstdout : (∃ op ∈ s.ops e io, GetsStdoutPipe op) → s.fr.frProcess = none →
      f.frStdoutRead = .null) :
    SafeAll s.fr.frProcess.isSome f (s.ops e io) := by
  have hstart (hmem : .start io ∈ s.ops e io) (hnone : s.fr.frProcess = none)
      (hpipe : io.createsStdoutPipe = true) : f.frStdoutRead = .null :=
    hstdout ⟨_, hmem, io, rfl, hpipe⟩ hnone
  cases e with
  | cpRequest packet beyond launches =>
      rw [ServiceState.ops] at hstart ⊢
      cases hr : authRequestReceiver packet beyond with
      | none => trivial
      | some r =>
          simp only [hr] at hstart
          exact safeAll_requestOps hinfo hstart
  | guiStart launches =>
      rw [ServiceState.ops] at hstart ⊢
      by_cases hinit : s.fr.initialized = true
      · rw [if_pos hinit] at hstart ⊢
        apply safeAll_startOps hinfo
        intro hnone
        apply hstart _ hnone
        simp [mem_startOps, hnone]
      · rw [if_neg hinit]
        trivial
  | guiStop => exact safeAll_stopOps hinfo
  | cpWake => trivial
  | guiWake => trivial
  | frStatus packet beyond => trivial
  | frExit => trivial
  | setConfig faceThreshold => trivial
  | databaseWrite db => trivial

/-- A step that meets the condition makes safe calls. -/
theorem safeAll_of_takes (h : Follows tr t.before) (ht : (frObject env).Takes t)
    (hkeeps : KeepsHandles tr t) :
    SafeAll t.before.service.fr.frProcess.isSome t.before.handles (opsOf t) := by
  have hhandles : (constructed.execAll (opLog tr)).1 = t.before.handles := by rw [h.exec]
  have hwritten : (∃ op ∈ opLog tr, GetsBothPipes op) → t.before.handles.InfoWritten := by
    rintro ⟨op, hop, hgets⟩
    rw [← hhandles]
    exact infoWritten_execAll hop hgets constructed
  rcases cases_of_objectStep ht with hquiet | ⟨-, e, io, sent, he, -, -⟩ | ⟨-, he, -⟩
  · rw [hquiet.ops]
    trivial
  · have hops : opsOf t = t.before.service.ops e io := by rw [opsOf, he]
    have hstart := hkeeps.start
    rw [hops] at hstart ⊢
    apply safeAll_ops
    · exact fun hrun => hwritten (h.hasRun (Or.inl hrun))
    · intro hgets hnone
      rw [← hhandles, frStdoutRead_execAll]
      exact hstart hgets hnone
  · have hops : opsOf t = t.before.service.fr.destructorOps := by rw [opsOf, he]
    have hinfo := hwritten (hkeeps.destroy he)
    rw [hops, destructorOps, safeAll_append]
    exact ⟨safeAll_stopOps fun _ => hinfo, hinfo.execAll _, trivial⟩

theorem safeAll_of_run (h : (frObject env).Run tr s) (hkeeps : Always KeepsHandles tr) :
    SafeAll false constructed (opLog tr) := by
  obtain ⟨s₀, hi, hs⟩ := h
  induction hs with
  | nil => trivial
  | @snoc tr t hs ht ih =>
      obtain ⟨hpre, hstep⟩ := always_snoc.mp hkeeps
      have hfollows := follows_of_run ⟨s₀, hi, hs⟩
      rw [opLog_snoc, safeAll_append, hfollows.frProcess, hfollows.exec]
      exact ⟨ih hpre, safeAll_of_takes hfollows ht hstep⟩

/-- When the object is gone no read end is left. -/
theorem not_readEndLeft_of_destroyed (h : (frObject env).Run tr s)
    (hkeeps : Always KeepsHandles tr) (hlife : s.life = .destroyed) : ¬ ReadEndLeft tr := by
  obtain ⟨s₀, hi, hs⟩ := h
  cases hs with
  | nil => exact not_since_nil
  | @snoc tr t hs ht =>
      obtain ⟨hpre, hstep⟩ := always_snoc.mp hkeeps
      rcases cases_of_objectStep ht with hquiet | ⟨hcalls, -⟩ | ⟨hcalls, -⟩
      · rw [ReadEndLeft, opLog_snoc, hquiet.ops, List.append_nil]
        exact hstep.release (hquiet.destroyed hlife)
      · exact absurd hlife hcalls.alive
      · exact absurd hlife hcalls.alive

/-- In every run whose steps meet the condition the handles are closed properly, and at
    its end none is open. -/
theorem closes_of_run (h : (frObject env).Run tr s) (hkeeps : Always KeepsHandles tr) :
    ClosesProperly (handleLog tr) ∧ KeepsNothingOpen tr s := by
  have hfollows := follows_of_run h
  obtain ⟨horderly, hkept⟩ := kept_constructed.execAll (safeAll_of_run h hkeeps)
    (by rw [hfollows.exec]; exact hfollows.granted)
  have hstdout := frStdoutRead_execAll (opLog tr)
  rw [hfollows.exec] at horderly hkept hstdout
  refine ⟨⟨horderly.closes_open, fun pre mid post h => horderly.closes_once,
    horderly.unwritten_notMem⟩, fun hlife handle hopen => ?_⟩
  have hempty := hkept.tidy.empty
    (hstdout.mpr (not_readEndLeft_of_destroyed h hkeeps hlife))
  have hmem := mem_openAfter.mpr hopen
  rw [hkept.owns.eq_empty hempty] at hmem
  exact absurd hmem (Finset.notMem_empty handle)

/-- The constructed object, with a default threshold of 0. -/
def exampleObject : FrObject Nat Nat where
  service := ⟨.constructed 0, .ready, .returned⟩
  receiving := false
  life := .alive
  handles := .constructed
  openHandles := ∅

theorem exampleObject_run : (frObject exampleEnv).Run [] exampleObject :=
  .nil ⟨0, rfl⟩

/-- The pipes and the process of the first start in a process that holds no handle. -/
def exampleIo : StartIo Nat := ⟨true, some (0, 1), some (2, 3), some (4, 5)⟩

/-- An object that is initialized, recognizes once and is destroyed. -/
theorem closes_of_recognition : ∃ tr s, (frObject exampleEnv).Run tr s ∧ s.life = .destroyed ∧
    .obtained 0 ∈ handleLog tr ∧ ClosesProperly (handleLog tr) ∧ KeepsNothingOpen tr s := by
  have h1 := exampleObject_run.event (e := .initializeListens exampleDatabase) rfl
  have h2 := h1.event (e := .initializeEnds true true) rfl
  have h3 := h2.event (e := .call (.guiStart true) exampleIo) rfl
  have h4 := h3.event (e := .call .guiWake ⟨false, none, none, none⟩) rfl
  have h5 := h4.event (e := .destroy) rfl
  have h6 := h5.event (e := .release) rfl
  refine ⟨_, _, h6, rfl, by decide, closes_of_run h6 ?_⟩
  refine always_snoc.mpr ⟨always_snoc.mpr ⟨always_snoc.mpr ⟨always_snoc.mpr ⟨always_snoc.mpr
    ⟨always_snoc.mpr ⟨always_nil, ?_⟩, ?_⟩, ?_⟩, ?_⟩, ?_⟩, ?_⟩
  · exact ⟨nofun, fun _ _ => not_since_nil, nofun⟩
  · exact ⟨nofun, fun _ _ => not_since_nil, nofun⟩
  · exact ⟨nofun, fun _ _ => not_since_nil, nofun⟩
  · exact ⟨nofun, fun _ => nofun, nofun⟩
  · exact ⟨fun _ => ⟨_, List.mem_cons_self, exampleIo, rfl, rfl⟩, fun _ => nofun, nofun⟩
  · exact ⟨nofun, fun _ _ => (frStdoutRead_execAll _).mp rfl,
      fun _ => (frStdoutRead_execAll _).mp rfl⟩

/-- An object that is constructed and destroyed tests `fr_process_info_`, which nothing
    has written. -/
theorem closes_fails : ¬ ∀ tr s, (frObject (η := Nat) exampleEnv).Run tr s →
    ClosesProperly (handleLog tr) ∧ KeepsNothingOpen tr s := by
  intro hall
  have h := exampleObject_run.event (e := .destroy) rfl
  exact (hall _ _ h).1.readsWritten (by decide)

end Smile2Unlock.Service
