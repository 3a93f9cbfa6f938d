/-
  Smile2Unlock.Service.Runs

  The service as a machine: the receive loops hand datagrams to the two
  callbacks, the GUI thread calls `StartRecognition` and `StopRecognition`, and
  the recognizer process, the configuration and the database file change on
  their own.

  Callbacks run one at a time, except that a thread inside the sleep of
  `start_fr_process` lets the others run: `cpWake` and `guiWake` are the returns
  from that sleep.  The half second for which `stop_fr_process` waits is no such
  pause: a stop is one step.  The database file is written through the backend, which
  refuses an empty username.  `cases_of_takes` says what a step can do to the
  fields; the invariants of the runs are derived from it.
-/

import Smile2Unlock.Lib.Machine
import Smile2Unlock.Service.Decision

namespace Smile2Unlock.Service

open Smile2Unlock Lib

/-- The thread of the CP receive loop: free, or asleep in a START. -/
inductive CpThread where
  | ready
  | starting (sessionId : UInt32)
deriving DecidableEq

structure ServiceState (R : Type) where
  fr : FaceRecognition R
  cpThread : CpThread
  guiThread : Progress
deriving DecidableEq

/-- What can happen.  `launches` is whether `start_fr_process` gets its process,
    `beyond` is the memory behind the datagram in the receiver's buffer. -/
inductive ServiceEvent (R : Type) where
  | cpRequest (packet : UdpAuthRequestPacket) (beyond : Bytes) (launches : Bool)
  | cpWake
  | guiStart (launches : Bool)
  | guiWake
  | guiStop
  | frStatus (packet : UdpStatusPacket) (beyond : Bytes)
  | frExit
  | setConfig (faceThreshold : R)
  | databaseWrite (db : Database)

/-- The request that the event hands to `on_cp_request_received`. -/
def ServiceEvent.request {R : Type} : ServiceEvent R → Option AuthRequestDelivery
  | .cpRequest packet beyond _ => authRequestReceiver packet beyond
  | _ => none

/-- The status that the event hands to `on_fr_status_received`. -/
def ServiceEvent.delivery {R : Type} : ServiceEvent R → Option StatusDelivery
  | .frStatus packet beyond => statusReceiver packet beyond
  | _ => none

/-- Whether `start_fr_process` gets its process, where the event calls it. -/
def ServiceEvent.launches {R : Type} : ServiceEvent R → Bool
  | .cpRequest _ _ launches => launches
  | .guiStart launches => launches
  | _ => false

variable {R : Type} [LinearOrder R] [Zero R]

/-- One event.  An event of a busy thread is not enabled. -/
def ServiceState.step (env : Env R) (s : ServiceState R) :
    ServiceEvent R → Option (ServiceState R × List Sent)
  | .cpRequest packet beyond launches =>
      match s.cpThread with
      | .starting _ => none
      | .ready =>
          match authRequestReceiver packet beyond with
          | none => some (s, [])
          | some r =>
              let (fr, sent, progress) := s.fr.onCpRequestReceived env r launches
              let cpThread := match progress with
                | .returned => CpThread.ready
                | .sleeping => .starting r.sessionId
              some ({ s with fr := fr, cpThread := cpThread }, sent)
  | .cpWake =>
      match s.cpThread with
      | .ready => none
      | .starting sessionId =>
          let (fr, sent) := s.fr.cpStarted sessionId
          some ({ s with fr := fr, cpThread := .ready }, sent)
  | .guiStart launches =>
      match s.guiThread with
      | .sleeping => none
      | .returned =>
          let (fr, progress) := s.fr.startRecognition launches
          some ({ s with fr := fr, guiThread := progress }, [])
  | .guiWake =>
      match s.guiThread with
      | .returned => none
      | .sleeping =>
          some ({ s with fr := { s.fr with isRunning := true }, guiThread := .returned }, [])
  | .guiStop =>
      match s.guiThread with
      | .sleeping => none
      | .returned =>
          let (fr, sent) := s.fr.stopRecognition
          some ({ s with fr := fr }, sent)
  | .frStatus packet beyond =>
      match statusReceiver packet beyond with
      | none => some (s, [])
      | some d =>
          let (fr, sent) := s.fr.onFrStatusReceived env d
          some ({ s with fr := fr }, sent)
  | .frExit =>
      if s.fr.frProcess = some .active then
        some ({ s with fr := { s.fr with frProcess := some .exited } }, [])
      else none
  | .setConfig faceThreshold =>
      some ({ s with fr := { s.fr with faceThreshold := faceThreshold } }, [])
  | .databaseWrite db =>
      if s.fr.database.isSome ∧ db.UsernamesNonempty then
        some ({ s with fr := { s.fr with database := some db } }, [])
      else none

/-- The service from its initialized state. -/
def service (env : Env R) : Machine (ServiceState R) (ServiceEvent R) Sent where
  init s := ∃ db faceThreshold, db.UsernamesNonempty ∧ s =
    { fr := .afterInitialize db faceThreshold, cpThread := .ready, guiThread := .returned }
  step s e := s.step env e

abbrev ServiceStep (R : Type) := Transition (ServiceState R) (ServiceEvent R) Sent

-- ============================================================================
-- What the functions change
-- ============================================================================

namespace FaceRecognition

omit [LinearOrder R] [Zero R]

/-- Stopping sends at most PROCESS_ENDED. -/
theorem mem_stopRecognition {s : FaceRecognition R} {m : Sent} (h : m ∈ s.stopRecognition.2) :
    ∃ sessionId, m = .status .processEnded [] sessionId := by
  rw [stopRecognition] at h
  split at h
  · cases h
  · simp only [stopFrProcess] at h
    split at h
    · exact ⟨_, mem_sendStatus h⟩
    · cases h

/-- Stopping changes `is_running_` and the process only. -/
theorem stopRecognition_eq (s : FaceRecognition R) :
    ∃ process, s.stopRecognition.1 = { s with isRunning := false, frProcess := process } := by
  rw [stopRecognition]
  by_cases hrun : s.isRunning
  · exact ⟨none, by simp [hrun, stopFrProcess, cleanupFrProcessHandles]⟩
  · refine ⟨s.frProcess, ?_⟩
    have hfalse : s.isRunning = false := by simpa using hrun
    rw [if_pos hrun, ← hfalse]

theorem cleanupIfDead_eq (s : FaceRecognition R) :
    ∃ process, s.cleanupIfDead = { s with frProcess := process } := by
  rw [cleanupIfDead]
  split
  · exact ⟨none, rfl⟩
  · exact ⟨s.frProcess, rfl⟩

/-- A request writes the session and the hint; the branches of the switch change
    only `is_running_` and the process. -/
theorem onCpRequestReceived_eq (env : Env R) (s : FaceRecognition R) (r : AuthRequestDelivery)
    (launches : Bool) :
    ∃ running process, (s.onCpRequestReceived env r launches).1 =
      { s.receiveRequest r with isRunning := running, frProcess := process } := by
  rw [onCpRequestReceived]
  cases r.requestType with
  | startRecognition =>
      obtain ⟨process, hready⟩ := cleanupIfDead_eq (s.receiveRequest r)
      simp only [cpStart, hready]
      split
      · exact ⟨_, _, rfl⟩
      · split
        · exact ⟨_, _, rfl⟩
        · exact ⟨_, _, rfl⟩
  | cancelRecognition =>
      obtain ⟨process, hstop⟩ := stopRecognition_eq (s.receiveRequest r)
      exact ⟨false, process, hstop⟩
  | queryStatus =>
      simp only [cpQuery]
      split
      · split
        · exact ⟨_, _, rfl⟩
        · exact ⟨_, _, rfl⟩
      · exact ⟨_, _, rfl⟩
  | getPassword => exact ⟨_, _, rfl⟩
  | unnamed _ _ => exact ⟨_, _, rfl⟩

/-- A start from the GUI clears the stored feature. -/
theorem startRecognition_eq {s : FaceRecognition R} (hinit : s.initialized = true)
    (launches : Bool) :
    ∃ running process, (s.startRecognition launches).1 =
      { s with isRunning := running, frProcess := process, lastRecognitionFeature := [] } := by
  obtain ⟨process, hready⟩ := cleanupIfDead_eq s
  rw [startRecognition, if_neg (by simp [hinit])]
  simp only [hready]
  split
  · exact ⟨_, _, rfl⟩
  · split
    · exact ⟨_, _, rfl⟩
    · exact ⟨_, _, rfl⟩

end FaceRecognition

-- ============================================================================
-- What a step can do
-- ============================================================================

variable {env : Env R} {t : ServiceStep R}

theorem takes_of_request_launches {r : AuthRequestDelivery} (ht : (service env).Takes t)
    (hr : t.event.request = some r) :
    t.after.fr = (t.before.fr.onCpRequestReceived env r t.event.launches).1 ∧
      t.sent = (t.before.fr.onCpRequestReceived env r t.event.launches).2.1 := by
  obtain ⟨before, event, sent, after⟩ := t
  cases event with
  | cpRequest packet beyond launches =>
      simp only [ServiceEvent.request] at hr
      simp only [Machine.Takes, service, ServiceState.step, hr] at ht
      cases hcp : before.cpThread with
      | starting _ => simp [hcp] at ht
      | ready =>
          simp only [hcp, Option.some.injEq, Prod.mk.injEq] at ht
          obtain ⟨rfl, rfl⟩ := ht
          exact ⟨rfl, rfl⟩
  | _ => cases hr

theorem takes_of_request {r : AuthRequestDelivery} (ht : (service env).Takes t)
    (hr : t.event.request = some r) :
    ∃ launches, t.after.fr = (t.before.fr.onCpRequestReceived env r launches).1 ∧
      t.sent = (t.before.fr.onCpRequestReceived env r launches).2.1 :=
  ⟨_, takes_of_request_launches ht hr⟩

theorem takes_of_delivery {d : StatusDelivery} (ht : (service env).Takes t)
    (hd : t.event.delivery = some d) :
    t.after.fr = (t.before.fr.onFrStatusReceived env d).1 ∧
      t.sent = (t.before.fr.onFrStatusReceived env d).2 := by
  obtain ⟨before, event, sent, after⟩ := t
  cases event with
  | frStatus packet beyond =>
      simp only [ServiceEvent.delivery] at hd
      simp only [Machine.Takes, service, ServiceState.step, hd, Option.some.injEq,
        Prod.mk.injEq] at ht
      obtain ⟨rfl, rfl⟩ := ht
      exact ⟨rfl, rfl⟩
  | _ => cases hd

theorem takes_of_guiStart {launches : Bool} (ht : (service env).Takes t)
    (he : t.event = .guiStart launches) :
    t.after.fr = (t.before.fr.startRecognition launches).1 ∧ t.sent = [] := by
  obtain ⟨before, event, sent, after⟩ := t
  obtain rfl := he
  simp only [Machine.Takes, service, ServiceState.step] at ht
  cases hgui : before.guiThread with
  | sleeping => simp [hgui] at ht
  | returned =>
      simp only [hgui, Option.some.injEq, Prod.mk.injEq] at ht
      obtain ⟨rfl, rfl⟩ := ht
      exact ⟨rfl, rfl⟩

/-- The steps outside the two callbacks, one by one. -/
inductive InternalStep : ServiceState R → ServiceEvent R → List Sent → ServiceState R → Prop where
  | requestDropped {s : ServiceState R} {packet : UdpAuthRequestPacket} {beyond : Bytes}
      {launches : Bool} : InternalStep s (.cpRequest packet beyond launches) [] s
  | statusDropped {s : ServiceState R} {packet : UdpStatusPacket} {beyond : Bytes} :
      InternalStep s (.frStatus packet beyond) [] s
  | cpWake {s : ServiceState R} {sessionId : UInt32} (hthread : s.cpThread = .starting sessionId) :
      InternalStep s .cpWake (s.fr.cpStarted sessionId).2
        { s with fr := (s.fr.cpStarted sessionId).1, cpThread := .ready }
  | guiStart {s : ServiceState R} {launches : Bool} (hthread : s.guiThread = .returned) :
      InternalStep s (.guiStart launches) []
        { s with fr := (s.fr.startRecognition launches).1,
                 guiThread := (s.fr.startRecognition launches).2 }
  | guiWake {s : ServiceState R} (hthread : s.guiThread = .sleeping) :
      InternalStep s .guiWake []
        { s with fr := { s.fr with isRunning := true }, guiThread := .returned }
  | guiStop {s : ServiceState R} :
      InternalStep s .guiStop s.fr.stopRecognition.2 { s with fr := s.fr.stopRecognition.1 }
  | frExit {s : ServiceState R} (hactive : s.fr.frProcess = some .active) :
      InternalStep s .frExit [] { s with fr := { s.fr with frProcess := some .exited } }
  | setConfig {s : ServiceState R} {faceThreshold : R} :
      InternalStep s (.setConfig faceThreshold) []
        { s with fr := { s.fr with faceThreshold := faceThreshold } }
  | databaseWrite {s : ServiceState R} {db : Database} (hnames : db.UsernamesNonempty) :
      InternalStep s (.databaseWrite db) [] { s with fr := { s.fr with database := some db } }

/-- The inversion of a step outside the two callbacks. -/
theorem internalStep_of_step {s s' : ServiceState R} {e : ServiceEvent R} {sent : List Sent}
    (ht : s.step env e = some (s', sent)) (hr : e.request = none) (hd : e.delivery = none) :
    InternalStep s e sent s' := by
  cases e with
  | cpRequest packet beyond launches =>
      simp only [ServiceEvent.request] at hr
      simp only [ServiceState.step, hr] at ht
      split at ht
      · cases ht
      · cases ht
        exact .requestDropped
  | frStatus packet beyond =>
      simp only [ServiceEvent.delivery] at hd
      simp only [ServiceState.step, hd] at ht
      cases ht
      exact .statusDropped
  | guiStart launches =>
      simp only [ServiceState.step] at ht
      split at ht
      · cases ht
      · rename_i hthread
        cases ht
        exact .guiStart hthread
  | cpWake =>
      simp only [ServiceState.step] at ht
      split at ht
      · cases ht
      · rename_i sessionId hthread
        cases ht
        exact .cpWake hthread
  | guiWake =>
      simp only [ServiceState.step] at ht
      split at ht
      · cases ht
      · rename_i hthread
        cases ht
        exact .guiWake hthread
  | guiStop =>
      simp only [ServiceState.step] at ht
      split at ht
      · cases ht
      · cases ht
        exact .guiStop
  | frExit =>
      simp only [ServiceState.step] at ht
      split at ht
      · rename_i hactive
        cases ht
        exact .frExit hactive
      · cases ht
  | setConfig faceThreshold =>
      cases ht
      exact .setConfig
  | databaseWrite db =>
      simp only [ServiceState.step] at ht
      split at ht
      · rename_i hdb
        cases ht
        exact .databaseWrite hdb.2
      · cases ht

/-- A step outside the two callbacks and the GUI start: the results, the probe,
    the hint and the session stay, and nothing sent is a SUCCESS or a password. -/
structure Internal (t : ServiceStep R) : Prop where
  fields : ∃ running process faceThreshold database,
    t.after.fr = { t.before.fr with
      isRunning := running, frProcess := process, faceThreshold := faceThreshold,
      database := database } ∧
    (database = t.before.fr.database ∨ ∃ db, database = some db ∧ db.UsernamesNonempty)
  sent : ∀ m ∈ t.sent, ∃ status name sessionId,
    m = .status status name sessionId ∧ status ≠ .success

omit [LinearOrder R] [Zero R] in
theorem Internal.refl {s : ServiceState R} {e : ServiceEvent R} : Internal ⟨s, e, [], s⟩ where
  fields := ⟨_, _, _, _, rfl, Or.inl rfl⟩
  sent := by simp

/-- The inversion of a step: a request, a status, a start from the GUI, or none of
    them. -/
theorem cases_of_takes (ht : (service env).Takes t) :
    (∃ r, t.event.request = some r) ∨ (∃ d, t.event.delivery = some d) ∨
    (∃ launches, t.event = .guiStart launches) ∨
    (t.event.request = none ∧ t.event.delivery = none ∧
      (∀ launches, t.event ≠ .guiStart launches) ∧ Internal t) := by
  cases hr : t.event.request with
  | some r => exact Or.inl ⟨r, rfl⟩
  | none =>
      cases hd : t.event.delivery with
      | some d => exact Or.inr (Or.inl ⟨d, rfl⟩)
      | none =>
          obtain ⟨before, event, sent, after⟩ := t
          have hstep : InternalStep before event sent after := internalStep_of_step ht hr hd
          refine Or.inr (Or.inr ?_)
          cases hstep with
          | guiStart => exact Or.inl ⟨_, rfl⟩
          | requestDropped => exact Or.inr ⟨rfl, rfl, by simp, .refl⟩
          | statusDropped => exact Or.inr ⟨rfl, rfl, by simp, .refl⟩
          | cpWake =>
              refine Or.inr ⟨rfl, rfl, by simp, ⟨true, _, _, _, rfl, Or.inl rfl⟩, fun m hm => ?_⟩
              exact ⟨_, _, _, FaceRecognition.mem_sendStatus hm, by simp⟩
          | guiWake =>
              exact Or.inr ⟨rfl, rfl, by simp, ⟨true, _, _, _, rfl, Or.inl rfl⟩, by simp⟩
          | guiStop =>
              obtain ⟨process, hstop⟩ := FaceRecognition.stopRecognition_eq before.fr
              refine Or.inr ⟨rfl, rfl, by simp, ⟨false, process, _, _, hstop, Or.inl rfl⟩,
                fun m hm => ?_⟩
              obtain ⟨sessionId, rfl⟩ := FaceRecognition.mem_stopRecognition hm
              exact ⟨_, _, _, rfl, by simp⟩
          | frExit =>
              exact Or.inr ⟨rfl, rfl, by simp, ⟨_, some .exited, _, _, rfl, Or.inl rfl⟩, by simp⟩
          | setConfig =>
              exact Or.inr ⟨rfl, rfl, by simp, ⟨_, _, _, _, rfl, Or.inl rfl⟩, by simp⟩
          | databaseWrite hnames =>
              exact Or.inr ⟨rfl, rfl, by simp,
                ⟨_, _, _, some _, rfl, Or.inr ⟨_, rfl, hnames⟩⟩, by simp⟩

/-- What `Initialize` sets up, and no step takes down. -/
structure Initialized (s : ServiceState R) : Prop where
  initialized : s.fr.initialized = true
  udpSender : s.fr.udpSender = true
  database : ∃ db, s.fr.database = some db ∧ db.UsernamesNonempty

theorem initialized_of_takes (hinit : Initialized t.before) (ht : (service env).Takes t) :
    Initialized t.after := by
  rcases cases_of_takes ht with ⟨r, hr⟩ | ⟨d, hd⟩ | ⟨launches, he⟩ | ⟨-, -, -, hint⟩
  · obtain ⟨launches, hafter, -⟩ := takes_of_request ht hr
    obtain ⟨running, process, heq⟩ :=
      FaceRecognition.onCpRequestReceived_eq env t.before.fr r launches
    rw [heq] at hafter
    exact ⟨by rw [hafter]; exact hinit.initialized, by rw [hafter]; exact hinit.udpSender,
      by rw [hafter]; exact hinit.database⟩
  · obtain ⟨hafter, -⟩ := takes_of_delivery ht hd
    exact ⟨by rw [hafter]; exact hinit.initialized, by rw [hafter]; exact hinit.udpSender,
      by rw [hafter]; exact hinit.database⟩
  · obtain ⟨hafter, -⟩ := takes_of_guiStart ht he
    obtain ⟨running, process, heq⟩ :=
      FaceRecognition.startRecognition_eq hinit.initialized launches
    rw [heq] at hafter
    exact ⟨by rw [hafter]; exact hinit.initialized, by rw [hafter]; exact hinit.udpSender,
      by rw [hafter]; exact hinit.database⟩
  · obtain ⟨running, process, faceThreshold, database, hafter, hdb⟩ := hint.fields
    refine ⟨by rw [hafter]; exact hinit.initialized, by rw [hafter]; exact hinit.udpSender, ?_⟩
    rw [hafter]
    rcases hdb with hdb | hdb
    · rw [hdb]
      exact hinit.database
    · exact hdb

theorem initialized_of_run {tr : List (ServiceStep R)} {s : ServiceState R}
    (h : (service env).Run tr s) : Initialized s := by
  refine h.invariant (P := fun _ s => Initialized s) ?_ fun _ t hinit ht =>
    initialized_of_takes hinit ht
  rintro s₀ ⟨db, faceThreshold, hnames, rfl⟩
  exact ⟨rfl, rfl, db, rfl, hnames⟩

end Smile2Unlock.Service
