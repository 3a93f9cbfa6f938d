/-
  Smile2Unlock.SignIn.Attempt

  One sign-in attempt across the two processes: the session thread sends START until a
  status acknowledges it and then polls; the copies of the START reach the service in
  any order; the statuses of the service reach the register in the order in which they
  were sent.

  The register keeps the last status only.  `resultStands_of_quiet` says what protects
  a SUCCESS until the poll has seen it: that the service answers nothing else in the
  meantime.
-/

import Smile2Unlock.Lib.Queue
import Smile2Unlock.Service.Guarantees
import Smile2Unlock.CredentialProvider.OwnResult

namespace Smile2Unlock.SignIn

open Smile2Unlock Lib Machine Service CredentialProvider

/-- A START on its way to the service. -/
structure StartCopy where
  usernameHint : Bytes
  sessionId : UInt32
  timestamp : UInt64

def StartCopy.packet (copy : StartCopy) : UdpAuthRequestPacket :=
  sendRequest .startRecognition copy.usernameHint copy.sessionId copy.timestamp

/-- A status on its way to CP. -/
structure StatusCopy where
  status : RecognitionStatus
  username : Bytes
  sessionId : UInt32
  timestamp : UInt64

def StatusCopy.packet (copy : StatusCopy) : UdpStatusPacket :=
  statusPacket copy.status copy.username copy.sessionId [] nil_fits_feature copy.timestamp

/-- What the session thread sends is on its way to the service. -/
def startCopy (timestamp : UInt64) : Output → Option StartCopy
  | .authRequest _ .startRecognition hint sessionId => some ⟨hint, sessionId, timestamp⟩
  | _ => none

/-- What the service sends is on its way to CP. -/
def statusCopy (timestamp : UInt64) : Sent → Option StatusCopy
  | .status status username sessionId => some ⟨status, username, sessionId, timestamp⟩
  | .password _ _ _ _ => none

structure Attempt (R : Type) where
  service : ServiceState R
  starts : List StartCopy
  statuses : List StatusCopy
  register : StatusRegister
  credential : Credential

/-- A step of the session thread; the arrival of the `k`-th START at the service, the
    return from its sleep, an FR status and the exit of FR; the arrival of the oldest
    status at CP. -/
inductive AttemptEvent where
  | session (e : SessionEvent) (timestamp : UInt64)
  | handle (k : Nat) (beyond : Bytes) (launches : Bool) (timestamp : UInt64)
  | wake (timestamp : UInt64)
  | frStatus (packet : UdpStatusPacket) (beyond : Bytes) (timestamp : UInt64)
  | frExit
  | deliver (beyond : Bytes) (tick : Nat)

variable {R : Type} [LinearOrder R] [Zero R]

/-- The service takes an event, and what it sends is queued for CP. -/
def Attempt.serve (env : Env R) (a : Attempt R) (e : ServiceEvent R) (timestamp : UInt64) :
    Option (Attempt R × List Sent) :=
  (a.service.step env e).map fun r =>
    ({ a with
        service := r.1
        statuses := a.statuses ++ r.2.filterMap (statusCopy timestamp) }, r.2)

def Attempt.step (env : Env R) (platform : Platform) (a : Attempt R) :
    AttemptEvent → Option (Attempt R × List Sent)
  | .session e timestamp =>
      if a.credential.session.map (·.pc.phase) = some .waiting then
        (a.credential.step platform a.register (.session e)).map fun r =>
          ({ a with
              credential := r.1
              starts := a.starts ++ r.2.2.filterMap (startCopy timestamp) }, [])
      else none
  | .handle k beyond launches timestamp =>
      match a.starts[k]? with
      | none => none
      | some copy =>
          { a with starts := a.starts.eraseIdx k }.serve env
            (.cpRequest copy.packet beyond launches) timestamp
  | .wake timestamp => a.serve env .cpWake timestamp
  | .frStatus packet beyond timestamp => a.serve env (.frStatus packet beyond) timestamp
  | .frExit => a.serve env .frExit 0
  | .deliver beyond tick =>
      match a.statuses with
      | [] => none
      | copy :: rest =>
          some ({ a with
            statuses := rest
            register := a.register.receive copy.packet beyond tick }, [])

/-- An attempt begins with the first START of a session, at a service in any state that it
    can reach, with nothing of an earlier attempt on the way. -/
def attempt (env : Env R) (platform : Platform) : Machine (Attempt R) AttemptEvent Sent where
  init a := (∃ tr, (service env).Run tr a.service) ∧ a.starts = [] ∧ a.statuses = [] ∧
    a.register.faceRecognitionStatus = .idle ∧
    ∃ g hint, a.credential.session = some ⟨g, .starting (AuthSend.initial hint)⟩
  step a e := a.step env platform e

abbrev AttemptStep (R : Type) := Transition (Attempt R) AttemptEvent Sent

-- ============================================================================
-- The result and its observation
-- ============================================================================

/-- The service sends SUCCESS. -/
def SendsResult (t : AttemptStep R) : Prop :=
  ∃ username sessionId, .status .success username sessionId ∈ t.sent

/-- A SUCCESS arrives in the register. -/
def DeliversResult (t : AttemptStep R) : Prop :=
  ∃ beyond tick copy rest, t.event = .deliver beyond tick ∧
    t.before.statuses = copy :: rest ∧ copy.status = .success

/-- The poll finds SUCCESS. -/
def ObservesResult (t : AttemptStep R) : Prop :=
  (∃ timestamp, t.event = .session .advance timestamp) ∧
  (∃ g, t.before.credential.session = some ⟨g, .waitPoll⟩) ∧
  t.before.register.faceRecognitionStatus = .success

/-- Before the poll has found it, a SUCCESS that was sent is on its way or in the register,
    and one that has arrived is in the register. -/
structure ResultStands (tr : List (AttemptStep R)) (a : Attempt R) : Prop where
  kept : (∃ t ∈ tr, SendsResult t) → (∀ t ∈ tr, ¬ ObservesResult t) →
    (∃ copy ∈ a.statuses, copy.status = .success) ∨
      a.register.faceRecognitionStatus = .success
  stays : (∃ t ∈ tr, DeliversResult t) → (∀ t ∈ tr, ¬ ObservesResult t) →
    a.register.faceRecognitionStatus = .success

/-- A START that is handled finds no FR process and goes to sleep, no START returns from
    its sleep, and an FR status is accepted. -/
def Attempt.StaysQuiet (env : Env R) (a : Attempt R) : AttemptEvent → Prop
  | .handle _ _ launches _ => a.service.fr.frProcess ≠ some .active ∧ launches = true
  | .wake _ => False
  | .frStatus packet beyond _ => ∀ d, statusReceiver packet beyond = some d →
      ∃ db m, a.service.fr.database = some db ∧
        FaceRecognition.AcceptsDatagram env a.service.fr db d m
  | .session _ _ | .frExit | .deliver _ _ => True

/-- The service stays quiet while a SUCCESS waits for the poll. -/
def Quiet (env : Env R) (pre : List (AttemptStep R)) (t : AttemptStep R) : Prop :=
  (∃ u ∈ pre, SendsResult u) → (∀ u ∈ pre, ¬ ObservesResult u) → t.before.StaysQuiet env t.event

-- ============================================================================
-- What a step sends
-- ============================================================================

variable {env : Env R} {platform : Platform} {t : AttemptStep R} {tr : List (AttemptStep R)}
  {a : Attempt R}

/-- The event of the service in an event of the attempt. -/
def Attempt.served (a : Attempt R) : AttemptEvent → Option (ServiceEvent R)
  | .handle k beyond launches _ =>
      a.starts[k]?.map fun copy => .cpRequest copy.packet beyond launches
  | .wake _ => some .cpWake
  | .frStatus packet beyond _ => some (.frStatus packet beyond)
  | .frExit => some .frExit
  | .session _ _ | .deliver _ _ => none

theorem Attempt.serve_eq {b after : Attempt R} {e : ServiceEvent R} {timestamp : UInt64}
    {sent : List Sent} (h : b.serve env e timestamp = some (after, sent)) :
    b.service.step env e = some (after.service, sent) ∧
      after.statuses = b.statuses ++ sent.filterMap (statusCopy timestamp) ∧
      after.register = b.register := by
  obtain ⟨r, hr, heq⟩ := Option.map_eq_some_iff.mp h
  cases heq
  exact ⟨hr, rfl, rfl⟩

/-- The inversion of a step: the service, the session thread, or a delivery. -/
theorem cases_of_takes (ht : (attempt env platform).Takes t) :
    (∃ e timestamp, t.before.served t.event = some e ∧
      t.before.service.step env e = some (t.after.service, t.sent) ∧
      t.after.statuses = t.before.statuses ++ t.sent.filterMap (statusCopy timestamp) ∧
      t.after.register = t.before.register) ∨
    ((∃ e timestamp, t.event = .session e timestamp) ∧ t.sent = [] ∧
      t.after.service = t.before.service ∧ t.after.statuses = t.before.statuses ∧
      t.after.register = t.before.register) ∨
    (∃ beyond tick copy, t.event = .deliver beyond tick ∧ t.sent = [] ∧
      t.after.service = t.before.service ∧ t.before.statuses = copy :: t.after.statuses ∧
      t.after.register = t.before.register.receive copy.packet beyond tick) := by
  have hstep : t.before.step env platform t.event = some (t.after, t.sent) := ht
  cases he : t.event with
  | session e timestamp =>
      rw [he, Attempt.step] at hstep
      split at hstep
      · obtain ⟨r, -, heq⟩ := Option.map_eq_some_iff.mp hstep
        have hafter : _ = t.after := congrArg Prod.fst heq
        rw [← hafter]
        exact Or.inr (Or.inl ⟨⟨e, timestamp, rfl⟩, (congrArg Prod.snd heq).symm, rfl, rfl, rfl⟩)
      · cases hstep
  | handle k beyond launches timestamp =>
      rw [he, Attempt.step] at hstep
      split at hstep
      · cases hstep
      · rename_i copy hcopy
        have hserved : t.before.served (.handle k beyond launches timestamp) =
            some (.cpRequest copy.packet beyond launches) := by
          rw [Attempt.served, hcopy]
          rfl
        obtain ⟨hservice, hstatuses, hregister⟩ := Attempt.serve_eq hstep
        exact Or.inl ⟨_, timestamp, hserved, hservice, hstatuses, hregister⟩
  | wake timestamp =>
      rw [he] at hstep
      exact Or.inl ⟨_, timestamp, rfl, Attempt.serve_eq hstep⟩
  | frStatus packet beyond timestamp =>
      rw [he] at hstep
      exact Or.inl ⟨_, timestamp, rfl, Attempt.serve_eq hstep⟩
  | frExit =>
      rw [he] at hstep
      exact Or.inl ⟨_, 0, rfl, Attempt.serve_eq hstep⟩
  | deliver beyond tick =>
      rw [he, Attempt.step] at hstep
      split at hstep
      · cases hstep
      · rename_i copy rest hstatuses
        have heq := Option.some.inj hstep
        have hafter : _ = t.after := congrArg Prod.fst heq
        rw [← hafter]
        exact Or.inr (Or.inr ⟨beyond, tick, copy, rfl, (congrArg Prod.snd heq).symm, rfl,
          hstatuses, rfl⟩)

omit [LinearOrder R] [Zero R] in
/-- A START is answered with at most one status, and not at all when it launches FR. -/
theorem sent_of_cpStart (fr : FaceRecognition R) (sessionId : UInt32) (launches : Bool) :
    (fr.cpStart sessionId launches).2.1 = [] ∨
      (¬ (fr.frProcess ≠ some .active ∧ launches = true) ∧
        ∃ m, (fr.cpStart sessionId launches).2.1 = [m] ∧
          ∃ status username, m = .status status username sessionId) := by
  have hone : ∀ (s : FaceRecognition R) (status : RecognitionStatus),
      s.sendStatus status [] sessionId = [] ∨ s.sendStatus status [] sessionId =
        [.status status [] sessionId] := by
    intro s status
    rw [FaceRecognition.sendStatus]
    split
    · exact Or.inr rfl
    · exact Or.inl rfl
  by_cases hactive : fr.frProcess = some .active
  · have hsome := (FaceRecognition.frProcess_cleanupIfDead fr).mpr hactive
    rw [FaceRecognition.cpStart, if_pos hsome]
    rcases hone { fr.cleanupIfDead with isRunning := true } .recognizing with hnone | hsent
    · exact Or.inl hnone
    · exact Or.inr ⟨fun h => h.1 hactive, _, hsent, _, _, rfl⟩
  · have hnone : ¬ fr.cleanupIfDead.frProcess.isSome = true :=
      fun h => hactive ((FaceRecognition.frProcess_cleanupIfDead fr).mp h)
    rw [FaceRecognition.cpStart, if_neg hnone]
    by_cases hlaunches : launches = true
    · rw [if_pos hlaunches]
      exact Or.inl rfl
    · rw [if_neg hlaunches]
      rcases hone fr.cleanupIfDead .recognitionError with hnone | hsent
      · exact Or.inl hnone
      · exact Or.inr ⟨fun h => hlaunches h.2, _, hsent, _, _, rfl⟩

/-- The service sends at most one status at a time, and in a quiet step it is SUCCESS. -/
theorem sent_of_served {e : ServiceEvent R} {after : ServiceState R} {sent : List Sent}
    {event : AttemptEvent} (hinit : Initialized a.service) (he : a.served event = some e)
    (h : a.service.step env e = some (after, sent)) :
    sent = [] ∨ ∃ status username sessionId, sent = [.status status username sessionId] ∧
      (a.StaysQuiet env event → status = .success) := by
  cases event with
  | session e timestamp => cases he
  | deliver beyond tick => cases he
  | handle k beyond launches timestamp =>
      obtain ⟨copy, -, rfl⟩ := Option.map_eq_some_iff.mp he
      have hr := authRequestReceiver_sendRequest .startRecognition copy.usernameHint beyond
        copy.sessionId copy.timestamp
      simp only [ServiceState.step, StartCopy.packet, hr] at h
      split at h
      · cases h
      · cases h
        rcases sent_of_cpStart (a.service.fr.receiveRequest _) copy.sessionId launches with
          hnone | ⟨hloud, m, hsent, status, username, rfl⟩
        · exact Or.inl hnone
        · exact Or.inr ⟨_, _, _, hsent, fun hquiet => absurd hquiet hloud⟩
  | wake timestamp =>
      cases he
      cases internalStep_of_step h rfl rfl with
      | cpWake => exact Or.inr ⟨_, _, _, if_pos hinit.udpSender, fun hquiet => absurd hquiet id⟩
  | frStatus packet beyond timestamp =>
      cases he
      simp only [ServiceState.step] at h
      split at h
      · cases h
        exact Or.inl rfl
      · rename_i d hd
        cases h
        refine Or.inr ⟨_, _, _, FaceRecognition.onFrStatusReceived_sent d hinit.udpSender, ?_⟩
        intro hquiet
        obtain ⟨db, m, hdb, haccepts⟩ := hquiet d hd
        obtain ⟨db', hdb', hnames⟩ := hinit.database
        rw [hdb] at hdb'
        cases hdb'
        obtain ⟨c, -, hdecided⟩ := FaceRecognition.decideResult_of_accepts hdb hnames haccepts
        rw [FaceRecognition.finalStatus, hdecided]
  | frExit =>
      cases he
      cases internalStep_of_step h rfl rfl with
      | frExit => exact Or.inl rfl

-- ============================================================================
-- The way of a result
-- ============================================================================

section Way

omit [LinearOrder R] [Zero R]

/-- Where the first SUCCESS of an attempt is. -/
inductive ResultStage (tr : List (AttemptStep R)) (a : Attempt R) : Prop where
  | unsent (hsends : ∀ u ∈ tr, ¬ SendsResult u) (hdelivers : ∀ u ∈ tr, ¬ DeliversResult u)
      (hstatuses : ∀ copy ∈ a.statuses, copy.status ≠ .success)
  | queued (hsends : ∃ u ∈ tr, SendsResult u) (hdelivers : ∀ u ∈ tr, ¬ DeliversResult u)
      (hstatuses : Queued (fun copy => copy.status = .success) a.statuses)
  | arrived (hsends : ∃ u ∈ tr, SendsResult u)
      (hstatuses : ∀ copy ∈ a.statuses, copy.status = .success)
      (hregister : a.register.faceRecognitionStatus = .success)

namespace ResultStage

/-- A step that sends and delivers nothing. -/
theorem of_silent (hstage : ResultStage tr t.before) (hsent : t.sent = [])
    (hdelivers : ¬ DeliversResult t) (hstatuses : t.after.statuses = t.before.statuses)
    (hregister : t.after.register = t.before.register) : ResultStage (tr ++ [t]) t.after := by
  have hsends : ¬ SendsResult t := by
    rintro ⟨username, sessionId, hmem⟩
    rw [hsent] at hmem
    cases hmem
  cases hstage with
  | unsent hs hd hq =>
      exact .unsent (forall_mem_snoc.mpr ⟨hs, hsends⟩) (forall_mem_snoc.mpr ⟨hd, hdelivers⟩)
        (by rw [hstatuses]; exact hq)
  | queued hs hd hq =>
      exact .queued (exists_mem_snoc hs t) (forall_mem_snoc.mpr ⟨hd, hdelivers⟩)
        (by rw [hstatuses]; exact hq)
  | arrived hs hq hr =>
      exact .arrived (exists_mem_snoc hs t) (by rw [hstatuses]; exact hq)
        (by rw [hregister]; exact hr)

/-- A step of the service that sends one status, and SUCCESS if one has been sent. -/
theorem of_sent {copy : StatusCopy} (hstage : ResultStage tr t.before)
    (hsent : t.sent = [.status copy.status copy.username copy.sessionId])
    (hdelivers : ¬ DeliversResult t) (hstatuses : t.after.statuses = t.before.statuses ++ [copy])
    (hregister : t.after.register = t.before.register)
    (hsuccess : (∃ u ∈ tr, SendsResult u) → copy.status = .success) :
    ResultStage (tr ++ [t]) t.after := by
  have hsends : SendsResult t ↔ copy.status = .success := by
    constructor
    · rintro ⟨username, sessionId, hmem⟩
      rw [hsent, List.mem_singleton, Sent.status.injEq] at hmem
      exact hmem.1.symm
    · intro heq
      rw [SendsResult, hsent, heq]
      exact ⟨_, _, List.mem_singleton_self _⟩
  cases hstage with
  | unsent hs hd hq =>
      by_cases hnew : copy.status = .success
      · exact .queued ⟨t, by simp, hsends.mpr hnew⟩ (forall_mem_snoc.mpr ⟨hd, hdelivers⟩)
          (by rw [hstatuses]; exact queued_of_snoc hq hnew)
      · exact .unsent (forall_mem_snoc.mpr ⟨hs, fun h => hnew (hsends.mp h)⟩)
          (forall_mem_snoc.mpr ⟨hd, hdelivers⟩)
          (by rw [hstatuses]; exact forall_mem_snoc.mpr ⟨hq, hnew⟩)
  | queued hs hd hq =>
      exact .queued (exists_mem_snoc hs t) (forall_mem_snoc.mpr ⟨hd, hdelivers⟩)
        (by rw [hstatuses]; exact hq.snoc (hsuccess hs))
  | arrived hs hq hr =>
      exact .arrived (exists_mem_snoc hs t)
        (by rw [hstatuses]; exact forall_mem_snoc.mpr ⟨hq, hsuccess hs⟩)
        (by rw [hregister]; exact hr)

/-- The arrival of the oldest status. -/
theorem of_deliver {copy : StatusCopy} {beyond : Bytes} {tick : Nat}
    (hstage : ResultStage tr t.before) (hsent : t.sent = [])
    (hstatuses : t.before.statuses = copy :: t.after.statuses)
    (hregister : t.after.register = t.before.register.receive copy.packet beyond tick) :
    ResultStage (tr ++ [t]) t.after := by
  have hstatus : t.after.register.faceRecognitionStatus = copy.status := by
    rw [hregister, StatusRegister.receive, if_neg (by simp [StatusCopy.packet, statusPacket])]
    exact RecognitionStatus.ofCode_code copy.status
  have hsends : ¬ SendsResult t := by
    rintro ⟨username, sessionId, hmem⟩
    rw [hsent] at hmem
    cases hmem
  have hdelivers : copy.status ≠ .success → ¬ DeliversResult t := by
    rintro hne ⟨_, _, copy', rest, -, hhead, hsuccess⟩
    rw [hstatuses] at hhead
    cases hhead
    exact hne hsuccess
  cases hstage with
  | unsent hs hd hq =>
      rw [hstatuses] at hq
      have hne : copy.status ≠ .success := hq copy List.mem_cons_self
      exact .unsent (forall_mem_snoc.mpr ⟨hs, hsends⟩) (forall_mem_snoc.mpr ⟨hd, hdelivers hne⟩)
        fun c hc => hq c (List.mem_cons_of_mem _ hc)
  | queued hs hd hq =>
      rw [hstatuses] at hq
      rcases hq.tail with ⟨hne, hq'⟩ | ⟨heq, hall⟩
      · exact .queued (exists_mem_snoc hs t) (forall_mem_snoc.mpr ⟨hd, hdelivers hne⟩) hq'
      · exact .arrived (exists_mem_snoc hs t) hall (hstatus.trans heq)
  | arrived hs hq hr =>
      rw [hstatuses] at hq
      exact .arrived (exists_mem_snoc hs t) (fun c hc => hq c (List.mem_cons_of_mem _ hc))
        (hstatus.trans (hq copy List.mem_cons_self))

end ResultStage

end Way

-- ============================================================================
-- Steps and runs
-- ============================================================================

theorem initialized_of_attempt (hinit : Initialized t.before.service)
    (ht : (attempt env platform).Takes t) : Initialized t.after.service := by
  rcases cases_of_takes ht with ⟨e, timestamp, -, hstep, -, -⟩ | ⟨-, -, hservice, -⟩ |
    ⟨_, _, _, -, -, hservice, -⟩
  · exact initialized_of_takes (t := ⟨t.before.service, e, t.sent, t.after.service⟩) hinit hstep
  · rw [hservice]
    exact hinit
  · rw [hservice]
    exact hinit

/-- A quiet step leads from stage to stage. -/
theorem resultStage_of_takes (hinit : Initialized t.before.service)
    (hstage : ResultStage tr t.before) (ht : (attempt env platform).Takes t)
    (hquiet : (∃ u ∈ tr, SendsResult u) → t.before.StaysQuiet env t.event) :
    ResultStage (tr ++ [t]) t.after := by
  rcases cases_of_takes ht with ⟨e, timestamp, he, hstep, hstatuses, hregister⟩ |
    ⟨⟨e, timestamp, he⟩, hsent, -, hstatuses, hregister⟩ |
    ⟨beyond, tick, copy, -, hsent, -, hstatuses, hregister⟩
  · have hdelivers : ¬ DeliversResult t := by
      rintro ⟨beyond, tick, -, -, hevent, -, -⟩
      rw [hevent] at he
      cases he
    rcases sent_of_served hinit he hstep with
      hnone | ⟨status, username, sessionId, hsent, hsuccess⟩
    · exact hstage.of_silent hnone hdelivers (by simpa [hnone] using hstatuses) hregister
    · have hqueue : t.after.statuses =
          t.before.statuses ++ [⟨status, username, sessionId, timestamp⟩] := by
        rw [hstatuses, hsent]
        rfl
      exact hstage.of_sent hsent hdelivers hqueue hregister fun hpending =>
        hsuccess (hquiet hpending)
  · refine hstage.of_silent hsent ?_ hstatuses hregister
    rintro ⟨beyond, tick, -, -, hevent, -, -⟩
    rw [hevent] at he
    cases he
  · exact hstage.of_deliver hsent hstatuses hregister

omit [LinearOrder R] [Zero R] in
theorem resultStands_of_stage (h : (∀ u ∈ tr, ¬ ObservesResult u) → ResultStage tr a) :
    ResultStands tr a where
  kept := by
    rintro ⟨u, hu, hsends⟩ hobserves
    cases h hobserves with
    | unsent hs _ _ => exact absurd hsends (hs u hu)
    | queued _ _ hq => exact Or.inl hq.exists_mem
    | arrived _ _ hr => exact Or.inr hr
  stays := by
    rintro ⟨u, hu, hdelivers⟩ hobserves
    cases h hobserves with
    | unsent _ hd _ => exact absurd hdelivers (hd u hu)
    | queued _ hd _ => exact absurd hdelivers (hd u hu)
    | arrived _ _ hr => exact hr

/-- As long as the service stays quiet after SUCCESS, no START copy and no later status
    takes the result away from the poll. -/
theorem resultStands_of_quiet (h : (attempt env platform).Run tr a) (hC : Always (Quiet env) tr) :
    ResultStands tr a := by
  refine resultStands_of_stage (h.invariant_under (P := fun tr a => Initialized a.service ∧
    ((∀ u ∈ tr, ¬ ObservesResult u) → ResultStage tr a)) ?_ ?_ hC).2
  · rintro a₀ ⟨⟨_, hservice⟩, -, hstatuses, -, -⟩
    exact ⟨initialized_of_run hservice, fun _ => .unsent (by simp) (by simp) (by simp [hstatuses])⟩
  · rintro pre t ⟨hinit, hstage⟩ ht hquiet
    refine ⟨initialized_of_attempt hinit ht, fun hobserves => ?_⟩
    obtain ⟨hbefore, -⟩ := forall_mem_snoc.mp hobserves
    exact resultStage_of_takes hinit (hstage hbefore) ht fun hpending => hquiet hpending hbefore

/-- A session about to send its first START to a fresh service. -/
def exampleAttempt : Attempt Nat where
  service := exampleStart
  starts := []
  statuses := []
  register := .initial
  credential := { Credential.afterInitialize .logon none with
    serviceGeneration := 1, faceRecognitionRunning := true, ownsProcess := true,
    session := some ⟨1, .starting (AuthSend.initial [])⟩ }

/-- FR reports the face of "b". -/
def exampleFace : AttemptEvent :=
  .frStatus (statusPacket .success [] 0 (utf8 "fb") (by decide) 0) [] 0

theorem exampleAttempt_run :
    (attempt FaceRecognition.exampleEnv examplePlatform).Run [] exampleAttempt :=
  .nil ⟨⟨[], exampleStart_run⟩, rfl, rfl, rfl, 1, [], rfl⟩

/-- One START, its launch, the result, and the arrival of both statuses. -/
theorem resultStands_oneStart : ∃ tr a,
    (attempt FaceRecognition.exampleEnv examplePlatform).Run tr a ∧
    a.register.faceRecognitionStatus = .success ∧ ResultStands tr a := by
  have h1 := exampleAttempt_run.event (e := .session (.auth (.send true 1)) 0) rfl
  have h2 := h1.event (e := .handle 0 [] true 0) rfl
  have h3 := h2.event (e := .wake 0) rfl
  have h4 := h3.event (e := .deliver [] 1) rfl
  have h5 := h4.event (e := exampleFace) rfl
  have h6 := h5.event (e := .deliver [] 2) rfl
  refine ⟨_, _, h6, rfl, resultStands_of_quiet h6 ?_⟩
  refine always_snoc.mpr ⟨?_, fun _ _ => trivial⟩
  refine always_snoc.mpr ⟨?_, ?_⟩
  · refine always_snoc.mpr ⟨?_, fun _ _ => trivial⟩
    refine always_snoc.mpr ⟨?_, ?_⟩
    · exact always_snoc.mpr ⟨always_snoc.mpr ⟨always_nil, fun _ _ => trivial⟩,
        fun _ _ => ⟨by decide, rfl⟩⟩
    · -- the launch returns before any result
      rintro ⟨u, hu, username, sessionId, hmem⟩
      simp only [List.nil_append, List.cons_append, List.mem_cons, List.not_mem_nil, or_false] at hu
      rcases hu with rfl | rfl
      · cases hmem
      · cases hmem
  · rintro ⟨u, hu, username, sessionId, hmem⟩
    simp only [List.nil_append, List.cons_append, List.mem_cons, List.not_mem_nil, or_false] at hu
    rcases hu with rfl | rfl | rfl | rfl
    · cases hmem
    · cases hmem
    · cases hmem with
      | tail _ hmem => cases hmem
    · cases hmem

/-- CP sends START twice; the second copy is handled after the result, and its
    RECOGNIZING replaces the SUCCESS that no poll has seen. -/
theorem resultStands_fails : ¬ ∀ (tr : List (AttemptStep Nat)) (a : Attempt Nat),
    (attempt FaceRecognition.exampleEnv examplePlatform).Run tr a → ResultStands tr a := by
  intro hall
  have h1 := exampleAttempt_run.event (e := .session (.auth (.send true 1)) 0) rfl
  have h2 := h1.event (e := .handle 0 [] true 0) rfl
  have h3 := h2.event (e := .session (.auth .timeout) 0) rfl
  have h4 := h3.event (e := .session (.auth (.send true 2)) 0) rfl
  have h5 := h4.event (e := .wake 0) rfl
  have h6 := h5.event (e := .deliver [] 1) rfl
  have h7 := h6.event (e := .session (.auth .acknowledged) 0) rfl
  have h8 := h7.event (e := exampleFace) rfl
  have h9 := h8.event (e := .handle 0 [] true 0) rfl
  have h10 := h9.event (e := .deliver [] 2) rfl
  have h11 := h10.event (e := .deliver [] 3) rfl
  have hstays := (hall _ _ h11).stays ⟨_, List.mem_append_left _ (List.mem_append_right _
    (List.mem_singleton_self _)), [], 2, _, _, rfl, rfl, rfl⟩ ?_
  · cases hstays
  · rintro u hu ⟨⟨timestamp, he⟩, ⟨g, hpoll⟩, -⟩
    simp only [List.nil_append, List.cons_append, List.mem_cons, List.not_mem_nil, or_false] at hu
    rcases hu with rfl | rfl | rfl | rfl | rfl | rfl | rfl | rfl | rfl | rfl | rfl
    all_goals cases he

end Smile2Unlock.SignIn
