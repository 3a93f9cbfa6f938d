/-
  Smile2Unlock.Service.Runtime

  The service with its idle timer (modules/service_runtime.cppm): every event has the
  value of `GetTickCount64` at which it happens, and the passes of `idle_loop` are
  events of their own.

  `g_last_activity_tick` is the time of the newest message (`lastActivityTick_eq`), so
  the service outlives a recognition exactly when some message comes at least once a
  minute while it runs (`stopsWhenIdle_iff`).
-/

import Smile2Unlock.Service.Guarantees

namespace Smile2Unlock.Service

open Smile2Unlock Lib Machine FaceRecognition

/-- `kServiceInactivityTimeoutMs`. -/
def kServiceInactivityTimeoutMs : Nat := 60000

/-- The service process: the recognition manager, `g_last_activity_tick` and
    `running_` of `ServiceRuntime`. -/
structure Runtime (R : Type) where
  service : ServiceState R
  /-- `GetTickCount64` at the newest event. -/
  tickCount : Nat
  lastActivityTick : Nat
  running : Bool

/-- An event of the recognition manager, a request that `GuiIpcRequestHandler::handle`
    gets, or a pass of `idle_loop`. -/
inductive RuntimeEvent (R : Type) where
  | service (e : ServiceEvent R)
  | guiRequest
  | idlePass

structure TimedEvent (R : Type) where
  now : Nat
  event : RuntimeEvent R

inductive RuntimeOutput where
  | sent (m : Sent)
  | stop
deriving DecidableEq

abbrev RuntimeStep (R : Type) := Transition (Runtime R) (TimedEvent R) RuntimeOutput

variable {R : Type}

/-- The events whose handler begins with `NotifyServiceActivity`. -/
def RuntimeEvent.notifies : RuntimeEvent R → Bool
  | .service e => e.request.isSome || e.delivery.isSome
  | .guiRequest => true
  | .idlePass => false

/-- `NotifyServiceActivity` and the passing of time. -/
def Runtime.notify (s : Runtime R) (e : TimedEvent R) : Runtime R :=
  { s with
    tickCount := e.now
    lastActivityTick := if e.event.notifies then e.now else s.lastActivityTick }

/-- The condition of `idle_loop`. -/
def inactive (lastActivity now : Nat) : Bool :=
  lastActivity ≠ 0 ∧ lastActivity ≤ now ∧ kServiceInactivityTimeoutMs ≤ now - lastActivity

/-- `Stop`. -/
def Runtime.stop (s : Runtime R) : Runtime R := { s with running := false }

/-- One event.  Time does not run backwards, and `idle_loop` ends with `running_`. -/
def Runtime.step [LinearOrder R] [Zero R] (env : Env R) (s : Runtime R) (e : TimedEvent R) :
    Option (Runtime R × List RuntimeOutput) :=
  if e.now < s.tickCount then none
  else
    match e.event with
    | .service event =>
        match s.service.step env event with
        | none => none
        | some (after, sent) => some ({ s.notify e with service := after }, sent.map .sent)
    | .guiRequest => some (s.notify e, [])
    | .idlePass =>
        if ¬ s.running then none
        else if inactive s.lastActivityTick e.now then some ((s.notify e).stop, [.stop])
        else some (s.notify e, [])

/-- The service process from the constructor of `ServiceRuntime`; the recognition
    manager runs already. -/
def runtime [LinearOrder R] [Zero R] (env : Env R) :
    Machine (Runtime R) (TimedEvent R) RuntimeOutput where
  init s := (∃ tr, (service env).Run tr s.service) ∧ s.lastActivityTick = s.tickCount ∧
    s.running = true
  step s e := s.step env e

-- ============================================================================
-- g_last_activity_tick
-- ============================================================================

/-- The time of a message. -/
def messageTick (t : RuntimeStep R) : Option Nat :=
  if t.event.event.notifies then some t.event.now else none

/-- The time of the newest message, or of the start. -/
def lastHeard (start : Nat) (tr : List (RuntimeStep R)) : Nat :=
  (newest messageTick tr).getD start

theorem lastHeard_snoc (start : Nat) (tr : List (RuntimeStep R)) (t : RuntimeStep R) :
    lastHeard start (tr ++ [t]) =
      if t.event.event.notifies then t.event.now else lastHeard start tr := by
  rw [lastHeard, newest_snoc, messageTick]
  split <;> rfl

variable [LinearOrder R] [Zero R] {env : Env R} {t : RuntimeStep R}
  {tr : List (RuntimeStep R)} {s₀ s : Runtime R}

/-- The inversion of a step: an event of the service, a request, or a pass of `idle_loop`
    that stops the runtime or does not. -/
theorem cases_of_runtimeStep (ht : (runtime env).Takes t) :
    (∃ (e : ServiceEvent R) (after : ServiceState R) (sent : List Sent),
      t.event.event = .service e ∧ t.after = { t.before.notify t.event with service := after } ∧ t.sent = sent.map .sent) ∨
    (t.event.event = .guiRequest ∧ t.after = t.before.notify t.event ∧ t.sent = []) ∨
    (t.event.event = .idlePass ∧ inactive t.before.lastActivityTick t.event.now = true ∧
      t.after = (t.before.notify t.event).stop ∧ t.sent = [.stop]) ∨
    (t.event.event = .idlePass ∧ inactive t.before.lastActivityTick t.event.now = false ∧
      t.after = t.before.notify t.event ∧ t.sent = []) := by
  obtain ⟨before, ⟨now, event⟩, sent, after⟩ := t
  simp only [Takes, runtime, Runtime.step] at ht
  split at ht
  · cases ht
  · cases event with
    | service e =>
        dsimp only at ht
        split at ht
        · cases ht
        · cases ht
          exact .inl ⟨e, _, _, rfl, rfl, rfl⟩
    | guiRequest =>
        cases ht
        exact .inr (.inl ⟨rfl, rfl, rfl⟩)
    | idlePass =>
        dsimp only at ht
        split at ht
        · cases ht
        · split at ht
          · rename_i hinactive
            cases ht
            exact .inr (.inr (.inl ⟨rfl, hinactive, rfl, rfl⟩))
          · rename_i hactive
            cases ht
            exact .inr (.inr (.inr ⟨rfl, Bool.eq_false_of_not_eq_true hactive, rfl, rfl⟩))

theorem lastActivityTick_of_takes (ht : (runtime env).Takes t) :
    t.after.lastActivityTick =
      if t.event.event.notifies then t.event.now else t.before.lastActivityTick := by
  rcases cases_of_runtimeStep ht with ⟨_, _, _, -, hafter, -⟩ | ⟨-, hafter, -⟩ |
    ⟨-, -, hafter, -⟩ | ⟨-, -, hafter, -⟩
  all_goals rw [hafter]
  all_goals rfl

theorem lastActivityTick_eq (hi : (runtime env).init s₀) (h : Steps (runtime env) s₀ tr s) :
    s.lastActivityTick = lastHeard s₀.tickCount tr := by
  induction h with
  | nil => exact hi.2.1
  | snoc _ ht ih => rw [lastActivityTick_of_takes ht, lastHeard_snoc, ih]

-- ============================================================================
-- Stop
-- ============================================================================

theorem inactive_iff (lastActivity now : Nat) :
    inactive lastActivity now = true ↔
      lastActivity ≠ 0 ∧ lastActivity + kServiceInactivityTimeoutMs ≤ now := by
  rw [inactive, decide_eq_true_iff, kServiceInactivityTimeoutMs]
  omega

/-- `Stop` is called by a pass of `idle_loop` after a minute without a message. -/
theorem stop_mem_iff (ht : (runtime env).Takes t) :
    .stop ∈ t.sent ↔
      t.event.event = .idlePass ∧ inactive t.before.lastActivityTick t.event.now = true := by
  rcases cases_of_runtimeStep ht with ⟨_, _, _, hevent, -, hsent⟩ | ⟨hevent, -, hsent⟩ |
    ⟨hevent, hinactive, -, hsent⟩ | ⟨hevent, hactive, -, hsent⟩
  · simp [hevent, hsent]
  · simp [hevent, hsent]
  · simp [hevent, hinactive, hsent]
  · simp [hevent, hactive, hsent]

/-- `Stop` is called only while no recognition is in progress. -/
def StopsWhenIdle (t : RuntimeStep R) : Prop :=
  .stop ∈ t.sent → t.before.service.fr.isRunning = false

/-- A pass of `idle_loop` during a recognition comes within a minute of the newest
    message. -/
def HeardWhileRunning (start : Nat) (pre : List (RuntimeStep R)) (t : RuntimeStep R) : Prop :=
  t.event.event = .idlePass → t.before.service.fr.isRunning = true →
    lastHeard start pre = 0 ∨ t.event.now < lastHeard start pre + kServiceInactivityTimeoutMs

/-- A schedule in which the service is never stopped under a recognition is one with a
    message within each minute of a recognition. -/
theorem stopsWhenIdle_iff (hi : (runtime env).init s₀) (h : Steps (runtime env) s₀ tr s) :
    Always (fun _ t => StopsWhenIdle t) tr ↔ Always (HeardWhileRunning s₀.tickCount) tr := by
  refine Always.congr fun pre t post heq => ?_
  obtain ⟨hpre, ht⟩ := h.cut pre t post heq
  have hlast := lastActivityTick_eq hi hpre
  rw [StopsWhenIdle, stop_mem_iff ht, hlast, inactive_iff, HeardWhileRunning]
  constructor
  · intro hstops hpass hrun
    by_contra hsilent
    have hidle := hstops ⟨hpass, by omega⟩
    rw [hrun] at hidle
    cases hidle
  · rintro hheard ⟨hpass, hsilent⟩
    rw [← Bool.not_eq_true]
    intro hrun
    have hrecent := hheard hpass hrun
    omega

/-- The example service when the idle timer starts, 1000 ms after the boot. -/
def exampleRuntime : Runtime Nat where
  service := exampleStart
  tickCount := 1000
  lastActivityTick := 1000
  running := true

theorem exampleRuntime_init : (runtime exampleEnv).init exampleRuntime :=
  ⟨⟨[], exampleStart_run⟩, rfl, rfl⟩

/-- A recognition of 40 s, a QUERY in its middle, and a pass of the idle timer. -/
theorem stopsWhenIdle_queried : ∃ tr s, Steps (runtime exampleEnv) exampleRuntime tr s ∧ tr ≠ [] ∧
    (Always (fun _ t => StopsWhenIdle t) tr ↔
      Always (HeardWhileRunning exampleRuntime.tickCount) tr) := by
  have h0 : Steps (runtime exampleEnv) exampleRuntime [] exampleRuntime := .nil
  have h1 := h0.event (e := ⟨2000, .service (exampleRequest .startRecognition [] 1)⟩) rfl
  have h2 := h1.event (e := ⟨3500, .service .cpWake⟩) rfl
  have h3 := h2.event (e := ⟨40000, .service (exampleRequest .queryStatus [] 1)⟩) rfl
  have h4 := h3.event (e := ⟨62000, .idlePass⟩) rfl
  exact ⟨_, _, h4, by simp, stopsWhenIdle_iff exampleRuntime_init h4⟩

/-- START, and then nothing for a minute: the recognizer sees frames without a face and
    sends nothing, and the service stops under it. -/
theorem stopsWhenIdle_fails :
    ¬ ∀ s₀ tr s, (runtime exampleEnv).init s₀ → Steps (runtime exampleEnv) s₀ tr s →
      Always (fun _ t => StopsWhenIdle t) tr := by
  intro hall
  have h0 : Steps (runtime exampleEnv) exampleRuntime [] exampleRuntime := .nil
  have h1 := h0.event (e := ⟨2000, .service (exampleRequest .startRecognition [] 1)⟩) rfl
  have h2 := h1.event (e := ⟨3500, .service .cpWake⟩) rfl
  have h3 := h2.event (e := ⟨4000, .service (exampleStatus .recognizing [])⟩) rfl
  have h4 := h3.event (e := ⟨64000, .idlePass⟩) rfl
  have hlast := (always_snoc.mp (hall _ _ _ exampleRuntime_init h4)).2
  have hidle := hlast (List.mem_singleton.mpr rfl)
  cases hidle

end Smile2Unlock.Service
