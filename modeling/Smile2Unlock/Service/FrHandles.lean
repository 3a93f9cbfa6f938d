/-
  Smile2Unlock.Service.FrHandles

  The handles of the recognizer process in `FaceRecognition`
  (modules/face_recognition.cppm): the fields that hold them, and the calls with
  which `start_fr_process`, `stop_fr_process` and `cleanup_fr_process_handles`
  obtain and close them.

  Each function returns the fields and its calls in order.  The write ends of the
  two pipes live in locals and are closed before `start_fr_process` returns.  A
  `CreatePipe` or `CreateProcess` that fails leaves its out parameters alone.
  `fr_process_` is a copy of `hProcess` that is tested and never closed; it is the
  `frProcess` of the other modules.

  `Outcome` lists how a start can end, and what is said of a start is read off it.
  `Kept.exec` is what a call of one of the three functions preserves, and
  `Kept.execAll` what any sequence of them does.
-/

import Smile2Unlock.Lib.Handles

namespace Smile2Unlock.Service

open Smile2Unlock Lib HandleCall HandleVar

variable {η : Type _}

/-- The handle fields.  `hProcess` and `hThread` are those of `fr_process_info_`. -/
structure FrHandles (η : Type _) where
  hProcess : HandleVar η
  hThread : HandleVar η
  recognitionResultMapping : HandleVar η
  frStdoutRead : HandleVar η
  frStderrRead : HandleVar η
deriving DecidableEq

/-- What the system does in one `start_fr_process`: whether FaceRecognizer.exe is
    there, the read and the write end of the pipes it creates, and the handles of
    the process and of its thread. -/
structure StartIo (η : Type _) where
  frExeExists : Bool
  stdoutPipe : Option (η × η)
  stderrPipe : Option (η × η)
  process : Option (η × η)
deriving DecidableEq

namespace StartIo

def createsStdoutPipe (io : StartIo η) : Bool := io.frExeExists && io.stdoutPipe.isSome

def createsBothPipes (io : StartIo η) : Bool := io.createsStdoutPipe && io.stderrPipe.isSome

/-- What `start_fr_process` returns. -/
def launches (io : StartIo η) : Bool := io.createsBothPipes && io.process.isSome

theorem createsBothPipes_of_launches {io : StartIo η} (h : io.launches = true) :
    io.createsBothPipes = true :=
  (Bool.and_eq_true_iff.mp h).1

theorem createsStdoutPipe_of_both {io : StartIo η} (h : io.createsBothPipes = true) :
    io.createsStdoutPipe = true :=
  (Bool.and_eq_true_iff.mp h).1

theorem not_both_of_noStdoutPipe {io : StartIo η} (h : io.createsStdoutPipe = false) :
    io.createsBothPipes = false := by
  rw [createsBothPipes, h, Bool.false_and]

theorem not_launches_of_not_both {io : StartIo η} (h : io.createsBothPipes = false) :
    io.launches = false := by
  rw [launches, h, Bool.false_and]

end StartIo

namespace FrHandles

/-- The constructor has no initializer for `fr_process_info_`. -/
def constructed : FrHandles η where
  hProcess := .unset
  hThread := .unset
  recognitionResultMapping := .null
  frStdoutRead := .null
  frStderrRead := .null

/-- `start_fr_process`. -/
def startFrProcess (f : FrHandles η) (io : StartIo η) : FrHandles η × List (HandleCall η) :=
  if ¬ io.frExeExists then (f, [])
  else
    match io.stdoutPipe with
    | none => (f, [])
    | some (stdoutRead, hStdoutWrite) =>
        let f := { f with frStdoutRead := .handle stdoutRead }
        match io.stderrPipe with
        | none =>
            (f, [.obtained stdoutRead, .obtained hStdoutWrite, .closed hStdoutWrite])
        | some (stderrRead, hStderrWrite) =>
            -- the memset of `fr_process_info_` stands after both pipes
            let f := { f with
              frStderrRead := .handle stderrRead, hProcess := .null, hThread := .null }
            match io.process with
            | none =>
                (f, [.obtained stdoutRead, .obtained hStdoutWrite,
                  .obtained stderrRead, .obtained hStderrWrite,
                  .closed hStdoutWrite, .closed hStderrWrite])
            | some (hProcess, hThread) =>
                ({ f with hProcess := .handle hProcess, hThread := .handle hThread },
                  [.obtained stdoutRead, .obtained hStdoutWrite,
                    .obtained stderrRead, .obtained hStderrWrite,
                    .obtained hProcess, .obtained hThread,
                    .closed hStdoutWrite, .closed hStderrWrite])

/-- The fields in the order in which they are closed. -/
def vars (f : FrHandles η) : List (HandleVar η) :=
  [f.hProcess, f.hThread, f.recognitionResultMapping, f.frStdoutRead, f.frStderrRead]

/-- `cleanup_fr_process_handles`: every field is tested, closed and set to null. -/
def cleanupFrProcessHandles (f : FrHandles η) : FrHandles η × List (HandleCall η) :=
  ({ hProcess := .null, hThread := .null, recognitionResultMapping := .null,
     frStdoutRead := .null, frStderrRead := .null },
    closeAll f.vars)

/-- `stop_fr_process` notifies and terminates, and closes nothing else itself. -/
def stopFrProcess (f : FrHandles η) : FrHandles η × List (HandleCall η) :=
  f.cleanupFrProcessHandles

end FrHandles

/-- A call of one of the three functions. -/
inductive FrOp (η : Type _) where
  | start (io : StartIo η)
  | stop
  | cleanup
deriving DecidableEq

namespace FrHandles

def exec (f : FrHandles η) : FrOp η → FrHandles η × List (HandleCall η)
  | .start io => f.startFrProcess io
  | .stop => f.stopFrProcess
  | .cleanup => f.cleanupFrProcessHandles

def execAll (f : FrHandles η) : List (FrOp η) → FrHandles η × List (HandleCall η)
  | [] => (f, [])
  | op :: ops =>
      let (f, calls) := f.exec op
      let (f, calls') := f.execAll ops
      (f, calls ++ calls')

/-- `fr_process_info_` has been written. -/
def InfoWritten (f : FrHandles η) : Prop := f.hProcess ≠ .unset ∧ f.hThread ≠ .unset

-- ============================================================================
-- The outcomes of a start
-- ============================================================================

/-- The fields and the calls after a start, by how far it got. -/
inductive Outcome (f : FrHandles η) (io : StartIo η) :
    FrHandles η → List (HandleCall η) → Prop where
  | noStdoutPipe (hpipe : io.createsStdoutPipe = false) : Outcome f io f []
  | noStderrPipe (hpipe : io.createsStdoutPipe = true) (hboth : io.createsBothPipes = false)
      (stdoutRead hStdoutWrite : η) :
      Outcome f io { f with frStdoutRead := .handle stdoutRead }
        [.obtained stdoutRead, .obtained hStdoutWrite, .closed hStdoutWrite]
  | noProcess (hboth : io.createsBothPipes = true) (hlaunches : io.launches = false)
      (stdoutRead hStdoutWrite stderrRead hStderrWrite : η) :
      Outcome f io
        { f with
          hProcess := .null, hThread := .null
          frStdoutRead := .handle stdoutRead, frStderrRead := .handle stderrRead }
        [.obtained stdoutRead, .obtained hStdoutWrite, .obtained stderrRead,
          .obtained hStderrWrite, .closed hStdoutWrite, .closed hStderrWrite]
  | launched (hlaunches : io.launches = true)
      (stdoutRead hStdoutWrite stderrRead hStderrWrite hProcess hThread : η) :
      Outcome f io
        { f with
          hProcess := .handle hProcess, hThread := .handle hThread
          frStdoutRead := .handle stdoutRead, frStderrRead := .handle stderrRead }
        [.obtained stdoutRead, .obtained hStdoutWrite, .obtained stderrRead,
          .obtained hStderrWrite, .obtained hProcess, .obtained hThread,
          .closed hStdoutWrite, .closed hStderrWrite]

theorem outcome_startFrProcess (f : FrHandles η) (io : StartIo η) :
    Outcome f io (f.startFrProcess io).1 (f.startFrProcess io).2 := by
  obtain ⟨frExeExists, stdoutPipe, stderrPipe, process⟩ := io
  cases frExeExists with
  | false => exact .noStdoutPipe rfl
  | true =>
      rcases stdoutPipe with _ | ⟨stdoutRead, hStdoutWrite⟩
      · exact .noStdoutPipe rfl
      · rcases stderrPipe with _ | ⟨stderrRead, hStderrWrite⟩
        · exact .noStderrPipe rfl rfl stdoutRead hStdoutWrite
        · rcases process with _ | ⟨hProcess, hThread⟩
          · exact .noProcess rfl rfl stdoutRead hStdoutWrite stderrRead hStderrWrite
          · exact .launched rfl stdoutRead hStdoutWrite stderrRead hStderrWrite hProcess hThread

section Outcome

variable {f f' : FrHandles η} {io : StartIo η} {calls : List (HandleCall η)}

theorem Outcome.unchanged (ho : Outcome f io f' calls) (hpipe : io.createsStdoutPipe = false) :
    f' = f ∧ calls = [] := by
  have hboth := StartIo.not_both_of_noStdoutPipe hpipe
  cases ho with
  | noStdoutPipe => exact ⟨rfl, rfl⟩
  | noStderrPipe hnot => exact absurd (hpipe.symm.trans hnot) nofun
  | noProcess hnot => exact absurd (hboth.symm.trans hnot) nofun
  | launched hlaunches =>
      have hnot := StartIo.createsBothPipes_of_launches hlaunches
      exact absurd (hboth.symm.trans hnot) nofun

/-- A start writes `fr_process_info_` once it has both pipes. -/
theorem Outcome.infoWritten (ho : Outcome f io f' calls) :
    f'.InfoWritten ↔ io.createsBothPipes = true ∨ f.InfoWritten := by
  cases ho with
  | noStdoutPipe hpipe => simp [StartIo.not_both_of_noStdoutPipe hpipe]
  | noStderrPipe _ hboth => simp [InfoWritten, hboth]
  | noProcess hboth => simp [InfoWritten, hboth]
  | launched hlaunches =>
      simp [InfoWritten, StartIo.createsBothPipes_of_launches hlaunches]

theorem Outcome.frStdoutRead (ho : Outcome f io f' calls) :
    f'.frStdoutRead = .null ↔ io.createsStdoutPipe = false ∧ f.frStdoutRead = .null := by
  cases ho with
  | noStdoutPipe hpipe => simp [hpipe]
  | noStderrPipe hpipe => simp [hpipe]
  | noProcess hboth => simp [StartIo.createsStdoutPipe_of_both hboth]
  | launched hlaunches =>
      have hboth := StartIo.createsBothPipes_of_launches hlaunches
      simp [StartIo.createsStdoutPipe_of_both hboth]

/-- With empty fields, what a start obtains is in the fields afterwards or closed
    again. -/
theorem Outcome.obtains (ho : Outcome f io f' calls) (hempty : heldAll f.vars = []) :
    ∃ got temps : List η, calls = got.map .obtained ++ temps.map .closed ∧
      got.Perm (heldAll f'.vars ++ temps) := by
  simp only [vars, heldAll_cons, heldAll_nil, List.append_eq_nil_iff] at hempty ⊢
  obtain ⟨hprocess, hthread, hmapping, hstdout, hstderr, -⟩ := hempty
  cases ho with
  | noStdoutPipe => exact ⟨[], [], rfl, by simp [*]⟩
  | noStderrPipe _ _ stdoutRead hStdoutWrite =>
      exact ⟨[stdoutRead, hStdoutWrite], [hStdoutWrite], rfl, by simp [*]⟩
  | noProcess _ _ stdoutRead hStdoutWrite stderrRead hStderrWrite =>
      refine ⟨[stdoutRead, hStdoutWrite, stderrRead, hStderrWrite],
        [hStdoutWrite, hStderrWrite], rfl, ?_⟩
      rw [hmapping]
      exact .cons stdoutRead (.swap stderrRead hStdoutWrite [hStderrWrite])
  | launched _ stdoutRead hStdoutWrite stderrRead hStderrWrite hProcess hThread =>
      refine ⟨[stdoutRead, hStdoutWrite, stderrRead, hStderrWrite, hProcess, hThread],
        [hStdoutWrite, hStderrWrite], rfl, ?_⟩
      have hlast : ([stdoutRead, hStdoutWrite, stderrRead, hStderrWrite] ++
          [hProcess, hThread]).Perm ([hProcess, hThread] ++
          [stdoutRead, hStdoutWrite, stderrRead, hStderrWrite]) := List.perm_append_comm
      rw [hmapping]
      refine hlast.trans (.cons hProcess (.cons hThread ?_))
      exact .cons stdoutRead (.swap stderrRead hStdoutWrite [hStderrWrite])

end Outcome

-- ============================================================================
-- What the functions write
-- ============================================================================

@[simp] theorem infoWritten_cleanup (f : FrHandles η) :
    f.cleanupFrProcessHandles.1.InfoWritten := by
  simp [InfoWritten, cleanupFrProcessHandles]

theorem InfoWritten.exec {f : FrHandles η} (h : f.InfoWritten) (op : FrOp η) :
    (f.exec op).1.InfoWritten := by
  cases op with
  | start io => exact (outcome_startFrProcess f io).infoWritten.mpr (Or.inr h)
  | stop => exact infoWritten_cleanup f
  | cleanup => exact infoWritten_cleanup f

theorem InfoWritten.execAll {f : FrHandles η} (h : f.InfoWritten) (ops : List (FrOp η)) :
    (f.execAll ops).1.InfoWritten := by
  induction ops generalizing f with
  | nil => exact h
  | cons op ops ih => exact ih (h.exec op)

-- ============================================================================
-- What the functions keep
-- ============================================================================

/-- Which fields may hold what.  `process` is whether `fr_process_` is set: without it
    `fr_process_info_` holds nothing, and with it there is a read end of stdout. -/
structure Tidy (process : Bool) (f : FrHandles η) : Prop where
  noProcess : process = false → f.hProcess.held = [] ∧ f.hThread.held = []
  mapping : f.recognitionResultMapping = .null
  stdoutRead : f.frStdoutRead ≠ .unset
  stderrRead : f.frStderrRead ≠ .unset
  stdoutNull : f.frStdoutRead = .null → process = false ∧ f.frStderrRead = .null

/-- Without a read end of stdout no field holds anything. -/
theorem Tidy.empty {process : Bool} {f : FrHandles η} (h : Tidy process f)
    (hstdout : f.frStdoutRead = .null) : heldAll f.vars = [] := by
  obtain ⟨hnone, hstderr⟩ := h.stdoutNull hstdout
  obtain ⟨hprocess, hthread⟩ := h.noProcess hnone
  simp [vars, hprocess, hthread, h.mapping, hstdout, hstderr]

theorem tidy_constructed : Tidy false (constructed : FrHandles η) where
  noProcess _ := ⟨rfl, rfl⟩
  mapping := rfl
  stdoutRead := by simp [constructed]
  stderrRead := by simp [constructed]
  stdoutNull _ := ⟨rfl, rfl⟩

theorem tidy_cleanup (f : FrHandles η) : Tidy false f.cleanupFrProcessHandles.1 where
  noProcess _ := ⟨rfl, rfl⟩
  mapping := rfl
  stdoutRead := by simp [cleanupFrProcessHandles]
  stderrRead := by simp [cleanupFrProcessHandles]
  stdoutNull _ := ⟨rfl, rfl⟩

theorem Tidy.start {f f' : FrHandles η} {io : StartIo η} {calls : List (HandleCall η)}
    (h : Tidy false f) (ho : Outcome f io f' calls) : Tidy io.launches f' := by
  cases ho with
  | noStdoutPipe hpipe =>
      rw [StartIo.not_launches_of_not_both (StartIo.not_both_of_noStdoutPipe hpipe)]
      exact h
  | noStderrPipe => exact ⟨fun _ => h.noProcess rfl, h.mapping, nofun, h.stderrRead, nofun⟩
  | noProcess => exact ⟨fun _ => ⟨rfl, rfl⟩, h.mapping, nofun, nofun, nofun⟩
  | launched hlaunches =>
      refine ⟨fun hnot => ?_, h.mapping, nofun, nofun, nofun⟩
      rw [hlaunches] at hnot
      cases hnot

/-- The fields hold exactly the open handles. -/
structure Kept (process : Bool) (f : FrHandles η) (opened : Finset η) : Prop where
  tidy : Tidy process f
  owns : Owns f.vars opened

theorem kept_constructed : Kept false (constructed : FrHandles η) ∅ where
  tidy := tidy_constructed
  owns := owns_empty rfl

variable [DecidableEq η]

/-- Once `fr_process_info_` is written, a cleanup closes what is open, and all of it. -/
theorem Kept.cleanup {process : Bool} {f : FrHandles η} {opened : Finset η}
    (h : Kept process f opened) (hinfo : f.InfoWritten) :
    Orderly opened f.cleanupFrProcessHandles.2 ∧
      openAfter opened f.cleanupFrProcessHandles.2 = ∅ := by
  apply h.owns.closeAll
  simp [vars, hinfo.1, hinfo.2, h.tidy.mapping, h.tidy.stdoutRead, h.tidy.stderrRead]

/-- A start without a process keeps the fields in step with the system, if the read
    end of an earlier stdout pipe is not overwritten. -/
theorem Kept.start {f : FrHandles η} {opened : Finset η} (h : Kept false f opened)
    {io : StartIo η} (hstdout : io.createsStdoutPipe = true → f.frStdoutRead = .null)
    (hgranted : Granted opened (f.startFrProcess io).2) :
    Orderly opened (f.startFrProcess io).2 ∧
      Kept io.launches (f.startFrProcess io).1 (openAfter opened (f.startFrProcess io).2) := by
  have ho := outcome_startFrProcess f io
  cases hpipe : io.createsStdoutPipe with
  | false =>
      obtain ⟨hsame, hcalls⟩ := ho.unchanged hpipe
      have htidy := h.tidy.start ho
      rw [hsame] at htidy
      rw [hsame, hcalls]
      exact ⟨trivial, htidy, h.owns⟩
  | true =>
      have hempty := h.tidy.empty (hstdout hpipe)
      obtain rfl := h.owns.eq_empty hempty
      obtain ⟨got, temps, hcalls, hperm⟩ := ho.obtains hempty
      rw [hcalls] at hgranted ⊢
      obtain ⟨horderly, howns⟩ := owns_of_obtained got temps hgranted hperm
      exact ⟨horderly, h.tidy.start ho, howns⟩

/-- A start that overwrites the read end of an earlier stdout pipe loses it: the handle
    stays open, and no field holds it any more. -/
theorem lost_of_start {f : FrHandles η} {io : StartIo η} {opened : Finset η} {h : η}
    (howns : Owns f.vars opened) (hheld : f.frStdoutRead = .handle h)
    (hpipe : io.createsStdoutPipe = true) (hgranted : Granted opened (f.startFrProcess io).2) :
    h ∈ openAfter opened (f.startFrProcess io).2 ∧ h ∉ heldAll (f.startFrProcess io).1.vars := by
  have hopen : h ∈ opened := (howns.mem_iff h).mp (by simp [vars, hheld])
  have hnodup := howns.nodup
  simp only [vars, heldAll_cons, heldAll_nil, hheld, held_handle] at hnodup
  have ho := outcome_startFrProcess f io
  generalize (f.startFrProcess io).1 = f', (f.startFrProcess io).2 = calls at ho hgranted ⊢
  -- what the system gives out is not `h`, and only the new write ends are closed
  cases ho with
  | noStdoutPipe hno => simp [hno] at hpipe
  | noStderrPipe =>
      simp [vars, Along, IsGranted, apply] at hgranted ⊢
      grind
  | noProcess =>
      simp [vars, Along, IsGranted, apply] at hgranted ⊢
      grind
  | launched =>
      simp [vars, Along, IsGranted, apply] at hgranted ⊢
      grind

-- ============================================================================
-- Sequences of calls
-- ============================================================================

section Sequences

omit [DecidableEq η]

theorem execAll_cons (f : FrHandles η) (op : FrOp η) (ops : List (FrOp η)) :
    f.execAll (op :: ops) =
      (((f.exec op).1.execAll ops).1, (f.exec op).2 ++ ((f.exec op).1.execAll ops).2) := rfl

theorem execAll_append (f : FrHandles η) (ops ops' : List (FrOp η)) :
    f.execAll (ops ++ ops') = (((f.execAll ops).1.execAll ops').1,
      (f.execAll ops).2 ++ ((f.execAll ops).1.execAll ops').2) := by
  induction ops generalizing f with
  | nil => rfl
  | cons op ops ih =>
      rw [List.cons_append, execAll_cons, ih, execAll_cons, List.append_assoc]

/-- Whether `fr_process_` is set after the call. -/
def afterOp : FrOp η → Bool
  | .start io => io.launches
  | .stop => false
  | .cleanup => false

/-- Whether it is set after a list of calls. -/
def processAfter (process : Bool) (ops : List (FrOp η)) : Bool :=
  ops.foldl (fun _ => afterOp) process

theorem processAfter_append (process : Bool) (ops ops' : List (FrOp η)) :
    processAfter process (ops ++ ops') = processAfter (processAfter process ops) ops' :=
  List.foldl_append

/-- A start that gets its first pipe. -/
def GetsStdoutPipe (op : FrOp η) : Prop :=
  ∃ io : StartIo η, op = .start io ∧ io.createsStdoutPipe = true

/-- A start that gets both pipes. -/
def GetsBothPipes (op : FrOp η) : Prop :=
  ∃ io : StartIo η, op = .start io ∧ io.createsBothPipes = true

def CleansUp (op : FrOp η) : Prop := op = .stop ∨ op = .cleanup

/-- A start that gets both pipes writes `fr_process_info_` for good. -/
theorem infoWritten_execAll {ops : List (FrOp η)} {op : FrOp η} (hmem : op ∈ ops)
    (hgets : GetsBothPipes op) (f : FrHandles η) : (f.execAll ops).1.InfoWritten := by
  obtain ⟨pre, post, rfl⟩ := List.append_of_mem hmem
  obtain ⟨io, rfl, hpipes⟩ := hgets
  rw [execAll_append, execAll_cons]
  apply InfoWritten.execAll
  exact (outcome_startFrProcess _ io).infoWritten.mpr (Or.inl hpipes)

/-- There is a read end of stdout exactly when a start has obtained one that no cleanup
    has closed since. -/
theorem frStdoutRead_execAll (ops : List (FrOp η)) :
    (constructed.execAll ops).1.frStdoutRead = .null ↔ ¬ Since GetsStdoutPipe CleansUp ops := by
  induction ops using List.reverseRecOn with
  | nil => exact iff_of_true rfl not_since_nil
  | append_singleton ops op ih =>
      rw [execAll_append, since_snoc]
      show ((constructed.execAll ops).1.exec op).1.frStdoutRead = .null ↔ _
      cases op with
      | start io =>
          rw [exec, (outcome_startFrProcess _ io).frStdoutRead, ih]
          simp [GetsStdoutPipe, CleansUp]
      | stop => simp [exec, stopFrProcess, cleanupFrProcessHandles, GetsStdoutPipe, CleansUp]
      | cleanup => simp [exec, cleanupFrProcessHandles, GetsStdoutPipe, CleansUp]

/-- When a call keeps the fields in step: a start finds no process and, for its
    stdout pipe, no read end; the others find `fr_process_info_` written. -/
def Safe (process : Bool) (f : FrHandles η) : FrOp η → Prop
  | .start io => process = false ∧ (io.createsStdoutPipe = true → f.frStdoutRead = .null)
  | .stop => f.InfoWritten
  | .cleanup => f.InfoWritten

def SafeAll : Bool → FrHandles η → List (FrOp η) → Prop
  | _, _, [] => True
  | process, f, op :: ops => Safe process f op ∧ SafeAll (afterOp op) (f.exec op).1 ops

theorem safeAll_append {process : Bool} {f : FrHandles η} {ops ops' : List (FrOp η)} :
    SafeAll process f (ops ++ ops') ↔
      SafeAll process f ops ∧ SafeAll (processAfter process ops) (f.execAll ops).1 ops' := by
  induction ops generalizing process f with
  | nil => simp [SafeAll, processAfter, execAll]
  | cons op ops ih =>
      rw [List.cons_append, SafeAll, SafeAll, ih, and_assoc]
      rfl

end Sequences

theorem Kept.exec {process : Bool} {f : FrHandles η} {opened : Finset η}
    (h : Kept process f opened) {op : FrOp η} (hsafe : Safe process f op)
    (hgranted : Granted opened (f.exec op).2) :
    Orderly opened (f.exec op).2 ∧
      Kept (afterOp op) (f.exec op).1 (openAfter opened (f.exec op).2) := by
  have hcleanup (hinfo : f.InfoWritten) : Orderly opened f.cleanupFrProcessHandles.2 ∧
      Kept false f.cleanupFrProcessHandles.1 (openAfter opened f.cleanupFrProcessHandles.2) := by
    obtain ⟨horderly, hafter⟩ := h.cleanup hinfo
    rw [hafter]
    exact ⟨horderly, tidy_cleanup f, owns_empty rfl⟩
  cases op with
  | start io =>
      obtain ⟨rfl, hstdout⟩ := hsafe
      exact h.start hstdout hgranted
  | stop => exact hcleanup hsafe
  | cleanup => exact hcleanup hsafe

/-- A sequence of safe calls closes open handles only, and the fields hold what is
    open after it. -/
theorem Kept.execAll {process : Bool} {f : FrHandles η} {opened : Finset η}
    (h : Kept process f opened) {ops : List (FrOp η)} (hsafe : SafeAll process f ops)
    (hgranted : Granted opened (f.execAll ops).2) :
    Orderly opened (f.execAll ops).2 ∧
      Kept (processAfter process ops) (f.execAll ops).1 (openAfter opened (f.execAll ops).2) := by
  induction ops generalizing process f opened with
  | nil => exact ⟨trivial, h⟩
  | cons op ops ih =>
      obtain ⟨hop, hops⟩ := hsafe
      obtain ⟨hgop, hgops⟩ := along_append.mp hgranted
      obtain ⟨horderly, hkept⟩ := h.exec hop hgop
      obtain ⟨horderly', hkept'⟩ := ih hkept hops hgops
      refine ⟨along_append.mpr ⟨horderly, horderly'⟩, ?_⟩
      rw [FrHandles.execAll, openAfter_append]
      exact hkept'

end FrHandles

end Smile2Unlock.Service
