/-
  Smile2Unlock.Service.PreviewStream

  The camera preview of `FaceRecognition` (modules/face_recognition.cppm) as a system of two
  programs: the service starts, stops and reads a stream, the FaceRecognizer process that it
  starts fills the stream's memory.

  A run mixes the steps of both in any order; a pass of the writer and a read are steps as a
  whole.  (There is no lock between them: a read during a pass can see a torn frame.)  A start
  whose `fs::exists` throws is left out.  What the memory says about the run so far is `InStep`, kept by every step
  (`InStep.step`).  From it follows which frames are delivered: of the frames of a stream
  some, in their order and each once (`previewFrames_inOrder`).
-/

import Smile2Unlock.FaceRecognizer.PreviewFrames
import Smile2Unlock.Lib.Loop
import Smile2Unlock.Lib.Machine

namespace Smile2Unlock.Service

open Smile2Unlock Lib FaceRecognizer

-- ============================================================================
-- The service
-- ============================================================================

/-- `LastErrorText`. -/
def lastErrorText (what : String) (lastError : UInt32) : Bytes :=
  utf8 what ++ utf8 " (GetLastError=" ++ Decimal.nat lastError.toNat ++ utf8 ")"

/-- Where the FaceRecognizer process of a stream stands. -/
inductive StreamProcess where
  | launched
  | streaming
  | exited
deriving DecidableEq

/-- The fields of `FaceRecognition` for the preview; `view` is `preview_view_` with the
    memory behind it, `process` is `preview_process_`. -/
structure PreviewStream where
  view : Option View
  process : Option StreamProcess
  lastSequence : UInt32

namespace PreviewStream

def constructed : PreviewStream := ⟨none, none, 0⟩

/-- `IsPreviewStreamRunning`. -/
def isRunning (s : PreviewStream) : Bool :=
  match s.process with
  | some .launched | some .streaming => true
  | some .exited | none => false

/-- `StopPreviewStream`.  When it unmaps the memory the process has ended, by itself within
    two seconds or by `TerminateProcess`. -/
def stop (_ : PreviewStream) : PreviewStream := constructed

/-- How far `StartPreviewStream` gets; a new mapping has some memory. -/
inductive StartIo where
  | noSecurity
  | noMapping
  | noView
  | noExe (memory : PacketMemory kSharedFrameMappingSize)
  | noProcess (memory : PacketMemory kSharedFrameMappingSize)
  | launched (memory : PacketMemory kSharedFrameMappingSize)

/-- `StartPreviewStream` until it returns or has launched the process: the fields and, if it
    returns, its result. -/
def start (s : PreviewStream) (io : StartIo) (lastError : UInt32) (errorMessage : Bytes) :
    PreviewStream × Option (Bool × Bytes) :=
  if s.isRunning && s.view.isSome then (s, some (true, errorMessage))
  else
    let s := if s.process.isSome || s.view.isSome then s.stop else s
    match io with
    | .noSecurity =>
        (s, some (false, lastErrorText "构建预览共享内存安全描述符失败" lastError))
    | .noMapping => (s, some (false, lastErrorText "创建预览共享内存失败" lastError))
    | .noView => (s, some (false, lastErrorText "映射预览共享内存失败" lastError))
    | .noExe _ => (s.stop, some (false, utf8 "FaceRecognizer.exe 不存在"))
    | .noProcess _ =>
        (s.stop, some (false, lastErrorText "启动 FaceRecognizer 预览进程失败" lastError))
    | .launched memory =>
        (⟨some (View.store ⟨memory, []⟩ 0 defaultHeader), some .launched, 0⟩, none)

/-- What `start_fr_preview_process` sees when it polls: the exit code, if it gets one, and
    the header. -/
structure Poll where
  exitCode : Option UInt32
  header : FrameHeader
  lastError : UInt32

/-- `STILL_ACTIVE`. -/
def stillActive : UInt32 := 259

/-- A pass of the loop in `start_fr_preview_process`. -/
def probePass (errorMessage : Bytes) (poll : Poll) : ControlFlow Bytes (Bool × Bytes) :=
  match poll.exitCode with
  | none => .exit (false, lastErrorText "检查 FaceRecognizer 预览进程状态失败" poll.lastError)
  | some exitCode =>
      if exitCode ≠ stillActive then
        .exit (false, utf8 "FaceRecognizer 预览进程启动后立即退出 (exit=" ++
          Decimal.nat exitCode.toNat ++ utf8 ")，请检查 FR 日志")
      else if poll.header.magic = sharedFrameMagic ∧ poll.header.version = sharedFrameVersion ∧
          poll.header.statusCode = SharedFrameStatus.ready.code ∧ 0 < poll.header.imageBytes then
        .exit (true, errorMessage)
      else if poll.header.statusCode = SharedFrameStatus.captureFailed.code then
        .next (utf8 "FaceRecognizer 已启动，但摄像头初始化/取帧失败")
      else if poll.header.statusCode = SharedFrameStatus.invalidFrame.code then
        .next (utf8 "FaceRecognizer 已启动，但首帧数据无效")
      else .next errorMessage

/-- The rest of `start_fr_preview_process`, with its forty polls at most. -/
def probe (errorMessage : Bytes) (polls : List Poll) : Bool × Bytes :=
  match loop probePass errorMessage (polls.take 40) with
  | .next _ => (true, utf8 "FaceRecognizer 预览进程已启动，等待摄像头输出画面")
  | .exit result => result

/-- The rest of `StartPreviewStream`. -/
def probed (s : PreviewStream) (errorMessage : Bytes) (polls : List Poll) :
    PreviewStream × (Bool × Bytes) :=
  let (ok, message) := probe errorMessage polls
  if ok then (s, (true, utf8 "摄像头已打开")) else (s.stop, (false, message))

/-- `GetLatestPreviewFrame`. -/
def getLatestFrame (s : PreviewStream) (errorMessage : Bytes) : PreviewFrame × PreviewStream :=
  match s.isRunning, s.view with
  | true, some view =>
      let (frame, lastSequence) := readFrame view s.lastSequence errorMessage
      (frame, { s with lastSequence := lastSequence })
  | _, _ => (.failed (utf8 "摄像头未开启"), s)

end PreviewStream

-- ============================================================================
-- Both programs
-- ============================================================================

/-- A step of the service, or of the process of the stream. -/
inductive PreviewEvent where
  | start (io : PreviewStream.StartIo) (lastError : UInt32) (errorMessage : Bytes)
  | probed (errorMessage : Bytes) (polls : List PreviewStream.Poll)
  | stop
  | getLatestFrame (errorMessage : Bytes)
  | processOpens (cameraOpens : Bool)
  | processPasses (frame : Option CameraFrame)
  | processExits

/-- What a step does that concerns frames. -/
inductive PreviewOutput where
  | renewed
  | stored (frame : ShownFrame)
  | missed
  | delivered (frame : ShownFrame)

namespace PreviewStream

/-- The process resets the header and opens the camera; without one it ends. -/
def processOpens (s : PreviewStream) (cameraOpens : Bool) :
    Option (PreviewStream × List PreviewOutput) :=
  match s.process, s.view with
  | some .launched, some view =>
      let view := view.store 0 defaultHeader
      if cameraOpens then some ({ s with view := some view, process := some .streaming }, [])
      else
        some ({ s with view := some (view.storeStatus .captureFailed)
                       process := some .exited }, [])
  | _, _ => none

/-- A pass of its loop. -/
def processPasses (s : PreviewStream) (frame : Option CameraFrame) :
    Option (PreviewStream × List PreviewOutput) :=
  match s.process, s.view with
  | some .streaming, some view =>
      some ({ s with view := some (streamPass frame view) },
        match storedBy frame with
        | none => [.missed]
        | some shown => [.stored shown])
  | _, _ => none

/-- What a read sends. -/
def outputOf (frame : PreviewFrame) : List PreviewOutput :=
  if frame.ok then [.delivered frame.shown] else []

def step (s : PreviewStream) : PreviewEvent → Option (PreviewStream × List PreviewOutput)
  | .start io lastError errorMessage =>
      let started := s.start io lastError errorMessage
      some (started.1, if started.2.isNone then [.renewed] else [])
  | .probed errorMessage polls => some ((s.probed errorMessage polls).1, [])
  | .stop => some (s.stop, [])
  | .getLatestFrame errorMessage =>
      let got := s.getLatestFrame errorMessage
      some (got.2, outputOf got.1)
  | .processOpens cameraOpens => s.processOpens cameraOpens
  | .processPasses frame => s.processPasses frame
  | .processExits => if s.isRunning then some ({ s with process := some .exited }, []) else none

def machine : Machine PreviewStream PreviewEvent PreviewOutput where
  init s := s = constructed
  step := step

end PreviewStream

-- ============================================================================
-- The history of a stream
-- ============================================================================

/-- What happened since the newest stream was set up: the frames stored and delivered, how
    many were stored since the last one was delivered, and whether the last pass of the
    process stored one. -/
structure StreamHistory where
  captured : List ShownFrame
  delivered : List ShownFrame
  unseen : Nat
  ready : Bool

namespace StreamHistory

def empty : StreamHistory := ⟨[], [], 0, false⟩

def note (h : StreamHistory) : PreviewOutput → StreamHistory
  | .renewed => empty
  | .stored frame =>
      { h with captured := h.captured ++ [frame], unseen := h.unseen + 1, ready := true }
  | .missed => { h with ready := false }
  | .delivered frame => { h with delivered := h.delivered ++ [frame], unseen := 0 }

end StreamHistory

/-- The history after a run. -/
def previewHistory (tr : List (Transition PreviewStream PreviewEvent PreviewOutput)) :
    StreamHistory := tr.foldl (fun h t => t.sent.foldl StreamHistory.note h) .empty

/-- The fields and the memory are in step with the history. -/
structure InStep (h : StreamHistory) (s : PreviewStream) : Prop where
  memory : ∀ view ∈ s.view, StreamMemory view h.captured h.ready
  unseen : h.unseen ≤ h.captured.length
  last : ∀ view ∈ s.view, s.lastSequence = UInt32.ofNat (h.captured.length - h.unseen)
  delivered : h.delivered.Sublist (h.captured.take (h.captured.length - h.unseen))
  launched : s.process = some .launched → h = .empty

-- ============================================================================
-- The steps
-- ============================================================================

section

variable {h : StreamHistory} {s : PreviewStream}

/-- Without a view the fields say nothing. -/
theorem InStep.noView (hs : InStep h s) {s' : PreviewStream} (hview : s'.view = none)
    (hprocess : s'.process = none) : InStep h s' := by
  refine ⟨?_, hs.unseen, ?_, hs.delivered, ?_⟩
  · intro view hmem
    rw [hview] at hmem
    cases hmem
  · intro view hmem
    rw [hview] at hmem
    cases hmem
  · intro hlaunched
    rw [hprocess] at hlaunched
    cases hlaunched

theorem InStep.stop (hs : InStep h s) : InStep h s.stop := hs.noView rfl rfl

/-- A new stream has an empty history. -/
theorem inStep_launched (memory : PacketMemory kSharedFrameMappingSize) :
    InStep .empty ⟨some (View.store ⟨memory, []⟩ 0 defaultHeader), some .launched, 0⟩ := by
  refine ⟨?_, Nat.le_refl _, ?_, List.Sublist.refl _, fun _ => rfl⟩
  · intro view hmem
    obtain rfl := Option.some.inj hmem
    exact streamMemory_default _
  · intro view hmem
    rfl

/-- A start that gets on stops what is left of the last stream. -/
theorem start_cases (io : PreviewStream.StartIo) (lastError : UInt32) (errorMessage : Bytes) :
    (∃ result, s.start io lastError errorMessage = (s, some result)) ∨
    (∃ s' result, s.start io lastError errorMessage = (s', some result) ∧ s'.view = none ∧
      s'.process = none) ∨
    ∃ memory, s.start io lastError errorMessage =
      (⟨some (View.store ⟨memory, []⟩ 0 defaultHeader), some .launched, 0⟩, none) := by
  rw [PreviewStream.start]
  by_cases hruns : (s.isRunning && s.view.isSome) = true
  · rw [if_pos hruns]
    exact Or.inl ⟨_, rfl⟩
  · rw [if_neg hruns]
    dsimp only
    have hempty : (if (s.process.isSome || s.view.isSome) = true then s.stop else s).view = none ∧
        (if (s.process.isSome || s.view.isSome) = true then s.stop else s).process = none := by
      split
      · exact ⟨rfl, rfl⟩
      · rename_i hnone
        simpa [and_comm] using hnone
    refine Or.inr ?_
    cases io with
    | noSecurity | noMapping | noView => exact Or.inl ⟨_, _, rfl, hempty⟩
    | noExe memory | noProcess memory => exact Or.inl ⟨_, _, rfl, rfl, rfl⟩
    | launched memory => exact Or.inr ⟨memory, rfl⟩

theorem InStep.start (hs : InStep h s) (io : PreviewStream.StartIo) (lastError : UInt32)
    (errorMessage : Bytes) :
    InStep (if (s.start io lastError errorMessage).2.isNone then .empty else h)
      (s.start io lastError errorMessage).1 := by
  rcases start_cases io lastError errorMessage (s := s) with
    ⟨result, heq⟩ | ⟨s', result, heq, hview, hprocess⟩ | ⟨memory, heq⟩
  · rw [heq]
    exact hs
  · rw [heq]
    exact hs.noView hview hprocess
  · rw [heq]
    exact inStep_launched memory

theorem InStep.opens (hs : InStep h s) {cameraOpens : Bool} {s' : PreviewStream}
    {sent : List PreviewOutput} (hstep : s.processOpens cameraOpens = some (s', sent)) :
    InStep (sent.foldl StreamHistory.note h) s' := by
  obtain ⟨view, process, lastSequence⟩ := s
  rw [PreviewStream.processOpens] at hstep
  split at hstep
  · rename_i v hprocess hview
    obtain rfl : process = some .launched := hprocess
    obtain rfl : view = some v := hview
    obtain rfl := hs.launched rfl
    have hdefault := streamMemory_default v
    have hlast := hs.last v rfl
    split at hstep
    · obtain ⟨rfl, rfl⟩ := Prod.mk.inj (Option.some.inj hstep)
      refine ⟨?_, Nat.le_refl _, fun _ _ => hlast, List.Sublist.refl _, nofun⟩
      intro view' hmem
      obtain rfl := Option.some.inj hmem
      exact hdefault
    · obtain ⟨rfl, rfl⟩ := Prod.mk.inj (Option.some.inj hstep)
      refine ⟨?_, Nat.le_refl _, fun _ _ => hlast, List.Sublist.refl _, nofun⟩
      intro view' hmem
      obtain rfl := Option.some.inj hmem
      exact hdefault.storeStatus (by decide)
  · cases hstep

theorem InStep.passes (hs : InStep h s) {frame : Option CameraFrame} {s' : PreviewStream}
    {sent : List PreviewOutput} (hstep : s.processPasses frame = some (s', sent)) :
    InStep (sent.foldl StreamHistory.note h) s' := by
  obtain ⟨view, process, lastSequence⟩ := s
  rw [PreviewStream.processPasses] at hstep
  split at hstep
  · rename_i v hprocess hview
    obtain rfl : process = some .streaming := hprocess
    obtain rfl : view = some v := hview
    obtain ⟨rfl, rfl⟩ := Prod.mk.inj (Option.some.inj hstep)
    have hmemory := (hs.memory v rfl).pass frame
    have hlast := hs.last v rfl
    cases hstored : storedBy frame with
    | none =>
        rw [hstored, Option.toList_none, List.append_nil] at hmemory
        refine ⟨?_, hs.unseen, fun _ _ => hlast, hs.delivered, nofun⟩
        intro view' hmem
        obtain rfl := Option.some.inj hmem
        exact hmemory
    | some shown =>
        rw [hstored] at hmemory
        -- what has been counted as delivered stays the same part of the frames
        have hcount : (h.captured ++ [shown]).length - (h.unseen + 1) =
            h.captured.length - h.unseen := by
          rw [List.length_append, List.length_singleton]
          omega
        have hunseen := hs.unseen
        refine ⟨?_, ?_, ?_, ?_, nofun⟩
        · intro view' hmem
          obtain rfl := Option.some.inj hmem
          exact hmemory
        · show h.unseen + 1 ≤ (h.captured ++ [shown]).length
          rw [List.length_append, List.length_singleton]
          omega
        · intro view' _
          exact hlast.trans (congrArg UInt32.ofNat hcount.symm)
        · show h.delivered.Sublist ((h.captured ++ [shown]).take
            ((h.captured ++ [shown]).length - (h.unseen + 1)))
          rw [hcount, List.take_append_of_le_length (by omega)]
          exact hs.delivered
  · cases hstep

/-- The service remembers the newest frame exactly if the frames that it has not seen are a
    multiple of 2^32. -/
theorem sequence_eq_iff {n unseen : Nat} (hle : unseen ≤ n) :
    UInt32.ofNat n = UInt32.ofNat (n - unseen) ↔ 4294967296 ∣ unseen := by
  rw [← UInt32.toNat_inj, UInt32.toNat_ofNat', UInt32.toNat_ofNat']
  omega

/-- What a read returns, and the fields after it. -/
theorem InStep.getLatestFrame_eq (hs : InStep h s) (errorMessage : Bytes) :
    s.getLatestFrame errorMessage =
      if s.isRunning = false ∨ s.view = none then (.failed (utf8 "摄像头未开启"), s)
      else if h.ready = false then (.failed (utf8 "摄像头尚未输出可用画面"), s)
      else if 4294967296 ∣ h.unseen then (.failed errorMessage, s)
      else
        match h.captured.getLast? with
        | none => (.failed errorMessage, s)
        | some frame => (frame.returned errorMessage,
            { s with lastSequence := UInt32.ofNat h.captured.length }) := by
  obtain ⟨view, process, lastSequence⟩ := s
  rw [PreviewStream.getLatestFrame]
  cases hrunning : PreviewStream.isRunning ⟨view, process, lastSequence⟩ with
  | false => rw [if_pos (Or.inl rfl)]
  | true =>
      cases view with
      | none => rw [if_pos (Or.inr rfl)]
      | some view =>
          have hmemory := hs.memory view rfl
          have hlast : lastSequence = UInt32.ofNat (h.captured.length - h.unseen) :=
            hs.last view rfl
          have hseen : UInt32.ofNat h.captured.length = lastSequence ↔ 4294967296 ∣ h.unseen := by
            rw [hlast]
            exact sequence_eq_iff hs.unseen
          rw [if_neg (by simp)]
          dsimp only
          rw [readFrame_eq hmemory]
          simp only [hseen]
          split
          · rfl
          · split
            · rfl
            · cases h.captured.getLast? with
              | none => rfl
              | some frame => rfl

theorem InStep.gets (hs : InStep h s) (errorMessage : Bytes) :
    InStep ((PreviewStream.outputOf (s.getLatestFrame errorMessage).1).foldl StreamHistory.note h)
      (s.getLatestFrame errorMessage).2 := by
  rw [hs.getLatestFrame_eq errorMessage]
  split
  · exact hs
  · rename_i hopen
    split
    · exact hs
    · split
      · exact hs
      · rename_i hseen
        cases hlast : h.captured.getLast? with
        | none => exact hs
        | some frame =>
            have hne : h.captured ≠ [] := by
              rintro hnil
              rw [hnil] at hlast
              cases hlast
            -- the newest frame was not among those counted as delivered
            have hpos : 0 < h.unseen := Nat.pos_of_ne_zero fun hzero =>
              hseen (by rw [hzero]; exact dvd_zero _)
            have hunseen := hs.unseen
            have hlength : 0 < h.captured.length := List.length_pos_of_ne_nil hne
            refine ⟨hs.memory, Nat.zero_le _, fun _ _ => rfl, ?_, ?_⟩
            · show (h.delivered ++ [frame]).Sublist (h.captured.take (h.captured.length - 0))
              have hfront : h.delivered.Sublist h.captured.dropLast := by
                rw [List.dropLast_eq_take]
                exact hs.delivered.trans (List.take_sublist_take_left (by omega))
              have hsplit := List.dropLast_append_getLast? frame hlast
              rw [Nat.sub_zero, List.take_length, ← hsplit]
              exact hfront.append_right [frame]
            · intro hlaunched
              have hempty := hs.launched hlaunched
              rw [hempty] at hne
              exact absurd rfl hne

/-- Every step of either program keeps the fields in step with the history. -/
theorem InStep.step (hs : InStep h s) {e : PreviewEvent} {s' : PreviewStream}
    {sent : List PreviewOutput} (hstep : s.step e = some (s', sent)) :
    InStep (sent.foldl StreamHistory.note h) s' := by
  cases e with
  | start io lastError errorMessage =>
      obtain ⟨rfl, rfl⟩ := Prod.mk.inj (Option.some.inj hstep)
      have hstart := hs.start io lastError errorMessage
      revert hstart
      cases (s.start io lastError errorMessage).2 with
      | none => exact id
      | some result => exact id
  | probed errorMessage polls =>
      obtain ⟨rfl, rfl⟩ := Prod.mk.inj (Option.some.inj hstep)
      rw [PreviewStream.probed]
      dsimp only
      split
      · exact hs
      · exact hs.stop
  | stop =>
      obtain ⟨rfl, rfl⟩ := Prod.mk.inj (Option.some.inj hstep)
      exact hs.stop
  | getLatestFrame errorMessage =>
      obtain ⟨rfl, rfl⟩ := Prod.mk.inj (Option.some.inj hstep)
      exact hs.gets errorMessage
  | processOpens cameraOpens => exact hs.opens hstep
  | processPasses frame => exact hs.passes hstep
  | processExits =>
      rw [PreviewStream.step] at hstep
      split at hstep
      · obtain ⟨rfl, rfl⟩ := Prod.mk.inj (Option.some.inj hstep)
        exact ⟨hs.memory, hs.unseen, hs.last, hs.delivered, nofun⟩
      · cases hstep

end

-- ============================================================================
-- Whole runs
-- ============================================================================

theorem previewHistory_snoc (tr : List (Transition PreviewStream PreviewEvent PreviewOutput))
    (t : Transition PreviewStream PreviewEvent PreviewOutput) :
    previewHistory (tr ++ [t]) = t.sent.foldl StreamHistory.note (previewHistory tr) := by
  rw [previewHistory, List.foldl_append]
  rfl

/-- The induction over a run. -/
theorem inStep_of_run {tr : List (Transition PreviewStream PreviewEvent PreviewOutput)}
    {s : PreviewStream} (h : PreviewStream.machine.Run tr s) : InStep (previewHistory tr) s := by
  refine Machine.Run.invariant (P := fun tr s => InStep (previewHistory tr) s) ?_ ?_ h
  · rintro s rfl
    exact ⟨nofun, Nat.le_refl _, nofun, List.Sublist.refl _, nofun⟩
  · intro tr t hs ht
    rw [previewHistory_snoc]
    exact hs.step ht

/-- A process runs only on the memory of its stream. -/
theorem view_of_running {tr : List (Transition PreviewStream PreviewEvent PreviewOutput)}
    {s : PreviewStream} (h : PreviewStream.machine.Run tr s) (hrunning : s.process ≠ none) :
    s.view ≠ none := by
  refine Machine.Run.invariant (P := fun _ s => s.process ≠ none → s.view ≠ none) ?_ ?_ h hrunning
  · rintro s rfl hprocess
    exact absurd rfl hprocess
  · rintro - ⟨s, e, sent, s'⟩ hs ht
    have hstep : s.step e = some (s', sent) := ht
    cases e with
    | start io lastError errorMessage =>
        obtain ⟨rfl, rfl⟩ := Prod.mk.inj (Option.some.inj hstep)
        rcases start_cases io lastError errorMessage (s := s) with
          ⟨result, heq⟩ | ⟨s', result, heq, -, hprocess⟩ | ⟨memory, heq⟩
        · rw [heq]
          exact hs
        · rw [heq]
          exact fun hne => absurd hprocess hne
        · rw [heq]
          exact fun _ => Option.some_ne_none _
    | probed errorMessage polls =>
        obtain ⟨rfl, rfl⟩ := Prod.mk.inj (Option.some.inj hstep)
        rw [PreviewStream.probed]
        dsimp only
        split
        · exact hs
        · exact fun hne => absurd rfl hne
    | stop =>
        obtain ⟨rfl, rfl⟩ := Prod.mk.inj (Option.some.inj hstep)
        exact fun hne => absurd rfl hne
    | getLatestFrame errorMessage =>
        obtain ⟨rfl, rfl⟩ := Prod.mk.inj (Option.some.inj hstep)
        show (s.getLatestFrame errorMessage).2.process ≠ none → _
        rw [PreviewStream.getLatestFrame]
        split
        · exact hs
        · exact hs
    | processOpens cameraOpens =>
        rw [PreviewStream.step, PreviewStream.processOpens] at hstep
        split at hstep
        · split at hstep
          · obtain ⟨rfl, rfl⟩ := Prod.mk.inj (Option.some.inj hstep)
            exact fun _ => Option.some_ne_none _
          · obtain ⟨rfl, rfl⟩ := Prod.mk.inj (Option.some.inj hstep)
            exact fun _ => Option.some_ne_none _
        · cases hstep
    | processPasses frame =>
        rw [PreviewStream.step, PreviewStream.processPasses] at hstep
        split at hstep
        · obtain ⟨rfl, rfl⟩ := Prod.mk.inj (Option.some.inj hstep)
          exact fun _ => Option.some_ne_none _
        · cases hstep
    | processExits =>
        rw [PreviewStream.step] at hstep
        split at hstep
        · rename_i hruns
          obtain ⟨rfl, rfl⟩ := Prod.mk.inj (Option.some.inj hstep)
          refine fun _ => hs ?_
          rintro hnone
          rw [PreviewStream.isRunning, hnone] at hruns
          cases hruns
        · cases hstep

/-- In every run the frames that were delivered of a stream are frames that its process
    stored, in the order in which it stored them and each at most once.  A read delivers the
    newest frame exactly if the process runs, its last pass stored a frame, and the number of
    frames since the last delivery is not a multiple of 2^32. -/
theorem previewFrames_inOrder {tr : List (Transition PreviewStream PreviewEvent PreviewOutput)}
    {s : PreviewStream} (h : PreviewStream.machine.Run tr s) :
    (previewHistory tr).delivered.Sublist (previewHistory tr).captured ∧
    ∀ errorMessage,
      ((s.getLatestFrame errorMessage).1.ok = true ↔
        s.isRunning = true ∧ (previewHistory tr).ready = true ∧
          ¬ 4294967296 ∣ (previewHistory tr).unseen) ∧
      ((s.getLatestFrame errorMessage).1.ok = true →
        ∃ frame, (previewHistory tr).captured.getLast? = some frame ∧
          (s.getLatestFrame errorMessage).1 = frame.returned errorMessage) := by
  have hs := inStep_of_run h
  refine ⟨hs.delivered.trans (List.take_sublist _ _), ?_⟩
  intro errorMessage
  have hview : s.isRunning = true → s.view ≠ none := by
    intro hrunning
    refine view_of_running h ?_
    rintro hnone
    rw [PreviewStream.isRunning, hnone] at hrunning
    cases hrunning
  have hcaptured : (previewHistory tr).ready = true → s.view ≠ none →
      (previewHistory tr).captured ≠ [] := by
    intro hready hne
    obtain ⟨view, hsome⟩ := Option.ne_none_iff_exists'.mp hne
    exact (hs.memory view hsome).some hready
  rw [hs.getLatestFrame_eq errorMessage]
  by_cases hclosed : s.isRunning = false ∨ s.view = none
  · rw [if_pos hclosed]
    refine ⟨iff_of_false Bool.false_ne_true ?_, fun hok => absurd hok Bool.false_ne_true⟩
    rintro ⟨hrunning, -, -⟩
    rcases hclosed with hfalse | hnone
    · rw [hrunning] at hfalse
      cases hfalse
    · exact hview hrunning hnone
  · obtain ⟨hrunning, hne⟩ := not_or.mp hclosed
    rw [if_neg hclosed]
    by_cases hready : (previewHistory tr).ready = false
    · rw [if_pos hready]
      refine ⟨iff_of_false Bool.false_ne_true ?_, fun hok => absurd hok Bool.false_ne_true⟩
      rintro ⟨-, htrue, -⟩
      rw [hready] at htrue
      cases htrue
    · rw [if_neg hready]
      by_cases hseen : 4294967296 ∣ (previewHistory tr).unseen
      · rw [if_pos hseen]
        exact ⟨iff_of_false Bool.false_ne_true fun hnew => hnew.2.2 hseen,
          fun hok => absurd hok Bool.false_ne_true⟩
      · have htrue := Bool.eq_true_of_not_eq_false hready
        obtain ⟨frame, hlast⟩ := Option.ne_none_iff_exists'.mp
          (mt List.getLast?_eq_none_iff.mp (hcaptured htrue hne))
        rw [if_neg hseen, hlast]
        exact ⟨iff_of_true rfl ⟨Bool.eq_true_of_not_eq_false hrunning, htrue, hseen⟩,
          fun _ => ⟨frame, rfl, rfl⟩⟩

/-- One grey pixel with its three channels. -/
def greyFrame : CameraFrame := ⟨⟨1, 1, 3, [7, 7, 7], by decide⟩, rfl⟩

/-- A stream that has stored one frame delivers it. -/
theorem previewFrames_example :
    ∃ tr s, PreviewStream.machine.Run tr s ∧
      (previewHistory tr).delivered.Sublist (previewHistory tr).captured ∧
      (s.getLatestFrame []).1 = greyFrame.shown.returned [] := by
  have hempty : PreviewStream.machine.Run [] PreviewStream.constructed := Machine.Run.nil rfl
  have hstarted := hempty.event (e := .start (.launched zeroMapping) 0 []) rfl
  have hopened := hstarted.event (e := .processOpens true) rfl
  have hpassed := hopened.event (e := .processPasses (some greyFrame)) rfl
  refine ⟨_, _, hpassed, ?_⟩
  obtain ⟨hsublist, hread⟩ := previewFrames_inOrder hpassed
  refine ⟨hsublist, ?_⟩
  obtain ⟨frame, hlast, hreturned⟩ := (hread []).2 ((hread []).1.mpr ⟨rfl, rfl, by decide⟩)
  obtain rfl := Option.some.inj hlast
  exact hreturned

end Smile2Unlock.Service
