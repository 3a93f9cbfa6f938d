/-
  Smile2Unlock.Service.MappingHandles

  What the service has open for its shared images: the preview fields of `FaceRecognition`
  (`StartPreviewStream`, `StopPreviewStream`, modules/face_recognition.cppm), the locals of
  `capture_shared_payload` and `start_fr_capture_process`, and the two transport mappings of
  `GuiIpcRequestHandler` (backend/gui_ipc_handler.h).

  Each function returns the fields and its calls in order, for everything that the system may
  answer on the way.  `Tidy.exec` is the triple of one of them, and `mappingHandles_kept`
  says what any sequence of them leaves open.

  The test for FaceRecognizer.exe is an `fs::exists` that may throw.  In a preview start the
  exception finds the mapping and its view in the fields; in a capture they are raw locals,
  and nothing closes them any more (`MappingOp.abandoned`).
-/

import Smile2Unlock.Common.ServiceSecurity

namespace Smile2Unlock.Service

open Smile2Unlock Lib HandleCall HandleVar

variable {η : Type}

/-- The slots of `GuiIpcRequestHandler`. -/
inductive TransportSlot where
  | preview
  | capture
deriving DecidableEq

/-- `hProcess` and `hThread` are those of `preview_process_info_`; `previewProcess` is whether
    `preview_process_`, a copy of `hProcess`, is set. -/
structure MappingHandles (η : Type) where
  previewProcess : Bool
  hProcess : HandleVar (Resource η)
  hThread : HandleVar (Resource η)
  previewView : HandleVar (Resource η)
  previewMapping : HandleVar (Resource η)
  previewTransport : HandleVar (Resource η)
  captureTransport : HandleVar (Resource η)
deriving DecidableEq

/-- What `CreateFileMappingA` and `MapViewOfFile` give. -/
structure MappingIo (η : Type) where
  security : SecurityIo η
  mapping : Option η
  view : Option η

/-- Whether FaceRecognizer.exe is there (`none` if `fs::exists` throws), and what
    `CreateProcessA` gives. -/
structure RecognizerIo (η : Type) where
  frExeExists : Option Bool
  process : Option (η × η)

/-- `running` is the answer of `IsPreviewStreamRunning`, `survives` that of the probes of
    `start_fr_preview_process`. -/
structure PreviewIo (η : Type) where
  running : Bool
  memory : MappingIo η
  recognizer : RecognizerIo η
  survives : Bool

/-- The steps with a mapping that three functions have in common: the ACL is freed once the
    mapping is there, the mapping closed again without a view. -/
def MappingIo.createMapping (io : MappingIo η) : Option (η × η) × List (ResourceCall η) :=
  match io.security.buildServiceIpcSecurityAttributes with
  | (none, calls) => (none, calls)
  | (some (acl, _), calls) =>
      match io.mapping with
      | none => (none, calls ++ [.closed ⟨.localFree, acl⟩])
      | some mapping =>
          let calls := calls ++ [.obtained ⟨.closeHandle, mapping⟩] ++
            [.closed ⟨.localFree, acl⟩]
          match io.view with
          | none => (none, calls ++ [.closed ⟨.closeHandle, mapping⟩])
          | some view => (some (mapping, view), calls ++ [.obtained ⟨.unmapViewOfFile, view⟩])

/-- A close without a test: the variable should hold a handle. -/
def closeUntested : HandleVar (Resource η) → List (ResourceCall η)
  | .handle h => [.closed h]
  | _ => [.unwritten]

namespace MappingHandles

/-- `FaceRecognition` has no initializer for `preview_process_info_`. -/
def constructed : MappingHandles η where
  previewProcess := false
  hProcess := .unset
  hThread := .unset
  previewView := .null
  previewMapping := .null
  previewTransport := .null
  captureTransport := .null

/-- `StopPreviewStream`. -/
def stopPreviewStream (f : MappingHandles η) : MappingHandles η × List (ResourceCall η) :=
  let info : HandleVar (Resource η) × HandleVar (Resource η) × List (ResourceCall η) :=
    if f.previewProcess then (.null, .null, closeUntested f.hProcess ++ closeUntested f.hThread)
    else (f.hProcess, f.hThread, [])
  ({ f with
      previewProcess := false, hProcess := info.1, hThread := info.2.1
      previewView := .null, previewMapping := .null },
    info.2.2 ++ f.previewView.close ++ f.previewMapping.close)

/-- `start_fr_preview_process`, and what it returns; `none` if it throws. -/
def startFrPreviewProcess (f : MappingHandles η) (io : PreviewIo η) :
    MappingHandles η × List (ResourceCall η) × Option Bool :=
  match io.recognizer.frExeExists with
  | none => (f, [], none)
  | some false => (f, [], some false)
  | some true =>
      match io.recognizer.process with
      | none => ({ f with hProcess := .null, hThread := .null }, [], some false)
      | some (hProcess, hThread) =>
          ({ f with
              previewProcess := true
              hProcess := .handle ⟨.closeHandle, hProcess⟩
              hThread := .handle ⟨.closeHandle, hThread⟩ },
            [.obtained ⟨.closeHandle, hThread⟩, .obtained ⟨.closeHandle, hProcess⟩],
            some io.survives)

/-- The end of `StartPreviewStream`: without the process everything is given up, but not
    when its start throws. -/
def keepPreviewProcess (f : MappingHandles η) (io : PreviewIo η) :
    MappingHandles η × List (ResourceCall η) :=
  match f.startFrPreviewProcess io with
  | (f, calls, some false) => (f.stopPreviewStream.1, calls ++ f.stopPreviewStream.2)
  | (f, calls, _) => (f, calls)

/-- `StartPreviewStream` from the mapping on. -/
def openPreviewStream (f : MappingHandles η) (io : PreviewIo η) :
    MappingHandles η × List (ResourceCall η) :=
  match io.memory.createMapping with
  | (none, calls) => ({ f with previewMapping := .null, previewView := .null }, calls)
  | (some (mapping, view), calls) =>
      let f := { f with
        previewMapping := .handle ⟨.closeHandle, mapping⟩
        previewView := .handle ⟨.unmapViewOfFile, view⟩ }
      ((f.keepPreviewProcess io).1, calls ++ (f.keepPreviewProcess io).2)

/-- `StartPreviewStream`. -/
def startPreviewStream (f : MappingHandles η) (io : PreviewIo η) :
    MappingHandles η × List (ResourceCall η) :=
  if io.running ∧ f.previewView.held ≠ [] ∧ f.previewMapping.held ≠ [] then (f, [])
  else if f.previewProcess ∨ f.previewView.held ≠ [] ∨ f.previewMapping.held ≠ [] then
    let (f, calls) := f.stopPreviewStream
    let (f, calls') := f.openPreviewStream io
    (f, calls ++ calls')
  else f.openPreviewStream io

/-- `start_fr_capture_process`; it waits for the process and closes both handles.  `none` if
    it throws. -/
def startFrCaptureProcess (io : RecognizerIo η) : Option (List (ResourceCall η)) :=
  match io.frExeExists with
  | none => none
  | some false => some []
  | some true =>
      match io.process with
      | none => some []
      | some (hProcess, hThread) =>
          some [.obtained ⟨.closeHandle, hProcess⟩, .obtained ⟨.closeHandle, hThread⟩,
            .closed ⟨.closeHandle, hThread⟩, .closed ⟨.closeHandle, hProcess⟩]

/-- `capture_shared_payload`: its calls, and the handles that were in its locals when it
    threw. -/
def captureSharedPayload (memory : MappingIo η) (recognizer : RecognizerIo η) :
    List (ResourceCall η) × List (Resource η) :=
  match memory.createMapping with
  | (none, calls) => (calls, [])
  | (some (mapping, view), calls) =>
      match startFrCaptureProcess recognizer with
      | none => (calls, [⟨.unmapViewOfFile, view⟩, ⟨.closeHandle, mapping⟩])
      | some started =>
          (calls ++ started ++ [.closed ⟨.unmapViewOfFile, view⟩] ++
            [.closed ⟨.closeHandle, mapping⟩], [])

def transport (f : MappingHandles η) : TransportSlot → HandleVar (Resource η)
  | .preview => f.previewTransport
  | .capture => f.captureTransport

def setTransport (f : MappingHandles η) (v : HandleVar (Resource η)) :
    TransportSlot → MappingHandles η
  | .preview => { f with previewTransport := v }
  | .capture => { f with captureTransport := v }

/-- `serialize_preview_via_shared_mapping` with an image of `imageBytes`.  An image that does
    not fit is refused with the ACL still there. -/
def serializePreview (f : MappingHandles η) (slot : TransportSlot) (imageBytes : Nat)
    (memory : MappingIo η) : MappingHandles η × List (ResourceCall η) :=
  let closing := (f.transport slot).close
  if imageBytes > 4294967295 then
    (f.setTransport .null slot,
      closing ++ memory.security.buildServiceIpcSecurityAttributes.2)
  else
    match memory.createMapping with
    | (none, calls) => (f.setTransport .null slot, closing ++ calls)
    | (some (mapping, view), calls) =>
        (f.setTransport (.handle ⟨.closeHandle, mapping⟩) slot,
          closing ++ calls ++ [.closed ⟨.unmapViewOfFile, view⟩])

end MappingHandles

/-- A call of one of the functions.  The destructor of `FaceRecognition` stops the preview. -/
inductive MappingOp (η : Type) where
  | startPreview (io : PreviewIo η)
  | stopPreview
  | capture (memory : MappingIo η) (recognizer : RecognizerIo η)
  | serialize (slot : TransportSlot) (imageBytes : Nat) (memory : MappingIo η)

/-- Images come from a mapping of the recognizer and have at most its bytes. -/
def MappingOp.Fits : MappingOp η → Prop
  | .serialize _ imageBytes _ => imageBytes ≤ 4294967295
  | _ => True

/-- What a call leaves open in no field: the locals of a capture that throws. -/
def MappingOp.abandoned : MappingOp η → List (Resource η)
  | .capture memory recognizer => (MappingHandles.captureSharedPayload memory recognizer).2
  | _ => []

namespace MappingHandles

def exec (f : MappingHandles η) : MappingOp η → MappingHandles η × List (ResourceCall η)
  | .startPreview io => f.startPreviewStream io
  | .stopPreview => f.stopPreviewStream
  | .capture memory recognizer => (f, (captureSharedPayload memory recognizer).1)
  | .serialize slot imageBytes memory => f.serializePreview slot imageBytes memory

def execAll (f : MappingHandles η) : List (MappingOp η) → MappingHandles η × List (ResourceCall η)
  | [] => (f, [])
  | op :: ops =>
      let (f, calls) := f.exec op
      let (f, calls') := f.execAll ops
      (f, calls ++ calls')

-- ============================================================================
-- What the functions carry
-- ============================================================================

/-- The handles of the preview, of the transports, and of all fields. -/
def previewHeld (f : MappingHandles η) : List (Resource η) :=
  f.hProcess.held ++ (f.hThread.held ++ (f.previewView.held ++ f.previewMapping.held))

def transportHeld (f : MappingHandles η) : List (Resource η) :=
  f.previewTransport.held ++ f.captureTransport.held

def held (f : MappingHandles η) : List (Resource η) := f.previewHeld ++ f.transportHeld

/-- The fields that a function reads are written, and `preview_process_info_` holds handles
    exactly while `preview_process_` is set. -/
structure Tidy (f : MappingHandles η) : Prop where
  process : f.previewProcess = true → ∃ hProcess hThread,
    f.hProcess = .handle hProcess ∧ f.hThread = .handle hThread
  noProcess : f.previewProcess = false → f.hProcess.held = [] ∧ f.hThread.held = []
  view : f.previewView ≠ .unset
  mapping : f.previewMapping ≠ .unset
  previewTransport : f.previewTransport ≠ .unset
  captureTransport : f.captureTransport ≠ .unset

theorem tidy_constructed : Tidy (constructed : MappingHandles η) where
  process := nofun
  noProcess _ := ⟨rfl, rfl⟩
  view := nofun
  mapping := nofun
  previewTransport := nofun
  captureTransport := nofun

section Stop

variable {f : MappingHandles η}

theorem Tidy.stop (h : f.Tidy) : f.stopPreviewStream.1.Tidy := by
  refine ⟨nofun, fun _ => ?_, nofun, nofun, h.previewTransport, h.captureTransport⟩
  cases hprocess : f.previewProcess with
  | true => simp [stopPreviewStream, hprocess]
  | false => simpa [stopPreviewStream, hprocess] using h.noProcess hprocess

theorem previewHeld_stop (h : f.Tidy) : f.stopPreviewStream.1.previewHeld = [] := by
  obtain ⟨hprocess, hthread⟩ := h.stop.noProcess rfl
  rw [previewHeld, hprocess, hthread]
  rfl

theorem held_stop (h : f.Tidy) : f.stopPreviewStream.1.held = f.transportHeld := by
  rw [held, previewHeld_stop h]
  rfl

theorem obtained_notMem_stop (f : MappingHandles η) (x : Resource η) :
    .obtained x ∉ f.stopPreviewStream.2 := by
  have hclose (v : HandleVar (Resource η)) : HandleCall.obtained x ∉ v.close := by
    cases v <;> simp [HandleVar.close]
  have huntested (v : HandleVar (Resource η)) : HandleCall.obtained x ∉ closeUntested v := by
    cases v <;> simp [closeUntested]
  cases hprocess : f.previewProcess with
  | true => simp [stopPreviewStream, hprocess, hclose, huntested]
  | false => simp [stopPreviewStream, hprocess, hclose]

variable [DecidableEq η]

/-- A stop closes the preview, and nothing else. -/
theorem Tidy.carries_stop (h : f.Tidy) :
    Carries f.held f.transportHeld f.stopPreviewStream.2 := by
  have hmemory : Carries (f.previewView.held ++ (f.previewMapping.held ++ f.transportHeld))
      f.transportHeld (f.previewView.close ++ f.previewMapping.close) :=
    (carries_close h.view _).append (carries_close h.mapping _)
  rw [held, previewHeld, List.append_assoc, List.append_assoc, List.append_assoc]
  cases hprocess : f.previewProcess with
  | true =>
      obtain ⟨hProcess, hThread, hp, ht⟩ := h.process hprocess
      simp only [stopPreviewStream, hprocess, if_true, hp, ht, held_handle, closeUntested]
      rw [List.append_assoc]
      exact ((carries_closed _ hProcess).append (carries_closed _ hThread)).append hmemory
  | false =>
      obtain ⟨hp, ht⟩ := h.noProcess hprocess
      simp only [stopPreviewStream, hprocess, hp, ht]
      exact hmemory

end Stop

section Mapping

/-- The mapping and its view, if there is one. -/
def mapped : Option (η × η) → List (Resource η)
  | none => []
  | some (mapping, view) => [⟨.unmapViewOfFile, view⟩, ⟨.closeHandle, mapping⟩]

variable [DecidableEq η]

/-- With a mapping comes a view, and nothing else stays open. -/
theorem carries_createMapping (io : MappingIo η) (had : List (Resource η)) :
    Carries had (mapped io.createMapping.1 ++ had) io.createMapping.2 := by
  have hsecurity := io.security.carries_build had
  rw [SecurityIo.builtAcl] at hsecurity
  rw [MappingIo.createMapping]
  revert hsecurity
  rcases io.security.buildServiceIpcSecurityAttributes with ⟨_ | ⟨acl, entries⟩, calls⟩
  · exact id
  · intro hacl
    cases io.mapping with
    | none => exact hacl.closed
    | some mapping =>
        have hmapping := ((hacl.obtained ⟨.closeHandle, mapping⟩).perm (.swap _ _ _)).closed
        cases io.view with
        | none => exact hmapping.closed
        | some view => exact hmapping.obtained ⟨.unmapViewOfFile, view⟩

theorem carries_startFrCaptureProcess {io : RecognizerIo η} {calls : List (ResourceCall η)}
    (h : startFrCaptureProcess io = some calls) (had : List (Resource η)) :
    Carries had had calls := by
  rw [startFrCaptureProcess] at h
  rcases hexists : io.frExeExists with _ | _ | _
  · rw [hexists] at h
    cases h
  · rw [hexists] at h
    cases h
    exact carries_nil had
  · rw [hexists] at h
    rcases hprocess : io.process with _ | ⟨hProcess, hThread⟩
    · rw [hprocess] at h
      cases h
      exact carries_nil had
    · rw [hprocess] at h
      cases h
      have hopened := carries_obtained had (⟨.closeHandle, hProcess⟩ : Resource η)
      exact (hopened.obtained ⟨.closeHandle, hThread⟩).closed.closed

/-- A capture leaves nothing open but what it abandons. -/
theorem carries_captureSharedPayload (memory : MappingIo η) (recognizer : RecognizerIo η)
    (had : List (Resource η)) :
    Carries had ((captureSharedPayload memory recognizer).2 ++ had)
      (captureSharedPayload memory recognizer).1 := by
  have hmemory := carries_createMapping memory had
  rw [captureSharedPayload]
  revert hmemory
  rcases memory.createMapping with ⟨_ | ⟨mapping, view⟩, calls⟩
  · exact id
  · intro hmapping
    cases hstart : startFrCaptureProcess recognizer with
    | none => exact hmapping
    | some started =>
        exact (hmapping.append (carries_startFrCaptureProcess hstart _)).closed.closed

end Mapping

section Preview

variable {f : MappingHandles η}

/-- Without a stream the preview fields hold nothing. -/
theorem previewHeld_of_none (h : f.Tidy) (hprocess : f.previewProcess = false)
    (hview : f.previewView.held = []) (hmapping : f.previewMapping.held = []) :
    f.previewHeld = [] := by
  obtain ⟨hp, ht⟩ := h.noProcess hprocess
  rw [previewHeld, hp, ht, hview, hmapping]
  rfl

variable [DecidableEq η]

/-- The process is started with the mapping and its view in the fields. -/
theorem Tidy.startProcess (h : f.Tidy) (hprocess : f.previewProcess = false) (io : PreviewIo η) :
    (f.startFrPreviewProcess io).1.Tidy ∧
      Carries f.held (f.startFrPreviewProcess io).1.held (f.startFrPreviewProcess io).2.1 := by
  obtain ⟨hp, ht⟩ := h.noProcess hprocess
  rw [startFrPreviewProcess]
  rcases io.recognizer.frExeExists with _ | _ | _
  · exact ⟨h, carries_nil f.held⟩
  · exact ⟨h, carries_nil f.held⟩
  · rcases io.recognizer.process with _ | ⟨hProcess, hThread⟩
    · refine ⟨⟨fun hset => ?_, fun _ => ⟨rfl, rfl⟩, h.view, h.mapping, h.previewTransport,
        h.captureTransport⟩, ?_⟩
      · rw [hprocess] at hset
        cases hset
      · rw [held, previewHeld, hp, ht]
        exact carries_nil _
    · refine ⟨⟨fun _ => ⟨_, _, rfl, rfl⟩, nofun, h.view, h.mapping, h.previewTransport,
        h.captureTransport⟩, ?_⟩
      have hboth := (carries_obtained f.held (⟨.closeHandle, hThread⟩ : Resource η)).obtained
        ⟨.closeHandle, hProcess⟩
      have hheld : f.held = f.previewView.held ++ f.previewMapping.held ++ f.transportHeld := by
        rw [held, previewHeld, hp, ht]
        rfl
      rw [hheld] at hboth ⊢
      exact hboth

/-- A process that does not survive is stopped, and the memory with it. -/
theorem Tidy.keepProcess (h : f.Tidy) (hprocess : f.previewProcess = false) (io : PreviewIo η) :
    (f.keepPreviewProcess io).1.Tidy ∧
      Carries f.held (f.keepPreviewProcess io).1.held (f.keepPreviewProcess io).2 := by
  obtain ⟨hstarted, hcarries⟩ := h.startProcess hprocess io
  rw [keepPreviewProcess]
  revert hstarted hcarries
  rcases f.startFrPreviewProcess io with ⟨g, calls, _ | _ | _⟩
  · intro hstarted hcarries
    exact ⟨hstarted, hcarries⟩
  · intro hstarted hcarries
    refine ⟨hstarted.stop, ?_⟩
    show Carries f.held g.stopPreviewStream.1.held (calls ++ g.stopPreviewStream.2)
    rw [held_stop hstarted]
    exact hcarries.append hstarted.carries_stop
  · intro hstarted hcarries
    exact ⟨hstarted, hcarries⟩

/-- A start without a stream: the fields hold what it has opened. -/
theorem Tidy.open (h : f.Tidy) (hprocess : f.previewProcess = false) (io : PreviewIo η) :
    (f.openPreviewStream io).1.Tidy ∧
      Carries f.transportHeld (f.openPreviewStream io).1.held (f.openPreviewStream io).2 := by
  have hmemory := carries_createMapping io.memory f.transportHeld
  obtain ⟨hp, ht⟩ := h.noProcess hprocess
  rw [openPreviewStream]
  revert hmemory
  rcases io.memory.createMapping with ⟨_ | ⟨mapping, view⟩, calls⟩
  · intro hmemory
    refine ⟨⟨h.process, h.noProcess, nofun, nofun, h.previewTransport, h.captureTransport⟩, ?_⟩
    rw [held, previewHeld, hp, ht]
    exact hmemory
  · intro hmemory
    let g : MappingHandles η := { f with
      previewMapping := .handle ⟨.closeHandle, mapping⟩
      previewView := .handle ⟨.unmapViewOfFile, view⟩ }
    have hg : g.Tidy :=
      ⟨h.process, h.noProcess, nofun, nofun, h.previewTransport, h.captureTransport⟩
    have hheld : g.held =
        ⟨.unmapViewOfFile, view⟩ :: ⟨.closeHandle, mapping⟩ :: f.transportHeld := by
      show (f.hProcess.held ++ (f.hThread.held ++ [_, _])) ++ f.transportHeld = _
      rw [hp, ht]
      rfl
    obtain ⟨hkept, hcarries⟩ := hg.keepProcess hprocess io
    rw [hheld] at hcarries
    exact ⟨hkept, hmemory.append hcarries⟩

theorem Tidy.start (h : f.Tidy) (io : PreviewIo η) :
    (f.startPreviewStream io).1.Tidy ∧
      Carries f.held (f.startPreviewStream io).1.held (f.startPreviewStream io).2 := by
  rw [startPreviewStream]
  split
  · exact ⟨h, carries_nil f.held⟩
  · split
    · obtain ⟨hopened, hcarries⟩ := h.stop.open rfl io
      exact ⟨hopened, h.carries_stop.append hcarries⟩
    · rename_i hnone
      obtain ⟨hprocess, hmemory⟩ := not_or.mp hnone
      obtain ⟨hview, hmapping⟩ := not_or.mp hmemory
      have hprocess' := Bool.eq_false_of_not_eq_true hprocess
      have hheld : f.held = f.transportHeld := by
        rw [held, previewHeld_of_none h hprocess' (not_not.mp hview) (not_not.mp hmapping),
          List.nil_append]
      rw [hheld]
      exact h.open hprocess' io

end Preview

section Transport

variable {f : MappingHandles η}

/-- The handles of the fields without those of the slot. -/
def others (f : MappingHandles η) : TransportSlot → List (Resource η)
  | .preview => f.previewHeld ++ f.captureTransport.held
  | .capture => f.previewHeld ++ f.previewTransport.held

theorem held_perm (f : MappingHandles η) (slot : TransportSlot) :
    f.held.Perm ((f.transport slot).held ++ f.others slot) := by
  cases slot with
  | preview =>
      show (f.previewHeld ++ (f.previewTransport.held ++ f.captureTransport.held)).Perm
        (f.previewTransport.held ++ (f.previewHeld ++ f.captureTransport.held))
      rw [← List.append_assoc, ← List.append_assoc]
      exact List.perm_append_comm.append_right _
  | capture =>
      show (f.previewHeld ++ (f.previewTransport.held ++ f.captureTransport.held)).Perm
        (f.captureTransport.held ++ (f.previewHeld ++ f.previewTransport.held))
      rw [← List.append_assoc]
      exact List.perm_append_comm

theorem held_setTransport (f : MappingHandles η) (v : HandleVar (Resource η))
    (slot : TransportSlot) : (v.held ++ f.others slot).Perm (f.setTransport v slot).held := by
  have hperm := (f.setTransport v slot).held_perm slot
  cases slot <;> exact hperm.symm

theorem Tidy.transport (h : f.Tidy) (slot : TransportSlot) : f.transport slot ≠ .unset := by
  cases slot with
  | preview => exact h.previewTransport
  | capture => exact h.captureTransport

theorem Tidy.setTransport (h : f.Tidy) {v : HandleVar (Resource η)} (hv : v ≠ .unset)
    (slot : TransportSlot) : (f.setTransport v slot).Tidy := by
  cases slot with
  | preview => exact ⟨h.process, h.noProcess, h.view, h.mapping, hv, h.captureTransport⟩
  | capture => exact ⟨h.process, h.noProcess, h.view, h.mapping, h.previewTransport, hv⟩

variable [DecidableEq η]

/-- The slot holds the new mapping, and the old one is closed. -/
theorem Tidy.serialize (h : f.Tidy) (slot : TransportSlot) {imageBytes : Nat}
    (hfits : imageBytes ≤ 4294967295) (memory : MappingIo η) :
    (f.serializePreview slot imageBytes memory).1.Tidy ∧
      Carries f.held (f.serializePreview slot imageBytes memory).1.held
        (f.serializePreview slot imageBytes memory).2 := by
  have hclosed : Carries f.held (f.others slot) (f.transport slot).close :=
    (carries_close (h.transport slot) _).perm_left (f.held_perm slot)
  have hmemory := hclosed.append (carries_createMapping memory (f.others slot))
  rw [serializePreview, if_neg (Nat.not_lt.mpr hfits)]
  revert hmemory
  rcases memory.createMapping with ⟨_ | ⟨mapping, view⟩, calls⟩
  · intro hmemory
    exact ⟨h.setTransport (v := .null) nofun slot, hmemory.perm (f.held_setTransport .null slot)⟩
  · intro hmemory
    exact ⟨h.setTransport (v := .handle ⟨.closeHandle, mapping⟩) nofun slot,
      hmemory.closed.perm (f.held_setTransport (.handle ⟨.closeHandle, mapping⟩) slot)⟩

end Transport

-- ============================================================================
-- Sequences of calls
-- ============================================================================

variable [DecidableEq η]

theorem Tidy.exec {f : MappingHandles η} (h : f.Tidy) {op : MappingOp η} (hfits : op.Fits) :
    (f.exec op).1.Tidy ∧
      Carries f.held (op.abandoned ++ (f.exec op).1.held) (f.exec op).2 := by
  cases op with
  | startPreview io => exact h.start io
  | stopPreview =>
      refine ⟨h.stop, ?_⟩
      show Carries f.held f.stopPreviewStream.1.held f.stopPreviewStream.2
      rw [held_stop h]
      exact h.carries_stop
  | capture memory recognizer => exact ⟨h, carries_captureSharedPayload memory recognizer f.held⟩
  | serialize slot imageBytes memory => exact h.serialize slot hfits memory

theorem Tidy.execAll {f : MappingHandles η} (h : f.Tidy) {ops : List (MappingOp η)}
    (hfits : ∀ op ∈ ops, op.Fits) :
    (f.execAll ops).1.Tidy ∧
      Carries f.held ((f.execAll ops).1.held ++ ops.flatMap MappingOp.abandoned)
        (f.execAll ops).2 := by
  induction ops generalizing f with
  | nil =>
      rw [List.flatMap_nil, List.append_nil]
      exact ⟨h, carries_nil f.held⟩
  | cons op ops ih =>
      obtain ⟨hop, hops⟩ := List.forall_mem_cons.mp hfits
      obtain ⟨htidy, hcarries⟩ := h.exec hop
      obtain ⟨htidy', hcarries'⟩ := ih htidy hops
      -- what the call has abandoned is a frame for the rest
      have hrest := (hcarries.perm List.perm_append_comm).append (hcarries'.frame op.abandoned)
      rw [List.append_assoc] at hrest
      exact ⟨htidy', hrest.perm (List.perm_append_comm.append_left _)⟩

end MappingHandles

open MappingHandles

/-- In every sequence of starts, stops, captures and answers, whatever the system refuses on
    the way: each handle, view, library and ACL is given back by the right call, while it is
    open, and once; no variable is read before it was written; what is open afterwards is
    what the fields hold and what captures have abandoned, and of that a stop of the preview,
    as in the destructor, leaves the mappings of the last answers and what is abandoned. -/
theorem mappingHandles_kept [DecidableEq η] {ops : List (MappingOp η)}
    (hfits : ∀ op ∈ ops, op.Fits) (hgranted : Granted ∅ (constructed.execAll ops).2) :
    Orderly ∅ (constructed.execAll ops).2 ∧
    Holding ((constructed.execAll ops).1.held ++ ops.flatMap MappingOp.abandoned)
      (openAfter ∅ (constructed.execAll ops).2) ∧
    Orderly (openAfter ∅ (constructed.execAll ops).2)
      (constructed.execAll ops).1.stopPreviewStream.2 ∧
    Holding ((constructed.execAll ops).1.transportHeld ++ ops.flatMap MappingOp.abandoned)
      (openAfter (openAfter ∅ (constructed.execAll ops).2)
        (constructed.execAll ops).1.stopPreviewStream.2) := by
  obtain ⟨htidy, hcarries⟩ := (tidy_constructed (η := η)).execAll hfits
  obtain ⟨horderly, hholding⟩ := hcarries.from_nil hgranted
  refine ⟨horderly, hholding, ?_⟩
  exact htidy.carries_stop _ _ hholding (granted_of_closes (obtained_notMem_stop _) _)

/-- A system that gives everything, each time from `first` on. -/
def exampleMappingIo (first : Nat) : MappingIo Nat where
  security :=
    { localSystemSid := some [18], processToken := some first, processUser := some [18]
      hasConsoleSession := true, wtsapi := some (first + 1), hasQueryUserToken := true
      consoleToken := some (first + 2), consoleUser := some [21], interactiveSid := none
      acl := some (first + 3), described := true }
  mapping := some (first + 4)
  view := some (first + 5)

/-- A preview, an answer with one of its images, a preview that dies at its start, and a
    capture whose test for FaceRecognizer.exe throws. -/
def exampleMappingOps : List (MappingOp Nat) :=
  [.startPreview ⟨false, exampleMappingIo 0, ⟨some true, some (6, 7)⟩, true⟩,
    .serialize .preview 921600 (exampleMappingIo 10),
    .startPreview ⟨false, exampleMappingIo 20, ⟨some true, some (26, 27)⟩, false⟩,
    .capture (exampleMappingIo 30) ⟨none, none⟩]

theorem mappingHandles_example :
    Orderly ∅ (constructed.execAll exampleMappingOps).2 ∧
      Holding [⟨.closeHandle, 14⟩, ⟨.unmapViewOfFile, 35⟩, ⟨.closeHandle, 34⟩]
        (openAfter ∅ (constructed.execAll exampleMappingOps).2) := by
  obtain ⟨horderly, hholding, -⟩ := @mappingHandles_kept Nat _ exampleMappingOps
    (by simp [exampleMappingOps, MappingOp.Fits]) (by decide)
  exact ⟨horderly, hholding⟩

end Smile2Unlock.Service
