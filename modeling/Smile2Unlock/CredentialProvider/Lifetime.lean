/-
  Smile2Unlock.CredentialProvider.Lifetime

  The reference count of a `CSampleCredential` (CSampleCredential.h) and its
  destructor.

  A `HeapCredential` is a credential on the heap together with the list of who
  holds a reference: LogonUI and the provider, and each stop task through its
  `ReleaseGuard`.  Until the last reference is given up the count is the number of
  holders (`sound_of_takes`).  The destructor calls `StopFaceRecognition`, which
  takes a reference for a new stop task: `properLifetime_iff` states what that
  leaves of the promise of a reference count.

  `AddRef` and `Release` are a plain `++` and `--` on a `long`; here each is one step,
  and the count has no bound.
-/

import Smile2Unlock.CredentialProvider.Process

namespace Smile2Unlock.CredentialProvider

open Smile2Unlock Lib Machine

-- ============================================================================
-- The object
-- ============================================================================

/-- A `CSampleCredential` on the heap.  `external` counts the references of LogonUI and
    of the provider, `tasks` are the generations of the stop tasks that hold one.
    After a deletion the fields are what the freed memory happens to keep. -/
structure HeapCredential where
  fields : Credential
  register : StatusRegister
  cRef : Int
  external : Nat
  tasks : List Nat
  deletions : Nat
  terminated : Bool

/-- Who can move the object: the callers of `AddRef` and `Release`, the threads of the
    credential, the `ReleaseGuard` of a stop task, the UDP receiver. -/
inductive HeapEvent where
  | addRef
  | release
  | advise
  | credential (e : CredentialEvent)
  | taskRelease (generation : Nat)
  | deliver (packet : UdpStatusPacket) (beyond : Bytes) (tick : Nat)

/-- `Release`, of LogonUI and the provider or of a stop task. -/
def HeapEvent.isRelease : HeapEvent → Bool
  | .release | .taskRelease _ => true
  | _ => false

namespace HeapCredential

/-- The object that `new` and `Initialize` leave, with the reference of its creator. -/
def created (cpus : UsageScenario) (qualifiedUserName : Option Wide) : HeapCredential where
  fields := .afterInitialize cpus qualifiedUserName
  register := .initial
  cRef := 1
  external := 1
  tasks := []
  deletions := 0
  terminated := false

/-- The number of references that somebody holds. -/
def holders (o : HeapCredential) : Nat := o.external + o.tasks.length

/-- `AddRef` and the start of the stop task at the end of `StopFaceRecognition`. -/
def spawnStopTask (o : HeapCredential) : HeapCredential :=
  { o with cRef := o.cRef + 1, tasks := o.fields.serviceGeneration :: o.tasks }

/-- `delete this`: the destructor stops the recognition and frees the fields. -/
def delete (o : HeapCredential) : HeapCredential :=
  let g := o.fields.serviceGeneration + 1
  let stopped := { o with
    fields := { o.fields with faceRecognitionRunning := false, serviceGeneration := g }.setStop g
      .cancelCheck }.spawnStopTask
  { stopped with
    fields := { stopped.fields with
      ownsProcess := false, qualifiedUserName := none, editText := none, password := none }
    deletions := o.deletions + 1
    -- the member `_faceRecognitionThread` must not be joinable when it is destroyed
    terminated := o.fields.session.isSome }

/-- `Release`. -/
def release (o : HeapCredential) : HeapCredential :=
  let released := { o with cRef := o.cRef - 1 }
  if released.cRef = 0 then released.delete else released

/-- The acting thread may use the object: LogonUI has a reference, the stop task has its
    own; the session thread asks for none. -/
def mayAct (o : HeapCredential) : CredentialEvent → Bool
  | .session _ => true
  | .stopTask g _ => g ∈ o.tasks
  | _ => 0 < o.external

/-- The object after an event of its fields; the second half of `StopFaceRecognition`
    takes the reference of the new task. -/
def withFields (o : HeapCredential) (e : CredentialEvent) (fields : Credential)
    (register : StatusRegister) : HeapCredential :=
  match e with
  | .stopSpawn => { o with fields := fields, register := register }.spawnStopTask
  | _ => { o with fields := fields, register := register }

/-- One event of the object.  LogonUI keeps a reference through each of its calls. -/
def step (platform : Platform) (o : HeapCredential) (e : HeapEvent) :
    Option (HeapCredential × List Output) :=
  if o.terminated then none
  else match e with
  | .addRef =>
      if o.deletions = 0 then some ({ o with cRef := o.cRef + 1, external := o.external + 1 }, [])
      else none
  | .release =>
      if 1 < o.external ∨ (o.external = 1 ∧ o.fields.ui = .idle) then
        some ({ o with external := o.external - 1 }.release, [])
      else none
  | .advise => if 0 < o.external then some (o, []) else none
  | .credential e =>
      if o.mayAct e then
        (o.fields.step platform o.register e).map fun r => (o.withFields e r.1 r.2.1, r.2.2)
      else none
  | .taskRelease g =>
      if g ∈ o.tasks ∧ o.fields.stopTasks g = .done then
        some ({ o with tasks := o.tasks.erase g }.release, [])
      else none
  | .deliver packet beyond tick =>
      some ({ o with register := o.register.receive packet beyond tick }, [])

end HeapCredential

/-- One object from its creation on. -/
def heapCredential (platform : Platform) : Machine HeapCredential HeapEvent Output where
  init o := ∃ cpus qualifiedUserName, o = .created cpus qualifiedUserName
  step o e := o.step platform e

abbrev HeapStep := Transition HeapCredential HeapEvent Output

variable {platform : Platform} {t : HeapStep}

-- ============================================================================
-- What a reference count promises
-- ============================================================================

/-- A `Release` takes the count to zero. -/
def DropsToZero (t : HeapStep) : Prop := t.event.isRelease ∧ t.before.cRef = 1

/-- The object is deleted at the step at which its count first reaches zero and at no
    other; from then on the count is not positive and no task holds a reference. -/
def ProperStep (pre : List HeapStep) (t : HeapStep) : Prop :=
  (t.before.deletions < t.after.deletions ↔ DropsToZero t ∧ ∀ u ∈ pre, ¬ DropsToZero u) ∧
  ((∃ u ∈ pre ++ [t], DropsToZero u) → t.after.cRef ≤ 0 ∧ t.after.tasks = [])

/-- The holder of the only reference gives it up. -/
def GivesUpLast (t : HeapStep) : Prop := t.event.isRelease ∧ t.before.holders = 1

theorem not_givesUpLast (h : t.event.isRelease = false) : ¬ GivesUpLast t := by
  rintro ⟨hrelease, -⟩
  rw [h] at hrelease
  cases hrelease

/-- The object lives and its count is the number of holders. -/
structure HeapCredential.Sound (o : HeapCredential) : Prop where
  alive : o.deletions = 0
  count : o.cRef = o.holders

-- ============================================================================
-- Steps
-- ============================================================================

namespace HeapCredential

theorem sound_created (cpus : UsageScenario) (qualifiedUserName : Option Wide) :
    (created cpus qualifiedUserName).Sound := ⟨rfl, rfl⟩

/-- A `Release` that is not the last one only counts. -/
theorem release_of_ne {o : HeapCredential} (h : o.cRef ≠ 1) :
    o.release = { o with cRef := o.cRef - 1 } := by
  have hne : o.cRef - 1 ≠ 0 := by omega
  rw [release, if_neg hne]

/-- The last `Release` runs the destructor, which takes a new reference. -/
theorem release_of_eq {o : HeapCredential} (h : o.cRef = 1) : o.release.cRef = 1 := by
  have hzero : o.cRef - 1 = 0 := by omega
  rw [release, if_pos hzero]
  simp [delete, spawnStopTask, h]

/-- The object after a release: the reference of the holder is gone before the count
    is lowered. -/
theorem release_of_step {o o' : HeapCredential} {e : HeapEvent} {out : List Output}
    (h : o.step platform e = some (o', out)) (he : e.isRelease) :
    ∃ external tasks, o' = { o with external := external, tasks := tasks }.release ∧
      external + tasks.length + 1 = o.holders := by
  unfold step at h
  split at h
  · cases h
  cases e with
  | release =>
      dsimp only at h
      split at h
      · rename_i hexternal
        cases h
        refine ⟨_, _, rfl, ?_⟩
        rw [holders]
        omega
      · cases h
  | taskRelease g =>
      dsimp only at h
      split at h
      · rename_i htask
        cases h
        refine ⟨_, _, rfl, ?_⟩
        have hlength := List.length_erase_of_mem htask.1
        have hpos := List.length_pos_of_mem htask.1
        rw [holders]
        omega
      · cases h
  | _ => cases he

theorem Sound.withFields {o : HeapCredential} (ho : o.Sound) (e : CredentialEvent)
    (fields : Credential) (register : StatusRegister) :
    (o.withFields e fields register).Sound := by
  have hcount := ho.count
  cases e with
  | stopSpawn =>
      refine ⟨ho.alive, ?_⟩
      simp only [HeapCredential.withFields, holders, spawnStopTask, List.length_cons] at *
      omega
  | _ => exact ⟨ho.alive, hcount⟩

/-- Every other step keeps the count equal to the number of holders. -/
theorem sound_of_step {o o' : HeapCredential} {e : HeapEvent} {out : List Output}
    (h : o.step platform e = some (o', out)) (he : e.isRelease = false) (ho : o.Sound) :
    o'.Sound := by
  unfold step at h
  split at h
  · cases h
  cases e with
  | addRef =>
      dsimp only at h
      split at h
      · cases h
        have hcount := ho.count
        refine ⟨ho.alive, ?_⟩
        simp only [holders] at *
        omega
      · cases h
  | advise =>
      dsimp only at h
      split at h
      · cases h
        exact ho
      · cases h
  | credential ce =>
      dsimp only at h
      split at h
      · obtain ⟨r, -, heq⟩ := Option.map_eq_some_iff.mp h
        cases heq
        exact ho.withFields ce _ _
      · cases h
  | deliver packet beyond tick =>
      cases h
      exact ⟨ho.alive, ho.count⟩
  | release => cases he
  | taskRelease g => cases he

end HeapCredential

/-- A step keeps the object sound, unless the last holder gives up its reference. -/
theorem sound_of_takes (ht : (heapCredential platform).Takes t) (h : t.before.Sound)
    (hlast : ¬ GivesUpLast t) : t.after.Sound ∧ ¬ DropsToZero t := by
  have hcount := h.count
  by_cases he : t.event.isRelease
  · obtain ⟨external, tasks, hafter, hholders⟩ := HeapCredential.release_of_step ht he
    have hne : t.before.cRef ≠ 1 := by
      intro hone
      exact hlast ⟨he, by omega⟩
    refine ⟨?_, fun hdrops => hne hdrops.2⟩
    rw [hafter, HeapCredential.release_of_ne
      (o := { t.before with external := external, tasks := tasks }) hne]
    refine ⟨h.alive, ?_⟩
    simp only [HeapCredential.holders]
    omega
  · exact ⟨HeapCredential.sound_of_step ht (by simpa using he) h, fun hdrops => he hdrops.1⟩

/-- When the last holder gives up its reference the count reaches zero and is one again
    after the destructor. -/
theorem dropsToZero_of_givesUpLast (ht : (heapCredential platform).Takes t) (h : t.before.Sound)
    (hlast : GivesUpLast t) : DropsToZero t ∧ t.after.cRef = 1 := by
  have hone : t.before.cRef = 1 := by
    rw [h.count, hlast.2]
    rfl
  obtain ⟨external, tasks, hafter, -⟩ := HeapCredential.release_of_step ht hlast.1
  exact ⟨⟨hlast.1, hone⟩, by rw [hafter]; exact HeapCredential.release_of_eq hone⟩

-- ============================================================================
-- Runs
-- ============================================================================

/-- Before the last holder gives up its reference nothing is deleted, and the count is
    the number of holders. -/
theorem sound_of_run {tr : List HeapStep} {o : HeapCredential}
    (h : (heapCredential platform).Run tr o) (hlast : ∀ u ∈ tr, ¬ GivesUpLast u) :
    o.Sound ∧ (∀ u ∈ tr, ¬ DropsToZero u) ∧ Always ProperStep tr := by
  refine h.invariant (P := fun tr o => (∀ u ∈ tr, ¬ GivesUpLast u) → o.Sound ∧
    (∀ u ∈ tr, ¬ DropsToZero u) ∧ Always ProperStep tr) ?_ ?_ hlast
  · rintro o ⟨cpus, qualifiedUserName, rfl⟩ -
    exact ⟨HeapCredential.sound_created .., by simp, always_nil⟩
  · intro tr t ih ht hlast
    obtain ⟨hlast, hlastt⟩ := forall_mem_snoc.mp hlast
    obtain ⟨hsound, hdrops, hproper⟩ := ih hlast
    obtain ⟨hafter, hdrop⟩ := sound_of_takes ht hsound hlastt
    refine ⟨hafter, forall_mem_snoc.mpr ⟨hdrops, hdrop⟩, always_snoc.mpr ⟨hproper, ?_, ?_⟩⟩
    · rw [hsound.alive, hafter.alive]
      exact iff_of_false (Nat.lt_irrefl 0) fun h => hdrop h.1
    · rintro ⟨u, hu, hzero⟩
      exact absurd hzero (forall_mem_snoc.mpr ⟨hdrops, hdrop⟩ u hu)

/-- A run keeps the promise of the reference count exactly when no holder gives up the
    only reference left. -/
theorem properLifetime_iff {tr : List HeapStep} {o : HeapCredential}
    (h : (heapCredential platform).Run tr o) :
    Always ProperStep tr ↔ ∀ u ∈ tr, ¬ GivesUpLast u := by
  constructor
  · intro hproper
    refine (h.invariant (P := fun tr o => Always ProperStep tr →
      (∀ u ∈ tr, ¬ GivesUpLast u) ∧ o.Sound) ?_ ?_ hproper).1
    · rintro o ⟨cpus, qualifiedUserName, rfl⟩ -
      exact ⟨by simp, HeapCredential.sound_created ..⟩
    · intro tr t ih ht hproper
      obtain ⟨hproper, hstep⟩ := always_snoc.mp hproper
      obtain ⟨hlast, hsound⟩ := ih hproper
      by_cases hgives : GivesUpLast t
      · -- the destructor has taken a reference
        obtain ⟨hdrops, hone⟩ := dropsToZero_of_givesUpLast ht hsound hgives
        have hpositive := (hstep.2 ⟨t, by simp, hdrops⟩).1
        omega
      · exact ⟨forall_mem_snoc.mpr ⟨hlast, hgives⟩, (sound_of_takes ht hsound hgives).1⟩
  · exact fun hlast => (sound_of_run h hlast).2.2

theorem created_run (cpus : UsageScenario) (qualifiedUserName : Option Wide) :
    (heapCredential examplePlatform).Run [] (.created cpus qualifiedUserName) :=
  .nil ⟨cpus, qualifiedUserName, rfl⟩

/-- Two stops; the task of the first finds its generation outdated and gives up its
    reference. -/
theorem properLifetime_twoStops : ∃ tr o, (heapCredential examplePlatform).Run tr o ∧
    tr.length = 6 ∧ o.cRef = 2 ∧ Always ProperStep tr := by
  have h1 := (created_run .logon none).event (e := .credential .stopFlag) rfl
  have h2 := h1.event (e := .credential .stopSpawn) rfl
  have h3 := h2.event (e := .credential .stopFlag) rfl
  have h4 := h3.event (e := .credential .stopSpawn) rfl
  have h5 := h4.event (e := .credential (.stopTask 1 .advance)) rfl
  have h6 := h5.event (e := .taskRelease 1) rfl
  refine ⟨_, _, h6, rfl, rfl, (properLifetime_iff h6).mpr (forall_mem_snoc.mpr ⟨?_, ?_⟩)⟩
  · iterate 5
      refine forall_mem_snoc.mpr ⟨?_, not_givesUpLast rfl⟩
    simp
  · rintro ⟨-, hholders⟩
    exact absurd hholders (by decide)

/-- The provider gives up the only reference: the count reaches zero, the object is
    deleted, and its destructor leaves a task with a reference to it. -/
theorem properLifetime_fails :
    ¬ ∀ (tr : List HeapStep) (o : HeapCredential), (heapCredential examplePlatform).Run tr o →
      Always ProperStep tr := by
  intro hall
  have h1 := (created_run .logon none).event (e := .release) rfl
  obtain ⟨-, -, hproper⟩ := always_snoc.mp (hall _ _ h1)
  have hcount := (hproper ⟨_, List.mem_singleton_self _, rfl, rfl⟩).1
  exact absurd hcount (by decide)

end Smile2Unlock.CredentialProvider
