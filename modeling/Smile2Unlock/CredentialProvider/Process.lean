/-
  Smile2Unlock.CredentialProvider.Process

  The Credential Provider as a machine: the credentials of a process share one
  status register, the receiver writes it, and the threads of all credentials take
  their steps in any order.

  `Credential.cases_of_step` says what an event of a credential can be;
  `session_of_mem_sent` leads from an output back to the session thread that
  sent it.
-/

import Smile2Unlock.Lib.Machine
import Smile2Unlock.CredentialProvider.Credential

namespace Smile2Unlock.CredentialProvider

open Smile2Unlock Lib

structure Process (ι : Type) where
  register : StatusRegister
  credentials : ι → Credential

inductive ProcessEvent (ι : Type) where
  | deliver (packet : UdpStatusPacket) (beyond : Bytes) (tick : Nat)
  | credential (i : ι) (e : CredentialEvent)

variable {ι : Type} [DecidableEq ι]

def Process.step (platform : Platform) (s : Process ι) :
    ProcessEvent ι → Option (Process ι × List (ι × Output))
  | .deliver packet beyond tick =>
      some ({ s with register := s.register.receive packet beyond tick }, [])
  | .credential i e =>
      ((s.credentials i).step platform s.register e).map fun r =>
        ({ register := r.2.1, credentials := Function.update s.credentials i r.1 },
          r.2.2.map fun out => (i, out))

/-- The process after its credentials are initialized. -/
def process (ι : Type) [DecidableEq ι] (platform : Platform) :
    Machine (Process ι) (ProcessEvent ι) (ι × Output) where
  init s := s.register = .initial ∧
    ∀ i, ∃ cpus qualifiedUserName, s.credentials i = .afterInitialize cpus qualifiedUserName
  step s e := s.step platform e

abbrev ProcessStep (ι : Type) := Transition (Process ι) (ProcessEvent ι) (ι × Output)

variable {platform : Platform} {t : ProcessStep ι}

-- ============================================================================
-- Steps of a credential
-- ============================================================================

/-- The thread that sends an output; LogonUI's own thread is none of them. -/
def Output.owner : Output → Option Owner
  | .authRequest owner _ _ _ => some owner
  | .passwordRequest generation _ _ => some (.session generation)
  | .credentialReady generation => some (.session generation)
  | .terminatesService owner => some owner
  | .serialized _ _ => none

namespace Credential

/-- A call of LogonUI without effect on the threads: it may write fields and reset the
    status, and sends at most the serialized account. -/
structure Calls (platform : Platform) (c : Credential) (register : StatusRegister)
    (e : CredentialEvent) (c' : Credential) (register' : StatusRegister) (out : List Output) :
    Prop where
  fields : ∃ running pwzUsername editText password ui, c' = { c with
    faceRecognitionRunning := running, pwzUsername := pwzUsername, editText := editText,
    password := password, ui := ui }
  username : c'.pwzUsername = c.pwzUsername ∨
    ∃ text, e = .setEditText text ∧ c'.pwzUsername = some text
  register : register' = register ∨ register' = { register with faceRecognitionStatus := .idle }
  out : ∀ o ∈ out, ∃ account, o = .serialized account c.password ∧
    packedAccount platform c.cpus c.qualifiedUserName c.pwzUsername c.editText = some account

variable {platform : Platform} {c c' : Credential} {register register' : StatusRegister}
  {e : CredentialEvent} {out : List Output}

/-- A call that leaves `_pwzUsername` and the status and sends nothing. -/
theorem Calls.silent {running : Bool} {editText password : Option Wide} {ui : UiPc} :
    c.Calls platform register e { c with
      faceRecognitionRunning := running, editText := editText, password := password, ui := ui }
      register [] where
  fields := ⟨_, _, _, _, _, rfl⟩
  username := Or.inl rfl
  register := Or.inl rfl
  out := by simp

/-- What a step can be: of the session thread, of a stop task, a new session, a new stop
    task, or a call. -/
inductive StepKind (platform : Platform) (c : Credential) (register : StatusRegister)
    (e : CredentialEvent) (c' : Credential) (register' : StatusRegister) (out : List Output) :
    Prop where
  | session (se : SessionEvent) (ses : Session) (c₁ : Credential) (pc' : SessionPc)
      (he : e = .session se) (hses : c.session = some ses)
      (hs : c.sessionStep platform register ses.generation ses.pc se = some (c₁, pc', out))
      (hafter : c' = { c₁ with session := some ⟨ses.generation, pc'⟩ })
      (hregister : register' = register)
  | stopTask (g : Nat) (se : StopEvent) (c₁ : Credential) (pc' : StopPc)
      (he : e = .stopTask g se)
      (hs : c.stopStep platform register g (c.stopTasks g) se = some (c₁, pc', out))
      (hafter : c' = c₁.setStop g pc') (hregister : register' = register)
  | start (hafter : c.startSession register = (c', register')) (hout : out = [])
  | stop (hafter : c' = { c with
        serviceGeneration := c.serviceGeneration + 1, ui := .idle }.setStop
          (c.serviceGeneration + 1) .cancelCheck)
      (hregister : register' = register) (hout : out = [])
  | call (hcalls : c.Calls platform register e c' register' out)

/-- An event of the session thread is a step of that thread. -/
theorem sessionStep_of_step {se : SessionEvent}
    (h : c.step platform register (.session se) = some (c', register', out)) :
    ∃ ses c₁ pc', c.session = some ses ∧
      c.sessionStep platform register ses.generation ses.pc se = some (c₁, pc', out) ∧
      c' = { c₁ with session := some ⟨ses.generation, pc'⟩ } ∧ register' = register := by
  rw [step] at h
  split at h
  · cases h
  cases hses : c.session with
  | none => simp [perform, hses] at h
  | some ses =>
      simp only [perform, hses, Option.map_eq_some_iff] at h
      obtain ⟨⟨c₁, pc', outs⟩, hstep, heq⟩ := h
      cases heq
      exact ⟨ses, c₁, pc', rfl, hstep, rfl, rfl⟩

/-- The inversion of a step. -/
theorem cases_of_step (h : c.step platform register e = some (c', register', out)) :
    c.StepKind platform register e c' register' out := by
  have hperform := h
  rw [step] at h
  split at h
  · cases h
  cases e with
  | session se =>
      obtain ⟨ses, c₁, pc', hses, hstep, hafter, hregister⟩ := sessionStep_of_step hperform
      exact .session se ses c₁ pc' rfl hses hstep hafter hregister
  | stopTask g se =>
      simp only [perform, Option.map_eq_some_iff] at h
      obtain ⟨⟨c₁, pc', outs⟩, hstep, heq⟩ := h
      cases heq
      exact .stopTask g se c₁ pc' rfl hstep rfl rfl
  | start processAlive =>
      simp only [perform] at h
      split at h
      · cases h
        exact .call .silent
      · split at h
        · cases h
          exact .call .silent
        · cases h
          exact .start rfl rfl
  | joined =>
      simp only [perform] at h
      split at h
      · cases h
        exact .start rfl rfl
      · cases h
  | stopSpawn =>
      simp only [perform] at h
      split at h
      · cases h
      · cases h
        exact .stop rfl rfl rfl
  | getSerialization =>
      simp only [perform] at h
      split at h
      · rename_i account haccount
        cases h
        exact .call ⟨⟨_, _, _, _, _, rfl⟩, Or.inl rfl, Or.inl rfl, by simp [haccount]⟩
      · cases h
        exact .call .silent
  | stopFlag =>
      cases h
      exact .call .silent
  | resetStatus =>
      cases h
      exact .call ⟨⟨_, _, _, _, _, rfl⟩, Or.inl rfl, Or.inr rfl, by simp⟩
  | setEditText text =>
      cases h
      exact .call ⟨⟨_, _, _, _, _, rfl⟩, Or.inr ⟨text, rfl, rfl⟩, Or.inl rfl, by simp⟩
  | setPassword text =>
      cases h
      exact .call .silent
  | clearPassword =>
      cases h
      exact .call .silent

/-- A step of the session thread leaves the generation, the stop tasks and LogonUI's
    thread. -/
theorem sessionStep_frame {g : Nat} {pc pc' : SessionPc} {se : SessionEvent}
    (h : c.sessionStep platform register g pc se = some (c', pc', out)) :
    ∃ running owns editText pwzUsername password, c' = { c with
      faceRecognitionRunning := running, ownsProcess := owns, editText := editText,
      pwzUsername := pwzUsername, password := password } := by
  cases cases_of_sessionStep h
  all_goals exact ⟨_, _, _, _, _, rfl⟩

/-- A step of a stop task changes at most the process handle. -/
theorem stopStep_frame {g : Nat} {pc pc' : StopPc} {se : StopEvent}
    (h : c.stopStep platform register g pc se = some (c', pc', out)) :
    ∃ owns, c' = { c with ownsProcess := owns } := by
  unfold stopStep at h
  split at h
  case h_2 =>
    obtain ⟨r, -, heq⟩ := Option.map_eq_some_iff.mp h
    cases heq
    exact ⟨_, rfl⟩
  all_goals cases h
  all_goals exact ⟨_, rfl⟩

/-- The session after a step: it was there, or its thread took a step, or it is new and
    the status has been reset. -/
theorem session_of_step {ses' : Session} (h : c.step platform register e = some (c', register', out))
    (hses : c'.session = some ses') :
    c.session = some ses' ∨
    (∃ se pc c₁, e = .session se ∧ c.session = some ⟨ses'.generation, pc⟩ ∧
      c.sessionStep platform register ses'.generation pc se = some (c₁, ses'.pc, out)) ∨
    (ses'.pc = .launching ∧ register'.faceRecognitionStatus = .idle) := by
  rcases cases_of_step h with ⟨se, ses, c₁, pc', rfl, hses₀, hs, rfl, -⟩ |
    ⟨g₁, se, c₁, pc', -, hs, rfl, -⟩ | ⟨hstart, -⟩ | ⟨rfl, -, -⟩ | hcalls
  · cases hses
    exact Or.inr (Or.inl ⟨se, ses.pc, c₁, rfl, hses₀, hs⟩)
  · obtain ⟨_, rfl⟩ := stopStep_frame hs
    exact Or.inl hses
  · cases hstart
    cases hses
    exact Or.inr (Or.inr ⟨rfl, rfl⟩)
  · exact Or.inl hses
  · obtain ⟨_, _, _, _, _, rfl⟩ := hcalls.fields
    exact Or.inl hses

/-- A step of a credential keeps the status or resets it. -/
theorem status_of_step (h : c.step platform register e = some (c', register', out)) :
    register'.faceRecognitionStatus = register.faceRecognitionStatus ∨
      register'.faceRecognitionStatus = .idle := by
  rcases cases_of_step h with ⟨_, _, _, _, -, -, -, -, rfl⟩ | ⟨_, _, _, _, -, -, -, rfl⟩ |
    ⟨hstart, -⟩ | ⟨-, rfl, -⟩ | hcalls
  · exact Or.inl rfl
  · exact Or.inl rfl
  · cases hstart
    exact Or.inr rfl
  · exact Or.inl rfl
  · rcases hcalls.register with rfl | rfl
    · exact Or.inl rfl
    · exact Or.inr rfl

theorem mem_authOutput {owner : Owner} {type : AuthRequestType} {send : AuthSend}
    {ae : AuthSendEvent} {o : Output} (h : o ∈ authOutput owner type send ae) :
    ∃ sessionId, ae = .send true sessionId ∧
      o = .authRequest owner type send.usernameHint sessionId := by
  rw [authOutput] at h
  match ae, h with
  | .send true sessionId, h => exact ⟨sessionId, rfl, List.mem_singleton.mp h⟩

/-- What the session thread of a generation sends carries that generation. -/
theorem owner_of_sessionStep {g : Nat} {pc pc' : SessionPc} {se : SessionEvent} {o : Output}
    (h : c.sessionStep platform register g pc se = some (c', pc', out)) (ho : o ∈ out) :
    o.owner = some (.session g) := by
  cases cases_of_sessionStep h
  case starting =>
    obtain ⟨sessionId, -, rfl⟩ := mem_authOutput ho
    rfl
  case asked =>
    rw [List.mem_singleton.mp ho]
    rfl
  case notifying =>
    split at ho
    · rw [List.mem_singleton.mp ho]
      rfl
    · cases ho
  case terminating =>
    rw [List.mem_singleton.mp ho]
    rfl
  all_goals cases ho

/-- What the stop task of a generation sends carries that generation. -/
theorem owner_of_stopStep {g : Nat} {pc pc' : StopPc} {se : StopEvent} {o : Output}
    (h : c.stopStep platform register g pc se = some (c', pc', out)) (ho : o ∈ out) :
    o.owner = some (.stopTask g) := by
  unfold stopStep at h
  split at h
  case h_2 =>
    obtain ⟨r, -, heq⟩ := Option.map_eq_some_iff.mp h
    cases heq
    obtain ⟨sessionId, -, rfl⟩ := mem_authOutput ho
    rfl
  case h_4 =>
    cases h
    rw [List.mem_singleton.mp ho]
    rfl
  all_goals cases h
  all_goals cases ho

end Credential

-- ============================================================================
-- Steps of the process
-- ============================================================================

/-- An event of a credential: its own step, and nothing else changes. -/
theorem takes_of_credential {i : ι} {e : CredentialEvent} (ht : (process ι platform).Takes t)
    (he : t.event = .credential i e) :
    ∃ out, (t.before.credentials i).step platform t.before.register e =
        some (t.after.credentials i, t.after.register, out) ∧
      t.sent = out.map (fun o => (i, o)) ∧
      ∀ j, j ≠ i → t.after.credentials j = t.before.credentials j := by
  have hstep : t.before.step platform t.event = some (t.after, t.sent) := ht
  rw [he] at hstep
  obtain ⟨r, hr, heq⟩ := Option.map_eq_some_iff.mp hstep
  have hafter : _ = t.after := congrArg Prod.fst heq
  have hsent : _ = t.sent := congrArg Prod.snd heq
  refine ⟨r.2.2, ?_, hsent.symm, fun j hj => ?_⟩
  · rw [hr, ← hafter]
    simp
  · rw [← hafter]
    exact Function.update_of_ne hj _ _

theorem takes_of_deliver {packet : UdpStatusPacket} {beyond : Bytes} {tick : Nat}
    (ht : (process ι platform).Takes t) (he : t.event = .deliver packet beyond tick) :
    t.after.register = t.before.register.receive packet beyond tick ∧
      t.after.credentials = t.before.credentials ∧ t.sent = [] := by
  have hstep : t.before.step platform t.event = some (t.after, t.sent) := ht
  rw [he] at hstep
  have heq := Option.some.inj hstep
  exact ⟨congrArg (fun r => r.1.register) heq.symm,
    congrArg (fun r => r.1.credentials) heq.symm, congrArg Prod.snd heq.symm⟩

/-- A step is an event of the credential, or it leaves the credential alone. -/
theorem credential_of_takes (ht : (process ι platform).Takes t) (i : ι) :
    (∃ e out, t.event = .credential i e ∧
      (t.before.credentials i).step platform t.before.register e =
        some (t.after.credentials i, t.after.register, out) ∧
      ∀ o, (i, o) ∈ t.sent ↔ o ∈ out) ∨
    ((∀ e, t.event ≠ .credential i e) ∧ t.after.credentials i = t.before.credentials i ∧
      ∀ o, (i, o) ∉ t.sent) := by
  cases he : t.event with
  | deliver packet beyond tick =>
      obtain ⟨-, hafter, hsent⟩ := takes_of_deliver ht he
      exact Or.inr ⟨by simp, by rw [hafter], by simp [hsent]⟩
  | credential j e =>
      obtain ⟨out, hstep, hsent, hother⟩ := takes_of_credential ht he
      by_cases hij : i = j
      · subst hij
        exact Or.inl ⟨e, out, rfl, hstep, by simp [hsent]⟩
      · refine Or.inr ⟨?_, hother i hij, ?_⟩
        · rintro e' heq
          cases heq
          exact hij rfl
        · simp [hsent, Ne.symm hij]

/-- What `Initialize` sets up and every step of a credential keeps holds of each
    credential in every run. -/
theorem credential_invariant {P : Credential → Prop} {tr : List (ProcessStep ι)} {s : Process ι}
    (h0 : ∀ cpus qualifiedUserName, P (.afterInitialize cpus qualifiedUserName))
    (hstep : ∀ c c' register register' e out, P c →
      c.step platform register e = some (c', register', out) → P c')
    (h : (process ι platform).Run tr s) (i : ι) : P (s.credentials i) := by
  refine h.invariant (P := fun _ s => P (s.credentials i)) ?_ ?_
  · rintro s₀ ⟨-, hinit⟩
    obtain ⟨cpus, qualifiedUserName, heq⟩ := hinit i
    rw [heq]
    exact h0 cpus qualifiedUserName
  · intro _ t hP ht
    rcases credential_of_takes ht i with ⟨e, out, -, hs, -⟩ | ⟨-, hafter, -⟩
    · exact hstep _ _ _ _ _ _ hP hs
    · rw [hafter]
      exact hP

/-- An output of a session thread comes from a step of that thread. -/
theorem session_of_mem_sent {i : ι} {g : Nat} {o : Output} (ht : (process ι platform).Takes t)
    (h : (i, o) ∈ t.sent) (ho : o.owner = some (.session g)) :
    ∃ se pc c' pc' outs, t.event = .credential i (.session se) ∧
      (t.before.credentials i).session = some ⟨g, pc⟩ ∧ o ∈ outs ∧
      (t.before.credentials i).sessionStep platform t.before.register g pc se =
        some (c', pc', outs) ∧
      t.after.credentials i = { c' with session := some ⟨g, pc'⟩ } := by
  rcases credential_of_takes ht i with ⟨e, outs, he, hstep, hsent⟩ | ⟨-, -, hsent⟩
  swap
  · exact absurd h (hsent o)
  have hmem : o ∈ outs := (hsent o).mp h
  rcases Credential.cases_of_step hstep with ⟨se, ses, c', pc', rfl, hses, hs, hafter, -⟩ |
    ⟨g', se, c', pc', -, hs, -, -⟩ | ⟨-, rfl⟩ | ⟨-, -, rfl⟩ | hcalls
  · have howner := Credential.owner_of_sessionStep hs hmem
    rw [ho] at howner
    obtain ⟨generation, pc⟩ := ses
    cases howner
    exact ⟨se, pc, c', pc', outs, he, hses, hmem, hs, hafter⟩
  · have howner := Credential.owner_of_stopStep hs hmem
    rw [ho] at howner
    cases howner
  · cases hmem
  · cases hmem
  · obtain ⟨account, rfl, -⟩ := hcalls.out o hmem
    cases ho

/-- An ASCII text. -/
def exampleWide (text : String) : Wide := (utf8 text).map fun b => UInt16.ofNat b.toNat

/-- A platform whose strings are ASCII, with the computer name "PC". -/
def examplePlatform : Platform where
  toUtf8 wide := wide.map fun unit => UInt8.ofNat unit.toNat
  toWide bytes := some (bytes.map fun b => UInt16.ofNat b.toNat)
  computerName := some (exampleWide "PC")

/-- A process with one tile. -/
def exampleProcess (cpus : UsageScenario) (qualifiedUserName : Option Wide) : Process Unit where
  register := .initial
  credentials := fun _ => .afterInitialize cpus qualifiedUserName

/-- A status datagram of the service. -/
def exampleDatagram (status : RecognitionStatus) (username : Bytes) (sessionId : UInt32)
    (tick : Nat) : ProcessEvent Unit :=
  .deliver (statusPacket status username sessionId [] nil_fits_feature 0) [] tick

theorem exampleProcess_run (cpus : UsageScenario) (qualifiedUserName : Option Wide) :
    (process Unit examplePlatform).Run [] (exampleProcess cpus qualifiedUserName) :=
  .nil ⟨rfl, fun _ => ⟨cpus, qualifiedUserName, rfl⟩⟩

end Smile2Unlock.CredentialProvider
