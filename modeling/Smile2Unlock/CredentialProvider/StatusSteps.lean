/-
  Smile2Unlock.CredentialProvider.StatusSteps

  `UdpReceiver::receive_loop` (udp_receiver.h) one assignment at a time, as the threads
  that read the register see it.

  A valid packet is written in five steps, the status first and the name third
  (`fiveSteps_eq_receive`: together they are `StatusRegister.receive`).  Between them a
  thread can read the new status with the old name.  `namedRun_iff` says in which runs no
  state shows SUCCESS beside another name than that of its packet.
-/

import Smile2Unlock.CredentialProvider.StatusRegister
import Smile2Unlock.Lib.Machine

namespace Smile2Unlock.CredentialProvider

open Smile2Unlock Lib

-- ============================================================================
-- The steps
-- ============================================================================

/-- A packet with what lies in memory behind it. -/
structure ReceivedPacket where
  packet : UdpStatusPacket
  beyond : Bytes

/-- `std::string(packet.username)`. -/
def ReceivedPacket.username (received : ReceivedPacket) : Bytes :=
  received.packet.usernameText received.beyond

/-- The assignments behind the first one. -/
inductive Assignment where
  | statusTick
  | username
  | sessionId
  | feature
deriving DecidableEq

/-- The register, and the packet that is being written with its next assignment. -/
structure StatusWriter where
  register : StatusRegister
  writing : Option (ReceivedPacket × Assignment)

/-- What happens to the register: a valid packet arrives and its status is stored, the
    next assignment is made (`tick` is what `GetTickCount64` then returns), or a
    credential sets the status to IDLE for a new session. -/
inductive RegisterEvent where
  | arrive (received : ReceivedPacket)
  | assign (tick : Nat)
  | newSession

namespace StatusWriter

/-- `face_recognition_status.exchange`. -/
def arrive (s : StatusWriter) (received : ReceivedPacket) : StatusWriter where
  register := { s.register with
    faceRecognitionStatus := RecognitionStatus.ofCode received.packet.statusCode }
  writing := some (received, .statusTick)

/-- The next assignment of the packet. -/
def assign (s : StatusWriter) (received : ReceivedPacket) (tick : Nat) : Assignment → StatusWriter
  | .statusTick => ⟨{ s.register with faceRecognitionStatusTick := tick },
      some (received, .username)⟩
  | .username => ⟨{ s.register with
      recognizedUsername :=
        if received.packet.username.bytes.head? ≠ some 0 then received.username
        else s.register.recognizedUsername }, some (received, .sessionId)⟩
  | .sessionId => ⟨{ s.register with recognizedSessionId := received.packet.sessionId },
      some (received, .feature)⟩
  | .feature => ⟨{ s.register with recognizedFeature := received.packet.featureText }, none⟩

/-- The packet passes the checks of the loop. -/
def Valid (received : ReceivedPacket) : Prop :=
  received.packet.magicNumber = magicNumber ∧ received.packet.version = protocolVersion

instance (received : ReceivedPacket) : Decidable (Valid received) :=
  inferInstanceAs (Decidable (_ ∧ _))

/-- The loop takes a packet when it has written the one before. -/
def step (s : StatusWriter) : RegisterEvent → Option (StatusWriter × List Empty)
  | .arrive received =>
      if s.writing.isNone ∧ Valid received then some (s.arrive received, []) else none
  | .assign tick =>
      match s.writing with
      | none => none
      | some (received, next) => some (s.assign received tick next, [])
  | .newSession =>
      some ({ s with register := { s.register with faceRecognitionStatus := .idle } }, [])

/-- The five steps of a packet are what the loop does with it. -/
theorem fiveSteps_eq_receive (s : StatusWriter) {received : ReceivedPacket} (h : Valid received)
    (tick : Nat) :
    [Assignment.statusTick, .username, .sessionId, .feature].foldl
      (fun s next => s.assign received tick next) (s.arrive received) =
      ⟨s.register.receive received.packet received.beyond tick, none⟩ := by
  have hvalid : ¬ (received.packet.magicNumber ≠ magicNumber ∨
      received.packet.version ≠ protocolVersion) := by
    rw [not_or, not_not, not_not]
    exact h
  rw [StatusRegister.receive, if_neg hvalid]
  rfl

end StatusWriter

/-- The register from its initial values on. -/
def statusWriter : Machine StatusWriter RegisterEvent Empty where
  init s := s = ⟨.initial, none⟩
  step s e := s.step e

-- ============================================================================
-- The name beside SUCCESS
-- ============================================================================

abbrev RegisterTrace := List (Transition StatusWriter RegisterEvent Empty)

/-- The packet whose status an event stores. -/
def RegisterEvent.packet : RegisterEvent → Option ReceivedPacket
  | .arrive received => some received
  | _ => none

/-- The packet that has set the status. -/
def setBy (tr : RegisterTrace) : Option ReceivedPacket := newest (fun t => t.event.packet) tr

/-- If the register shows SUCCESS, its name is that of the packet that set it. -/
def Named (tr : RegisterTrace) (s : StatusWriter) : Prop :=
  s.register.faceRecognitionStatus = .success →
    (setBy tr).map (·.username) = some s.register.recognizedUsername

/-- `Named` in every state of a run. -/
def NamedRun (tr : RegisterTrace) : Prop := Always (fun pre t => Named (pre ++ [t]) t.after) tr

/-- A packet with SUCCESS comes only when the register already has its name. -/
def NameAlreadyThere (t : Transition StatusWriter RegisterEvent Empty) : Prop :=
  ∀ received ∈ t.event.packet, RecognitionStatus.ofCode received.packet.statusCode = .success →
    t.before.register.recognizedUsername = received.username

theorem setBy_arrive (tr : RegisterTrace) {t : Transition StatusWriter RegisterEvent Empty}
    {received : ReceivedPacket} (h : t.event = .arrive received) :
    setBy (tr ++ [t]) = some received := by
  rw [setBy, newest_snoc, h]
  rfl

theorem setBy_other (tr : RegisterTrace) {t : Transition StatusWriter RegisterEvent Empty}
    (h : t.event.packet = none) : setBy (tr ++ [t]) = setBy tr := by
  rw [setBy, newest_snoc, h]
  rfl

/-- What the runs under the condition keep: the packet being written is the one that has
    set the status. -/
structure Ordered (tr : RegisterTrace) (s : StatusWriter) : Prop where
  writing : ∀ received next, s.writing = some (received, next) → setBy tr = some received
  named : Named tr s

/-- What the machine does with an event. -/
theorem takes_arrive {t : Transition StatusWriter RegisterEvent Empty}
    {received : ReceivedPacket} (h : t.event = .arrive received) (ht : statusWriter.Takes t) :
    t.after = t.before.arrive received := by
  have hstep : t.before.step t.event = some (t.after, t.sent) := ht
  rw [h, StatusWriter.step] at hstep
  split at hstep
  · exact (Prod.mk.inj (Option.some.inj hstep)).1.symm
  · cases hstep

theorem takes_assign {t : Transition StatusWriter RegisterEvent Empty} {tick : Nat}
    (h : t.event = .assign tick) (ht : statusWriter.Takes t) :
    ∃ received next, t.before.writing = some (received, next) ∧
      t.after = t.before.assign received tick next := by
  have hstep : t.before.step t.event = some (t.after, t.sent) := ht
  rw [h, StatusWriter.step] at hstep
  split at hstep
  · cases hstep
  · rename_i received next hwriting
    exact ⟨received, next, hwriting, (Prod.mk.inj (Option.some.inj hstep)).1.symm⟩

theorem takes_newSession {t : Transition StatusWriter RegisterEvent Empty}
    (h : t.event = .newSession) (ht : statusWriter.Takes t) :
    t.after = { t.before with
      register := { t.before.register with faceRecognitionStatus := .idle } } := by
  have hstep : t.before.step t.event = some (t.after, t.sent) := ht
  rw [h] at hstep
  exact (Prod.mk.inj (Option.some.inj hstep)).1.symm

/-- An assignment behind the status leaves the status, and of the name only that of the
    packet that has set it can come. -/
theorem ordered_assign {tr : RegisterTrace} {s : StatusWriter} {received : ReceivedPacket}
    {next : Assignment} (h : Ordered tr s) (hwriting : s.writing = some (received, next))
    (tick : Nat) : Ordered tr (s.assign received tick next) := by
  have hset := h.writing received next hwriting
  cases next with
  | statusTick | sessionId =>
      refine ⟨?_, h.named⟩
      intro received' next' hwriting'
      obtain ⟨rfl, -⟩ := Prod.mk.inj (Option.some.inj hwriting')
      exact hset
  | username =>
      refine ⟨?_, ?_⟩
      · intro received' next' hwriting'
        obtain ⟨rfl, -⟩ := Prod.mk.inj (Option.some.inj hwriting')
        exact hset
      · intro hsuccess
        show _ = some (if received.packet.username.bytes.head? ≠ some 0 then received.username
          else s.register.recognizedUsername)
        split
        · rw [hset]
          rfl
        · exact h.named hsuccess
  | feature =>
      refine ⟨?_, h.named⟩
      intro received' next' hwriting'
      cases hwriting'

/-- The step lemma of the runs under the condition. -/
theorem ordered_step {tr : RegisterTrace} {t : Transition StatusWriter RegisterEvent Empty}
    (h : Ordered tr t.before) (ht : statusWriter.Takes t) (hname : NameAlreadyThere t) :
    Ordered (tr ++ [t]) t.after := by
  cases hevent : t.event with
  | arrive received =>
      have hset := setBy_arrive tr hevent
      rw [takes_arrive hevent ht]
      refine ⟨?_, ?_⟩
      · intro received' next' hwriting
        obtain ⟨rfl, -⟩ := Prod.mk.inj (Option.some.inj hwriting)
        exact hset
      · intro hsuccess
        have hthere := hname received (by rw [hevent]; rfl) hsuccess
        rw [hset]
        exact congrArg some hthere.symm
  | assign tick =>
      have hset := setBy_other tr (t := t) (by rw [hevent]; rfl)
      obtain ⟨received, next, hwriting, hafter⟩ := takes_assign hevent ht
      have hassigned := ordered_assign h hwriting tick
      rw [hafter]
      refine ⟨?_, ?_⟩
      · rw [hset]
        exact hassigned.writing
      · rw [Named, hset]
        exact hassigned.named
  | newSession =>
      have hset := setBy_other tr (t := t) (by rw [hevent]; rfl)
      rw [takes_newSession hevent ht]
      refine ⟨?_, fun hsuccess => nomatch hsuccess⟩
      rw [hset]
      exact h.writing

/-- Every state that shows SUCCESS has the name of the packet that set it exactly if each
    packet with SUCCESS came when the register already had its name. -/
theorem namedRun_iff {tr : RegisterTrace} {s : StatusWriter} (h : statusWriter.Run tr s) :
    NamedRun tr ↔ Always (fun _ t => NameAlreadyThere t) tr := by
  constructor
  · intro hnamed pre t post heq received hreceived hsuccess
    obtain ⟨-, ht⟩ := h.cut pre t post heq
    have hstate : Named (pre ++ [t]) t.after := hnamed pre t post heq
    cases hevent : t.event with
    | arrive received' =>
        rw [hevent] at hreceived
        obtain rfl := Option.some.inj hreceived
        rw [Named, setBy_arrive pre hevent, takes_arrive hevent ht] at hstate
        exact (Option.some.inj (hstate hsuccess)).symm
    | assign | newSession =>
        rw [hevent] at hreceived
        cases hreceived
  · intro hC
    have hordered : Ordered tr s ∧ NamedRun tr := by
      refine h.invariant_under (P := fun tr s => Ordered tr s ∧ NamedRun tr) ?_ ?_ hC
      · rintro s₀ rfl
        refine ⟨⟨?_, ?_⟩, always_nil⟩
        · intro received next hwriting
          cases hwriting
        · intro hsuccess
          cases hsuccess
      · rintro tr t ⟨hold, hnamed⟩ ht hname
        have hnew := ordered_step hold ht hname
        exact ⟨hnew, always_snoc.mpr ⟨hnamed, hnew.named⟩⟩
    exact hordered.2

/-- The transitions that write a packet. -/
def packetTrace (s : StatusWriter) (received : ReceivedPacket) (tick : Nat) : RegisterTrace :=
  let s₁ := s.arrive received
  let s₂ := s₁.assign received tick .statusTick
  let s₃ := s₂.assign received tick .username
  let s₄ := s₃.assign received tick .sessionId
  [⟨s, .arrive received, [], s₁⟩, ⟨s₁, .assign tick, [], s₂⟩, ⟨s₂, .assign tick, [], s₃⟩,
    ⟨s₃, .assign tick, [], s₄⟩, ⟨s₄, .assign tick, [], s₄.assign received tick .feature⟩]

theorem step_arrive {s : StatusWriter} {received : ReceivedPacket} (hidle : s.writing = none)
    (hvalid : StatusWriter.Valid received) :
    statusWriter.step s (.arrive received) = some (s.arrive received, []) :=
  if_pos ⟨by rw [hidle]; rfl, hvalid⟩

theorem steps_packetTrace {s : StatusWriter} {received : ReceivedPacket} (hidle : s.writing = none)
    (hvalid : StatusWriter.Valid received) (tick : Nat) :
    statusWriter.Steps s (packetTrace s received tick)
      ⟨s.register.receive received.packet received.beyond tick, none⟩ := by
  rw [← StatusWriter.fiveSteps_eq_receive s hvalid tick]
  have harrive := Machine.Steps.nil.event (step_arrive hidle hvalid)
  exact (((harrive.event rfl).event rfl).event rfl).event rfl

/-- The condition on the transitions of a packet is one on its arrival. -/
theorem nameAlreadyThere_packetTrace {s : StatusWriter} {received : ReceivedPacket}
    (h : RecognitionStatus.ofCode received.packet.statusCode = .success →
      s.register.recognizedUsername = received.username) (tick : Nat) :
    ∀ t ∈ packetTrace s received tick, NameAlreadyThere t := by
  have hassign : ∀ before after, NameAlreadyThere ⟨before, .assign tick, [], after⟩ := by
    intro before after received' hreceived
    cases hreceived
  refine List.forall_mem_cons.mpr ⟨?_, ?_⟩
  · intro received' hreceived hsuccess
    obtain rfl := Option.some.inj hreceived
    exact h hsuccess
  · simp only [List.forall_mem_cons]
    exact ⟨hassign _ _, hassign _ _, hassign _ _, hassign _ _, List.forall_mem_nil _⟩

/-- What `send_status` sends with a name. -/
def namedPacket (status : RecognitionStatus) (username : Bytes) : ReceivedPacket where
  packet := statusPacket status username 1 [] (by decide) 0
  beyond := []

theorem valid_namedPacket (status : RecognitionStatus) (username : Bytes) :
    StatusWriter.Valid (namedPacket status username) := ⟨rfl, rfl⟩

/-- A name that comes with RECOGNIZING is there when SUCCESS comes with it. -/
theorem namedRun_alice :
    NamedRun (packetTrace ⟨.initial, none⟩ (namedPacket .recognizing (utf8 "alice")) 1 ++
      packetTrace ⟨StatusRegister.initial.receive (namedPacket .recognizing (utf8 "alice")).packet [] 1,
        none⟩ (namedPacket .success (utf8 "alice")) 2) := by
  have hfirst := steps_packetTrace (s := ⟨.initial, none⟩) rfl
    (valid_namedPacket .recognizing (utf8 "alice")) 1
  have hsecond := steps_packetTrace
    (s := ⟨StatusRegister.initial.receive (namedPacket .recognizing (utf8 "alice")).packet [] 1, none⟩)
    rfl (valid_namedPacket .success (utf8 "alice")) 2
  have hrun := ((Machine.Run.nil (rfl : statusWriter.init _)).append hfirst).append hsecond
  refine (namedRun_iff hrun).mpr (always_of_forall_mem (List.forall_mem_append.mpr ⟨?_, ?_⟩))
  · exact nameAlreadyThere_packetTrace (fun hsuccess => absurd hsuccess (by decide)) 1
  · exact nameAlreadyThere_packetTrace (fun _ => rfl) 2

/-- The register in a new session, after a user was recognized in the one before. -/
def afterSession (username : Bytes) : StatusWriter where
  register := { StatusRegister.initial.receive (namedPacket .success username).packet [] 1 with
    faceRecognitionStatus := .idle }
  writing := none

/-- The trace of that session. -/
def sessionTrace (username : Bytes) : RegisterTrace :=
  packetTrace ⟨.initial, none⟩ (namedPacket .success username) 1 ++
    [⟨⟨StatusRegister.initial.receive (namedPacket .success username).packet [] 1, none⟩,
      .newSession, [], afterSession username⟩]

theorem run_sessionTrace (username : Bytes) :
    statusWriter.Run (sessionTrace username) (afterSession username) := by
  have hpacket := steps_packetTrace (s := ⟨.initial, none⟩) rfl (valid_namedPacket .success username) 1
  exact ((Machine.Run.nil (rfl : statusWriter.init _)).append hpacket).event rfl

/-- In the next session the SUCCESS of another user stands beside the old name. -/
theorem namedRun_fails :
    ¬ ∀ (tr : RegisterTrace) (s : StatusWriter), statusWriter.Run tr s → Named tr s := by
  intro h
  have hstep := step_arrive (s := afterSession (utf8 "alice")) rfl
    (valid_namedPacket .success (utf8 "bob"))
  have hnamed := h _ _ ((run_sessionTrace (utf8 "alice")).event hstep)
  rw [Named, setBy_arrive _ rfl] at hnamed
  have hname := Option.some.inj (hnamed rfl)
  revert hname
  decide

end Smile2Unlock.CredentialProvider
