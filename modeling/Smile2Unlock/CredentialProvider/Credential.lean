/-
  Smile2Unlock.CredentialProvider.Credential

  One `CSampleCredential` (CSampleCredential.cpp): its fields, the thread of a
  recognition session, the detached stop tasks, and the calls of LogonUI.

  A thread is a program counter, and each step does one access to shared data (or
  an access and the branch on it).  `_faceRecognitionThread` is joined before a
  new session starts, so a credential has one session at a time; stop tasks are
  detached, and there may be any number of them, one for each generation.
-/

import Smile2Unlock.CredentialProvider.AuthSend
import Smile2Unlock.CredentialProvider.Serialization

namespace Smile2Unlock.CredentialProvider

open Smile2Unlock

-- ============================================================================
-- State
-- ============================================================================

/-- Where the thread of `StartFaceRecognitionAsync` stands.  `hint` is the name the
    password was asked for. -/
inductive SessionPc where
  | launching
  | launched
  | startCheck
  | starting (send : AuthSend)
  | waitCheck
  | waitEnter
  | waitFlag
  | waitPoll
  | resultCheck
  | requesting
  | awaitingPassword (hint : Bytes) (sessionId : UInt32)
  | storeCheck (hint : Bytes) (password : Wide)
  | readingName (hint : Bytes) (password : Wide)
  | storing (hint : Bytes) (password : Wide) (name : Option Wide)
  | notifying
  | cleanup
  | terminating
  | finishing
  | ended
deriving DecidableEq

/-- A session thread with its `session_generation`. -/
structure Session where
  generation : Nat
  pc : SessionPc
deriving DecidableEq

/-- Where the stop task of a generation stands. -/
inductive StopPc where
  | absent
  | cancelCheck
  | cancelling (send : AuthSend)
  | terminateCheck
  | terminating
  | done
deriving DecidableEq

/-- Where LogonUI's thread stands: outside the calls, waiting for the old thread in
    `StartFaceRecognitionAsync`, or in `StopFaceRecognition` after the flag. -/
inductive UiPc where
  | idle
  | joining
  | stopping
deriving DecidableEq

/-- The fields of a credential.  `ownsProcess` is `_hSmile2UnlockProcess != nullptr`,
    `session` the joinable `_faceRecognitionThread`. -/
structure Credential where
  cpus : UsageScenario
  qualifiedUserName : Option Wide
  pwzUsername : Option Wide
  editText : Option Wide
  password : Option Wide
  serviceGeneration : Nat
  faceRecognitionRunning : Bool
  ownsProcess : Bool
  session : Option Session
  stopTasks : Nat → StopPc
  ui : UiPc

/-- The fields after `Initialize` for a tile with this qualified name. -/
def Credential.afterInitialize (cpus : UsageScenario) (qualifiedUserName : Option Wide) :
    Credential where
  cpus := cpus
  qualifiedUserName := qualifiedUserName
  pwzUsername :=
    match qualifiedUserName with
    | some qualified =>
        if backslash ∈ qualified then some (qualified.dropWhile (· ≠ backslash)).tail
        else some qualified
    | none => if cpus = .credUi then some [] else none
  editText := some []
  password := some []
  serviceGeneration := 0
  faceRecognitionRunning := false
  ownsProcess := false
  session := none
  stopTasks := fun _ => .absent
  ui := .idle

-- ============================================================================
-- Events and outputs
-- ============================================================================

/-- Steps of a session thread: one that needs nothing from outside, the return of
    `LaunchSmile2UnlockService`, a step of the send loop, the GET_PASSWORD, the
    checked password reply, and the notification with the state of the event sink. -/
inductive SessionEvent where
  | advance
  | launch (ok owns : Bool)
  | auth (e : AuthSendEvent)
  | requestPassword (delivered : Bool) (sessionId : UInt32)
  | passwordReply (password : Option Wide)
  | notify (advised : Bool)

/-- Steps of a stop task. -/
inductive StopEvent where
  | advance
  | auth (e : AuthSendEvent)

inductive CredentialEvent where
  /-- `StartFaceRecognitionAsync`; `processAlive` is `IsProcessStillRunning` -/
  | start (processAlive : Bool)
  /-- the join in it returns -/
  | joined
  /-- the first and the second half of `StopFaceRecognition` -/
  | stopFlag
  | stopSpawn
  /-- `face_recognition_status = IDLE` of `CommandLinkClicked` -/
  | resetStatus
  /-- `SetStringValue`, and the password part of `SetDeselected` -/
  | setEditText (text : Wide)
  | setPassword (text : Wide)
  | clearPassword
  | getSerialization
  | session (e : SessionEvent)
  | stopTask (generation : Nat) (e : StopEvent)

/-- LogonUI makes the call on its thread, which must be outside the other calls. -/
def CredentialEvent.isCall : CredentialEvent → Bool
  | .joined | .stopSpawn | .session _ | .stopTask _ _ => false
  | _ => true

/-- The thread that acts. -/
inductive Owner where
  | session (generation : Nat)
  | stopTask (generation : Nat)
deriving DecidableEq

/-- What a credential does to the outside. -/
inductive Output where
  | authRequest (owner : Owner) (type : AuthRequestType) (hint : Bytes) (sessionId : UInt32)
  | passwordRequest (generation : Nat) (hint : Bytes) (sessionId : UInt32)
  | credentialReady (generation : Nat)
  | terminatesService (owner : Owner)
  | serialized (account : PackedAccount) (password : Option Wide)
deriving DecidableEq

-- ============================================================================
-- Steps
-- ============================================================================

namespace Credential

variable (platform : Platform)

/-- UTF-8 of `_pwzUsername`. -/
def usernameUtf8 (c : Credential) : Bytes := (c.pwzUsername.map platform.toUtf8).getD []

/-- `is_session_current`. -/
def isSessionCurrent (c : Credential) (generation : Nat) : Bool :=
  c.serviceGeneration = generation && c.faceRecognitionRunning

/-- The request that a step of the send loop sends. -/
def authOutput (owner : Owner) (type : AuthRequestType) (send : AuthSend) (e : AuthSendEvent) :
    List Output :=
  match AuthSend.sends e with
  | some sessionId => [.authRequest owner type send.usernameHint sessionId]
  | none => []

/-- A step of the session thread of generation `g`: the fields, where the thread goes
    and what it sends. -/
def sessionStep (c : Credential) (register : StatusRegister) (g : Nat) :
    SessionPc → SessionEvent → Option (Credential × SessionPc × List Output)
  | .launching, .launch ok owns =>
      some ({ c with ownsProcess := owns }, if ok then .launched else .cleanup, [])
  | .launched, .advance =>
      some (c, if c.serviceGeneration ≠ g then .cleanup else .startCheck, [])
  | .startCheck, .advance =>
      -- a negative check only skips the START; `hr` stays `S_OK`
      some (c, if c.isSessionCurrent g then
        .starting (AuthSend.initial (c.usernameUtf8 platform)) else .waitCheck, [])
  | .starting send, .auth e =>
      (send.step .startRecognition register c.ownsProcess e).map fun r =>
        (c, match r with
          | .inl send' => .starting send'
          | .inr .ok => .waitCheck
          | .inr .fail => .cleanup, authOutput (.session g) .startRecognition send e)
  | .waitCheck, .advance =>
      some (c, if c.isSessionCurrent g then .waitEnter else .cleanup, [])
  | .waitEnter, .advance =>
      -- `WaitForFaceRecognitionResult` sets the flag on entry, whatever it is
      some ({ c with faceRecognitionRunning := true }, .waitFlag, [])
  | .waitFlag, .advance =>
      some (c, if c.faceRecognitionRunning then .waitPoll else .cleanup, [])
  | .waitPoll, .advance =>
      some (c,
        if register.faceRecognitionStatus = .success then .resultCheck
        else if isTerminalFailureStatus register.faceRecognitionStatus then .cleanup
        else .waitFlag, [])
  | .resultCheck, .advance =>
      some (c, if c.isSessionCurrent g then .requesting else .cleanup, [])
  | .requesting, .requestPassword delivered sessionId =>
      let hint := passwordHint register (c.usernameUtf8 platform)
      if hint ≠ [] ∧ delivered then
        some (c, .awaitingPassword hint sessionId, [.passwordRequest g hint sessionId])
      else some (c, .cleanup, [])
  | .awaitingPassword hint _, .passwordReply password =>
      some (c, match password with
        | some password => .storeCheck hint password
        | none => .cleanup, [])
  | .storeCheck hint password, .advance =>
      some (c, if c.isSessionCurrent g then .readingName hint password else .cleanup, [])
  | .readingName hint password, .advance =>
      some (c, .storing hint password (if register.recognizedUsername = [] then none
        else platform.toWide register.recognizedUsername), [])
  | .storing _ password name, .advance =>
      some ({ c with
        editText := name.or c.editText
        pwzUsername := name.or c.pwzUsername
        password := some password }, .notifying, [])
  | .notifying, .notify advised =>
      some (c, .cleanup, if advised then [.credentialReady g] else [])
  | .cleanup, .advance =>
      some (c, if c.serviceGeneration = g ∧ c.ownsProcess then .terminating else .finishing, [])
  | .terminating, .advance =>
      some ({ c with ownsProcess := false }, .finishing, [.terminatesService (.session g)])
  | .finishing, .advance =>
      some ({ c with faceRecognitionRunning := false }, .ended, [])
  | _, _ => none

/-- The steps of the session thread of generation `g`, by the place it is at: what each
    leaves of the credential, where it goes and what it sends. -/
inductive SessionStep (c : Credential) (register : StatusRegister) (g : Nat) :
    SessionPc → SessionEvent → Credential → SessionPc → List Output → Prop
  | launching (ok owns : Bool) : SessionStep c register g .launching (.launch ok owns)
      { c with ownsProcess := owns } (if ok then .launched else .cleanup) []
  | launched : SessionStep c register g .launched .advance c
      (if c.serviceGeneration ≠ g then .cleanup else .startCheck) []
  | startCheck : SessionStep c register g .startCheck .advance c
      (if c.isSessionCurrent g then .starting (AuthSend.initial (c.usernameUtf8 platform))
        else .waitCheck) []
  | starting {send : AuthSend} {e : AuthSendEvent} {r : AuthSend ⊕ HResult} :
      SessionStep c register g (.starting send) (.auth e) c
        (match r with
          | .inl send' => .starting send'
          | .inr .ok => .waitCheck
          | .inr .fail => .cleanup) (authOutput (.session g) .startRecognition send e)
  | waitCheck : SessionStep c register g .waitCheck .advance c
      (if c.isSessionCurrent g then .waitEnter else .cleanup) []
  | waitEnter : SessionStep c register g .waitEnter .advance
      { c with faceRecognitionRunning := true } .waitFlag []
  | waitFlag : SessionStep c register g .waitFlag .advance c
      (if c.faceRecognitionRunning then .waitPoll else .cleanup) []
  | waitPoll : SessionStep c register g .waitPoll .advance c
      (if register.faceRecognitionStatus = .success then .resultCheck
        else if isTerminalFailureStatus register.faceRecognitionStatus then .cleanup
        else .waitFlag) []
  | resultCheck : SessionStep c register g .resultCheck .advance c
      (if c.isSessionCurrent g then .requesting else .cleanup) []
  | asked {hint : Bytes} {delivered : Bool} {sessionId : UInt32} :
      SessionStep c register g .requesting (.requestPassword delivered sessionId) c
        (.awaitingPassword hint sessionId) [.passwordRequest g hint sessionId]
  | notAsked {delivered : Bool} {sessionId : UInt32} :
      SessionStep c register g .requesting (.requestPassword delivered sessionId) c .cleanup []
  | awaitingPassword {hint : Bytes} {sessionId : UInt32} {password : Option Wide} :
      SessionStep c register g (.awaitingPassword hint sessionId) (.passwordReply password) c
        (match password with
          | some password => .storeCheck hint password
          | none => .cleanup) []
  | storeCheck {hint : Bytes} {password : Wide} :
      SessionStep c register g (.storeCheck hint password) .advance c
        (if c.isSessionCurrent g then .readingName hint password else .cleanup) []
  | readingName {hint : Bytes} {password : Wide} {name : Option Wide} :
      SessionStep c register g (.readingName hint password) .advance c
        (.storing hint password name) []
  | storing {hint : Bytes} {password : Wide} {name : Option Wide} :
      SessionStep c register g (.storing hint password name) .advance
        { c with
          editText := name.or c.editText
          pwzUsername := name.or c.pwzUsername
          password := some password } .notifying []
  | notifying {advised : Bool} : SessionStep c register g .notifying (.notify advised) c .cleanup
      (if advised then [.credentialReady g] else [])
  | cleanup : SessionStep c register g .cleanup .advance c
      (if c.serviceGeneration = g ∧ c.ownsProcess then .terminating else .finishing) []
  | terminating : SessionStep c register g .terminating .advance
      { c with ownsProcess := false } .finishing [.terminatesService (.session g)]
  | finishing : SessionStep c register g .finishing .advance
      { c with faceRecognitionRunning := false } .ended []

theorem cases_of_sessionStep {platform : Platform} {c c' : Credential} {register : StatusRegister}
    {g : Nat} {pc pc' : SessionPc} {se : SessionEvent} {out : List Output}
    (h : c.sessionStep platform register g pc se = some (c', pc', out)) :
    SessionStep platform c register g pc se c' pc' out := by
  unfold sessionStep at h
  split at h
  case h_4 =>
    obtain ⟨r, -, heq⟩ := Option.map_eq_some_iff.mp h
    cases heq
    exact .starting
  case h_10 =>
    dsimp only at h
    split at h
    · cases h
      exact .asked
    · cases h
      exact .notAsked
  all_goals cases h
  all_goals constructor

/-- A step of the stop task of generation `g`. -/
def stopStep (c : Credential) (register : StatusRegister) (g : Nat) :
    StopPc → StopEvent → Option (Credential × StopPc × List Output)
  | .cancelCheck, .advance =>
      some (c, if c.serviceGeneration ≠ g then .done
        else .cancelling (AuthSend.initial (c.usernameUtf8 platform)), [])
  | .cancelling send, .auth e =>
      -- the result of the CANCEL is ignored
      (send.step .cancelRecognition register c.ownsProcess e).map fun r =>
        (c, match r with
          | .inl send' => .cancelling send'
          | .inr _ => .terminateCheck, authOutput (.stopTask g) .cancelRecognition send e)
  | .terminateCheck, .advance =>
      some (c, if c.serviceGeneration ≠ g then .done else .terminating, [])
  | .terminating, .advance =>
      some ({ c with ownsProcess := false }, .done, [.terminatesService (.stopTask g)])
  | _, _ => none

/-- The stop task of a generation is at `pc`. -/
def setStop (c : Credential) (generation : Nat) (pc : StopPc) : Credential :=
  { c with stopTasks := Function.update c.stopTasks generation pc }

/-- The end of `StartFaceRecognitionAsync`: reset of the status, flag, generation and
    the new thread. -/
def startSession (c : Credential) (register : StatusRegister) : Credential × StatusRegister :=
  ({ c with
      faceRecognitionRunning := true
      serviceGeneration := c.serviceGeneration + 1
      session := some ⟨c.serviceGeneration + 1, .launching⟩
      ui := .idle },
    { register with faceRecognitionStatus := .idle })

/-- What an event does. -/
def perform (c : Credential) (register : StatusRegister) :
    CredentialEvent → Option (Credential × StatusRegister × List Output)
  | .start processAlive =>
      if c.faceRecognitionRunning ∧ (c.session.isSome ∨ (c.ownsProcess ∧ processAlive)) then
        some (c, register, [])
      else if c.session.isSome then
        some ({ c with faceRecognitionRunning := false, ui := .joining }, register, [])
      else
        let (c', register') := c.startSession register
        some (c', register', [])
  | .joined =>
      if c.ui = .joining ∧ c.session.map (·.pc) = some .ended then
        let (c', register') := c.startSession register
        some (c', register', [])
      else none
  | .stopFlag =>
      some ({ c with faceRecognitionRunning := false, ui := .stopping }, register, [])
  | .stopSpawn =>
      if c.ui ≠ .stopping then none
      else
        let g := c.serviceGeneration + 1
        some ({ c with serviceGeneration := g, ui := .idle }.setStop g .cancelCheck, register, [])
  | .resetStatus => some (c, { register with faceRecognitionStatus := .idle }, [])
  | .setEditText text =>
      some ({ c with editText := some text, pwzUsername := some text }, register, [])
  | .setPassword text => some ({ c with password := some text }, register, [])
  | .clearPassword => some ({ c with password := some [] }, register, [])
  | .getSerialization =>
      match packedAccount platform c.cpus c.qualifiedUserName c.pwzUsername c.editText with
      | some account => some (c, register, [.serialized account c.password])
      | none => some (c, register, [])
  | .session e =>
      match c.session with
      | some session =>
          (c.sessionStep platform register session.generation session.pc e).map fun r =>
            ({ r.1 with session := some ⟨session.generation, r.2.1⟩ }, register, r.2.2)
      | none => none
  | .stopTask g e =>
      (c.stopStep platform register g (c.stopTasks g) e).map fun r =>
        (r.1.setStop g r.2.1, register, r.2.2)

/-- One event of a credential. -/
def step (c : Credential) (register : StatusRegister) (e : CredentialEvent) :
    Option (Credential × StatusRegister × List Output) :=
  if e.isCall ∧ c.ui ≠ .idle then none else c.perform platform register e

end Credential

end Smile2Unlock.CredentialProvider
