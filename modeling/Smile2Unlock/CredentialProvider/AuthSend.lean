/-
  Smile2Unlock.CredentialProvider.AuthSend

  `SendAuthRequestToSmile2Unlock`: up to ten sends, each followed by a wait of
  half a second for a status that acknowledges the request.

  The function runs on a session thread (START) or in a stop task (CANCEL), and
  statuses arrive between its steps; what ends a wait is an event.
-/

import Smile2Unlock.CredentialProvider.StatusRegister

namespace Smile2Unlock.CredentialProvider

open Smile2Unlock

/-- `kMaxAttempts`. -/
def kMaxAttempts : Nat := 10

/-- Where the loop stands: about to send, or waiting since a send that read
    `tick_before_send`. -/
structure AuthSend where
  usernameHint : Bytes
  attempt : Nat
  tickBeforeSend : Option Nat
deriving DecidableEq

/-- `S_OK` or `E_FAIL`. -/
inductive HResult where
  | ok
  | fail
deriving DecidableEq

/-- What moves the loop: the send with its result and `GetTickCount()`, the sight of
    an acknowledging status, the exit of the service, the end of the wait. -/
inductive AuthSendEvent where
  | send (delivered : Bool) (sessionId : UInt32)
  | acknowledged
  | processExited
  | timeout

namespace AuthSend

/-- The loop before its first attempt. -/
def initial (usernameHint : Bytes) : AuthSend := ⟨usernameHint, 0, none⟩

/-- `++attempt`, or the end of the loop. -/
def nextAttempt (a : AuthSend) : AuthSend ⊕ HResult :=
  if a.attempt + 1 < kMaxAttempts then
    .inl { a with attempt := a.attempt + 1, tickBeforeSend := none }
  else .inr .fail

/-- One step of the loop for a request of the given type.  `ownsProcess` is
    `_hSmile2UnlockProcess != nullptr`. -/
def step (type : AuthRequestType) (register : StatusRegister) (ownsProcess : Bool) (a : AuthSend) :
    AuthSendEvent → Option (AuthSend ⊕ HResult)
  | .send delivered _ =>
      match a.tickBeforeSend with
      | some _ => none
      | none =>
          if ¬ delivered then some a.nextAttempt
          else if type = .queryStatus then some (.inr .ok)
          else some (.inl { a with tickBeforeSend := some register.faceRecognitionStatusTick })
  | .acknowledged =>
      match a.tickBeforeSend with
      | none => none
      | some tickBeforeSend =>
          if tickBeforeSend < register.faceRecognitionStatusTick ∧
              isAckStatusForRequest type register.faceRecognitionStatus then some (.inr .ok)
          else none
  | .processExited =>
      if a.tickBeforeSend.isSome ∧ ownsProcess then some (.inr .fail) else none
  | .timeout =>
      if a.tickBeforeSend.isSome then some a.nextAttempt else none

/-- The id of the request that the event sends. -/
def sends : AuthSendEvent → Option UInt32
  | .send true sessionId => some sessionId
  | _ => none

end AuthSend

end Smile2Unlock.CredentialProvider
