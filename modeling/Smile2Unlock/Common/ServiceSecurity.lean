/-
  Smile2Unlock.Common.ServiceSecurity

  `BuildServiceIpcSecurityAttributes` (utils/windows_security.h): whom the pipe and the
  mappings of the service admit, and what the function has open while it finds out.

  A `Resource` is named with the call that closes it, so that a handle that is given to the
  wrong one counts as never closed.
-/

import Smile2Unlock.Common.Text
import Smile2Unlock.Lib.HandleTriple

namespace Smile2Unlock

open Lib HandleCall

/-- The calls that give something back to the system. -/
inductive Closer where
  | closeHandle
  | freeLibrary
  | localFree
  | unmapViewOfFile
deriving DecidableEq

structure Resource (η : Type) where
  closer : Closer
  value : η
deriving DecidableEq

abbrev ResourceCall (η : Type) := HandleCall (Resource η)

abbrev Sid := Bytes

inductive TrusteeType where
  | user
  | wellKnownGroup
deriving DecidableEq

/-- `EXPLICIT_ACCESSW`; all are `SET_ACCESS` without inheritance. -/
structure ExplicitAccess where
  grfAccessPermissions : UInt32
  trusteeType : TrusteeType
  sid : Sid
deriving DecidableEq

def genericAll : UInt32 := 0x10000000
def genericRead : UInt32 := 0x80000000
def genericWrite : UInt32 := 0x40000000

/-- What the system answers.  `processUser` and `consoleUser` are the users of the tokens,
    `described` is whether the descriptor is initialized and takes the ACL. -/
structure SecurityIo (η : Type) where
  localSystemSid : Option Sid
  processToken : Option η
  processUser : Option Sid
  hasConsoleSession : Bool
  wtsapi : Option η
  hasQueryUserToken : Bool
  consoleToken : Option η
  consoleUser : Option Sid
  interactiveSid : Option Sid
  acl : Option η
  described : Bool

namespace SecurityIo

variable {η : Type}

/-- `QueryCurrentProcessUserSid`. -/
def queryCurrentProcessUserSid (io : SecurityIo η) : Option Sid × List (ResourceCall η) :=
  match io.processToken with
  | none => (none, [])
  | some token =>
      (io.processUser, [.obtained ⟨.closeHandle, token⟩, .closed ⟨.closeHandle, token⟩])

/-- `QueryActiveConsoleUserSid`. -/
def queryActiveConsoleUserSid (io : SecurityIo η) : Option Sid × List (ResourceCall η) :=
  if io.hasConsoleSession = false then (none, [])
  else
    match io.wtsapi with
    | none => (none, [])
    | some wtsapi =>
        if io.hasQueryUserToken = false then
          (none, [.obtained ⟨.freeLibrary, wtsapi⟩, .closed ⟨.freeLibrary, wtsapi⟩])
        else
          match io.consoleToken with
          | none => (none, [.obtained ⟨.freeLibrary, wtsapi⟩, .closed ⟨.freeLibrary, wtsapi⟩])
          | some token =>
              (io.consoleUser,
                [.obtained ⟨.freeLibrary, wtsapi⟩, .obtained ⟨.closeHandle, token⟩,
                  .closed ⟨.freeLibrary, wtsapi⟩, .closed ⟨.closeHandle, token⟩])

/-- `access_entries`; without a console user the interactive SID is that of a group. -/
def accessEntries (systemSid currentUserSid interactiveSid : Sid) (hasActiveConsoleUser : Bool) :
    List ExplicitAccess :=
  [⟨genericAll, .user, systemSid⟩, ⟨genericRead ||| genericWrite, .user, currentUserSid⟩] ++
    if currentUserSid = interactiveSid then []
    else [⟨genericRead ||| genericWrite,
      if hasActiveConsoleUser then .user else .wellKnownGroup, interactiveSid⟩]

/-- `BuildServiceIpcSecurityAttributes`: the ACL with its entries. -/
def buildServiceIpcSecurityAttributes (io : SecurityIo η) :
    Option (η × List ExplicitAccess) × List (ResourceCall η) :=
  match io.localSystemSid with
  | none => (none, [])
  | some systemSid =>
      match io.queryCurrentProcessUserSid with
      | (none, calls) => (none, calls)
      | (some currentUserSid, calls) =>
          let (consoleUser, calls') := io.queryActiveConsoleUserSid
          match consoleUser.or io.interactiveSid with
          | none => (none, calls ++ calls')
          | some interactiveSid =>
              match io.acl with
              | none => (none, calls ++ calls')
              | some acl =>
                  if io.described then
                    (some (acl, accessEntries systemSid currentUserSid interactiveSid
                      consoleUser.isSome), calls ++ calls' ++ [.obtained ⟨.localFree, acl⟩])
                  else
                    (none, calls ++ calls' ++ [.obtained ⟨.localFree, acl⟩] ++
                      [.closed ⟨.localFree, acl⟩])

/-- The ACL that the caller has to free. -/
def builtAcl (io : SecurityIo η) : List (Resource η) :=
  (io.buildServiceIpcSecurityAttributes.1.map fun built => ⟨.localFree, built.1⟩).toList

variable [DecidableEq η]

theorem carries_queryCurrentProcessUserSid (io : SecurityIo η) (had : List (Resource η)) :
    Carries had had io.queryCurrentProcessUserSid.2 := by
  rw [queryCurrentProcessUserSid]
  cases io.processToken with
  | none => exact carries_nil had
  | some token => exact (carries_obtained had _).closed

theorem carries_queryActiveConsoleUserSid (io : SecurityIo η) (had : List (Resource η)) :
    Carries had had io.queryActiveConsoleUserSid.2 := by
  rw [queryActiveConsoleUserSid]
  by_cases hsession : io.hasConsoleSession = false
  · rw [if_pos hsession]
    exact carries_nil had
  · rw [if_neg hsession]
    cases io.wtsapi with
    | none => exact carries_nil had
    | some wtsapi =>
        have hlibrary := carries_obtained had (⟨.freeLibrary, wtsapi⟩ : Resource η)
        dsimp only
        by_cases hquery : io.hasQueryUserToken = false
        · rw [if_pos hquery]
          exact hlibrary.closed
        · rw [if_neg hquery]
          cases io.consoleToken with
          | none => exact hlibrary.closed
          | some token =>
              -- the library is freed before the token is closed
              have hboth := (hlibrary.obtained ⟨.closeHandle, token⟩).perm (.swap _ _ had)
              exact hboth.closed.closed

/-- However far it gets, the function leaves its caller the ACL and nothing else. -/
theorem carries_build (io : SecurityIo η) (had : List (Resource η)) :
    Carries had (io.builtAcl ++ had) io.buildServiceIpcSecurityAttributes.2 := by
  rw [builtAcl, buildServiceIpcSecurityAttributes]
  cases io.localSystemSid with
  | none => exact carries_nil had
  | some systemSid =>
      have hprocess := io.carries_queryCurrentProcessUserSid had
      have hboth := hprocess.append (io.carries_queryActiveConsoleUserSid had)
      revert hprocess hboth
      rcases io.queryCurrentProcessUserSid with ⟨_ | currentUserSid, calls⟩
      · exact fun hprocess _ => hprocess
      · rcases io.queryActiveConsoleUserSid with ⟨consoleUser, calls'⟩
        intro _ hboth
        show Carries had _ _
        dsimp only
        cases consoleUser.or io.interactiveSid with
        | none => exact hboth
        | some interactiveSid =>
            cases io.acl with
            | none => exact hboth
            | some acl =>
                have hacl := hboth.obtained ⟨.localFree, acl⟩
                cases io.described with
                | true => exact hacl
                | false => exact hacl.closed

end SecurityIo

end Smile2Unlock
