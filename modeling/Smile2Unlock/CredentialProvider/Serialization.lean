/-
  Smile2Unlock.CredentialProvider.Serialization

  The account that `GetSerialization` packs: the name sources of a tile, the
  qualification of a name and its split into domain and user.

  Strings are lists of UTF-16 code units.  The conversions and the computer name
  come from the platform.
-/

import Smile2Unlock.Common.Text

namespace Smile2Unlock.CredentialProvider

open Smile2Unlock

/-- A `PWSTR`. -/
abbrev Wide := List UInt16

/-- `L'\\'` and `L'@'`. -/
def backslash : UInt16 := 0x5C
def atSign : UInt16 := 0x40

/-- The conversions of the platform: `WideCharToMultiByte(CP_UTF8)`,
    `Utf8ToWideString` and `GetComputerNameW`. -/
structure Platform where
  toUtf8 : Wide → Bytes
  toWide : Bytes → Option Wide
  computerName : Option Wide

/-- `CREDENTIAL_PROVIDER_USAGE_SCENARIO`, as far as the provider supports it. -/
inductive UsageScenario where
  | logon
  | unlockWorkstation
  | credUi
deriving DecidableEq

/-- What the packed buffer names: a `KERB_INTERACTIVE_UNLOCK_LOGON` with domain and
    user, or the one string of `CredPackAuthenticationBufferW`. -/
inductive PackedAccount where
  | logon (domain username : Wide)
  | credUi (username : Wide)
deriving DecidableEq

/-- `SplitDomainAndUsername`, at the first backslash. -/
def splitDomainAndUsername (qualified : Wide) : Option (Wide × Wide) :=
  if backslash ∈ qualified then
    some (qualified.takeWhile (· ≠ backslash), (qualified.dropWhile (· ≠ backslash)).tail)
  else none

/-- `DomainUsernameStringAlloc`. -/
def domainUsernameString (domain username : Wide) : Wide := domain ++ backslash :: username

/-- `IsQualifiedUsername`. -/
def isQualifiedUsername (username : Wide) : Bool := backslash ∈ username || atSign ∈ username

/-- `L"MicrosoftAccount"`. -/
def microsoftAccount : Wide := (utf8 "MicrosoftAccount").map fun b => UInt16.ofNat b.toNat

/-- `BuildQualifiedUsername`. -/
def buildQualifiedUsername (platform : Platform) (username : Wide) : Option Wide :=
  if username = [] then none
  else if backslash ∈ username then some username
  else if atSign ∈ username then some (domainUsernameString microsoftAccount username)
  else platform.computerName.map fun computer => domainUsernameString computer username

/-- The account part of `GetSerialization` on the fields of a tile:
    `_pszQualifiedUserName`, `_pwzUsername` and `_rgFieldStrings[SFI_EDIT_TEXT]`.
    `none` where it returns an error. -/
def packedAccount (platform : Platform) (cpus : UsageScenario) (qualifiedUserName : Option Wide)
    (pwzUsername editText : Option Wide) : Option PackedAccount :=
  match cpus with
  | .credUi =>
      match pwzUsername.or editText with
      | none => none
      | some username =>
          if username = [] then none
          else if isQualifiedUsername username then some (.credUi username)
          else (buildQualifiedUsername platform username).map .credUi
  | _ =>
      match qualifiedUserName.bind splitDomainAndUsername with
      | some (domain, username) => some (.logon domain username)
      | none =>
          match pwzUsername with
          | none => none
          | some username =>
              match splitDomainAndUsername username with
              | some (domain, username) => some (.logon domain username)
              | none =>
                  if atSign ∈ username then some (.logon microsoftAccount username)
                  else platform.computerName.map fun computer => .logon computer username

end Smile2Unlock.CredentialProvider
