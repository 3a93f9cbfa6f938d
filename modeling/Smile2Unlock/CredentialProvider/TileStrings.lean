/-
  Smile2Unlock.CredentialProvider.TileStrings

  The strings that a `CSampleCredential` allocates and frees (CSampleCredential.cpp,
  helpers.cpp): its fields and labels, and the pointers `_pwzUsername` and `_pwzPassword` into
  them.

  A string is its address.  What depends on the text of a string, on the memory or on the
  system is an argument of the call.  Each call returns the tile and its allocations, frees
  and reads in their order, and `given` and `lost` keep account of the blocks that the tile
  has handed to LogonUI and of those that it has overwritten.

  The destructor finds no session thread running: the program would end at its `std::thread`.
  But the task of its own `StopFaceRecognition` runs beside it.  (That the task also releases
  the tile once more is in `Lifetime`.)
-/

import Smile2Unlock.CredentialProvider.Serialization
import Smile2Unlock.Lib.HeapTriple

namespace Smile2Unlock.CredentialProvider

open Smile2Unlock Lib

variable {η : Type}

-- ============================================================================
-- Fields
-- ============================================================================

/-- `SAMPLE_FIELD_ID`. -/
abbrev FieldId := Fin 14

def sfiLabel : FieldId := 1
def sfiLargeText : FieldId := 2
def sfiPassword : FieldId := 3
def sfiSubmitButton : FieldId := 4
def sfiLaunchWindowLink : FieldId := 5
def sfiHideControlsLink : FieldId := 6
def sfiFullNameText : FieldId := 7
def sfiDisplayNameText : FieldId := 8
def sfiLogonStatusText : FieldId := 9
def sfiCheckbox : FieldId := 10
def sfiEditText : FieldId := 11
def sfiCombobox : FieldId := 12
def sfiFaceRecognitionLink : FieldId := 13

/-- `CREDENTIAL_PROVIDER_FIELD_TYPE`; a descriptor full of zeros has the type `invalid`. -/
inductive FieldType where
  | invalid
  | tileImage
  | smallText
  | largeText
  | passwordText
  | submitButton
  | commandLink
  | checkbox
  | editText
  | combobox
deriving DecidableEq

/-- The types in `s_rgCredProvFieldDescriptors`. -/
def credProvFieldTypes (i : FieldId) : FieldType :=
  [.tileImage, .smallText, .largeText, .passwordText, .submitButton, .commandLink, .commandLink,
    .smallText, .smallText, .smallText, .checkbox, .editText, .combobox, .commandLink].getD i
    .invalid

-- ============================================================================
-- Blocks
-- ============================================================================

/-- What a block has to be freed with. -/
inductive Deallocator where
  | coTaskMemFree
  | heapFree
deriving DecidableEq

structure Block (η : Type) where
  deallocator : Deallocator
  address : η
deriving DecidableEq

/-- A block of `CoTaskMemAlloc`, as `SHStrDupW` gives it. -/
def coTask (x : η) : Block η := ⟨.coTaskMemFree, x⟩

abbrev StringCall (η : Type) := HeapCall (Block η) Deallocator

def allocates (x : Option η) : List (StringCall η) := x.toList.map fun x => .allocated (coTask x)

def frees (x : Option η) : List (StringCall η) :=
  x.toList.map fun x => .freed .coTaskMemFree (coTask x)

/-- Looks through pointers. -/
def looks (xs : List η) : List (StringCall η) := (xs.map coTask).map .read

/-- `Utf8ToWideString`: the memory, and whether the text converts. -/
def utf8ToWideString (io : Option (η × Bool)) : Option η × List (StringCall η) :=
  match io with
  | none => (none, [])
  | some (x, true) => (some x, [.allocated (coTask x)])
  | some (x, false) => (none, [.allocated (coTask x), .freed .coTaskMemFree (coTask x)])

-- ============================================================================
-- The tile
-- ============================================================================

/-- The variables that own a string. -/
inductive StringSlot where
  | field (i : FieldId)
  | label (i : FieldId)
  | userSid
  | qualifiedUserName
deriving DecidableEq

/-- The variables in the order of the destructor. -/
def StringSlot.all : List StringSlot :=
  (List.finRange 14).flatMap (fun i => [.field i, .label i]) ++ [.userSid, .qualifiedUserName]

/-- `username` and `password` are the strings that `_pwzUsername` and `_pwzPassword` point
    into; `notifying` are those that session threads still have to show to LogonUI. -/
structure TileStrings (η : Type) where
  cpus : UsageScenario
  slots : StringSlot → Option η
  types : FieldId → FieldType
  username : Option η
  password : Option η
  notifying : List (List η)
  given : List η
  lost : List η

/-- A part of a call: the tile after it, and its calls of the allocator. -/
abbrev TileStep (η : Type) := TileStrings η → TileStrings η × List (StringCall η)

/-- One part after another. -/
def TileStep.seq (f g : TileStep η) : TileStep η := fun s =>
  ((g (f s).1).1, (f s).2 ++ (g (f s).1).2)

/-- A part for each entry of a list. -/
def TileStep.each {α : Type} (f : α → TileStep η) : List α → TileStep η
  | [] => fun s => (s, [])
  | a :: as => (f a).seq (TileStep.each f as)

namespace TileStrings

/-- The constructor. -/
def constructed (cpus : UsageScenario) : TileStrings η where
  cpus := cpus
  slots _ := none
  types _ := .invalid
  username := none
  password := none
  notifying := []
  given := []
  lost := []

/-- A new string, or null, is written to a variable. -/
def assign (slot : StringSlot) (x : Option η) : TileStep η := fun s =>
  ({ s with
      slots := Function.update s.slots slot x
      lost := (s.slots slot).toList ++ s.lost }, allocates x)

/-- `SAFE_COTASK_MEM_FREE` of a variable. -/
def free (slot : StringSlot) : TileStep η := fun s =>
  ({ s with slots := Function.update s.slots slot none }, frees (s.slots slot))

/-- A new string is handed to LogonUI. -/
def give (x : Option η) : TileStep η := fun s =>
  ({ s with given := x.toList ++ s.given }, allocates x)

/-- `SHStrDupW` of a variable for LogonUI. -/
def duplicate (slot : StringSlot) (x : Option η) : TileStep η := fun s =>
  match s.slots slot with
  | none => (s, [])
  | some source => ((give x s).1, looks [source] ++ (give x s).2)

end TileStrings

-- ============================================================================
-- Initialize
-- ============================================================================

/-- What the user object gives: its two strings, and the texts of the three fields. -/
structure UserIo (η : Type) where
  qualifiedUserName : Option η
  detail : FieldId → Option η
  userSid : Option η

structure InitializeIo (η : Type) where
  label : FieldId → Option η
  credUiLabel : FieldId → Option η
  field : FieldId → Option η
  user : Option (UserIo η)

namespace TileStrings

/-- `FieldDescriptorCopy` writes nothing if it fails. -/
def fieldDescriptorCopy (io : InitializeIo η) (i : FieldId) : TileStep η := fun s =>
  match io.label i with
  | none => (s, [])
  | some label =>
      let (s, calls) := assign (.label i) (some label) s
      ({ s with types := Function.update s.types i (credProvFieldTypes i) }, calls)

/-- The labels that are written again in CredUI. -/
def credUiFields : List FieldId := [sfiEditText, sfiPassword, sfiSubmitButton]

/-- `INIT_FIELD_STRING` is used for these. -/
def plainFields : List FieldId :=
  [sfiLabel, sfiLargeText, sfiEditText, sfiPassword, sfiSubmitButton, sfiCheckbox, sfiCombobox,
    sfiLaunchWindowLink, sfiHideControlsLink]

def userFields : List FieldId := [sfiFullNameText, sfiDisplayNameText, sfiLogonStatusText]

/-- A text of the user, with what stands before it, becomes a field. -/
def describeUser (io : InitializeIo η) (user : UserIo η) (i : FieldId) : TileStep η := fun s =>
  let (s, calls) := assign (.field i) (io.field i) s
  (s, allocates (user.detail i) ++ looks (user.detail i).toList ++ calls ++ frees (user.detail i))

def initializeUser (io : InitializeIo η) : TileStep η :=
  match io.user with
  | none => TileStep.each (fun i => assign (.field i) (io.field i)) userFields
  | some user =>
      (assign .qualifiedUserName user.qualifiedUserName).seq
        ((TileStep.each (describeUser io user) userFields).seq (assign .userSid user.userSid))

/-- `_pwzUsername` points into the qualified name, in CredUI else to the edit field. -/
def pointUsername : TileStep η := fun s =>
  match s.slots .qualifiedUserName with
  | some name => ({ s with username := some name, password := none }, looks [name])
  | none =>
      if s.cpus = .credUi then
        ({ s with username := s.slots (.field sfiEditText), password := none }, [])
      else ({ s with password := none }, [])

/-- In CredUI three labels are written again. -/
def labelCredUi (io : InitializeIo η) : TileStep η := fun s =>
  if s.cpus = .credUi then
    TileStep.each (fun i => assign (.label i) (io.credUiLabel i)) credUiFields s
  else (s, [])

/-- `Initialize`. -/
def initializeTile (io : InitializeIo η) : TileStep η :=
  (TileStep.each (fieldDescriptorCopy io) (List.finRange 14)).seq
    ((labelCredUi io).seq
    ((TileStep.each (fun i => assign (.field i) (io.field i)) plainFields).seq
    ((initializeUser io).seq
    (pointUsername.seq
      (assign (.field sfiFaceRecognitionLink) (io.field sfiFaceRecognitionLink))))))

-- ============================================================================
-- Calls of LogonUI
-- ============================================================================

/-- After a write of a field with memory the pointer to it follows. -/
def repoint (i : FieldId) (x : Option η) (s : TileStrings η) : TileStrings η :=
  if x.isNone then s
  else if i = sfiEditText then { s with username := x }
  else if i = sfiPassword then { s with password := x }
  else s

/-- `SetStringValue`.  If there is no memory the field is null, and the pointers stay. -/
def setStringValue (dwFieldID : Nat) (x : Option η) : TileStep η := fun s =>
  if h : dwFieldID < 14 then
    let i : FieldId := ⟨dwFieldID, h⟩
    if s.types i = .editText ∨ s.types i = .passwordText then
      let (s, calls) := (free (.field i)).seq (assign (.field i) x) s
      (repoint i x s, calls)
    else (s, [])
  else (s, [])

/-- `SetDeselected`: the password is wiped, freed and replaced by an empty one, and
    `_pwzPassword` stays. -/
def setDeselected (x : Option η) (advised : Bool) : TileStep η := fun s =>
  match s.slots (.field sfiPassword) with
  | none => (s, [])
  | some password =>
      let (s, calls) := (free (.field sfiPassword)).seq (assign (.field sfiPassword) x) s
      (s, looks [password] ++ calls ++ if advised then looks x.toList else [])

/-- `GetStringValue`. -/
def getStringValue (dwFieldID : Nat) (x : Option η) : TileStep η := fun s =>
  if h : dwFieldID < 14 then duplicate (.field ⟨dwFieldID, h⟩) x s else (s, [])

/-- `GetCheckboxValue`. -/
def getCheckboxValue (dwFieldID : Nat) (x : Option η) : TileStep η := fun s =>
  if h : dwFieldID < 14 then
    if s.types ⟨dwFieldID, h⟩ = .checkbox then duplicate (.field sfiCheckbox) x s else (s, [])
  else (s, [])

/-- `GetComboBoxValueAt`. -/
def getComboBoxValueAt (dwFieldID : Nat) (x : Option η) : TileStep η := fun s =>
  if h : dwFieldID < 14 then
    if s.types ⟨dwFieldID, h⟩ = .combobox then give x s else (s, [])
  else (s, [])

/-- `GetUserSid`. -/
def getUserSid (x : Option η) : TileStep η := duplicate .userSid x

end TileStrings

-- ============================================================================
-- The session thread
-- ============================================================================

/-- `asksUsername` is whether no recognized name is there, `current` whether the session is
    still the current one behind the password. -/
structure SessionIo (η : Type) where
  asksUsername : Bool
  password : Option (η × Bool)
  current : Bool
  username : Option (η × Bool)

namespace TileStrings

/-- `SendAuthRequestToSmile2Unlock` looks at the user name. -/
def sendAuthRequest : TileStep η := fun s => (s, looks s.username.toList)

/-- A string takes the place of what a variable holds. -/
def put (slot : StringSlot) (x : η) : TileStep η := fun s =>
  ({ s with slots := Function.update s.slots slot (some x) }, frees (s.slots slot))

/-- A recognized name goes into the edit field. -/
def storeUsername (username : Option η) : TileStep η := fun s =>
  match username with
  | none => (s, [])
  | some name =>
      let (s, calls) := put (.field sfiEditText) name s
      ({ s with username := some name }, calls)

/-- The strings of the session thread go into the fields. -/
def storeStrings (username : Option η) (password : η) : TileStep η := fun s =>
  let (s, calls) := (storeUsername username).seq (put (.field sfiPassword) password) s
  ({ s with
      password := some password
      notifying := (username.toList ++ [password]) :: s.notifying }, calls)

/-- The thread of `StartFaceRecognitionAsync` from `RequestAndDecryptPasswordFromSU` to the
    fields. -/
def storeSession (io : SessionIo η) : TileStep η := fun s =>
  let asks := if io.asksUsername then looks s.username.toList else []
  match utf8ToWideString io.password with
  | (none, calls) => (s, asks ++ calls)
  | (some password, calls) =>
      let calls := asks ++ calls ++ looks [password]
      if io.current = false then (s, calls ++ frees (some password))
      else
        let (s, calls') := storeStrings (utf8ToWideString io.username).1 password s
        (s, calls ++ (utf8ToWideString io.username).2 ++ calls')

/-- The thread shows its strings to LogonUI. -/
def notify (thread : Nat) (advised : Bool) : TileStep η := fun s =>
  ({ s with notifying := s.notifying.eraseIdx thread },
    if advised then looks (s.notifying.getD thread []) else [])

end TileStrings

-- ============================================================================
-- GetSerialization
-- ============================================================================

/-- `ProtectIfNecessaryAndCopyPassword`: whether the password is empty, whether it is
    encrypted already, what the two calls of `CredProtectW` answer, and the memory of the two
    copies and of the result. -/
structure ProtectIo (η : Type) where
  empty : Bool
  alreadyEncrypted : Bool
  sized : Bool
  encrypts : Bool
  copy : Option η
  innerCopy : Option η
  result : Option η

/-- Whether the names have a backslash or an `@`, whether the computer has a name, and the memory
    of the two strings. -/
structure AccountIo (η : Type) where
  qualifiedWhack : Bool
  usernameWhack : Bool
  usernameAt : Bool
  computerName : Bool
  domain : Option η
  username : Option η

/-- `tooLong` is the first of domain, user name and password that has no `UNICODE_STRING`. -/
structure LogonIo (η : Type) where
  account : AccountIo η
  protect : ProtectIo η
  tooLong : Option (Fin 3)
  buffer : Option η

/-- The text of the name, the two calls of `CredPackAuthenticationBufferW`,
    `RetrieveNegotiateAuthPackage`, and the memory; `packedUsername` says of
    `DomainUsernameStringAlloc` also whether it can print. -/
structure CredUiIo (η : Type) where
  empty : Bool
  qualified : Bool
  sized : Bool
  packs : Bool
  authPackage : Bool
  statusText : Option η
  packedUsername : Option (η × Bool)
  buffer : Option η

structure SerializationIo (η : Type) where
  logon : LogonIo η
  credUi : CredUiIo η

namespace TileStrings

/-- `_ProtectAndCopyString` -/
def protectAndCopyString (io : ProtectIo η) (pwzToProtect : η) :
    Option η × List (StringCall η) :=
  match io.innerCopy with
  | none => (none, looks [pwzToProtect])
  | some copy =>
      let calls := looks [pwzToProtect] ++ allocates (some copy) ++ looks [copy]
      if io.sized = false then (none, calls ++ frees (some copy))
      else
        match io.result with
        | none => (none, calls ++ frees (some copy))
        | some x =>
            let calls := calls ++ allocates (some x) ++ looks [copy]
            if io.encrypts then (some x, calls ++ frees (some copy))
            else (none, calls ++ frees (some x) ++ frees (some copy))

/-- `ProtectIfNecessaryAndCopyPassword` -/
def protectIfNecessaryAndCopyPassword (io : ProtectIo η) (pwzPassword : Option η)
    (cpus : UsageScenario) : Option η × List (StringCall η) :=
  match pwzPassword with
  | none => (io.result, allocates io.result)
  | some password =>
      if io.empty then (io.result, looks [password] ++ allocates io.result)
      else
        match io.copy with
        | none => (none, looks [password])
        | some copy =>
            let calls := looks [password] ++ allocates (some copy) ++ looks [copy]
            let (result, calls') :=
              if cpus = .credUi ∨ io.alreadyEncrypted then
                (io.result, looks [copy] ++ allocates io.result)
              else protectAndCopyString io copy
            (result, calls ++ calls' ++ frees (some copy))

/-- `SplitDomainAndUsername` gives both strings or none. -/
def splitDomainAndUsername (io : AccountIo η) (pszQualifiedUserName : η) :
    (Option η × Option η) × List (StringCall η) :=
  let reads := looks [pszQualifiedUserName]
  match io.domain, io.username with
  | none, _ => ((none, none), reads)
  | some domain, none =>
      ((none, none), reads ++ allocates (some domain) ++ reads ++ frees (some domain))
  | some domain, some username =>
      ((some domain, some username),
        reads ++ allocates (some domain) ++ reads ++ allocates (some username) ++ reads)

/-- A domain that is no part of the name, and then the name. -/
def copyDomainAndUsername (io : AccountIo η) (pwzUsername : Option η) :
    (Option η × Option η) × List (StringCall η) :=
  match io.domain, pwzUsername with
  | none, _ => ((none, none), [])
  | some domain, none => ((some domain, none), allocates (some domain))
  | some domain, some name =>
      ((some domain, io.username), allocates (some domain) ++ looks [name] ++ allocates io.username)

/-- The account from `_pwzUsername`. -/
def unqualifiedAccount (io : AccountIo η) (pwzUsername : Option η) :
    (Option η × Option η) × List (StringCall η) :=
  match pwzUsername, io.usernameWhack with
  | some name, true =>
      ((splitDomainAndUsername io name).1, looks [name] ++ (splitDomainAndUsername io name).2)
  | _, _ =>
      if (pwzUsername.isSome && io.usernameAt) || io.computerName then
        ((copyDomainAndUsername io pwzUsername).1,
          looks pwzUsername.toList ++ (copyDomainAndUsername io pwzUsername).2)
      else ((none, none), looks pwzUsername.toList)

/-- The domain and the user name of a logon. -/
def logonAccount (io : AccountIo η) (qualifiedUserName pwzUsername : Option η) :
    (Option η × Option η) × List (StringCall η) :=
  match qualifiedUserName, io.qualifiedWhack with
  | some name, true =>
      ((splitDomainAndUsername io name).1, looks [name] ++ (splitDomainAndUsername io name).2)
  | _, _ =>
      ((unqualifiedAccount io pwzUsername).1,
        looks qualifiedUserName.toList ++ (unqualifiedAccount io pwzUsername).2)

/-- `KerbInteractiveUnlockLogonInit`, the log line about it, and
    `KerbInteractiveUnlockLogonPack`.  The buffer stays in `*pcpcs`, with an authentication
    package or without one. -/
def packLogon (io : LogonIo η) (domain username : η) : TileStep η := fun s =>
  let strings := [domain, username] ++ s.password.toList
  match io.tooLong with
  | some i => (s, looks (strings.take (i + 1)) ++ looks [username])
  | none =>
      if s.password = none then (s, looks strings ++ looks [username])
      else
        let (s, calls) := give io.buffer s
        (s, looks strings ++ looks [username] ++ calls ++
          if io.buffer.isSome then looks strings else [])

/-- The logon branch behind the account. -/
def serializeAccount (io : LogonIo η) (domain username : η) : TileStep η := fun s =>
  match protectIfNecessaryAndCopyPassword io.protect (s.slots (.field sfiPassword)) s.cpus with
  | (none, calls) => (s, looks [domain, username] ++ calls)
  | (some protectedPassword, calls) =>
      let (s, calls') := packLogon io domain username s
      (s, looks [domain, username] ++ calls ++ calls' ++ frees (some protectedPassword))

/-- The logon branch. -/
def serializeLogon (io : LogonIo η) : TileStep η := fun s =>
  match logonAccount io.account (s.slots .qualifiedUserName) s.username with
  | ((some domain, some username), calls) =>
      let (s, calls') := serializeAccount io domain username s
      (s, calls ++ calls' ++ frees (some domain) ++ frees (some username))
  | ((domain, username), calls) => (s, calls ++ frees domain ++ frees username)

/-- `DomainUsernameStringAlloc` takes its memory from the heap of the process. -/
def domainUsernameStringAlloc (io : Option (η × Bool)) :
    Option (Block η) × List (StringCall η) :=
  match io with
  | none => (none, [])
  | some (x, true) => (some ⟨.heapFree, x⟩, [.allocated ⟨.heapFree, x⟩])
  | some (x, false) =>
      (none, [.allocated ⟨.heapFree, x⟩, .freed .heapFree ⟨.heapFree, x⟩])

/-- `pwzPackedUsername`.  A name that `BuildQualifiedUsername` gets has no backslash and no `@`. -/
def packedUsername (io : CredUiIo η) (name : η) : Option (Block η) × List (StringCall η) :=
  if io.qualified then
    match io.packedUsername with
    | none => (none, looks [name])
    | some (x, _) => (some (coTask x), looks [name] ++ allocates (some x))
  else
    let (packed, calls) := domainUsernameStringAlloc io.packedUsername
    (packed, looks [name] ++ calls)

/-- The CredUI branch behind the name. -/
def packCredUi (io : CredUiIo η) (name : η) (packed : Block η) : TileStep η := fun s =>
  let strings := .read packed :: looks s.password.toList
  match io.sized, io.buffer with
  | false, _ => (s, strings)
  | true, none => (s, strings)
  | true, some buffer =>
      let calls := strings ++ allocates (some buffer) ++ strings
      if io.packs && io.authPackage then
        ({ s with given := buffer :: s.given }, calls ++ looks [name] ++ [.read packed])
      else (s, calls ++ frees (some buffer))

/-- The CredUI branch.  Whatever has allocated the packed name, `CoTaskMemFree` frees it. -/
def serializeCredUi (io : CredUiIo η) : TileStep η := fun s =>
  match s.username.or (s.slots (.field sfiEditText)) with
  | none => give io.statusText s
  | some name =>
      if io.empty then
        let (s, calls) := give io.statusText s
        (s, looks [name] ++ calls)
      else
        match packedUsername io name with
        | (none, calls) => (s, looks [name] ++ calls)
        | (some packed, calls) =>
            let (s, calls') := packCredUi io name packed s
            (s, looks [name] ++ calls ++ calls' ++ [.freed .coTaskMemFree packed])

/-- `GetSerialization` -/
def getSerialization (io : SerializationIo η) : TileStep η := fun s =>
  let password := s.slots (.field sfiPassword)
  let logged := s.username.toList ++ password.toList ++ (s.slots .qualifiedUserName).toList
  let (s, calls) :=
    (if s.cpus = .credUi then serializeCredUi io.credUi else serializeLogon io.logon)
      { s with password := password }
  (s, looks logged ++ calls)

/-- `ReportResult`: there is a text for some results. -/
def reportResult (known : Bool) (x : Option η) : TileStep η :=
  if known then give x else fun s => (s, [])

/-- The destructor wipes the password. -/
def wipePassword : TileStep η := fun s => (s, looks (s.slots (.field sfiPassword)).toList)

/-- Variables are freed while another thread looks at the user name; before each look, so
    many more of them are free. -/
def freeWhileLooking : List Nat → List StringSlot → TileStep η
  | [], slots => TileStep.each free slots
  | freed :: task, slots =>
      (TileStep.each free (slots.take freed)).seq
        (sendAuthRequest.seq (freeWhileLooking task (slots.drop freed)))

/-- `~CSampleCredential`.  The task that `StopFaceRecognition` starts there is the other
    thread, and nothing waits for it. -/
def destroy (task : List Nat) : TileStep η :=
  wipePassword.seq (freeWhileLooking task StringSlot.all)

end TileStrings

-- ============================================================================
-- Runs
-- ============================================================================

/-- A call of LogonUI, a part of a session thread, or a free of a string that LogonUI has been
    given. -/
inductive TileCall (η : Type) where
  | setStringValue (dwFieldID : Nat) (x : Option η)
  | setDeselected (x : Option η) (advised : Bool)
  | getStringValue (dwFieldID : Nat) (x : Option η)
  | getCheckboxValue (dwFieldID : Nat) (x : Option η)
  | getComboBoxValueAt (dwFieldID : Nat) (x : Option η)
  | getUserSid (x : Option η)
  | getSerialization (io : SerializationIo η)
  | reportResult (known : Bool) (x : Option η)
  | sendAuthRequest
  | storeSession (io : SessionIo η)
  | notify (thread : Nat) (advised : Bool)
  | released (x : η)

namespace TileStrings

variable [DecidableEq η]

/-- LogonUI frees what it has been given. -/
def released (x : η) : TileStep η := fun s =>
  if x ∈ s.given then ({ s with given := s.given.erase x }, frees (some x)) else (s, [])

def exec : TileCall η → TileStep η
  | .setStringValue dwFieldID x => setStringValue dwFieldID x
  | .setDeselected x advised => setDeselected x advised
  | .getStringValue dwFieldID x => getStringValue dwFieldID x
  | .getCheckboxValue dwFieldID x => getCheckboxValue dwFieldID x
  | .getComboBoxValueAt dwFieldID x => getComboBoxValueAt dwFieldID x
  | .getUserSid x => getUserSid x
  | .getSerialization io => getSerialization io
  | .reportResult known x => reportResult known x
  | .sendAuthRequest => sendAuthRequest
  | .storeSession io => storeSession io
  | .notify thread advised => notify thread advised
  | .released x => released x

/-- A tile from its constructor to its destructor. -/
def lifetime (cpus : UsageScenario) (io : InitializeIo η) (calls : List (TileCall η))
    (task : List Nat) : TileStrings η × List (StringCall η) :=
  ((initializeTile io).seq ((TileStep.each exec calls).seq (destroy task))) (constructed cpus)

end TileStrings

end Smile2Unlock.CredentialProvider
