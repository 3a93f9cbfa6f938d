/-
  Smile2Unlock.CredentialProvider.GetSerialization

  `CSampleCredential::GetSerialization` from the account on: the protected copy of the
  password, the packed logon, the buffer of CredUI and the authentication package.

  The comment above `KerbInteractiveUnlockLogonInit` says that the password is stored in
  encrypted form; `getSerialization_logon` says that the field itself is packed.
-/

import Smile2Unlock.CredentialProvider.KerbLogon
import Smile2Unlock.CredentialProvider.Process

namespace Smile2Unlock.CredentialProvider

open Smile2Unlock Lib Layout

-- ============================================================================
-- GetSerialization
-- ============================================================================

/-- What `GetSerialization` calls: the allocator, `CredIsProtectedW` with a type other than
    `CredUnprotected`, `_ProtectAndCopyString`, the two calls of
    `CredPackAuthenticationBufferW` with the allocation between them, the failure of
    `GetComputerNameW` in `BuildQualifiedUsername` and `RetrieveNegotiateAuthPackage`. -/
structure SerializationServices where
  coTaskMemAlloc : CoTaskMemAlloc
  credIsProtected : Wide → Bool
  protectAndCopyString : Wide → Except SerializationError Wide
  credPackAuthenticationBuffer : Wide → Option Wide → Except SerializationError Bytes
  computerNameError : SerializationError
  retrieveNegotiateAuthPackage : Except SerializationError UInt32

/-- What `GetSerialization` leaves: its result (`none` for `S_OK`), whether `*pcpgsr` is
    `CPGSR_RETURN_CREDENTIAL_FINISHED`, `rgbSerialization` and the package. -/
structure Serialization where
  hr : Option SerializationError
  finished : Bool
  rgbSerialization : Option Bytes
  ulAuthenticationPackage : UInt32

/-- A return before anything was packed. -/
def Serialization.failed (hr : SerializationError) : Serialization := ⟨some hr, false, none, 0⟩

/-- `ProtectIfNecessaryAndCopyPassword` -/
def protectIfNecessaryAndCopyPassword (services : SerializationServices)
    (pwzPassword : Option Wide) (cpus : UsageScenario) : Except SerializationError Wide :=
  match pwzPassword with
  | none => .ok []
  | some password =>
      if wideText password = [] then .ok []
      else if cpus = .credUi ∨ services.credIsProtected (wideText password) then
        .ok (wideText password)
      else services.protectAndCopyString (wideText password)

/-- The logon branch of `GetSerialization` behind the account.  The protected copy of the
    password is made and freed; `Init` gets the field. -/
def serializeLogon (services : SerializationServices) (cpus : UsageScenario)
    (domain username : Wide) (password : Option Wide) : Serialization :=
  match protectIfNecessaryAndCopyPassword services password cpus with
  | .error hr => .failed hr
  | .ok _ =>
      match packLogon services.coTaskMemAlloc (some domain) (some username) password cpus with
      | .error hr => .failed hr
      | .ok buffer =>
          match services.retrieveNegotiateAuthPackage with
          | .ok package => ⟨none, true, some buffer, package⟩
          | .error hr => ⟨some hr, false, some buffer, 0⟩

/-- The CredUI branch behind the account; here the buffer is freed when there is no
    package. -/
def serializeCredUi (services : SerializationServices) (username : Wide)
    (password : Option Wide) : Serialization :=
  match services.credPackAuthenticationBuffer username password with
  | .error hr => .failed hr
  | .ok buffer =>
      match services.retrieveNegotiateAuthPackage with
      | .ok package => ⟨none, true, some buffer, package⟩
      | .error hr => .failed hr

/-- What the branches return without an account. -/
def accountError (services : SerializationServices) (cpus : UsageScenario)
    (pwzUsername editText : Option Wide) : SerializationError :=
  if cpus = .credUi then
    if pwzUsername.or editText = none ∨ pwzUsername.or editText = some [] then .invalidArg
    else services.computerNameError
  else .fail

/-- `GetSerialization` on the fields of a tile. -/
def getSerialization (services : SerializationServices) (platform : Platform)
    (cpus : UsageScenario) (qualifiedUserName pwzUsername editText password : Option Wide) :
    Serialization :=
  match packedAccount platform cpus qualifiedUserName pwzUsername editText with
  | none => .failed (accountError services cpus pwzUsername editText)
  | some (.logon domain username) => serializeLogon services cpus domain username password
  | some (.credUi username) => serializeCredUi services username password

/-- A logon has a domain, CredUI has none. -/
theorem packedAccount_cases {platform : Platform} {cpus : UsageScenario}
    {qualifiedUserName pwzUsername editText : Option Wide} {account : PackedAccount}
    (h : packedAccount platform cpus qualifiedUserName pwzUsername editText = some account) :
    (cpus = .credUi ∧ ∃ username, account = .credUi username) ∨
      cpus ≠ .credUi ∧ ∃ domain username, account = .logon domain username := by
  unfold packedAccount at h
  split at h
  · left
    refine ⟨rfl, ?_⟩
    split at h
    · cases h
    split at h
    · cases h
    split at h
    · exact ⟨_, (Option.some.inj h).symm⟩
    · obtain ⟨username, -, hname⟩ := Option.map_eq_some_iff.mp h
      exact ⟨username, hname.symm⟩
  · rename_i hcpus
    right
    refine ⟨hcpus, ?_⟩
    split at h
    · exact ⟨_, _, (Option.some.inj h).symm⟩
    split at h
    · cases h
    split at h
    · exact ⟨_, _, (Option.some.inj h).symm⟩
    split at h
    · exact ⟨_, _, (Option.some.inj h).symm⟩
    · obtain ⟨computer, -, haccount⟩ := Option.map_eq_some_iff.mp h
      exact ⟨_, _, haccount.symm⟩

/-- The password can be copied, the strings fit and there is memory. -/
def CanPack (services : SerializationServices) (cpus : UsageScenario)
    (domain username password : Wide) : Prop :=
  (∃ copy, protectIfNecessaryAndCopyPassword services (some password) cpus = .ok copy) ∧
    (FitsUnicodeString domain ∧ FitsUnicodeString username ∧ FitsUnicodeString password) ∧
    (services.coTaskMemAlloc (logonSize domain username password)).isSome

/-- `Init` refuses a null password. -/
theorem packLogon_null (alloc : CoTaskMemAlloc) (domain username : Wide) (cpus : UsageScenario) :
    ∃ hr, packLogon alloc (some domain) (some username) none cpus = .error hr := by
  rw [packLogon, kerbInteractiveUnlockLogonInit]
  cases unicodeStringInitWithString (some domain) with
  | error hr => exact ⟨hr, rfl⟩
  | ok d =>
      cases unicodeStringInitWithString (some username) with
      | error hr => exact ⟨hr, rfl⟩
      | ok u => exact ⟨.invalidArg, rfl⟩

/-- The logon branch: without `CanPack` nothing is returned; with it the buffer is there,
    and the package decides whether the call is finished. -/
theorem serializeLogon_cases (services : SerializationServices) (cpus : UsageScenario)
    (domain username : Wide) (password : Option Wide) :
    ((¬ ∃ pw, password = some pw ∧ CanPack services cpus domain username pw) ∧
      ∃ hr, serializeLogon services cpus domain username password = .failed hr) ∨
    ∃ pw buffer, password = some pw ∧ CanPack services cpus domain username pw ∧
      packLogon services.coTaskMemAlloc (some domain) (some username) (some pw) cpus = .ok buffer ∧
      ((∃ package, services.retrieveNegotiateAuthPackage = .ok package ∧
          serializeLogon services cpus domain username password =
            ⟨none, true, some buffer, package⟩) ∨
        ∃ hr, services.retrieveNegotiateAuthPackage = .error hr ∧
          serializeLogon services cpus domain username password =
            ⟨some hr, false, some buffer, 0⟩) := by
  rw [serializeLogon]
  cases hprotect : protectIfNecessaryAndCopyPassword services password cpus with
  | error hr =>
      left
      refine ⟨?_, hr, rfl⟩
      rintro ⟨pw, rfl, ⟨copy, hcopy⟩, -⟩
      rw [hprotect] at hcopy
      cases hcopy
  | ok copy =>
      cases password with
      | none =>
          left
          obtain ⟨hr, hpack⟩ := packLogon_null services.coTaskMemAlloc domain username cpus
          refine ⟨?_, hr, ?_⟩
          · rintro ⟨pw, hpw, -⟩
            cases hpw
          · dsimp only
            rw [hpack]
      | some pw =>
          have hok := packLogon_ok_iff services.coTaskMemAlloc domain username pw cpus
          cases hpack : packLogon services.coTaskMemAlloc (some domain) (some username)
              (some pw) cpus with
          | error hr =>
              left
              refine ⟨?_, hr, rfl⟩
              rintro ⟨pw', hpw, hcan⟩
              cases hpw
              obtain ⟨buffer, hbuffer⟩ := hok.mpr hcan.2
              rw [hpack] at hbuffer
              cases hbuffer
          | ok buffer =>
              right
              refine ⟨pw, buffer, rfl, ⟨⟨copy, hprotect⟩, hok.mp ⟨buffer, hpack⟩⟩, hpack, ?_⟩
              cases services.retrieveNegotiateAuthPackage with
              | ok package => exact Or.inl ⟨package, rfl, rfl⟩
              | error hr => exact Or.inr ⟨hr, rfl, rfl⟩

/-- `GetSerialization` of a logon or unlock tile.  It finishes exactly when there are an
    account and a password that can be packed, and an authentication package; a buffer it
    leaves, finished or not, is read as the account and the unprotected password; and the
    buffer is left whenever it could be packed, also with a failure of the package. -/
theorem getSerialization_logon (services : SerializationServices) (platform : Platform)
    (cpus : UsageScenario) (hcpus : cpus ≠ .credUi)
    (qualifiedUserName pwzUsername editText password : Option Wide) :
    let r := getSerialization services platform cpus qualifiedUserName pwzUsername editText password
    let packs := fun domain username pw =>
      packedAccount platform cpus qualifiedUserName pwzUsername editText =
        some (.logon domain username) ∧
      password = some pw ∧ CanPack services cpus domain username pw
    (r.finished = true ↔ r.hr = none) ∧
      (r.finished = true ↔ (∃ domain username pw, packs domain username pw) ∧
        ∃ package, services.retrieveNegotiateAuthPackage = .ok package) ∧
      (r.rgbSerialization.isSome ↔ ∃ domain username pw, packs domain username pw) ∧
      ∀ buffer, r.rgbSerialization = some buffer → ∃ domain username pw,
        packs domain username pw ∧
        readLogon buffer = some ⟨(messageTypeOf cpus).toNat, wideText domain, wideText username,
          wideText pw, 0⟩ := by
  intro r packs
  cases haccount : packedAccount platform cpus qualifiedUserName pwzUsername editText with
  | none =>
      have hr : r = .failed (accountError services cpus pwzUsername editText) := by
        show getSerialization _ _ _ _ _ _ _ = _
        rw [getSerialization, haccount]
      have hpacks : ¬ ∃ domain username pw, packs domain username pw := by
        rintro ⟨domain, username, pw, hpacked, -⟩
        rw [haccount] at hpacked
        cases hpacked
      rw [hr]
      simp [Serialization.failed, hpacks]
  | some account =>
      obtain ⟨hcred, -⟩ | ⟨-, domain, username, rfl⟩ := packedAccount_cases haccount
      · exact absurd hcred hcpus
      have hr : r = serializeLogon services cpus domain username password := by
        show getSerialization _ _ _ _ _ _ _ = _
        rw [getSerialization, haccount]
      have hpacks : (∃ d u pw, packs d u pw) ↔
          ∃ pw, password = some pw ∧ CanPack services cpus domain username pw := by
        constructor
        · rintro ⟨d, u, pw, hpacked, hpw, hcan⟩
          rw [haccount] at hpacked
          cases hpacked
          exact ⟨pw, hpw, hcan⟩
        · rintro ⟨pw, hpw, hcan⟩
          exact ⟨domain, username, pw, haccount, hpw, hcan⟩
      rcases serializeLogon_cases services cpus domain username password with
        ⟨hnot, hr', hfailed⟩ | ⟨pw, buffer, hpw, hcan, hpack, hend⟩
      · rw [hr, hfailed, hpacks]
        simp [Serialization.failed, hnot]
      · have hsome : ∃ pw, password = some pw ∧ CanPack services cpus domain username pw :=
          ⟨pw, hpw, hcan⟩
        have hread : ∀ buffer', some buffer = some buffer' → ∃ d u pw, packs d u pw ∧
            readLogon buffer' = some ⟨(messageTypeOf cpus).toNat, wideText d, wideText u,
              wideText pw, 0⟩ := by
          rintro buffer' hbuffer
          cases hbuffer
          exact ⟨domain, username, pw, ⟨haccount, hpw, hcan⟩, (readLogon_of_packLogon hpack).2⟩
        rcases hend with ⟨package, hpackage, hend⟩ | ⟨hr', hpackage, hend⟩
        · rw [hr, hend, hpacks]
          exact ⟨by simp, iff_of_true rfl ⟨hsome, package, hpackage⟩, iff_of_true rfl hsome, hread⟩
        · rw [hr, hend, hpacks]
          refine ⟨by simp, iff_of_false Bool.false_ne_true ?_, iff_of_true rfl hsome, hread⟩
          rintro ⟨-, package, hok⟩
          rw [hpackage] at hok
          cases hok

/-- Services that protect by reversing, where LSA does not answer. -/
def exampleServices : SerializationServices where
  coTaskMemAlloc := exampleAlloc
  credIsProtected _ := false
  protectAndCopyString password := .ok password.reverse
  credPackAuthenticationBuffer _ _ := .error .fail
  computerNameError := .fail
  retrieveNegotiateAuthPackage := .error (.other 0xC0000022)

/-- The tile of PC\bob, with the password "12". -/
theorem getSerialization_logonExample :
    let r := getSerialization exampleServices examplePlatform .logon
      (some (exampleWide "PC\\bob")) none none (some (exampleWide "12"))
    r.finished = false ∧ ∃ buffer, r.rgbSerialization = some buffer ∧
      readLogon buffer =
        some ⟨2, exampleWide "PC", exampleWide "bob", exampleWide "12", 0⟩ := by
  intro r
  have haccount : packedAccount examplePlatform .logon (some (exampleWide "PC\\bob")) none none =
      some (.logon (exampleWide "PC") (exampleWide "bob")) := by decide
  obtain ⟨-, hfinished, hsome, hread⟩ := getSerialization_logon exampleServices examplePlatform
    .logon (by decide) (some (exampleWide "PC\\bob")) none none (some (exampleWide "12"))
  refine ⟨Bool.eq_false_iff.mpr fun h => ?_, ?_⟩
  · obtain ⟨-, package, hpackage⟩ := hfinished.mp h
    cases hpackage
  · obtain ⟨buffer, hbuffer⟩ := Option.isSome_iff_exists.mp
      (hsome.mpr ⟨_, _, _, haccount, rfl, ⟨_, rfl⟩, by decide, rfl⟩)
    obtain ⟨domain, username, pw, ⟨hpacked, hpw, -⟩, hlogon⟩ := hread buffer hbuffer
    rw [haccount] at hpacked
    cases hpacked
    cases hpw
    exact ⟨buffer, hbuffer, hlogon⟩

end Smile2Unlock.CredentialProvider
