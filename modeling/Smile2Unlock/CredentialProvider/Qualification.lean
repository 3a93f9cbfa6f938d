/-
  Smile2Unlock.CredentialProvider.Qualification

  How a name is qualified: by `BuildQualifiedUsername`, by the CredUI branch of
  `GetSerialization` and by its logon branch.

  The CredUI branch asks `IsQualifiedUsername` first, so that a name with '@' is packed as
  it is and never reaches the case that `BuildQualifiedUsername` has for it.  The branches
  agree on all other names (`qualifiesAlike_iff`).
-/

import Smile2Unlock.CredentialProvider.Account

namespace Smile2Unlock.CredentialProvider

open Smile2Unlock

/-- The account that a name without more stands for: before and behind its first
    backslash, a Microsoft account, or a user of this computer. -/
def namedAccount (platform : Platform) (name : Wide) : Option (Wide × Wide) :=
  match splitDomainAndUsername name with
  | some account => some account
  | none =>
      if atSign ∈ name then some (microsoftAccount, name)
      else platform.computerName.map fun computer => (computer, name)

/-- `domain\user`. -/
def accountText (account : Wide × Wide) : Wide := domainUsernameString account.1 account.2

/-- What a packed account names, as text. -/
def PackedAccount.text : PackedAccount → Wide
  | .logon domain username => accountText (domain, username)
  | .credUi username => username

/-- Without a name of the tile, both branches submit the account that `name` stands for, and
    `BuildQualifiedUsername` returns it. -/
structure QualifiesAlike (platform : Platform) (name : Wide) : Prop where
  logon : ∀ cpus editText, cpus ≠ .credUi →
    packedAccount platform cpus none (some name) editText =
      (namedAccount platform name).map fun account => .logon account.1 account.2
  credUi : ∀ editText,
    (packedAccount platform .credUi none (some name) editText).map PackedAccount.text =
      (namedAccount platform name).map accountText
  build : buildQualifiedUsername platform name = (namedAccount platform name).map accountText

section Names

variable {platform : Platform} {name : Wide}

theorem splitDomainAndUsername_none (h : backslash ∉ name) : splitDomainAndUsername name = none := by
  rw [splitDomainAndUsername, if_neg h]

/-- A name with a backslash is its own qualified form. -/
theorem accountText_of_backslash (h : backslash ∈ name) :
    (namedAccount platform name).map accountText = some name := by
  cases hsplit : splitDomainAndUsername name with
  | none =>
      rw [splitDomainAndUsername, if_pos h] at hsplit
      cases hsplit
  | some account =>
      rw [namedAccount, hsplit, Option.map_some, accountText,
        (domainUsernameString_of_split hsplit).2]

/-- The helper returns what the name stands for. -/
theorem buildQualifiedUsername_eq (hne : name ≠ []) :
    buildQualifiedUsername platform name = (namedAccount platform name).map accountText := by
  rw [buildQualifiedUsername, if_neg hne]
  by_cases hslash : backslash ∈ name
  · rw [if_pos hslash, accountText_of_backslash hslash]
  · rw [if_neg hslash, namedAccount, splitDomainAndUsername_none hslash]
    by_cases hat : atSign ∈ name
    · rw [if_pos hat]
      dsimp only
      rw [if_pos hat, Option.map_some, accountText]
    · rw [if_neg hat]
      dsimp only
      rw [if_neg hat, Option.map_map]
      rfl

/-- The logon branch packs what the name stands for. -/
theorem packedLogon_eq {cpus : UsageScenario} (editText : Option Wide) (hcpus : cpus ≠ .credUi) :
    packedAccount platform cpus none (some name) editText =
      (namedAccount platform name).map fun account => .logon account.1 account.2 := by
  unfold packedAccount
  split
  · exact absurd rfl hcpus
  rw [Option.bind_none, namedAccount]
  dsimp only
  cases splitDomainAndUsername name with
  | some account => rfl
  | none =>
      dsimp only
      by_cases hat : atSign ∈ name
      · rw [if_pos hat, if_pos hat, Option.map_some]
      · rw [if_neg hat, if_neg hat, Option.map_map]
        rfl

/-- The CredUI branch packs a qualified name as it is. -/
theorem packedCredUi_eq (editText : Option Wide) (hne : name ≠ []) :
    (packedAccount platform .credUi none (some name) editText).map PackedAccount.text =
      if isQualifiedUsername name then some name else buildQualifiedUsername platform name := by
  rw [packedAccount, Option.some_or]
  dsimp only
  rw [if_neg hne]
  cases isQualifiedUsername name with
  | true => rfl
  | false =>
      show ((buildQualifiedUsername platform name).map PackedAccount.credUi).map _ = _
      rw [Option.map_map]
      exact congrFun Option.map_id _

/-- A name of a Microsoft account is not its own qualified form. -/
theorem accountText_ne (username : Wide) : accountText (microsoftAccount, username) ≠ username := by
  intro h
  have hlength := congrArg List.length h
  rw [accountText, domainUsernameString, List.length_append, List.length_cons] at hlength
  dsimp only at hlength
  omega

end Names

/-- The account does not depend on the scenario, unless the name has an '@' and no
    backslash. -/
theorem qualifiesAlike_iff (platform : Platform) (name : Wide) (hne : name ≠ []) :
    QualifiesAlike platform name ↔ backslash ∈ name ∨ atSign ∉ name := by
  constructor
  · intro halike
    by_contra hcond
    rw [not_or, not_not] at hcond
    obtain ⟨hslash, hat⟩ := hcond
    have hqualified : isQualifiedUsername name = true := by
      rw [isQualifiedUsername, decide_eq_true hat, Bool.or_true]
    have hcredUi := halike.credUi none
    rw [packedCredUi_eq none hne, if_pos hqualified, namedAccount,
      splitDomainAndUsername_none hslash] at hcredUi
    dsimp only at hcredUi
    rw [if_pos hat, Option.map_some, Option.some_inj] at hcredUi
    exact accountText_ne name hcredUi.symm
  · intro hcond
    refine ⟨fun _ editText hcpus => packedLogon_eq editText hcpus, fun editText => ?_,
      buildQualifiedUsername_eq hne⟩
    rw [packedCredUi_eq editText hne]
    by_cases hslash : backslash ∈ name
    · rw [isQualifiedUsername, decide_eq_true hslash, Bool.true_or, if_pos rfl,
        accountText_of_backslash hslash]
    · have hat := hcond.resolve_left hslash
      rw [isQualifiedUsername, decide_eq_false hslash, decide_eq_false hat, Bool.or_false,
        if_neg Bool.false_ne_true, buildQualifiedUsername_eq hne]

/-- "PC\bob" is split, "bob" is completed. -/
theorem qualifiesAlike_bob : exampleWide "PC\\bob" ≠ [] ∧ exampleWide "bob" ≠ [] ∧
    QualifiesAlike examplePlatform (exampleWide "PC\\bob") ∧
    QualifiesAlike examplePlatform (exampleWide "bob") :=
  ⟨by decide, by decide, (qualifiesAlike_iff _ _ (by decide)).mpr (.inl (by decide)),
    (qualifiesAlike_iff _ _ (by decide)).mpr (.inr (by decide))⟩

/-- "bob@x" is a Microsoft account at logon, and left alone by CredUI. -/
theorem qualifiesAlike_fails : ¬ ∀ (platform : Platform) (name : Wide), name ≠ [] →
    QualifiesAlike platform name := by
  intro hall
  have hcredUi := (hall examplePlatform (exampleWide "bob@x") (by decide)).credUi none
  revert hcredUi
  decide

end Smile2Unlock.CredentialProvider
