/-
  Smile2Unlock.CredentialProvider.Account

  The account and the password of a submission.  The password comes from a
  recognition session; the account comes from the tile (`_pszQualifiedUserName`) or
  from `_pwzUsername`, which the session overwrites with the name in the register.

  `isNamed_of_packedAccount` is the fact about one submission, `FitsTile` what a store
  has to leave behind for it, and `packsOwnAccount_of_keepsName` the guarantee over
  runs.
-/

import Smile2Unlock.CredentialProvider.Process

namespace Smile2Unlock.CredentialProvider

open Smile2Unlock Lib Machine

-- ============================================================================
-- Accounts and names
-- ============================================================================

/-- The account is the one that the username `w` names.  A name without a domain names
    the account of that name in whatever domain. -/
def PackedAccount.IsNamed (w : Wide) : PackedAccount → Prop
  | .logon domain username =>
      if backslash ∈ w then domainUsernameString domain username = w else username = w
  | .credUi username =>
      username = w ∨ (backslash ∉ w ∧ ∃ domain, username = domainUsernameString domain w)

/-- The account of the user whose name in the store is `r`. -/
def PackedAccount.IsAccount (platform : Platform) (r : Bytes) (account : PackedAccount) : Prop :=
  ∃ w, platform.toWide r = some w ∧ account.IsNamed w

/-- The tile's own name, where `GetSerialization` prefers it, is that of `w`. -/
def Credential.FitsTile (c : Credential) (w : Wide) : Prop :=
  c.cpus = .credUi ∨ ∀ domain username,
    c.qualifiedUserName.bind splitDomainAndUsername = some (domain, username) →
      (PackedAccount.logon domain username).IsNamed w

/-- The parts of a qualified name make it up again. -/
theorem domainUsernameString_of_split {qualified domain username : Wide}
    (h : splitDomainAndUsername qualified = some (domain, username)) :
    backslash ∈ qualified ∧ domainUsernameString domain username = qualified := by
  rw [splitDomainAndUsername] at h
  split at h
  · rename_i hmem
    cases h
    refine ⟨hmem, ?_⟩
    have hdrop : qualified.dropWhile (· ≠ backslash) =
        backslash :: (qualified.dropWhile (· ≠ backslash)).tail := by
      cases hrest : qualified.dropWhile (· ≠ backslash) with
      | nil =>
          have hall := List.dropWhile_eq_nil_iff.mp hrest backslash hmem
          simp at hall
      | cons b rest =>
          have hb : ¬ (decide (b ≠ backslash)) = true := by
            have hhead := List.head?_dropWhile_not (· ≠ backslash) qualified
            rw [hrest] at hhead
            simpa using hhead
          have hb' : b = backslash := by simpa using hb
          rw [hb', List.tail_cons]
    rw [domainUsernameString, ← hdrop, List.takeWhile_append_dropWhile]
  · cases h

/-- CredUI packs `w` itself, or `w` under the name of the computer. -/
theorem isNamed_of_packedCredUi {platform : Platform} {w : Wide}
    {qualifiedUserName editText : Option Wide} {account : PackedAccount}
    (h : packedAccount platform .credUi qualifiedUserName (some w) editText = some account) :
    account.IsNamed w := by
  unfold packedAccount at h
  rw [Option.some_or] at h
  dsimp only at h
  split at h
  · cases h
  · rename_i hne
    split at h
    · cases h
      exact Or.inl rfl
    · rename_i hqualified
      rw [isQualifiedUsername, Bool.or_eq_true, not_or] at hqualified
      obtain ⟨hslash, hat⟩ := hqualified
      rw [decide_eq_true_eq] at hslash hat
      rw [buildQualifiedUsername, if_neg hne, if_neg hslash, if_neg hat, Option.map_map] at h
      obtain ⟨computer, -, rfl⟩ := Option.map_eq_some_iff.mp h
      exact Or.inr ⟨hslash, computer, rfl⟩

/-- Logon packs the tile's own name if that has a domain, and else the account that `w`
    names. -/
theorem isNamed_of_packedLogon {platform : Platform} {cpus : UsageScenario} {w : Wide}
    {qualifiedUserName editText : Option Wide} {account : PackedAccount} (hcpus : cpus ≠ .credUi)
    (htile : ∀ domain username,
      qualifiedUserName.bind splitDomainAndUsername = some (domain, username) →
        (PackedAccount.logon domain username).IsNamed w)
    (h : packedAccount platform cpus qualifiedUserName (some w) editText = some account) :
    account.IsNamed w := by
  unfold packedAccount at h
  split at h
  · exact absurd rfl hcpus
  split at h
  · rename_i domain username hsplit
    cases h
    exact htile domain username hsplit
  dsimp only at h
  split at h
  · rename_i domain username hsplit
    cases h
    obtain ⟨hmem, heq⟩ := domainUsernameString_of_split hsplit
    rw [PackedAccount.IsNamed, if_pos hmem]
    exact heq
  · rename_i hnone
    have hslash : backslash ∉ w := by
      intro hmem
      rw [splitDomainAndUsername, if_pos hmem] at hnone
      cases hnone
    split at h
    · cases h
      rw [PackedAccount.IsNamed, if_neg hslash]
    · obtain ⟨computer, -, rfl⟩ := Option.map_eq_some_iff.mp h
      rw [PackedAccount.IsNamed, if_neg hslash]

/-- With `w` as `_pwzUsername` the packed account is the one that `w` names, unless the
    tile's own name comes first and is another. -/
theorem isNamed_of_packedAccount {platform : Platform} {c : Credential} {w : Wide}
    {editText : Option Wide} {account : PackedAccount} (hfits : c.FitsTile w)
    (h : packedAccount platform c.cpus c.qualifiedUserName (some w) editText = some account) :
    account.IsNamed w := by
  by_cases hcpus : c.cpus = .credUi
  · rw [hcpus] at h
    exact isNamed_of_packedCredUi h
  · exact isNamed_of_packedLogon hcpus (hfits.resolve_left hcpus) h

-- ============================================================================
-- What a step does to the name
-- ============================================================================

namespace Credential

variable {platform : Platform} {c c' : Credential} {register register' : StatusRegister}
  {e : CredentialEvent} {out : List Output}

/-- Of the session's steps only the store writes `_pwzUsername`. -/
theorem pwzUsername_of_sessionStep {g : Nat} {pc pc' : SessionPc} {se : SessionEvent}
    (h : c.sessionStep platform register g pc se = some (c', pc', out)) :
    c'.pwzUsername = c.pwzUsername ∨
      ∃ r password name, pc = .storing r password name ∧ se = .advance := by
  cases cases_of_sessionStep h
  case storing => exact Or.inr ⟨_, _, _, rfl, rfl⟩
  all_goals exact Or.inl rfl

/-- The store, when the thread is there. -/
theorem pwzUsername_of_store {g : Nat} {r : Bytes} {password : Wide} {name : Option Wide}
    (hses : c.session = some ⟨g, .storing r password name⟩)
    (h : c.step platform register (.session .advance) = some (c', register', out)) :
    c'.pwzUsername = name.or c.pwzUsername := by
  simp only [step, CredentialEvent.isCall, perform, hses, sessionStep, Option.map_some] at h
  cases h
  rfl

/-- The tile's scenario and name are fixed; `_pwzUsername` is written by typing and by the
    store. -/
theorem names_of_step (h : c.step platform register e = some (c', register', out)) :
    c'.cpus = c.cpus ∧ c'.qualifiedUserName = c.qualifiedUserName ∧
      (c'.pwzUsername = c.pwzUsername ∨
        (∃ text, e = .setEditText text ∧ c'.pwzUsername = some text) ∨
        ∃ g r password name, e = .session .advance ∧
          c.session = some ⟨g, .storing r password name⟩) := by
  rcases cases_of_step h with ⟨se, ses, c₁, pc', rfl, hses, hs, rfl, -⟩ |
    ⟨g₁, se, c₁, pc', -, hs, rfl, -⟩ | ⟨hstart, -⟩ | ⟨rfl, -, -⟩ | hcalls
  · have hname := pwzUsername_of_sessionStep hs
    obtain ⟨_, _, _, _, _, rfl⟩ := sessionStep_frame hs
    refine ⟨rfl, rfl, ?_⟩
    rcases hname with hname | ⟨r, password, name, hpc, rfl⟩
    · exact Or.inl hname
    · obtain ⟨g, pc⟩ := ses
      cases hpc
      exact Or.inr (Or.inr ⟨g, r, password, name, rfl, hses⟩)
  · obtain ⟨_, rfl⟩ := stopStep_frame hs
    exact ⟨rfl, rfl, Or.inl rfl⟩
  · cases hstart
    exact ⟨rfl, rfl, Or.inl rfl⟩
  · exact ⟨rfl, rfl, Or.inl rfl⟩
  · have hname := hcalls.username
    obtain ⟨_, _, _, _, _, rfl⟩ := hcalls.fields
    refine ⟨rfl, rfl, ?_⟩
    rcases hname with hname | htext
    · exact Or.inl hname
    · exact Or.inr (Or.inl htext)

/-- What `GetSerialization` returns is packed from the names of the tile. -/
theorem packedAccount_of_serialized {account : PackedAccount} {password : Option Wide}
    (h : c.step platform register e = some (c', register', out))
    (hmem : .serialized account password ∈ out) :
    packedAccount platform c.cpus c.qualifiedUserName c.pwzUsername c.editText = some account := by
  rcases cases_of_step h with ⟨se, ses, c₁, pc', -, -, hs, -, -⟩ |
    ⟨g₁, se, c₁, pc', -, hs, -, -⟩ | ⟨-, rfl⟩ | ⟨-, -, rfl⟩ | hcalls
  · have howner := owner_of_sessionStep hs hmem
    cases howner
  · have howner := owner_of_stopStep hs hmem
    cases howner
  · cases hmem
  · cases hmem
  · obtain ⟨account', heq, haccount⟩ := hcalls.out _ hmem
    cases heq
    exact haccount

end Credential

-- ============================================================================
-- Whose password is stored
-- ============================================================================

variable {ι : Type} [DecidableEq ι] {platform : Platform} {t : ProcessStep ι}
  {tr : List (ProcessStep ι)} {s : Process ι}

/-- A session stores a password that it obtained for `r`. -/
def StoresFor (i : ι) (r : Bytes) (t : ProcessStep ι) : Prop :=
  t.event = .credential i (.session .advance) ∧ ∃ g password name,
    (t.before.credentials i).session = some ⟨g, .storing r password name⟩

/-- SFI_PASSWORD is written, by whomever. -/
def WritesPassword (i : ι) (t : ProcessStep ι) : Prop :=
  (∃ text, t.event = .credential i (.setPassword text)) ∨
  t.event = .credential i .clearPassword ∨ ∃ r, StoresFor i r t

/-- SFI_PASSWORD holds what a session stored for `r`. -/
def StoredFor (i : ι) (r : Bytes) (tr : List (ProcessStep ι)) : Prop :=
  Since (StoresFor i r) (WritesPassword i) tr

/-- A submission with a password that was stored for `r` is for the account of `r`. -/
def PacksOwnAccount (platform : Platform) (pre : List (ProcessStep ι)) (t : ProcessStep ι) : Prop :=
  ∀ i r account password, (i, .serialized account password) ∈ t.sent → StoredFor i r pre →
    account.IsAccount platform r

/-- The names of the tile lead to `r`. -/
def Credential.LeadsTo (platform : Platform) (c : Credential) (r : Bytes)
    (pwzUsername : Option Wide) : Prop :=
  ∃ w, platform.toWide r = some w ∧ pwzUsername = some w ∧ c.FitsTile w

/-- A store leaves `r` in `_pwzUsername` and finds no other user on the tile, and what is
    typed after it is `r` again. -/
def KeepsName (platform : Platform) (pre : List (ProcessStep ι)) (t : ProcessStep ι) : Prop :=
  (∀ i g r password name, t.event = .credential i (.session .advance) →
    (t.before.credentials i).session = some ⟨g, .storing r password name⟩ →
      (t.before.credentials i).LeadsTo platform r (name.or (t.before.credentials i).pwzUsername)) ∧
  ∀ i r text, t.event = .credential i (.setEditText text) → StoredFor i r pre →
    platform.toWide r = some text

/-- While a password for `r` is stored, the names of the tile lead to `r`. -/
def NamesStored (platform : Platform) (tr : List (ProcessStep ι)) (s : Process ι) : Prop :=
  ∀ i r, StoredFor i r tr →
    (s.credentials i).LeadsTo platform r (s.credentials i).pwzUsername

theorem namesStored_of_takes (hnames : NamesStored platform tr t.before)
    (ht : (process ι platform).Takes t) (hkeeps : KeepsName platform tr t) :
    NamesStored platform (tr ++ [t]) t.after := by
  intro i r hstored
  rcases credential_of_takes ht i with ⟨e, out, he, hstep, -⟩ | ⟨hother, hafter, -⟩
  · obtain ⟨hcpus, hqualified, hname⟩ := Credential.names_of_step hstep
    have hfits : ∀ w, (t.before.credentials i).FitsTile w → (t.after.credentials i).FitsTile w := by
      intro w hw
      rw [Credential.FitsTile, hcpus, hqualified]
      exact hw
    rcases since_snoc.mp hstored with ⟨hevent, g, password, name, hses⟩ | ⟨hold, hwrites⟩
    · -- the store itself
      obtain ⟨w, hw, hpwz, htile⟩ := hkeeps.1 i g r password name hevent hses
      rw [hevent] at he
      cases he
      exact ⟨w, hw, (Credential.pwzUsername_of_store hses hstep).trans hpwz, hfits w htile⟩
    · obtain ⟨w, hw, hpwz, htile⟩ := hnames i r hold
      rcases hname with hsame | ⟨text, rfl, htext⟩ | ⟨g, r', password, name, rfl, hses⟩
      · exact ⟨w, hw, hsame.trans hpwz, hfits w htile⟩
      · have hr := hkeeps.2 i r text he hold
        rw [hw] at hr
        exact ⟨w, hw, htext.trans hr.symm, hfits w htile⟩
      · exact absurd (Or.inr (Or.inr ⟨r', he, g, password, name, hses⟩)) hwrites
  · rw [hafter]
    rcases since_snoc.mp hstored with ⟨hevent, -⟩ | ⟨hold, -⟩
    · exact absurd hevent (hother _)
    · exact hnames i r hold

theorem packsOwnAccount_of_namesStored (hnames : NamesStored platform tr t.before)
    (ht : (process ι platform).Takes t) : PacksOwnAccount platform tr t := by
  intro i r account password hmem hstored
  obtain ⟨w, hw, hpwz, htile⟩ := hnames i r hstored
  rcases credential_of_takes ht i with ⟨e, out, -, hstep, hsent⟩ | ⟨-, -, hsent⟩
  · have hpacked := Credential.packedAccount_of_serialized hstep ((hsent _).mp hmem)
    rw [hpwz] at hpacked
    exact ⟨w, hw, isNamed_of_packedAccount htile hpacked⟩
  · exact absurd hmem (hsent _)

/-- As long as the stores and the typing keep the name, every password is submitted for
    the account it was obtained for. -/
theorem packsOwnAccount_of_keepsName (h : (process ι platform).Run tr s)
    (hC : Always (KeepsName platform) tr) : Always (PacksOwnAccount platform) tr := by
  refine (h.invariant_under (P := fun tr s => Always (PacksOwnAccount platform) tr ∧
    NamesStored platform tr s) ?_ ?_ hC).1
  · intro s₀ _
    exact ⟨always_nil, fun i r hstored => absurd hstored not_since_nil⟩
  · rintro pre t ⟨hpre, hnames⟩ ht hkeeps
    exact ⟨always_snoc.mpr ⟨hpre, packsOwnAccount_of_namesStored hnames ht⟩,
      namesStored_of_takes hnames ht hkeeps⟩

/-- The submission of a tile that has an account to pack. -/
theorem takes_getSerialization {i : ι} {account : PackedAccount}
    (hui : (s.credentials i).ui = .idle)
    (haccount : packedAccount platform (s.credentials i).cpus (s.credentials i).qualifiedUserName
      (s.credentials i).pwzUsername (s.credentials i).editText = some account) :
    (process ι platform).Takes ⟨s, .credential i .getSerialization,
      [(i, .serialized account (s.credentials i).password)], s⟩ := by
  simp [Takes, process, Process.step, Credential.step, CredentialEvent.isCall, hui,
    Credential.perform, haccount]

omit [DecidableEq ι] in
/-- No store and no typing. -/
theorem keepsName_of_not_storing {pre : List (ProcessStep ι)}
    (hpc : ∀ i g r password name,
      (t.before.credentials i).session ≠ some ⟨g, .storing r password name⟩)
    (hedit : ∀ i text, t.event ≠ .credential i (.setEditText text)) : KeepsName platform pre t :=
  ⟨fun i g r password name _ hses => absurd hses (hpc i g r password name),
    fun i _ text he => absurd he (hedit i text)⟩

/-- A sign-in on a tile up to the store: SUCCESS names "bob", and the password for "bob"
    is stored. -/
theorem exampleStore_run (qualifiedUserName : Option Wide) :
    ∃ pre s, (process Unit examplePlatform).Run pre s ∧ StoredFor () (utf8 "bob") pre ∧
      s.credentials () = { Credential.afterInitialize .logon qualifiedUserName with
        pwzUsername := some (exampleWide "bob"), editText := some (exampleWide "bob"),
        password := some (exampleWide "secret"), serviceGeneration := 1,
        faceRecognitionRunning := true, ownsProcess := true, session := some ⟨1, .notifying⟩ } ∧
      ((Credential.afterInitialize .logon qualifiedUserName).FitsTile (exampleWide "bob") →
        Always (KeepsName examplePlatform) pre) := by
  have h1 := (exampleProcess_run .logon qualifiedUserName).event
    (e := .credential () (.start false)) rfl
  have h2 := h1.event (e := .credential () (.session (.launch true true))) rfl
  have h3 := h2.event (e := .credential () (.session .advance)) rfl
  have h4 := h3.event (e := .credential () (.session .advance)) rfl
  have h5 := h4.event (e := .credential () (.session (.auth (.send true 7)))) rfl
  have h6 := h5.event (e := exampleDatagram .success (utf8 "bob") 7 1) rfl
  have h7 := h6.event (e := .credential () (.session (.auth .acknowledged))) rfl
  have h8 := h7.event (e := .credential () (.session .advance)) rfl
  have h9 := h8.event (e := .credential () (.session .advance)) rfl
  have h10 := h9.event (e := .credential () (.session .advance)) rfl
  have h11 := h10.event (e := .credential () (.session .advance)) rfl
  have h12 := h11.event (e := .credential () (.session .advance)) rfl
  have h13 := h12.event (e := .credential () (.session (.requestPassword true 8))) rfl
  have h14 := h13.event
    (e := .credential () (.session (.passwordReply (some (exampleWide "secret"))))) rfl
  have h15 := h14.event (e := .credential () (.session .advance)) rfl
  have h16 := h15.event (e := .credential () (.session .advance)) rfl
  have h17 := h16.event (e := .credential () (.session .advance)) rfl
  refine ⟨_, _, h17, since_snoc.mpr (Or.inl ⟨rfl, 1, _, _, rfl⟩), rfl, fun hfits => ?_⟩
  refine always_snoc.mpr ⟨?_, ?_, fun _ _ _ he => by cases he⟩
  · iterate 16
      refine always_snoc.mpr ⟨?_, keepsName_of_not_storing ?_ ?_⟩
      rotate_left
      · intro _ _ _ _ _ hses
        cases hses
      · intro _ _ he
        cases he
    exact always_nil
  · rintro i g r password name - hses
    cases hses
    exact ⟨exampleWide "bob", rfl, rfl, hfits⟩

/-- The tile of "bob" submits the password of "bob" for PC\bob. -/
theorem packsOwnAccount_ownTile : ∃ tr s, (process Unit examplePlatform).Run tr s ∧
    ((), .serialized (.logon (exampleWide "PC") (exampleWide "bob")) (some (exampleWide "secret"))) ∈
      tr.flatMap (·.sent) ∧ Always (PacksOwnAccount examplePlatform) tr := by
  obtain ⟨pre, s, hrun, -, hstate, hkeeps⟩ := exampleStore_run (some (exampleWide "PC\\bob"))
  have hpacked : packedAccount examplePlatform (s.credentials ()).cpus
      (s.credentials ()).qualifiedUserName (s.credentials ()).pwzUsername
      (s.credentials ()).editText = some (.logon (exampleWide "PC") (exampleWide "bob")) := by
    rw [hstate]
    decide
  have hui : (s.credentials ()).ui = .idle := by rw [hstate]; rfl
  have hrun' := hrun.snoc (t := ⟨_, _, _, _⟩) (takes_getSerialization hui hpacked)
  refine ⟨_, _, hrun', List.mem_flatMap.mpr ⟨_, List.mem_append_right _ (List.mem_singleton_self _),
    ?_⟩, packsOwnAccount_of_keepsName hrun' (always_snoc.mpr ⟨hkeeps ?_, ?_⟩)⟩
  · rw [hstate]
    exact List.mem_singleton_self _
  · refine Or.inr fun domain username hsplit => ?_
    cases hsplit
    rw [PackedAccount.IsNamed, if_neg (by decide)]
    decide
  · refine keepsName_of_not_storing ?_ ?_
    · intro i g r password name hses
      rw [hstate] at hses
      cases hses
    · intro i text he
      cases he

/-- The tile of "alice": the recognized user is "bob", and the password of "bob" is
    submitted for PC\alice. -/
theorem packsOwnAccount_fails : ¬ ∀ (tr : List (ProcessStep Unit)) (s : Process Unit),
    (process Unit examplePlatform).Run tr s → Always (PacksOwnAccount examplePlatform) tr := by
  intro hall
  obtain ⟨pre, s, hrun, hstored, hstate, -⟩ := exampleStore_run (some (exampleWide "PC\\alice"))
  have hpacked : packedAccount examplePlatform (s.credentials ()).cpus
      (s.credentials ()).qualifiedUserName (s.credentials ()).pwzUsername
      (s.credentials ()).editText = some (.logon (exampleWide "PC") (exampleWide "alice")) := by
    rw [hstate]
    decide
  have hui : (s.credentials ()).ui = .idle := by rw [hstate]; rfl
  have hrun' := hrun.snoc (t := ⟨_, _, _, _⟩) (takes_getSerialization hui hpacked)
  obtain ⟨w, hw, hnamed⟩ := (always_snoc.mp (hall _ _ hrun')).2 () (utf8 "bob") _ _
    (List.mem_singleton_self _) hstored
  cases hw
  rw [PackedAccount.IsNamed, if_neg (by decide)] at hnamed
  revert hnamed
  decide

end Smile2Unlock.CredentialProvider
