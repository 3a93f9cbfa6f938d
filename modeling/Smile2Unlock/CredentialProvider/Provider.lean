/-
  Smile2Unlock.CredentialProvider.Provider

  `CSampleProvider` over the credentials it creates: the enumeration, the ready flag
  that a session thread raises, and the automatic logon.

  A credential object is the number of its creation; `GetCredentialCount` may
  release the enumerated one and create the next.  `SetUsageScenario` and
  `GetCredentialCount` take two steps each, one access to the flag apiece.

  `explained_of_takes` carries who raised the flag; `autoLogonRight_of_keepsSignal` is
  the guarantee for automatic logons.

  Who signalled is the object whose thread filled the field; what the field holds at
  the logon is not asked.  A `SetDeselected` between the store and the signal leaves
  it empty.
-/

import Smile2Unlock.CredentialProvider.Process

namespace Smile2Unlock.CredentialProvider

open Smile2Unlock Lib Machine

-- ============================================================================
-- The provider
-- ============================================================================

/-- Where LogonUI's thread stands in a call of the provider: in `SetUsageScenario`
    after the reset, in `GetCredentialCount` after the enumeration. -/
inductive ProviderPc where
  | idle
  | settingScenario (cpus : Option UsageScenario)
  | counting
deriving DecidableEq

/-- The fields of the provider.  `credential` is `_pCredential`, `userArray` the
    qualified names of `_pCredProviderUserArray`, `advised` is `_pcpe != nullptr`. -/
structure Provider where
  cpus : UsageScenario
  recreateEnumeratedCredentials : Bool
  credential : Option Nat
  userArray : Option (List (Option Wide))
  advised : Bool
  credentialReady : Bool
  pc : ProviderPc

/-- The provider, its credentials and how many of them it has created. -/
structure Logon where
  provider : Provider
  process : Process Nat
  created : Nat

/-- Calls of LogonUI, the second halves of two of them, `ResetCredentialReady` from a
    credential, and what moves the credentials.  The scenario of `SetUsageScenario` is
    `none` when the provider does not support it. -/
inductive LogonEvent where
  | setUserArray (users : Option (List (Option Wide)))
  | advise (callback : Bool)
  | unAdvise
  | setUsageScenario (cpus : Option UsageScenario)
  | assignScenario
  | getCredentialCount (allocated : Bool)
  | exchangeReady
  | getCredentialAt (index : Nat)
  | resetCredentialReady
  | process (e : ProcessEvent Nat)

/-- What a credential sends, `CredentialsChanged`, and the results of
    `GetCredentialCount` and `GetCredentialAt`. -/
inductive LogonOutput where
  | credential (object : Nat) (o : Output)
  | credentialsChanged
  | count (autoLogonWithDefault : Bool)
  | credentialAt (object : Option Nat)
deriving DecidableEq

/-- `OnCredentialReady` of a credential. -/
def Output.isReady : Output → Bool
  | .credentialReady _ => true
  | _ => false

/-- The event makes an object act that has been created. -/
def ProcessEvent.IsOf (created : Nat) : ProcessEvent Nat → Bool
  | .deliver _ _ _ => true
  | .credential i _ => i < created

namespace Logon

/-- The tile that `_CreateEnumeratedCredentials` makes: the first user of the array, or
    the empty tile of CredUI. -/
def tile (p : Provider) : Option (Option Wide) :=
  match p.cpus with
  | .logon | .unlockWorkstation => p.userArray.bind (·.head?)
  | .credUi => some none

/-- `_ReleaseEnumeratedCredentials` and `_CreateEnumeratedCredentials`. -/
def recreate (s : Logon) (allocated : Bool) : Logon :=
  match tile s.provider, allocated with
  | some qualifiedUserName, true =>
      { provider := { s.provider with
          recreateEnumeratedCredentials := false, credential := some s.created }
        process := { s.process with
          credentials := Function.update s.process.credentials s.created
            (.afterInitialize s.provider.cpus qualifiedUserName) }
        created := s.created + 1 }
  | _, _ =>
      { s with provider := { s.provider with
          recreateEnumeratedCredentials := false, credential := none } }

/-- `ResetCredentialReady`. -/
def resetReady (s : Logon) : Logon :=
  { s with provider := { s.provider with credentialReady := false } }

/-- One event. -/
def step (platform : Platform) (s : Logon) : LogonEvent → Option (Logon × List LogonOutput)
  | .setUserArray users => some ({ s with provider := { s.provider with userArray := users } }, [])
  | .advise callback => some ({ s with provider := { s.provider with advised := callback } }, [])
  | .unAdvise =>
      some ({ s.resetReady with provider := { s.resetReady.provider with advised := false } }, [])
  | .setUsageScenario cpus =>
      if s.provider.pc = .idle then
        some ({ s.resetReady with
          provider := { s.resetReady.provider with pc := .settingScenario cpus } }, [])
      else none
  | .assignScenario =>
      match s.provider.pc with
      | .settingScenario (some cpus) =>
          some ({ s with provider := { s.provider with
            cpus := cpus, recreateEnumeratedCredentials := true, pc := .idle } }, [])
      | .settingScenario none => some ({ s with provider := { s.provider with pc := .idle } }, [])
      | _ => none
  | .getCredentialCount allocated =>
      if s.provider.pc = .idle then
        let s' := if s.provider.recreateEnumeratedCredentials then s.recreate allocated else s
        some ({ s' with provider := { s'.provider with pc := .counting } }, [])
      else none
  | .exchangeReady =>
      if s.provider.pc = .counting then
        some ({ s.resetReady with provider := { s.resetReady.provider with pc := .idle } },
          [.count s.provider.credentialReady])
      else none
  | .getCredentialAt index =>
      -- `_pCredential->QueryInterface` on a null pointer has no result
      if index ≠ 0 then some (s, [.credentialAt none])
      else s.provider.credential.map fun object => (s, [.credentialAt (some object)])
  | .resetCredentialReady => some (s.resetReady, [])
  | .process e =>
      if e.IsOf s.created then
        (s.process.step platform e).map fun r =>
          ({ s with
              process := r.1
              provider := { s.provider with
                credentialReady := s.provider.credentialReady || r.2.any (·.2.isReady) } },
            r.2.map (fun o => .credential o.1 o.2) ++
              if r.2.any (·.2.isReady) ∧ s.provider.advised then [.credentialsChanged] else [])
      else none

end Logon

/-- The provider from its construction on, which leaves two fields uninitialized. -/
def logon (platform : Platform) : Machine Logon LogonEvent LogonOutput where
  init s := (process Nat platform).init s.process ∧ s.created = 0 ∧
    ∃ cpus recreate, s.provider = ⟨cpus, recreate, none, none, false, false, .idle⟩
  step s e := s.step platform e

abbrev LogonStep := Transition Logon LogonEvent LogonOutput

variable {platform : Platform} {t : LogonStep}

-- ============================================================================
-- Automatic logons
-- ============================================================================

/-- The session of generation `g` of an object calls `OnCredentialReady`. -/
def SignalsReady (i g : Nat) (t : LogonStep) : Prop :=
  .credential i (.credentialReady g) ∈ t.sent

/-- The session of generation `g` of an object fills its password field. -/
def FillsPassword (i g : Nat) (t : LogonStep) : Prop :=
  t.event = .process (.credential i (.session .advance)) ∧
  ∃ hint password name,
    (t.before.process.credentials i).session = some ⟨g, .storing hint password name⟩ ∧
    (t.after.process.credentials i).password = some password

/-- The event calls `ResetCredentialReady`. -/
def LogonEvent.resets : LogonEvent → Bool
  | .unAdvise | .setUsageScenario _ | .resetCredentialReady => true
  | _ => false

/-- `GetCredentialCount` returns TRUE for the automatic logon. -/
def AutoLogon (t : LogonStep) : Prop := .count true ∈ t.sent

/-- An object's session filled the password field and then signalled, and there was no
    reset and no automatic logon since the signal. -/
def SignalledBy (i : Nat) (tr : List LogonStep) : Prop :=
  ∃ g pre u post, tr = pre ++ u :: post ∧ SignalsReady i g u ∧ (∃ v ∈ pre, FillsPassword i g v) ∧
    ∀ w ∈ post, w.event.resets = false ∧ ¬ AutoLogon w

/-- `GetCredentialAt(0)` after an automatic logon returns the object that signalled. -/
def AutoLogonRight (platform : Platform) (pre : List LogonStep) (t : LogonStep) : Prop :=
  AutoLogon t → ∃ i, SignalledBy i pre ∧
    t.after.step platform (.getCredentialAt 0) = some (t.after, [.credentialAt (some i)])

/-- A signal comes from the object that is enumerated, and the flag is down when
    `GetCredentialCount` creates the credential anew. -/
structure KeepsSignal (t : LogonStep) : Prop where
  own : ∀ i g, SignalsReady i g t → t.before.provider.credential = some i
  recreation : ∀ allocated, t.event = .getCredentialCount allocated →
    t.before.provider.recreateEnumeratedCredentials = true →
    t.before.provider.credentialReady = false

-- ============================================================================
-- Steps of a session thread
-- ============================================================================

namespace Credential

variable {c c' : Credential} {register : StatusRegister} {g : Nat} {pc pc' : SessionPc}
  {se : SessionEvent} {out : List Output}

/-- A thread that is about to notify has just stored the password. -/
theorem store_of_notifying
    (h : c.sessionStep platform register g pc se = some (c', .notifying, out)) :
    ∃ hint password name, pc = .storing hint password name ∧ se = .advance ∧
      c'.password = some password := by
  have hgoes : ∀ pc', SessionStep platform c register g pc se c' pc' out → pc' = .notifying →
      ∃ hint password name, pc = .storing hint password name ∧ se = .advance ∧
        c'.password = some password := by
    intro pc' hstep heq
    cases hstep
    case storing hint password name => exact ⟨hint, password, name, rfl, rfl, rfl⟩
    -- no other place is followed by the notification
    all_goals repeat' split at heq
    all_goals cases heq
  exact hgoes _ (cases_of_sessionStep h) rfl

/-- Only a thread that is about to notify notifies. -/
theorem notifying_of_ready (h : c.sessionStep platform register g pc se = some (c', pc', out))
    (hready : .credentialReady g ∈ out) : pc = .notifying := by
  cases cases_of_sessionStep h
  case starting =>
    obtain ⟨_, -, hout⟩ := mem_authOutput hready
    cases hout
  case asked => cases List.mem_singleton.mp hready
  case notifying => rfl
  case terminating => cases List.mem_singleton.mp hready
  all_goals cases hready

end Credential

-- ============================================================================
-- Steps of the provider
-- ============================================================================

/-- A step of the credentials: the process steps, and the flag is up if it was or if a
    credential signals. -/
theorem takes_of_process {e : ProcessEvent Nat} (ht : (logon platform).Takes t)
    (he : t.event = .process e) :
    ∃ sent, (process Nat platform).Takes ⟨t.before.process, e, sent, t.after.process⟩ ∧
      t.after.provider = { t.before.provider with
        credentialReady := t.before.provider.credentialReady || sent.any (·.2.isReady) } ∧
      (∀ i o, .credential i o ∈ t.sent ↔ (i, o) ∈ sent) ∧ ¬ AutoLogon t := by
  have hstep : t.before.step platform t.event = some (t.after, t.sent) := ht
  rw [he] at hstep
  simp only [Logon.step] at hstep
  split at hstep
  · obtain ⟨⟨process', sent⟩, hprocess, heq⟩ := Option.map_eq_some_iff.mp hstep
    have hafter : _ = t.after := congrArg Prod.fst heq
    have hsent : _ = t.sent := congrArg Prod.snd heq
    refine ⟨sent, ?_, by rw [← hafter], fun i o => ?_, ?_⟩
    · show t.before.process.step platform e = some (t.after.process, sent)
      rw [hprocess, ← hafter]
    · rw [← hsent, List.mem_append]
      constructor
      · rintro (hmem | hmem)
        · obtain ⟨⟨j, o'⟩, hmem', heq⟩ := List.mem_map.mp hmem
          cases heq
          exact hmem'
        · split at hmem
          · cases List.mem_singleton.mp hmem
          · cases hmem
      · intro hmem
        exact Or.inl (List.mem_map.mpr ⟨(i, o), hmem, rfl⟩)
    · rw [AutoLogon, ← hsent, List.mem_append]
      rintro (hmem | hmem)
      · obtain ⟨_, -, heq⟩ := List.mem_map.mp hmem
        cases heq
      · split at hmem
        · cases List.mem_singleton.mp hmem
        · cases hmem
  · cases hstep

/-- A signal of the credentials raises the flag. -/
theorem any_isReady {sent : List (Nat × Output)} (h : sent.any (·.2.isReady) = true) :
    ∃ i g, (i, .credentialReady g) ∈ sent := by
  obtain ⟨⟨i, o⟩, hmem, hready⟩ := List.any_eq_true.mp h
  cases o with
  | credentialReady g => exact ⟨i, g, hmem⟩
  | _ => cases hready

namespace Logon

theorem recreate_credentialReady (s : Logon) (allocated : Bool) :
    (s.recreate allocated).provider.credentialReady = s.provider.credentialReady := by
  unfold recreate
  split <;> rfl

/-- Each object stays as it is, or it is the new one. -/
theorem recreate_credentials (s : Logon) (allocated : Bool) (i : Nat) :
    (s.recreate allocated).process.credentials i = s.process.credentials i ∨
      ((s.recreate allocated).process.credentials i).session = none := by
  unfold recreate
  split
  · by_cases hi : i = s.created
    · subst hi
      exact Or.inr (by simp [Credential.afterInitialize])
    · exact Or.inl (Function.update_of_ne hi _ _)
  · exact Or.inl rfl

end Logon

/-- What a step can be: of the credentials, the re-creation, the second half of
    `GetCredentialCount`, or another call, which keeps the enumeration. -/
inductive LogonStepKind (t : LogonStep) : Prop where
  | process (e : ProcessEvent Nat) (he : t.event = .process e)
  | recreation (allocated : Bool) (he : t.event = .getCredentialCount allocated)
      (hrecreate : t.before.provider.recreateEnumeratedCredentials = true)
      (hprocess : t.after.process = (t.before.recreate allocated).process)
      (hready : t.after.provider.credentialReady = t.before.provider.credentialReady)
      (hsent : t.sent = [])
  | exchange (he : t.event = .exchangeReady)
      (hprocess : t.after.process = t.before.process)
      (hcredential : t.after.provider.credential = t.before.provider.credential)
      (hready : t.after.provider.credentialReady = false)
      (hsent : t.sent = [.count t.before.provider.credentialReady])
  | call (he : ∀ e, t.event ≠ .process e)
      (hprocess : t.after.process = t.before.process)
      (hcredential : t.after.provider.credential = t.before.provider.credential)
      (hready : t.after.provider.credentialReady = false ∨
        (t.event.resets = false ∧
          t.after.provider.credentialReady = t.before.provider.credentialReady))
      (hsent : ∀ o ∈ t.sent, ∃ object, o = .credentialAt object)

/-- The inversion of a step. -/
theorem kind_of_takes (ht : (logon platform).Takes t) : LogonStepKind t := by
  obtain ⟨s, e, sent, s'⟩ := t
  have hstep : s.step platform e = some (s', sent) := ht
  cases e with
  | process e => exact .process e rfl
  | getCredentialCount allocated =>
      simp only [Logon.step] at hstep
      split at hstep
      · by_cases hrecreate : s.provider.recreateEnumeratedCredentials = true
        · rw [if_pos hrecreate] at hstep
          cases hstep
          exact .recreation allocated rfl hrecreate rfl (Logon.recreate_credentialReady ..) rfl
        · rw [if_neg hrecreate] at hstep
          cases hstep
          exact .call (by simp) rfl rfl (Or.inr ⟨rfl, rfl⟩) (by simp)
      · cases hstep
  | exchangeReady =>
      simp only [Logon.step] at hstep
      split at hstep
      · cases hstep
        exact .exchange rfl rfl rfl rfl rfl
      · cases hstep
  | setUserArray users =>
      cases hstep
      exact .call (by simp) rfl rfl (Or.inr ⟨rfl, rfl⟩) (by simp)
  | advise callback =>
      cases hstep
      exact .call (by simp) rfl rfl (Or.inr ⟨rfl, rfl⟩) (by simp)
  | unAdvise =>
      cases hstep
      exact .call (by simp) rfl rfl (Or.inl rfl) (by simp)
  | setUsageScenario cpus =>
      simp only [Logon.step] at hstep
      split at hstep
      · cases hstep
        exact .call (by simp) rfl rfl (Or.inl rfl) (by simp)
      · cases hstep
  | assignScenario =>
      simp only [Logon.step] at hstep
      split at hstep
      · cases hstep
        exact .call (by simp) rfl rfl (Or.inr ⟨rfl, rfl⟩) (by simp)
      · cases hstep
        exact .call (by simp) rfl rfl (Or.inr ⟨rfl, rfl⟩) (by simp)
      · cases hstep
  | getCredentialAt index =>
      simp only [Logon.step] at hstep
      split at hstep
      · cases hstep
        exact .call (by simp) rfl rfl (Or.inr ⟨rfl, rfl⟩) (by simp)
      · obtain ⟨object, -, heq⟩ := Option.map_eq_some_iff.mp hstep
        cases heq
        exact .call (by simp) rfl rfl (Or.inr ⟨rfl, rfl⟩) (by simp)
  | resetCredentialReady =>
      cases hstep
      exact .call (by simp) rfl rfl (Or.inl rfl) (by simp)

-- ============================================================================
-- Who raised the flag
-- ============================================================================

/-- Every thread that is about to notify has filled the password field, and while the
    flag is up the enumerated object is one that has signalled. -/
structure Explained (tr : List LogonStep) (s : Logon) : Prop where
  filled : ∀ i g, (s.process.credentials i).session = some ⟨g, .notifying⟩ →
    ∃ v ∈ tr, FillsPassword i g v
  ready : s.provider.credentialReady = true →
    ∃ i, s.provider.credential = some i ∧ SignalledBy i tr

theorem SignalledBy.snoc {i : Nat} {tr : List LogonStep} (h : SignalledBy i tr)
    (hresets : t.event.resets = false) (hauto : ¬ AutoLogon t) : SignalledBy i (tr ++ [t]) := by
  obtain ⟨g, pre, u, post, rfl, hsignals, hfills, hpost⟩ := h
  exact ⟨g, pre, u, post ++ [t], by simp, hsignals, hfills,
    forall_mem_snoc.mpr ⟨hpost, hresets, hauto⟩⟩

/-- The signal of a thread that has filled the password field. -/
theorem signalledBy_of_signalsReady {i g : Nat} {tr : List LogonStep}
    (hfills : ∃ v ∈ tr, FillsPassword i g v) (hsignals : SignalsReady i g t) :
    SignalledBy i (tr ++ [t]) :=
  ⟨g, tr, t, [], by simp, hsignals, hfills, by simp⟩

/-- Only a thread that is about to notify signals. -/
theorem notifying_of_signalsReady {i g : Nat} (ht : (logon platform).Takes t)
    (h : SignalsReady i g t) :
    (t.before.process.credentials i).session = some ⟨g, .notifying⟩ := by
  rcases kind_of_takes ht with ⟨e, he⟩ | ⟨_, -, -, -, -, hsent⟩ | ⟨-, -, -, -, hsent⟩ |
    ⟨-, -, -, -, hsent⟩
  · obtain ⟨sent, hprocess, -, hmem, -⟩ := takes_of_process ht he
    obtain ⟨se, pc, c', pc', outs, -, hses, ho, hs, -⟩ :=
      session_of_mem_sent hprocess ((hmem _ _).mp h) rfl
    rw [Credential.notifying_of_ready hs ho] at hses
    exact hses
  · rw [SignalsReady, hsent] at h
    cases h
  · rw [SignalsReady, hsent] at h
    cases List.mem_singleton.mp h
  · obtain ⟨object, ho⟩ := hsent _ h
    cases ho

/-- A thread comes to the notification through the store. -/
theorem filled_of_takes {tr : List LogonStep} (ht : (logon platform).Takes t)
    (h : ∀ i g, (t.before.process.credentials i).session = some ⟨g, .notifying⟩ →
      ∃ v ∈ tr, FillsPassword i g v) (i g : Nat)
    (hses : (t.after.process.credentials i).session = some ⟨g, .notifying⟩) :
    ∃ v ∈ tr ++ [t], FillsPassword i g v := by
  rcases kind_of_takes ht with ⟨e, he⟩ | ⟨allocated, -, -, hprocess, -, -⟩ | ⟨-, hprocess, -, -, -⟩ |
    ⟨-, hprocess, -, -, -⟩
  · obtain ⟨sent, hprocess, -, -⟩ := takes_of_process ht he
    rcases credential_of_takes hprocess i with ⟨ce, out, hce, hstep, -⟩ | ⟨-, hafter, -⟩
    · rcases Credential.session_of_step hstep hses with hold | ⟨se, pc, c₁, rfl, hold, hs⟩ |
        ⟨hpc, -⟩
      · exact exists_mem_snoc (h i g hold) t
      · -- the thread has just stored the password
        obtain ⟨hint, password, name, rfl, rfl, hpassword⟩ := Credential.store_of_notifying hs
        obtain ⟨ses, c₂, pc₂, hses₂, hs₂, hafter, -⟩ := Credential.sessionStep_of_step hstep
        rw [hold] at hses₂
        cases hses₂
        rw [hs] at hs₂
        cases hs₂
        have hce' : e = .credential i (.session .advance) := hce
        refine ⟨t, by simp, by rw [he, hce'], hint, password, name, hold, ?_⟩
        have hafter' : t.after.process.credentials i =
          { c₁ with session := some ⟨g, .notifying⟩ } := hafter
        rw [hafter']
        exact hpassword
      · cases hpc
    · have hafter' : t.after.process.credentials i = t.before.process.credentials i := hafter
      rw [hafter'] at hses
      exact exists_mem_snoc (h i g hses) t
  · rw [hprocess] at hses
    rcases Logon.recreate_credentials t.before allocated i with hold | hnone
    · rw [hold] at hses
      exact exists_mem_snoc (h i g hses) t
    · rw [hnone] at hses
      cases hses
  · rw [hprocess] at hses
    exact exists_mem_snoc (h i g hses) t
  · rw [hprocess] at hses
    exact exists_mem_snoc (h i g hses) t

theorem explained_of_takes {tr : List LogonStep} (ht : (logon platform).Takes t)
    (h : Explained tr t.before) (hkeeps : KeepsSignal t) : Explained (tr ++ [t]) t.after := by
  refine ⟨filled_of_takes ht h.filled, fun hready => ?_⟩
  rcases kind_of_takes ht with ⟨e, he⟩ | ⟨allocated, he, hrecreate, -, hsame, -⟩ |
    ⟨-, -, -, hdown, -⟩ | ⟨-, -, hcredential, hcall, hsent⟩
  · obtain ⟨sent, -, hprovider, hmem, hauto⟩ := takes_of_process ht he
    rw [hprovider] at hready ⊢
    rcases Bool.or_eq_true_iff.mp hready with hold | hnew
    · obtain ⟨i, hi, hsignalled⟩ := h.ready hold
      exact ⟨i, hi, hsignalled.snoc (by rw [he]; rfl) hauto⟩
    · obtain ⟨i, g, hsignal⟩ := any_isReady hnew
      have hsignals : SignalsReady i g t := (hmem _ _).mpr hsignal
      have hfills := h.filled i g (notifying_of_signalsReady ht hsignals)
      exact ⟨i, hkeeps.own i g hsignals, signalledBy_of_signalsReady hfills hsignals⟩
  · rw [hsame, hkeeps.recreation allocated he hrecreate] at hready
    cases hready
  · rw [hdown] at hready
    cases hready
  · rcases hcall with hdown | ⟨hresets, hsame⟩
    · rw [hdown] at hready
      cases hready
    · rw [hsame] at hready
      obtain ⟨i, hi, hsignalled⟩ := h.ready hready
      refine ⟨i, by rw [hcredential]; exact hi, hsignalled.snoc hresets ?_⟩
      rintro hauto
      obtain ⟨object, ho⟩ := hsent _ hauto
      cases ho

/-- An automatic logon takes the flag, and `GetCredentialAt(0)` returns the enumerated
    object. -/
theorem autoLogonRight_of_explained {tr : List LogonStep} (ht : (logon platform).Takes t)
    (h : Explained tr t.before) : AutoLogonRight platform tr t := by
  intro hauto
  rcases kind_of_takes ht with ⟨e, he⟩ | ⟨_, -, -, -, -, hsent⟩ |
    ⟨-, -, hcredential, -, hsent⟩ | ⟨-, -, -, -, hsent⟩
  · obtain ⟨-, -, -, -, hnot⟩ := takes_of_process ht he
    exact absurd hauto hnot
  · rw [AutoLogon, hsent] at hauto
    cases hauto
  · rw [AutoLogon, hsent, List.mem_singleton] at hauto
    obtain ⟨i, hi, hsignalled⟩ := h.ready (LogonOutput.count.inj hauto).symm
    refine ⟨i, hsignalled, ?_⟩
    simp [Logon.step, hcredential, hi]
  · obtain ⟨object, ho⟩ := hsent _ hauto
    cases ho

/-- In a run whose signals come from the enumerated object and whose re-creations find
    the flag down, each automatic logon is for the object that signalled, once for each
    signal. -/
theorem autoLogonRight_of_keepsSignal {tr : List LogonStep} {s : Logon}
    (h : (logon platform).Run tr s) (hC : Always (fun _ t => KeepsSignal t) tr) :
    Always (AutoLogonRight platform) tr := by
  refine (h.invariant_under (P := fun tr s => Always (AutoLogonRight platform) tr ∧
    Explained tr s) ?_ ?_ hC).1
  · rintro s ⟨⟨-, hinit⟩, -, cpus, recreate, hprovider⟩
    refine ⟨always_nil, fun i g hses => ?_, fun hready => ?_⟩
    · obtain ⟨_, _, heq⟩ := hinit i
      rw [heq] at hses
      cases hses
    · rw [hprovider] at hready
      cases hready
  · rintro tr t ⟨hright, hexplained⟩ ht hkeeps
    exact ⟨always_snoc.mpr ⟨hright, autoLogonRight_of_explained ht hexplained⟩,
      explained_of_takes ht hexplained hkeeps⟩

-- ============================================================================
-- A sign-in on the CredUI tile
-- ============================================================================

/-- The notification of a session thread. -/
theorem step_notify (platform : Platform) (s : Logon) {i g : Nat} (hi : i < s.created)
    (hses : (s.process.credentials i).session = some ⟨g, .notifying⟩) :
    (logon platform).step s (.process (.credential i (.session (.notify true)))) =
      some ({ s with
          process := ⟨s.process.register, Function.update s.process.credentials i
            { s.process.credentials i with session := some ⟨g, .cleanup⟩ }⟩
          provider := { s.provider with credentialReady := true } },
        .credential i (.credentialReady g) ::
          if s.provider.advised then [.credentialsChanged] else []) := by
  simp [logon, Logon.step, ProcessEvent.IsOf, hi, Process.step, Credential.step,
    CredentialEvent.isCall, Credential.perform, hses, Credential.sessionStep, Output.isReady]

/-- The output of a step has no signal. -/
def quiet (sent : List LogonOutput) : Bool :=
  sent.all fun | .credential _ o => !o.isReady | _ => true

theorem not_signalsReady (h : quiet t.sent = true) (i g : Nat) : ¬ SignalsReady i g t := by
  intro hmem
  have hquiet := List.all_eq_true.mp h _ hmem
  cases hquiet

theorem keepsSignal_of_quiet (h : quiet t.sent = true)
    (hready : t.before.provider.credentialReady = false) : KeepsSignal t :=
  ⟨fun i g hsignals => absurd hsignals (not_signalsReady h i g), fun _ _ _ => hready⟩

/-- A provider before its first call. -/
def exampleLogon : Logon where
  provider := ⟨.logon, false, none, none, false, false, .idle⟩
  process := ⟨.initial, fun _ => .afterInitialize .credUi none⟩
  created := 0

/-- An event of the session of the first object. -/
def firstSession (e : SessionEvent) : LogonEvent := .process (.credential 0 (.session e))

/-- A sign-in on the CredUI tile up to the notification. -/
theorem exampleLogon_run : ∃ pre s, (logon examplePlatform).Run pre s ∧
    s.provider = ⟨.credUi, false, some 0, none, false, false, .idle⟩ ∧ s.created = 1 ∧
    (s.process.credentials 0).session = some ⟨1, .notifying⟩ ∧
    (∀ u ∈ pre, ∀ i g, ¬ SignalsReady i g u) ∧ Always (fun _ u => KeepsSignal u) pre := by
  have h0 : (logon examplePlatform).Run [] exampleLogon :=
    .nil ⟨⟨rfl, fun _ => ⟨.credUi, none, rfl⟩⟩, rfl, .logon, false, rfl⟩
  have h1 := h0.event (e := .setUsageScenario (some .credUi)) rfl
  have h2 := h1.event (e := .assignScenario) rfl
  have h3 := h2.event (e := .getCredentialCount true) rfl
  have h4 := h3.event (e := .exchangeReady) rfl
  have h5 := h4.event (e := .resetCredentialReady) rfl
  have h6 := h5.event (e := .process (.credential 0 (.start false))) rfl
  have h7 := h6.event (e := firstSession (.launch true true)) rfl
  have h8 := h7.event (e := firstSession .advance) rfl
  have h9 := h8.event (e := firstSession .advance) rfl
  have h10 := h9.event (e := firstSession (.auth (.send true 7))) rfl
  have h11 := h10.event (e := .process (.deliver (statusPacket .success (utf8 "bob") 7 []
    nil_fits_feature 0) [] 1)) rfl
  have h12 := h11.event (e := firstSession (.auth .acknowledged)) rfl
  have h13 := h12.event (e := firstSession .advance) rfl
  have h14 := h13.event (e := firstSession .advance) rfl
  have h15 := h14.event (e := firstSession .advance) rfl
  have h16 := h15.event (e := firstSession .advance) rfl
  have h17 := h16.event (e := firstSession .advance) rfl
  have h18 := h17.event (e := firstSession (.requestPassword true 8)) rfl
  have h19 := h18.event (e := firstSession (.passwordReply (some (exampleWide "secret")))) rfl
  have h20 := h19.event (e := firstSession .advance) rfl
  have h21 := h20.event (e := firstSession .advance) rfl
  have h22 := h21.event (e := firstSession .advance) rfl
  refine ⟨_, _, h22, rfl, rfl, rfl, ?_, ?_⟩
  · iterate 22
      refine forall_mem_snoc.mpr ⟨?_, not_signalsReady rfl⟩
    simp
  · iterate 22
      refine always_snoc.mpr ⟨?_, keepsSignal_of_quiet rfl rfl⟩
    exact always_nil

/-- The signal of the enumerated tile leads to one automatic logon, with that tile. -/
theorem autoLogonRight_credUi : ∃ tr s, (logon examplePlatform).Run tr s ∧
    .count true ∈ tr.flatMap (·.sent) ∧ Always (AutoLogonRight examplePlatform) tr := by
  obtain ⟨pre, ⟨_, process, _⟩, hrun, rfl, rfl, hses, -, hkeeps⟩ := exampleLogon_run
  have h1 := hrun.event (step_notify examplePlatform _ Nat.zero_lt_one hses)
  have h2 := h1.event (e := .getCredentialCount true) rfl
  have h3 := h2.event (e := .exchangeReady) rfl
  refine ⟨_, _, h3, ?_, autoLogonRight_of_keepsSignal h3 ?_⟩
  · exact List.mem_flatMap.mpr ⟨_, List.mem_append_right _ (List.mem_singleton_self _),
      List.mem_singleton_self _⟩
  · refine always_snoc.mpr ⟨always_snoc.mpr ⟨always_snoc.mpr ⟨hkeeps, ?_⟩, ?_⟩, ?_⟩
    · refine ⟨fun i g hsignals => ?_, fun _ he => by cases he⟩
      cases List.mem_singleton.mp hsignals
      rfl
    · exact ⟨fun i g hsignals => absurd hsignals (not_signalsReady rfl i g),
        fun _ _ hrecreate => by cases hrecreate⟩
    · exact ⟨fun i g hsignals => absurd hsignals (not_signalsReady rfl i g),
        fun _ he => by cases he⟩

/-- `SetUsageScenario` falls between the store and the notification: the signal of the
    old object makes `GetCredentialCount` return TRUE with a new, empty one. -/
theorem autoLogonRight_fails : ¬ ∀ (tr : List LogonStep) (s : Logon),
    (logon examplePlatform).Run tr s → Always (AutoLogonRight examplePlatform) tr := by
  intro hall
  obtain ⟨pre, ⟨_, process, _⟩, hrun, rfl, rfl, hses, hquiet, -⟩ := exampleLogon_run
  have h1 := hrun.event (e := .setUsageScenario (some .credUi)) rfl
  have h2 := h1.event (e := .assignScenario) rfl
  have h3 := h2.event (step_notify examplePlatform _ Nat.zero_lt_one hses)
  have h4 := h3.event (e := .getCredentialCount true) rfl
  have h5 := h4.event (e := .exchangeReady) rfl
  obtain ⟨i, ⟨g, before, u, after, htr, hsignals, -⟩, hat⟩ :=
    (always_snoc.mp (hall _ _ h5)).2 (List.mem_singleton_self _)
  -- the second object is returned, and only the first one has signalled
  have hi : i = 1 := by
    cases hat
    rfl
  subst hi
  have hu : u ∈ before ++ u :: after := by simp
  rw [← htr] at hu
  refine forall_mem_snoc (P := fun u => ¬ SignalsReady 1 g u) |>.mpr ⟨?_, ?_⟩ u hu hsignals
  · refine forall_mem_snoc.mpr ⟨forall_mem_snoc.mpr ⟨forall_mem_snoc.mpr ⟨?_, ?_⟩, ?_⟩, ?_⟩
    · exact fun v hv => hquiet v hv 1 g
    · exact not_signalsReady rfl 1 g
    · exact not_signalsReady rfl 1 g
    · intro hmem
      cases List.mem_singleton.mp hmem
  · exact not_signalsReady rfl 1 g

end Smile2Unlock.CredentialProvider
