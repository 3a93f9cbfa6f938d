/-
  Smile2Unlock.CredentialProvider.OwnResult

  Whose result a session takes.  The poll looks at the status of the register only;
  the session id that came with it is stored and never compared, so a session takes
  every SUCCESS that arrives while it waits.

  `takesOwnResult_of_carriesOwnId` is the guarantee that is left: it holds as long as
  each SUCCESS datagram carries an id of the sessions that wait for one.
-/

import Smile2Unlock.CredentialProvider.Process

namespace Smile2Unlock.CredentialProvider

open Smile2Unlock Lib Machine

-- ============================================================================
-- What a run has seen
-- ============================================================================

variable {ι : Type}

/-- The status and the session id of a datagram that `receive_loop` accepts. -/
def ProcessEvent.status : ProcessEvent ι → Option (RecognitionStatus × UInt32)
  | .deliver packet _ _ =>
      if packet.magicNumber ≠ magicNumber ∨ packet.version ≠ protocolVersion then none
      else some (.ofCode packet.statusCode, packet.sessionId)
  | .credential _ _ => none

/-- The newest status datagram. -/
def lastStatus (tr : List (ProcessStep ι)) : Option (RecognitionStatus × UInt32) :=
  newest (·.event.status) tr

/-- The ids of the STARTs that a session has sent. -/
def startIds [DecidableEq ι] (i : ι) (g : Nat) (tr : List (ProcessStep ι)) : List UInt32 :=
  (tr.flatMap (·.sent)).filterMap fun
    | (j, .authRequest (.session g') .startRecognition _ sessionId) =>
        if j = i ∧ g' = g then some sessionId else none
    | _ => none

/-- A poll of the session of generation `g` finds SUCCESS. -/
def TakesSuccess (i : ι) (g : Nat) (t : ProcessStep ι) : Prop :=
  t.event = .credential i (.session .advance) ∧
  (t.before.credentials i).session = some ⟨g, .waitPoll⟩ ∧
  t.before.register.faceRecognitionStatus = .success

variable [DecidableEq ι]

/-- The session took a SUCCESS whose datagram carries the id of a START it had sent. -/
def OwnResult (i : ι) (g : Nat) (tr : List (ProcessStep ι)) : Prop :=
  ∃ pre t post, tr = pre ++ t :: post ∧ TakesSuccess i g t ∧
    ∃ sessionId ∈ startIds i g pre, lastStatus pre = some (.success, sessionId)

/-- A session that asks for the password or reports the credential took its own
    result. -/
def TakesOwnResult (pre : List (ProcessStep ι)) (t : ProcessStep ι) : Prop :=
  ∀ i g, (∃ hint sessionId, (i, .passwordRequest g hint sessionId) ∈ t.sent) ∨
    (i, .credentialReady g) ∈ t.sent → OwnResult i g pre

theorem OwnResult.snoc {i : ι} {g : Nat} {tr : List (ProcessStep ι)} (h : OwnResult i g tr)
    (t : ProcessStep ι) : OwnResult i g (tr ++ [t]) := by
  obtain ⟨pre, u, post, rfl, hu⟩ := h
  exact ⟨pre, u, post ++ [t], by simp, hu⟩

/-- The id of an own result is that of a START and of a SUCCESS. -/
theorem OwnResult.exists_sessionId {i : ι} {g : Nat} {tr : List (ProcessStep ι)}
    (h : OwnResult i g tr) : ∃ sessionId ∈ startIds i g tr,
      (.success, sessionId) ∈ tr.filterMap (·.event.status) := by
  obtain ⟨pre, u, post, rfl, -, sessionId, hid, hlast⟩ := h
  refine ⟨sessionId, ?_, ?_⟩
  · rw [startIds, List.flatMap_append, List.filterMap_append]
    exact List.mem_append_left _ hid
  · rw [List.filterMap_append]
    exact List.mem_append_left _ (mem_of_newest hlast)

theorem mem_startIds_snoc {i : ι} {g : Nat} {tr : List (ProcessStep ι)} {sessionId : UInt32}
    (h : sessionId ∈ startIds i g tr) (t : ProcessStep ι) : sessionId ∈ startIds i g (tr ++ [t]) := by
  rw [startIds, List.flatMap_append, List.filterMap_append]
  exact List.mem_append_left _ h

-- ============================================================================
-- The phases of a session
-- ============================================================================

/-- Before its result, with a result, or past both. -/
inductive SessionPhase where
  | waiting
  | taken
  | over
deriving DecidableEq

def SessionPc.phase : SessionPc → SessionPhase
  | .launching | .launched | .startCheck | .starting _ | .waitCheck | .waitEnter | .waitFlag
  | .waitPoll => .waiting
  | .resultCheck | .requesting | .awaitingPassword _ _ | .storeCheck _ _ | .readingName _ _
  | .storing _ _ _ | .notifying => .taken
  | .cleanup | .terminating | .finishing | .ended => .over

namespace Credential

variable {platform : Platform} {c c' : Credential} {register : StatusRegister} {g : Nat}
  {pc pc' : SessionPc} {se : SessionEvent} {out : List Output}

/-- A thread goes on in its phase, or to its end, or takes a SUCCESS at the poll. -/
theorem phase_of_sessionStep (h : c.sessionStep platform register g pc se = some (c', pc', out)) :
    pc'.phase = pc.phase ∨ pc'.phase = .over ∨
      (pc = .waitPoll ∧ se = .advance ∧ register.faceRecognitionStatus = .success) := by
  cases cases_of_sessionStep h
  case waitPoll =>
    split
    · rename_i hsuccess
      exact Or.inr (Or.inr ⟨rfl, rfl, hsuccess⟩)
    · split
      · exact Or.inr (Or.inl rfl)
      · exact Or.inl rfl
  all_goals try split
  all_goals first
    | exact Or.inl rfl
    | exact Or.inr (Or.inl rfl)

/-- The password is asked for, and the credential reported, with a result only. -/
theorem phase_of_mem_sent (h : c.sessionStep platform register g pc se = some (c', pc', out))
    (hout : (∃ hint sessionId, .passwordRequest g hint sessionId ∈ out) ∨ .credentialReady g ∈ out) :
    pc.phase = .taken := by
  cases cases_of_sessionStep h
  case starting =>
    rcases hout with ⟨hint, sessionId, hmem⟩ | hmem
    · obtain ⟨_, -, heq⟩ := mem_authOutput hmem
      cases heq
    · obtain ⟨_, -, heq⟩ := mem_authOutput hmem
      cases heq
  case asked => rfl
  case notAsked => rfl
  case notifying => rfl
  all_goals simp at hout

end Credential

-- ============================================================================
-- Steps and runs
-- ============================================================================

variable {platform : Platform} {t : ProcessStep ι} {tr : List (ProcessStep ι)} {s : Process ι}

/-- The status of the register after a step: that of the datagram, or the old one, or
    IDLE. -/
theorem status_of_takes (ht : (process ι platform).Takes t) :
    (∃ status sessionId, t.event.status = some (status, sessionId) ∧
      t.after.register.faceRecognitionStatus = status ∧
      t.after.credentials = t.before.credentials) ∨
    (t.event.status = none ∧
      (t.after.register.faceRecognitionStatus = t.before.register.faceRecognitionStatus ∨
        t.after.register.faceRecognitionStatus = .idle)) := by
  cases he : t.event with
  | deliver packet beyond tick =>
      obtain ⟨hregister, hcredentials, -⟩ := takes_of_deliver ht he
      rw [hregister, StatusRegister.receive, ProcessEvent.status]
      by_cases hbad : packet.magicNumber ≠ magicNumber ∨ packet.version ≠ protocolVersion
      · rw [if_pos hbad, if_pos hbad]
        exact Or.inr ⟨rfl, Or.inl rfl⟩
      · rw [if_neg hbad, if_neg hbad]
        exact Or.inl ⟨_, _, rfl, rfl, hcredentials⟩
  | credential i e =>
      obtain ⟨out, hstep, -, -⟩ := takes_of_credential ht he
      exact Or.inr ⟨rfl, Credential.status_of_step hstep⟩

/-- A SUCCESS that arrives carries an id of every session that waits for one. -/
def CarriesOwnId (pre : List (ProcessStep ι)) (t : ProcessStep ι) : Prop :=
  ∀ sessionId, t.event.status = some (.success, sessionId) → ∀ i g pc,
    (t.before.credentials i).session = some ⟨g, pc⟩ → pc.phase = .waiting →
      sessionId ∈ startIds i g pre

/-- What the history owes to the sessions: the SUCCESS in the register is one for every
    session that waits, and a session with a result took its own. -/
structure OwnSuccess (tr : List (ProcessStep ι)) (s : Process ι) : Prop where
  waiting : ∀ i g pc, (s.credentials i).session = some ⟨g, pc⟩ → pc.phase = .waiting →
    s.register.faceRecognitionStatus = .success →
      ∃ sessionId ∈ startIds i g tr, lastStatus tr = some (.success, sessionId)
  taken : ∀ i g pc, (s.credentials i).session = some ⟨g, pc⟩ → pc.phase = .taken →
    OwnResult i g tr

/-- A waiting session waited before the step, or has just been created, and then the
    status is IDLE. -/
theorem waiting_of_takes {i : ι} {g : Nat} {pc' : SessionPc} (ht : (process ι platform).Takes t)
    (hses : (t.after.credentials i).session = some ⟨g, pc'⟩) (hpc' : pc'.phase = .waiting)
    (hsuccess : t.after.register.faceRecognitionStatus = .success) :
    ∃ pc, (t.before.credentials i).session = some ⟨g, pc⟩ ∧ pc.phase = .waiting := by
  rcases credential_of_takes ht i with ⟨e, out, -, hstep, -⟩ | ⟨-, hafter, -⟩
  · rcases Credential.session_of_step hstep hses with hold | ⟨se, pc, c₁, -, hold, hs⟩ | ⟨-, hidle⟩
    · exact ⟨pc', hold, hpc'⟩
    · refine ⟨pc, hold, ?_⟩
      rcases Credential.phase_of_sessionStep hs with hsame | hover | ⟨rfl, -, -⟩
      · exact hsame ▸ hpc'
      · rw [hpc'] at hover
        cases hover
      · rfl
    · rw [hidle] at hsuccess
      cases hsuccess
  · rw [hafter] at hses
    exact ⟨pc', hses, hpc'⟩

/-- A session with a result had it before the step, or polled. -/
theorem taken_of_takes {i : ι} {g : Nat} {pc' : SessionPc} (ht : (process ι platform).Takes t)
    (hses : (t.after.credentials i).session = some ⟨g, pc'⟩) (hpc' : pc'.phase = .taken) :
    (∃ pc, (t.before.credentials i).session = some ⟨g, pc⟩ ∧ pc.phase = .taken) ∨
      TakesSuccess i g t := by
  rcases credential_of_takes ht i with ⟨e, out, he, hstep, -⟩ | ⟨-, hafter, -⟩
  · rcases Credential.session_of_step hstep hses with hold | ⟨se, pc, c₁, rfl, hold, hs⟩ | ⟨rfl, -⟩
    · exact Or.inl ⟨pc', hold, hpc'⟩
    · rcases Credential.phase_of_sessionStep hs with hsame | hover | ⟨rfl, rfl, hsuccess⟩
      · exact Or.inl ⟨pc, hold, hsame ▸ hpc'⟩
      · rw [hpc'] at hover
        cases hover
      · exact Or.inr ⟨he, hold, hsuccess⟩
    · cases hpc'
  · rw [hafter] at hses
    exact Or.inl ⟨pc', hses, hpc'⟩

theorem ownSuccess_of_takes (hown : OwnSuccess tr t.before) (ht : (process ι platform).Takes t)
    (hC : CarriesOwnId tr t) : OwnSuccess (tr ++ [t]) t.after where
  waiting := by
    intro i g pc' hses hpc' hsuccess
    obtain ⟨pc, hold, hpc⟩ := waiting_of_takes ht hses hpc' hsuccess
    rcases status_of_takes ht with ⟨status, sessionId, he, hstatus, -⟩ | ⟨he, hstatus⟩
    · rw [hsuccess] at hstatus
      rw [← hstatus] at he
      refine ⟨sessionId, mem_startIds_snoc (hC sessionId he i g pc hold hpc) t, ?_⟩
      rw [lastStatus, newest_snoc, he, Option.some_or]
    · have hbefore : t.before.register.faceRecognitionStatus = .success := by
        rcases hstatus with hstatus | hstatus
        · rw [← hstatus, hsuccess]
        · rw [hstatus] at hsuccess
          cases hsuccess
      obtain ⟨sessionId, hid, hlast⟩ := hown.waiting i g pc hold hpc hbefore
      refine ⟨sessionId, mem_startIds_snoc hid t, ?_⟩
      rw [lastStatus, newest_snoc, he, Option.none_or]
      exact hlast
  taken := by
    intro i g pc' hses hpc'
    rcases taken_of_takes ht hses hpc' with ⟨pc, hold, hpc⟩ | htakes
    · exact (hown.taken i g pc hold hpc).snoc t
    · obtain ⟨sessionId, hid, hlast⟩ :=
        hown.waiting i g _ htakes.2.1 rfl htakes.2.2
      exact ⟨tr, t, [], rfl, htakes, sessionId, hid, hlast⟩

theorem takesOwnResult_of_ownSuccess (hown : OwnSuccess tr t.before)
    (ht : (process ι platform).Takes t) : TakesOwnResult tr t := by
  rintro i g hout
  obtain ⟨o, hmem, howner, hresult⟩ : ∃ o, (i, o) ∈ t.sent ∧ o.owner = some (.session g) ∧
      ((∃ hint sessionId, o = .passwordRequest g hint sessionId) ∨ o = .credentialReady g) := by
    rcases hout with ⟨hint, sessionId, hmem⟩ | hmem
    · exact ⟨_, hmem, rfl, Or.inl ⟨hint, sessionId, rfl⟩⟩
    · exact ⟨_, hmem, rfl, Or.inr rfl⟩
  obtain ⟨se, pc, c', pc', outs, -, hses, ho, hs, -⟩ := session_of_mem_sent ht hmem howner
  refine hown.taken i g pc hses (Credential.phase_of_mem_sent hs ?_)
  rcases hresult with ⟨hint, sessionId, rfl⟩ | rfl
  · exact Or.inl ⟨hint, sessionId, ho⟩
  · exact Or.inr ho

/-- As long as every SUCCESS carries an id of the sessions that wait, every session
    takes its own result. -/
theorem takesOwnResult_of_carriesOwnId (h : (process ι platform).Run tr s)
    (hC : Always CarriesOwnId tr) : Always TakesOwnResult tr := by
  refine (h.invariant_under (P := fun tr s => Always TakesOwnResult tr ∧ OwnSuccess tr s)
    ?_ ?_ hC).1
  · rintro s₀ ⟨-, hinit⟩
    have hnone : ∀ i, (s₀.credentials i).session = none := by
      intro i
      obtain ⟨cpus, qualifiedUserName, heq⟩ := hinit i
      rw [heq]
      rfl
    exact ⟨always_nil, fun i g pc hses => by simp [hnone] at hses,
      fun i g pc hses => by simp [hnone] at hses⟩
  · rintro pre t ⟨hpre, hown⟩ ht hCt
    exact ⟨always_snoc.mpr ⟨hpre, takesOwnResult_of_ownSuccess hown ht⟩,
      ownSuccess_of_takes hown ht hCt⟩

theorem carriesOwnId_of_credential {i : ι} {e : CredentialEvent} {pre : List (ProcessStep ι)}
    (he : t.event = .credential i e) : CarriesOwnId pre t := by
  intro sessionId hstatus
  rw [he] at hstatus
  cases hstatus

/-- A sign-in whose SUCCESS answers its START. -/
theorem takesOwnResult_signIn : ∃ tr s, (process Unit examplePlatform).Run tr s ∧
    ((), .passwordRequest 1 (utf8 "bob") 8) ∈ tr.flatMap (·.sent) ∧ Always TakesOwnResult tr := by
  have h1 := (exampleProcess_run .logon none).event (e := .credential () (.start false)) rfl
  have h2 := h1.event (e := .credential () (.session (.launch true true))) rfl
  have h3 := h2.event (e := .credential () (.session .advance)) rfl
  have h4 := h3.event (e := .credential () (.session .advance)) rfl
  have h5 := h4.event (e := .credential () (.session (.auth (.send true 7)))) rfl
  have h6 := h5.event (e := exampleDatagram .success (utf8 "bob") 7 1) rfl
  have h7 := h6.event (e := .credential () (.session (.auth .acknowledged))) rfl
  have h8 := h7.event (e := .credential () (.session .advance)) rfl
  have h9 := h8.event (e := .credential () (.session .advance)) rfl
  have h10 := h9.event (e := .credential () (.session .advance)) rfl
  have h11 := h10.event (e := .credential () (.session .advance)) rfl
  have h12 := h11.event (e := .credential () (.session .advance)) rfl
  have h13 := h12.event (e := .credential () (.session (.requestPassword true 8))) rfl
  refine ⟨_, _, h13, List.mem_flatMap.mpr ⟨_, List.mem_append_right _ (List.mem_singleton_self _),
    List.mem_singleton_self _⟩, takesOwnResult_of_carriesOwnId h13 ?_⟩
  iterate 7 refine always_snoc.mpr ⟨?_, carriesOwnId_of_credential rfl⟩
  refine always_snoc.mpr ⟨?_, ?_⟩
  · iterate 5 refine always_snoc.mpr ⟨?_, carriesOwnId_of_credential rfl⟩
    exact always_nil
  · intro sessionId he i g pc hses hpc
    cases he
    cases hses
    exact List.mem_singleton_self _

/-- The first session sends START 6 and is stopped; the second one sends START 7, and the
    late SUCCESS for 6 makes it ask for a password. -/
theorem takesOwnResult_fails : ¬ ∀ (tr : List (ProcessStep Unit)) (s : Process Unit),
    (process Unit examplePlatform).Run tr s → Always TakesOwnResult tr := by
  intro hall
  have h1 := (exampleProcess_run .logon none).event (e := .credential () (.start false)) rfl
  have h2 := h1.event (e := .credential () (.session (.launch true true))) rfl
  have h3 := h2.event (e := .credential () (.session .advance)) rfl
  have h4 := h3.event (e := .credential () (.session .advance)) rfl
  have h5 := h4.event (e := .credential () (.session (.auth (.send true 6)))) rfl
  have h6 := h5.event (e := exampleDatagram .recognizing [] 6 1) rfl
  have h7 := h6.event (e := .credential () (.session (.auth .acknowledged))) rfl
  have h8 := h7.event (e := .credential () .stopFlag) rfl
  have h9 := h8.event (e := .credential () .stopSpawn) rfl
  have h10 := h9.event (e := .credential () (.session .advance)) rfl
  have h11 := h10.event (e := .credential () (.session .advance)) rfl
  have h12 := h11.event (e := .credential () (.session .advance)) rfl
  -- the second session
  have h13 := h12.event (e := .credential () (.start true)) rfl
  have h14 := h13.event (e := .credential () .joined) rfl
  have h15 := h14.event (e := .credential () (.session (.launch true true))) rfl
  have h16 := h15.event (e := .credential () (.session .advance)) rfl
  have h17 := h16.event (e := .credential () (.session .advance)) rfl
  have h18 := h17.event (e := .credential () (.session (.auth (.send true 7)))) rfl
  have h19 := h18.event (e := exampleDatagram .success (utf8 "bob") 6 2) rfl
  have h20 := h19.event (e := .credential () (.session (.auth .acknowledged))) rfl
  have h21 := h20.event (e := .credential () (.session .advance)) rfl
  have h22 := h21.event (e := .credential () (.session .advance)) rfl
  have h23 := h22.event (e := .credential () (.session .advance)) rfl
  have h24 := h23.event (e := .credential () (.session .advance)) rfl
  have h25 := h24.event (e := .credential () (.session .advance)) rfl
  have h26 := h25.event (e := .credential () (.session (.requestPassword true 8))) rfl
  have htakes := (always_snoc.mp (hall _ _ h26)).2 () 3
    (Or.inl ⟨utf8 "bob", 8, List.mem_singleton_self _⟩)
  obtain ⟨sessionId, hid, hsuccess⟩ := htakes.exists_sessionId
  have hseven : sessionId ∈ ([7] : List UInt32) := hid
  have hsix : (RecognitionStatus.success, sessionId) ∈
      ([(.recognizing, 6), (.success, 6)] : List (RecognitionStatus × UInt32)) := hsuccess
  rw [List.mem_singleton.mp hseven] at hsix
  revert hsix
  decide

end Smile2Unlock.CredentialProvider
