/-
  Smile2Unlock.Service.Guarantees

  What the service guarantees over its runs, and under which condition on the
  requests and datagrams it does.

  The service answers GET_PASSWORD without looking at `last_result_`, and decides
  an FR status without looking at `is_running_`, at the age of the stored probe or
  at the request the status belongs to.  Each section states the guarantee, a run
  that breaks it, and the condition on the steps under which it holds.
-/

import Smile2Unlock.Service.History

namespace Smile2Unlock.Service

open Smile2Unlock Lib FaceRecognition

variable {R : Type} [LinearOrder R] [Zero R] {env : Env R} {t : ServiceStep R}
  {tr pre : List (ServiceStep R)} {s : ServiceState R}

-- ============================================================================
-- Runs for the examples
-- ============================================================================

/-- The initialized service with the users "a" and "b". -/
def exampleStart : ServiceState Nat where
  fr := .afterInitialize exampleDatabase 0
  cpThread := .ready
  guiThread := .returned

theorem exampleStart_run : (service exampleEnv).Run [] exampleStart :=
  .nil ⟨exampleDatabase, 0, by decide, rfl⟩

/-- A request from CP; a launch of the recognizer succeeds. -/
def exampleRequest (type : AuthRequestType) (hint : Bytes) (sessionId : UInt32) :
    ServiceEvent Nat :=
  .cpRequest (sendRequest type hint sessionId 0) [] true

/-- A status from the recognizer, which sends no name and session 0. -/
def exampleStatus (status : RecognitionStatus) (feature : Bytes)
    (h : feature.length < udpStatusMaxFeatureBytes := by decide) : ServiceEvent Nat :=
  .frStatus (statusPacket status [] 0 feature h 0) []

-- ============================================================================
-- The stored password is released after a match
-- ============================================================================

/-- GET_PASSWORD is answered with the password of the user. -/
def ReleasesPassword (username : Bytes) (t : ServiceStep R) : Prop :=
  Requests .getPassword t ∧
    ∃ sessionId password, .password sessionId username password true ∈ t.sent

/-- START, CANCEL or a failed result. -/
def ReplacesMatch (t : ServiceStep R) : Prop :=
  Requests .startRecognition t ∨ Requests .cancelRecognition t ∨
    (IsFrStatus t ∧ t.after.fr.lastResult.success = false)

/-- A password is released only for a user with a match that nothing replaced. -/
def ReleaseFollowsMatch (pre : List (ServiceStep R)) (t : ServiceStep R) : Prop :=
  ∀ username, ReleasesPassword username t → Since (ProducesMatch username) ReplacesMatch pre

/-- GET_PASSWORD asks for a stored user with a readable password. -/
def AsksFor (env : Env R) (user : User) (t : ServiceStep R) : Prop :=
  ∃ r db, t.event.request = some r ∧ r.requestType = .getPassword ∧
    t.before.fr.database = some db ∧ db.getUserByUsername r.usernameHint = some user ∧
    env.decryptPassword user.encryptedPassword ≠ []

/-- CP asks in turn: `last_result_` is a success of the user it asks for, and no
    START and no CANCEL came after the status that left it. -/
def AsksInTurn (env : Env R) (pre : List (ServiceStep R)) (t : ServiceStep R) : Prop :=
  ∀ user, AsksFor env user t →
    t.before.fr.lastResult.success = true ∧ t.before.fr.lastResult.username = user.username ∧
    Since IsFrStatus (fun u => Requests .startRecognition u ∨ Requests .cancelRecognition u) pre

omit [LinearOrder R] [Zero R] in
/-- What GET_PASSWORD sends with success comes from the lookup of its hint. -/
theorem mem_cpGetPassword {fr : FaceRecognition R} {hint username password : Bytes}
    {sessionId sessionId' : UInt32}
    (h : .password sessionId' username password true ∈ fr.cpGetPassword env hint sessionId) :
    ∃ db user, fr.database = some db ∧ db.getUserByUsername hint = some user ∧
      user.username = username ∧ env.decryptPassword user.encryptedPassword ≠ [] := by
  rw [cpGetPassword] at h
  split at h
  · rename_i db hsender hdb
    split at h
    · rename_i user huser
      rw [List.mem_singleton, Sent.password.injEq] at h
      obtain ⟨-, hname, -, hfound⟩ := h
      exact ⟨db, user, hdb, huser, hname.symm, by simpa using hfound.symm⟩
    · simp at h
  · cases h

theorem asksFor_of_releases {username : Bytes} (ht : (service env).Takes t)
    (h : ReleasesPassword username t) :
    ∃ user, AsksFor env user t ∧ user.username = username := by
  obtain ⟨⟨r, hr, htype⟩, sessionId, password, hmem⟩ := h
  obtain ⟨launches, -, hsent⟩ := takes_of_request ht hr
  rw [hsent, onCpRequestReceived] at hmem
  simp only [htype] at hmem
  obtain ⟨db, user, hdb, huser, hname, hpassword⟩ := mem_cpGetPassword hmem
  exact ⟨user, ⟨r, db, hr, htype, hdb, huser, hpassword⟩, hname⟩

/-- The match behind `last_result_`, up to a START or a CANCEL after it. -/
theorem match_stands (h : (service env).Run tr s) (hsuccess : s.fr.lastResult.success = true)
    (hsince : Since IsFrStatus
      (fun u => Requests .startRecognition u ∨ Requests .cancelRecognition u) tr) :
    Since (ProducesMatch s.fr.lastResult.username) ReplacesMatch tr := by
  have hchain := (producesMatch_of_success h hsuccess).chain hsince
  refine hchain.mono (fun _ hu => hu) ?_
  rintro u (hstart | hcancel | ⟨hfr, -⟩)
  · exact Or.inr (Or.inl hstart)
  · exact Or.inr (Or.inr hcancel)
  · exact Or.inl hfr

/-- In every run in which CP asks in turn, a password is released only after a match
    of its user that nothing has replaced. -/
theorem releaseFollowsMatch_of_asksInTurn (h : (service env).Run tr s)
    (hturn : Always (AsksInTurn env) tr) : Always ReleaseFollowsMatch tr := by
  intro pre t post heq username hrelease
  obtain ⟨hpre, ht⟩ := h.cut pre t post heq
  obtain ⟨user, hasks, hname⟩ := asksFor_of_releases ht hrelease
  obtain ⟨hsuccess, huser, hsince⟩ := hturn pre t post heq user hasks
  have hstands := match_stands hpre hsuccess hsince
  rw [huser, hname] at hstands
  exact hstands

omit [LinearOrder R] [Zero R] in
theorem asksInTurn_of_not_getPassword (h : ¬ Requests .getPassword t) : AsksInTurn env pre t := by
  rintro user ⟨r, db, hr, htype, -⟩
  exact absurd ⟨r, hr, htype⟩ h

/-- A sign-in of "b" in turn: the password is released, after the match. -/
theorem releaseFollowsMatch_signIn : ∃ pre t s, (service exampleEnv).Run (pre ++ [t]) s ∧
    ReleasesPassword (utf8 "b") t ∧ Since (ProducesMatch (utf8 "b")) ReplacesMatch pre := by
  have h1 := exampleStart_run.event (e := exampleRequest .startRecognition [] 1) rfl
  have h2 := h1.event (e := .cpWake) rfl
  have h3 := h2.event (e := exampleStatus .success (utf8 "fb")) rfl
  have h4 := h3.event (e := exampleRequest .getPassword (utf8 "b") 2) rfl
  have hother : ∀ t : ServiceStep Nat, t.event.request = none → ∀ pre,
      AsksInTurn exampleEnv pre t :=
    fun t hr pre => asksInTurn_of_not_getPassword (not_requests hr)
  have hturn := releaseFollowsMatch_of_asksInTurn h4 (always_snoc.mpr ⟨always_snoc.mpr
    ⟨always_snoc.mpr ⟨always_snoc.mpr ⟨always_nil, ?_⟩, hother _ rfl _⟩, hother _ rfl _⟩, ?_⟩)
  · have hlast := (always_snoc.mp hturn).2
    exact ⟨_, _, _, h4, ⟨⟨_, rfl, rfl⟩, 2, utf8 "pb", by decide⟩,
      hlast _ ⟨⟨_, rfl, rfl⟩, 2, utf8 "pb", by decide⟩⟩
  · exact asksInTurn_of_not_getPassword fun ⟨r, hr, htype⟩ => by cases hr; cases htype
  · rintro user ⟨r, db, hr, -, hdb, huser, -⟩
    cases hr
    cases hdb
    exact ⟨rfl, (Database.getUserByUsername_username huser).symm,
      since_snoc.mpr (Or.inl ⟨_, rfl⟩)⟩

/-- The first request of a run is GET_PASSWORD for "a": the password is released
    before any recognition. -/
theorem releaseFollowsMatch_fails :
    ¬ ∀ tr s, (service exampleEnv).Run tr s → Always ReleaseFollowsMatch tr := by
  intro hall
  have hrun := exampleStart_run.event (e := exampleRequest .getPassword (utf8 "a") 7) rfl
  have hlast := (always_snoc.mp (hall _ _ hrun)).2
  have hstands := hlast (utf8 "a") ⟨⟨_, rfl, rfl⟩, 7, utf8 "pa", by decide⟩
  exact not_since_nil hstands

-- ============================================================================
-- SUCCESS is sent while a recognition is in progress
-- ============================================================================

/-- SUCCESS is sent only in a recognition: a start has come into effect and nothing
    has ended the recognition, and `is_running_` is set. -/
def SuccessWhileRunning (pre : List (ServiceStep R)) (t : ServiceStep R) : Prop :=
  SendsSuccess t → t.before.fr.isRunning = true ∧ Since CompletesStart EndsRecognition pre

/-- An FR status that will be accepted comes while `is_running_` is set. -/
def AcceptableWhileRunning (env : Env R) (_ : List (ServiceStep R)) (t : ServiceStep R) : Prop :=
  ∀ d db m, t.event.delivery = some d → t.before.fr.database = some db →
    AcceptsDatagram env t.before.fr db d m → t.before.fr.isRunning = true

theorem sendsSuccess_iff_accepts {d : StatusDelivery} {db : Database}
    (hinit : Initialized t.before) (ht : (service env).Takes t)
    (hd : t.event.delivery = some d) (hdb : t.before.fr.database = some db) :
    SendsSuccess t ↔ ∃ m, AcceptsDatagram env t.before.fr db d m := by
  rw [sendsSuccess_of_frStatus hinit ht hd, finalStatus]
  constructor
  · intro hfinal
    by_contra hrej
    exact (decideResult_of_rejects hdb (not_exists.mp hrej)).1 hfinal
  · rintro ⟨m, hm⟩
    have hnames : db.UsernamesNonempty := by
      obtain ⟨db', hdb', hnames⟩ := hinit.database
      rw [hdb] at hdb'
      exact Option.some.inj hdb' ▸ hnames
    obtain ⟨c, -, hdec⟩ := decideResult_of_accepts hdb hnames hm
    rw [hdec]

/-- A run sends SUCCESS only in a recognition exactly when every acceptable FR status
    comes in one. -/
theorem successWhileRunning_iff (h : (service env).Run tr s) :
    Always SuccessWhileRunning tr ↔ Always (AcceptableWhileRunning env) tr := by
  refine Always.congr fun pre t post heq => ?_
  obtain ⟨hpre, ht⟩ := h.cut pre t post heq
  have hinit := initialized_of_run hpre
  constructor
  · intro hprop d db m hd hdb hm
    exact (hprop ((sendsSuccess_iff_accepts hinit ht hd hdb).mpr ⟨m, hm⟩)).1
  · intro hcond hsends
    obtain ⟨d, hd⟩ := frStatus_of_sendsSuccess ht hsends
    obtain ⟨db, hdb, -⟩ := hinit.database
    obtain ⟨m, hm⟩ := (sendsSuccess_iff_accepts hinit ht hd hdb).mp hsends
    have hrunning := hcond d db m hd hdb hm
    exact ⟨hrunning, (isRunning_iff hpre).mp hrunning⟩

/-- A run with a START, its launch and a match. -/
theorem successWhileRunning_signIn : ∃ tr s, (service exampleEnv).Run tr s ∧ tr ≠ [] ∧
    (Always SuccessWhileRunning tr ↔ Always (AcceptableWhileRunning exampleEnv) tr) := by
  have h1 := exampleStart_run.event (e := exampleRequest .startRecognition [] 1) rfl
  have h2 := h1.event (e := .cpWake) rfl
  have h3 := h2.event (e := exampleStatus .success (utf8 "fb")) rfl
  exact ⟨_, _, h3, by simp, successWhileRunning_iff h3⟩

/-- A match that arrives after CANCEL is sent on as SUCCESS. -/
theorem successWhileRunning_fails :
    ¬ ∀ tr s, (service exampleEnv).Run tr s → Always SuccessWhileRunning tr := by
  intro hall
  have h1 := exampleStart_run.event (e := exampleRequest .startRecognition [] 1) rfl
  have h2 := h1.event (e := .cpWake) rfl
  have h3 := h2.event (e := exampleRequest .cancelRecognition [] 2) rfl
  have h4 := h3.event (e := exampleStatus .success (utf8 "fb")) rfl
  have hlast := (always_snoc.mp (hall _ _ h4)).2
  have hrunning := (hlast ⟨utf8 "b", 2, by decide⟩).1
  cases hrunning

-- ============================================================================
-- The probe is not older than the start
-- ============================================================================

/-- SUCCESS is decided on a probe that an FR status after the last start carried. -/
def ProbeIsFresh (pre : List (ServiceStep R)) (t : ServiceStep R) : Prop :=
  ∀ d, t.event.delivery = some d → SendsSuccess t →
    Since (Carries (t.before.fr.probeFor d)) IsStart (pre ++ [t])

/-- An FR status that will be accepted carries a feature, or some FR status after the
    last start did. -/
def FeatureSinceStart (env : Env R) (pre : List (ServiceStep R)) (t : ServiceStep R) : Prop :=
  ∀ d db m, t.event.delivery = some d → t.before.fr.database = some db →
    AcceptsDatagram env t.before.fr db d m → Since CarriesFeature IsStart (pre ++ [t])

/-- A run decides only on fresh probes exactly when a feature has come after the last
    start whenever an acceptable FR status comes. -/
theorem probeIsFresh_iff (h : (service env).Run tr s) :
    Always ProbeIsFresh tr ↔ Always (FeatureSinceStart env) tr := by
  refine Always.congr fun pre t post heq => ?_
  obtain ⟨hpre, ht⟩ := h.cut pre t post heq
  have hinit := initialized_of_run hpre
  constructor
  · intro hprop d db m hd hdb hm
    have hsends := (sendsSuccess_iff_accepts hinit ht hd hdb).mpr ⟨m, hm⟩
    refine (hprop d hd hsends).mono ?_ fun _ hu => hu
    rintro u ⟨d', hd', hfeature⟩
    exact ⟨d', hd', by rw [hfeature]; exact hm.2.1⟩
  · intro hcond d hd hsends
    obtain ⟨db, hdb, -⟩ := hinit.database
    obtain ⟨m, hm⟩ := (sendsSuccess_iff_accepts hinit ht hd hdb).mp hsends
    have hstored := probe_of_delivery ht hd
    have hnewest := carries_of_probe (hpre.snoc ht) (by rw [hstored]; exact hm.2.1)
    rw [hstored] at hnewest
    exact (hnewest.chain (hcond d db m hd hdb hm)).mono (fun _ hu => hu) fun _ hu => Or.inr hu

/-- Two recognitions, each with its own feature. -/
theorem probeIsFresh_twice : ∃ tr s, (service exampleEnv).Run tr s ∧ tr ≠ [] ∧
    (Always ProbeIsFresh tr ↔ Always (FeatureSinceStart exampleEnv) tr) := by
  have h1 := exampleStart_run.event (e := exampleRequest .startRecognition [] 1) rfl
  have h2 := h1.event (e := .cpWake) rfl
  have h3 := h2.event (e := exampleStatus .success (utf8 "fb")) rfl
  have h4 := h3.event (e := exampleRequest .startRecognition [] 2) rfl
  have h5 := h4.event (e := exampleStatus .success (utf8 "fa")) rfl
  exact ⟨_, _, h5, by simp, probeIsFresh_iff h5⟩

/-- The feature of the first recognition is matched again in the second, on a SUCCESS
    without a feature. -/
theorem probeIsFresh_fails :
    ¬ ∀ tr s, (service exampleEnv).Run tr s → Always ProbeIsFresh tr := by
  intro hall
  have h1 := exampleStart_run.event (e := exampleRequest .startRecognition [] 1) rfl
  have h2 := h1.event (e := .cpWake) rfl
  have h3 := h2.event (e := exampleStatus .success (utf8 "fb")) rfl
  have h4 := h3.event (e := exampleRequest .startRecognition [] 2) rfl
  have h5 := h4.event (e := exampleStatus .success []) rfl
  have hfresh := (always_snoc.mp (hall _ _ h5)).2 _ rfl ⟨utf8 "b", 2, by decide⟩
  rcases since_snoc.mp hfresh with ⟨d, hd, hfeature⟩ | ⟨hfresh, -⟩
  · cases hd
    revert hfeature
    decide
  · rcases since_snoc.mp hfresh with ⟨d, hd, -⟩ | ⟨-, hstart⟩
    · cases hd
    · exact hstart (Or.inl ⟨_, rfl, rfl⟩)

-- ============================================================================
-- The result belongs to the START
-- ============================================================================

/-- The result is decided against the hint, and what is sent carries the session. -/
def DecidedFor (hint : Bytes) (sessionId : UInt32) (t : ServiceStep R) : Prop :=
  t.before.fr.pendingUsernameHint = hint ∧
    ∀ status username sessionId', .status status username sessionId' ∈ t.sent →
      sessionId' = sessionId

/-- A START, other requests and FR statuses, and then the FR result: the result is
    decided for the START exactly when no request came between them, or the newest
    one repeats the START's hint and session. -/
theorem decidedFor_iff {t₀ : ServiceStep R} {seg : List (ServiceStep R)} {hint : Bytes}
    {sessionId : UInt32} {d : StatusDelivery}
    (h : (service env).Run (pre ++ t₀ :: (seg ++ [t])) s)
    (hstart : t₀.event.request = some ⟨.startRecognition, hint, sessionId⟩)
    (hfr : ∀ u ∈ seg ++ [t], ∀ d, u.event.delivery = some d → d.sessionId = 0)
    (hd : t.event.delivery = some d) :
    DecidedFor hint sessionId t ↔
      ∀ r, lastRequest seg = some r → r.usernameHint = hint ∧ r.sessionId = sessionId := by
  obtain ⟨s₀, hi, hs⟩ := h
  obtain ⟨s₁, hpre, hrest⟩ := hs.split
  obtain ⟨rfl, ht₀, hrest⟩ := Machine.steps_cons.mp hrest
  obtain ⟨hseg, ht, -⟩ := Machine.steps_snoc.mp hrest
  have hinit₀ : Initialized t₀.before := initialized_of_run ⟨s₀, hi, hpre⟩
  have hinit₁ := initialized_of_takes hinit₀ ht₀
  have hinit : Initialized t.before :=
    initialized_of_run ⟨s₀, hi, (hpre.snoc ht₀).append hseg⟩
  -- the START writes its own hint and session
  have hafter : t₀.after.addressee = (hint, sessionId) := by
    rw [addressee_of_takes hinit₀ ht₀ ?_, hstart]
    · rfl
    · intro d' hd'
      rw [delivery_of_request hstart] at hd'
      cases hd'
  have hbefore := addressee_of_steps hseg hinit₁ fun u hu => hfr u (List.mem_append_left _ hu)
  have hsession : t.after.fr.currentSessionId = t.before.fr.currentSessionId := by
    have hkeep := addressee_of_takes hinit ht fun d' hd' => hfr t (by simp) d' hd'
    rw [request_of_delivery hd] at hkeep
    exact congrArg Prod.snd hkeep
  obtain ⟨hstate, hsent⟩ := takes_of_delivery ht hd
  rw [onFrStatusReceived_sent d hinit.udpSender, ← hstate, hsession] at hsent
  have hdecided : DecidedFor hint sessionId t ↔ t.before.addressee = (hint, sessionId) := by
    rw [DecidedFor, ServiceState.addressee, Prod.mk.injEq]
    refine and_congr_right fun _ => ⟨fun hall => ?_, fun hid status username sessionId' hmem => ?_⟩
    · exact hall _ _ _ (by rw [hsent]; exact List.mem_singleton.mpr rfl)
    · rw [hsent, List.mem_singleton, Sent.status.injEq] at hmem
      rw [hmem.2.2, hid]
  rw [hdecided, hbefore, hafter]
  cases hlast : lastRequest seg with
  | none => simp
  | some r => simp

/-- A QUERY with the same hint and session between START and result does no harm. -/
theorem decidedFor_sameClient : ∃ t : ServiceStep Nat, SendsSuccess t ∧
    DecidedFor (utf8 "b") 1 t := by
  have h1 := exampleStart_run.event (e := exampleRequest .startRecognition (utf8 "b") 1) rfl
  have h2 := h1.event (e := .cpWake) rfl
  have h3 := h2.event (e := exampleRequest .queryStatus (utf8 "b") 1) rfl
  have h4 := h3.event (e := exampleStatus .success (utf8 "fb")) rfl
  have hrun : (service exampleEnv).Run ([] ++ _ :: ([_, _] ++ [_])) _ := h4
  refine ⟨_, ⟨utf8 "b", 1, by decide⟩, (decidedFor_iff hrun rfl ?_ rfl).mpr ?_⟩
  · intro u hu d hd
    simp only [List.cons_append, List.nil_append, List.mem_cons, List.not_mem_nil, or_false] at hu
    rcases hu with rfl | rfl | rfl
    · cases hd
    · cases hd
    · cases hd
      rfl
  · intro r hr
    cases hr
    exact ⟨rfl, rfl⟩

/-- START for "a", then a QUERY of a second client: the face of "b" is accepted and
    the result carries the second client's session. -/
theorem decidedFor_fails :
    ¬ ∀ (pre seg : List (ServiceStep Nat)) (t₀ t : ServiceStep Nat) (s : ServiceState Nat)
      (hint : Bytes) (sessionId : UInt32),
      (service exampleEnv).Run (pre ++ t₀ :: (seg ++ [t])) s →
      t₀.event.request = some ⟨.startRecognition, hint, sessionId⟩ →
      (∀ u ∈ seg, ¬ Requests .startRecognition u ∧ ¬ Requests .cancelRecognition u) →
      (∀ u ∈ seg ++ [t], ∀ d, u.event.delivery = some d → d.sessionId = 0) →
      IsFrStatus t → DecidedFor hint sessionId t := by
  intro hall
  have h1 := exampleStart_run.event (e := exampleRequest .startRecognition (utf8 "a") 1) rfl
  have h2 := h1.event (e := .cpWake) rfl
  have h3 := h2.event (e := exampleRequest .queryStatus [] 2) rfl
  have h4 := h3.event (e := exampleStatus .success (utf8 "fb")) rfl
  have hdecided := hall [] [_, _] _ _ _ (utf8 "a") 1 h4 rfl ?_ ?_ ⟨_, rfl⟩
  · revert hdecided
    rintro ⟨hhint, -⟩
    cases hhint
  · intro u hu
    simp only [List.mem_cons, List.not_mem_nil, or_false] at hu
    rcases hu with rfl | rfl
    · exact ⟨not_requests rfl, not_requests rfl⟩
    · rw [requests_iff rfl, requests_iff rfl]
      decide
  · intro u hu d hd
    simp only [List.cons_append, List.nil_append, List.mem_cons, List.not_mem_nil, or_false] at hu
    rcases hu with rfl | rfl | rfl
    · cases hd
    · cases hd
    · cases hd
      rfl

end Smile2Unlock.Service
