/-
  Smile2Unlock.Service.Decision

  What `on_fr_status_received` decides.

  The comparison loops of `resolve_recognized_username` are one running maximum
  over the candidate faces (`foldl_compareUserFaces`).  The library's first
  maximum gives the best candidate, and `resolveRecognizedUsername_eq_ok` states
  the accepted case of the search without its loops: the greatest positive
  similarity exists and reaches the threshold.
-/

import Mathlib.Algebra.GroupWithZero.Nat
import Smile2Unlock.Lib.FirstMax
import Smile2Unlock.Service.FaceRecognition

namespace Smile2Unlock.Service

open Smile2Unlock Lib

variable {R : Type} [LinearOrder R] [Zero R]

-- ============================================================================
-- Candidates
-- ============================================================================

/-- The faces of a user that have a feature, each with its owner. -/
def facesOf (user : User) : List (User × FaceData) :=
  (user.faces.filter (·.feature ≠ [])).map fun face => (user, face)

/-- The users a hint leaves: everyone without a hint, else the user it names. -/
def hintedUsers (db : Database) (hint : Bytes) : List User :=
  if hint = [] then db.getAllUsers
  else (db.getAllUsers.find? (·.username = hint)).toList

/-- The candidate faces, in database order. -/
def candidates (db : Database) (hint : Bytes) : List (User × FaceData) :=
  (hintedUsers db hint).flatMap facesOf

/-- The similarity of a candidate to the probe, if the two are comparable. -/
def candidateSim (env : Env R) (probe : Bytes) (c : User × FaceData) : Option R :=
  env.compareFeaturesOnSu probe c.2.feature

/-- The positive similarities of the candidates. -/
def positiveSims (env : Env R) (db : Database) (hint probe : Bytes) : Set R :=
  keysAbove (candidateSim env probe) 0 (candidates db hint)

/-- The service's usernames are not empty. -/
def Database.UsernamesNonempty (db : Database) : Prop := ∀ r ∈ db.users, r.username.bytes ≠ []

instance (db : Database) : Decidable db.UsernamesNonempty :=
  inferInstanceAs (Decidable (∀ r ∈ db.users, r.username.bytes ≠ []))

theorem facesOf_owner {user : User} {c : User × FaceData} (h : c ∈ facesOf user) : c.1 = user := by
  obtain ⟨face, -, rfl⟩ := List.mem_map.mp h
  rfl

/-- A candidate's owner is a stored user; with a hint, the user it names. -/
theorem candidates_owner {db : Database} {hint : Bytes} {c : User × FaceData}
    (h : c ∈ candidates db hint) :
    c.1 ∈ db.getAllUsers ∧ (hint ≠ [] → c.1.username = hint) := by
  obtain ⟨user, huser, hc⟩ := List.mem_flatMap.mp h
  rw [facesOf_owner hc]
  rw [hintedUsers] at huser
  split at huser
  · rename_i hempty
    exact ⟨huser, fun hne => absurd hempty hne⟩
  · have hfind := Option.mem_toList.mp huser
    exact ⟨List.mem_of_find?_eq_some hfind, fun _ => by simpa using List.find?_some hfind⟩

theorem getAllUsers_username {db : Database} {user : User} (h : user ∈ db.getAllUsers) :
    ∃ r ∈ db.users, r.username.bytes = user.username := by
  obtain ⟨r, hr, rfl⟩ := List.mem_map.mp h
  exact ⟨r, hr, rfl⟩

theorem candidates_username_ne_nil {db : Database} (hne : db.UsernamesNonempty) {hint : Bytes}
    {c : User × FaceData} (h : c ∈ candidates db hint) : c.1.username ≠ [] := by
  obtain ⟨r, hr, hname⟩ := getAllUsers_username (candidates_owner h).1
  rw [← hname]
  exact hne r hr

/-- The query finds the user that a hint names, unless the hint has a NUL: then
    it may find a user, but no user has the hint as username. -/
theorem find?_username (db : Database) (hint : Bytes) :
    db.getAllUsers.find? (·.username = hint) =
      if cString hint = hint then db.getUserByUsername hint else none := by
  split
  · rename_i hself
    rw [Database.getUserByUsername_eq_find?, hself]
  · rename_i hcut
    rw [List.find?_eq_none]
    intro user huser
    obtain ⟨r, hr, hname⟩ := getAllUsers_username huser
    have hne : user.username ≠ hint := by
      intro heq
      apply hcut
      rw [← heq, ← hname]
      exact cString_eq_self r.username.noNul
    simpa using hne

-- ============================================================================
-- The loops
-- ============================================================================

namespace FaceRecognition

section

variable {R : Type} [LinearOrder R] (env : Env R) (probe : Bytes)

/-- `compare_user_faces` is the running maximum over the user's candidates. -/
theorem compareUserFaces_eq (best : R × Bytes) (user : User) :
    compareUserFaces env probe best user =
      (facesOf user).foldl (keepMax (candidateSim env probe) (·.1.username)) best := by
  rw [compareUserFaces, facesOf, List.foldl_map, List.foldl_filter]
  congr 1
  funext best face
  by_cases hface : face.feature = []
  · simp [compareFace, hface]
  · simp only [compareFace, hface, keepMax, candidateSim, ne_eq, not_false_eq_true, decide_true,
      if_true, if_false]
    cases env.compareFeaturesOnSu probe face.feature <;> rfl

/-- The loop over users and faces is one running maximum. -/
theorem foldl_compareUserFaces (users : List User) (best : R × Bytes) :
    users.foldl (compareUserFaces env probe) best =
      (users.flatMap facesOf).foldl (keepMax (candidateSim env probe) (·.1.username)) best := by
  rw [List.foldl_flatMap]
  congr 1
  funext best user
  exact compareUserFaces_eq env probe best user

end

/-- The running maximum over some candidates, from nothing found. -/
def bestOf (env : Env R) (probe : Bytes) (l : List (User × FaceData)) : R × Bytes :=
  l.foldl (keepMax (candidateSim env probe) (·.1.username)) (0, [])

/-- With a greatest positive similarity the loop ends at its first owner. -/
theorem bestOf_of_isGreatest {env : Env R} {probe : Bytes} {l : List (User × FaceData)} {m : R}
    (h : IsGreatest (keysAbove (candidateSim env probe) 0 l) m) :
    ∃ c, l.find? (fun c => candidateSim env probe c = some m) = some c ∧
      bestOf env probe l = (m, c.1.username) :=
  foldl_keepMax_of_isGreatest h

theorem bestOf_of_none {env : Env R} {probe : Bytes} {l : List (User × FaceData)}
    (h : ∀ m, ¬ IsGreatest (keysAbove (candidateSim env probe) 0 l) m) :
    bestOf env probe l = (0, []) := by
  rcases exists_isGreatest_or_le (candidateSim env probe) 0 l with ⟨m, hm⟩ | hle
  · exact absurd hm (h m)
  · exact foldl_keepMax_of_le hle

/-- The best username is empty or the name of a candidate's owner. -/
theorem bestOf_username (env : Env R) (probe : Bytes) (l : List (User × FaceData)) :
    (bestOf env probe l).2 = [] ∨ ∃ c ∈ l, (bestOf env probe l).2 = c.1.username := by
  by_cases h : ∃ m, IsGreatest (keysAbove (candidateSim env probe) 0 l) m
  · obtain ⟨m, hm⟩ := h
    obtain ⟨c, hc, hbest⟩ := bestOf_of_isGreatest hm
    exact Or.inr ⟨c, List.mem_of_find?_eq_some hc, by rw [hbest]⟩
  · rw [bestOf_of_none (not_exists.mp h)]
    exact Or.inl rfl

-- ============================================================================
-- resolve_recognized_username
-- ============================================================================

/-- The search without its loops: it judges the best candidate, or there is no
    candidate at all and it rejects. -/
theorem resolveRecognizedUsername_cases {env : Env R} {s : FaceRecognition R} {db : Database}
    {probe hint : Bytes} (hdb : s.database = some db) (hprobe : probe ≠ []) :
    (∃ noMatch, noMatch ≠ [] ∧ s.resolveRecognizedUsername env probe hint =
      acceptBest (s.threshold env) (bestOf env probe (candidates db hint)) noMatch) ∨
    (candidates db hint = [] ∧
      ∃ e, e ≠ [] ∧ s.resolveRecognizedUsername env probe hint = .error e) := by
  rw [resolveRecognizedUsername, hdb]
  simp only [hprobe, if_false]
  by_cases hhint : hint = []
  · refine Or.inl ⟨utf8 "未找到匹配的人脸用户", by decide, ?_⟩
    simp only [hhint, ne_eq, not_true_eq_false, if_false, foldl_compareUserFaces]
    simp [bestOf, candidates, hintedUsers]
  · have hcand : candidates db hint =
        (if cString hint = hint then db.getUserByUsername hint else none).toList.flatMap facesOf := by
      rw [candidates, hintedUsers, if_neg hhint, find?_username]
    simp only [ne_eq, hhint, not_false_eq_true, if_true]
    cases huser : db.getUserByUsername hint with
    | none =>
        -- no such user: both outcomes of the search over everyone are errors
        have hnone : candidates db hint = [] := by simp [hcand, huser]
        refine Or.inr ⟨hnone, ?_⟩
        dsimp only
        split
        · exact ⟨utf8 "用户名无效但检测到人脸匹配 - 疑似攻击尝试", by decide, rfl⟩
        · exact ⟨utf8 "指定用户不存在", by decide, rfl⟩
    | some user =>
        have hname := Database.getUserByUsername_username huser
        have hloop : compareUserFaces env probe (0, []) user = bestOf env probe (facesOf user) :=
          compareUserFaces_eq env probe (0, []) user
        have howner : (bestOf env probe (facesOf user)).2 = [] ∨
            (bestOf env probe (facesOf user)).2 = cString hint := by
          rcases bestOf_username env probe (facesOf user) with h | ⟨c, hc, h⟩
          · exact Or.inl h
          · exact Or.inr (by rw [h, facesOf_owner hc, hname])
        dsimp only
        rw [hloop]
        by_cases hself : cString hint = hint
        · -- the hint names this user, so the match cannot name another
          have hfaces : candidates db hint = facesOf user := by simp [hcand, hself, huser]
          have hmatch : ¬ ((bestOf env probe (facesOf user)).2 ≠ [] ∧
              (bestOf env probe (facesOf user)).2 ≠ hint) := by
            rintro ⟨hne, hne'⟩
            rw [hself] at howner
            exact howner.elim hne hne'
          exact Or.inl ⟨utf8 "指定用户没有匹配的人脸特征", by decide, by rw [if_neg hmatch, hfaces]⟩
        · have hnone : candidates db hint = [] := by simp [hcand, hself]
          refine Or.inr ⟨hnone, ?_⟩
          rcases howner with h | h
          · refine ⟨utf8 "指定用户没有匹配的人脸特征", by decide, ?_⟩
            rw [if_neg (by simp [h]), acceptBest, if_pos h]
          · by_cases hempty : cString hint = []
            · refine ⟨utf8 "指定用户没有匹配的人脸特征", by decide, ?_⟩
              rw [if_neg (by simp [h, hempty]), acceptBest, if_pos (by rw [h, hempty])]
            · refine ⟨utf8 "识别结果与指定用户不匹配", by decide, ?_⟩
              rw [if_pos (by rw [h]; exact ⟨hempty, hself⟩)]

/-- The match `m` is accepted: there is a probe, `m` is the greatest positive
    similarity of a candidate, and it reaches the threshold. -/
def AcceptsMatch (env : Env R) (s : FaceRecognition R) (db : Database) (probe hint : Bytes)
    (m : R) : Prop :=
  probe ≠ [] ∧ IsGreatest (positiveSims env db hint probe) m ∧ s.threshold env ≤ m

/-- An accepted match is returned with the owner of the first face that has it. -/
theorem resolveRecognizedUsername_of_accepts {env : Env R} {s : FaceRecognition R} {db : Database}
    {probe hint : Bytes} {m : R} (hdb : s.database = some db) (hnames : db.UsernamesNonempty)
    (h : AcceptsMatch env s db probe hint m) :
    ∃ c, (candidates db hint).find? (fun c => candidateSim env probe c = some m) = some c ∧
      s.resolveRecognizedUsername env probe hint = .ok (m, c.1.username) := by
  obtain ⟨hprobe, hm, hthreshold⟩ := h
  obtain ⟨c, hc, hbest⟩ := bestOf_of_isGreatest hm
  refine ⟨c, hc, ?_⟩
  rcases resolveRecognizedUsername_cases hdb hprobe with ⟨noMatch, -, heq⟩ | ⟨hnone, -⟩
  · have howner := candidates_username_ne_nil hnames (List.mem_of_find?_eq_some hc)
    rw [heq, hbest, acceptBest, if_neg howner, if_neg (not_lt.mpr hthreshold)]
  · rw [hnone] at hc
    cases hc

/-- Without an accepted match the search ends with an error message. -/
theorem resolveRecognizedUsername_of_rejects {env : Env R} {s : FaceRecognition R} {db : Database}
    {probe hint : Bytes} (hdb : s.database = some db)
    (h : ∀ m, ¬ AcceptsMatch env s db probe hint m) :
    ∃ e, e ≠ [] ∧ s.resolveRecognizedUsername env probe hint = .error e := by
  by_cases hprobe : probe = []
  · refine ⟨utf8 "识别结果特征为空", by decide, ?_⟩
    simp [resolveRecognizedUsername, hdb, hprobe]
  rcases resolveRecognizedUsername_cases hdb hprobe with ⟨noMatch, hmsg, heq⟩ | ⟨-, he⟩
  · rw [heq]
    by_cases hex : ∃ m, IsGreatest (positiveSims env db hint probe) m
    · obtain ⟨m, hm⟩ := hex
      obtain ⟨c, -, hbest⟩ := bestOf_of_isGreatest hm
      have hlow : m < s.threshold env := not_le.mp fun hle => h m ⟨hprobe, hm, hle⟩
      rw [hbest, acceptBest]
      by_cases howner : c.1.username = []
      · exact ⟨noMatch, hmsg, if_pos howner⟩
      · refine ⟨utf8 "匹配分数不足，拒绝识别", by decide, ?_⟩
        rw [if_neg howner, if_pos hlow]
    · rw [bestOf_of_none (not_exists.mp hex), acceptBest]
      exact ⟨noMatch, hmsg, if_pos rfl⟩
  · exact he

-- ============================================================================
-- on_fr_status_received
-- ============================================================================

/-- The probe that a datagram is decided on: its own feature, else the stored one
    for a SUCCESS, else nothing. -/
def probeFor (s : FaceRecognition R) (d : StatusDelivery) : Bytes :=
  if d.feature ≠ [] then d.feature
  else if d.status = .success then s.lastRecognitionFeature
  else []

/-- The datagram reports a face, and the match `m` of its probe is accepted. -/
def AcceptsDatagram (env : Env R) (s : FaceRecognition R) (db : Database) (d : StatusDelivery)
    (m : R) : Prop :=
  d.status = .success ∧ AcceptsMatch env s db (s.probeFor d) s.pendingUsernameHint m

omit [LinearOrder R] in
@[simp] theorem receiveProbe_lastRecognitionFeature (s : FaceRecognition R) (d : StatusDelivery) :
    (s.receiveProbe d).lastRecognitionFeature = s.probeFor d := by
  by_cases hstatus : d.status = .success <;> simp [receiveProbe, probeFor, hstatus]

/-- The search runs on the stored fields that `receiveProbe` leaves alone. -/
theorem resolveRecognizedUsername_receiveProbe (env : Env R) (s : FaceRecognition R)
    (d : StatusDelivery) (probe hint : Bytes) :
    (s.receiveProbe d).resolveRecognizedUsername env probe hint =
      s.resolveRecognizedUsername env probe hint := rfl

/-- A datagram that is not accepted leaves no success and is not passed on as one. -/
theorem decideResult_of_rejects {env : Env R} {s : FaceRecognition R} {db : Database}
    {d : StatusDelivery} (hdb : s.database = some db)
    (h : ∀ m, ¬ AcceptsDatagram env s db d m) :
    ((s.receiveProbe d).decideResult env d).1 ≠ .success ∧
      ((s.receiveProbe d).decideResult env d).2.success = false := by
  rw [decideResult]
  by_cases hstatus : d.status = .success
  · have hrej : ∀ m, ¬ AcceptsMatch env s db (s.probeFor d) s.pendingUsernameHint m :=
      fun m hm => h m ⟨hstatus, hm⟩
    obtain ⟨e, -, herr⟩ := resolveRecognizedUsername_of_rejects hdb hrej
    rw [if_pos hstatus, receiveProbe_lastRecognitionFeature,
      resolveRecognizedUsername_receiveProbe]
    rw [show (s.receiveProbe d).pendingUsernameHint = s.pendingUsernameHint from rfl, herr]
    simp
  · rw [if_neg hstatus]
    exact ⟨hstatus, rfl⟩

/-- The status that a datagram is passed on with. -/
def finalStatus (env : Env R) (s : FaceRecognition R) (d : StatusDelivery) : RecognitionStatus :=
  ((s.receiveProbe d).decideResult env d).1

/-- A datagram is passed on as SUCCESS exactly when it leaves a success. -/
theorem finalStatus_eq_success (env : Env R) (s : FaceRecognition R) (d : StatusDelivery) :
    s.finalStatus env d = .success ↔
      (s.onFrStatusReceived env d).1.lastResult.success = true := by
  show ((s.receiveProbe d).decideResult env d).1 = .success ↔
    ((s.receiveProbe d).decideResult env d).2.success = true
  rw [decideResult]
  by_cases hstatus : d.status = .success
  · rw [if_pos hstatus]
    split
    · simp
    · simp
  · rw [if_neg hstatus]
    exact iff_of_false hstatus (by simp [receiveProbe])

omit [LinearOrder R] [Zero R] in
theorem mem_sendStatus {s : FaceRecognition R} {status : RecognitionStatus} {username : Bytes}
    {sessionId : UInt32} {m : Sent} (h : m ∈ s.sendStatus status username sessionId) :
    m = .status status username sessionId := by
  rw [sendStatus] at h
  split at h
  · exact List.mem_singleton.mp h
  · cases h

theorem onFrStatusReceived_sent {env : Env R} {s : FaceRecognition R} (d : StatusDelivery)
    (hsender : s.udpSender = true) :
    (s.onFrStatusReceived env d).2 = [.status (s.finalStatus env d)
      (s.onFrStatusReceived env d).1.lastResult.username
      (s.onFrStatusReceived env d).1.currentSessionId] := by
  show FaceRecognition.sendStatus _ _ _ _ = _
  rw [FaceRecognition.sendStatus, if_pos (show (s.receiveProbe d).udpSender = true from hsender)]
  rfl

/-- An accepted datagram is passed on as SUCCESS with the owner's name. -/
theorem decideResult_of_accepts {env : Env R} {s : FaceRecognition R} {db : Database}
    {d : StatusDelivery} {m : R} (hdb : s.database = some db) (hnames : db.UsernamesNonempty)
    (h : AcceptsDatagram env s db d m) :
    ∃ c, (candidates db s.pendingUsernameHint).find?
        (fun c => candidateSim env (s.probeFor d) c = some m) = some c ∧
      (s.receiveProbe d).decideResult env d =
        (.success, { success := true, username := c.1.username, confidence := m,
                     errorMessage := [] }) := by
  obtain ⟨hstatus, haccept⟩ := h
  obtain ⟨c, hc, hok⟩ := resolveRecognizedUsername_of_accepts hdb hnames haccept
  refine ⟨c, hc, ?_⟩
  rw [decideResult, if_pos hstatus, receiveProbe_lastRecognitionFeature,
    resolveRecognizedUsername_receiveProbe]
  rw [show (s.receiveProbe d).pendingUsernameHint = s.pendingUsernameHint from rfl, hok]

/-- The decision of `on_fr_status_received`, for every database, datagram, stored
    probe, hint and threshold. -/
theorem onFrStatusReceived_decides {env : Env R} {s : FaceRecognition R} {db : Database}
    {d : StatusDelivery} (hdb : s.database = some db) (hsender : s.udpSender = true)
    (hnames : db.UsernamesNonempty) :
    let hint := s.pendingUsernameHint
    let probe := s.probeFor d
    let threshold := if 0 < s.faceThreshold then s.faceThreshold else env.kRecognitionThreshold
    let after := (s.onFrStatusReceived env d).1
    let sent := (s.onFrStatusReceived env d).2
    let accepted (m : R) := d.status = .success ∧ probe ≠ [] ∧
      IsGreatest (positiveSims env db hint probe) m ∧ threshold ≤ m
    ((∃ name sessionId, .status .success name sessionId ∈ sent) ∧ after.lastResult.success = true
      ↔ ∃ m, accepted m) ∧
    (∀ m, accepted m →
      (∃ c, (candidates db hint).find? (fun c => candidateSim env probe c = some m) = some c ∧
        after.lastResult.username = c.1.username) ∧
      after.lastResult.confidence = m ∧
      (hint ≠ [] → hint = after.lastResult.username)) ∧
    ((∀ m, ¬ accepted m) →
      (∃ status name, sent = [.status status name after.currentSessionId] ∧ status ≠ .success) ∧
      after.lastResult.success = false) := by
  intro hint probe threshold after sent accepted
  have hsent : sent = [.status ((s.receiveProbe d).decideResult env d).1
      after.lastResult.username after.currentSessionId] := onFrStatusReceived_sent d hsender
  have hresult : after.lastResult = ((s.receiveProbe d).decideResult env d).2 := rfl
  have hyes : ∀ m, accepted m → ∃ c, (candidates db hint).find?
      (fun c => candidateSim env probe c = some m) = some c ∧
      (s.receiveProbe d).decideResult env d =
        (.success, { success := true, username := c.1.username, confidence := m,
                     errorMessage := [] }) :=
    fun m hm => decideResult_of_accepts hdb hnames hm
  have hno : (∀ m, ¬ accepted m) →
      ((s.receiveProbe d).decideResult env d).1 ≠ .success ∧
      ((s.receiveProbe d).decideResult env d).2.success = false :=
    fun h => decideResult_of_rejects hdb h
  refine ⟨⟨?_, ?_⟩, ?_, ?_⟩
  · rintro ⟨-, hsuccess⟩
    by_contra hrej
    rw [hresult, (hno (not_exists.mp hrej)).2] at hsuccess
    cases hsuccess
  · rintro ⟨m, hm⟩
    obtain ⟨c, -, hdec⟩ := hyes m hm
    rw [hsent, hresult, hdec]
    exact ⟨⟨_, _, List.mem_singleton.mpr rfl⟩, rfl⟩
  · intro m hm
    obtain ⟨c, hc, hdec⟩ := hyes m hm
    rw [hresult, hdec]
    have howner := (candidates_owner (List.mem_of_find?_eq_some hc)).2
    exact ⟨⟨c, hc, rfl⟩, rfl, fun hne => (howner hne).symm⟩
  · intro hrej
    obtain ⟨hstatus, hfail⟩ := hno hrej
    exact ⟨⟨_, _, hsent, hstatus⟩, by rw [hresult, hfail]⟩

/-- A store with the users "a" and "b", each with one face. -/
def exampleDatabase : Database where
  users := [⟨1, bindText (utf8 "a"), some (bindText (utf8 "pa")), none⟩,
    ⟨2, bindText (utf8 "b"), some (bindText (utf8 "pb")), none⟩]
  faces := [⟨1, 1, some (bindText (utf8 "fa")), none, none, none⟩,
    ⟨2, 2, some (bindText (utf8 "fb")), none, none, none⟩]
  idUnique := by decide
  usernameUnique := by decide

/-- Equal features have similarity 1, others are not comparable. -/
def exampleEnv : Env Nat where
  compareFeaturesOnSu probe enrolled := if probe = enrolled then some 1 else none
  decryptPassword stored := stored
  kRecognitionThreshold := 1

/-- The face of "b" is accepted on a freshly initialized service. -/
theorem onFrStatusReceived_decides_example :
    let after := ((afterInitialize exampleDatabase 0).onFrStatusReceived exampleEnv
      ⟨.success, [], 0, utf8 "fb"⟩).1
    after.lastResult.success = true ∧ after.lastResult.confidence = 1 := by
  obtain ⟨hiff, haccept, -⟩ := @onFrStatusReceived_decides _ _ _ exampleEnv
    (afterInitialize exampleDatabase 0) exampleDatabase ⟨.success, [], 0, utf8 "fb"⟩ rfl rfl
    (by decide)
  have hgreatest : IsGreatest (positiveSims exampleEnv exampleDatabase [] (utf8 "fb")) 1 := by
    refine ⟨⟨by decide, by decide⟩, ?_⟩
    rintro x ⟨-, c, -, hc⟩
    simp only [candidateSim, exampleEnv] at hc
    split at hc
    · exact le_of_eq (Option.some.inj hc).symm
    · cases hc
  exact ⟨(hiff.mpr ⟨1, rfl, by decide, hgreatest, by decide⟩).2,
    (haccept 1 ⟨rfl, by decide, hgreatest, by decide⟩).2.1⟩

end FaceRecognition

end Smile2Unlock.Service
