/-
  Smile2Unlock.SignIn.RecognizedName

  The way of a username from the match to the password request: the SUCCESS packet
  of the service, the register of the Credential Provider, the GET_PASSWORD packet
  and the lookup.  Both packets cut the name to 63 bytes (`Exchange.request_eq`),
  while the store takes names of any length.
-/

import Smile2Unlock.Service.Backend
import Smile2Unlock.CredentialProvider.StatusRegister

namespace Smile2Unlock.SignIn

open Smile2Unlock Service CredentialProvider

/-- What surrounds the name on its way: sessions, times, memory behind the packets,
    and the register and the tile before the SUCCESS arrives. -/
structure Exchange where
  sessionId : UInt32
  statusTimestamp : UInt64
  beyondStatus : Bytes
  register : StatusRegister
  tick : Nat
  tileUsername : Bytes
  requestId : UInt32
  requestTimestamp : UInt64
  beyondRequest : Bytes

/-- The GET_PASSWORD that the service receives after it sent SUCCESS for `username`. -/
def Exchange.request (x : Exchange) (username : Bytes) : Option AuthRequestDelivery :=
  (sendStatus .success username x.sessionId [] x.statusTimestamp).bind fun packet =>
    let register := x.register.receive packet x.beyondStatus x.tick
    authRequestReceiver (sendRequest .getPassword (passwordHint register x.tileUsername)
      x.requestId x.requestTimestamp) x.beyondRequest

/-- CP asks under the first 63 bytes of the name. -/
theorem Exchange.request_eq (x : Exchange) {username : Bytes} (hnul : (0 : UInt8) ∉ username)
    (hne : username ≠ []) :
    x.request username = some ⟨.getPassword, username.take 63, x.requestId⟩ := by
  have hcut : cString username = username := cString_eq_self hnul
  have htake : (username.take 63).take 63 = username.take 63 := by
    rw [List.take_take]
    rfl
  have hname : (x.register.receive (statusPacket .success username x.sessionId [] nil_fits_feature
      x.statusTimestamp) x.beyondStatus x.tick).recognizedUsername = username.take 63 := by
    rw [StatusRegister.receive_recognizedUsername, hcut, if_neg hne]
  have hhint : username.take 63 ≠ [] := by
    cases username with
    | nil => exact absurd rfl hne
    | cons b bs => simp
  have hsend : sendStatus .success username x.sessionId [] x.statusTimestamp =
      some (statusPacket .success username x.sessionId [] nil_fits_feature x.statusTimestamp) :=
    dif_pos nil_fits_feature
  rw [Exchange.request, hsend, Option.bind_some]
  simp only [passwordHint, hname, if_neg hhint]
  rw [authRequestReceiver_sendRequest, cString_take hnul, htake]

variable {R : Type} [LinearOrder R] [Zero R] {env : Env R} {encrypt : Bytes → Bytes}

/-- A SUCCESS that the service sends carries the name of a stored user. -/
theorem user_of_success {fr : FaceRecognition R} {db : Database} {d : StatusDelivery}
    {username : Bytes} {sessionId : UInt32} (hdb : fr.database = some db)
    (hnames : db.UsernamesNonempty)
    (h : .status .success username sessionId ∈ (fr.onFrStatusReceived env d).2) :
    ∃ u ∈ db.users, u.username.bytes = username := by
  have hstatus : Sent.status .success username sessionId =
      .status ((fr.receiveProbe d).decideResult env d).1
        ((fr.receiveProbe d).decideResult env d).2.username
        (fr.receiveProbe d).currentSessionId := FaceRecognition.mem_sendStatus h
  rw [Sent.status.injEq] at hstatus
  obtain ⟨hfinal, hname, -⟩ := hstatus
  by_cases hex : ∃ m, FaceRecognition.AcceptsDatagram env fr db d m
  · obtain ⟨m, hm⟩ := hex
    obtain ⟨c, hc, hdec⟩ := FaceRecognition.decideResult_of_accepts hdb hnames hm
    have howner := (candidates_owner (List.mem_of_find?_eq_some hc)).1
    obtain ⟨u, hu, hbytes⟩ := getAllUsers_username howner
    refine ⟨u, hu, ?_⟩
    rw [hname, hdec, hbytes]
  · exact absurd hfinal.symm
      (FaceRecognition.decideResult_of_rejects hdb (not_exists.mp hex)).1

/-- The name arrives as the stored one, and the lookup finds its user. -/
def FindsMatch (db : Database) (u : UserRow) (r : AuthRequestDelivery) : Prop :=
  r.usernameHint = u.username.bytes ∧ db.getUserByUsername r.usernameHint = some (db.toUser u)

/-- After a match of `u` CP asks for `u` exactly when the stored name has at most 63
    bytes, and the names of two users are equal on the wire exactly when they agree
    on their first 63 bytes. -/
theorem findsMatch_iff {fr : FaceRecognition R} {db : Database} {d : StatusDelivery}
    {username : Bytes} {sessionId : UInt32} (hreach : BackendService.Reachable encrypt db)
    (hdb : fr.database = some db)
    (hsent : .status .success username sessionId ∈ (fr.onFrStatusReceived env d).2) :
    ∃ u ∈ db.users, u.username.bytes = username ∧ ∀ x : Exchange, ∃ r, x.request username = some r ∧
      (FindsMatch db u r ↔ username.length ≤ 63) ∧
      ∀ v ∈ db.users, ∀ y : Exchange, ∀ r', y.request v.username.bytes = some r' →
        (r'.usernameHint = r.usernameHint ↔
          v.username.bytes.take 63 = u.username.bytes.take 63) := by
  have hnames := BackendService.usernamesNonempty_of_reachable hreach
  obtain ⟨u, hu, rfl⟩ := user_of_success hdb hnames hsent
  refine ⟨u, hu, rfl, fun x => ⟨_, x.request_eq u.username.noNul (hnames u hu), ?_, ?_⟩⟩
  · rw [FindsMatch, List.take_eq_self_iff]
    refine and_iff_left_of_imp fun hlen => ?_
    rw [List.take_of_length_le hlen]
    exact (Database.getUserByUsername_eq_some hu).mpr (cString_eq_self u.username.noNul).symm
  · intro v hv y r' hr'
    rw [y.request_eq v.username.noNul (hnames v hv)] at hr'
    rw [← Option.some.inj hr']

/-- An exchange with nothing remarkable around the name. -/
def plainExchange : Exchange where
  sessionId := 1
  statusTimestamp := 0
  beyondStatus := []
  register := .initial
  tick := 1
  tileUsername := []
  requestId := 2
  requestTimestamp := 0
  beyondRequest := []

/-- The store after adding two users whose names are `n` and `m` times the letter "a";
    the second one has the face "fb". -/
def twoUsers (n m : Nat) : Database :=
  { (BackendService.addUser (fun password => password)
      (BackendService.addUser (fun password => password) ⟨[], [], by decide, by decide⟩
        (List.replicate n 0x61) (utf8 "p1") []).database
      (List.replicate m 0x61) (utf8 "p2") []).database with
    faces := [⟨1, 2, some (bindText (utf8 "fb")), none, none, none⟩] }

theorem twoUsers_reachable (n m : Nat) :
    BackendService.Reachable (fun password => password) (twoUsers n m) := by
  have hnul : ∀ k : Nat, (0 : UInt8) ∉ List.replicate k 0x61 := by
    intro k h
    cases List.eq_of_mem_replicate h
  exact .faces _ (.addUser (.addUser (.empty rfl) (hnul n)) (hnul m))

/-- Short names: the match of "aa" is asked for as "aa". -/
theorem findsMatch_shortName : ∃ u ∈ (twoUsers 1 2).users, ∃ r,
    plainExchange.request u.username.bytes = some r ∧ FindsMatch (twoUsers 1 2) u r := by
  have hsent : .status .success [0x61, 0x61] 0 ∈ ((FaceRecognition.afterInitialize (twoUsers 1 2)
      0).onFrStatusReceived FaceRecognition.exampleEnv ⟨.success, [], 0, utf8 "fb"⟩).2 := by decide
  obtain ⟨u, hu, hname, hall⟩ := findsMatch_iff (twoUsers_reachable 1 2) rfl hsent
  obtain ⟨r, hr, hfinds, -⟩ := hall plainExchange
  exact ⟨u, hu, r, by rw [hname]; exact hr, hfinds.mpr (by decide)⟩

/-- Names of 63 and 64 bytes: the match of the second user is sent as SUCCESS, and CP
    asks for the first one. -/
theorem findsMatch_fails : ∃ u ∈ (twoUsers 63 64).users, ∃ v ∈ (twoUsers 63 64).users, ∃ r,
    BackendService.Reachable (fun password => password) (twoUsers 63 64) ∧ u ≠ v ∧
    .status .success u.username.bytes 0 ∈ ((FaceRecognition.afterInitialize (twoUsers 63 64)
      0).onFrStatusReceived FaceRecognition.exampleEnv ⟨.success, [], 0, utf8 "fb"⟩).2 ∧
    plainExchange.request u.username.bytes = some r ∧
    (twoUsers 63 64).getUserByUsername r.usernameHint = some ((twoUsers 63 64).toUser v) := by
  have hrows : (twoUsers 63 64).users =
      [⟨1, bindText (List.replicate 63 0x61), some (bindText (utf8 "p1")), some (bindText [])⟩,
       ⟨2, bindText (List.replicate 64 0x61), some (bindText (utf8 "p2")), some (bindText [])⟩] := by
    decide
  rw [hrows]
  refine ⟨_, List.mem_cons_of_mem _ List.mem_cons_self, _, List.mem_cons_self, _,
    twoUsers_reachable 63 64, by decide, by decide,
    plainExchange.request_eq (SqlText.noNul _) (by decide), by decide⟩

end Smile2Unlock.SignIn
