/-
  Smile2Unlock.SignIn.LogonBuffer

  A sign-in from the probe to the buffer for LSA: the service decides on the datagram of the
  recognizer, the name goes to the tile and comes back in the request for the password, the
  password comes back protected, the session stores both, and `GetSerialization` packs them.

  `logonBuffer` runs the functions of both processes one after the other.  With names that
  fit into the packets, `logonBuffer_correct` says when there is a buffer and what LSA reads
  in it.
-/

import Smile2Unlock.CredentialProvider.Account
import Smile2Unlock.CredentialProvider.GetSerialization
import Smile2Unlock.SignIn.PasswordChannel
import Smile2Unlock.SignIn.RecognizedName

namespace Smile2Unlock.SignIn

open Smile2Unlock Lib Service CredentialProvider

/-- The register of CP after the SUCCESS for a name. -/
def Exchange.registered (x : Exchange) (username : Bytes) : Option StatusRegister :=
  (sendStatus .success username x.sessionId [] x.statusTimestamp).map fun packet =>
    x.register.receive packet x.beyondStatus x.tick

/-- The name that the session thread reads in the register. -/
def sessionName (platform : Platform) (register : StatusRegister) : Option Wide :=
  if register.recognizedUsername = [] then none
  else platform.toWide register.recognizedUsername

/-- The tile after the store of the session thread. -/
def stored (tile : Credential) (name : Option Wide) (password : Wide) : Credential :=
  { tile with
    editText := name.or tile.editText
    pwzUsername := name.or tile.pwzUsername
    password := some password }

theorem sessionStep_storing (platform : Platform) (tile : Credential) (register : StatusRegister)
    (g : Nat) (hint : Bytes) (name : Option Wide) (password : Wide) :
    tile.sessionStep platform register g (.storing hint password name) .advance =
      some (stored tile name password, .notifying, []) := rfl

section LogonBuffer

variable {R : Type} [LinearOrder R] [Zero R] (env : Env R) (dpapi : Dpapi)
  (socket : DatagramSocket) (platform : Platform) (services : SerializationServices)

/-- The password that the tile gets for its request. -/
def receivedPassword (fr : FaceRecognition R) (timestamp : UInt64) (request : AuthRequestDelivery) :
    Option Wide :=
  (fr.cpGetPassword env request.usernameHint request.sessionId).findSome? fun answer =>
    (replyDatagram dpapi timestamp answer).bind fun datagram =>
      (receiveReply dpapi socket request.sessionId datagram).bind platform.toWide

/-- The buffer of a tile that is told of a name. -/
def bufferFor (fr : FaceRecognition R) (x : Exchange) (timestamp : UInt64) (tile : Credential)
    (username : Bytes) : Option Bytes := do
  let register ← x.registered username
  let request ← x.request username
  let password ← receivedPassword env dpapi socket platform fr timestamp request
  let tile := stored tile (sessionName platform register) password
  (getSerialization services platform tile.cpus tile.qualifiedUserName tile.pwzUsername
    tile.editText tile.password).rgbSerialization

/-- The buffer that follows a datagram of the recognizer. -/
def logonBuffer (fr : FaceRecognition R) (d : StatusDelivery) (x : Exchange) (timestamp : UInt64)
    (tile : Credential) : Option Bytes :=
  (fr.onFrStatusReceived env d).2.findSome? fun sent =>
    match sent with
    | .status .success username _ =>
        bufferFor env dpapi socket platform services (fr.onFrStatusReceived env d).1 x timestamp
          tile username
    | _ => none

-- ============================================================================
-- The match and its password
-- ============================================================================

/-- The owner of the first face with the greatest similarity to the probe, which reaches the
    threshold. -/
def MatchedUser (fr : FaceRecognition R) (db : Database) (d : StatusDelivery) (user : User) :
    Prop :=
  ∃ m c, FaceRecognition.AcceptsDatagram env fr db d m ∧
    (candidates db fr.pendingUsernameHint).find?
      (fun c => candidateSim env (fr.probeFor d) c = some m) = some c ∧ c.1 = user

/-- The stored password of the user decrypts, fits into a reply and is `password` in UTF-16. -/
def PasswordReaches (user : User) (password : Wide) : Prop :=
  env.decryptPassword user.encryptedPassword ≠ [] ∧
    platform.toWide (dataBlob (env.decryptPassword user.encryptedPassword)) = some password ∧
    ∃ blob, dpapi.cryptProtectData (dataBlob (env.decryptPassword user.encryptedPassword)) =
      some blob ∧ blob.length ≤ maxProtectedPassword

variable {env dpapi socket platform services}

/-- A matched user is a row of the table. -/
theorem row_of_matched {fr : FaceRecognition R} {db : Database} {d : StatusDelivery} {user : User}
    (h : MatchedUser env fr db d user) : ∃ u ∈ db.users, db.toUser u = user := by
  obtain ⟨m, c, -, hc, rfl⟩ := h
  exact List.mem_map.mp (candidates_owner (List.mem_of_find?_eq_some hc)).1

/-- The service sends SUCCESS for a match and for nothing else. -/
theorem success_mem_iff {fr : FaceRecognition R} {db : Database} {d : StatusDelivery}
    (hdb : fr.database = some db) (hnames : db.UsernamesNonempty) {username : Bytes}
    {sessionId : UInt32} :
    .status .success username sessionId ∈ (fr.onFrStatusReceived env d).2 ↔
      fr.udpSender = true ∧ (fr.onFrStatusReceived env d).1.currentSessionId = sessionId ∧
        ∃ user, MatchedUser env fr db d user ∧ user.username = username := by
  by_cases hsender : fr.udpSender = true
  · rw [FaceRecognition.onFrStatusReceived_sent d hsender, List.mem_singleton, Sent.status.injEq]
    by_cases hmatch : ∃ m, FaceRecognition.AcceptsDatagram env fr db d m
    · obtain ⟨m, hm⟩ := hmatch
      obtain ⟨c, hc, hdec⟩ := FaceRecognition.decideResult_of_accepts hdb hnames hm
      have hfinal : fr.finalStatus env d = .success := congrArg Prod.fst hdec
      have hname : (fr.onFrStatusReceived env d).1.lastResult.username = c.1.username :=
        congrArg (fun r => r.2.username) hdec
      rw [hfinal, hname]
      constructor
      · rintro ⟨-, rfl, rfl⟩
        exact ⟨hsender, rfl, c.1, ⟨m, c, hm, hc, rfl⟩, rfl⟩
      · rintro ⟨-, rfl, user, ⟨m', c', hm', hc', rfl⟩, rfl⟩
        -- the greatest similarity is one
        obtain rfl : m' = m := hm'.2.2.1.unique hm.2.2.1
        rw [hc] at hc'
        rw [Option.some.inj hc']
        exact ⟨rfl, rfl, rfl⟩
    · have hrejects := FaceRecognition.decideResult_of_rejects hdb (not_exists.mp hmatch)
      refine iff_of_false (fun h => hrejects.1 h.1.symm) ?_
      rintro ⟨-, -, user, ⟨m, c, hm, -, -⟩, -⟩
      exact hmatch ⟨m, hm⟩
  · have hnone : (fr.onFrStatusReceived env d).2 = [] := by
      show FaceRecognition.sendStatus _ _ _ _ = []
      exact if_neg (show ¬ (fr.receiveProbe d).udpSender = true from hsender)
    rw [hnone]
    exact iff_of_false List.not_mem_nil fun h => hsender h.1

theorem logonBuffer_eq_some_iff {fr : FaceRecognition R} {db : Database} {d : StatusDelivery}
    {x : Exchange} {timestamp : UInt64} {tile : Credential} {buffer : Bytes}
    (hdb : fr.database = some db) (hnames : db.UsernamesNonempty) :
    logonBuffer env dpapi socket platform services fr d x timestamp tile = some buffer ↔
      fr.udpSender = true ∧ ∃ user, MatchedUser env fr db d user ∧
        bufferFor env dpapi socket platform services (fr.onFrStatusReceived env d).1 x timestamp
          tile user.username = some buffer := by
  have hsuccess := @success_mem_iff _ _ _ env fr db d hdb hnames
  rw [logonBuffer]
  constructor
  · intro h
    obtain ⟨sent, hmem, hsome⟩ := List.exists_of_findSome?_eq_some h
    match sent, hmem, hsome with
    | .status .success username sessionId, hmem, hsome =>
        obtain ⟨hsender, -, user, hmatch, rfl⟩ := hsuccess.mp hmem
        exact ⟨hsender, user, hmatch, hsome⟩
  · rintro ⟨hsender, user, hmatch, hbuffer⟩
    have hmem := hsuccess.mpr ⟨hsender, rfl, user, hmatch, rfl⟩
    have hone := @FaceRecognition.onFrStatusReceived_sent R _ _ env fr d hsender
    rw [hone, List.mem_singleton] at hmem
    rw [hone, List.findSome?_cons, ← hmem]
    dsimp only
    rw [hbuffer]

-- ============================================================================
-- The way to the tile and back
-- ============================================================================

/-- A name that fits is the one that the session reads. -/
theorem registered_eq (x : Exchange) {username : Bytes} (hnul : (0 : UInt8) ∉ username)
    (hne : username ≠ []) (hshort : username.length ≤ 63) :
    ∃ register, x.registered username = some register ∧
      sessionName platform register = platform.toWide username := by
  have hcut : cString username = username := cString_eq_self hnul
  have hsend : sendStatus .success username x.sessionId [] x.statusTimestamp =
      some (statusPacket .success username x.sessionId [] nil_fits_feature x.statusTimestamp) :=
    dif_pos nil_fits_feature
  refine ⟨_, by rw [Exchange.registered, hsend]; rfl, ?_⟩
  rw [sessionName, StatusRegister.receive_recognizedUsername, hcut, if_neg hne,
    List.take_of_length_le hshort, if_neg hne]

omit [LinearOrder R] [Zero R] in
/-- The stored password of the user comes back, if it can. -/
theorem receivedPassword_eq_some_iff (hdpapi : dpapi.Documented) (hsocket : socket.Documented)
    {fr : FaceRecognition R} {db : Database} {timestamp : UInt64} {request : AuthRequestDelivery}
    {user : User} (hdb : fr.database = some db)
    (huser : db.getUserByUsername request.usernameHint = some user) {password : Wide} :
    receivedPassword env dpapi socket platform fr timestamp request = some password ↔
      fr.udpPasswordSender = true ∧ PasswordReaches env dpapi platform user password := by
  rw [receivedPassword, FaceRecognition.cpGetPassword, hdb]
  cases hsender : fr.udpPasswordSender with
  | false =>
      refine iff_of_false (fun h => ?_) fun h => absurd h.1 Bool.false_ne_true
      exact Option.some_ne_none password (Eq.symm h)
  | true =>
      dsimp only
      rw [huser]
      have hreply (plain : Bytes) := @receiveReply_sendPassword_iff dpapi socket hdpapi hsocket
        request.sessionId request.sessionId user.username
        (env.decryptPassword user.encryptedPassword) plain
        (decide (env.decryptPassword user.encryptedPassword ≠ [])) timestamp
      rw [List.findSome?_singleton, PasswordReaches, and_iff_right rfl]
      constructor
      · intro h
        obtain ⟨datagram, hdatagram, hwide⟩ := Option.bind_eq_some_iff.mp h
        obtain ⟨plain, hplain, hpassword⟩ := Option.bind_eq_some_iff.mp hwide
        obtain ⟨-, -, hne, rfl, hblob⟩ := (hreply plain).mp ⟨datagram, hdatagram, hplain⟩
        exact ⟨hne, hpassword, hblob⟩
      · rintro ⟨hne, hpassword, hblob⟩
        obtain ⟨datagram, hdatagram, hplain⟩ :=
          (hreply _).mpr ⟨rfl, decide_eq_true hne, hne, rfl, hblob⟩
        refine Option.bind_eq_some_iff.mpr ⟨datagram, hdatagram, ?_⟩
        rw [hplain, Option.bind_some, hpassword]

omit [LinearOrder R] [Zero R] in
/-- What a tile that is told of a stored name packs. -/
theorem bufferFor_eq_some_iff (hdpapi : dpapi.Documented) (hsocket : socket.Documented)
    {fr : FaceRecognition R} {db : Database} (hdb : fr.database = some db)
    (hnames : db.UsernamesNonempty) {u : UserRow} (hu : u ∈ db.users)
    (hshort : u.username.bytes.length ≤ 63) {x : Exchange} {timestamp : UInt64} {tile : Credential}
    {buffer : Bytes} :
    bufferFor env dpapi socket platform services fr x timestamp tile u.username.bytes =
        some buffer ↔
      fr.udpPasswordSender = true ∧ ∃ password,
        PasswordReaches env dpapi platform (db.toUser u) password ∧
        (getSerialization services platform tile.cpus tile.qualifiedUserName
          ((platform.toWide u.username.bytes).or tile.pwzUsername)
          ((platform.toWide u.username.bytes).or tile.editText)
          (some password)).rgbSerialization = some buffer := by
  have hnul := u.username.noNul
  have hne := hnames u hu
  obtain ⟨register, hregister, hname⟩ := @registered_eq platform x _ hnul hne hshort
  have hrequest := x.request_eq hnul hne
  rw [List.take_of_length_le hshort] at hrequest
  have huser : db.getUserByUsername u.username.bytes = some (db.toUser u) :=
    (Database.getUserByUsername_eq_some hu).mpr (cString_eq_self hnul).symm
  have hreceived (password : Wide) := @receivedPassword_eq_some_iff R env dpapi socket platform
    hdpapi hsocket fr db timestamp ⟨.getPassword, u.username.bytes, x.requestId⟩ (db.toUser u) hdb
    huser password
  rw [bufferFor, hregister, hrequest]
  show (receivedPassword env dpapi socket platform fr timestamp _).bind _ = some buffer ↔ _
  rw [Option.bind_eq_some_iff]
  constructor
  · rintro ⟨password, hpassword, hbuffer⟩
    obtain ⟨hsender, hreaches⟩ := (hreceived password).mp hpassword
    rw [hname] at hbuffer
    exact ⟨hsender, password, hreaches, hbuffer⟩
  · rintro ⟨hsender, password, hreaches, hbuffer⟩
    refine ⟨password, (hreceived password).mpr ⟨hsender, hreaches⟩, ?_⟩
    rw [hname]
    exact hbuffer

omit [LinearOrder R] [Zero R] in
/-- A logon tile packs its account and its password. -/
theorem rgbSerialization_eq_some_iff {cpus : UsageScenario} (hcpus : cpus ≠ .credUi)
    {qualifiedUserName pwzUsername editText : Option Wide} {password : Wide} {buffer : Bytes} :
    (getSerialization services platform cpus qualifiedUserName pwzUsername editText
        (some password)).rgbSerialization = some buffer ↔
      ∃ domain username,
        packedAccount platform cpus qualifiedUserName pwzUsername editText =
          some (.logon domain username) ∧
        CanPack services cpus domain username password ∧
        packLogon services.coTaskMemAlloc (some domain) (some username) (some password) cpus =
          .ok buffer := by
  rw [getSerialization]
  cases haccount : packedAccount platform cpus qualifiedUserName pwzUsername editText with
  | none =>
      refine iff_of_false (fun h => Option.some_ne_none buffer (Eq.symm h)) ?_
      rintro ⟨domain, username, h, -⟩
      exact Option.some_ne_none _ h.symm
  | some account =>
      obtain ⟨hcred, -⟩ | ⟨-, domain, username, rfl⟩ := packedAccount_cases haccount
      · exact absurd hcred hcpus
      dsimp only
      rcases serializeLogon_cases services cpus domain username (some password) with
        ⟨hnot, hr, hfailed⟩ | ⟨pw, packed, hpw, hcan, hpack, hend⟩
      · rw [hfailed]
        refine iff_of_false (fun h => Option.some_ne_none buffer h.symm) ?_
        rintro ⟨domain', username', haccount', hcan, -⟩
        cases haccount'
        exact hnot ⟨password, rfl, hcan⟩
      · cases hpw
        have hbuffer : (serializeLogon services cpus domain username
            (some password)).rgbSerialization = some packed := by
          rcases hend with ⟨package, -, hend⟩ | ⟨hr, -, hend⟩
          · rw [hend]
          · rw [hend]
        rw [hbuffer]
        constructor
        · rintro heq
          cases heq
          exact ⟨domain, username, rfl, hcan, hpack⟩
        · rintro ⟨domain', username', haccount', -, hpack'⟩
          cases haccount'
          rw [hpack] at hpack'
          cases hpack'
          rfl

-- ============================================================================
-- The whole way
-- ============================================================================

/-- With names of at most 63 bytes a logon tile gets a buffer exactly if a face matches the
    probe, the password of its owner comes back and the account of the tile can be packed with
    it.  LSA reads the account and the owner's stored password in the buffer; and the account
    is the owner's, unless the tile has a name of its own and it is another one. -/
theorem logonBuffer_correct (hdpapi : dpapi.Documented) (hsocket : socket.Documented)
    {encrypt : Bytes → Bytes} {fr : FaceRecognition R} {db : Database} {d : StatusDelivery}
    {x : Exchange} {timestamp : UInt64} {tile : Credential} (hdb : fr.database = some db)
    (hreach : BackendService.Reachable encrypt db)
    (hshort : ∀ u ∈ db.users, u.username.bytes.length ≤ 63) (hcpus : tile.cpus ≠ .credUi) :
    let ran := logonBuffer env dpapi socket platform services fr d x timestamp tile
    let packs := fun (user : User) (password domain username : Wide) =>
      MatchedUser env fr db d user ∧ PasswordReaches env dpapi platform user password ∧
        packedAccount platform tile.cpus tile.qualifiedUserName
          ((platform.toWide user.username).or tile.pwzUsername)
          ((platform.toWide user.username).or tile.editText) = some (.logon domain username) ∧
        CanPack services tile.cpus domain username password
    (ran.isSome ↔ fr.udpSender = true ∧ fr.udpPasswordSender = true ∧
      ∃ user password domain username, packs user password domain username) ∧
    ∀ buffer, ran = some buffer → ∃ user password domain username,
      packs user password domain username ∧
      readLogon buffer = some ⟨(messageTypeOf tile.cpus).toNat, wideText domain,
        wideText username, wideText password, 0⟩ ∧
      ∀ name, platform.toWide user.username = some name → tile.FitsTile name →
        (PackedAccount.logon domain username).IsNamed name := by
  intro ran packs
  have hnames := BackendService.usernamesNonempty_of_reachable hreach
  have hran (buffer : Bytes) : ran = some buffer ↔
      fr.udpSender = true ∧ fr.udpPasswordSender = true ∧ ∃ user password domain username,
        packs user password domain username ∧
        packLogon services.coTaskMemAlloc (some domain) (some username) (some password)
          tile.cpus = .ok buffer := by
    rw [logonBuffer_eq_some_iff hdb hnames]
    refine and_congr_right fun _ => ?_
    constructor
    · rintro ⟨user, hmatch, hbuffer⟩
      obtain ⟨u, hu, rfl⟩ := row_of_matched hmatch
      obtain ⟨hsender, password, hreaches, hpacked⟩ :=
        (bufferFor_eq_some_iff hdpapi hsocket hdb hnames hu (hshort u hu)).mp hbuffer
      obtain ⟨domain, username, haccount, hcan, hpack⟩ :=
        (rgbSerialization_eq_some_iff hcpus).mp hpacked
      exact ⟨hsender, db.toUser u, password, domain, username,
        ⟨hmatch, hreaches, haccount, hcan⟩, hpack⟩
    · rintro ⟨hsender, user, password, domain, username, ⟨hmatch, hreaches, haccount, hcan⟩, hpack⟩
      obtain ⟨u, hu, rfl⟩ := row_of_matched hmatch
      refine ⟨db.toUser u, hmatch, ?_⟩
      exact (bufferFor_eq_some_iff hdpapi hsocket hdb hnames hu (hshort u hu)).mpr ⟨hsender,
        password, hreaches,
        (rgbSerialization_eq_some_iff hcpus).mpr ⟨domain, username, haccount, hcan, hpack⟩⟩
  refine ⟨?_, fun buffer hbuffer => ?_⟩
  · rw [Option.isSome_iff_exists]
    constructor
    · rintro ⟨buffer, hbuffer⟩
      obtain ⟨hsender, hpassword, user, password, domain, username, hpacks, -⟩ :=
        (hran buffer).mp hbuffer
      exact ⟨hsender, hpassword, user, password, domain, username, hpacks⟩
    · rintro ⟨hsender, hpassword, user, password, domain, username, hpacks⟩
      have hcan := hpacks.2.2.2.2
      obtain ⟨buffer, hpack⟩ :=
        (packLogon_ok_iff services.coTaskMemAlloc domain username password tile.cpus).mpr hcan
      exact ⟨buffer, (hran buffer).mpr ⟨hsender, hpassword, user, password, domain, username,
        hpacks, hpack⟩⟩
  · obtain ⟨-, -, user, password, domain, username, hpacks, hpack⟩ := (hran buffer).mp hbuffer
    refine ⟨user, password, domain, username, hpacks, (readLogon_of_packLogon hpack).2, ?_⟩
    intro name hname hfits
    obtain ⟨-, -, haccount, -⟩ := hpacks
    rw [hname, Option.some_or, Option.some_or] at haccount
    exact isNamed_of_packedAccount hfits haccount

end LogonBuffer

-- ============================================================================
-- One sign-in
-- ============================================================================

/-- The second of two users, who has a face, with the password "p2". -/
def exampleOwner : User := (twoUsers 1 2).toUser
  ⟨2, bindText (utf8 "aa"), some (bindText (utf8 "p2")), some (bindText [])⟩

theorem exampleOwner_face : candidates (twoUsers 1 2) [] =
    [(exampleOwner, ⟨1, utf8 "fb", [], [], []⟩)] := by decide

theorem matchedUser_exampleOwner {user : User} :
    MatchedUser FaceRecognition.exampleEnv (.afterInitialize (twoUsers 1 2) 0) (twoUsers 1 2)
      ⟨.success, [], 0, utf8 "fb"⟩ user ↔ user = exampleOwner := by
  constructor
  · rintro ⟨m, c, -, hc, rfl⟩
    have hmem : c ∈ candidates (twoUsers 1 2) [] := List.mem_of_find?_eq_some hc
    rw [exampleOwner_face, List.mem_singleton] at hmem
    rw [hmem]
  · rintro rfl
    refine ⟨1, (exampleOwner, ⟨1, utf8 "fb", [], [], []⟩), ⟨rfl, by decide, ?_, by decide⟩,
      by decide, rfl⟩
    refine ⟨⟨by decide, by decide⟩, ?_⟩
    rintro m ⟨-, c, -, hm⟩
    simp only [candidateSim, FaceRecognition.exampleEnv] at hm
    split at hm
    · exact le_of_eq (Option.some.inj hm).symm
    · cases hm

/-- The face of "aa" signs in to the account PC\\aa with its password. -/
theorem logonBuffer_example : ∃ buffer,
    logonBuffer FaceRecognition.exampleEnv exampleDpapi winsock examplePlatform exampleServices
      (.afterInitialize (twoUsers 1 2) 0) ⟨.success, [], 0, utf8 "fb"⟩ plainExchange 0
      (.afterInitialize .logon none) = some buffer ∧
    readLogon buffer =
      some ⟨2, exampleWide "PC", exampleWide "aa", exampleWide "p2", 0⟩ := by
  obtain ⟨hsome, hread⟩ := @logonBuffer_correct Nat _ _ FaceRecognition.exampleEnv exampleDpapi
    winsock examplePlatform exampleServices exampleDpapi_documented winsock_documented
    (fun password => password) (.afterInitialize (twoUsers 1 2) 0) (twoUsers 1 2)
    ⟨.success, [], 0, utf8 "fb"⟩ plainExchange 0 (.afterInitialize .logon none) rfl
    (twoUsers_reachable 1 2) (by decide) (by decide)
  have haccount : packedAccount examplePlatform .logon none (some (exampleWide "aa"))
      (some (exampleWide "aa")) = some (.logon (exampleWide "PC") (exampleWide "aa")) := by decide
  obtain ⟨buffer, hbuffer⟩ := Option.isSome_iff_exists.mp (hsome.mpr ⟨rfl, rfl, exampleOwner,
    exampleWide "p2", _, _, matchedUser_exampleOwner.mpr rfl,
    ⟨by decide, by decide, _, rfl, by decide⟩, haccount, ⟨_, rfl⟩, by decide, rfl⟩)
  obtain ⟨user, password, domain, username, ⟨hmatch, hreaches, hpacked, -⟩, hlogon, -⟩ :=
    hread buffer hbuffer
  obtain rfl := matchedUser_exampleOwner.mp hmatch
  obtain rfl : exampleWide "p2" = password := Option.some.inj hreaches.2.1
  cases haccount.symm.trans hpacked
  exact ⟨buffer, hbuffer, hlogon⟩

end Smile2Unlock.SignIn
