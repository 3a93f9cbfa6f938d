/-
  Smile2Unlock.SignIn.PasswordChannel

  The password on its way from the service to a tile: the tiles that ask for it
  (`RequestAndDecryptPasswordFromSU`), the requests to port 51236, the service, and the
  replies to port 51237.

  Port 51237 is bound by one thread at a time, for one request.  Datagrams may be lost
  and may arrive in any order and late: the reply to a request that was given up reaches
  whoever has bound the port next.  `ownPassword_of_sessionsDistinct` says that no tile
  takes the password of another request for its own.
-/

import Smile2Unlock.Common.PasswordPacket
import Smile2Unlock.CredentialProvider.Process
import Smile2Unlock.Service.Guarantees

namespace Smile2Unlock.SignIn

open Smile2Unlock Lib Machine Service CredentialProvider

-- ============================================================================
-- The channel
-- ============================================================================

/-- The thread that has bound port 51237: the tile, `username_hint`, and `session_id`
    once the request has been sent. -/
structure Asker (ι : Type) where
  tile : ι
  hint : Bytes
  session : Option UInt32
deriving DecidableEq

/-- The service, the requests and the replies on their way, and the bound port with its
    receive queue. -/
structure Channel (ι R : Type) where
  service : ServiceState R
  requests : List UdpAuthRequestPacket
  replies : List Bytes
  port : Option (Asker ι)
  received : List Bytes

/-- `bind` and `ask` are the two halves of the call up to `recvfrom`; the `k`-th request
    reaches the service, the `k`-th reply the port; the service does something else;
    datagrams are lost, or come from elsewhere; `recvfrom` returns or times out. -/
inductive ChannelEvent (ι R : Type) where
  | bind (i : ι) (hint : Bytes)
  | ask (sent : Bool) (sessionId : UInt32) (timestamp : UInt64)
  | serve (k : Nat) (beyond : Bytes) (launches : Bool) (timestamp : UInt64)
  | service (e : ServiceEvent R) (timestamp : UInt64)
  | loseRequest (k : Nat)
  | loseReply (k : Nat)
  | foreign (datagram : Bytes)
  | deliver (k : Nat)
  | receive
  | timeout

/-- How the call of a tile ends. -/
inductive ChannelOutput (ι : Type) where
  | obtained (i : ι) (hint : Bytes) (sessionId : UInt32) (password : Wide)
  | failed (i : ι)

/-- What the service sends is on its way to the port. -/
def replyDatagram (dpapi : Dpapi) (timestamp : UInt64) : Sent → Option Bytes
  | .password sessionId username password success =>
      PasswordSender.sendPassword dpapi true sessionId username password success timestamp
  | .status _ _ _ => none

section Step

variable {ι R : Type} [LinearOrder R] [Zero R] (env : Env R) (dpapi : Dpapi)
  (socket : DatagramSocket) (platform : Platform)

/-- The service takes an event. -/
def Channel.handle (c : Channel ι R) (e : ServiceEvent R) (timestamp : UInt64) :
    Option (Channel ι R × List (ChannelOutput ι)) :=
  (c.service.step env e).map fun r =>
    ({ c with
        service := r.1
        replies := c.replies ++ r.2.filterMap (replyDatagram dpapi timestamp) }, [])

/-- The end of a call: the socket is closed, and what it had queued is gone. -/
def Channel.close (c : Channel ι R) : Channel ι R := { c with port := none, received := [] }

def Channel.step (c : Channel ι R) :
    ChannelEvent ι R → Option (Channel ι R × List (ChannelOutput ι))
  | .bind i hint =>
      if c.port.isSome ∨ hint = [] then some (c, [.failed i])
      else some ({ c with port := some ⟨i, hint, none⟩, received := [] }, [])
  | .ask sent sessionId timestamp =>
      match c.port with
      | some ⟨i, hint, none⟩ =>
          if sent then
            some ({ c with
              port := some ⟨i, hint, some sessionId⟩
              requests := c.requests ++ [sendRequest .getPassword hint sessionId timestamp] }, [])
          else some (c.close, [.failed i])
      | _ => none
  | .serve k beyond launches timestamp =>
      match c.requests[k]? with
      | none => none
      | some packet =>
          { c with requests := c.requests.eraseIdx k }.handle env dpapi
            (.cpRequest packet beyond launches) timestamp
  | .service e timestamp =>
      if e.request.map (·.requestType) = some .getPassword then none
      else c.handle env dpapi e timestamp
  | .loseRequest k => some ({ c with requests := c.requests.eraseIdx k }, [])
  | .loseReply k => some ({ c with replies := c.replies.eraseIdx k }, [])
  | .foreign datagram => some ({ c with replies := c.replies ++ [datagram] }, [])
  | .deliver k =>
      match c.replies[k]? with
      | none => none
      | some datagram =>
          some ({ c with
            replies := c.replies.eraseIdx k
            received := if c.port.isSome then c.received ++ [datagram] else c.received }, [])
  | .receive =>
      match c.port, c.received with
      | some ⟨i, hint, some sessionId⟩, datagram :: _ =>
          match (receiveReply dpapi socket sessionId datagram).bind platform.toWide with
          | some password => some (c.close, [.obtained i hint sessionId password])
          | none => some (c.close, [.failed i])
      | _, _ => none
  | .timeout =>
      match c.port, c.received with
      | some ⟨i, _, some _⟩, [] => some (c.close, [.failed i])
      | _, _ => none

/-- A service in any state that it can reach, and no request yet. -/
def channel : Machine (Channel ι R) (ChannelEvent ι R) (ChannelOutput ι) where
  init c := (∃ tr, (Service.service env).Run tr c.service) ∧ c.requests = [] ∧ c.replies = [] ∧
    c.port = none ∧ c.received = []
  step c e := c.step env dpapi socket platform e

end Step

abbrev ChannelStep (ι R : Type) := Transition (Channel ι R) (ChannelEvent ι R) (ChannelOutput ι)

-- ============================================================================
-- Whose password a tile gets
-- ============================================================================

section Properties

variable {ι R : Type}

/-- A tile asks for the password of `hint`. -/
def Asks (i : ι) (hint : Bytes) (sessionId : UInt32) (t : ChannelStep ι R) : Prop :=
  (∃ timestamp, t.event = .ask true sessionId timestamp) ∧
    t.before.port = some ⟨i, hint, none⟩

/-- The service handles a request for the password of `hint`, and finds it. -/
def Releases (env : Env R) (hint : Bytes) (sessionId : UInt32) (password : Bytes)
    (t : ChannelStep ι R) : Prop :=
  (∃ k beyond launches timestamp packet, t.event = .serve k beyond launches timestamp ∧
    t.before.requests[k]? = some packet ∧
    authRequestReceiver packet beyond = some ⟨.getPassword, hint, sessionId⟩) ∧
  ∃ db user, t.before.service.fr.database = some db ∧ db.getUserByUsername hint = some user ∧
    env.decryptPassword user.encryptedPassword = password ∧ password ≠ []

/-- Someone asked in this session, and after that the service found the password of the
    user that was asked for. -/
def AnsweredFor (env : Env R) (tr : List (ChannelStep ι R)) (i : ι) (hint : Bytes)
    (sessionId : UInt32) (password : Bytes) : Prop :=
  ∃ pre ask post, tr = pre ++ ask :: post ∧ Asks i hint sessionId ask ∧
    ∃ u ∈ post, Releases env ((cString hint).take 63) sessionId password u

/-- What a tile obtains is the password that the service found for the tile's own hint
    after the tile had asked. -/
def OwnPassword (env : Env R) (platform : Platform) (pre : List (ChannelStep ι R))
    (t : ChannelStep ι R) : Prop :=
  ∀ i hint sessionId password, .obtained i hint sessionId password ∈ t.sent →
    ∃ stored, AnsweredFor env pre i hint sessionId stored ∧
      platform.toWide (dataBlob stored) = some password

/-- `GetTickCount` gives every request another session. -/
def SessionsDistinct (pre : List (ChannelStep ι R)) (t : ChannelStep ι R) : Prop :=
  ∀ i hint sessionId, Asks i hint sessionId t → ∀ u ∈ pre, ∀ j hint', ¬ Asks j hint' sessionId u

/-- A datagram that no session takes a password from. -/
def Harmless (dpapi : Dpapi) (socket : DatagramSocket) (datagram : Bytes) : Prop :=
  ∀ sessionId, receiveReply dpapi socket sessionId datagram = none

/-- Nobody else puts a protected password on the wire. -/
def NoForgery (dpapi : Dpapi) (socket : DatagramSocket) (_ : List (ChannelStep ι R))
    (t : ChannelStep ι R) : Prop :=
  ∀ datagram, t.event = .foreign datagram → Harmless dpapi socket datagram

end Properties

-- ============================================================================
-- What the service sends
-- ============================================================================

section Service

variable {R : Type} [LinearOrder R] [Zero R] {env : Env R}

omit [LinearOrder R] [Zero R] in
/-- The answer to GET_PASSWORD is for the session that asked, and one with success holds
    the password of the user. -/
theorem answer_of_cpGetPassword {fr : FaceRecognition R} {hint username password : Bytes}
    {sessionId sessionId' : UInt32} {success : Bool}
    (h : .password sessionId' username password success ∈ fr.cpGetPassword env hint sessionId) :
    sessionId' = sessionId ∧ (success = true → ∃ db user, fr.database = some db ∧
      db.getUserByUsername hint = some user ∧
      env.decryptPassword user.encryptedPassword = password ∧ password ≠ []) := by
  rw [FaceRecognition.cpGetPassword] at h
  split at h
  · rename_i db hsender hdb
    split at h
    · rename_i user huser
      rw [List.mem_singleton, Sent.password.injEq] at h
      obtain ⟨hsession, -, hpassword, hsuccess⟩ := h
      refine ⟨hsession, fun htrue => ⟨db, user, hdb, huser, hpassword.symm, ?_⟩⟩
      rw [hsuccess] at htrue
      rw [hpassword]
      simpa using htrue
    · rw [List.mem_singleton, Sent.password.injEq] at h
      obtain ⟨hsession, -, -, rfl⟩ := h
      exact ⟨hsession, fun htrue => absurd htrue Bool.false_ne_true⟩
  · cases h

/-- Passwords are sent for GET_PASSWORD only. -/
theorem request_of_password {t : ServiceStep R} {sessionId : UInt32} {username password : Bytes}
    {success : Bool} (ht : (service env).Takes t)
    (hmem : .password sessionId username password success ∈ t.sent) :
    ∃ r, t.event.request = some r ∧ r.requestType = .getPassword ∧
      .password sessionId username password success ∈
        t.before.fr.cpGetPassword env r.usernameHint r.sessionId := by
  rcases Service.cases_of_takes ht with ⟨r, hr⟩ | ⟨d, hd⟩ | ⟨launches, he⟩ | ⟨-, -, -, hint⟩
  · obtain ⟨launches, -, hsent⟩ := takes_of_request ht hr
    rw [hsent, FaceRecognition.onCpRequestReceived] at hmem
    refine ⟨r, hr, ?_⟩
    cases htype : r.requestType with
    | getPassword =>
        simp only [htype] at hmem
        exact ⟨rfl, hmem⟩
    | startRecognition =>
        simp only [htype, FaceRecognition.cpStart] at hmem
        split at hmem
        · cases FaceRecognition.mem_sendStatus hmem
        · split at hmem
          · cases hmem
          · cases FaceRecognition.mem_sendStatus hmem
    | cancelRecognition =>
        simp only [htype, FaceRecognition.cpCancel] at hmem
        rcases List.mem_append.mp hmem with hstop | hidle
        · obtain ⟨sessionId', heq⟩ := FaceRecognition.mem_stopRecognition hstop
          cases heq
        · cases FaceRecognition.mem_sendStatus hidle
    | queryStatus =>
        simp only [htype, FaceRecognition.cpQuery] at hmem
        split at hmem
        · simp at hmem
        · cases hmem
    | unnamed _ _ =>
        simp only [htype] at hmem
        cases hmem
  · obtain ⟨-, hsent⟩ := takes_of_delivery ht hd
    rw [hsent] at hmem
    cases FaceRecognition.mem_sendStatus hmem
  · obtain ⟨-, hsent⟩ := takes_of_guiStart ht he
    rw [hsent] at hmem
    cases hmem
  · obtain ⟨status, name, sessionId', heq, -⟩ := hint.sent _ hmem
    cases heq

end Service

-- ============================================================================
-- What a step does
-- ============================================================================

section Steps

variable {ι R : Type} [LinearOrder R] [Zero R] {env : Env R} {dpapi : Dpapi}
  {socket : DatagramSocket} {platform : Platform} {t : ChannelStep ι R}
  {tr : List (ChannelStep ι R)} {c : Channel ι R}

/-- The steps of the channel, one by one. -/
inductive ChannelMove (env : Env R) (dpapi : Dpapi) (socket : DatagramSocket)
    (platform : Platform) (c : Channel ι R) :
    ChannelEvent ι R → List (ChannelOutput ι) → Channel ι R → Prop where
  | refused {i : ι} {hint : Bytes} :
      ChannelMove env dpapi socket platform c (.bind i hint) [.failed i] c
  | bound {i : ι} {hint : Bytes} : ChannelMove env dpapi socket platform c (.bind i hint) []
      { c with port := some ⟨i, hint, none⟩, received := [] }
  | asked {i : ι} {hint : Bytes} {sessionId : UInt32} {timestamp : UInt64}
      (hport : c.port = some ⟨i, hint, none⟩) :
      ChannelMove env dpapi socket platform c (.ask true sessionId timestamp) []
        { c with
          port := some ⟨i, hint, some sessionId⟩
          requests := c.requests ++ [sendRequest .getPassword hint sessionId timestamp] }
  | notAsked {i : ι} {sessionId : UInt32} {timestamp : UInt64} :
      ChannelMove env dpapi socket platform c (.ask false sessionId timestamp) [.failed i] c.close
  | served {k : Nat} {beyond : Bytes} {launches : Bool} {timestamp : UInt64}
      {packet : UdpAuthRequestPacket} {s : ServiceState R} {sent : List Sent}
      (hpacket : c.requests[k]? = some packet)
      (hstep : c.service.step env (.cpRequest packet beyond launches) = some (s, sent)) :
      ChannelMove env dpapi socket platform c (.serve k beyond launches timestamp) []
        { c with
          service := s
          requests := c.requests.eraseIdx k
          replies := c.replies ++ sent.filterMap (replyDatagram dpapi timestamp) }
  | internal {e : ServiceEvent R} {timestamp : UInt64} {s : ServiceState R} {sent : List Sent}
      (hrequest : e.request.map (·.requestType) ≠ some .getPassword)
      (hstep : c.service.step env e = some (s, sent)) :
      ChannelMove env dpapi socket platform c (.service e timestamp) []
        { c with
          service := s
          replies := c.replies ++ sent.filterMap (replyDatagram dpapi timestamp) }
  | lostRequest {k : Nat} : ChannelMove env dpapi socket platform c (.loseRequest k) []
      { c with requests := c.requests.eraseIdx k }
  | lostReply {k : Nat} : ChannelMove env dpapi socket platform c (.loseReply k) []
      { c with replies := c.replies.eraseIdx k }
  | foreign {datagram : Bytes} : ChannelMove env dpapi socket platform c (.foreign datagram) []
      { c with replies := c.replies ++ [datagram] }
  | delivered {k : Nat} {datagram : Bytes} (hreply : c.replies[k]? = some datagram) :
      ChannelMove env dpapi socket platform c (.deliver k) []
        { c with
          replies := c.replies.eraseIdx k
          received := if c.port.isSome then c.received ++ [datagram] else c.received }
  | obtained {i : ι} {hint : Bytes} {sessionId : UInt32} {datagram : Bytes} {password : Wide}
      (hport : c.port = some ⟨i, hint, some sessionId⟩) (hmem : datagram ∈ c.received)
      (hreply : (receiveReply dpapi socket sessionId datagram).bind platform.toWide =
        some password) :
      ChannelMove env dpapi socket platform c .receive [.obtained i hint sessionId password] c.close
  | rejected {i : ι} : ChannelMove env dpapi socket platform c .receive [.failed i] c.close
  | timedOut {i : ι} : ChannelMove env dpapi socket platform c .timeout [.failed i] c.close

theorem handle_eq {c c' : Channel ι R} {e : ServiceEvent R} {timestamp : UInt64}
    {out : List (ChannelOutput ι)} (h : c.handle env dpapi e timestamp = some (c', out)) :
    ∃ s sent, c.service.step env e = some (s, sent) ∧ out = [] ∧
      c' = { c with
        service := s
        replies := c.replies ++ sent.filterMap (replyDatagram dpapi timestamp) } := by
  obtain ⟨⟨s, sent⟩, hstep, heq⟩ := Option.map_eq_some_iff.mp h
  cases heq
  exact ⟨s, sent, hstep, rfl, rfl⟩

/-- The inversion of a step. -/
theorem move_of_takes (ht : (channel env dpapi socket platform).Takes t) :
    ChannelMove env dpapi socket platform t.before t.event t.sent t.after := by
  obtain ⟨c, e, out, c'⟩ := t
  have h : c.step env dpapi socket platform e = some (c', out) := ht
  dsimp only
  cases e with
  | bind i hint =>
      rw [Channel.step] at h
      split at h
      · cases h
        exact .refused
      · cases h
        exact .bound
  | ask sent sessionId timestamp =>
      rw [Channel.step] at h
      split at h
      · rename_i i hint hport
        cases sent with
        | true =>
            cases h
            exact .asked hport
        | false =>
            cases h
            exact .notAsked
      · cases h
  | serve k beyond launches timestamp =>
      rw [Channel.step] at h
      split at h
      · cases h
      · rename_i packet hpacket
        obtain ⟨s, sent, hstep, rfl, rfl⟩ := handle_eq h
        exact .served hpacket hstep
  | service e timestamp =>
      rw [Channel.step] at h
      split at h
      · cases h
      · rename_i hrequest
        obtain ⟨s, sent, hstep, rfl, rfl⟩ := handle_eq h
        exact .internal hrequest hstep
  | loseRequest k =>
      cases h
      exact .lostRequest
  | loseReply k =>
      cases h
      exact .lostReply
  | foreign datagram =>
      cases h
      exact .foreign
  | deliver k =>
      rw [Channel.step] at h
      split at h
      · cases h
      · rename_i datagram hreply
        cases h
        exact .delivered hreply
  | receive =>
      rw [Channel.step] at h
      split at h
      · rename_i i hint sessionId datagram rest hport hreceived
        split at h
        · rename_i password hpassword
          cases h
          refine .obtained hport ?_ hpassword
          rw [hreceived]
          exact List.mem_cons_self
        · cases h
          exact .rejected
      · cases h
  | timeout =>
      rw [Channel.step] at h
      split at h
      · cases h
        exact .timedOut
      · cases h

-- ============================================================================
-- The invariant
-- ============================================================================

/-- Where a datagram comes from: from elsewhere, or from the service, and with a password
    only for a request that it has handled. -/
def Accounted (env : Env R) (dpapi : Dpapi) (socket : DatagramSocket) (tr : List (ChannelStep ι R))
    (datagram : Bytes) : Prop :=
  Harmless dpapi socket datagram ∨
    ∃ sessionId username password success timestamp,
      PasswordSender.sendPassword dpapi true sessionId username password success timestamp =
        some datagram ∧
      (success = true → ∃ i hint, AnsweredFor env tr i hint sessionId password)

/-- Requests come from tiles, datagrams are accounted for, and the owner of the port has
    asked in its session. -/
structure Traced (env : Env R) (dpapi : Dpapi) (socket : DatagramSocket)
    (tr : List (ChannelStep ι R)) (c : Channel ι R) : Prop where
  requests : ∀ packet ∈ c.requests, ∃ i hint sessionId timestamp,
    packet = sendRequest .getPassword hint sessionId timestamp ∧
      ∃ u ∈ tr, Asks i hint sessionId u
  replies : ∀ datagram ∈ c.replies, Accounted env dpapi socket tr datagram
  received : ∀ datagram ∈ c.received, Accounted env dpapi socket tr datagram
  port : ∀ i hint sessionId, c.port = some ⟨i, hint, some sessionId⟩ →
    ∃ u ∈ tr, Asks i hint sessionId u

omit [LinearOrder R] [Zero R] in
theorem AnsweredFor.snoc {i : ι} {hint password : Bytes} {sessionId : UInt32}
    (h : AnsweredFor env tr i hint sessionId password) (t : ChannelStep ι R) :
    AnsweredFor env (tr ++ [t]) i hint sessionId password := by
  obtain ⟨pre, ask, post, rfl, hask, u, hu, hreleases⟩ := h
  refine ⟨pre, ask, post ++ [t], by simp, hask, u, ?_, hreleases⟩
  exact List.mem_append_left _ hu

omit [LinearOrder R] [Zero R] in
theorem Accounted.snoc {datagram : Bytes} (h : Accounted env dpapi socket tr datagram)
    (t : ChannelStep ι R) : Accounted env dpapi socket (tr ++ [t]) datagram := by
  rcases h with hharmless | ⟨sessionId, username, password, success, timestamp, hsend, hanswer⟩
  · exact Or.inl hharmless
  · refine Or.inr ⟨sessionId, username, password, success, timestamp, hsend, fun hsuccess => ?_⟩
    obtain ⟨i, hint, hanswered⟩ := hanswer hsuccess
    exact ⟨i, hint, hanswered.snoc t⟩

omit [LinearOrder R] [Zero R] in
/-- A step that follows an ask, and releases what was asked for. -/
theorem answeredFor_of_releases {i : ι} {hint password : Bytes} {sessionId : UInt32}
    {u : ChannelStep ι R} (hu : u ∈ tr) (hasks : Asks i hint sessionId u)
    (hreleases : Releases env ((cString hint).take 63) sessionId password t) :
    AnsweredFor env (tr ++ [t]) i hint sessionId password := by
  obtain ⟨pre, post, rfl⟩ := List.append_of_mem hu
  refine ⟨pre, u, post ++ [t], by simp, hasks, t, ?_, hreleases⟩
  exact List.mem_append_right _ (List.mem_singleton_self t)

/-- What the service sends for a request that is on its way. -/
theorem accounted_of_served {k : Nat} {beyond : Bytes} {launches : Bool} {timestamp : UInt64}
    {packet : UdpAuthRequestPacket} {s : ServiceState R} {sent : List Sent} {datagram : Bytes}
    (htraced : Traced env dpapi socket tr t.before)
    (hevent : t.event = .serve k beyond launches timestamp)
    (hpacket : t.before.requests[k]? = some packet)
    (hstep : t.before.service.step env (.cpRequest packet beyond launches) = some (s, sent))
    (hmem : datagram ∈ sent.filterMap (replyDatagram dpapi timestamp)) :
    Accounted env dpapi socket (tr ++ [t]) datagram := by
  obtain ⟨m, hm, hdatagram⟩ := List.mem_filterMap.mp hmem
  cases m with
  | status => cases hdatagram
  | password sessionId username password success =>
      obtain ⟨r, hr, -, hanswer⟩ := request_of_password
        (t := ⟨t.before.service, .cpRequest packet beyond launches, sent, s⟩) hstep hm
      obtain ⟨i, hint, asked, stamp, rfl, u, hu, hasks⟩ :=
        htraced.requests packet (List.mem_of_getElem? hpacket)
      have hreceive := authRequestReceiver_sendRequest .getPassword hint beyond asked stamp
      have hr' : r = ⟨.getPassword, (cString hint).take 63, asked⟩ :=
        Option.some.inj (hr.symm.trans hreceive)
      subst hr'
      obtain ⟨rfl, hfound⟩ := answer_of_cpGetPassword hanswer
      refine Or.inr ⟨sessionId, username, password, success, timestamp, hdatagram,
        fun hsuccess => ⟨i, hint, answeredFor_of_releases hu hasks ⟨?_, hfound hsuccess⟩⟩⟩
      exact ⟨k, beyond, launches, timestamp, _, hevent, hpacket, hreceive⟩

/-- Nothing else that the service does sends a password. -/
theorem filterMap_of_internal {e : ServiceEvent R} {timestamp : UInt64} {s s' : ServiceState R}
    {sent : List Sent} (hrequest : e.request.map (·.requestType) ≠ some .getPassword)
    (hstep : s.step env e = some (s', sent)) :
    sent.filterMap (replyDatagram dpapi timestamp) = [] := by
  refine List.filterMap_eq_nil_iff.mpr fun m hm => ?_
  cases m with
  | status => rfl
  | password sessionId username password success =>
      obtain ⟨r, hr, htype, -⟩ := request_of_password (t := ⟨s, e, sent, s'⟩) hstep hm
      have hr' : e.request = some r := hr
      rw [hr', Option.map_some, htype] at hrequest
      exact absurd rfl hrequest

theorem traced_of_takes (htraced : Traced env dpapi socket tr t.before)
    (ht : (channel env dpapi socket platform).Takes t)
    (hforgery : NoForgery dpapi socket tr t) : Traced env dpapi socket (tr ++ [t]) t.after := by
  have hrequests : ∀ packet ∈ t.before.requests, ∃ i hint sessionId timestamp,
      packet = sendRequest .getPassword hint sessionId timestamp ∧
        ∃ u ∈ tr ++ [t], Asks i hint sessionId u := by
    intro packet hpacket
    obtain ⟨i, hint, sessionId, timestamp, heq, u, hu, hasks⟩ := htraced.requests packet hpacket
    exact ⟨i, hint, sessionId, timestamp, heq, u, List.mem_append_left _ hu, hasks⟩
  have hreplies : ∀ datagram ∈ t.before.replies, Accounted env dpapi socket (tr ++ [t]) datagram :=
    fun datagram hmem => (htraced.replies datagram hmem).snoc t
  have hreceived : ∀ datagram ∈ t.before.received,
      Accounted env dpapi socket (tr ++ [t]) datagram :=
    fun datagram hmem => (htraced.received datagram hmem).snoc t
  have hport : ∀ i hint sessionId, t.before.port = some ⟨i, hint, some sessionId⟩ →
      ∃ u ∈ tr ++ [t], Asks i hint sessionId u := by
    intro i hint sessionId hat
    obtain ⟨u, hu, hasks⟩ := htraced.port i hint sessionId hat
    exact ⟨u, List.mem_append_left _ hu, hasks⟩
  have herase : ∀ {α : Type} {l : List α} {k : Nat} {x : α}, x ∈ l.eraseIdx k → x ∈ l :=
    fun h => (List.eraseIdx_sublist ..).mem h
  obtain ⟨c, e, out, c'⟩ := t
  have hmove : ChannelMove env dpapi socket platform c e out c' := move_of_takes ht
  cases hmove with
  | refused => exact ⟨hrequests, hreplies, hreceived, hport⟩
  | bound =>
      refine ⟨hrequests, hreplies, List.forall_mem_nil _, ?_⟩
      intro i hint sessionId hat
      cases hat
  | asked hat =>
      refine ⟨?_, hreplies, hreceived, ?_⟩
      · intro packet hpacket
        rcases List.mem_append.mp hpacket with hold | hnew
        · exact hrequests packet hold
        · obtain rfl := List.mem_singleton.mp hnew
          exact ⟨_, _, _, _, rfl, _, List.mem_append_right _ (List.mem_singleton_self _), ⟨_, rfl⟩,
            hat⟩
      · intro i hint sessionId hnew
        cases hnew
        exact ⟨_, List.mem_append_right _ (List.mem_singleton_self _), ⟨_, rfl⟩, hat⟩
  | notAsked | obtained | rejected | timedOut =>
      refine ⟨hrequests, hreplies, List.forall_mem_nil _, ?_⟩
      intro i hint sessionId hat
      cases hat
  | served hpacket hstep =>
      refine ⟨fun packet hmem => hrequests packet (herase hmem), ?_, hreceived, hport⟩
      intro datagram hmem
      rcases List.mem_append.mp hmem with hold | hnew
      · exact hreplies datagram hold
      · exact accounted_of_served htraced rfl hpacket hstep hnew
  | internal hrequest hstep =>
      refine ⟨hrequests, ?_, hreceived, hport⟩
      intro datagram hmem
      rcases List.mem_append.mp hmem with hold | hnew
      · exact hreplies datagram hold
      · rw [filterMap_of_internal hrequest hstep] at hnew
        cases hnew
  | lostRequest =>
      exact ⟨fun packet hmem => hrequests packet (herase hmem), hreplies, hreceived, hport⟩
  | lostReply =>
      exact ⟨hrequests, fun datagram hmem => hreplies datagram (herase hmem), hreceived, hport⟩
  | foreign =>
      refine ⟨hrequests, ?_, hreceived, hport⟩
      intro datagram hmem
      rcases List.mem_append.mp hmem with hold | hnew
      · exact hreplies datagram hold
      · obtain rfl := List.mem_singleton.mp hnew
        exact Or.inl (hforgery _ rfl)
  | delivered hreply =>
      refine ⟨hrequests, fun datagram hmem => hreplies datagram (herase hmem), ?_, hport⟩
      intro datagram hmem
      dsimp only at hmem
      split at hmem
      · rcases List.mem_append.mp hmem with hold | hnew
        · exact hreceived datagram hold
        · obtain rfl := List.mem_singleton.mp hnew
          exact hreplies _ (List.mem_of_getElem? hreply)
      · exact hreceived datagram hmem

omit [LinearOrder R] [Zero R] in
/-- One session has one ask. -/
theorem asks_unique (hdistinct : Always SessionsDistinct tr) {u v : ChannelStep ι R}
    (hu : u ∈ tr) (hv : v ∈ tr) {i j : ι} {hint hint' : Bytes} {sessionId : UInt32}
    (hi : Asks i hint sessionId u) (hj : Asks j hint' sessionId v) : i = j ∧ hint = hint' := by
  induction tr using List.reverseRecOn with
  | nil => cases hu
  | append_singleton tr t ih =>
      obtain ⟨hpre, hlast⟩ := always_snoc.mp hdistinct
      rcases List.mem_append.mp hu with hu' | hu' <;> rcases List.mem_append.mp hv with hv' | hv'
      · exact ih hpre hu' hv'
      · obtain rfl := List.mem_singleton.mp hv'
        exact absurd hi (hlast j hint' sessionId hj u hu' i hint)
      · obtain rfl := List.mem_singleton.mp hu'
        exact absurd hj (hlast i hint sessionId hi v hv' j hint')
      · obtain rfl := List.mem_singleton.mp hu'
        obtain rfl := List.mem_singleton.mp hv'
        have h := hi.2.symm.trans hj.2
        cases h
        exact ⟨rfl, rfl⟩

/-- What a tile obtains from an accounted datagram is an answer in its session. -/
theorem ownPassword_of_traced (hdpapi : dpapi.Documented) (hsocket : socket.Documented)
    (hdistinct : Always SessionsDistinct tr) (htraced : Traced env dpapi socket tr t.before)
    (ht : (channel env dpapi socket platform).Takes t) : OwnPassword env platform tr t := by
  intro i hint sessionId password hobtained
  obtain ⟨c, e, out, c'⟩ := t
  have hmove : ChannelMove env dpapi socket platform c e out c' := move_of_takes ht
  cases hmove with
  | obtained hport hmem hreply =>
      obtain hsame := List.mem_singleton.mp hobtained
      cases hsame
      obtain ⟨plain, hplain, hwide⟩ := Option.bind_eq_some_iff.mp hreply
      rcases htraced.received _ hmem with hharmless | ⟨sid, name, pw, success, stamp, hsend, hanswer⟩
      · rw [hharmless sessionId] at hplain
        cases hplain
      · obtain ⟨rfl, hsuccess, -, rfl, -⟩ :=
          (receiveReply_sendPassword_iff hdpapi hsocket).mp ⟨_, hsend, hplain⟩
        obtain ⟨j, hint', hanswered⟩ := hanswer hsuccess
        obtain ⟨u, hu, hasks⟩ := htraced.port i hint sid hport
        have hanswered' := hanswered
        obtain ⟨pre, ask, post, rfl, hask, -⟩ := hanswered'
        obtain ⟨rfl, rfl⟩ := asks_unique hdistinct hu
          (List.mem_append_right _ List.mem_cons_self) hasks hask
        exact ⟨pw, hanswered, hwide⟩
  | refused | notAsked | rejected | timedOut => simp at hobtained
  | _ => cases hobtained

end Steps

-- ============================================================================
-- One exchange
-- ============================================================================

section Exchange

variable {ι R : Type} [LinearOrder R] [Zero R] {env : Env R} {dpapi : Dpapi}
  {socket : DatagramSocket} {platform : Platform}

/-- The tile gets `password` from a reply to its request. -/
def Obtains (env : Env R) (dpapi : Dpapi) (socket : DatagramSocket) (platform : Platform)
    (fr : FaceRecognition R) (hint : Bytes) (sessionId : UInt32) (timestamp : UInt64)
    (password : Wide) : Prop :=
  ∃ answer ∈ fr.cpGetPassword env hint sessionId, ∃ datagram,
    replyDatagram dpapi timestamp answer = some datagram ∧
      (receiveReply dpapi socket sessionId datagram).bind platform.toWide = some password

omit [LinearOrder R] [Zero R] in
/-- The stored password of the user is obtained exactly when it can be decrypted, when DPAPI
    protects it in at most 512 bytes, and when it converts to UTF-16. -/
theorem obtains_iff (hdpapi : dpapi.Documented) (hsocket : socket.Documented)
    (fr : FaceRecognition R) (hint : Bytes) (sessionId : UInt32) (timestamp : UInt64)
    (password : Wide) :
    Obtains env dpapi socket platform fr hint sessionId timestamp password ↔
      fr.udpPasswordSender = true ∧ ∃ db user, fr.database = some db ∧
        db.getUserByUsername hint = some user ∧
        env.decryptPassword user.encryptedPassword ≠ [] ∧
        platform.toWide (dataBlob (env.decryptPassword user.encryptedPassword)) = some password ∧
        ∃ blob, dpapi.cryptProtectData (dataBlob (env.decryptPassword user.encryptedPassword)) =
          some blob ∧ blob.length ≤ maxProtectedPassword := by
  constructor
  · rintro ⟨answer, hmem, datagram, hdatagram, hreply⟩
    obtain ⟨plain, hplain, hwide⟩ := Option.bind_eq_some_iff.mp hreply
    cases answer with
    | status => cases hdatagram
    | password sessionId' username stored success =>
        obtain ⟨-, hsuccess, -, rfl, hblob⟩ :=
          (receiveReply_sendPassword_iff hdpapi hsocket).mp ⟨datagram, hdatagram, hplain⟩
        obtain ⟨-, hfound⟩ := answer_of_cpGetPassword hmem
        obtain ⟨db, user, hdb, huser, rfl, hne⟩ := hfound hsuccess
        refine ⟨?_, db, user, hdb, huser, hne, hwide, hblob⟩
        by_contra hsender
        rw [FaceRecognition.cpGetPassword, Bool.eq_false_iff.mpr hsender] at hmem
        cases hmem
  · rintro ⟨hsender, db, user, hdb, huser, hne, hwide, hblob⟩
    have hanswer : .password sessionId user.username (env.decryptPassword user.encryptedPassword)
        true ∈ fr.cpGetPassword env hint sessionId := by
      rw [FaceRecognition.cpGetPassword, hsender, hdb]
      dsimp only
      rw [huser]
      simp [hne]
    obtain ⟨datagram, hdatagram, hreply⟩ : ∃ datagram, PasswordSender.sendPassword dpapi true
        sessionId user.username (env.decryptPassword user.encryptedPassword) true timestamp =
          some datagram ∧ receiveReply dpapi socket sessionId datagram = some _ :=
      (receiveReply_sendPassword_iff hdpapi hsocket).mpr ⟨rfl, rfl, hne, rfl, hblob⟩
    exact ⟨_, hanswer, datagram, hdatagram, by rw [hreply, Option.bind_some, hwide]⟩

end Exchange

-- ============================================================================
-- A run
-- ============================================================================

/-- A DPAPI that puts one byte in front. -/
def exampleDpapi : Dpapi where
  cryptProtectData data := some (1 :: data)
  cryptUnprotectData blob := some blob.tail

theorem exampleDpapi_documented : exampleDpapi.Documented where
  unprotect := by
    rintro data blob h
    cases h
    rfl
  nonempty := by
    intro data h
    cases h

def exampleChannel : Channel Unit Nat where
  service := exampleStart
  requests := []
  replies := []
  port := none
  received := []

theorem sessionsDistinct_of_not_ask {ι R : Type} {pre : List (ChannelStep ι R)}
    {t : ChannelStep ι R} (h : ∀ sessionId timestamp, t.event ≠ .ask true sessionId timestamp) :
    SessionsDistinct pre t := by
  rintro i hint sessionId ⟨⟨timestamp, hevent⟩, -⟩
  exact absurd hevent (h sessionId timestamp)

/-- The service answers the tile that asks for the password of "b". -/
theorem obtains_example : Obtains FaceRecognition.exampleEnv exampleDpapi winsock examplePlatform
    exampleStart.fr (utf8 "b") 7 0 (exampleWide "pb") :=
  (obtains_iff exampleDpapi_documented winsock_documented _ _ _ _ _).mpr
    ⟨rfl, FaceRecognition.exampleDatabase,
      FaceRecognition.exampleDatabase.toUser
        ⟨2, bindText (utf8 "b"), some (bindText (utf8 "pb")), none⟩,
      rfl, rfl, by decide, by decide, _, rfl, by decide⟩

/-- A reply with the password "pb", in session 7. -/
theorem exampleReply : ∃ datagram,
    PasswordSender.sendPassword exampleDpapi true 7 (utf8 "b") (utf8 "pb") true 0 = some datagram ∧
      receiveReply exampleDpapi winsock 7 datagram = some (utf8 "pb") :=
  (receiveReply_sendPassword_iff exampleDpapi_documented winsock_documented).mpr
    ⟨rfl, rfl, by decide, rfl, _, rfl, by decide⟩

end Smile2Unlock.SignIn
