/-
  Smile2Unlock.GuiIpc.Server

  `GuiIpcServer::handle_client` (backend/managers/ipc/gui_ipc_server.h): the requests of
  one connection, each read and answered in turn until a read fails.

  `served_eq` says what the connection carries when the handler returns: one response for
  each request, in their order.  `reports_iff` says for which requests `GuiIpcClient`
  reports that response unchanged.  A refused magic number or version is answered in a new
  response, whose id is 0.
-/

import Smile2Unlock.GuiIpc.Responses
import Smile2Unlock.GuiIpc.Client
import Smile2Unlock.Lib.Loop

namespace Smile2Unlock.GuiIpc

open Smile2Unlock Lib

/-- A request record that was read in full, what lies in memory behind it, and what
    Windows and the backend do while it is handled. -/
structure Arrival (F : Type) where
  request : GuiIpcRequest
  beyond : Bytes
  io : Handler.MappingIo
  backend : Option (Backend F)

/-- One pass through the loop of `handle_client`. -/
inductive ClientRead (F : Type) where
  | stopped
  | failed
  | record (arrival : Arrival F)

/-- The connection when `handle_client` has ended: what was sent, and the exception that
    ended it, if one did. -/
structure Disconnected where
  sent : List GuiIpcResponse
  thrown : Option StdException

/-- A server with its registered handler, if there is one. -/
structure GuiIpcServer (F : Type) where
  ft : FloatText F
  handlerRegistered : Bool

namespace GuiIpcServer

variable {F : Type} (server : GuiIpcServer F)

/-- The response that `handle_client` sends for a request, or what the handler throws. -/
def answer (arrival : Arrival F) : Except StdException GuiIpcResponse :=
  if arrival.request.magic ≠ guiIpcMagic then
    .ok (GuiIpcResponse.cleared.setError (utf8 "Invalid magic number"))
  else if arrival.request.version ≠ guiIpcVersion then
    .ok (GuiIpcResponse.cleared.setError (utf8 "Version mismatch"))
  else if server.handlerRegistered then
    (Handler.handle server.ft arrival.io arrival.backend arrival.request arrival.beyond).result
  else .ok ((Handler.opened arrival.request).setError (utf8 "No handler registered"))

/-- The body of the loop; `sent` is what the client has been sent. -/
def handleClientPass (sent : List GuiIpcResponse) :
    ClientRead F → ControlFlow (List GuiIpcResponse) Disconnected
  | .stopped | .failed => .exit ⟨sent, none⟩
  | .record arrival =>
      match server.answer arrival with
      | .ok response => .next (sent ++ [response])
      | .error e => .exit ⟨sent, some e⟩

/-- `handle_client` on the reads of a connection so far. -/
def handleClient (reads : List (ClientRead F)) : ControlFlow (List GuiIpcResponse) Disconnected :=
  loop server.handleClientPass [] reads

/-- What the client has been sent. -/
def sentOf : ControlFlow (List GuiIpcResponse) Disconnected → List GuiIpcResponse
  | .next sent => sent
  | .exit connection => connection.sent

def served (reads : List (ClientRead F)) : List GuiIpcResponse := sentOf (server.handleClient reads)

/-- The requests that are read in full before the loop is left. -/
def requestsRead : List (ClientRead F) → List (Arrival F)
  | .record arrival :: rest => arrival :: requestsRead rest
  | _ => []

/-- The handler returns, if it is called. -/
def Returns (arrival : Arrival F) : Prop := ∃ response, server.answer arrival = .ok response

-- ============================================================================
-- One response for each request
-- ============================================================================

/-- What a connection carries after the responses it carried before. -/
theorem sentOf_loop {reads : List (ClientRead F)}
    (h : ∀ arrival ∈ requestsRead reads, server.Returns arrival) (sent : List GuiIpcResponse) :
    ∃ responses, sentOf (loop server.handleClientPass sent reads) = sent ++ responses ∧
      List.Forall₂ (fun arrival response => server.answer arrival = .ok response)
        (requestsRead reads) responses := by
  induction reads generalizing sent with
  | nil => exact ⟨[], (List.append_nil _).symm, .nil⟩
  | cons read rest ih =>
      cases read with
      | stopped | failed => exact ⟨[], (List.append_nil _).symm, .nil⟩
      | record arrival =>
          obtain ⟨⟨response, hanswer⟩, hrest⟩ := List.forall_mem_cons.mp h
          have hpass : server.handleClientPass sent (.record arrival) = .next (sent ++ [response]) := by
            rw [handleClientPass, hanswer]
          obtain ⟨responses, hsent, hresponses⟩ := ih hrest (sent ++ [response])
          refine ⟨response :: responses, ?_, .cons hanswer hresponses⟩
          rw [loop_cons_next hpass, hsent, List.append_assoc]
          rfl

/-- Each request is answered with one response, in the order of the requests. -/
theorem served_answers {reads : List (ClientRead F)}
    (h : ∀ arrival ∈ requestsRead reads, server.Returns arrival) :
    List.Forall₂ (fun arrival response => server.answer arrival = .ok response)
      (requestsRead reads) (server.served reads) := by
  obtain ⟨responses, hsent, hresponses⟩ := server.sentOf_loop h []
  rw [served, handleClient, hsent]
  exact hresponses

-- ============================================================================
-- What the client makes of it
-- ============================================================================

/-- The request passes the checks of `handle_client`. -/
def Checked (request : GuiIpcRequest) : Prop :=
  request.magic = guiIpcMagic ∧ request.version = guiIpcVersion

/-- Every response has the magic number. -/
theorem answer_magic {arrival : Arrival F} {response : GuiIpcResponse}
    (h : server.answer arrival = .ok response) : response.magic = guiIpcMagic := by
  have hkept : Kept (·.magic = guiIpcMagic) := ⟨fun _ _ _ h => h, fun _ h => h⟩
  unfold answer at h
  split at h
  · exact Except.ok.inj h ▸ rfl
  · split at h
    · exact Except.ok.inj h ▸ rfl
    · split at h
      · exact Handler.all_handle hkept server.ft _ _ _ _ rfl h
      · exact Except.ok.inj h ▸ rfl

/-- The response has the id of a request that passes the checks; otherwise its id is 0. -/
theorem answer_requestId {arrival : Arrival F} {response : GuiIpcResponse}
    (h : server.answer arrival = .ok response) :
    (Checked arrival.request ∧ response.requestId = arrival.request.requestId) ∨
      (¬ Checked arrival.request ∧ response.requestId = 0) := by
  have hkept : Kept (·.requestId = arrival.request.requestId) := ⟨fun _ _ _ h => h, fun _ h => h⟩
  rw [answer] at h
  by_cases hmagic : arrival.request.magic = guiIpcMagic
  · rw [if_neg (not_not_intro hmagic)] at h
    by_cases hversion : arrival.request.version = guiIpcVersion
    · rw [if_neg (not_not_intro hversion)] at h
      refine Or.inl ⟨⟨hmagic, hversion⟩, ?_⟩
      split at h
      · exact Handler.all_handle hkept server.ft _ _ _ _ rfl h
      · exact Except.ok.inj h ▸ rfl
    · rw [if_pos hversion] at h
      exact Or.inr ⟨fun hchecked => hversion hchecked.2, Except.ok.inj h ▸ rfl⟩
  · rw [if_pos hmagic] at h
    exact Or.inr ⟨fun hchecked => hmagic hchecked.1, Except.ok.inj h ▸ rfl⟩

/-- The response has the request's id, and `GuiIpcClient::send_request`, when it has sent a
    request with this id and the response arrives, reports its status and text. -/
def Reports (request : GuiIpcRequest) (response : GuiIpcResponse) : Prop :=
  response.requestId = request.requestId ∧
    ∀ (io : PipeIo) (client : GuiIpcClient) (cmd : GuiIpcCommand) (payload : Bytes),
      client.pipeOpen = true → client.requestIdCounter + 1 = request.requestId →
      (∀ sent, io.pipe sent = .reply response.toBytes response.length_toBytes.le) →
      (GuiIpcClient.sendRequest io.clientIo client cmd payload).ok =
          decide (response.status = GuiIpcStatus.success.code) ∧
        (GuiIpcClient.sendRequest io.clientIo client cmd payload).response = response

theorem reports_of_requestId {request : GuiIpcRequest} {response : GuiIpcResponse}
    (hmagic : response.magic = guiIpcMagic) (hid : response.requestId = request.requestId) :
    Reports request response := by
  refine ⟨hid, ?_⟩
  intro io client cmd payload hopen hcounter hreply
  have hread : io.clientIo.exchange (RemoteBackendService.record (client.requestIdCounter + 1)
      io.clientIo.now cmd payload) = .read sizeofGuiIpcResponse response :=
    PipeBytes.outcome_read.mpr ⟨response.toBytes, response.length_toBytes.le, hreply _,
      response.length_toBytes, GuiIpcResponse.received_toBytes _ _⟩
  rw [GuiIpcClient.sendRequest_own hopen hread hmagic (hid.trans hcounter.symm)]
  exact ⟨rfl, rfl⟩

/-- A response is reported exactly if the request passed the checks or has the id 0, with
    which a refusal is sent. -/
theorem reports_answer {arrival : Arrival F} {response : GuiIpcResponse}
    (h : server.answer arrival = .ok response) :
    Reports arrival.request response ↔
      Checked arrival.request ∨ arrival.request.requestId = 0 := by
  have hmagic := server.answer_magic h
  rcases server.answer_requestId h with ⟨hchecked, hid⟩ | ⟨hrefused, hid⟩
  · exact iff_of_true (reports_of_requestId hmagic hid) (Or.inl hchecked)
  · constructor
    · intro hreports
      exact Or.inr (hreports.1.symm.trans hid)
    · rintro (hchecked | hzero)
      · exact absurd hchecked hrefused
      · exact reports_of_requestId hmagic (hid.trans hzero.symm)

/-- What decides about each pair of two lists decides about the lists. -/
theorem forall₂_iff {α β : Type} {P Q : α → β → Prop} {C : α → Prop} {as : List α} {bs : List β}
    (hpairs : List.Forall₂ P as bs) (h : ∀ {a b}, P a b → (Q a b ↔ C a)) :
    List.Forall₂ Q as bs ↔ ∀ a ∈ as, C a := by
  induction hpairs with
  | nil => exact iff_of_true .nil (List.forall_mem_nil _)
  | cons hpair _ ih => rw [List.forall₂_cons, List.forall_mem_cons, h hpair, ih]

/-- Every request of a connection gets one response, and the client reports it, exactly if
    every request passed the checks or has the id 0. -/
theorem reports_iff {reads : List (ClientRead F)}
    (h : ∀ arrival ∈ requestsRead reads, server.Returns arrival) :
    List.Forall₂ (fun arrival response => Reports arrival.request response)
        (requestsRead reads) (server.served reads) ↔
      ∀ arrival ∈ requestsRead reads,
        Checked arrival.request ∨ arrival.request.requestId = 0 :=
  forall₂_iff (server.served_answers h) server.reports_answer

/-- A service without a backend, and a request with this id and version. -/
def exampleServer : GuiIpcServer Bool := ⟨exampleFloats, true⟩

def exampleArrival (requestId version : Int32) : Arrival Bool where
  request := { GuiIpcRequest.cleared with requestId := requestId, version := version }
  beyond := []
  io := ⟨true, true, true, 0, 0⟩
  backend := none

/-- A request that passes the checks, and one of another version with the id 0. -/
theorem reports_iff_two :
    List.Forall₂ (fun arrival response => Reports arrival.request response)
      (requestsRead [.record (exampleArrival 1 guiIpcVersion), .record (exampleArrival 0 2)])
      (exampleServer.served
        [.record (exampleArrival 1 guiIpcVersion), .record (exampleArrival 0 2)]) := by
  refine (exampleServer.reports_iff ?_).mpr ?_
  · rintro arrival harrival
    rcases List.mem_pair.mp harrival with rfl | rfl
    · exact ⟨_, rfl⟩
    · exact ⟨_, rfl⟩
  · rintro arrival harrival
    rcases List.mem_pair.mp harrival with rfl | rfl
    · exact Or.inl ⟨rfl, rfl⟩
    · exact Or.inr rfl

/-- A request of another version is refused under the id 0. -/
theorem reports_fails :
    ¬ ∀ (F : Type) (server : GuiIpcServer F) (reads : List (ClientRead F)),
      (∀ arrival ∈ requestsRead reads, server.Returns arrival) →
      List.Forall₂ (fun arrival response => Reports arrival.request response)
        (requestsRead reads) (server.served reads) := by
  intro h
  have hreports := h Bool exampleServer [.record (exampleArrival 1 2)] (by
    intro arrival harrival
    obtain rfl := List.mem_singleton.mp harrival
    exact ⟨_, rfl⟩)
  obtain ⟨⟨hid, -⟩, -⟩ := List.forall₂_cons.mp hreports
  exact absurd hid (by decide)

end GuiIpcServer

/-- The service of a pipe whose handler is registered. -/
theorem PipeService.handled_result {F : Type} (service : PipeService F) (request : GuiIpcRequest) :
    (service.handled request).result = GuiIpcServer.answer ⟨service.ft, true⟩
      ⟨request, service.beyond, service.io, some service.backend⟩ := by
  rw [handled, GuiIpcServer.answer]
  split
  · rfl
  · split
    · rfl
    · rfl

end Smile2Unlock.GuiIpc
