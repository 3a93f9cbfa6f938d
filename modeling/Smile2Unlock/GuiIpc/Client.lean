/-
  Smile2Unlock.GuiIpc.Client

  The two clients of the pipe: `GuiIpcClient` (backend/managers/ipc/gui_ipc_client.h) and
  `RemoteBackendService` (backend/remote_backend_service.h), on the bytes of a reply.

  Both build the same request and read the reply into a new response.  `GuiIpcClient` then
  looks at the number of bytes, the magic number and the id; `RemoteBackendService` only at
  the status, which a new response already has (`GuiIpcResponse.status_received`).
  `acceptsAlike_iff` says on which replies this makes no difference.
-/

import Smile2Unlock.GuiIpc.Remote
import Smile2Unlock.GuiIpc.Wire

namespace Smile2Unlock.GuiIpc

open Smile2Unlock

-- ============================================================================
-- GuiIpcClient
-- ============================================================================

/-- The fields of `class GuiIpcClient`. -/
structure GuiIpcClient where
  pipeOpen : Bool
  requestIdCounter : Int32

namespace GuiIpcClient

/-- The result of `send_request`, the response record and the object after it. -/
structure Exchanged where
  ok : Bool
  response : GuiIpcResponse
  client : GuiIpcClient

/-- `disconnect`. -/
def disconnect (client : GuiIpcClient) : GuiIpcClient := { client with pipeOpen := false }

/-- What `send_request` makes of a complete response to the request with this id. -/
def validate (requestId : Int32) (response : GuiIpcResponse) : Bool × GuiIpcResponse :=
  if response.magic ≠ guiIpcMagic then
    (false, response.setError (utf8 "Invalid response magic"))
  else if response.requestId ≠ requestId then
    (false, response.setError (utf8 "Request ID mismatch"))
  else (response.status = GuiIpcStatus.success.code, response)

/-- `send_request`, with a new response record. -/
def sendRequest (io : ClientIo) (client : GuiIpcClient) (cmd : GuiIpcCommand) (payload : Bytes) :
    Exchanged :=
  if client.pipeOpen = false then
    ⟨false, GuiIpcResponse.cleared.setError (utf8 "Not connected"), client⟩
  else
    let client' := { client with requestIdCounter := client.requestIdCounter + 1 }
    -- both clients fill in the request alike
    let request := RemoteBackendService.record client'.requestIdCounter io.now cmd payload
    match io.exchange request with
    | .writeFailed =>
        ⟨false, GuiIpcResponse.cleared.setError (utf8 "Write failed"), client'.disconnect⟩
    | .readFailed =>
        ⟨false, GuiIpcResponse.cleared.setError (utf8 "Read failed"), client'.disconnect⟩
    | .read bytesRead response =>
        if bytesRead ≠ sizeofGuiIpcResponse then
          ⟨false, response.setError (utf8 "Read failed"), client'.disconnect⟩
        else
          let validated := validate request.requestId response
          ⟨validated.1, validated.2, client'⟩

theorem validate_ok {requestId : Int32} {response : GuiIpcResponse} :
    (validate requestId response).1 = true ↔ response.magic = guiIpcMagic ∧
      response.requestId = requestId ∧ response.status = GuiIpcStatus.success.code := by
  rw [validate]
  by_cases hmagic : response.magic = guiIpcMagic
  · rw [if_neg (not_not_intro hmagic)]
    by_cases hid : response.requestId = requestId
    · rw [if_neg (not_not_intro hid)]
      exact ⟨fun h => ⟨hmagic, hid, of_decide_eq_true h⟩, fun h => decide_eq_true h.2.2⟩
    · rw [if_pos hid]
      exact iff_of_false Bool.false_ne_true fun h => hid h.2.1
  · rw [if_pos hmagic]
    exact iff_of_false Bool.false_ne_true fun h => hmagic h.1

/-- A connected client accepts a complete response to its request that says SUCCESS. -/
theorem sendRequest_ok_iff {io : ClientIo} {client : GuiIpcClient} {cmd : GuiIpcCommand}
    {payload : Bytes} :
    (sendRequest io client cmd payload).ok = true ↔ client.pipeOpen = true ∧
      ∃ response, io.exchange (RemoteBackendService.record (client.requestIdCounter + 1) io.now cmd
          payload) = .read sizeofGuiIpcResponse response ∧
        response.magic = guiIpcMagic ∧ response.requestId = client.requestIdCounter + 1 ∧
        response.status = GuiIpcStatus.success.code := by
  rw [sendRequest]
  by_cases hopen : client.pipeOpen = true
  · rw [if_neg (by rw [hopen]; exact Bool.noConfusion)]
    dsimp only
    cases io.exchange (RemoteBackendService.record (client.requestIdCounter + 1) io.now cmd
      payload) with
    | writeFailed | readFailed =>
        refine iff_of_false Bool.false_ne_true ?_
        rintro ⟨-, response, hread, -⟩
        cases hread
    | read bytesRead response =>
        dsimp only
        by_cases hsize : bytesRead = sizeofGuiIpcResponse
        · rw [if_neg (not_not_intro hsize), validate_ok, hsize]
          constructor
          · intro hvalid
            exact ⟨hopen, response, rfl, hvalid⟩
          · rintro ⟨-, response', hread, hvalid⟩
            obtain ⟨-, rfl⟩ := PipeOutcome.read.inj hread
            exact hvalid
        · rw [if_pos hsize]
          refine iff_of_false Bool.false_ne_true ?_
          rintro ⟨-, response', hread, -⟩
          exact hsize (PipeOutcome.read.inj hread).1
  · rw [if_pos (Bool.not_eq_true _ ▸ hopen)]
    exact iff_of_false Bool.false_ne_true fun h => hopen h.1

/-- The complete response to its request, with the magic number, is reported as it is. -/
theorem sendRequest_own {io : ClientIo} {client : GuiIpcClient} {cmd : GuiIpcCommand}
    {payload : Bytes} {response : GuiIpcResponse} (hopen : client.pipeOpen = true)
    (hread : io.exchange (RemoteBackendService.record (client.requestIdCounter + 1) io.now cmd
      payload) = .read sizeofGuiIpcResponse response)
    (hmagic : response.magic = guiIpcMagic)
    (hid : response.requestId = client.requestIdCounter + 1) :
    sendRequest io client cmd payload = ⟨response.status = GuiIpcStatus.success.code, response,
      { client with requestIdCounter := client.requestIdCounter + 1 }⟩ := by
  have hvalidate : validate (client.requestIdCounter + 1) response =
      (decide (response.status = GuiIpcStatus.success.code), response) := by
    rw [validate, if_neg (not_not_intro hmagic), if_neg (not_not_intro hid)]
  rw [sendRequest, if_neg (by rw [hopen]; exact Bool.noConfusion)]
  dsimp only
  rw [hread]
  dsimp only
  rw [if_neg (not_not_intro rfl)]
  rw [show (RemoteBackendService.record (client.requestIdCounter + 1) io.now cmd
    payload).requestId = client.requestIdCounter + 1 from rfl, hvalidate]

end GuiIpcClient

/-- The other client accepts whatever says SUCCESS. -/
theorem RemoteBackendService.sendRequest_ok_iff {io : ClientIo} {remote : RemoteBackendService}
    {cmd : GuiIpcCommand} {payload : Bytes} :
    (sendRequest io remote cmd payload).ok = true ↔
      (remote.initialized = true ∨ remote.pipeOpen = true ∨ io.connects = true) ∧
      ∃ bytesRead response, io.exchange (record (remote.requestId + 1) io.now cmd payload) =
          .read bytesRead response ∧ response.status = GuiIpcStatus.success.code := by
  rw [sendRequest]
  by_cases hconnected : remote.initialized = true ∨ remote.pipeOpen = true ∨ io.connects = true
  · have hgoes : ¬ (remote.initialized = false ∧ remote.pipeOpen = false ∧ io.connects = false) := by
      simp only [← Bool.not_eq_true, ← not_or]
      exact not_not_intro hconnected
    rw [if_neg hgoes]
    dsimp only
    cases io.exchange (record (remote.requestId + 1) io.now cmd payload) with
    | writeFailed | readFailed =>
        refine iff_of_false Bool.false_ne_true ?_
        rintro ⟨-, bytesRead, response, hread, -⟩
        cases hread
    | read bytesRead response =>
        dsimp only
        rw [decide_eq_true_iff]
        constructor
        · intro hstatus
          exact ⟨hconnected, bytesRead, response, rfl, hstatus⟩
        · rintro ⟨-, bytesRead', response', hread, hstatus⟩
          obtain ⟨-, rfl⟩ := PipeOutcome.read.inj hread
          exact hstatus
  · have hstays : remote.initialized = false ∧ remote.pipeOpen = false ∧ io.connects = false := by
      simpa only [not_or, Bool.not_eq_true] using hconnected
    rw [if_pos hstays]
    exact iff_of_false Bool.false_ne_true fun h => hconnected h.1

-- ============================================================================
-- Bytes in the pipe
-- ============================================================================

/-- `WriteFile` of a request and `ReadFile` into a response: the bytes that arrive. -/
inductive PipeBytes where
  | writeFailed
  | readFailed
  | reply (bytes : Bytes) (h : bytes.length ≤ sizeofGuiIpcResponse)

/-- What the client finds in its new response. -/
def PipeBytes.outcome : PipeBytes → PipeOutcome
  | .writeFailed => .writeFailed
  | .readFailed => .readFailed
  | .reply bytes _ => .read bytes.length (GuiIpcResponse.cleared.received bytes)

theorem PipeBytes.outcome_read {arrived : PipeBytes} {bytesRead : Nat} {response : GuiIpcResponse} :
    arrived.outcome = .read bytesRead response ↔ ∃ bytes h, arrived = .reply bytes h ∧
      bytes.length = bytesRead ∧ GuiIpcResponse.cleared.received bytes = response := by
  cases arrived with
  | writeFailed | readFailed =>
      refine iff_of_false PipeOutcome.noConfusion ?_
      rintro ⟨bytes, h, hreply, -⟩
      cases hreply
  | reply bytes h =>
      rw [outcome, PipeOutcome.read.injEq]
      constructor
      · rintro ⟨hsize, hresponse⟩
        exact ⟨bytes, h, rfl, hsize, hresponse⟩
      · rintro ⟨bytes', h', hreply, hsize, hresponse⟩
        obtain rfl := PipeBytes.reply.inj hreply
        exact ⟨hsize, hresponse⟩

/-- What happens to a call, with a pipe that carries bytes. -/
structure PipeIo where
  connects : Bool
  now : Int64
  pipe : GuiIpcRequest → PipeBytes
  beyond : Bytes

namespace PipeIo

def clientIo (io : PipeIo) : ClientIo where
  connects := io.connects
  now := io.now
  exchange request := (io.pipe request).outcome
  beyond := io.beyond

/-- The bytes are a complete response with the magic number and this id. -/
def Own (requestId : Int32) (bytes : Bytes) : Prop :=
  ∃ h : bytes.length = sizeofGuiIpcResponse,
    (GuiIpcResponse.ofBytes bytes h).magic = guiIpcMagic ∧
      (GuiIpcResponse.ofBytes bytes h).requestId = requestId

variable (io : PipeIo) (remote : RemoteBackendService) (cmd : GuiIpcCommand) (payload : Bytes)

/-- `send_request` gets past its look at the connection. -/
def Connected : Prop :=
  remote.initialized = true ∨ remote.pipeOpen = true ∨ io.connects = true

instance : Decidable (io.Connected remote) :=
  inferInstanceAs (Decidable (remote.initialized = true ∨ remote.pipeOpen = true ∨
    io.connects = true))

/-- The request that is sent. -/
def request : GuiIpcRequest :=
  RemoteBackendService.record (remote.requestId + 1) io.now cmd payload

/-- A `GuiIpcClient` in the same situation: it is connected if this client is or gets
    connected, and has sent as many requests. -/
def sameSituation : GuiIpcClient := ⟨decide (io.Connected remote), remote.requestId⟩

/-- `RemoteBackendService` accepts a reply if the status is 0 as far as it arrived. -/
theorem remote_ok_iff :
    (RemoteBackendService.sendRequest io.clientIo remote cmd payload).ok = true ↔
      io.Connected remote ∧ ∃ bytes h, io.pipe (io.request remote cmd payload) = .reply bytes h ∧
        GuiIpcResponse.StatusBytesZero bytes := by
  refine RemoteBackendService.sendRequest_ok_iff.trans (and_congr Iff.rfl ?_)
  constructor
  · rintro ⟨bytesRead, response, hread, hstatus⟩
    obtain ⟨bytes, h, hreply, -, rfl⟩ := PipeBytes.outcome_read.mp hread
    exact ⟨bytes, h, hreply, (GuiIpcResponse.status_received h).mp hstatus⟩
  · rintro ⟨bytes, h, hreply, hzero⟩
    exact ⟨_, _, PipeBytes.outcome_read.mpr ⟨bytes, h, hreply, rfl, rfl⟩,
      (GuiIpcResponse.status_received h).mpr hzero⟩

/-- `GuiIpcClient` accepts a reply if it is also a complete response to its request. -/
theorem client_ok_iff :
    (GuiIpcClient.sendRequest io.clientIo (io.sameSituation remote) cmd payload).ok = true ↔
      io.Connected remote ∧ ∃ bytes h, io.pipe (io.request remote cmd payload) = .reply bytes h ∧
        GuiIpcResponse.StatusBytesZero bytes ∧ Own (remote.requestId + 1) bytes := by
  refine GuiIpcClient.sendRequest_ok_iff.trans (and_congr decide_eq_true_iff ?_)
  constructor
  · rintro ⟨response, hread, hmagic, hid, hstatus⟩
    obtain ⟨bytes, h, hreply, hsize, rfl⟩ := PipeBytes.outcome_read.mp hread
    have hzero := (GuiIpcResponse.status_received h).mp hstatus
    rw [GuiIpcResponse.received_of_length _ hsize] at hmagic hid
    exact ⟨bytes, h, hreply, hzero, hsize, hmagic, hid⟩
  · rintro ⟨bytes, h, hreply, hzero, hsize, hmagic, hid⟩
    have hstatus := (GuiIpcResponse.status_received h).mpr hzero
    rw [← GuiIpcResponse.received_of_length .cleared hsize] at hmagic hid
    exact ⟨_, PipeBytes.outcome_read.mpr ⟨bytes, h, hreply, hsize, rfl⟩, hmagic, hid, hstatus⟩

-- ============================================================================
-- The two clients
-- ============================================================================

/-- `RemoteBackendService::send_request` returns true only after a complete response with
    the magic number, the id just sent and SUCCESS, and exactly when
    `GuiIpcClient::send_request` would. -/
def AcceptsAlike : Prop :=
  let remoteOk := (RemoteBackendService.sendRequest io.clientIo remote cmd payload).ok
  let clientOk :=
    (GuiIpcClient.sendRequest io.clientIo (io.sameSituation remote) cmd payload).ok
  (remoteOk = true → ∃ bytes h, io.pipe (io.request remote cmd payload) = .reply bytes h ∧
    ∃ hsize : bytes.length = sizeofGuiIpcResponse,
      (GuiIpcResponse.ofBytes bytes hsize).magic = guiIpcMagic ∧
      (GuiIpcResponse.ofBytes bytes hsize).requestId = (io.request remote cmd payload).requestId ∧
      (GuiIpcResponse.ofBytes bytes hsize).status = GuiIpcStatus.success.code) ∧
  remoteOk = clientOk

/-- The two clients accept alike exactly if no short, stale or foreign reply arrives whose
    status is 0 as far as it arrived. -/
theorem acceptsAlike_iff :
    io.AcceptsAlike remote cmd payload ↔
      (io.Connected remote → ∀ bytes h, io.pipe (io.request remote cmd payload) = .reply bytes h →
        GuiIpcResponse.StatusBytesZero bytes → Own (remote.requestId + 1) bytes) := by
  have hremote := io.remote_ok_iff remote cmd payload
  have hclient := io.client_ok_iff remote cmd payload
  constructor
  · rintro ⟨-, halike⟩ hconnected bytes h hreply hzero
    -- the other client accepts this reply too
    rw [halike, hclient] at hremote
    obtain ⟨-, bytes', h', hreply', -, hown⟩ := hremote.mpr ⟨hconnected, bytes, h, hreply, hzero⟩
    rw [hreply] at hreply'
    obtain rfl := PipeBytes.reply.inj hreply'
    exact hown
  · intro hchecked
    constructor
    · intro hok
      obtain ⟨hconnected, bytes, h, hreply, hzero⟩ := hremote.mp hok
      obtain ⟨hsize, hmagic, hid⟩ := hchecked hconnected bytes h hreply hzero
      exact ⟨bytes, h, hreply, hsize, hmagic, hid, (GuiIpcResponse.status_eq_zero_iff hsize).mpr hzero⟩
    · rw [Bool.eq_iff_iff, hremote, hclient]
      constructor
      · rintro ⟨hconnected, bytes, h, hreply, hzero⟩
        exact ⟨hconnected, bytes, h, hreply, hzero, hchecked hconnected bytes h hreply hzero⟩
      · rintro ⟨hconnected, bytes, h, hreply, hzero, -⟩
        exact ⟨hconnected, bytes, h, hreply, hzero⟩

/-- An empty message is taken for a success. -/
theorem acceptsAlike_fails :
    ¬ ∀ (io : PipeIo) (remote : RemoteBackendService) (cmd : GuiIpcCommand) (payload : Bytes),
      io.AcceptsAlike remote cmd payload := by
  intro h
  have hempty : ([] : Bytes).length ≤ sizeofGuiIpcResponse := Nat.zero_le _
  obtain ⟨honly, -⟩ := h ⟨true, 0, fun _ => .reply [] hempty, []⟩ ⟨true, 0, true⟩ .deleteUser (utf8 "1")
  obtain ⟨bytes, h, hreply, hsize, -⟩ := honly ((remote_ok_iff ..).mpr
    ⟨Or.inl rfl, [], hempty, rfl, List.forall_mem_nil _⟩)
  obtain rfl := PipeBytes.reply.inj hreply
  cases hsize

end PipeIo

end Smile2Unlock.GuiIpc
