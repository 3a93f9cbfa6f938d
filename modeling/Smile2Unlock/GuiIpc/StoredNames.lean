/-
  Smile2Unlock.GuiIpc.StoredNames

  The user table behind the pipe: `ADD_USER` and `UPDATE_USER` requests with any payload,
  through `GuiIpcRequestHandler` and `BackendService` to the rows of the store.

  `UserRequest.step_cases` says what one request does: nothing, or it is accepted and
  every row is an old one or holds the username field as a C string.  The check for an
  empty name looks at all of the field, the store binds it up to its first NUL; on runs
  that accept no field with a NUL the two agree (`namesAccepted_of_noNul`).
-/

import Smile2Unlock.GuiIpc.UserArguments
import Smile2Unlock.Lib.Machine
import Smile2Unlock.Service.Backend

namespace Smile2Unlock.GuiIpc

open Smile2Unlock Lib
open Smile2Unlock.Service (Database UserRow BackendService.addUser BackendService.updateUser)

variable {F : Type}

-- ============================================================================
-- A request
-- ============================================================================

/-- A request record, the memory behind it, what Windows does while it is handled, and
    what the encryption makes of a password then. -/
structure UserRequest where
  request : GuiIpcRequest
  beyond : Bytes
  io : Handler.MappingIo
  encrypt : Bytes → Bytes

/-- The `BackendService` over a database, for the two calls. -/
def userBackend (encrypt : Bytes → Bytes) (db : Database) : Backend F
  | .addUser username password remark =>
      let reply := BackendService.addUser encrypt db username password remark
      .ok (reply.ok, reply.errorMessage)
  | .updateUser userId username password remark =>
      let reply := BackendService.updateUser encrypt db userId username password remark
      .ok (reply.ok, reply.errorMessage)
  | _ => .error []

/-- The database after a call. -/
def afterCall (encrypt : Bytes → Bytes) (db : Database) : BackendCall F → Database
  | .addUser username password remark =>
      (BackendService.addUser encrypt db username password remark).database
  | .updateUser userId username password remark =>
      (BackendService.updateUser encrypt db userId username password remark).database
  | _ => db

/-- The username field of a payload under a command. -/
def usernameField (payload : Bytes) : GuiIpcCommand → Option Bytes
  | .addUser => (splitUser payload).map (·.1)
  | .updateUser =>
      (splitAtFirst bar payload).bind fun parts => (splitUser parts.2).map (·.1)
  | _ => none

namespace UserRequest

variable (ft : FloatText F) (db : Database) (e : UserRequest)

/-- The string that `handle` makes of the payload. -/
def payload : Bytes := (e.request.payload.bytes ++ e.beyond).take e.request.payloadSize.toInt.toNat

/-- The request is handled: the database after it, and the username field if it was
    accepted.  Other commands are not enabled, nor is a size that ends the process. -/
def step : Option (Database × List Bytes) :=
  match GuiIpcCommand.ofCode e.request.command with
  | none => none
  | some cmd =>
      if cmd = .addUser ∨ cmd = .updateUser then
        let handled := Handler.handle ft e.io (some (userBackend e.encrypt db)) e.request e.beyond
        match handled.result with
        | .error _ => none
        | .ok response =>
            some (handled.calls.foldl (afterCall e.encrypt) db,
              if response.status = GuiIpcStatus.success.code then
                (usernameField e.payload cmd).toList
              else [])
      else none

end UserRequest

/-- The store behind the pipe. -/
def userStore (ft : FloatText F) : Machine Database UserRequest Bytes where
  init db := db.users = []
  step db e := e.step ft db

-- ============================================================================
-- What a request does
-- ============================================================================

/-- A call of the backend that writes `name`: without success nothing changes, and every
    row afterwards is an old one or holds the name as a C string. -/
def Writes (encrypt : Bytes → Bytes) (db : Database) (name : Bytes) (call : BackendCall F)
    (ok : Bool) : Prop :=
  (ok = false → afterCall encrypt db call = db) ∧
    ∀ row ∈ (afterCall encrypt db call).users,
      row ∈ db.users ∨ (name ≠ [] ∧ row.username = bindText name)

/-- A request for one of the two commands is refused or calls with its username field. -/
theorem run_handleCommand (ft : FloatText F) (encrypt : Bytes → Bytes) (db : Database)
    (response : GuiIpcResponse) (io : Handler.MappingIo) (payload : Bytes) {cmd : GuiIpcCommand}
    (hcmd : cmd = .addUser ∨ cmd = .updateUser) :
    let ran := Handler.run response (userBackend encrypt db)
      (Handler.handleCommand ft response io payload (some cmd))
    (∃ msg, ran = ([], response.setError msg)) ∨
      ∃ call name result, ran = ([call], Handler.answerResult response result) ∧
        usernameField payload cmd = some name ∧ Writes encrypt db name call result.1 := by
  rcases hcmd with rfl | rfl
  · rw [show Handler.handleCommand ft response io payload (some .addUser) =
      Handler.addUser response payload from rfl, addUser_eq, usernameField]
    cases splitUser payload with
    | none => exact Or.inl ⟨_, rfl⟩
    | some fields =>
        obtain ⟨username, password, remark⟩ := fields
        refine Or.inr ⟨_, username, _, rfl, rfl, ?_, ?_⟩
        · exact Service.BackendService.addUser_of_not_ok
        · exact fun row hrow => Service.BackendService.mem_addUser hrow
  · rw [show Handler.handleCommand ft response io payload (some .updateUser) =
      Handler.updateUser response payload from rfl, updateUser_eq, usernameField]
    cases splitAtFirst bar payload with
    | none => exact Or.inl ⟨_, rfl⟩
    | some parts =>
        obtain ⟨idText, rest⟩ := parts
        dsimp only [Option.bind_some]
        cases splitUser rest with
        | none => exact Or.inl ⟨_, rfl⟩
        | some fields =>
            obtain ⟨username, password, remark⟩ := fields
            dsimp only
            cases parseInt idText with
            | none => exact Or.inl ⟨_, rfl⟩
            | some userId =>
                refine Or.inr ⟨_, username, _, rfl, rfl, ?_, ?_⟩
                · exact Service.BackendService.updateUser_of_not_ok
                · exact fun row hrow => Service.BackendService.mem_updateUser hrow

theorem answerResult_status (response : GuiIpcResponse) (result : Bool × Bytes) :
    (Handler.answerResult response result).status = GuiIpcStatus.success.code ↔ result.1 = true := by
  show (if result.1 then GuiIpcStatus.success else .serviceError).code = _ ↔ _
  cases result.1
  · decide
  · decide

/-- A request changes nothing, or it is accepted with a name that every new row holds. -/
theorem UserRequest.step_cases {ft : FloatText F} {db db' : Database} {e : UserRequest}
    {sent : List Bytes} (h : e.step ft db = some (db', sent)) :
    (db' = db ∧ sent = []) ∨ ∃ name, sent = [name] ∧
      ∀ row ∈ db'.users, row ∈ db.users ∨ (name ≠ [] ∧ row.username = bindText name) := by
  rw [step] at h
  cases hcode : GuiIpcCommand.ofCode e.request.command with
  | none => rw [hcode] at h; cases h
  | some cmd =>
      rw [hcode] at h
      dsimp only at h
      split at h
      · rename_i hcmd
        rw [Handler.handle, hcode] at h
        dsimp only at h
        by_cases hneg : e.request.payloadSize < 0
        · rw [if_pos hneg] at h
          cases h
        · rw [if_neg hneg, ← payload] at h
          obtain ⟨rfl, rfl⟩ := Prod.mk.inj (Option.some.inj h)
          dsimp only
          rcases run_handleCommand ft e.encrypt db (Handler.opened e.request) e.io e.payload hcmd with
            ⟨msg, hran⟩ | ⟨call, name, result, hran, hfield, hkeeps, hrows⟩
          · rw [hran]
            have hstatus : GuiIpcStatus.failure.code ≠ GuiIpcStatus.success.code := by decide
            exact Or.inl ⟨rfl, if_neg hstatus⟩
          · rw [hran, hfield]
            dsimp only
            by_cases hok : result.1 = true
            · rw [if_pos ((answerResult_status _ _).mpr hok)]
              exact Or.inr ⟨name, rfl, hrows⟩
            · rw [if_neg (mt (answerResult_status _ _).mp hok)]
              exact Or.inl ⟨hkeeps (Bool.eq_false_iff.mpr hok), rfl⟩
      · cases h

-- ============================================================================
-- The names in the store
-- ============================================================================

/-- Every stored username is non-empty and is the username field of an accepted request. -/
def NamesAccepted (tr : List (Transition Database UserRequest Bytes)) (db : Database) : Prop :=
  ∀ row ∈ db.users, row.username.bytes ≠ [] ∧ ∃ t ∈ tr, row.username.bytes ∈ t.sent

/-- Where no accepted field has a NUL, every stored name is one of them. -/
theorem namesAccepted_of_noNul {ft : FloatText F} {db : Database}
    {tr : List (Transition Database UserRequest Bytes)} (h : (userStore ft).Run tr db)
    (hC : Always (fun _ t => ∀ name ∈ t.sent, (0 : UInt8) ∉ name) tr) : NamesAccepted tr db := by
  refine h.invariant_under ?_ ?_ hC
  · intro db hempty row hrow
    rw [show db.users = [] from hempty] at hrow
    cases hrow
  · intro tr t hnames htakes hnul
    have hold : ∀ row ∈ t.before.users, row.username.bytes ≠ [] ∧
        ∃ u ∈ tr ++ [t], row.username.bytes ∈ u.sent := fun row hrow =>
      ⟨(hnames row hrow).1, exists_mem_snoc (hnames row hrow).2 t⟩
    rcases UserRequest.step_cases htakes with ⟨hsame, -⟩ | ⟨name, hsent, hrows⟩
    · intro row hrow
      rw [hsame] at hrow
      exact hold row hrow
    · intro row hrow
      rcases hrows row hrow with hrow | ⟨hne, hname⟩
      · exact hold row hrow
      · have hmem : name ∈ t.sent := by rw [hsent]; exact List.mem_singleton.mpr rfl
        have hbytes : row.username.bytes = name := by
          rw [hname, bindText_bytes, cString_eq_self (hnul name hmem)]
        rw [hbytes]
        exact ⟨hne, t, List.mem_append_right _ (List.mem_singleton.mpr rfl), hmem⟩

/-- An `ADD_USER` request with a payload, and a password that is stored as it is. -/
def addRequest (payload : Bytes) : UserRequest where
  request := RemoteBackendService.record 1 0 .addUser payload
  beyond := []
  io := ⟨true, true, true, 0, 0⟩
  encrypt := id

def emptyStore : Database := ⟨[], [], List.nodup_nil, List.nodup_nil⟩

/-- A store with one row. -/
def oneRow (name password : Bytes) : Database where
  users := [⟨1, bindText name, some (bindText password), some (bindText [])⟩]
  faces := []
  idUnique := List.nodup_singleton _
  usernameUnique := List.nodup_singleton _

/-- The run of one request that adds a user. -/
def addRun (payload name stored : Bytes) : List (Transition Database UserRequest Bytes) :=
  [⟨emptyStore, addRequest payload, [name], oneRow stored (utf8 "pw")⟩]

/-- The user is added, and gets another name. -/
theorem namesAccepted_renamed :
    NamesAccepted (addRun (utf8 "alice|pw|") (utf8 "alice") (utf8 "alice") ++
        [⟨oneRow (utf8 "alice") (utf8 "pw"),
          { addRequest (utf8 "1|bob|pw|") with
            request := RemoteBackendService.record 2 0 .updateUser (utf8 "1|bob|pw|") },
          [utf8 "bob"], oneRow (utf8 "bob") (utf8 "pw")⟩])
      (oneRow (utf8 "bob") (utf8 "pw")) := by
  have hadds : (addRequest (utf8 "alice|pw|")).step exampleFloats emptyStore =
      some (oneRow (utf8 "alice") (utf8 "pw"), [utf8 "alice"]) := rfl
  refine namesAccepted_of_noNul (Machine.Run.event (Machine.Run.event (.nil rfl) hadds) rfl) ?_
  refine always_snoc.mpr ⟨always_snoc.mpr ⟨always_nil, ?_⟩, ?_⟩
  · intro name hname
    obtain rfl := List.mem_singleton.mp hname
    decide
  · intro name hname
    obtain rfl := List.mem_singleton.mp hname
    decide

/-- A name that begins with a NUL is accepted and stored as an empty one. -/
theorem namesAccepted_fails :
    ¬ ∀ (F : Type) (ft : FloatText F) (db : Database)
      (tr : List (Transition Database UserRequest Bytes)),
      (userStore ft).Run tr db → NamesAccepted tr db := by
  intro h
  have htakes : (addRequest (0 :: utf8 "abc|pw|")).step exampleFloats emptyStore =
      some (oneRow [] (utf8 "pw"), [0 :: utf8 "abc"]) := rfl
  have hnames := h Bool exampleFloats (oneRow [] (utf8 "pw"))
    (addRun (0 :: utf8 "abc|pw|") (0 :: utf8 "abc") []) (Machine.Run.event (.nil rfl) htakes)
  obtain ⟨hne, -⟩ := hnames _ (List.mem_singleton.mpr rfl)
  exact hne rfl

end Smile2Unlock.GuiIpc
