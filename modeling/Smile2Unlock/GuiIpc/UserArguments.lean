/-
  Smile2Unlock.GuiIpc.UserArguments

  The arguments of `AddUser` and `UpdateUser` from the GUI to the backend: joined with
  `|` by the client, split again by `handle_add_user` and `handle_update_user`.

  `splitUser` is what the positions found by the handlers amount to
  (`addUser_eq`, `updateUser_eq`); it inverts `joinUser` where username and
  password have no `|` (`splitUser_eq_some_iff`).
-/

import Mathlib.Data.List.TakeDrop
import Smile2Unlock.GuiIpc.Remote

namespace Smile2Unlock.GuiIpc

open Smile2Unlock Lib
open RemoteBackendService (joinUser)

variable {F : Type}

-- ============================================================================
-- Splitting
-- ============================================================================

/-- Username, password and remark of a text. -/
def splitUser (text : Bytes) : Option (Bytes × Bytes × Bytes) :=
  match splitAtFirst bar text with
  | none => none
  | some (username, rest) =>
      match splitAtFirst bar rest with
      | none => none
      | some (password, remark) => some (username, password, remark)

theorem splitUser_eq_some_iff {text username password remark : Bytes} :
    splitUser text = some (username, password, remark) ↔
      text = joinUser username password remark ∧ bar ∉ username ∧ bar ∉ password := by
  constructor
  · intro h
    unfold splitUser at h
    split at h
    · cases h
    · rename_i a rest hfirst
      split at h
      · cases h
      · rename_i b c hsecond
        cases h
        obtain ⟨rfl, husername⟩ := splitAtFirst_eq_some_iff.mp hfirst
        obtain ⟨rfl, hpassword⟩ := splitAtFirst_eq_some_iff.mp hsecond
        exact ⟨rfl, husername, hpassword⟩
  · rintro ⟨rfl, husername, hpassword⟩
    rw [splitUser, joinUser, splitAtFirst_append husername]
    dsimp only
    rw [splitAtFirst_append hpassword]

/-- A search behind a separator is one in what follows it. -/
theorem find_behind (a rest : Bytes) :
    find bar (a ++ bar :: rest) (a.length + 1) = (find bar rest 0).map (a.length + 1 + ·) := by
  have h := @find_append _ _ bar (a ++ [bar]) rest 0
  rw [List.length_append, List.append_assoc] at h
  exact h

theorem drop_behind (a rest : Bytes) : (a ++ bar :: rest).drop (a.length + 1) = rest := by
  have h := @List.drop_left _ (a ++ [bar]) rest
  rw [List.length_append, List.append_assoc] at h
  exact h

/-- The field between two separators. -/
theorem substr_between (a b rest : Bytes) :
    substr (a ++ bar :: (b ++ bar :: rest)) (a.length + 1) (a.length + 1 + b.length - a.length - 1) =
      b := by
  have hcount : a.length + 1 + b.length - a.length - 1 = b.length := by omega
  rw [substr, drop_behind, hcount, List.take_left]

/-- `handle_add_user` calls `AddUser` with the parts of the payload. -/
theorem addUser_eq (response : GuiIpcResponse) (payload : Bytes) :
    Handler.addUser (F := F) response payload =
      match splitUser payload with
      | none => .respond (response.setError (utf8 "Invalid payload format"))
      | some (username, password, remark) =>
          .call (.addUser username password remark) (Handler.answerResult response) := by
  rw [Handler.addUser, splitUser]
  dsimp only
  cases hfirst : splitAtFirst bar payload with
  | none =>
      rw [find_zero, hfirst]
      rfl
  | some parts =>
      obtain ⟨a, rest⟩ := parts
      obtain ⟨rfl, -⟩ := splitAtFirst_eq_some_iff.mp hfirst
      rw [find_zero, hfirst, Option.map_some, next, find_behind]
      dsimp only
      cases hsecond : splitAtFirst bar rest with
      | none =>
          rw [find_zero, hsecond]
          rfl
      | some parts =>
          obtain ⟨b, c⟩ := parts
          obtain ⟨rfl, -⟩ := splitAtFirst_eq_some_iff.mp hsecond
          have hremark := drop_behind (a ++ bar :: b) c
          rw [List.length_append, List.length_cons, List.append_assoc, List.cons_append,
            Nat.add_comm b.length, ← Nat.add_assoc] at hremark
          rw [find_zero, hsecond, Option.map_some, Option.map_some]
          dsimp only
          rw [substr_between, hremark, List.take_left]

/-- `handle_update_user` calls `UpdateUser` with the parts of the payload. -/
theorem updateUser_eq (response : GuiIpcResponse) (payload : Bytes) :
    Handler.updateUser (F := F) response payload =
      match splitAtFirst bar payload with
      | none => .respond (response.setError (utf8 "Invalid payload format"))
      | some (userId, rest) =>
          match splitUser rest with
          | none => .respond (response.setError (utf8 "Invalid payload format"))
          | some (username, password, remark) =>
              match parseInt userId with
              | none => .respond (response.setError (utf8 "Invalid user_id format"))
              | some userId => .call (.updateUser userId username password remark)
                  (Handler.answerResult response) := by
  rw [Handler.updateUser]
  dsimp only
  cases hfirst : splitAtFirst bar payload with
  | none =>
      rw [find_zero, hfirst]
      rfl
  | some parts =>
      obtain ⟨a, rest⟩ := parts
      obtain ⟨rfl, -⟩ := splitAtFirst_eq_some_iff.mp hfirst
      rw [find_zero, hfirst, Option.map_some, next, find_behind]
      dsimp only
      rw [splitUser]
      cases hsecond : splitAtFirst bar rest with
      | none =>
          rw [find_zero, hsecond]
          rfl
      | some parts =>
          obtain ⟨b, rest'⟩ := parts
          obtain ⟨rfl, -⟩ := splitAtFirst_eq_some_iff.mp hsecond
          -- the third search starts behind the first two fields
          have hassoc : a ++ bar :: (b ++ bar :: rest') = (a ++ bar :: b) ++ bar :: rest' := by simp
          have hlength : (a ++ bar :: b).length = a.length + 1 + b.length := by
            rw [List.length_append, List.length_cons]
            omega
          have hp3 := find_behind (a ++ bar :: b) rest'
          rw [← hassoc, hlength] at hp3
          rw [find_zero, hsecond, Option.map_some, Option.map_some, next, hp3]
          dsimp only
          cases hthird : splitAtFirst bar rest' with
          | none =>
              rw [find_zero, hthird]
              rfl
          | some parts =>
              obtain ⟨c, d⟩ := parts
              obtain ⟨rfl, -⟩ := splitAtFirst_eq_some_iff.mp hthird
              have hpassword := substr_between (a ++ bar :: b) c d
              rw [← hassoc, hlength] at hpassword
              have hremark := drop_behind (a ++ bar :: (b ++ bar :: c)) d
              have hlength' : (a ++ bar :: (b ++ bar :: c)).length =
                  a.length + 1 + b.length + 1 + c.length := by
                simp only [List.length_append, List.length_cons]
                omega
              rw [hlength', List.append_assoc, List.cons_append, List.append_assoc,
                List.cons_append] at hremark
              rw [find_zero, hthird, Option.map_some, Option.map_some]
              dsimp only
              have husername := substr_between a b (c ++ bar :: d)
              cases hid : parseInt a with
              | none => simp only [List.take_left, hid]
              | some userId =>
                  simp only [List.take_left, hid]
                  rw [husername, hpassword, hremark]

theorem calls_addUser (response : GuiIpcResponse) (payload : Bytes) :
    (Handler.addUser (F := F) response payload).calls =
      match splitUser payload with
      | none => []
      | some (username, password, remark) => [.addUser username password remark] := by
  rw [addUser_eq]
  cases splitUser payload with
  | none => rfl
  | some fields => rfl

theorem calls_updateUser (response : GuiIpcResponse) (payload : Bytes) :
    (Handler.updateUser (F := F) response payload).calls =
      match splitAtFirst bar payload with
      | none => []
      | some (userId, rest) =>
          match splitUser rest, parseInt userId with
          | some (username, password, remark), some userId =>
              [.updateUser userId username password remark]
          | _, _ => [] := by
  rw [updateUser_eq]
  cases splitAtFirst bar payload with
  | none => rfl
  | some parts =>
      obtain ⟨idText, rest⟩ := parts
      dsimp only
      cases splitUser rest with
      | none => rfl
      | some fields =>
          cases parseInt idText with
          | none => rfl
          | some userId => rfl

-- ============================================================================
-- From the client to the backend
-- ============================================================================

theorem bar_not_mem_toText (i : Int) : bar ∉ toText i := not_mem_toText (by decide) (by decide) i

/-- A text fits if it arrives as it is. -/
theorem take_eq_self_iff {text : Bytes} :
    text.take (kPayloadSize - 1) = text ↔ text.length < kPayloadSize := by
  have hpos : 0 < kPayloadSize := by decide
  rw [List.take_eq_self_iff]
  omega

/-- The joined fields are split as they were if they arrive whole and the first two have
    no separator. -/
theorem splitUser_take {username password remark : Bytes} :
    splitUser ((joinUser username password remark).take (kPayloadSize - 1)) =
      some (username, password, remark) ↔
    bar ∉ username ∧ bar ∉ password ∧ (joinUser username password remark).length < kPayloadSize := by
  rw [splitUser_eq_some_iff, take_eq_self_iff]
  exact ⟨fun h => ⟨h.2.1, h.2.2, h.1⟩, fun h => ⟨h.2.2, h.1, h.2.1⟩⟩

/-- The same with an id in front. -/
theorem splitUser_take_id {userId : Int} {username password remark : Bytes} (hid : IsInt userId) :
    (∃ idText rest, splitAtFirst bar ((toText userId ++ bar :: joinUser username password remark).take
        (kPayloadSize - 1)) = some (idText, rest) ∧
      splitUser rest = some (username, password, remark) ∧ parseInt idText = some userId) ↔
    bar ∉ username ∧ bar ∉ password ∧
      (toText userId ++ bar :: joinUser username password remark).length < kPayloadSize := by
  have hwhole := @splitAtFirst_append _ _ bar _ (bar_not_mem_toText userId)
    (joinUser username password remark)
  constructor
  · rintro ⟨idText, rest, hsplit, huser, -⟩
    obtain ⟨hreceived, hidText⟩ := splitAtFirst_eq_some_iff.mp hsplit
    obtain ⟨rfl, husername, hpassword⟩ := splitUser_eq_some_iff.mp huser
    -- what was cut off follows the same first separator
    have happend := List.take_append_drop (kPayloadSize - 1)
      (toText userId ++ bar :: joinUser username password remark)
    rw [hreceived, List.append_assoc, List.cons_append] at happend
    rw [← happend, splitAtFirst_append hidText] at hwhole
    obtain ⟨rfl, -⟩ := Prod.mk.inj (Option.some.inj hwhole)
    exact ⟨husername, hpassword, take_eq_self_iff.mp hreceived⟩
  · rintro ⟨husername, hpassword, hlength⟩
    rw [take_eq_self_iff.mpr hlength]
    exact ⟨_, _, hwhole, splitUser_eq_some_iff.mpr ⟨rfl, husername, hpassword⟩, parseInt_toText hid⟩

section

variable (service : PipeService F) (now : Int64) (beyond : Bytes) (remote : RemoteBackendService)
  (username password remark : Bytes)

theorem callsFor_addUser_iff :
    service.callsFor (remote.addUser (service.clientIo now beyond) username password
        remark).written = [.addUser username password remark] ↔
      bar ∉ username ∧ bar ∉ password ∧
        (joinUser username password remark).length < kPayloadSize := by
  obtain ⟨request, hcalls⟩ := service.callsFor_callForMessage .addUser now beyond
    (joinUser username password remark) remote
  rw [RemoteBackendService.addUser, hcalls, PipeService.ran, Handler.run_fst, ← splitUser_take]
  show (Handler.addUser _ _).calls = _ ↔ _
  rw [calls_addUser]
  cases hsplit : splitUser ((joinUser username password remark).take (kPayloadSize - 1)) with
  | none => simp
  | some parts => simp [Prod.ext_iff]

theorem callsFor_updateUser_iff {userId : Int} (hid : IsInt userId) :
    service.callsFor (remote.updateUser (service.clientIo now beyond) userId username password
        remark).written = [.updateUser userId username password remark] ↔
      bar ∉ username ∧ bar ∉ password ∧
        (toText userId ++ bar :: joinUser username password remark).length < kPayloadSize := by
  obtain ⟨request, hcalls⟩ := service.callsFor_callForMessage .updateUser now beyond
    (toText userId ++ bar :: joinUser username password remark) remote
  rw [RemoteBackendService.updateUser, hcalls, PipeService.ran, Handler.run_fst,
    ← splitUser_take_id hid]
  show (Handler.updateUser _ _).calls = _ ↔ _
  rw [calls_updateUser]
  cases hsplit : splitAtFirst bar ((toText userId ++ bar ::
      joinUser username password remark).take (kPayloadSize - 1)) with
  | none => simp
  | some parts =>
      obtain ⟨idText, rest⟩ := parts
      dsimp only
      cases huser : splitUser rest with
      | none => simp [huser]
      | some fields =>
          cases hparse : parseInt idText with
          | none => simp [hparse]
          | some userId' =>
              constructor
              · intro h
                cases h
                exact ⟨idText, rest, rfl, huser, hparse⟩
              · rintro ⟨_, _, hparts, huser', hparse'⟩
                cases hparts
                rw [huser] at huser'
                rw [hparse] at hparse'
                cases huser'
                cases hparse'
                rfl

/-- The backend gets the arguments of `AddUser` and of `UpdateUser` exactly if username
    and password have no `|` and the joined text leaves room for a NUL in the payload. -/
theorem passesArguments_iff :
    (service.callsFor (remote.addUser (service.clientIo now beyond) username password
        remark).written = [.addUser username password remark] ↔
      bar ∉ username ∧ bar ∉ password ∧
        (joinUser username password remark).length < kPayloadSize) ∧
    (∀ userId, IsInt userId →
      (service.callsFor (remote.updateUser (service.clientIo now beyond) userId username password
          remark).written = [.updateUser userId username password remark] ↔
        bar ∉ username ∧ bar ∉ password ∧
          (toText userId ++ bar :: joinUser username password remark).length < kPayloadSize)) :=
  ⟨callsFor_addUser_iff service now beyond remote username password remark,
    fun _ hid => callsFor_updateUser_iff service now beyond remote username password remark hid⟩

end

theorem passesArguments_alice :
    IsInt 7 ∧ exampleService.callsFor (exampleRemote.updateUser (exampleService.clientIo 0 []) 7
      (utf8 "alice") (utf8 "pw") []).written = [.updateUser 7 (utf8 "alice") (utf8 "pw") []] :=
  ⟨by decide, ((passesArguments_iff exampleService 0 [] exampleRemote (utf8 "alice") (utf8 "pw")
    []).2 7 (by decide)).mpr ⟨by decide, by decide, by decide⟩⟩

/-- A password with `|` is stored up to it, and the remark gets the rest. -/
theorem passesArguments_fails :
    ¬ ∀ (F : Type) (service : PipeService F) (now : Int64) (beyond : Bytes)
      (remote : RemoteBackendService) (username password remark : Bytes),
      (joinUser username password remark).length < kPayloadSize →
      service.callsFor (remote.addUser (service.clientIo now beyond) username password
        remark).written = [.addUser username password remark] := by
  intro h
  have hcalls := h Bool exampleService 0 [] exampleRemote (utf8 "alice") (utf8 "p|w") [] (by decide)
  rw [callsFor_addUser_iff] at hcalls
  exact absurd hcalls.2.1 (by decide)

end Smile2Unlock.GuiIpc
