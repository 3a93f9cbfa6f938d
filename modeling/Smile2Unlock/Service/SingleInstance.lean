/-
  Smile2Unlock.Service.SingleInstance

  Who runs next to whom: the service (`RunServiceMode`) and the GUI (`RunGuiMode`,
  Smile2unlock.cpp), the credentials that start a service (`LaunchSmile2UnlockService`,
  CSampleCredential.cpp), and the mutex `SERVICE_MUTEX_NAME` between them
  (`ServiceMutex`, modules/service_runtime.cppm).

  There are any number of each.  A system call is a step of its own, so every order of the
  calls of all parties is a run, and a party may end at each point: the system then closes
  its handles.  The mutex is the `namedObject` of the library (`follows`), which says how
  many services there are (`singleInstance`).
-/

import Mathlib.Data.Finset.Basic
import Smile2Unlock.Lib.NamedObject

namespace Smile2Unlock.Service

open Smile2Unlock Lib

variable {π : Type}

-- ============================================================================
-- The parties
-- ============================================================================

/-- Where `RunServiceMode` stands.  It is `refused` with the handle of a mutex that was
    there, `owning` from `owns_ = true` on, and `released` from `service_mutex.release()` to
    the destructor of its backend. -/
inductive ServicePoint where
  | starting
  | refused
  | owning
  | serving
  | released
deriving DecidableEq

/-- Where `RunGuiMode` stands.  It is `probing` with the handle of `is_service_running`,
    `remote` with a `RemoteBackendService` and `standalone` with a `BackendService`. -/
inductive GuiPoint where
  | starting
  | probing
  | remote
  | standalone
deriving DecidableEq

/-- Where `LaunchSmile2UnlockService` stands.  It is `probing` with the handle of
    `IsSmile2UnlockServiceMutexPresent`, and `waiting` for the process behind the local
    `process_handle`. -/
inductive LaunchPoint (π : Type) where
  | idle
  | probing
  | creating
  | waiting (processHandle : π)
deriving DecidableEq

/-- A process, or a credential with its `_hSmile2UnlockProcess`. -/
inductive Party (π : Type) where
  | absent
  | ended
  | service (point : ServicePoint)
  | gui (point : GuiPoint)
  | credential (process : Option π) (point : LaunchPoint π)
deriving DecidableEq

/-- The handle is null or that of a process. -/
def Party.process : Party π → Option π
  | .credential process _ => process
  | _ => none

/-- The parties, and who has a handle of the mutex. -/
structure World (π : Type) where
  party : π → Party π
  handles : Finset π

/-- What a party starts as. -/
inductive Program where
  | service
  | gui
  | credential
deriving DecidableEq

def Program.start : Program → Party π
  | .service => .service .starting
  | .gui => .gui .starting
  | .credential => .credential none .idle

/-- A step of a party.  `access` says that the system grants a handle if there is a mutex,
    or makes one; `exitCode` that `GetExitCodeProcess` succeeds; `launches` that
    `CreateProcessW` does; `elapsed` that the startup grace is over; `ends` that the process
    is gone after the waits and `TerminateProcess`. -/
inductive WorldEvent (π : Type) where
  | starts (p : π) (program : Program)
  | createMutex (p : π) (access : Bool)
  | openMutex (p : π) (access : Bool)
  | launch (c : π) (exitCode access : Bool)
  | closeMutex (p : π)
  | initialized (p : π)
  | runReturns (p : π)
  | createProcess (c q : π) (launches : Bool)
  | poll (c : π) (elapsed : Bool)
  | terminate (c : π) (ends : Bool)
  | ends (p : π)

/-- The answer of the system to a party that asks for the mutex. -/
inductive MutexAnswer (π : Type) where
  | present (p : π)
  | absent (p : π)
deriving DecidableEq

variable [DecidableEq π]

namespace World

def put (s : World π) (p : π) (x : Party π) : World π :=
  { s with party := Function.update s.party p x }

def opened (s : World π) (p : π) : World π := { s with handles := insert p s.handles }

def closed (s : World π) (p : π) : World π := { s with handles := s.handles.erase p }

/-- `OpenMutexA` with `SYNCHRONIZE`, by a party that goes on as `found` with the handle, as
    `missing` after `ERROR_FILE_NOT_FOUND` and as `denied` after another error. -/
def openMutex (s : World π) (p : π) (access : Bool) (found missing denied : Party π) :
    World π × List (MutexAnswer π) :=
  if access = false then (s.put p denied, [])
  else if s.handles = ∅ then (s.put p missing, [.absent p])
  else ((s.put p found).opened p, [.present p])

/-- The end of a process. -/
def ended (s : World π) (p : π) : World π := (s.put p .ended).closed p

/-- `GetExitCodeProcess` gives `STILL_ACTIVE`. -/
def stillActive (s : World π) (exitCode : Bool) : Option π → Bool
  | none => false
  | some q => exitCode && decide (s.party q ≠ .ended)

def step (s : World π) : WorldEvent π → Option (World π × List (MutexAnswer π))
  | .starts p program =>
      match s.party p with
      | .absent => some (s.put p program.start, [])
      | _ => none
  -- `try_create`: without a handle the service returns, else `GetLastError` decides
  | .createMutex p access =>
      match s.party p with
      | .service .starting =>
          if access = false then some (s.put p .ended, [])
          else if s.handles = ∅ then
            some ((s.put p (.service .owning)).opened p, [.absent p])
          else some ((s.put p (.service .refused)).opened p, [.present p])
      | _ => none
  | .openMutex p access =>
      match s.party p with
      | .gui .starting =>
          some (s.openMutex p access (.gui .probing) (.gui .standalone) (.gui .remote))
      | _ => none
  -- a process that has ended cannot come back before the look for the mutex
  | .launch c exitCode access =>
      match s.party c with
      | .credential process .idle =>
          if s.stillActive exitCode process then some (s, [])
          else some (s.openMutex c access (.credential none .probing) (.credential none .creating)
            (.credential none .idle))
      | _ => none
  | .closeMutex p =>
      match s.party p with
      | .service .refused => some ((s.put p .ended).closed p, [])
      | .gui .probing => some ((s.put p (.gui .remote)).closed p, [])
      | .credential process .probing => some ((s.put p (.credential process .idle)).closed p, [])
      | _ => none
  -- `Initialize` and `ipc_server.start()`
  | .initialized p =>
      match s.party p with
      | .service .owning => some (s.put p (.service .serving), [])
      | _ => none
  -- `ipc_server.stop()` and `service_mutex.release()`
  | .runReturns p =>
      match s.party p with
      | .service .serving => some ((s.put p (.service .released)).closed p, [])
      | _ => none
  | .createProcess c q launches =>
      match s.party c, s.party q with
      | .credential process .creating, .absent =>
          if launches then
            some ((s.put q (.service .starting)).put c (.credential (some q) (.waiting q)), [])
          else some (s.put c (.credential process .idle), [])
      | _, _ => none
  -- the wait holds no lock: `TerminateSmile2UnlockService` may have closed the handle
  | .poll c elapsed =>
      match s.party c with
      | .credential process (.waiting q) =>
          if elapsed ∨ process ≠ some q then some (s.put c (.credential process .idle), [])
          else if s.party q = .ended then some (s.put c (.credential none .idle), [])
          else some (s, [])
      | _ => none
  | .terminate c ends =>
      match s.party c with
      | .credential process .idle =>
          some ((if ends then process.elim s s.ended else s).put c (.credential none .idle), [])
      | .credential process (.waiting q) =>
          some ((if ends then process.elim s s.ended else s).put c
            (.credential none (.waiting q)), [])
      | _ => none
  | .ends p =>
      match s.party p with
      | .absent => none
      | _ => some (s.ended p, [])

end World

/-- Any number of parties from the boot on, when nobody has the mutex. -/
def instances (π : Type) [DecidableEq π] : Machine (World π) (WorldEvent π) (MutexAnswer π) where
  init s := (∀ p, s.party p = .absent) ∧ s.handles = ∅
  step := World.step

-- ============================================================================
-- The mutex as an object with a name
-- ============================================================================

/-- How the party stands to the mutex. -/
def Party.tenure : Party π → Tenure
  | .absent | .ended => .outside
  | .service .starting => .outside
  | .service .refused => .passing
  | .service .owning | .service .serving => .owner
  | .service .released => .beside
  | .gui .starting | .gui .remote => .outside
  | .gui .probing => .passing
  | .gui .standalone => .beside
  | .credential _ .probing => .passing
  | .credential _ _ => .outside

namespace World

/-- The party is a service between `try_create` and `release`. -/
def Guarded (s : World π) (p : π) : Prop :=
  s.party p = .service .owning ∨ s.party p = .service .serving

/-- The party has a `BackendService` and no handle of the mutex. -/
def Beside (s : World π) (p : π) : Prop :=
  s.party p = .service .released ∨ s.party p = .gui .standalone

/-- The party is between the system call that opens the mutex and the one that closes it. -/
def HasHandle (s : World π) (p : π) : Prop := (s.party p).tenure.Holds

def tenure (s : World π) : π → Tenure := fun p => (s.party p).tenure

omit [DecidableEq π] in
theorem guarded_iff {s : World π} {p : π} : s.Guarded p ↔ s.tenure p = .owner := by
  rw [Guarded, tenure]
  cases s.party p with
  | service point => cases point <;> simp [Party.tenure]
  | gui point => cases point <;> simp [Party.tenure]
  | credential process point => cases point <;> simp [Party.tenure]
  | _ => simp [Party.tenure]

omit [DecidableEq π] in
theorem beside_iff {s : World π} {p : π} : s.Beside p ↔ s.tenure p = .beside := by
  rw [Beside, tenure]
  cases s.party p with
  | service point => cases point <;> simp [Party.tenure]
  | gui point => cases point <;> simp [Party.tenure]
  | credential process point => cases point <;> simp [Party.tenure]
  | _ => simp [Party.tenure]

/-- The system has a handle open for exactly the parties that are between the two calls. -/
def Kept (s : World π) : Prop := ∀ p, p ∈ s.handles ↔ s.HasHandle p

@[simp] theorem tenure_put (s : World π) (p : π) (x : Party π) :
    (s.put p x).tenure = Function.update s.tenure p x.tenure := by
  funext q
  by_cases h : q = p
  · simp [tenure, put, h]
  · simp [tenure, put, Function.update_of_ne h]

@[simp] theorem tenure_opened (s : World π) (p : π) : (s.opened p).tenure = s.tenure := rfl

@[simp] theorem tenure_closed (s : World π) (p : π) : (s.closed p).tenure = s.tenure := rfl

theorem tenure_put_same {s : World π} {p : π} {x : Party π} (h : x.tenure = s.tenure p) :
    (s.put p x).tenure = s.tenure := by
  rw [tenure_put, h, Function.update_eq_self]

section Kept

variable {s : World π} {p : π} {x : Party π}

omit [DecidableEq π] in
theorem Kept.eq_empty_iff (h : s.Kept) : s.handles = ∅ ↔ ∀ q, ¬ (s.tenure q).Holds := by
  rw [Finset.eq_empty_iff_forall_notMem]
  exact forall_congr' fun q => not_congr (h q)

omit [DecidableEq π] in
theorem Kept.ne_empty_iff (h : s.Kept) : s.handles ≠ ∅ ↔ ∃ q, (s.tenure q).Holds := by
  rw [Ne, h.eq_empty_iff, not_forall_not]

/-- A step with no call for the mutex. -/
theorem Kept.put (h : s.Kept) (hx : x.tenure.Holds ↔ s.HasHandle p) : (s.put p x).Kept := by
  intro q
  show q ∈ s.handles ↔ ((s.put p x).tenure q).Holds
  rw [h q, tenure_put]
  by_cases heq : q = p
  · rw [heq, Function.update_self, hx]
  · rw [Function.update_of_ne heq]
    rfl

theorem Kept.opened (h : s.Kept) (hx : x.tenure.Holds) : ((s.put p x).opened p).Kept := by
  intro q
  show q ∈ insert p s.handles ↔ ((s.put p x).tenure q).Holds
  rw [Finset.mem_insert, h q, tenure_put]
  by_cases heq : q = p
  · rw [heq, Function.update_self]
    exact iff_of_true (Or.inl rfl) hx
  · rw [Function.update_of_ne heq, or_iff_right heq]
    rfl

theorem Kept.closed (h : s.Kept) (hx : ¬ x.tenure.Holds) : ((s.put p x).closed p).Kept := by
  intro q
  show q ∈ s.handles.erase p ↔ ((s.put p x).tenure q).Holds
  rw [Finset.mem_erase, h q, tenure_put]
  by_cases heq : q = p
  · rw [heq, Function.update_self]
    exact iff_of_false (fun hne => hne.1 rfl) hx
  · rw [Function.update_of_ne heq, and_iff_right heq]
    rfl

end Kept

/-- What an event means for the mutex. -/
def named (s : World π) : WorldEvent π → NamedEvent π
  | .starts _ _ => .stays
  | .createMutex p access =>
      if access = false then .stays else if s.handles = ∅ then .creates p else .finds p
  | .openMutex p access =>
      if access = false then .stays else if s.handles = ∅ then .misses p else .finds p
  | .launch c exitCode access =>
      if s.stillActive exitCode (s.party c).process then .stays
      else if access = false ∨ s.handles = ∅ then .stays else .finds c
  | .closeMutex p => .leaves p
  | .initialized _ => .stays
  | .runReturns p => .releases p
  | .createProcess _ _ _ => .stays
  | .poll _ _ => .stays
  | .terminate c ends => if ends then (s.party c).process.elim .stays .leaves else .stays
  | .ends p => .leaves p

end World

/-- The step as the object sees it. -/
def WorldEvent.seen (t : Transition (World π) (WorldEvent π) (MutexAnswer π)) :
    Transition (π → Tenure) (NamedEvent π) Unit :=
  ⟨t.before.tenure, t.before.named t.event, [], t.after.tenure⟩

namespace World

variable {s s' : World π} {out : List (MutexAnswer π)}

/-- A step follows the object: its handles stay in step with the parties, and what it does
    to them is an event of the object. -/
def Follows (s : World π) (e : WorldEvent π) (s' : World π) : Prop :=
  s'.Kept ∧ (s.named e).apply s.tenure = some s'.tenure

/-- The answers are true. -/
def Truthful (s : World π) (out : List (MutexAnswer π)) : Prop :=
  ∀ p, (.absent p ∈ out → ∀ q, ¬ s.HasHandle q) ∧ (.present p ∈ out → ∃ q, s.HasHandle q)

omit [DecidableEq π] in
theorem truthful_nil (s : World π) : s.Truthful [] := by
  intro p
  exact ⟨nofun, nofun⟩

omit [DecidableEq π] in
theorem Kept.truthful_absent (h : s.Kept) (hnone : s.handles = ∅) (p : π) :
    s.Truthful [.absent p] := by
  intro q
  refine ⟨fun _ => h.eq_empty_iff.mp hnone, fun hmem => ?_⟩
  cases List.mem_singleton.mp hmem

omit [DecidableEq π] in
theorem Kept.truthful_present (h : s.Kept) (hsome : s.handles ≠ ∅) (p : π) :
    s.Truthful [.present p] := by
  intro q
  refine ⟨fun hmem => ?_, fun _ => h.ne_empty_iff.mp hsome⟩
  cases List.mem_singleton.mp hmem

-- ============================================================================
-- The steps
-- ============================================================================

section Steps

variable {e : WorldEvent π} {p : π} {x y : Party π}

/-- A step of one party that does not ask for the mutex. -/
theorem Kept.stays (h : s.Kept) (hp : s.party p = y) (hx : x.tenure = y.tenure)
    (he : s.named e = .stays) : s.Follows e (s.put p x) := by
  have hsame : x.tenure = s.tenure p := by rw [hx, tenure, hp]
  refine ⟨h.put ?_, ?_⟩
  · rw [hsame]
    rfl
  · rw [he, tenure_put_same hsame]
    rfl

/-- A step in which a party gives its handle back, or ends. -/
theorem Kept.leaves (h : s.Kept) (hx : x.tenure = .outside) (he : s.named e = .leaves p) :
    s.Follows e ((s.put p x).closed p) := by
  refine ⟨h.closed ?_, ?_⟩
  · rw [hx]
    exact id
  · rw [he, tenure_closed, tenure_put, hx]
    rfl

theorem Kept.same (h : s.Kept) (he : s.named e = .stays) : s.Follows e s := by
  refine ⟨h, ?_⟩
  rw [he]
  rfl

theorem Kept.ended (h : s.Kept) (p : π) : (s.ended p).Kept :=
  h.closed id

/-- A look for the mutex. -/
theorem Kept.openMutex (h : s.Kept) {access : Bool} {found missing denied : Party π}
    (hopen : s.openMutex p access found missing denied = (s', out))
    (hp : s.tenure p = .outside) (hfound : found.tenure = .passing)
    (hmissing : ¬ missing.tenure.Holds) (hdenied : denied.tenure = .outside) :
    s'.Kept ∧ s.Truthful out ∧ s'.tenure =
      if access = false then s.tenure
      else if s.handles = ∅ then Function.update s.tenure p missing.tenure
      else Function.update s.tenure p .passing := by
  have hnot : ¬ s.HasHandle p := by
    show ¬ (s.tenure p).Holds
    rw [hp]
    exact id
  rw [World.openMutex] at hopen
  by_cases haccess : access = false
  · rw [if_pos haccess] at hopen ⊢
    obtain ⟨rfl, rfl⟩ := Prod.mk.inj hopen
    refine ⟨h.put (iff_of_false ?_ hnot), s.truthful_nil, tenure_put_same (hdenied.trans hp.symm)⟩
    rw [hdenied]
    exact id
  · rw [if_neg haccess] at hopen ⊢
    by_cases hnone : s.handles = ∅
    · rw [if_pos hnone] at hopen ⊢
      obtain ⟨rfl, rfl⟩ := Prod.mk.inj hopen
      exact ⟨h.put (iff_of_false hmissing hnot), h.truthful_absent hnone p, tenure_put s p missing⟩
    · rw [if_neg hnone] at hopen ⊢
      obtain ⟨rfl, rfl⟩ := Prod.mk.inj hopen
      refine ⟨h.opened ?_, h.truthful_present hnone p, ?_⟩
      · rw [hfound]
        trivial
      · rw [tenure_opened, tenure_put, hfound]

theorem Kept.follows_createMutex (h : s.Kept) {access : Bool}
    (hstep : s.step (.createMutex p access) = some (s', out)) :
    s.Follows (.createMutex p access) s' ∧ s.Truthful out := by
  simp only [step] at hstep
  split at hstep
  case h_2 => cases hstep
  case h_1 hp =>
    have houtside : s.tenure p = .outside := by rw [tenure, hp]; rfl
    by_cases haccess : access = false
    · rw [if_pos haccess] at hstep
      obtain ⟨rfl, rfl⟩ := Prod.mk.inj (Option.some.inj hstep)
      exact ⟨h.stays hp rfl (if_pos haccess), s.truthful_nil⟩
    · rw [if_neg haccess] at hstep
      by_cases hnone : s.handles = ∅
      · rw [if_pos hnone] at hstep
        obtain ⟨rfl, rfl⟩ := Prod.mk.inj (Option.some.inj hstep)
        refine ⟨⟨h.opened trivial, ?_⟩, h.truthful_absent hnone p⟩
        rw [named, if_neg haccess, if_pos hnone, tenure_opened, tenure_put]
        exact NamedEvent.apply_creates houtside (h.eq_empty_iff.mp hnone)
      · rw [if_neg hnone] at hstep
        obtain ⟨rfl, rfl⟩ := Prod.mk.inj (Option.some.inj hstep)
        refine ⟨⟨h.opened trivial, ?_⟩, h.truthful_present hnone p⟩
        rw [named, if_neg haccess, if_neg hnone, tenure_opened, tenure_put]
        exact NamedEvent.apply_finds houtside (h.ne_empty_iff.mp hnone)

theorem Kept.follows_openMutex (h : s.Kept) {access : Bool}
    (hstep : s.step (.openMutex p access) = some (s', out)) :
    s.Follows (.openMutex p access) s' ∧ s.Truthful out := by
  simp only [step] at hstep
  split at hstep
  case h_2 => cases hstep
  case h_1 hp =>
    have houtside : s.tenure p = .outside := by rw [tenure, hp]; rfl
    obtain ⟨hkept, htrue, htenure⟩ := h.openMutex (Option.some.inj hstep) houtside rfl id rfl
    refine ⟨⟨hkept, ?_⟩, htrue⟩
    rw [htenure, named]
    by_cases haccess : access = false
    · rw [if_pos haccess, if_pos haccess]
      rfl
    · rw [if_neg haccess, if_neg haccess]
      by_cases hnone : s.handles = ∅
      · rw [if_pos hnone, if_pos hnone]
        exact NamedEvent.apply_misses houtside (h.eq_empty_iff.mp hnone)
      · rw [if_neg hnone, if_neg hnone]
        exact NamedEvent.apply_finds houtside (h.ne_empty_iff.mp hnone)

theorem Kept.follows_launch (h : s.Kept) {exitCode access : Bool}
    (hstep : s.step (.launch p exitCode access) = some (s', out)) :
    s.Follows (.launch p exitCode access) s' ∧ s.Truthful out := by
  simp only [step] at hstep
  split at hstep
  case h_2 => cases hstep
  case h_1 process hp =>
    have houtside : s.tenure p = .outside := by rw [tenure, hp]; rfl
    have hprocess : (s.party p).process = process := by rw [hp]; rfl
    by_cases hactive : s.stillActive exitCode process = true
    · rw [if_pos hactive] at hstep
      obtain ⟨rfl, rfl⟩ := Prod.mk.inj (Option.some.inj hstep)
      refine ⟨h.same ?_, s.truthful_nil⟩
      rw [named, hprocess, if_pos hactive]
    · rw [if_neg hactive] at hstep
      obtain ⟨hkept, htrue, htenure⟩ := h.openMutex (Option.some.inj hstep) houtside rfl id rfl
      refine ⟨⟨hkept, ?_⟩, htrue⟩
      have hmissing : Function.update s.tenure p
          (.credential none .creating : Party π).tenure = s.tenure := by
        show Function.update s.tenure p .outside = s.tenure
        rw [← houtside, Function.update_eq_self]
      rw [htenure, named, hprocess, if_neg hactive]
      by_cases haccess : access = false
      · rw [if_pos haccess, if_pos (Or.inl haccess)]
        rfl
      · rw [if_neg haccess]
        by_cases hnone : s.handles = ∅
        · rw [if_pos hnone, if_pos (Or.inr hnone), hmissing]
          rfl
        · rw [if_neg hnone, if_neg (not_or.mpr ⟨haccess, hnone⟩)]
          exact NamedEvent.apply_finds houtside (h.ne_empty_iff.mp hnone)

theorem Kept.follows_closeMutex (h : s.Kept)
    (hstep : s.step (.closeMutex p) = some (s', out)) :
    s.Follows (.closeMutex p) s' ∧ s.Truthful out := by
  simp only [step] at hstep
  split at hstep
  case h_4 => cases hstep
  all_goals
    obtain ⟨rfl, rfl⟩ := Prod.mk.inj (Option.some.inj hstep)
    exact ⟨h.leaves rfl rfl, s.truthful_nil⟩

theorem Kept.follows_runReturns (h : s.Kept)
    (hstep : s.step (.runReturns p) = some (s', out)) :
    s.Follows (.runReturns p) s' ∧ s.Truthful out := by
  simp only [step] at hstep
  split at hstep
  case h_2 => cases hstep
  case h_1 hp =>
    obtain ⟨rfl, rfl⟩ := Prod.mk.inj (Option.some.inj hstep)
    refine ⟨⟨h.closed id, ?_⟩, s.truthful_nil⟩
    rw [named, tenure_closed, tenure_put]
    exact NamedEvent.apply_releases (by rw [tenure, hp]; rfl)

theorem Kept.follows_createProcess (h : s.Kept) {c q : π} {launches : Bool}
    (hstep : s.step (.createProcess c q launches) = some (s', out)) :
    s.Follows (.createProcess c q launches) s' ∧ s.Truthful out := by
  simp only [step] at hstep
  split at hstep
  case h_2 => cases hstep
  case h_1 process hc hq =>
    by_cases hlaunches : launches = true
    · rw [if_pos hlaunches] at hstep
      obtain ⟨rfl, rfl⟩ := Prod.mk.inj (Option.some.inj hstep)
      have hne : c ≠ q := by
        rintro rfl
        rw [hc] at hq
        cases hq
      obtain ⟨hkept, htenure⟩ := h.stays (e := .createProcess c q launches)
        (x := .service .starting) hq rfl rfl
      have hc' : (s.put q (.service .starting)).party c = .credential process .creating := by
        show Function.update s.party q (.service .starting) c = .credential process .creating
        rw [Function.update_of_ne hne, hc]
      obtain ⟨hkept', htenure'⟩ := hkept.stays (e := .createProcess c q launches)
        (x := .credential (some q) (.waiting q)) hc' rfl rfl
      exact ⟨⟨hkept', htenure.trans htenure'⟩, s.truthful_nil⟩
    · rw [if_neg hlaunches] at hstep
      obtain ⟨rfl, rfl⟩ := Prod.mk.inj (Option.some.inj hstep)
      exact ⟨h.stays hc rfl rfl, s.truthful_nil⟩

theorem Kept.follows_poll (h : s.Kept) {c : π} {elapsed : Bool}
    (hstep : s.step (.poll c elapsed) = some (s', out)) :
    s.Follows (.poll c elapsed) s' ∧ s.Truthful out := by
  simp only [step] at hstep
  split at hstep
  case h_2 => cases hstep
  case h_1 process q hc =>
    split at hstep
    · obtain ⟨rfl, rfl⟩ := Prod.mk.inj (Option.some.inj hstep)
      exact ⟨h.stays hc rfl rfl, s.truthful_nil⟩
    · split at hstep
      · obtain ⟨rfl, rfl⟩ := Prod.mk.inj (Option.some.inj hstep)
        exact ⟨h.stays hc rfl rfl, s.truthful_nil⟩
      · obtain ⟨rfl, rfl⟩ := Prod.mk.inj (Option.some.inj hstep)
        exact ⟨h.same rfl, s.truthful_nil⟩

/-- The credential has its handle closed; the process behind it may be gone. -/
theorem Kept.terminated (h : s.Kept) {c : π} {process : Option π} {point point' : LaunchPoint π}
    (hc : s.party c = .credential process point)
    (hpoint : (Party.credential process point).tenure = .outside)
    (hpoint' : (Party.credential none point').tenure = .outside) (ends : Bool) :
    s.Follows (.terminate c ends)
      ((if ends then process.elim s s.ended else s).put c (.credential none point')) := by
  have hprocess : (s.party c).process = process := by rw [hc]; rfl
  have houtside : s.tenure c = .outside := by rw [tenure, hc, hpoint]
  cases ends with
  | false =>
      rw [if_neg Bool.false_ne_true]
      exact h.stays hc (hpoint'.trans hpoint.symm) rfl
  | true =>
      rw [if_pos rfl]
      cases process with
      | none => exact h.stays hc (hpoint'.trans hpoint.symm) (by rw [named, hprocess]; rfl)
      | some q =>
          have htenure : (s.ended q).tenure c = .outside := by
            show (Function.update s.party q .ended c).tenure = .outside
            by_cases heq : c = q
            · rw [heq, Function.update_self]
              rfl
            · rw [Function.update_of_ne heq]
              exact houtside
          obtain ⟨hkept, hsame⟩ := (h.ended q).stays (e := .poll c true)
            (x := .credential none point') rfl (hpoint'.trans htenure.symm) rfl
          refine ⟨hkept, ?_⟩
          rw [named, hprocess]
          exact (congrArg some (tenure_put s q .ended)).symm.trans hsame

theorem Kept.follows_terminate (h : s.Kept) {c : π} {ends : Bool}
    (hstep : s.step (.terminate c ends) = some (s', out)) :
    s.Follows (.terminate c ends) s' ∧ s.Truthful out := by
  simp only [step] at hstep
  split at hstep
  case h_3 => cases hstep
  case h_1 process hc =>
    obtain ⟨rfl, rfl⟩ := Prod.mk.inj (Option.some.inj hstep)
    exact ⟨h.terminated hc rfl rfl ends, s.truthful_nil⟩
  case h_2 process q hc =>
    obtain ⟨rfl, rfl⟩ := Prod.mk.inj (Option.some.inj hstep)
    exact ⟨h.terminated hc rfl rfl ends, s.truthful_nil⟩

/-- Every step of a party follows the object, and the system answers truly. -/
theorem Kept.follows (h : s.Kept) (hstep : s.step e = some (s', out)) :
    s.Follows e s' ∧ s.Truthful out := by
  cases e with
  | starts p program =>
      simp only [step] at hstep
      split at hstep
      case h_2 => cases hstep
      case h_1 hp =>
        obtain ⟨rfl, rfl⟩ := Prod.mk.inj (Option.some.inj hstep)
        refine ⟨h.stays hp ?_ rfl, s.truthful_nil⟩
        cases program <;> rfl
  | createMutex p access => exact h.follows_createMutex hstep
  | openMutex p access => exact h.follows_openMutex hstep
  | launch c exitCode access => exact h.follows_launch hstep
  | closeMutex p => exact h.follows_closeMutex hstep
  | initialized p =>
      simp only [step] at hstep
      split at hstep
      case h_2 => cases hstep
      case h_1 hp =>
        obtain ⟨rfl, rfl⟩ := Prod.mk.inj (Option.some.inj hstep)
        exact ⟨h.stays hp rfl rfl, s.truthful_nil⟩
  | runReturns p => exact h.follows_runReturns hstep
  | createProcess c q launches => exact h.follows_createProcess hstep
  | poll c elapsed => exact h.follows_poll hstep
  | terminate c ends => exact h.follows_terminate hstep
  | ends p =>
      simp only [step] at hstep
      split at hstep
      case h_1 => cases hstep
      case h_2 =>
        obtain ⟨rfl, rfl⟩ := Prod.mk.inj (Option.some.inj hstep)
        exact ⟨h.leaves rfl rfl, s.truthful_nil⟩

end Steps

/-- Only a service creates the mutex. -/
theorem event_of_creates {e : WorldEvent π} {q : π} (h : s.named e = .creates q) :
    e = .createMutex q true := by
  cases e with
  | createMutex p access =>
      rw [named] at h
      split at h
      · cases h
      · rename_i haccess
        split at h
        · obtain rfl := NamedEvent.creates.inj h
          rw [Bool.eq_true_of_not_eq_false haccess]
        · cases h
  | openMutex p access =>
      rw [named] at h
      split at h
      · cases h
      · split at h <;> cases h
  | launch c exitCode access =>
      rw [named] at h
      split at h
      · cases h
      · split at h <;> cases h
  | terminate c ends =>
      rw [named] at h
      split at h
      · cases hprocess : (s.party c).process with
        | none =>
            rw [hprocess] at h
            cases h
        | some q =>
            rw [hprocess] at h
            cases h
      · cases h
  | _ => cases h

theorem kept_init (h : (instances π).init s) : s.Kept ∧ (namedObject π).init s.tenure := by
  obtain ⟨hparty, hhandles⟩ := h
  refine ⟨fun p => ?_, fun p => ?_⟩
  · rw [hhandles, HasHandle, hparty p]
    exact iff_of_false (Finset.notMem_empty p) id
  · rw [tenure, hparty p]
    rfl

end World

-- ============================================================================
-- Runs
-- ============================================================================

section Runs

open Machine World

variable {tr : List (Transition (World π) (WorldEvent π) (MutexAnswer π))} {s : World π}

/-- The runs of the parties are runs of the object. -/
theorem follows (h : (instances π).Run tr s) :
    s.Kept ∧ (namedObject π).Run (tr.map WorldEvent.seen) s.tenure := by
  refine h.map_under World.tenure WorldEvent.seen (fun s => World.kept_init)
    (fun _ => rfl) (fun _ => rfl) ?_
  intro t hkept ht
  obtain ⟨⟨hkept', happly⟩, -⟩ := hkept.follows ht
  refine ⟨hkept', ?_⟩
  show ((t.before.named t.event).apply t.before.tenure).map (·, []) = some (t.after.tenure, [])
  rw [happly]
  rfl

/-- In every order of the calls of all parties: at most one service is between `try_create`
    and `release`; a backend next to it is that of a service that had released the mutex, or
    of a GUI that had found none, before the service created it; and who is told that there
    is no mutex is so while nobody is between the calls that open and close it, who is told
    that there is one while somebody is. -/
theorem singleInstance (h : (instances π).Run tr s) :
    (∀ p q, s.Guarded p → s.Guarded q → p = q) ∧
    (∀ p q, s.Beside p → s.Guarded q →
      ∃ t ∈ tr, t.event = .createMutex q true ∧ t.before.Beside p) ∧
    ∀ t ∈ tr, ∀ p,
      (.absent p ∈ t.sent → ∀ q, ¬ t.before.HasHandle q) ∧
      (.present p ∈ t.sent → ∃ q, t.before.HasHandle q) := by
  obtain ⟨-, hrun⟩ := follows h
  refine ⟨fun p q hp hq => ?_, fun p q hp hq => ?_, fun t ht => ?_⟩
  · exact namedOwner_unique hrun (guarded_iff.mp hp) (guarded_iff.mp hq)
  · obtain ⟨t', hmem, hevent, hbefore⟩ :=
      creates_of_beside hrun (beside_iff.mp hp) (guarded_iff.mp hq)
    obtain ⟨t, ht, rfl⟩ := List.mem_map.mp hmem
    exact ⟨t, ht, event_of_creates hevent, beside_iff.mpr hbefore⟩
  · obtain ⟨pre, post, rfl⟩ := List.append_of_mem ht
    obtain ⟨hpre, htakes⟩ := h.cut pre t post rfl
    exact ((follows hpre).1.follows htakes).2

/-- A GUI finds no service and goes on alone; then a credential starts one. -/
theorem singleInstance_example :
    ∃ tr s, (instances Program).Run tr s ∧ s.Beside .gui ∧ s.Guarded .service ∧
      ∃ t ∈ tr, t.event = .createMutex .service true ∧ t.before.Beside .gui := by
  have h₀ : (instances Program).Run [] ⟨fun _ => .absent, ∅⟩ := Run.nil ⟨fun _ => rfl, rfl⟩
  have h₁ := h₀.event (e := .starts .gui .gui) rfl
  have h₂ := h₁.event (e := .starts .credential .credential) rfl
  have h₃ := h₂.event (e := .openMutex .gui true) rfl
  have h₄ := h₃.event (e := .launch .credential true true) rfl
  have h₅ := h₄.event (e := .createProcess .credential .service true) rfl
  have h₆ := h₅.event (e := .createMutex .service true) rfl
  have h₇ := h₆.event (e := .initialized .service) rfl
  exact ⟨_, _, h₇, Or.inr rfl, Or.inr rfl,
    (singleInstance h₇).2.1 .gui .service (Or.inr rfl) (Or.inr rfl)⟩

end Runs

end Smile2Unlock.Service
