/-
  Smile2Unlock.CredentialProvider.StringMemory

  What each function does to the strings of a tile: it takes those that the tile holds, and the
  temporary ones before them, to those that it holds afterwards (`Uses`, `Moves`).  Its looks are
  at strings that are there if the pointers are right (`Pointed`).
-/

import Smile2Unlock.CredentialProvider.TileStrings

namespace Smile2Unlock.CredentialProvider

open Smile2Unlock Lib HeapCall

variable {η : Type}

-- ============================================================================
-- What a tile holds
-- ============================================================================

namespace TileStrings

/-- Its variables, what it has given to LogonUI and what it has overwritten. -/
def owned (s : TileStrings η) : List η :=
  heldIn s.slots StringSlot.all ++ (s.given ++ s.lost)

def held (s : TileStrings η) : List (Block η) := s.owned.map coTask

theorem slot_mem (slot : StringSlot) : slot ∈ StringSlot.all := by
  cases slot with
  | field i => simp [StringSlot.all]
  | label i => simp [StringSlot.all]
  | userSid => simp [StringSlot.all]
  | qualifiedUserName => simp [StringSlot.all]

theorem slots_nodup : StringSlot.all.Nodup := by decide

theorem mem_held {s : TileStrings η} {slot : StringSlot} {x : η} (h : s.slots slot = some x) :
    coTask x ∈ s.held :=
  List.mem_map_of_mem (List.mem_append_left _ (mem_heldIn (slot_mem slot) h))

/-- A variable and the others. -/
theorem owned_slot (s : TileStrings η) (slot : StringSlot) :
    s.owned.Perm ((s.slots slot).toList ++
      (heldIn s.slots (StringSlot.all.erase slot) ++ (s.given ++ s.lost))) := by
  rw [← List.append_assoc]
  exact (heldIn_perm s.slots (slot_mem slot)).append_right _

theorem heldIn_assigned (s : TileStrings η) (slot : StringSlot) (x : Option η) :
    (heldIn (Function.update s.slots slot x) StringSlot.all).Perm
      (x.toList ++ heldIn s.slots (StringSlot.all.erase slot)) :=
  heldIn_update s.slots (slot_mem slot) slots_nodup x

end TileStrings

-- ============================================================================
-- Temporary strings
-- ============================================================================

/-- Temporary strings stand before what the tile holds. -/
def blocks (x : Option η) : List (Block η) := x.toList.map coTask

variable [DecidableEq η] {R : HeapRules (Block η) Deallocator} {had : List (Block η)}

/-- Every block may be freed with the function of its allocator. -/
def RightFrees (R : HeapRules (Block η) Deallocator) : Prop :=
  ∀ b : Block η, R.fits b.deallocator b

theorem uses_allocates (x : Option η) : Uses R had (blocks x ++ had) (allocates x) := by
  cases x with
  | none => exact uses_nil R had
  | some x => exact uses_allocated R had (coTask x)

theorem uses_frees (hfits : RightFrees R) (x : Option η) :
    Uses R (blocks x ++ had) had (frees x) := by
  cases x with
  | none => exact uses_nil R had
  | some x => exact uses_freed (hfits (coTask x)) had

theorem uses_looks {xs : List η} (h : R.pointed → ∀ x ∈ xs, coTask x ∈ had) :
    Uses R had had (looks xs) := by
  apply uses_reads
  intro hpointed b hb
  obtain ⟨x, hx, rfl⟩ := List.mem_map.mp hb
  exact h hpointed x hx

/-- A look at a string that is there. -/
theorem uses_look {x : η} (h : R.pointed → coTask x ∈ had) : Uses R had had (looks [x]) := by
  apply uses_looks
  intro hpointed y hy
  rw [List.mem_singleton.mp hy]
  exact h hpointed

theorem uses_utf8ToWideString (hfits : RightFrees R) (io : Option (η × Bool)) :
    Uses R had (blocks (utf8ToWideString io).1 ++ had) (utf8ToWideString io).2 := by
  match io with
  | none => exact uses_nil R had
  | some (x, true) => exact uses_allocates (some x)
  | some (x, false) => exact (uses_allocates (some x)).append (uses_frees hfits (some x))

namespace TileStrings

/-- The inner copy lies over the copy of the caller. -/
theorem uses_protectAndCopyString (hfits : RightFrees R) (io : ProtectIo η) {pwz : η}
    (hpwz : R.pointed → coTask pwz ∈ had) :
    Uses R had (blocks (protectAndCopyString io pwz).1 ++ had) (protectAndCopyString io pwz).2 := by
  rw [protectAndCopyString]
  cases io.innerCopy with
  | none => exact uses_look hpwz
  | some copy =>
      have hcopied : Uses R had (coTask copy :: had)
          (looks [pwz] ++ allocates (some copy) ++ looks [copy]) :=
        ((uses_look hpwz).append (uses_allocates (some copy))).append
          (uses_look fun _ => List.mem_cons_self)
      have hfreed : Uses R (coTask copy :: had) had (frees (some copy)) :=
        uses_frees hfits (some copy)
      dsimp only
      split
      · exact hcopied.append hfreed
      · cases io.result with
        | none => exact hcopied.append hfreed
        | some x =>
            have hwritten := (hcopied.append (uses_allocates (some x))).append
              (uses_look (x := copy) fun _ => List.mem_cons_of_mem _ List.mem_cons_self)
            dsimp only
            split
            · apply hwritten.append
              exact (uses_frees hfits (some copy)).perm_left (List.Perm.swap _ _ _)
            · exact (hwritten.append (uses_frees hfits (some x))).append hfreed

theorem uses_protectIfNecessaryAndCopyPassword (hfits : RightFrees R) (io : ProtectIo η)
    {password : Option η} (cpus : UsageScenario)
    (hpassword : R.pointed → ∀ x, password = some x → coTask x ∈ had) :
    Uses R had (blocks (protectIfNecessaryAndCopyPassword io password cpus).1 ++ had)
      (protectIfNecessaryAndCopyPassword io password cpus).2 := by
  rw [protectIfNecessaryAndCopyPassword.eq_def]
  cases password with
  | none => exact uses_allocates io.result
  | some password =>
      have hlook : Uses R had had (looks [password]) :=
        uses_look fun hpointed => hpassword hpointed password rfl
      dsimp only
      split
      · exact hlook.append (uses_allocates io.result)
      · cases io.copy with
        | none => exact hlook
        | some copy =>
            have hcopied := (hlook.append (uses_allocates (some copy))).append
              (uses_look (x := copy) fun _ => List.mem_cons_self)
            have hresult : Uses R (coTask copy :: had)
                (blocks (if cpus = .credUi ∨ io.alreadyEncrypted then
                    (io.result, looks [copy] ++ allocates io.result)
                  else protectAndCopyString io copy).1 ++ coTask copy :: had)
                (if cpus = .credUi ∨ io.alreadyEncrypted then
                    (io.result, looks [copy] ++ allocates io.result)
                  else protectAndCopyString io copy).2 := by
              split
              · exact (uses_look fun _ => List.mem_cons_self).append (uses_allocates io.result)
              · exact uses_protectAndCopyString hfits io fun _ => List.mem_cons_self
            exact (hcopied.append hresult).append
              ((uses_frees hfits (some copy)).perm_left List.perm_middle)

/-- The two strings of the account, the domain first. -/
theorem uses_splitDomainAndUsername (hfits : RightFrees R) (io : AccountIo η) {name : η}
    (hname : R.pointed → coTask name ∈ had) :
    let account := (splitDomainAndUsername io name).1
    Uses R had (blocks account.2 ++ (blocks account.1 ++ had))
      (splitDomainAndUsername io name).2 := by
  have hread (x : Option η) : Uses R (blocks x ++ had) (blocks x ++ had) (looks [name]) :=
    uses_look fun hpointed => List.mem_append_right _ (hname hpointed)
  have hlook : Uses R had had (looks [name]) := uses_look hname
  rw [splitDomainAndUsername]
  match io.domain, io.username with
  | none, _ => exact hlook
  | some domain, none =>
      exact ((hlook.append (uses_allocates (some domain))).append (hread (some domain))).append
        (uses_frees hfits (some domain))
  | some domain, some username =>
      refine (((hlook.append (uses_allocates (some domain))).append (hread (some domain))).append
        (uses_allocates (some username))).append (uses_look fun hpointed => ?_)
      exact List.mem_append_right _ (List.mem_append_right _ (hname hpointed))

theorem uses_copyDomainAndUsername (io : AccountIo η) {pwzUsername : Option η}
    (hname : R.pointed → ∀ x, pwzUsername = some x → coTask x ∈ had) :
    let account := (copyDomainAndUsername io pwzUsername).1
    Uses R had (blocks account.2 ++ (blocks account.1 ++ had))
      (copyDomainAndUsername io pwzUsername).2 := by
  rw [copyDomainAndUsername.eq_def]
  match io.domain, pwzUsername with
  | none, _ => exact uses_nil R had
  | some domain, none => exact uses_allocates (some domain)
  | some domain, some name =>
      refine ((uses_allocates (some domain)).append (uses_look fun hpointed => ?_)).append
        (uses_allocates io.username)
      exact List.mem_append_right _ (hname hpointed name rfl)

/-- Strings that are there if they are not null. -/
theorem uses_lookOption {x : Option η} (h : R.pointed → ∀ y, x = some y → coTask y ∈ had) :
    Uses R had had (looks x.toList) :=
  uses_looks fun hpointed y hy => h hpointed y (Option.mem_toList.mp hy)

theorem uses_unqualifiedAccount (hfits : RightFrees R) (io : AccountIo η)
    {pwzUsername : Option η} (hname : R.pointed → ∀ x, pwzUsername = some x → coTask x ∈ had) :
    let account := (unqualifiedAccount io pwzUsername).1
    Uses R had (blocks account.2 ++ (blocks account.1 ++ had))
      (unqualifiedAccount io pwzUsername).2 := by
  have hlooks : Uses R had had (looks pwzUsername.toList) := uses_lookOption hname
  rw [unqualifiedAccount.eq_def]
  split
  · next name _ =>
      have hthere (hpointed : R.pointed) : coTask name ∈ had := hname hpointed name rfl
      exact (uses_look hthere).append (uses_splitDomainAndUsername hfits io hthere)
  · split
    · exact hlooks.append (uses_copyDomainAndUsername io hname)
    · exact hlooks

theorem uses_logonAccount (hfits : RightFrees R) (io : AccountIo η)
    {qualifiedUserName pwzUsername : Option η}
    (hqualified : ∀ x, qualifiedUserName = some x → coTask x ∈ had)
    (hname : R.pointed → ∀ x, pwzUsername = some x → coTask x ∈ had) :
    let account := (logonAccount io qualifiedUserName pwzUsername).1
    Uses R had (blocks account.2 ++ (blocks account.1 ++ had))
      (logonAccount io qualifiedUserName pwzUsername).2 := by
  have hlooks : Uses R had had (looks qualifiedUserName.toList) :=
    uses_lookOption fun _ => hqualified
  rw [logonAccount.eq_def]
  split
  · next name _ =>
      have hthere (_ : R.pointed) : coTask name ∈ had := hqualified name rfl
      exact (uses_look hthere).append (uses_splitDomainAndUsername hfits io hthere)
  · exact hlooks.append (uses_unqualifiedAccount hfits io hname)

-- ============================================================================
-- Steps
-- ============================================================================

omit [DecidableEq η] in
theorem assign_slots (slot : StringSlot) (x : Option η) (s : TileStrings η) :
    (assign slot x s).1.slots = Function.update s.slots slot x := rfl

theorem owned_assign (slot : StringSlot) (x : Option η) (s : TileStrings η) :
    (x.toList ++ s.owned).Perm (assign slot x s).1.owned := by
  apply List.perm_iff_count.mpr
  intro a
  have hold := (s.owned_slot slot).count_eq a
  have hnew := (s.heldIn_assigned slot x).count_eq a
  simp only [assign, owned, List.count_append] at hold hnew ⊢
  omega

theorem owned_free (slot : StringSlot) (s : TileStrings η) :
    s.owned.Perm ((s.slots slot).toList ++ (free slot s).1.owned) := by
  apply List.perm_iff_count.mpr
  intro a
  have hold := (s.owned_slot slot).count_eq a
  have hnew := (s.heldIn_assigned slot none).count_eq a
  simp only [free, owned, List.count_append, Option.toList_none, List.count_nil] at hold hnew ⊢
  omega

theorem owned_give (x : Option η) (s : TileStrings η) :
    (x.toList ++ s.owned).Perm (give x s).1.owned := by
  apply List.perm_iff_count.mpr
  intro a
  simp only [give, owned, List.count_append]
  omega

omit [DecidableEq η] in
theorem held_perm {s : TileStrings η} {x : Option η} {l : List η}
    (h : (x.toList ++ s.owned).Perm l) : (blocks x ++ s.held).Perm (l.map coTask) := by
  have hmap := h.map coTask
  rwa [List.map_append] at hmap

/-- A part of a call takes what the tile holds before it to what the tile holds after it. -/
def Moves (R : HeapRules (Block η) Deallocator) (f : TileStep η) (s : TileStrings η) : Prop :=
  Uses R s.held (f s).1.held (f s).2

theorem moves_skip (s : TileStrings η) : Moves R (fun s => (s, [])) s := uses_nil R s.held

theorem Moves.seq {f g : TileStep η} {s : TileStrings η} (hf : Moves R f s)
    (hg : Moves R g (f s).1) : Moves R (f.seq g) s :=
  Uses.append hf hg

theorem moves_each {α : Type} {f : α → TileStep η} {l : List α}
    (h : ∀ a ∈ l, ∀ s, Moves R (f a) s) (s : TileStrings η) : Moves R (TileStep.each f l) s := by
  induction l generalizing s with
  | nil => exact moves_skip s
  | cons a l ih =>
      obtain ⟨ha, hl⟩ := List.forall_mem_cons.mp h
      exact (ha s).seq (ih hl _)

theorem moves_assign (slot : StringSlot) (x : Option η) (s : TileStrings η) :
    Moves R (assign slot x) s :=
  (uses_allocates x).perm (held_perm (owned_assign slot x s))

theorem moves_free (hfits : RightFrees R) (slot : StringSlot) (s : TileStrings η) :
    Moves R (free slot) s :=
  (uses_frees hfits (s.slots slot)).perm_left (held_perm (owned_free slot s).symm).symm

theorem moves_give (x : Option η) (s : TileStrings η) : Moves R (give x) s :=
  (uses_allocates x).perm (held_perm (owned_give x s))

theorem uses_slot (slot : StringSlot) (s : TileStrings η) :
    Uses R s.held s.held (looks (s.slots slot).toList) :=
  uses_lookOption fun _ _ hx => mem_held hx

theorem moves_duplicate (slot : StringSlot) (x : Option η) (s : TileStrings η) :
    Moves R (duplicate slot x) s := by
  have hlook := @uses_slot η _ R slot s
  rw [Moves, duplicate]
  cases hslot : s.slots slot with
  | none => exact uses_nil R s.held
  | some source =>
      rw [hslot] at hlook
      exact hlook.append (moves_give x s)

-- ============================================================================
-- Pointers
-- ============================================================================

/-- `_pwzUsername` points into the qualified name or the edit field, and the strings that session
    threads are to show are in the fields. -/
structure Pointed (s : TileStrings η) : Prop where
  username : ∀ x, s.username = some x →
    s.slots .qualifiedUserName = some x ∨ s.slots (.field sfiEditText) = some x
  notifying : ∀ strings ∈ s.notifying, ∀ x ∈ strings,
    s.slots (.field sfiEditText) = some x ∨ s.slots (.field sfiPassword) = some x

omit [DecidableEq η] in
theorem Pointed.username_held {s : TileStrings η} (h : s.Pointed) {x : η}
    (hx : s.username = some x) : coTask x ∈ s.held := by
  rcases h.username x hx with hslot | hslot
  · exact mem_held hslot
  · exact mem_held hslot

omit [DecidableEq η] in
theorem Pointed.notifying_held {s : TileStrings η} (h : s.Pointed) {strings : List η}
    (hstrings : strings ∈ s.notifying) {x : η} (hx : x ∈ strings) : coTask x ∈ s.held := by
  rcases h.notifying strings hstrings x hx with hslot | hslot
  · exact mem_held hslot
  · exact mem_held hslot

-- ============================================================================
-- GetSerialization
-- ============================================================================

/-- `_pwzPassword` is the password field. -/
def PasswordIsField (s : TileStrings η) : Prop :=
  s.password = s.slots (.field sfiPassword)

/-- The packed buffer is given to LogonUI. -/
theorem uses_packLogon (io : LogonIo η) {domain username : η} {l : List (Block η)}
    (hdomain : coTask domain ∈ l) (husername : coTask username ∈ l) {s : TileStrings η}
    (hpassword : s.PasswordIsField) :
    Uses R (l ++ s.held) (l ++ (packLogon io domain username s).1.held)
      (packLogon io domain username s).2 := by
  have hthere (s' : TileStrings η) (hslots : s'.slots = s.slots) :
      ∀ x ∈ [domain, username] ++ s.password.toList, coTask x ∈ l ++ s'.held := by
    intro x hx
    simp only [List.mem_append, List.mem_cons, List.not_mem_nil, or_false] at hx
    rcases hx with (rfl | rfl) | hx
    · exact List.mem_append_left _ hdomain
    · exact List.mem_append_left _ husername
    · apply List.mem_append_right
      apply mem_held
      rw [hslots, ← hpassword]
      exact Option.mem_toList.mp hx
  have hlooks : Uses R (l ++ s.held) (l ++ s.held)
      (looks ([domain, username] ++ s.password.toList)) :=
    uses_looks fun _ => hthere s rfl
  have hlog : Uses R (l ++ s.held) (l ++ s.held) (looks [username]) :=
    uses_look fun _ => List.mem_append_left _ husername
  rw [packLogon]
  cases io.tooLong with
  | some i =>
      have htaken : Uses R (l ++ s.held) (l ++ s.held)
          (looks (([domain, username] ++ s.password.toList).take (i + 1))) :=
        uses_looks fun _ x hx => hthere s rfl x (List.mem_of_mem_take hx)
      exact htaken.append hlog
  | none =>
      dsimp only
      split
      · exact hlooks.append hlog
      · apply Uses.append ((hlooks.append hlog).append ((moves_give io.buffer s).under l))
        split
        · exact uses_looks fun _ => hthere _ rfl
        · exact uses_nil R _

theorem uses_serializeAccount (hfits : RightFrees R) (io : LogonIo η) {domain username : η}
    {l : List (Block η)} (hdomain : coTask domain ∈ l) (husername : coTask username ∈ l)
    {s : TileStrings η} (hpassword : s.PasswordIsField) :
    Uses R (l ++ s.held) (l ++ (serializeAccount io domain username s).1.held)
      (serializeAccount io domain username s).2 := by
  have hlooks : Uses R (l ++ s.held) (l ++ s.held) (looks [domain, username]) := by
    apply uses_looks
    intro _ x hx
    apply List.mem_append_left
    rcases List.mem_pair.mp hx with rfl | rfl
    · exact hdomain
    · exact husername
  have hcopied := hlooks.append (uses_protectIfNecessaryAndCopyPassword hfits io.protect s.cpus
    fun _ x hx => List.mem_append_right l (@mem_held η s (.field sfiPassword) x hx))
  rw [serializeAccount]
  split
  · next calls heq =>
      rw [heq] at hcopied
      exact hcopied
  · next password calls heq =>
      rw [heq] at hcopied
      have hpacked := uses_packLogon (R := R) (l := coTask password :: l) io
        (List.mem_cons_of_mem _ hdomain) (List.mem_cons_of_mem _ husername) hpassword
      exact (hcopied.append hpacked).append (uses_frees hfits (some password))

theorem moves_serializeLogon (hfits : RightFrees R) (io : LogonIo η) {s : TileStrings η}
    (hpoints : R.pointed → s.Pointed) (hpassword : s.PasswordIsField) :
    Moves R (serializeLogon io) s := by
  have haccount := uses_logonAccount hfits io.account 
    (@mem_held η s .qualifiedUserName) fun hpointed _ hx => (hpoints hpointed).username_held hx
  rw [Moves, serializeLogon]
  split
  · next domain username calls heq =>
      rw [heq] at haccount
      have hserialized := uses_serializeAccount (l := [coTask username, coTask domain]) hfits io
        (List.mem_cons_of_mem _ List.mem_cons_self) List.mem_cons_self hpassword
      exact ((haccount.append hserialized).append
        ((uses_frees hfits (some domain)).perm_left (List.Perm.swap _ _ _))).append
        (uses_frees hfits (some username))
  · next domain username calls hnot heq =>
      rw [heq] at haccount
      have hdomain : Uses R (blocks username ++ (blocks domain ++ s.held))
          (blocks username ++ s.held) (frees domain) :=
        (uses_frees hfits domain).under (blocks username)
      exact (haccount.append hdomain).append (uses_frees hfits username)

theorem uses_packedUsername (hfits : RightFrees R) (io : CredUiIo η) {name : η}
    (hname : R.pointed → coTask name ∈ had) :
    Uses R had ((packedUsername io name).1.toList ++ had) (packedUsername io name).2 := by
  have hlook : Uses R had had (looks [name]) := uses_look hname
  rw [packedUsername]
  split
  · match io.packedUsername with
    | none => exact hlook
    | some (x, _) => exact hlook.append (uses_allocates (some x))
  · match io.packedUsername with
    | none => exact hlook
    | some (x, true) => exact hlook.append (uses_allocated R had ⟨.heapFree, x⟩)
    | some (x, false) =>
        exact hlook.append ((uses_allocated R had ⟨.heapFree, x⟩).append
          (uses_freed (hfits ⟨.heapFree, x⟩) had))

theorem uses_packCredUi (hfits : RightFrees R) (io : CredUiIo η) {name : η} {packed : Block η}
    {s : TileStrings η} (hname : R.pointed → coTask name ∈ s.held)
    (hpassword : s.PasswordIsField) :
    Uses R (packed :: s.held) (packed :: (packCredUi io name packed s).1.held)
      (packCredUi io name packed s).2 := by
  have hreads (temps : List (Block η)) : Uses R (temps ++ packed :: s.held)
      (temps ++ packed :: s.held) (.read packed :: looks s.password.toList) := by
    apply Uses.under
    have hpacked (b : Block η) (hb : b ∈ [packed]) : b ∈ packed :: s.held := by
      rw [List.mem_singleton.mp hb]
      exact List.mem_cons_self
    have hread : Uses R (packed :: s.held) (packed :: s.held) ([packed].map .read) :=
      uses_reads fun _ => hpacked
    apply hread.append
    apply uses_lookOption
    intro _ x hx
    exact List.mem_cons_of_mem _ (mem_held (hpassword ▸ hx))
  rw [packCredUi]
  split
  · exact hreads []
  · exact hreads []
  · next buffer hsized hbuffer =>
      have hgiven := held_perm (owned_give (some buffer) s)
      have hpacks := ((hreads []).append (uses_allocates (some buffer))).append
        (hreads [coTask buffer])
      dsimp only
      split
      · have hpacked (b : Block η) (_ : R.pointed) (hb : b ∈ [packed]) :
            b ∈ packed :: (give (some buffer) s).1.held := by
          rw [List.mem_singleton.mp hb]
          exact List.mem_cons_self
        refine ((hpacks.perm ?_).append (uses_look fun hpointed => ?_)).append
          (uses_reads fun hpointed b => hpacked b hpointed)
        · exact (List.Perm.swap _ _ _).trans (hgiven.cons packed)
        · apply List.mem_cons_of_mem
          exact hgiven.subset (List.mem_cons_of_mem _ (hname hpointed))
      · exact hpacks.append (uses_frees hfits (some buffer))

/-- A name that `DomainUsernameStringAlloc` has made for CredUI. -/
structure CredUiName (io : CredUiIo η) (b : Block η) : Prop where
  unqualified : io.qualified = false
  made : io.packedUsername = some (b.address, true)
  deallocator : b.deallocator = .heapFree

omit [DecidableEq η] in
theorem packedUsername_cases {io : CredUiIo η} {name : η} {packed : Block η}
    (h : (packedUsername io name).1 = some packed) :
    packed.deallocator = .coTaskMemFree ∨ CredUiName io packed := by
  rw [packedUsername] at h
  split at h
  · left
    split at h
    · exact absurd h (by simp)
    · rw [← Option.some.inj h]
      rfl
  · next hqualified =>
      right
      match hmade : io.packedUsername with
      | none => exact absurd h (by simp [hmade, domainUsernameStringAlloc])
      | some (x, false) => exact absurd h (by simp [hmade, domainUsernameStringAlloc])
      | some (x, true) =>
          rw [hmade] at h
          rw [← Option.some.inj h]
          exact ⟨by simpa using hqualified, hmade, rfl⟩

theorem moves_serializeCredUi (hfits : RightFrees R) (io : CredUiIo η) {s : TileStrings η}
    (hnames : ∀ b, CredUiName io b → R.fits .coTaskMemFree b)
    (hpoints : R.pointed → s.Pointed) (hpassword : s.PasswordIsField) :
    Moves R (serializeCredUi io) s := by
  have hthere (name : η) (hname : s.username.or (s.slots (.field sfiEditText)) = some name)
      (hpointed : R.pointed) : coTask name ∈ s.held := by
    rcases Option.or_eq_some_iff.mp hname with hname | ⟨-, hname⟩
    · exact (hpoints hpointed).username_held hname
    · exact mem_held hname
  rw [Moves, serializeCredUi]
  split
  · exact moves_give io.statusText s
  · next name hname =>
      have hlook : Uses R s.held s.held (looks [name]) := uses_look (hthere name hname)
      have hpackedName := uses_packedUsername hfits io (hthere name hname)
      split
      · exact hlook.append (moves_give io.statusText s)
      · split
        · next calls heq =>
            rw [heq] at hpackedName
            exact hlook.append hpackedName
        · next packed calls heq =>
            have hfree : R.fits .coTaskMemFree packed := by
              rcases packedUsername_cases (congrArg Prod.fst heq) with hco | hmade
              · rw [← hco]
                exact hfits packed
              · exact hnames packed hmade
            rw [heq] at hpackedName
            exact ((hlook.append hpackedName).append
              (uses_packCredUi hfits io (hthere name hname) hpassword)).append
              (uses_freed hfree _)

theorem moves_getSerialization (hfits : RightFrees R) (io : SerializationIo η) {s : TileStrings η}
    (hnames : s.cpus = .credUi → ∀ b, CredUiName io.credUi b → R.fits .coTaskMemFree b)
    (hpoints : R.pointed → s.Pointed) : Moves R (getSerialization io) s := by
  let s' : TileStrings η := { s with password := s.slots (.field sfiPassword) }
  have hpoints' (hpointed : R.pointed) : s'.Pointed :=
    ⟨(hpoints hpointed).username, (hpoints hpointed).notifying⟩
  have hlooks : Uses R s.held s.held (looks (s.username.toList ++
      (s.slots (.field sfiPassword)).toList ++ (s.slots .qualifiedUserName).toList)) := by
    apply uses_looks
    intro hpointed x hx
    simp only [List.mem_append, Option.mem_toList] at hx
    rcases hx with (hx | hx) | hx
    · exact (hpoints hpointed).username_held hx
    · exact mem_held hx
    · exact mem_held hx
  have hbranch : Moves R
      (if s.cpus = .credUi then serializeCredUi io.credUi else serializeLogon io.logon) s' := by
    split
    · next hcpus => exact moves_serializeCredUi hfits io.credUi (hnames hcpus) hpoints' rfl
    · exact moves_serializeLogon hfits io.logon hpoints' rfl
  exact hlooks.append hbranch

-- ============================================================================
-- Initialize
-- ============================================================================

theorem moves_describeUser (hfits : RightFrees R) (io : InitializeIo η) (user : UserIo η)
    (i : FieldId) (s : TileStrings η) : Moves R (describeUser io user i) s := by
  have hdetail : Uses R (blocks (user.detail i) ++ s.held) (blocks (user.detail i) ++ s.held)
      (looks (user.detail i).toList) :=
    uses_lookOption fun _ x hx => List.mem_append_left _ (by simp [blocks, hx])
  exact (((uses_allocates (user.detail i)).append hdetail).append
    ((moves_assign (.field i) (io.field i) s).under _)).append (uses_frees hfits (user.detail i))

theorem moves_fieldDescriptorCopy (io : InitializeIo η) (i : FieldId) (s : TileStrings η) :
    Moves R (fieldDescriptorCopy io i) s := by
  rw [Moves, fieldDescriptorCopy]
  cases io.label i with
  | none => exact uses_nil R s.held
  | some label => exact moves_assign (.label i) (some label) s

theorem moves_initializeUser (hfits : RightFrees R) (io : InitializeIo η) (s : TileStrings η) :
    Moves R (initializeUser io) s := by
  rw [initializeUser]
  cases io.user with
  | none => exact moves_each (fun i _ => moves_assign (.field i) (io.field i)) s
  | some user =>
      apply (moves_assign .qualifiedUserName user.qualifiedUserName s).seq
      apply (moves_each (fun i _ => moves_describeUser hfits io user i) _).seq
      exact moves_assign .userSid user.userSid _

theorem moves_pointUsername (s : TileStrings η) : Moves R pointUsername s := by
  rw [Moves, pointUsername]
  split
  · next name hname => exact uses_look fun _ => mem_held hname
  · split
    · exact uses_nil R s.held
    · exact uses_nil R s.held

theorem moves_labelCredUi (io : InitializeIo η) (s : TileStrings η) :
    Moves R (labelCredUi io) s := by
  rw [Moves, labelCredUi]
  split
  · exact moves_each (fun i _ => moves_assign (.label i) (io.credUiLabel i)) s
  · exact uses_nil R s.held

theorem moves_initializeTile (hfits : RightFrees R) (io : InitializeIo η) (s : TileStrings η) :
    Moves R (initializeTile io) s := by
  rw [initializeTile]
  apply (moves_each (fun i _ => moves_fieldDescriptorCopy io i) s).seq
  apply (moves_labelCredUi io _).seq
  apply (moves_each (fun i _ => moves_assign (.field i) (io.field i)) _).seq
  apply (moves_initializeUser hfits io _).seq
  apply (moves_pointUsername _).seq
  exact moves_assign _ _ _

-- ============================================================================
-- Calls of LogonUI and parts of session threads
-- ============================================================================

theorem owned_put (slot : StringSlot) (x : η) (s : TileStrings η) :
    (x :: s.owned).Perm ((s.slots slot).toList ++ (put slot x s).1.owned) := by
  apply List.perm_iff_count.mpr
  intro a
  have hold := (s.owned_slot slot).count_eq a
  have hnew := (s.heldIn_assigned slot (some x)).count_eq a
  simp only [put, owned, List.count_append, Option.toList_some, List.count_cons, List.count_nil]
    at hold hnew ⊢
  omega

/-- A temporary string comes into a variable. -/
theorem uses_put (hfits : RightFrees R) (slot : StringSlot) (x : η) (s : TileStrings η) :
    Uses R (coTask x :: s.held) (put slot x s).1.held (put slot x s).2 := by
  have hperm := (owned_put slot x s).map coTask
  rw [List.map_append] at hperm
  exact (uses_frees hfits (s.slots slot)).perm_left hperm

theorem uses_storeUsername (hfits : RightFrees R) (username : Option η) (s : TileStrings η) :
    Uses R (blocks username ++ s.held) (storeUsername username s).1.held
      (storeUsername username s).2 := by
  cases username with
  | none => exact uses_nil R s.held
  | some name => exact uses_put hfits (.field sfiEditText) name s

theorem uses_storeStrings (hfits : RightFrees R) (username : Option η) (password : η)
    (s : TileStrings η) :
    Uses R (blocks username ++ coTask password :: s.held) (storeStrings username password s).1.held
      (storeStrings username password s).2 := by
  have hname := ((uses_storeUsername hfits username s).under [coTask password]).perm_left
    (@List.perm_middle _ (coTask password) (blocks username) s.held)
  exact hname.append (uses_put hfits (.field sfiPassword) password _)

theorem moves_storeSession (hfits : RightFrees R) (io : SessionIo η) {s : TileStrings η}
    (hpoints : R.pointed → s.Pointed) : Moves R (storeSession io) s := by
  have hasks : Uses R s.held s.held (if io.asksUsername then looks s.username.toList else []) := by
    split
    · exact uses_lookOption fun hpointed _ hx => (hpoints hpointed).username_held hx
    · exact uses_nil R s.held
  have hpassword := hasks.append (uses_utf8ToWideString hfits io.password)
  rw [Moves, storeSession]
  split
  · next calls heq =>
      rw [heq] at hpassword
      exact hpassword
  · next password calls heq =>
      rw [heq] at hpassword
      have hlooked := hpassword.append (uses_look (x := password) fun _ => List.mem_cons_self)
      dsimp only
      split
      · exact hlooked.append (uses_frees hfits (some password))
      · exact (hlooked.append (uses_utf8ToWideString hfits io.username)).append
          (uses_storeStrings hfits _ password s)

theorem moves_notify (thread : Nat) (advised : Bool) {s : TileStrings η}
    (hpoints : R.pointed → s.Pointed) : Moves R (notify thread advised) s := by
  rw [Moves, notify]
  cases advised with
  | false => exact uses_nil R s.held
  | true =>
      apply uses_looks
      intro hpointed x hx
      rw [List.getD_eq_getElem?_getD] at hx
      cases hget : s.notifying[thread]? with
      | none => simp [hget] at hx
      | some strings =>
          rw [hget] at hx
          exact (hpoints hpointed).notifying_held (List.mem_of_getElem? hget) hx

theorem moves_released (hfits : RightFrees R) (x : η) (s : TileStrings η) :
    Moves R (released x) s := by
  rw [Moves, released]
  split
  · next hx =>
      have hperm : s.owned.Perm ((some x).toList ++
          { s with given := s.given.erase x : TileStrings η }.owned) := by
        apply List.perm_iff_count.mpr
        intro a
        have hgiven := (List.perm_cons_erase hx).count_eq a
        simp only [owned, List.count_append, Option.toList_some, List.count_cons, List.count_nil]
          at hgiven ⊢
        omega
      exact (uses_frees hfits (some x)).perm_left (held_perm hperm.symm).symm
  · exact uses_nil R s.held

omit [DecidableEq η] in
theorem held_repoint (i : FieldId) (x : Option η) (s : TileStrings η) :
    (repoint i x s).held = s.held := by
  rw [repoint]
  split
  · rfl
  split
  · rfl
  split
  · rfl
  · rfl

theorem moves_setStringValue (hfits : RightFrees R) (dwFieldID : Nat) (x : Option η)
    (s : TileStrings η) : Moves R (setStringValue dwFieldID x) s := by
  rw [Moves, setStringValue]
  split
  · next h =>
      dsimp only
      split
      · have hfield := (moves_free hfits (.field ⟨dwFieldID, h⟩) s).seq
          (moves_assign (.field ⟨dwFieldID, h⟩) x _)
        show Uses R s.held (repoint _ x _).held _
        rw [held_repoint]
        exact hfield
      · exact uses_nil R s.held
  · exact uses_nil R s.held

theorem moves_setDeselected (hfits : RightFrees R) (x : Option η) (advised : Bool)
    (s : TileStrings η) : Moves R (setDeselected x advised) s := by
  have hlook := @uses_slot η _ R (.field sfiPassword) s
  rw [Moves, setDeselected]
  cases hslot : s.slots (.field sfiPassword) with
  | none => exact uses_nil R s.held
  | some password =>
      rw [hslot] at hlook
      have hfield := (moves_free hfits (.field sfiPassword) s).seq
        (moves_assign (.field sfiPassword) x _)
      apply (hlook.append hfield).append
      cases advised with
      | false => exact uses_nil R _
      | true =>
          apply uses_lookOption
          intro _ y hy
          have hnew : (assign (.field sfiPassword) x (free (.field sfiPassword) s).1).1.slots
              (.field sfiPassword) = x := by
            rw [assign_slots, Function.update_self]
          exact mem_held (hnew.trans hy)

theorem moves_exec {call : TileCall η} {s : TileStrings η} (hfits : RightFrees R)
    (hnames : ∀ io, call = .getSerialization io → s.cpus = .credUi →
      ∀ b, CredUiName io.credUi b → R.fits .coTaskMemFree b)
    (hpoints : R.pointed → s.Pointed) : Moves R (exec call) s := by
  cases call with
  | setStringValue dwFieldID x => exact moves_setStringValue hfits dwFieldID x s
  | setDeselected x advised => exact moves_setDeselected hfits x advised s
  | getStringValue dwFieldID x =>
      rw [Moves, exec, getStringValue]
      split
      · exact moves_duplicate _ x s
      · exact uses_nil R s.held
  | getCheckboxValue dwFieldID x =>
      rw [Moves, exec, getCheckboxValue]
      split
      · split
        · exact moves_duplicate _ x s
        · exact uses_nil R s.held
      · exact uses_nil R s.held
  | getComboBoxValueAt dwFieldID x =>
      rw [Moves, exec, getComboBoxValueAt]
      split
      · split
        · exact moves_give x s
        · exact uses_nil R s.held
      · exact uses_nil R s.held
  | getUserSid x => exact moves_duplicate .userSid x s
  | getSerialization io => exact moves_getSerialization hfits io (hnames io rfl) hpoints
  | reportResult known x =>
      rw [exec, reportResult]
      split
      · exact moves_give x s
      · exact moves_skip s
  | sendAuthRequest =>
      exact uses_lookOption fun hpointed _ hx => (hpoints hpointed).username_held hx
  | storeSession io => exact moves_storeSession hfits io hpoints
  | notify thread advised => exact moves_notify thread advised hpoints
  | released x => exact moves_released hfits x s

-- ============================================================================
-- The destructor
-- ============================================================================

omit [DecidableEq η] in
theorem free_each (l : List StringSlot) (s : TileStrings η) (slot : StringSlot) :
    (TileStep.each free l s).1.slots slot = if slot ∈ l then none else s.slots slot := by
  induction l generalizing s with
  | nil => rfl
  | cons a l ih =>
      show (TileStep.each free l (free a s).1).1.slots slot = _
      rw [ih]
      by_cases hslot : slot = a
      · have hnone : (free a s).1.slots slot = none := by
          show Function.update s.slots a none slot = none
          rw [hslot, Function.update_self]
        rw [if_pos (List.mem_cons.mpr (Or.inl hslot)), hnone, ite_self]
      · have hsame : (free a s).1.slots slot = s.slots slot := Function.update_of_ne hslot _ _
        simp [hslot, hsame]

omit [DecidableEq η] in
theorem free_each_keeps (l : List StringSlot) (s : TileStrings η) :
    (TileStep.each free l s).1.given = s.given ∧ (TileStep.each free l s).1.lost = s.lost ∧
      (TileStep.each free l s).1.username = s.username := by
  induction l generalizing s with
  | nil => exact ⟨rfl, rfl, rfl⟩
  | cons a l ih => exact ih (free a s).1

/-- How many variables are free at the last look. -/
def freedAtLast : List Nat → Nat
  | [] => 0
  | count :: task => count + freedAtLast task

/-- At the last look a variable that is not free yet has what `_pwzUsername` points into. -/
def LooksInTime (task : List Nat) (slots : List StringSlot) (s : TileStrings η) : Prop :=
  task ≠ [] → ∀ x, s.username = some x →
    ∃ slot ∈ slots.drop (freedAtLast task), s.slots slot = some x

theorem moves_frees (hfits : RightFrees R) (slots : List StringSlot) (s : TileStrings η) :
    Moves R (TileStep.each free slots) s :=
  moves_each (fun slot _ => moves_free hfits slot) s

omit [DecidableEq η] in
/-- What is freed later is there as long. -/
theorem slots_freed {slots : List StringSlot} (hn : slots.Nodup) {freed : Nat}
    {slot : StringSlot} (hslot : slot ∈ slots.drop freed) (s : TileStrings η) :
    (TileStep.each free (slots.take freed) s).1.slots slot = s.slots slot := by
  have hnot : slot ∉ slots.take freed :=
    fun hmem => List.disjoint_take_drop hn (Nat.le_refl freed) hmem hslot
  rw [free_each, if_neg hnot]

theorem moves_freeWhileLooking (hfits : RightFrees R) (task : List Nat)
    {slots : List StringSlot} (hn : slots.Nodup) {s : TileStrings η}
    (hintime : R.pointed → LooksInTime task slots s) :
    Moves R (freeWhileLooking task slots) s := by
  induction task generalizing slots s with
  | nil => exact moves_frees hfits slots s
  | cons freed task ih =>
      have hname := (free_each_keeps (slots.take freed) s).2.2
      -- where the string is until the last look
      have hthere (hpointed : R.pointed) (x : η) (hx : s.username = some x) :
          ∃ slot ∈ (slots.drop freed).drop (freedAtLast task),
            (TileStep.each free (slots.take freed) s).1.slots slot = some x := by
        obtain ⟨slot, hslot, hholds⟩ := hintime hpointed (List.cons_ne_nil _ _) x hx
        rw [freedAtLast, ← List.drop_drop] at hslot
        exact ⟨slot, hslot, (slots_freed hn (List.mem_of_mem_drop hslot) s).trans hholds⟩
      apply (moves_frees hfits (slots.take freed) s).seq
      refine Moves.seq (f := sendAuthRequest) ?_ (ih (hn.sublist (List.drop_sublist _ _)) ?_)
      · apply uses_lookOption
        intro hpointed x hx
        obtain ⟨slot, -, hholds⟩ := hthere hpointed x (hname.symm.trans hx)
        exact mem_held hholds
      · intro hpointed _ x hx
        exact hthere hpointed x (hname.symm.trans hx)

theorem moves_destroy (hfits : RightFrees R) (task : List Nat) {s : TileStrings η}
    (hintime : R.pointed → LooksInTime task StringSlot.all s) : Moves R (destroy task) s :=
  Moves.seq (f := wipePassword) (uses_slot (.field sfiPassword) s)
    (moves_freeWhileLooking hfits task slots_nodup hintime)

end TileStrings

end Smile2Unlock.CredentialProvider
