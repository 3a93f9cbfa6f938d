/-
  Smile2Unlock.CredentialProvider.TileLifetime

  The strings of a tile from its constructor to its destructor (`tileStrings_kept`): what stays
  allocated is what LogonUI has been given, and in CredUI the labels that `Initialize` replaces.

  Two things can go wrong with the pointers: a user name that is changed without memory for the
  new one, and a string that is changed while a session thread shows it.  `Undisturbed` is a run
  without them.  The third is at the end: the task that the destructor starts looks at the user
  name while or after that is freed (`LooksInTime`).
-/

import Smile2Unlock.CredentialProvider.StringMemory

namespace Smile2Unlock.CredentialProvider

open Smile2Unlock Lib HeapCall HandleCall

variable {η : Type} [DecidableEq η]

namespace TileStrings

-- ============================================================================
-- The pointers over a call
-- ============================================================================

section Pointers

omit [DecidableEq η]

/-- The strings of the tile are as they were. -/
structure Alike (s s' : TileStrings η) : Prop where
  cpus : s'.cpus = s.cpus
  slots : s'.slots = s.slots
  username : s'.username = s.username
  notifying : s'.notifying = s.notifying
  lost : s'.lost = s.lost

theorem alike_refl (s : TileStrings η) : s.Alike s := ⟨rfl, rfl, rfl, rfl, rfl⟩

theorem alike_give (x : Option η) (s : TileStrings η) : s.Alike (give x s).1 :=
  ⟨rfl, rfl, rfl, rfl, rfl⟩

theorem Alike.pointed {s s' : TileStrings η} (h : s.Alike s') (hs : s.Pointed) : s'.Pointed := by
  refine ⟨?_, ?_⟩
  · rw [h.username, h.slots]
    exact hs.username
  · rw [h.notifying, h.slots]
    exact hs.notifying

theorem alike_duplicate (slot : StringSlot) (x : Option η) (s : TileStrings η) :
    s.Alike (duplicate slot x s).1 := by
  rw [duplicate]
  split
  · exact alike_refl s
  · exact alike_give x s

theorem alike_serializeLogon (io : LogonIo η) (s : TileStrings η) :
    s.Alike (serializeLogon io s).1 := by
  have hpack (domain username : η) : s.Alike (packLogon io domain username s).1 := by
    rw [packLogon]
    split
    · exact alike_refl s
    · split
      · exact alike_refl s
      · exact alike_give io.buffer s
  have haccount (domain username : η) : s.Alike (serializeAccount io domain username s).1 := by
    rw [serializeAccount]
    split
    · exact alike_refl s
    · exact hpack domain username
  rw [serializeLogon]
  split
  · exact haccount _ _
  · exact alike_refl s

theorem alike_serializeCredUi (io : CredUiIo η) (s : TileStrings η) :
    s.Alike (serializeCredUi io s).1 := by
  have hpack (name : η) (packed : Block η) : s.Alike (packCredUi io name packed s).1 := by
    rw [packCredUi]
    split
    · exact alike_refl s
    · exact alike_refl s
    · next buffer _ _ =>
        dsimp only
        split
        · exact alike_give (some buffer) s
        · exact alike_refl s
  rw [serializeCredUi]
  split
  · exact alike_give io.statusText s
  · split
    · exact alike_give io.statusText s
    · split
      · exact alike_refl s
      · exact hpack _ _

theorem alike_getSerialization (io : SerializationIo η) (s : TileStrings η) :
    s.Alike (getSerialization io s).1 := by
  have hbranch : Alike { s with password := s.slots (.field sfiPassword) }
      ((if s.cpus = .credUi then serializeCredUi io.credUi else serializeLogon io.logon)
        { s with password := s.slots (.field sfiPassword) }).1 := by
    split
    · exact alike_serializeCredUi io.credUi _
    · exact alike_serializeLogon io.logon _
  exact ⟨hbranch.cpus, hbranch.slots, hbranch.username, hbranch.notifying, hbranch.lost⟩

/-- `SetStringValue` writes the field of an input, or nothing. -/
theorem setStringValue_cases (dwFieldID : Nat) (x : Option η) (s : TileStrings η) :
    (setStringValue dwFieldID x s).1 = s ∨
      ∃ i : FieldId, i.val = dwFieldID ∧ (setStringValue dwFieldID x s).1 =
        repoint i x { s with slots := Function.update s.slots (.field i) x } := by
  rw [setStringValue]
  split
  · next h =>
      dsimp only
      split
      · right
        refine ⟨⟨dwFieldID, h⟩, rfl, ?_⟩
        show repoint _ x _ = _
        congr 1
        simp [TileStep.seq, assign, free, Function.update_idem]
      · exact Or.inl rfl
  · exact Or.inl rfl

/-- The password is replaced, or nothing. -/
theorem setDeselected_cases (x : Option η) (advised : Bool) (s : TileStrings η) :
    (setDeselected x advised s).1 = s ∨ (setDeselected x advised s).1 =
      { s with slots := Function.update s.slots (.field sfiPassword) x } := by
  rw [setDeselected]
  split
  · exact Or.inl rfl
  · right
    simp [TileStep.seq, assign, free, Function.update_idem]

/-- What a session thread has stored, if anything. -/
theorem storeSession_cases (io : SessionIo η) (s : TileStrings η) :
    (storeSession io s).1 = s ∨ ∃ username password,
      (storeSession io s).1 = (storeStrings username password s).1 := by
  rw [storeSession]
  split
  · exact Or.inl rfl
  · dsimp only
    split
    · exact Or.inl rfl
    · exact Or.inr ⟨_, _, rfl⟩

end Pointers

/-- A user name is changed with memory only, and no string that a session thread shows. -/
def Undisturbed : TileCall η → TileStrings η → Prop
  | .setStringValue dwFieldID x, s =>
      (dwFieldID = sfiEditText.val → x.isSome) ∧ s.notifying = []
  | .setDeselected _ _, s => s.notifying = []
  | .storeSession _, s => s.notifying = []
  | _, _ => True

def UndisturbedAll : List (TileCall η) → TileStrings η → Prop
  | [], _ => True
  | call :: calls, s => Undisturbed call s ∧ UndisturbedAll calls (exec call s).1

section Writes

omit [DecidableEq η]

/-- Nothing is being shown. -/
theorem pointed_of_quiet {s : TileStrings η} (hquiet : s.notifying = [])
    (h : ∀ x, s.username = some x →
      s.slots .qualifiedUserName = some x ∨ s.slots (.field sfiEditText) = some x) :
    s.Pointed := by
  refine ⟨h, fun strings hstrings => ?_⟩
  rw [hquiet] at hstrings
  exact absurd hstrings List.not_mem_nil

/-- A field other than the edit field is written. -/
theorem Pointed.write {s : TileStrings η} (hs : s.Pointed) (hquiet : s.notifying = [])
    {i : FieldId} (hi : i ≠ sfiEditText) (x : Option η) :
    Pointed { s with slots := Function.update s.slots (.field i) x } := by
  refine pointed_of_quiet (show s.notifying = [] from hquiet) fun z hz => ?_
  have hne : StringSlot.field sfiEditText ≠ .field i := fun h => hi (StringSlot.field.inj h).symm
  show Function.update s.slots (.field i) x .qualifiedUserName = _ ∨
    Function.update s.slots (.field i) x (.field sfiEditText) = _
  rw [Function.update_of_ne (by simp), Function.update_of_ne hne]
  exact hs.username z hz

theorem repoint_cases (i : FieldId) (x : Option η) (s : TileStrings η) :
    (x.isNone ∧ repoint i x s = s) ∨ (i = sfiEditText ∧ repoint i x s = { s with username := x }) ∨
      i ≠ sfiEditText ∧ ∃ p, repoint i x s = { s with password := p } := by
  rw [repoint]
  by_cases hx : x.isNone
  · exact Or.inl ⟨hx, if_pos hx⟩
  rw [if_neg hx]
  by_cases hedit : i = sfiEditText
  · exact Or.inr (Or.inl ⟨hedit, if_pos hedit⟩)
  rw [if_neg hedit]
  refine Or.inr (Or.inr ⟨hedit, ?_⟩)
  split
  · exact ⟨x, rfl⟩
  · exact ⟨s.password, rfl⟩

theorem pointed_setStringValue {dwFieldID : Nat} {x : Option η} {s : TileStrings η}
    (hs : s.Pointed) (hmemory : dwFieldID = sfiEditText.val → x.isSome)
    (hquiet : s.notifying = []) : (setStringValue dwFieldID x s).1.Pointed := by
  obtain hsame | ⟨i, hi, hwritten⟩ := setStringValue_cases dwFieldID x s
  · rw [hsame]
    exact hs
  rw [hwritten]
  obtain ⟨hnone, heq⟩ | ⟨rfl, heq⟩ | ⟨hedit, p, heq⟩ :=
    repoint_cases i x { s with slots := Function.update s.slots (.field i) x }
  · have hedit : i ≠ sfiEditText := by
      rintro rfl
      have hsome := hmemory hi.symm
      rw [Option.isNone_iff_eq_none.mp hnone] at hsome
      exact absurd hsome (by simp)
    rw [heq]
    exact hs.write hquiet hedit x
  · -- the pointer follows
    rw [heq]
    refine pointed_of_quiet (show s.notifying = [] from hquiet) fun z hz => Or.inr ?_
    show Function.update s.slots (.field sfiEditText) x (.field sfiEditText) = some z
    rw [Function.update_self]
    exact hz
  · rw [heq]
    have hwrite := hs.write hquiet hedit x
    exact ⟨hwrite.username, hwrite.notifying⟩

/-- The strings that a session thread stores are those that it shows next. -/
theorem pointed_storeStrings {username : Option η} {password : η} {s : TileStrings η}
    (hs : s.Pointed) (hquiet : s.notifying = []) :
    (storeStrings username password s).1.Pointed := by
  have hstored : (storeStrings username password s).1.notifying =
      [username.toList ++ [password]] := by
    rw [← hquiet]
    cases username with
    | none => rfl
    | some name => rfl
  have hslots : (storeStrings username password s).1.slots =
      Function.update (storeUsername username s).1.slots (.field sfiPassword) (some password) := rfl
  have hpassword : (storeStrings username password s).1.slots (.field sfiPassword) =
      some password := by
    rw [hslots, Function.update_self]
  have hedit : (storeStrings username password s).1.slots (.field sfiEditText) =
      (storeUsername username s).1.slots (.field sfiEditText) := by
    rw [hslots, Function.update_of_ne (by decide)]
  have hqualified : (storeStrings username password s).1.slots .qualifiedUserName =
      (storeUsername username s).1.slots .qualifiedUserName := by
    rw [hslots, Function.update_of_ne (by decide)]
  have hshown (name : η) (hname : username = some name) :
      (storeUsername username s).1.slots (.field sfiEditText) = some name := by
    rw [hname]
    show Function.update s.slots (.field sfiEditText) (some name) (.field sfiEditText) = some name
    rw [Function.update_self]
  refine ⟨fun z hz => ?_, fun strings hstrings z hz => ?_⟩
  · rw [hqualified, hedit]
    cases username with
    | none => exact hs.username z hz
    | some name =>
        right
        rw [hshown name rfl]
        exact hz
  · rw [hstored, List.mem_singleton] at hstrings
    rw [hstrings, List.mem_append, Option.mem_toList, List.mem_singleton] at hz
    rcases hz with hz | rfl
    · left
      rw [hedit]
      exact hshown z hz
    · exact Or.inr hpassword

end Writes

/-- What a call can do to the strings: nothing, or it is one of four. -/
theorem exec_cases (call : TileCall η) (s : TileStrings η) :
    s.Alike (exec call s).1 ∨ (∃ dwFieldID x, call = .setStringValue dwFieldID x) ∨
      (∃ x advised, call = .setDeselected x advised) ∨ (∃ io, call = .storeSession io) ∨
      ∃ thread advised, call = .notify thread advised := by
  cases call with
  | setStringValue dwFieldID x => exact Or.inr (Or.inl ⟨dwFieldID, x, rfl⟩)
  | setDeselected x advised => exact Or.inr (Or.inr (Or.inl ⟨x, advised, rfl⟩))
  | storeSession io => exact Or.inr (Or.inr (Or.inr (Or.inl ⟨io, rfl⟩)))
  | notify thread advised => exact Or.inr (Or.inr (Or.inr (Or.inr ⟨thread, advised, rfl⟩)))
  | getStringValue dwFieldID x =>
      left
      rw [exec, getStringValue]
      split
      · exact alike_duplicate _ x s
      · exact alike_refl s
  | getCheckboxValue dwFieldID x =>
      left
      rw [exec, getCheckboxValue]
      split
      · split
        · exact alike_duplicate _ x s
        · exact alike_refl s
      · exact alike_refl s
  | getComboBoxValueAt dwFieldID x =>
      left
      rw [exec, getComboBoxValueAt]
      split
      · split
        · exact alike_give x s
        · exact alike_refl s
      · exact alike_refl s
  | getUserSid x => exact Or.inl (alike_duplicate .userSid x s)
  | getSerialization io => exact Or.inl (alike_getSerialization io s)
  | reportResult known x =>
      left
      rw [exec, reportResult]
      split
      · exact alike_give x s
      · exact alike_refl s
  | sendAuthRequest => exact Or.inl (alike_refl s)
  | released x =>
      left
      rw [exec, released]
      split
      · exact ⟨rfl, rfl, rfl, rfl, rfl⟩
      · exact alike_refl s

theorem pointed_exec {call : TileCall η} {s : TileStrings η} (hs : s.Pointed)
    (hcall : Undisturbed call s) : (exec call s).1.Pointed := by
  obtain halike | ⟨dwFieldID, x, rfl⟩ | ⟨x, advised, rfl⟩ | ⟨io, rfl⟩ | ⟨thread, advised, rfl⟩ :=
    exec_cases call s
  · exact halike.pointed hs
  · exact pointed_setStringValue hs hcall.1 hcall.2
  · obtain hsame | hwritten := setDeselected_cases x advised s
    · rw [exec, hsame]
      exact hs
    · rw [exec, hwritten]
      exact hs.write hcall (by decide) x
  · obtain hsame | ⟨username, password, hstored⟩ := storeSession_cases io s
    · rw [exec, hsame]
      exact hs
    · rw [exec, hstored]
      exact pointed_storeStrings hs hcall
  · refine ⟨hs.username, fun strings hstrings => ?_⟩
    exact hs.notifying strings (List.mem_of_mem_eraseIdx hstrings)

/-- No call loses a string. -/
theorem exec_keeps (call : TileCall η) (s : TileStrings η) :
    (exec call s).1.cpus = s.cpus ∧ (exec call s).1.lost = s.lost := by
  obtain halike | ⟨dwFieldID, x, rfl⟩ | ⟨x, advised, rfl⟩ | ⟨io, rfl⟩ | ⟨thread, advised, rfl⟩ :=
    exec_cases call s
  · exact ⟨halike.cpus, halike.lost⟩
  · obtain hsame | ⟨i, -, hwritten⟩ := setStringValue_cases dwFieldID x s
    · rw [exec, hsame]
      exact ⟨rfl, rfl⟩
    · rw [exec, hwritten]
      obtain ⟨-, heq⟩ | ⟨-, heq⟩ | ⟨-, p, heq⟩ :=
        repoint_cases i x { s with slots := Function.update s.slots (.field i) x }
      · rw [heq]
        exact ⟨rfl, rfl⟩
      · rw [heq]
        exact ⟨rfl, rfl⟩
      · rw [heq]
        exact ⟨rfl, rfl⟩
  · obtain hsame | hwritten := setDeselected_cases x advised s
    · rw [exec, hsame]
      exact ⟨rfl, rfl⟩
    · rw [exec, hwritten]
      exact ⟨rfl, rfl⟩
  · obtain hsame | ⟨username, password, hstored⟩ := storeSession_cases io s
    · rw [exec, hsame]
      exact ⟨rfl, rfl⟩
    · rw [exec, hstored]
      cases username with
      | none => exact ⟨rfl, rfl⟩
      | some name => exact ⟨rfl, rfl⟩
  · exact ⟨rfl, rfl⟩

-- ============================================================================
-- Initialize and the destructor
-- ============================================================================

section Ends

omit [DecidableEq η]

/-- A part that writes certain variables and no pointers; nothing is lost if they are null. -/
structure Fills (written : List StringSlot) (f : TileStep η) : Prop where
  cpus : ∀ s, (f s).1.cpus = s.cpus
  username : ∀ s, (f s).1.username = s.username
  notifying : ∀ s, (f s).1.notifying = s.notifying
  others : ∀ s, ∀ slot ∉ written, (f s).1.slots slot = s.slots slot
  lost : ∀ s, (∀ slot ∈ written, s.slots slot = none) → (f s).1.lost = s.lost

theorem fills_nil : Fills [] (fun s : TileStrings η => (s, [])) :=
  ⟨fun _ => rfl, fun _ => rfl, fun _ => rfl, fun _ _ _ => rfl, fun _ _ => rfl⟩

theorem fills_assign (slot : StringSlot) (x : Option η) : Fills [slot] (assign slot x) where
  cpus _ := rfl
  username _ := rfl
  notifying _ := rfl
  others s slot' h := by
    rw [assign_slots, Function.update_of_ne (by simpa using h)]
  lost s h := by
    show (s.slots slot).toList ++ s.lost = s.lost
    rw [h slot List.mem_cons_self]
    rfl

theorem Fills.seq {a b : List StringSlot} {f g : TileStep η} (hf : Fills a f) (hg : Fills b g)
    (hnew : ∀ slot ∈ b, slot ∉ a) : Fills (a ++ b) (f.seq g) where
  cpus s := (hg.cpus _).trans (hf.cpus s)
  username s := (hg.username _).trans (hf.username s)
  notifying s := (hg.notifying _).trans (hf.notifying s)
  others s slot h := by
    rw [List.mem_append, not_or] at h
    exact (hg.others _ slot h.2).trans (hf.others s slot h.1)
  lost s h := by
    have hb : ∀ slot ∈ b, (f s).1.slots slot = none := by
      intro slot hslot
      rw [hf.others s slot (hnew slot hslot)]
      exact h slot (List.mem_append_right a hslot)
    exact (hg.lost _ hb).trans (hf.lost s fun slot hslot => h slot (List.mem_append_left b hslot))

theorem Fills.mono {a b : List StringSlot} {f : TileStep η} (hf : Fills a f) (h : a ⊆ b) :
    Fills b f where
  cpus := hf.cpus
  username := hf.username
  notifying := hf.notifying
  others s slot hslot := hf.others s slot fun ha => hslot (h ha)
  lost s hnone := hf.lost s fun slot ha => hnone slot (h ha)

theorem fills_each {α : Type} {f : α → TileStep η} {slot : α → StringSlot} {l : List α}
    (h : ∀ a, Fills [slot a] (f a)) (hn : (l.map slot).Nodup) :
    Fills (l.map slot) (TileStep.each f l) := by
  induction l with
  | nil => exact fills_nil
  | cons a l ih =>
      rw [List.map_cons, List.nodup_cons] at hn
      apply (h a).seq (ih hn.2)
      intro slot' hslot'
      rw [List.mem_singleton]
      rintro rfl
      exact hn.1 hslot'

theorem fills_fieldDescriptorCopy (io : InitializeIo η) (i : FieldId) :
    Fills [.label i] (fieldDescriptorCopy io i) := by
  have hassign := fills_assign (.label i) (io.label i)
  cases hlabel : io.label i with
  | none =>
      have hskip : fieldDescriptorCopy io i = fun s => (s, []) := by
        funext s
        rw [fieldDescriptorCopy, hlabel]
      rw [hskip]
      exact fills_nil.mono (List.nil_subset _)
  | some label =>
      have heq (s : TileStrings η) : (fieldDescriptorCopy io i s).1 =
          { (assign (.label i) (io.label i) s).1 with
            types := Function.update s.types i (credProvFieldTypes i) } := by
        rw [fieldDescriptorCopy, hlabel]
        rfl
      refine ⟨fun s => ?_, fun s => ?_, fun s => ?_, fun s => ?_, fun s => ?_⟩
      · rw [heq]
        rfl
      · rw [heq]
        rfl
      · rw [heq]
        rfl
      · rw [heq]
        exact hassign.others s
      · rw [heq]
        exact hassign.lost s

/-- The labels after the copy of the descriptors. -/
theorem labels_each (io : InitializeIo η) (l : List FieldId) (i : FieldId) (s : TileStrings η) :
    (i ∈ l → (TileStep.each (fieldDescriptorCopy io) l s).1.slots (.label i) =
        (io.label i).or (s.slots (.label i))) ∧
      (i ∉ l → (TileStep.each (fieldDescriptorCopy io) l s).1.slots (.label i) =
        s.slots (.label i)) := by
  induction l generalizing s with
  | nil => exact ⟨fun h => absurd h List.not_mem_nil, fun _ => rfl⟩
  | cons j l ih =>
      have hown : (fieldDescriptorCopy io i s).1.slots (.label i) =
          (io.label i).or (s.slots (.label i)) := by
        rw [fieldDescriptorCopy]
        cases io.label i with
        | none => rfl
        | some label =>
            show Function.update s.slots (.label i) (some label) (.label i) = some label
            rw [Function.update_self]
      have hother (hij : i ≠ j) : (fieldDescriptorCopy io j s).1.slots (.label i) =
          s.slots (.label i) :=
        (fills_fieldDescriptorCopy io j).others s _ (by simpa using hij)
      obtain ⟨hin, hout⟩ := ih (fieldDescriptorCopy io j s).1
      constructor
      · intro hi
        by_cases hl : i ∈ l
        · refine (hin hl).trans ?_
          by_cases hij : i = j
          · subst hij
            rw [hown]
            cases io.label i with
            | none => rfl
            | some label => rfl
          · rw [hother hij]
        · obtain rfl := (List.mem_cons.mp hi).resolve_right hl
          exact (hout hl).trans hown
      · intro hi
        rw [List.mem_cons, not_or] at hi
        exact (hout hi.2).trans (hother hi.1)

/-- What assignments to different variables lose. -/
theorem lost_each_assign {slot : FieldId → StringSlot} {x : FieldId → Option η} {l : List FieldId}
    (hn : (l.map slot).Nodup) (s : TileStrings η) :
    (TileStep.each (fun i => assign (slot i) (x i)) l s).1.lost =
      (l.reverse.flatMap fun i => (s.slots (slot i)).toList) ++ s.lost := by
  induction l generalizing s with
  | nil => rfl
  | cons i l ih =>
      rw [List.map_cons, List.nodup_cons] at hn
      have hsame :
          (l.reverse.flatMap fun j => ((assign (slot i) (x i) s).1.slots (slot j)).toList) =
            l.reverse.flatMap fun j => (s.slots (slot j)).toList := by
        apply List.flatMap_congr
        intro j hj
        have hne : slot j ≠ slot i := by
          intro heq
          exact hn.1 (heq ▸ List.mem_map_of_mem (List.mem_reverse.mp hj))
        rw [assign_slots, Function.update_of_ne hne]
      show (TileStep.each _ l (assign (slot i) (x i) s).1).1.lost = _
      rw [ih hn.2, hsame]
      simp [assign]

/-- The labels that `Initialize` replaces in CredUI, the last one first. -/
def replacedLabels (io : InitializeIo η) : List η :=
  credUiFields.reverse.flatMap fun i => (io.label i).toList

theorem fills_describeUser (io : InitializeIo η) (user : UserIo η) (i : FieldId) :
    Fills [.field i] (describeUser io user i) := by
  have hassign := fills_assign (.field i) (io.field i)
  exact ⟨hassign.cpus, hassign.username, hassign.notifying, hassign.others, hassign.lost⟩

/-- The variables of the user. -/
def userSlots : List StringSlot :=
  [.qualifiedUserName] ++ (userFields.map .field ++ [.userSid])

theorem fills_initializeUser (io : InitializeIo η) : Fills userSlots (initializeUser io) := by
  rw [initializeUser]
  cases io.user with
  | none =>
      have hfields := fills_each (fun i => fills_assign (.field i) (io.field i))
        (l := userFields) (by decide)
      apply hfields.mono
      intro slot hslot
      exact List.mem_append_right _ (List.mem_append_left _ hslot)
  | some user =>
      have hfields := fills_each (fills_describeUser io user) (l := userFields) (by decide)
      exact (fills_assign .qualifiedUserName user.qualifiedUserName).seq
        (hfields.seq (fills_assign .userSid user.userSid) (by decide)) (by decide)

/-- Only the pointers are written. -/
theorem pointUsername_keeps (s : TileStrings η) :
    (pointUsername s).1.cpus = s.cpus ∧ (pointUsername s).1.slots = s.slots ∧
      (pointUsername s).1.notifying = s.notifying ∧ (pointUsername s).1.lost = s.lost := by
  rw [pointUsername]
  split
  · exact ⟨rfl, rfl, rfl, rfl⟩
  · split
    · exact ⟨rfl, rfl, rfl, rfl⟩
    · exact ⟨rfl, rfl, rfl, rfl⟩

/-- The pointer is right, where it is set. -/
theorem pointed_pointUsername {s : TileStrings η} (hname : s.username = none)
    (hquiet : s.notifying = []) : (pointUsername s).1.Pointed := by
  obtain ⟨-, hslots, hnotifying, -⟩ := pointUsername_keeps s
  refine pointed_of_quiet (hnotifying.trans hquiet) fun x hx => ?_
  rw [hslots]
  rw [pointUsername] at hx
  split at hx
  · next name hslot => exact Or.inl (hslot.trans hx)
  · split at hx
    · exact Or.inr hx
    · exact absurd (hname.symm.trans hx) (by simp)

def allLabels : List StringSlot := (List.finRange 14).map .label

theorem fills_descriptors (io : InitializeIo η) :
    Fills allLabels (TileStep.each (fieldDescriptorCopy io) (List.finRange 14)) :=
  fills_each (fills_fieldDescriptorCopy io) (by decide)

/-- The fields and the strings of the user, behind the labels. -/
theorem fills_texts (io : InitializeIo η) :
    Fills (plainFields.map .field ++ userSlots)
      ((TileStep.each (fun i => assign (.field i) (io.field i)) plainFields).seq
        (initializeUser io)) := by
  have hplain := fills_each (fun i => fills_assign (.field i) (io.field i)) (l := plainFields)
    (by decide)
  exact hplain.seq (fills_initializeUser io) (by decide)

/-- `labelCredUi` writes labels only, and what it loses are the labels before. -/
theorem labelCredUi_spec (io : InitializeIo η) {s : TileStrings η}
    (hlabels : ∀ i, s.slots (.label i) = io.label i) :
    (labelCredUi io s).1.cpus = s.cpus ∧ (labelCredUi io s).1.username = s.username ∧
      (labelCredUi io s).1.notifying = s.notifying ∧
      (∀ slot ∉ allLabels, (labelCredUi io s).1.slots slot = s.slots slot) ∧
      (labelCredUi io s).1.lost =
        (if s.cpus = .credUi then replacedLabels io else []) ++ s.lost := by
  have hfills := fills_each (fun i => fills_assign (.label i) (io.credUiLabel i))
    (l := credUiFields) (by decide)
  rw [labelCredUi]
  split
  · refine ⟨hfills.cpus s, hfills.username s, hfills.notifying s, ?_, ?_⟩
    · exact (hfills.mono (b := allLabels) (by decide)).others s
    · rw [lost_each_assign (by decide), replacedLabels]
      congr 2
      funext i
      rw [hlabels]
  · exact ⟨rfl, rfl, rfl, fun _ _ => rfl, rfl⟩

/-- The tile behind `Initialize`. -/
theorem initializeTile_spec (cpus : UsageScenario) (io : InitializeIo η) :
    let s := (initializeTile io (constructed cpus)).1
    s.cpus = cpus ∧ s.lost = (if cpus = .credUi then replacedLabels io else []) ∧ s.Pointed := by
  intro s
  let s1 := (TileStep.each (fieldDescriptorCopy io) (List.finRange 14) (constructed cpus)).1
  let s2 := (labelCredUi io s1).1
  let s3 := ((TileStep.each (fun i => assign (.field i) (io.field i)) plainFields).seq
    (initializeUser io) s2).1
  let s4 := (pointUsername s3).1
  have hdescriptors := fills_descriptors io
  have htexts := fills_texts io
  have hlabels (i : FieldId) : s1.slots (.label i) = io.label i := by
    show (TileStep.each _ _ (constructed cpus)).1.slots _ = _
    rw [(labels_each io _ i _).1 (List.mem_finRange i)]
    exact Option.or_none
  have hcpus1 : s1.cpus = cpus := hdescriptors.cpus _
  have hnone1 (slot : StringSlot) (h : slot ∉ allLabels) : s1.slots slot = none :=
    hdescriptors.others (constructed cpus) slot h
  obtain ⟨hcpus2, hname2, hquiet2, hothers2, hlost2⟩ := labelCredUi_spec io hlabels
  have hnone2 (slot : StringSlot) (h : slot ∉ allLabels) : s2.slots slot = none :=
    (hothers2 slot h).trans (hnone1 slot h)
  have hlost3 : s3.lost = s2.lost := by
    apply htexts.lost
    intro slot hslot
    apply hnone2
    exact (by decide : ∀ slot ∈ plainFields.map .field ++ userSlots, slot ∉ allLabels) slot hslot
  have hlink3 : s3.slots (.field sfiFaceRecognitionLink) = none := by
    rw [show s3.slots _ = s2.slots _ from htexts.others s2 _ (by decide)]
    exact hnone2 _ (by decide)
  have hname3 : s3.username = none :=
    (htexts.username s2).trans (hname2.trans (hdescriptors.username _))
  have hquiet3 : s3.notifying = [] :=
    (htexts.notifying s2).trans (hquiet2.trans (hdescriptors.notifying _))
  obtain ⟨hcpus4, hslots4, hquiet4, hlost4⟩ := pointUsername_keeps s3
  have hlink := fills_assign (.field sfiFaceRecognitionLink) (io.field sfiFaceRecognitionLink)
  refine ⟨?_, ?_, ?_⟩
  · show s4.cpus = cpus
    exact hcpus4.trans ((htexts.cpus s2).trans (hcpus2.trans hcpus1))
  · show (assign _ _ s4).1.lost = _
    rw [hlink.lost s4 (by simpa [s4, hslots4] using hlink3), hlost4, hlost3, hlost2, hcpus1]
    show _ ++ s1.lost = _
    rw [show s1.lost = [] from hdescriptors.lost _ fun _ _ => rfl, List.append_nil]
  · have hpointed := (pointed_pointUsername hname3 hquiet3).write (hquiet4.trans hquiet3)
      (by decide : sfiFaceRecognitionLink ≠ sfiEditText) (io.field sfiFaceRecognitionLink)
    exact ⟨hpointed.username, hpointed.notifying⟩

/-- The variables are empty afterwards, whoever looks on. -/
theorem freeWhileLooking_spec (task : List Nat) (slots : List StringSlot) (s : TileStrings η)
    (slot : StringSlot) :
    (freeWhileLooking task slots s).1.slots slot = (if slot ∈ slots then none else s.slots slot) ∧
      (freeWhileLooking task slots s).1.given = s.given ∧
      (freeWhileLooking task slots s).1.lost = s.lost := by
  induction task generalizing slots s with
  | nil =>
      obtain ⟨hgiven, hlost, -⟩ := free_each_keeps slots s
      exact ⟨free_each slots s slot, hgiven, hlost⟩
  | cons freed task ih =>
      obtain ⟨hgiven, hlost, -⟩ := free_each_keeps (slots.take freed) s
      obtain ⟨hslot, hgiven', hlost'⟩ :=
        ih (slots.drop freed) (TileStep.each free (slots.take freed) s).1
      refine ⟨hslot.trans ?_, hgiven'.trans hgiven, hlost'.trans hlost⟩
      have hmem : slot ∈ slots ↔ slot ∈ slots.take freed ∨ slot ∈ slots.drop freed := by
        rw [← List.mem_append, List.take_append_drop]
      rw [free_each]
      by_cases htake : slot ∈ slots.take freed
      · rw [if_pos htake, if_pos (hmem.mpr (Or.inl htake)), ite_self]
      · simp only [htake, hmem, false_or, if_false]

/-- The destructor leaves nothing in the variables. -/
theorem owned_destroy (task : List Nat) (s : TileStrings η) :
    (destroy task s).1.owned = s.given ++ s.lost := by
  have hspec := freeWhileLooking_spec task StringSlot.all s
  have hnone : heldIn (freeWhileLooking task StringSlot.all s).1.slots StringSlot.all = [] := by
    apply List.flatMap_eq_nil_iff.mpr
    intro slot hslot
    rw [(hspec slot).1, if_pos hslot]
    rfl
  obtain ⟨-, hgiven, hlost⟩ := hspec .userSid
  show (freeWhileLooking task StringSlot.all s).1.owned = _
  rw [owned, hnone, hgiven, hlost, List.nil_append]

end Ends

-- ============================================================================
-- The look of the last task
-- ============================================================================

omit [DecidableEq η] in
/-- An allocated string that is neither given nor lost is in a variable. -/
theorem slot_of_allocated {s : TileStrings η} {x : η} (hgone : x ∉ s.given ++ s.lost)
    {opened : Finset (Block η)} (hheld : Holding s.held opened) (hx : coTask x ∈ opened) :
    ∃ slot, s.slots slot = some x := by
  obtain ⟨y, hy, heq⟩ := List.mem_map.mp ((hheld.mem_iff (coTask x)).mpr hx)
  obtain rfl : y = x := (Block.mk.inj heq).2
  rcases List.mem_append.mp hy with hslots | hother
  · obtain ⟨slot, -, hslot⟩ := List.mem_flatMap.mp hslots
    exact ⟨slot, Option.mem_toList.mp hslot⟩
  · exact absurd hother hgone

theorem looksInTime_of_reads (task : List Nat) {slots : List StringSlot} (hn : slots.Nodup)
    {s : TileStrings η} (hgone : ∀ x, s.username = some x → x ∉ s.given ++ s.lost)
    (hdone : ∀ slot ∉ slots, s.slots slot = none) {opened : Finset (Block η)}
    (hheld : Holding s.held opened)
    (hgranted : Granted opened (handleCalls (freeWhileLooking task slots s).2))
    (hreads : ReadsAllocated opened (freeWhileLooking task slots s).2) :
    LooksInTime task slots s := by
  induction task generalizing slots s opened with
  | nil => exact fun h => absurd rfl h
  | cons freed task ih =>
      set s1 := (TileStep.each free (slots.take freed) s).1 with hs1
      obtain ⟨hgiven, hlost, hname⟩ := free_each_keeps (slots.take freed) s
      have hn1 : (slots.drop freed).Nodup := hn.sublist (List.drop_sublist _ _)
      have hdone1 (slot : StringSlot) (hslot : slot ∉ slots.drop freed) :
          s1.slots slot = none := by
        rw [hs1, free_each]
        split
        · rfl
        · next htake =>
            apply hdone
            rw [← List.take_append_drop freed slots, List.mem_append, not_or]
            exact ⟨htake, hslot⟩
      have hgone1 (x : η) (hx : s1.username = some x) : x ∉ s1.given ++ s1.lost := by
        rw [hs1, hgiven, hlost]
        exact hgone x (hname.symm.trans hx)
      -- the frees, the look, and the rest
      change Granted opened (handleCalls (_ ++ (looks s1.username.toList ++ _))) at hgranted
      change ReadsAllocated opened (_ ++ (looks s1.username.toList ++ _)) at hreads
      rw [handleCalls_append, handleCalls_append] at hgranted
      obtain ⟨hgranted1, hgranted2⟩ := along_append.mp hgranted
      obtain ⟨-, hreads2⟩ := readsAllocated_append.mp hreads
      obtain ⟨hlook, hreads3⟩ := readsAllocated_append.mp hreads2
      have hquiet : handleCalls (looks s1.username.toList) = [] := handleCalls_reads _
      rw [hquiet] at hgranted2 hreads3
      have hfrees : Moves ⟨fun _ _ => True, True⟩ (TileStep.each free (slots.take freed)) s :=
        moves_frees (fun _ => trivial) _ s
      have hheld1 := (hfrees.carries [] opened (by rwa [List.append_nil]) hgranted1).2
      rw [List.append_nil] at hheld1
      intro _ x hx
      obtain ⟨slot, hslot, hholds⟩ : ∃ slot ∈ (slots.drop freed).drop (freedAtLast task),
          s1.slots slot = some x := by
        by_cases htask : task = []
        · rw [show s1.username = some x from hname.trans hx] at hlook
          obtain ⟨slot, hholds⟩ := slot_of_allocated (hgone1 x (hname.trans hx)) hheld1 hlook.1
          refine ⟨slot, ?_, hholds⟩
          rw [htask, freedAtLast, List.drop_zero]
          by_contra hslot
          exact absurd (hholds.symm.trans (hdone1 slot hslot)) (by simp)
        · exact ih hn1 hgone1 hdone1 hheld1 hgranted2 hreads3 htask x (hname.trans hx)
      refine ⟨slot, ?_, (slots_freed hn (List.mem_of_mem_drop hslot) s).symm.trans hholds⟩
      rwa [freedAtLast, ← List.drop_drop]

/-- The destructor looks at allocated strings only if its task looks in time. -/
theorem looksInTime_of_destroy {task : List Nat} {s : TileStrings η} (hs : s.Pointed)
    {opened : Finset (Block η)} (hheld : Holding s.held opened)
    (hgranted : Granted opened (handleCalls (destroy task s).2))
    (hreads : ReadsAllocated opened (destroy task s).2) :
    LooksInTime task StringSlot.all s := by
  have hgone (x : η) (hx : s.username = some x) : x ∉ s.given ++ s.lost := by
    have hslots : x ∈ heldIn s.slots StringSlot.all := by
      rcases hs.username x hx with hslot | hslot
      · exact mem_heldIn (slot_mem _) hslot
      · exact mem_heldIn (slot_mem _) hslot
    exact fun hother => (List.nodup_append'.mp (hheld.nodup.of_map _)).2.2 hslots hother
  change Granted opened (handleCalls (looks _ ++ _)) at hgranted
  change ReadsAllocated opened (looks _ ++ _) at hreads
  have hquiet (xs : List η) : handleCalls (looks xs) = [] := handleCalls_reads _
  rw [handleCalls_append, hquiet] at hgranted
  rw [readsAllocated_append, hquiet] at hreads
  exact looksInTime_of_reads task slots_nodup hgone (fun slot hslot => absurd (slot_mem slot) hslot)
    hheld hgranted hreads.2

-- ============================================================================
-- Runs
-- ============================================================================

/-- What a block is freed with: the function of its allocator, or `CoTaskMemFree` for a name
    that CredUI has made from a computer name. -/
def FreedRightly (cpus : UsageScenario) (calls : List (TileCall η)) (function : Deallocator)
    (b : Block η) : Prop :=
  function = b.deallocator ∨ cpus = .credUi ∧ function = .coTaskMemFree ∧
    ∃ io, .getSerialization io ∈ calls ∧ CredUiName io.credUi b

theorem uses_calls (cpus : UsageScenario) (all : List (TileCall η)) {calls : List (TileCall η)}
    (hall : calls ⊆ all) {s : TileStrings η} (hcpus : s.cpus = cpus) :
    Uses ⟨FreedRightly cpus all, s.Pointed ∧ UndisturbedAll calls s⟩ s.held
      (TileStep.each exec calls s).1.held (TileStep.each exec calls s).2 := by
  induction calls generalizing s with
  | nil => exact uses_nil _ s.held
  | cons call calls ih =>
      obtain ⟨hcall, hcalls⟩ := List.cons_subset.mp hall
      have hhead : Uses ⟨FreedRightly cpus all, s.Pointed ∧ UndisturbedAll (call :: calls) s⟩
          s.held (exec call s).1.held (exec call s).2 := by
        apply moves_exec
        · exact fun b => Or.inl rfl
        · rintro io rfl hcredUi b hname
          exact Or.inr ⟨hcpus.symm.trans hcredUi, rfl, io, hcall, hname⟩
        · exact fun h => h.1
      have htail := ih hcalls ((exec_keeps call s).1.trans hcpus)
      exact hhead.append (htail.mono (fun _ _ h => h) fun ⟨hs, hundisturbed⟩ =>
        ⟨pointed_exec hs hundisturbed.1, hundisturbed.2⟩)

theorem calls_lost (calls : List (TileCall η)) (s : TileStrings η) :
    (TileStep.each exec calls s).1.lost = s.lost := by
  induction calls generalizing s with
  | nil => rfl
  | cons call calls ih => exact (ih _).trans (exec_keeps call s).2

omit [DecidableEq η] in
theorem held_constructed (cpus : UsageScenario) : (constructed cpus : TileStrings η).held = [] := by
  have hnone : heldIn (fun _ => (none : Option η)) StringSlot.all = [] :=
    List.flatMap_eq_nil_iff.mpr fun _ _ => rfl
  show (heldIn (fun _ => none) StringSlot.all ++ ([] ++ [])).map coTask = []
  rw [hnone]
  rfl

theorem pointed_calls {calls : List (TileCall η)} {s : TileStrings η} (hs : s.Pointed)
    (hcalls : UndisturbedAll calls s) : (TileStep.each exec calls s).1.Pointed := by
  induction calls generalizing s with
  | nil => exact hs
  | cons call calls ih => exact ih (pointed_exec hs hcalls.1) hcalls.2

/-- The strings of a tile, over any calls of LogonUI and any session threads.  Only strings that
    are allocated are freed, each of them once and with the right function, but for a name that
    CredUI has made; after the destructor what is allocated is what LogonUI has been given and
    has not freed, and in CredUI the labels that were replaced.  If no string is disturbed, only
    strings that are allocated are looked at, exactly if the task of the destructor has looked
    at the user name before that is freed. -/
theorem tileStrings_kept (cpus : UsageScenario) (io : InitializeIo η) (calls : List (TileCall η))
    (task : List Nat) (hgranted : Granted ∅ (handleCalls (lifetime cpus io calls task).2)) :
    Orderly ∅ (handleCalls (lifetime cpus io calls task).2) ∧
      Holding (((lifetime cpus io calls task).1.given ++
          if cpus = .credUi then replacedLabels io else []).map coTask)
        (openAfter ∅ (handleCalls (lifetime cpus io calls task).2)) ∧
      (∀ function b, .freed function b ∈ (lifetime cpus io calls task).2 →
        FreedRightly cpus calls function b) ∧
      (UndisturbedAll calls (initializeTile io (constructed cpus)).1 →
        (ReadsAllocated ∅ (lifetime cpus io calls task).2 ↔
          LooksInTime task StringSlot.all
            (TileStep.each exec calls (initializeTile io (constructed cpus)).1).1)) := by
  obtain ⟨hcpus, hlost, hpointed⟩ := initializeTile_spec cpus io
  set s := (initializeTile io (constructed cpus)).1 with hs
  set s' := (TileStep.each exec calls s).1 with hs'
  let R : HeapRules (Block η) Deallocator :=
    ⟨FreedRightly cpus calls, UndisturbedAll calls s ∧ LooksInTime task StringSlot.all s'⟩
  have hfits : RightFrees R := fun _ => Or.inl rfl
  have hinitialize : Uses R [] s.held (initializeTile io (constructed cpus)).2 := by
    rw [← held_constructed cpus]
    exact moves_initializeTile hfits io (constructed cpus)
  have hcalls : Uses R s.held (TileStep.each exec calls s).1.held (TileStep.each exec calls s).2 :=
    (uses_calls cpus calls (List.Subset.refl calls) hcpus).mono (fun _ _ h => h)
      fun hpoints => ⟨hpointed, hpoints.1⟩
  have hdestroy : Uses R s'.held (destroy task s').1.held (destroy task s').2 :=
    moves_destroy hfits task fun hpoints => hpoints.2
  have hlife : Uses R [] (lifetime cpus io calls task).1.held (lifetime cpus io calls task).2 :=
    hinitialize.append (hcalls.append hdestroy)
  obtain ⟨horderly, hholding, hreads⟩ := hlife.from_nil hgranted
  have hgiven := (freeWhileLooking_spec task StringSlot.all s' .userSid).2.1
  have howned : (lifetime cpus io calls task).1.owned = (lifetime cpus io calls task).1.given ++
      if cpus = .credUi then replacedLabels io else [] := by
    show (destroy task s').1.owned = _
    rw [owned_destroy, hs', calls_lost, hlost, ← hgiven]
    rfl
  rw [← howned]
  refine ⟨horderly, hholding, hlife.fits, fun hundisturbed =>
    ⟨fun hallocated => ?_, fun hintime => hreads ⟨hundisturbed, hintime⟩⟩⟩
  -- the destructor starts with what the tile holds then
  have hlog : (lifetime cpus io calls task).2 = ((initializeTile io (constructed cpus)).2 ++
      (TileStep.each exec calls s).2) ++ (destroy task s').2 := (List.append_assoc _ _ _).symm
  rw [hlog, handleCalls_append] at hgranted
  rw [hlog, readsAllocated_append] at hallocated
  obtain ⟨hgranted1, hgranted2⟩ := along_append.mp hgranted
  have hbefore := hinitialize.append hcalls
  obtain ⟨-, hheld, -⟩ := hbefore.from_nil hgranted1
  exact looksInTime_of_destroy (pointed_calls hpointed hundisturbed) hheld hgranted2 hallocated.2

/-- A tile of CredUI without a user. -/
def exampleInitialize : InitializeIo Nat where
  label i := some i
  credUiLabel i := some (20 + i)
  field i := some (40 + i)
  user := none

def exampleSerialization : SerializationIo Nat where
  logon := ⟨⟨false, false, false, true, none, none⟩, ⟨true, false, true, true, none, none, none⟩,
    none, none⟩
  credUi := ⟨false, false, true, true, true, none, some (65, true), some 66⟩

/-- The user types, LogonUI reads a field, a session stores its strings, the tile is asked. -/
def exampleTileCalls : List (TileCall Nat) :=
  [.setStringValue 11 (some 60), .setStringValue 3 (some 61), .getStringValue 11 (some 62),
    .released 62, .storeSession ⟨true, some (63, true), true, some (64, true)⟩, .notify 0 true,
    .getSerialization exampleSerialization]

/-- The task of the destructor looks before it frees anything, and again after six variables. -/
theorem tileStrings_example :
    let run := lifetime .credUi exampleInitialize exampleTileCalls [0, 6]
    Holding [coTask 66, coTask 4, coTask 3, coTask 11] (openAfter ∅ (handleCalls run.2)) ∧
      ReadsAllocated ∅ run.2 ∧ .freed .coTaskMemFree ⟨.heapFree, 65⟩ ∈ run.2 := by
  have hundisturbed : UndisturbedAll exampleTileCalls
      (initializeTile exampleInitialize (constructed .credUi)).1 :=
    ⟨⟨fun _ => rfl, rfl⟩, ⟨fun _ => rfl, rfl⟩, trivial, trivial, rfl, trivial, trivial, trivial⟩
  obtain ⟨-, hholding, -, hreads⟩ :=
    tileStrings_kept .credUi exampleInitialize exampleTileCalls [0, 6] (by decide +kernel)
  refine ⟨hholding, (hreads hundisturbed).mpr ?_, by decide +kernel⟩
  rintro - x hx
  exact ⟨.field sfiEditText, by decide, hx⟩

end TileStrings

end Smile2Unlock.CredentialProvider
