/-
  Smile2Unlock.Injector.InjectDll

  `InjectDll` of the class `DllInjector`: the DLL is copied over the installed one, then
  three registry keys are created or opened, one after the other, and their values set.

  The creation of a key is checked, the writing of a value is not; and what was done
  before a failure stays.  `injectDll_stepwise` says how far a call gets: it succeeds
  only if the copy and the three keys do, it installs all of it where nothing fails,
  and a failure leaves alone what it did not get to.
-/

import Smile2Unlock.Common.Text

namespace Smile2Unlock.Injector

open Smile2Unlock

-- ============================================================================
-- The registry
-- ============================================================================

/-- `HKEY_LOCAL_MACHINE` and `HKEY_CLASSES_ROOT`. -/
inductive RootKey where
  | localMachine
  | classesRoot
deriving DecidableEq

/-- A key below one of them. -/
structure RegistryKey where
  root : RootKey
  subKey : Bytes
deriving DecidableEq

/-- Which keys exist, and the data of their values; the default value has the empty name. -/
structure Registry where
  present : RegistryKey → Bool
  values : RegistryKey → Bytes → Option Bytes

/-- Nothing under the key differs. -/
def Registry.SameAt (key : RegistryKey) (r r' : Registry) : Prop :=
  r'.present key = r.present key ∧ ∀ name, r'.values key name = r.values key name

/-- The key exists, with the values that it had. -/
def Registry.createKey (r : Registry) (key : RegistryKey) : Registry :=
  { r with present := fun k => if k = key then true else r.present k }

def Registry.setValue (r : Registry) (key : RegistryKey) (name data : Bytes) : Registry :=
  { r with values := fun k n => if k = key ∧ n = name then some data else r.values k n }

/-- `RegCreateKeyExA`, where it succeeds. -/
def regCreateKeyExA (succeeds : Bool) (key : RegistryKey) (r : Registry) : Option Registry :=
  if succeeds then some (r.createKey key) else none

/-- `RegSetValueExA` of a string with its NUL; its result is ignored. -/
def regSetValueExA (succeeds : Bool) (key : RegistryKey) (name value : Bytes) (r : Registry) :
    Registry :=
  if succeeds then r.setValue key name (value ++ [0]) else r

-- ============================================================================
-- ImportRegistry and InjectDll
-- ============================================================================

/-- `REGISTRY_KEY_CP` and `REGISTRY_KEY_CLSID` under their roots, and `inprocKey`. -/
def registryKeyCp : RegistryKey := ⟨.localMachine, utf8
  "SOFTWARE\\Microsoft\\Windows\\CurrentVersion\\Authentication\\Credential Providers\\\x7b5fd3d285-0dd9-4362-8855-e0abaacd4af6\x7d"⟩

def registryKeyClsid : RegistryKey := ⟨.classesRoot, utf8
  "CLSID\\\x7b5fd3d285-0dd9-4362-8855-e0abaacd4af6\x7d"⟩

def inprocKey : RegistryKey := ⟨.classesRoot, registryKeyClsid.subKey ++ utf8 "\\InprocServer32"⟩

/-- `value`, `dllName` and `threadingModel` of `ImportRegistry`. -/
def providerName : Bytes := utf8 "SampleV2CredentialProvider"
def dllName : Bytes := utf8 "SampleV2CredentialProvider.dll"
def threadingModel : Bytes := utf8 "Apartment"

/-- Which calls of one `InjectDll` succeed.  `fs::exists` may throw; `fs::copy_file` throws
    where it fails, and leaves of the target what it leaves. -/
structure InjectCalls where
  sourceExists : Except Bytes Bool
  copyFile : Except (Bytes × Option Bytes) Unit
  createCp : Bool
  setCp : Bool
  createClsid : Bool
  setClsid : Bool
  createInproc : Bool
  setInproc : Bool
  setThreadingModel : Bool

/-- `ImportRegistry`. -/
def importRegistry (calls : InjectCalls) (r : Registry) : Bool × Registry :=
  match regCreateKeyExA calls.createCp registryKeyCp r with
  | none => (false, r)
  | some r =>
      let r := regSetValueExA calls.setCp registryKeyCp [] providerName r
      match regCreateKeyExA calls.createClsid registryKeyClsid r with
      | none => (false, r)
      | some r =>
          let r := regSetValueExA calls.setClsid registryKeyClsid [] providerName r
          match regCreateKeyExA calls.createInproc inprocKey r with
          | none => (false, r)
          | some r =>
              let r := regSetValueExA calls.setInproc inprocKey [] dllName r
              (true, regSetValueExA calls.setThreadingModel inprocKey (utf8 "ThreadingModel")
                threadingModel r)

/-- What is installed: the DLL in the system directory, and the registry. -/
structure Installation where
  dll : Option Bytes
  registry : Registry

/-- The result of `InjectDll`, its `error_message`, and what is installed then. -/
structure Injected where
  success : Bool
  errorMessage : Bytes
  installed : Installation

/-- `InjectDll`, with the DLL `source` at `sourcePath`. -/
def injectDll (sourcePath source : Bytes) (calls : InjectCalls) (s : Installation) : Injected :=
  match calls.sourceExists with
  | .error what => ⟨false, utf8 "Exception: " ++ what, s⟩
  | .ok false => ⟨false, utf8 "Source DLL not found: " ++ sourcePath, s⟩
  | .ok true =>
      match calls.copyFile with
      | .error (what, left) => ⟨false, utf8 "Exception: " ++ what, { s with dll := left }⟩
      | .ok () =>
          match importRegistry calls s.registry with
          | (false, registry) =>
              ⟨false, utf8 "Failed to configure registry", ⟨some source, registry⟩⟩
          | (true, registry) => ⟨true, utf8 "Injection successful", ⟨some source, registry⟩⟩

-- ============================================================================
-- The keys one by one
-- ============================================================================

/-- A key, whether its creation succeeds, and the values set in it: the name, the text and
    whether the write succeeds. -/
structure KeyImport where
  key : RegistryKey
  created : Bool
  values : List (Bytes × Bytes × Bool)

/-- The values of an open key are set. -/
def KeyImport.write (part : KeyImport) (r : Registry) : Registry :=
  part.values.foldl (fun r v => regSetValueExA v.2.2 part.key v.1 v.2.1 r) (r.createKey part.key)

/-- The keys are imported until one cannot be created. -/
def importKeys : List KeyImport → Registry → Bool × Registry
  | [], r => (true, r)
  | part :: parts, r => if part.created then importKeys parts (part.write r) else (false, r)

/-- What `ImportRegistry` imports. -/
def keyImports (calls : InjectCalls) : List KeyImport :=
  [⟨registryKeyCp, calls.createCp, [([], providerName, calls.setCp)]⟩,
   ⟨registryKeyClsid, calls.createClsid, [([], providerName, calls.setClsid)]⟩,
   ⟨inprocKey, calls.createInproc,
    [([], dllName, calls.setInproc),
     (utf8 "ThreadingModel", threadingModel, calls.setThreadingModel)]⟩]

theorem importRegistry_eq (calls : InjectCalls) (r : Registry) :
    importRegistry calls r = importKeys (keyImports calls) r := by
  obtain ⟨-, -, createCp, _, createClsid, _, createInproc, _, _⟩ := calls
  cases createCp with
  | false => rfl
  | true =>
      cases createClsid with
      | false => rfl
      | true =>
          cases createInproc with
          | false => rfl
          | true => rfl

/-- The keys are three different ones. -/
theorem keys_nodup (calls : InjectCalls) : ((keyImports calls).map (·.key)).Nodup := by
  show [registryKeyCp, registryKeyClsid, inprocKey].Nodup
  decide

/-- No value is set twice. -/
theorem names_nodup (calls : InjectCalls) {part : KeyImport} (hpart : part ∈ keyImports calls) :
    (part.values.map (·.1)).Nodup := by
  rw [keyImports, List.mem_cons, List.mem_cons, List.mem_singleton] at hpart
  rcases hpart with rfl | rfl | rfl
  · exact List.pairwise_singleton _ _
  · exact List.pairwise_singleton _ _
  · show [[], utf8 "ThreadingModel"].Nodup
    decide

/-- Every call for the key succeeds. -/
def KeyImport.Succeeds (part : KeyImport) : Prop :=
  part.created = true ∧ ∀ v ∈ part.values, v.2.2 = true

/-- The imports whose key was created. -/
def opened (parts : List KeyImport) : List KeyImport := parts.takeWhile (·.created)

/-- What a call may have left of a value: what it was, or the text that a part sets. -/
def KeyImport.MaySet (part : KeyImport) (key : RegistryKey) (name : Bytes) (data : Option Bytes) :
    Prop :=
  part.key = key ∧ ∃ v ∈ part.values, v.1 = name ∧ data = some (v.2.1 ++ [0])

section Frames

variable {key : RegistryKey} {part : KeyImport} {parts : List KeyImport} {r r' r'' : Registry}

theorem Registry.SameAt.refl (key : RegistryKey) (r : Registry) : r.SameAt key r :=
  ⟨rfl, fun _ => rfl⟩

theorem Registry.SameAt.trans (h : r.SameAt key r') (h' : r'.SameAt key r'') : r.SameAt key r'' :=
  ⟨h'.1.trans h.1, fun name => (h'.2 name).trans (h.2 name)⟩

theorem present_regSetValueExA (succeeds : Bool) (name value : Bytes) (r : Registry)
    (k : RegistryKey) : (regSetValueExA succeeds key name value r).present k = r.present k := by
  cases succeeds with
  | true => rfl
  | false => rfl

/-- A write changes one value, if any. -/
theorem values_regSetValueExA (succeeds : Bool) (name value : Bytes) (r : Registry)
    (k : RegistryKey) (n : Bytes) :
    (regSetValueExA succeeds key name value r).values k n = r.values k n ∨
      (key = k ∧ name = n ∧
        (regSetValueExA succeeds key name value r).values k n = some (value ++ [0])) := by
  cases succeeds with
  | false => exact .inl rfl
  | true =>
      rw [regSetValueExA, if_pos rfl, Registry.setValue]
      by_cases hsame : k = key ∧ n = name
      · exact .inr ⟨hsame.1.symm, hsame.2.symm, if_pos hsame⟩
      · exact .inl (if_neg hsame)

/-- The key of the part is there. -/
theorem present_write (part : KeyImport) (r : Registry) (k : RegistryKey) :
    (part.write r).present k = if k = part.key then true else r.present k := by
  have hfold : ∀ (vs : List (Bytes × Bytes × Bool)) (r : Registry),
      (vs.foldl (fun r v => regSetValueExA v.2.2 part.key v.1 v.2.1 r) r).present k =
        r.present k := by
    intro vs
    induction vs with
    | nil => exact fun _ => rfl
    | cons v vs ih => exact fun r => (ih _).trans (present_regSetValueExA _ _ _ r k)
  rw [KeyImport.write, hfold]
  rfl

/-- A list of writes changes no values but the ones that it names. -/
theorem values_foldl (vs : List (Bytes × Bytes × Bool)) (r : Registry) (k : RegistryKey)
    (n : Bytes) :
    (vs.foldl (fun r v => regSetValueExA v.2.2 key v.1 v.2.1 r) r).values k n = r.values k n ∨
      (key = k ∧ ∃ v ∈ vs, v.1 = n ∧
        (vs.foldl (fun r v => regSetValueExA v.2.2 key v.1 v.2.1 r) r).values k n =
          some (v.2.1 ++ [0])) := by
  induction vs generalizing r with
  | nil => exact .inl rfl
  | cons v vs ih =>
      rw [List.foldl_cons]
      rcases ih (regSetValueExA v.2.2 key v.1 v.2.1 r) with hsame | ⟨hkey, v', hv', hset⟩
      · rcases values_regSetValueExA v.2.2 v.1 v.2.1 r k n with hold | ⟨hkey, hname, hnew⟩
        · exact .inl (hsame.trans hold)
        · exact .inr ⟨hkey, v, List.mem_cons_self, hname, hsame.trans hnew⟩
      · exact .inr ⟨hkey, v', List.mem_cons_of_mem v hv', hset⟩

/-- Where every write succeeds and no name comes twice, each value is the text of its write. -/
theorem values_foldl_written {vs : List (Bytes × Bytes × Bool)} (r : Registry)
    (hnames : (vs.map (·.1)).Nodup) (hwritten : ∀ v ∈ vs, v.2.2 = true)
    {v : Bytes × Bytes × Bool} (hv : v ∈ vs) :
    (vs.foldl (fun r v => regSetValueExA v.2.2 key v.1 v.2.1 r) r).values key v.1 =
      some (v.2.1 ++ [0]) := by
  induction vs generalizing r with
  | nil => cases hv
  | cons w vs ih =>
      rw [List.map_cons, List.nodup_cons] at hnames
      rw [List.forall_mem_cons] at hwritten
      rw [List.foldl_cons]
      rcases List.mem_cons.mp hv with rfl | hv
      · -- no later write has the name
        rcases values_foldl vs (regSetValueExA v.2.2 key v.1 v.2.1 r) key v.1 with
          hsame | ⟨-, v', hv', hname, -⟩
        · rw [hsame, hwritten.1, regSetValueExA, if_pos rfl]
          exact if_pos ⟨rfl, rfl⟩
        · exact absurd (List.mem_map.mpr ⟨v', hv', hname⟩) hnames.1
      · exact ih _ hnames.2 hwritten.2 hv

/-- A part changes no values but its own. -/
theorem values_write (part : KeyImport) (r : Registry) (k : RegistryKey) (n : Bytes) :
    (part.write r).values k n = r.values k n ∨ part.MaySet k n ((part.write r).values k n) :=
  values_foldl part.values (r.createKey part.key) k n

theorem sameAt_write (hkey : part.key ≠ key) (r : Registry) : r.SameAt key (part.write r) := by
  refine ⟨by rw [present_write, if_neg hkey.symm], fun name => ?_⟩
  rcases values_write part r key name with hsame | hset
  · exact hsame
  · exact absurd hset.1 hkey

/-- The import succeeds exactly if each key is created. -/
theorem importKeys_iff : (importKeys parts r).1 = true ↔ ∀ part ∈ parts, part.created = true := by
  induction parts generalizing r with
  | nil => simp [importKeys]
  | cons part parts ih =>
      rw [importKeys, List.forall_mem_cons]
      cases hcreated : part.created with
      | true => rw [if_pos rfl, ih]; simp
      | false => simp

theorem opened_cons (part : KeyImport) (parts : List KeyImport) : opened (part :: parts) =
    if part.created then part :: opened parts else [] := by
  rw [opened, List.takeWhile_cons, opened]

/-- A key that was not opened is as it was. -/
theorem importKeys_untouched (h : ∀ part ∈ opened parts, part.key ≠ key) :
    r.SameAt key (importKeys parts r).2 := by
  induction parts generalizing r with
  | nil => exact .refl key r
  | cons part parts ih =>
      rw [opened_cons] at h
      rw [importKeys]
      cases hcreated : part.created with
      | false => exact .refl key r
      | true =>
          rw [hcreated, if_pos rfl, List.forall_mem_cons] at h
          rw [if_pos rfl]
          exact (sameAt_write h.1 r).trans (ih h.2)

/-- Where every key is created, the values under each are as its part wrote them. -/
theorem importKeys_written (hkeys : (parts.map (·.key)).Nodup)
    (hcreated : ∀ part ∈ parts, part.created = true) (hpart : part ∈ parts) :
    ∃ r', ∀ name,
      (importKeys parts r).2.values part.key name = (part.write r').values part.key name := by
  induction parts generalizing r with
  | nil => cases hpart
  | cons first parts ih =>
      rw [List.map_cons, List.nodup_cons] at hkeys
      rw [List.forall_mem_cons] at hcreated
      rw [importKeys, if_pos hcreated.1]
      rcases List.mem_cons.mp hpart with rfl | hpart
      · -- the later parts have other keys
        refine ⟨r, fun name => (importKeys_untouched fun later hlater hsame => ?_).2 name⟩
        have hmem : later ∈ parts := (List.takeWhile_sublist _).subset hlater
        exact hkeys.1 (List.mem_map.mpr ⟨later, hmem, hsame⟩)
      · exact ih hkeys.2 hcreated.2 hpart

/-- A key that was there or opened is there. -/
theorem importKeys_present (h : r.present key = true ∨ ∃ part ∈ opened parts, part.key = key) :
    (importKeys parts r).2.present key = true := by
  induction parts generalizing r with
  | nil =>
      rcases h with h | ⟨part, hpart, -⟩
      · exact h
      · cases hpart
  | cons part parts ih =>
      rw [opened_cons] at h
      rw [importKeys]
      cases hcreated : part.created with
      | false =>
          rw [hcreated, if_neg Bool.false_ne_true] at h
          rcases h with h | ⟨part', hpart', -⟩
          · exact h
          · cases hpart'
      | true =>
          rw [hcreated, if_pos rfl] at h
          rw [if_pos rfl]
          apply ih
          rw [present_write]
          rcases h with h | ⟨part', hpart', hkey⟩
          · exact .inl (by rw [h, ite_self])
          · rcases List.mem_cons.mp hpart' with rfl | hpart'
            · exact .inl (if_pos hkey.symm)
            · exact .inr ⟨part', hpart', hkey⟩

/-- A value is what it was, or what an opened part sets. -/
theorem importKeys_values (name : Bytes) :
    (importKeys parts r).2.values key name = r.values key name ∨
      ∃ part ∈ opened parts, part.MaySet key name ((importKeys parts r).2.values key name) := by
  induction parts generalizing r with
  | nil => exact .inl rfl
  | cons part parts ih =>
      rw [opened_cons, importKeys]
      cases hcreated : part.created with
      | false => exact .inl rfl
      | true =>
          rw [if_pos rfl, if_pos rfl]
          rcases ih (r := part.write r) with hsame | ⟨part', hpart', hset⟩
          · rcases values_write part r key name with hold | hset
            · exact .inl (hsame.trans hold)
            · rw [← hsame] at hset
              exact .inr ⟨part, List.mem_cons_self, hset⟩
          · exact .inr ⟨part', List.mem_cons_of_mem _ hpart', hset⟩

end Frames

-- ============================================================================
-- How far a call gets
-- ============================================================================

/-- `InjectDll` as one whole: success means that everything was written, and a failure
    changes nothing. -/
structure AllOrNothing (calls : InjectCalls) (s : Installation) (result : Injected) : Prop where
  complete : result.success = true → calls.copyFile = .ok () ∧ calls.setCp = true ∧
    calls.setClsid = true ∧ calls.setInproc = true ∧ calls.setThreadingModel = true
  unchanged : result.success = false → result.installed = s

/-- `InjectDll` as it goes: success means that the DLL was copied and the keys are there, and
    without a failing call it installs everything; a failure leaves what was done before it,
    and changes nothing that comes after it. -/
structure Stepwise (source : Bytes) (calls : InjectCalls) (s : Installation) (result : Injected) :
    Prop where
  succeeds : result.success = true → calls.sourceExists = .ok true ∧ calls.copyFile = .ok () ∧
    ∀ part ∈ keyImports calls, part.created = true
  complete : calls.sourceExists = .ok true → calls.copyFile = .ok () →
    (∀ part ∈ keyImports calls, part.Succeeds) → result.success = true ∧
      ∀ part ∈ keyImports calls, ∀ v ∈ part.values,
        result.installed.registry.values part.key v.1 = some (v.2.1 ++ [0])
  keys : result.success = true → ∀ part ∈ keyImports calls,
    result.installed.registry.present part.key = true
  notFound : calls.sourceExists ≠ .ok true → result.installed = s
  notCopied : ∀ what left, calls.sourceExists = .ok true → calls.copyFile = .error (what, left) →
    result.installed = { s with dll := left }
  copied : calls.sourceExists = .ok true → calls.copyFile = .ok () →
    result.installed.dll = some source
  untouched : ∀ key, (∀ part ∈ opened (keyImports calls), part.key ≠ key) →
    s.registry.SameAt key result.installed.registry
  values : ∀ key name,
    result.installed.registry.values key name = s.registry.values key name ∨
      ∃ part ∈ opened (keyImports calls),
        part.MaySet key name (result.installed.registry.values key name)

/-- The inner part of `InjectDll`, once the DLL is copied. -/
theorem injectDll_copied {sourcePath source : Bytes} {calls : InjectCalls} {s : Installation}
    (hexists : calls.sourceExists = .ok true) (hcopy : calls.copyFile = .ok ()) :
    (injectDll sourcePath source calls s).success = (importKeys (keyImports calls) s.registry).1 ∧
      (injectDll sourcePath source calls s).installed =
        ⟨some source, (importKeys (keyImports calls) s.registry).2⟩ := by
  rw [← importRegistry_eq, injectDll, hexists, hcopy]
  dsimp only
  generalize importRegistry calls s.registry = imported
  obtain ⟨success, registry⟩ := imported
  cases success with
  | true => exact ⟨rfl, rfl⟩
  | false => exact ⟨rfl, rfl⟩

/-- Before the copy nothing happens, and a copy that fails ends the call. -/
theorem injectDll_not_copied {sourcePath source : Bytes} {calls : InjectCalls} {s : Installation}
    (h : ¬ (calls.sourceExists = .ok true ∧ calls.copyFile = .ok ())) :
    (injectDll sourcePath source calls s).success = false ∧
      (injectDll sourcePath source calls s).installed.registry = s.registry ∧
      (calls.sourceExists ≠ .ok true → (injectDll sourcePath source calls s).installed = s) ∧
      ∀ what left, calls.sourceExists = .ok true → calls.copyFile = .error (what, left) →
        (injectDll sourcePath source calls s).installed = { s with dll := left } := by
  rw [injectDll]
  cases hexists : calls.sourceExists with
  | error what => exact ⟨rfl, rfl, fun _ => rfl, fun _ _ htrue _ => by cases htrue⟩
  | ok there =>
      cases there with
      | false => exact ⟨rfl, rfl, fun _ => rfl, fun _ _ htrue _ => by cases htrue⟩
      | true =>
          cases hcopy : calls.copyFile with
          | error failure =>
              refine ⟨rfl, rfl, fun hne => absurd rfl hne, fun what left _ hfailure => ?_⟩
              cases hfailure
              rfl
          | ok _ => exact absurd ⟨hexists, hcopy⟩ h

/-- `InjectDll` gets as far as its first failing check. -/
theorem injectDll_stepwise (sourcePath source : Bytes) (calls : InjectCalls) (s : Installation) :
    Stepwise source calls s (injectDll sourcePath source calls s) := by
  by_cases hcopied : calls.sourceExists = .ok true ∧ calls.copyFile = .ok ()
  · obtain ⟨hexists, hcopy⟩ := hcopied
    obtain ⟨hsuccess, hinstalled⟩ := injectDll_copied (s := s) hexists hcopy
    refine ⟨?_, ?_, ?_, fun h => absurd hexists h, fun what left _ h => ?_, ?_, ?_, ?_⟩
    · intro htrue
      rw [hsuccess, importKeys_iff] at htrue
      exact ⟨hexists, hcopy, htrue⟩
    · intro _ _ hcalls
      have hcreated : ∀ part ∈ keyImports calls, part.created = true :=
        fun part hpart => (hcalls part hpart).1
      refine ⟨by rw [hsuccess, importKeys_iff]; exact hcreated, fun part hpart v hv => ?_⟩
      obtain ⟨r', hvalues⟩ := importKeys_written (r := s.registry) (keys_nodup calls) hcreated hpart
      rw [hinstalled]
      show (importKeys (keyImports calls) s.registry).2.values part.key v.1 = some (v.2.1 ++ [0])
      rw [hvalues]
      exact values_foldl_written _ (names_nodup calls hpart) (hcalls part hpart).2 hv
    · intro htrue part hpart
      rw [hsuccess, importKeys_iff] at htrue
      have hopened : opened (keyImports calls) = keyImports calls :=
        List.takeWhile_eq_self_iff.mpr htrue
      rw [hinstalled]
      exact importKeys_present (.inr ⟨part, by rw [hopened]; exact hpart, rfl⟩)
    · rw [hcopy] at h
      cases h
    · exact fun _ _ => by rw [hinstalled]
    · intro key hkey
      rw [hinstalled]
      exact importKeys_untouched hkey
    · intro key name
      rw [hinstalled]
      exact importKeys_values name
  · obtain ⟨hsuccess, hregistry, hnotFound, hnotCopied⟩ := injectDll_not_copied (s := s) hcopied
    have hfalse : ¬ (injectDll sourcePath source calls s).success = true := by
      rw [hsuccess]
      exact Bool.false_ne_true
    refine ⟨fun h => absurd h hfalse, fun hexists hcopy => absurd ⟨hexists, hcopy⟩ hcopied,
      fun h => absurd h hfalse, hnotFound, hnotCopied, ?_, ?_, ?_⟩
    · exact fun hexists hcopy => absurd ⟨hexists, hcopy⟩ hcopied
    · intro key _
      rw [hregistry]
      exact .refl key s.registry
    · intro key name
      rw [hregistry]
      exact .inl rfl

/-- The write of the DLL's name fails, and the call succeeds; the creation of the last key
    fails, and the DLL is there all the same. -/
theorem injectDll_fails :
    (¬ ∀ sourcePath source calls s, (injectDll sourcePath source calls s).success = true →
      calls.copyFile = .ok () ∧ calls.setCp = true ∧ calls.setClsid = true ∧
        calls.setInproc = true ∧ calls.setThreadingModel = true) ∧
    ¬ ∀ sourcePath source calls s, AllOrNothing calls s (injectDll sourcePath source calls s) := by
  let empty : Installation := ⟨none, ⟨fun _ => false, fun _ _ => none⟩⟩
  constructor
  · intro hall
    obtain ⟨-, -, -, hinproc, -⟩ := hall (utf8 "s.dll") [77, 90]
      ⟨.ok true, .ok (), true, true, true, true, true, false, true⟩ empty rfl
    cases hinproc
  · intro hall
    have hunchanged := (hall (utf8 "s.dll") [77, 90]
      ⟨.ok true, .ok (), true, true, true, true, false, true, true⟩ empty).unchanged rfl
    cases congrArg Installation.dll hunchanged

end Smile2Unlock.Injector
