/-
  Smile2Unlock.Config.LoadedFields

  What `loadConfig` makes of each field of the `[core]` section, for any file.

  Every field has a default and a handler for the exceptions of its accessor.  But the
  accessors `toInt` and `toDouble` throw nothing: a text that is no number is read as
  zero.  For the camera zero is the default, and for a flag the text is compared with the
  words for true and false; a threshold that `stod` rejects becomes zero instead of its
  default.  And the parser drops an empty section at the end of a file, so that
  `loadConfig` throws for a `[core]` there instead of loading the defaults
  (`fieldsLoaded_iff`).
-/

import Smile2Unlock.Config.ConfigManager

namespace Smile2Unlock.Config

open Smile2Unlock Lib

variable {F D : Type} (floats : ConfigFloats F D)

-- ============================================================================
-- The fields
-- ============================================================================

/-- The number of a text that `std::stoi` accepts. -/
def acceptedInt (text : Bytes) : Option Int :=
  match stoi text with
  | .ok (value, _) => some value
  | .error _ => none

/-- The float of a text that `std::stod` accepts. -/
def ConfigFloats.acceptedFloat (text : Bytes) : Option F :=
  match floats.stod text with
  | .ok (value, _) => some (floats.toFloat value)
  | .error _ => none

/-- The words for true and for false. -/
def trueWords : List Bytes := [utf8 "true", utf8 "True", utf8 "TRUE", utf8 "1"]

def falseWords : List Bytes := [utf8 "false", utf8 "False", utf8 "FALSE", utf8 "0"]

/-- The flag of a recognised word. -/
def flagOfWord (text : Bytes) : Option Bool :=
  if text ∈ trueWords then some true else if text ∈ falseWords then some false else none

/-- The value of a field: what its text denotes if there is a text and it is accepted,
    else the default. -/
def IniSection.fieldValue {A : Type} (core : IniSection) (key : String)
    (accepted : Bytes → Option A) (default : A) : A :=
  ((core.values.lookup (utf8 key)).bind accepted).getD default

/-- Every field has the value that its text denotes, or the documented default. -/
structure FieldsLoaded (core : IniSection) (config : CoreConfig F) : Prop where
  camera : config.camera.toInt = core.fieldValue "camera" acceptedInt 0
  liveness : config.liveness = core.fieldValue "liveness" flagOfWord true
  faceThreshold : config.faceThreshold =
    core.fieldValue "face_threshold" floats.acceptedFloat floats.text.faceThreshold
  livenessThreshold : config.livenessThreshold =
    core.fieldValue "liveness_threshold" floats.acceptedFloat floats.text.livenessThreshold
  debug : config.debug = core.fieldValue "debug" flagOfWord false
  autoUpdateCheck : config.autoUpdateCheck = core.fieldValue "auto_update_check" flagOfWord true

/-- The section has no text for the key that `std::stod` rejects. -/
def StodAccepts (core : IniSection) (key : String) : Prop :=
  ∀ text ∈ core.values.lookup (utf8 key), (floats.acceptedFloat text).isSome = true

/-- Neither default is the float 0. -/
def ConfigFloats.DefaultsNonzero : Prop :=
  floats.toFloat floats.zero ≠ floats.text.faceThreshold ∧
    floats.toFloat floats.zero ≠ floats.text.livenessThreshold

-- ============================================================================
-- One lemma for each accessor
-- ============================================================================

theorem readFlag_eq (core : IniSection) (key : String) (default : Bool) :
    ConfigManager.readFlag core key default = core.fieldValue key flagOfWord default := by
  rw [ConfigManager.readFlag, IniSection.isKeyExist, IniSection.toString, IniSection.fieldValue]
  cases core.values.lookup (utf8 key) with
  | none => rfl
  | some text =>
      simp only [Option.isSome_some, not_true_eq_false, if_false, Option.getD_some,
        Option.bind_some, flagOfWord, trueWords, falseWords, List.mem_cons, List.not_mem_nil,
        or_false]
      split
      · rfl
      · split
        · rfl
        · rfl

/-- What `stoi` returns fits into the field. -/
theorem isInt_of_acceptedInt {text : Bytes} {value : Int} (h : acceptedInt text = some value) :
    IsInt value := by
  rw [acceptedInt, stoi] at h
  cases hread : Decimal.readInt (text.dropWhile isSpace) with
  | none =>
      rw [hread] at h
      cases h
  | some read =>
      rw [hread] at h
      by_cases hint : IsInt read.1
      · simp only [if_pos hint, Option.some.injEq] at h
        exact h ▸ hint
      · simp only [if_neg hint] at h
        cases h

/-- `toInt` swallows the exception, and zero is the default. -/
theorem toInt_eq (core : IniSection) (key : String) :
    core.toInt (utf8 key) = core.fieldValue key acceptedInt 0 := by
  rw [IniSection.toInt, IniSection.fieldValue]
  cases core.values.lookup (utf8 key) with
  | none => rfl
  | some text =>
      simp only [Option.bind_some, acceptedInt]
      cases stoi text with
      | ok read => rfl
      | error e => rfl

theorem isInt_fieldValue (core : IniSection) (key : String) :
    IsInt (core.fieldValue key acceptedInt 0) := by
  rw [IniSection.fieldValue]
  cases h : (core.values.lookup (utf8 key)).bind acceptedInt with
  | none => exact (by decide : IsInt 0)
  | some value =>
      obtain ⟨text, -, htext⟩ := Option.bind_eq_some_iff.mp h
      exact isInt_of_acceptedInt htext

theorem toInt_ofInt {i : Int} (h : IsInt i) : (Int32.ofInt i).toInt = i :=
  Int32.toInt_ofInt_of_le h.1 (Int.lt_add_one_of_le h.2)

/-- `toDouble` swallows the exception, too, and what it returns then is zero. -/
theorem readThreshold_eq (core : IniSection) (key : String) (default : F) :
    ConfigManager.readThreshold floats core key default =
      match core.values.lookup (utf8 key) with
      | none => default
      | some text => (floats.acceptedFloat text).getD (floats.toFloat floats.zero) := by
  rw [ConfigManager.readThreshold, IniSection.isKeyExist, IniSection.toDouble]
  cases core.values.lookup (utf8 key) with
  | none => rfl
  | some text =>
      simp only [Option.isSome_some, not_true_eq_false, if_false, ConfigFloats.read,
        ConfigFloats.acceptedFloat]
      cases floats.stod text with
      | ok read => rfl
      | error e => rfl

/-- A threshold has the right value unless its text is rejected. -/
theorem readThreshold_eq_fieldValue_iff (core : IniSection) (key : String) {default : F}
    (hzero : floats.toFloat floats.zero ≠ default) :
    ConfigManager.readThreshold floats core key default =
      core.fieldValue key floats.acceptedFloat default ↔ StodAccepts floats core key := by
  rw [readThreshold_eq, IniSection.fieldValue, StodAccepts]
  cases core.values.lookup (utf8 key) with
  | none => simp
  | some text =>
      simp only [Option.bind_some, Option.mem_def, Option.some.injEq, forall_eq']
      cases floats.acceptedFloat text with
      | none => simpa using hzero
      | some value => simp

-- ============================================================================
-- The whole section
-- ============================================================================

/-- The fields that are always right, and the two that depend on their text. -/
theorem fieldsLoaded_readCore_iff (hzero : floats.DefaultsNonzero) (core : IniSection) :
    FieldsLoaded floats core (ConfigManager.readCore floats core (.default floats)) ↔
      StodAccepts floats core "face_threshold" ∧ StodAccepts floats core "liveness_threshold" := by
  have hface := readThreshold_eq_fieldValue_iff floats core "face_threshold" hzero.1
  have hliveness := readThreshold_eq_fieldValue_iff floats core "liveness_threshold" hzero.2
  constructor
  · intro h
    exact ⟨hface.mp h.faceThreshold, hliveness.mp h.livenessThreshold⟩
  · rintro ⟨haccept, haccept'⟩
    refine ⟨?_, readFlag_eq core _ _, hface.mpr haccept, hliveness.mpr haccept',
      readFlag_eq core _ _, readFlag_eq core _ _⟩
    have hcamera : (ConfigManager.readCore floats core (.default floats)).camera =
        Int32.ofInt (core.fieldValue "camera" acceptedInt 0) := by
      rw [ConfigManager.readCore, toInt_eq, IniSection.isKeyExist, IniSection.fieldValue]
      cases core.values.lookup (utf8 "camera") with
      | none => rfl
      | some text => rfl
    rw [hcamera, toInt_ofInt (isInt_fieldValue core "camera")]

/-- `loadConfig` on a file succeeds, and every field is the number its text denotes or its
    default, exactly if there is a `[core]` section with something behind its header and
    `stod` accepts what the file says for the two thresholds. -/
theorem fieldsLoaded_iff (floats : ConfigFloats F D) (hzero : floats.DefaultsNonzero)
    (filename file : Bytes) (manager : ConfigManager F) :
    ((manager.loadConfig floats ⟨true, true⟩ filename (some file)).1 = .ok true ∧
      FieldsLoaded floats ((parse (fromDisk file)).get (utf8 "core"))
        (manager.loadConfig floats ⟨true, true⟩ filename (some file)).2.config) ↔
    KeepsSection (utf8 "core") ((fromDisk file).splitOn newline) ∧
      StodAccepts floats ((parse (fromDisk file)).get (utf8 "core")) "face_threshold" ∧
      StodAccepts floats ((parse (fromDisk file)).get (utf8 "core")) "liveness_threshold" := by
  rw [← isSectionExists_parse (by decide)]
  by_cases hkept : (parse (fromDisk file)).isSectionExists (utf8 "core") = true
  · have hload : manager.loadConfig floats ⟨true, true⟩ filename (some file) =
        (.ok true, ⟨ConfigManager.readCore floats ((parse (fromDisk file)).get (utf8 "core"))
          (.default floats), parse (fromDisk file)⟩) := by
      rw [ConfigManager.loadConfig]
      simp only [if_true, Ini.reparse, hkept, not_true_eq_false, if_false]
    rw [hload, fieldsLoaded_readCore_iff floats hzero, and_iff_right hkept]
    exact and_iff_right rfl
  · have hload : (manager.loadConfig floats ⟨true, true⟩ filename (some file)).1 =
        .error (ConfigManager.configException
          (utf8 "Section [core] not found in " ++ filename)) := by
      rw [ConfigManager.loadConfig]
      simp only [if_true, Ini.reparse, hkept, Bool.false_eq_true, not_false_eq_true]
    rw [hload]
    refine iff_of_false ?_ fun h => hkept h.1
    rintro ⟨hok, -⟩
    cases hok

-- ============================================================================
-- A rejected threshold
-- ============================================================================

/-- Hundredths; `stod` knows three texts. -/
def hundredths : ConfigFloats Nat Nat where
  text := {
    print := fun x => if x = 80 then utf8 "0.8" else if x = 62 then utf8 "0.62" else utf8 "0"
    stof := fun _ => .error .invalidArgument
    faceThreshold := 62
    livenessThreshold := 80
    length_print := fun x => by
      split
      · decide
      · split
        · decide
        · decide
    printable := fun x c hc => by
      have hall : (if x = 80 then utf8 "0.8" else if x = 62 then utf8 "0.62"
          else utf8 "0").all (32 < ·) = true := by
        split
        · rfl
        · split
          · rfl
          · rfl
      exact of_decide_eq_true (List.all_eq_true.mp hall c hc) }
  stod s :=
    if s = utf8 "0.8" then .ok (80, 3) else if s = utf8 "0.62" then .ok (62, 4)
    else if s = utf8 "0" then .ok (0, 1) else .error .invalidArgument
  zero := 0
  toFloat := id

theorem fieldsLoaded_iff_missing :
    hundredths.DefaultsNonzero ∧
    FieldsLoaded hundredths
      ((parse (fromDisk (utf8 "[core]\r\ncamera=x\r\nface_threshold=0.8\r\n"))).get (utf8 "core"))
      (ConfigManager.loadConfig hundredths ⟨true, true⟩ (utf8 "config.ini")
        (some (utf8 "[core]\r\ncamera=x\r\nface_threshold=0.8\r\n"))
        ⟨.default hundredths, ⟨[]⟩⟩).2.config := by
  have hzero : hundredths.DefaultsNonzero := ⟨by decide, by decide⟩
  have hget : (parse (fromDisk (utf8 "[core]\r\ncamera=x\r\nface_threshold=0.8\r\n"))).get
      (utf8 "core") =
      ⟨utf8 "core", [(utf8 "face_threshold", utf8 "0.8"), (utf8 "camera", utf8 "x")]⟩ := by
    decide +kernel
  refine ⟨hzero, ((fieldsLoaded_iff hundredths hzero (utf8 "config.ini") _
    ⟨.default hundredths, ⟨[]⟩⟩).mpr ⟨by decide +kernel, ?_⟩).2⟩
  rw [hget]
  constructor
  · intro text htext
    have htext : text = utf8 "0.8" := (Option.some.inj htext).symm
    rw [htext]
    rfl
  · intro text htext
    have hnone : (none : Option Bytes) = some text := htext
    cases hnone

/-- `liveness_threshold=abc` is loaded as zero. -/
theorem fieldsLoaded_fails :
    ¬ ∀ (F D : Type) (floats : ConfigFloats F D), floats.DefaultsNonzero →
      ∀ (filename file : Bytes) (manager : ConfigManager F),
      HasSection (utf8 "core") (fromDisk file) →
        (manager.loadConfig floats ⟨true, true⟩ filename (some file)).1 = .ok true ∧
        FieldsLoaded floats ((parse (fromDisk file)).get (utf8 "core"))
          (manager.loadConfig floats ⟨true, true⟩ filename (some file)).2.config := by
  intro h
  obtain ⟨-, hfields⟩ := h Nat Nat hundredths ⟨by decide, by decide⟩ (utf8 "config.ini")
    (utf8 "[core]\r\nliveness_threshold=abc\r\n") ⟨.default hundredths, ⟨[]⟩⟩ (by decide +kernel)
  have hzero : (ConfigManager.loadConfig hundredths ⟨true, true⟩ (utf8 "config.ini")
      (some (utf8 "[core]\r\nliveness_threshold=abc\r\n"))
      ⟨.default hundredths, ⟨[]⟩⟩).2.config.livenessThreshold = 0 := by decide +kernel
  have hdefault : ((parse (fromDisk (utf8 "[core]\r\nliveness_threshold=abc\r\n"))).get
      (utf8 "core")).fieldValue "liveness_threshold" hundredths.acceptedFloat
      hundredths.text.livenessThreshold = 80 := by decide +kernel
  have heq := hfields.livenessThreshold
  rw [hzero, hdefault] at heq
  cases heq

end Smile2Unlock.Config
