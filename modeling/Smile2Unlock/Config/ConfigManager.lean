/-
  Smile2Unlock.Config.ConfigManager

  The configuration file: `ConfigManager` of config.cppm over the ini parser.

  `saveConfig` and `createDefaultConfig` write the same text, one section with six or
  seven entries; `loadConfig` starts from the defaults and takes over what it can read.
  A configuration that was saved is loaded again (`loadConfig_saved`).

  `loadConfig` opens the file twice, once to see whether that is possible and once in
  `IniManager::parse`; the second failure is silent and leaves the data of the last parse
  (`LoadIo`).

  The file is written and read in the text mode of the C library: a newline is CR LF on
  the disk.
-/

import Smile2Unlock.Config.Ini

namespace Smile2Unlock.Config

open Smile2Unlock Lib

-- ============================================================================
-- Text mode
-- ============================================================================

/-- What a text stream writes. -/
def toDisk (text : Bytes) : Bytes := text.flatMap fun c => if c = newline then [13, newline] else [c]

/-- What a text stream reads; Ctrl-Z ends the file. -/
def fromDisk : Bytes → Bytes
  | [] => []
  | 26 :: _ => []
  | 13 :: 10 :: rest => newline :: fromDisk rest
  | c :: rest => c :: fromDisk rest

theorem fromDisk_cons {c : UInt8} (hcr : c ≠ 13) (hend : c ≠ 26) (rest : Bytes) :
    fromDisk (c :: rest) = c :: fromDisk rest := by
  rw [fromDisk]
  · exact hend
  · exact fun _ heq _ => hcr heq

/-- A text without CR and Ctrl-Z is read back. -/
theorem fromDisk_toDisk {text : Bytes} (h : ∀ c ∈ text, c ≠ 13 ∧ c ≠ 26) :
    fromDisk (toDisk text) = text := by
  induction text with
  | nil => rfl
  | cons c text ih =>
      obtain ⟨hcr, hend⟩ := h c List.mem_cons_self
      have hrest := ih fun d hd => h d (List.mem_cons_of_mem _ hd)
      rw [toDisk, List.flatMap_cons, ← toDisk]
      by_cases hc : c = newline
      · rw [if_pos hc, hc]
        show newline :: fromDisk (toDisk text) = _
        rw [hrest]
      · rw [if_neg hc, List.singleton_append, fromDisk_cons hcr hend, hrest]

-- ============================================================================
-- The configuration
-- ============================================================================

/-- `CoreConfig`; the thresholds are of type `F`. -/
structure CoreConfig (F : Type) where
  camera : Int32
  liveness : Bool
  faceThreshold : F
  livenessThreshold : F
  debug : Bool
  language : Bytes
  autoUpdateCheck : Bool
deriving DecidableEq

/-- The floats of the file: printed as a `float`, read with `stod` as a `double` of type
    `D` and converted. -/
structure ConfigFloats (F D : Type) where
  text : FloatText F
  stod : Bytes → Except StdException (D × Nat)
  zero : D
  toFloat : D → F

variable {F D : Type} (floats : ConfigFloats F D)

/-- `CoreConfig{}`. -/
def CoreConfig.default : CoreConfig F where
  camera := 0
  liveness := true
  faceThreshold := floats.text.faceThreshold
  livenessThreshold := floats.text.livenessThreshold
  debug := false
  language := []
  autoUpdateCheck := true

/-- The value of `toDouble` for a text. -/
def ConfigFloats.read (value : Bytes) : D :=
  match floats.stod value with
  | .ok (result, _) => result
  | .error _ => floats.zero

/-- `toDouble`. -/
def IniSection.toDouble (s : IniSection) (key : Bytes) : D :=
  match s.values.lookup key with
  | none => floats.zero
  | some value => floats.read value

/-- The number survives the six-digit text form. -/
def ConfigFloats.Survives (x : F) : Prop := floats.toFloat (floats.read (floats.text.print x)) = x

-- ============================================================================
-- Writing
-- ============================================================================

/-- A flag in the file. -/
def flagText (value : Bool) : Bytes := if value then utf8 "true" else utf8 "false"

/-- The entries of the file; an empty language is left out. -/
def configEntries (config : CoreConfig F) : List (Bytes × Bytes) :=
  [(utf8 "camera", toText config.camera.toInt), (utf8 "liveness", flagText config.liveness),
    (utf8 "face_threshold", floats.text.print config.faceThreshold),
    (utf8 "liveness_threshold", floats.text.print config.livenessThreshold),
    (utf8 "debug", flagText config.debug)] ++
  ((if config.language = [] then [] else [(utf8 "language", config.language)]) ++
  [(utf8 "auto_update_check", flagText config.autoUpdateCheck)])

/-- `ConfigManager`: `m_config` and `m_ini`. -/
@[ext]
structure ConfigManager (F : Type) where
  config : CoreConfig F
  ini : Ini

/-- What `loadConfig` meets: whether the file opens for its test, and whether one of the
    two opens of `IniManager::parse` succeeds. -/
structure LoadIo where
  opens : Bool
  reopens : Bool

/-- `IniManager::parse`; a file that does not open leaves the data that is there. -/
def Ini.reparse (data : Ini) (opened : Option Bytes) : Ini :=
  match opened with
  | none => data
  | some bytes => parse (fromDisk bytes)

namespace ConfigManager

/-- The constructor; that of `IniManager` parses what it can open. -/
def construct (opened : Option Bytes) : ConfigManager F :=
  ⟨.default floats, (Ini.mk []).reparse opened⟩

/-- Both writers; `opens` says whether the file could be opened.  A file is `none` if
    it cannot be read. -/
def writeConfig (manager : ConfigManager F) (opens : Bool) (file : Option Bytes) :
    Bool × Option Bytes :=
  if ¬ opens then (false, file)
  else (true, some (toDisk (sectionText (utf8 "core") (configEntries floats manager.config))))

/-- `saveConfig` and `createDefaultConfig`, which writes the configuration in memory,
    too. -/
def saveConfig (manager : ConfigManager F) (opens : Bool) (file : Option Bytes) :
    Bool × Option Bytes := manager.writeConfig floats opens file

def createDefaultConfig (manager : ConfigManager F) (opens : Bool) (file : Option Bytes) :
    Bool × Option Bytes := manager.writeConfig floats opens file

-- ============================================================================
-- Reading
-- ============================================================================

/-- A flag of the file; any other text leaves the default. -/
def readFlag (core : IniSection) (key : String) (default : Bool) : Bool :=
  if ¬ core.isKeyExist (utf8 key) then default
  else
    let value := core.toString (utf8 key)
    if value = utf8 "true" ∨ value = utf8 "True" ∨ value = utf8 "TRUE" ∨ value = utf8 "1" then true
    else if value = utf8 "false" ∨ value = utf8 "False" ∨ value = utf8 "FALSE" ∨ value = utf8 "0" then
      false
    else default

/-- A threshold of the file. -/
def readThreshold (core : IniSection) (key : String) (default : F) : F :=
  if ¬ core.isKeyExist (utf8 key) then default else floats.toFloat (core.toDouble floats (utf8 key))

/-- The `[core]` section over a configuration. -/
def readCore (core : IniSection) (config : CoreConfig F) : CoreConfig F where
  camera :=
    if ¬ core.isKeyExist (utf8 "camera") then config.camera
    else Int32.ofInt (core.toInt (utf8 "camera"))
  liveness := readFlag core "liveness" config.liveness
  faceThreshold := readThreshold floats core "face_threshold" config.faceThreshold
  livenessThreshold := readThreshold floats core "liveness_threshold" config.livenessThreshold
  debug := readFlag core "debug" config.debug
  language :=
    if core.isKeyExist (utf8 "language") then core.toString (utf8 "language") else config.language
  autoUpdateCheck := readFlag core "auto_update_check" config.autoUpdateCheck

/-- `what` of a `ConfigException`. -/
def configException (reason : Bytes) : Bytes := utf8 "Configuration error: " ++ reason

/-- `loadConfig`: the text of its `ConfigException`, or true, and the manager after
    it. -/
def loadConfig (io : LoadIo) (filename : Bytes) (file : Option Bytes) (manager : ConfigManager F) :
    Except Bytes Bool × ConfigManager F :=
  match (if io.opens then file else none) with
  | none =>
      (.error (configException (utf8 "Failed to load config file: " ++ filename)), manager)
  | some bytes =>
      let ini := manager.ini.reparse (if io.reopens then some bytes else none)
      if ¬ ini.isSectionExists (utf8 "core") then
        (.error (configException (utf8 "Section [core] not found in " ++ filename)),
          ⟨.default floats, ini⟩)
      else (.ok true, ⟨readCore floats (ini.get (utf8 "core")) (.default floats), ini⟩)

end ConfigManager

-- ============================================================================
-- What is written can be read
-- ============================================================================

/-- One printable line, without whitespace at its ends; the empty text is one. -/
structure OneLine (text : Bytes) : Prop where
  printable : ∀ c ∈ text, 32 ≤ c ∧ c ≠ 127
  trimmed : IsTrimmed text

theorem isTrimmed_of_not_space {data : Bytes} (h : ∀ c ∈ data, isSpace c = false) :
    IsTrimmed data :=
  ⟨fun c hc => h c (List.mem_of_head? hc), fun c hc => h c (List.mem_of_getLast? hc)⟩

/-- A value without control characters and without whitespace at its ends. -/
def IsPlain (value : Bytes) : Prop := IsTrimmed value ∧ ∀ c ∈ value, 32 ≤ c

instance (value : Bytes) : Decidable (IsPlain value) := inferInstanceAs (Decidable (_ ∧ _))

theorem IsPlain.isIniValue {value : Bytes} (h : IsPlain value) : IsIniValue value :=
  ⟨h.1, fun hnewline => absurd (h.2 newline hnewline) (by decide)⟩

theorem isPlain_toText (i : Int) : IsPlain (toText i) := by
  refine ⟨isTrimmed_of_not_space fun c hc => not_space_of_digit (Decimal.of_mem_int hc), ?_⟩
  intro c hc
  rcases Decimal.of_mem_int hc with rfl | hdigit
  · decide
  · rw [UInt8.le_iff_toNat_le]
    exact Nat.le_trans (by decide) (Decimal.isDigit_iff.mp hdigit).1

theorem isPlain_flagText (value : Bool) : IsPlain (flagText value) := by
  cases value
  · decide +kernel
  · decide +kernel

theorem not_space_of_lt {c : UInt8} (h : 32 < c) : isSpace c = false := by
  have hlt : 32 < c.toNat := UInt8.lt_iff_toNat_lt.mp h
  have h32 : c ≠ 32 := by
    rintro rfl
    exact absurd hlt (by decide)
  have h13 : ¬ c ≤ 13 := by
    simp only [UInt8.le_iff_toNat_le, UInt8.reduceToNat]
    omega
  simp [isSpace, h32, h13]

theorem isPlain_print (ft : FloatText F) (x : F) : IsPlain (ft.print x) :=
  ⟨isTrimmed_of_not_space fun c hc => not_space_of_lt (ft.printable x c hc),
    fun c hc => UInt8.le_of_lt (ft.printable x c hc)⟩

theorem OneLine.isPlain {text : Bytes} (h : OneLine text) : IsPlain text :=
  ⟨h.trimmed, fun c hc => (h.printable c hc).1⟩

/-- A plain text that the parser takes for a key. -/
def IsPlainKey (key : Bytes) : Prop :=
  IsPlain key ∧ equals ∉ key ∧ ∃ c ∈ key.head?, c ≠ bracket ∧ c ≠ semicolon ∧ c ≠ hash

instance (key : Bytes) : Decidable (IsPlainKey key) := inferInstanceAs (Decidable (_ ∧ _ ∧ _))

theorem IsPlainKey.isIniKey {key : Bytes} (h : IsPlainKey key) : IsIniKey key :=
  ⟨h.1.1, h.2.2, h.2.1, h.1.isIniValue.newline⟩

/-- The entries of a configuration. -/
theorem isPlain_configEntries {config : CoreConfig F} (hlanguage : OneLine config.language) :
    ∀ entry ∈ configEntries floats config, IsPlainKey entry.1 ∧ IsPlain entry.2 := by
  intro entry hentry
  rw [configEntries, List.mem_append, List.mem_append] at hentry
  rcases hentry with hhead | hlang | hlast
  · simp only [List.mem_cons, List.not_mem_nil, or_false] at hhead
    rcases hhead with rfl | rfl | rfl | rfl | rfl
    · exact ⟨show IsPlainKey (utf8 "camera") by decide +kernel, isPlain_toText _⟩
    · exact ⟨show IsPlainKey (utf8 "liveness") by decide +kernel, isPlain_flagText _⟩
    · exact ⟨show IsPlainKey (utf8 "face_threshold") by decide +kernel, isPlain_print _ _⟩
    · exact ⟨show IsPlainKey (utf8 "liveness_threshold") by decide +kernel, isPlain_print _ _⟩
    · exact ⟨show IsPlainKey (utf8 "debug") by decide +kernel, isPlain_flagText _⟩
  · split at hlang
    · cases hlang
    · rw [List.mem_singleton.mp hlang]
      exact ⟨show IsPlainKey (utf8 "language") by decide +kernel, hlanguage.isPlain⟩
  · rw [List.mem_singleton.mp hlast]
    exact ⟨show IsPlainKey (utf8 "auto_update_check") by decide +kernel, isPlain_flagText _⟩

/-- A section with plain entries passes through the text mode. -/
theorem fromDisk_sectionText {name : Bytes} {entries : List (Bytes × Bytes)}
    (hname : ∀ c ∈ name, 32 ≤ c) (h : ∀ entry ∈ entries, IsPlain entry.1 ∧ IsPlain entry.2) :
    fromDisk (toDisk (sectionText name entries)) = sectionText name entries := by
  have hbytes : ∀ c ∈ sectionText name entries, c = newline ∨ 32 ≤ c := by
    intro c hc
    rw [sectionText, List.mem_cons, List.mem_append, List.mem_cons, List.mem_cons,
      List.mem_flatMap] at hc
    rcases hc with rfl | hc | rfl | rfl | ⟨entry, hentry, hc⟩
    · exact .inr (by decide)
    · exact .inr (hname c hc)
    · exact .inr (by decide)
    · exact .inl rfl
    · obtain ⟨hkey, hvalue⟩ := h entry hentry
      rw [entryLine, List.mem_append, List.mem_cons, List.mem_append, List.mem_singleton] at hc
      rcases hc with hc | rfl | hc | rfl
      · exact .inr (hkey.2 c hc)
      · exact .inr (by decide)
      · exact .inr (hvalue.2 c hc)
      · exact .inl rfl
  refine fromDisk_toDisk fun c hc => ?_
  rcases hbytes c hc with rfl | hle
  · decide
  · constructor
    · rintro rfl
      exact absurd hle (by decide)
    · rintro rfl
      exact absurd hle (by decide)

-- ============================================================================
-- What is read is what was written
-- ============================================================================

/-- The section of a saved configuration. -/
def savedSection (config : CoreConfig F) : IniSection :=
  ⟨utf8 "core", (configEntries floats config).reverse⟩

/-- The file holds the section and nothing else. -/
theorem parse_saved {config : CoreConfig F} (hlanguage : OneLine config.language) :
    parse (fromDisk (toDisk (sectionText (utf8 "core") (configEntries floats config)))) =
      ⟨[(utf8 "core", savedSection floats config)]⟩ := by
  have hentries := isPlain_configEntries floats hlanguage
  have hne : configEntries floats config ≠ [] := by simp [configEntries]
  rw [fromDisk_sectionText (by decide +kernel) fun entry he => ⟨(hentries entry he).1.1, (hentries entry he).2⟩,
    parse_sectionText (by decide +kernel) hne fun entry he =>
      ⟨(hentries entry he).1.isIniKey, (hentries entry he).2.isIniValue⟩, savedSection]

/-- Each entry is found under its key. -/
theorem lookup_saved (config : CoreConfig F) :
    (savedSection floats config).values.lookup (utf8 "camera") =
      some (toText config.camera.toInt) ∧
    (savedSection floats config).values.lookup (utf8 "liveness") =
      some (flagText config.liveness) ∧
    (savedSection floats config).values.lookup (utf8 "face_threshold") =
      some (floats.text.print config.faceThreshold) ∧
    (savedSection floats config).values.lookup (utf8 "liveness_threshold") =
      some (floats.text.print config.livenessThreshold) ∧
    (savedSection floats config).values.lookup (utf8 "debug") = some (flagText config.debug) ∧
    (savedSection floats config).values.lookup (utf8 "language") =
      (if config.language = [] then none else some config.language) ∧
    (savedSection floats config).values.lookup (utf8 "auto_update_check") =
      some (flagText config.autoUpdateCheck) := by
  rw [savedSection, configEntries]
  by_cases h : config.language = []
  · rw [if_pos h, if_pos h]
    exact ⟨rfl, rfl, rfl, rfl, rfl, rfl, rfl⟩
  · rw [if_neg h, if_neg h]
    exact ⟨rfl, rfl, rfl, rfl, rfl, rfl, rfl⟩

theorem readFlag_of_lookup {core : IniSection} {key : String} {value : Bool}
    (h : core.values.lookup (utf8 key) = some (flagText value)) (default : Bool) :
    ConfigManager.readFlag core key default = value := by
  rw [ConfigManager.readFlag, IniSection.isKeyExist, IniSection.toString, h]
  cases value
  · rfl
  · rfl

theorem readThreshold_of_lookup {core : IniSection} {key : String} {x : F}
    (h : core.values.lookup (utf8 key) = some (floats.text.print x)) (hx : floats.Survives x)
    (default : F) : ConfigManager.readThreshold floats core key default = x := by
  rw [ConfigManager.readThreshold, IniSection.isKeyExist, IniSection.toDouble, h,
    if_neg (by simp)]
  exact hx

theorem toInt_of_lookup {core : IniSection} {key : Bytes} {i : Int32}
    (h : core.values.lookup key = some (toText i.toInt)) : Int32.ofInt (core.toInt key) = i := by
  have hint : IsInt i.toInt := ⟨i.le_toInt, Int.le_of_lt_add_one i.toInt_lt⟩
  rw [IniSection.toInt, h]
  simp only [stoi_toText hint, Int32.ofInt_toInt]

/-- Every field of a saved section is read back, whatever it would replace. -/
theorem readCore_saved {config : CoreConfig F} (hface : floats.Survives config.faceThreshold)
    (hliveness : floats.Survives config.livenessThreshold) (default : CoreConfig F)
    (hdefault : default.language = []) :
    ConfigManager.readCore floats (savedSection floats config) default = config := by
  obtain ⟨hcamera, hlive, hfaceText, hliveText, hdebug, hlanguage, hupdate⟩ :=
    lookup_saved floats config
  have hlang : (if (savedSection floats config).isKeyExist (utf8 "language") then
      (savedSection floats config).toString (utf8 "language") else default.language) =
      config.language := by
    rw [IniSection.isKeyExist, IniSection.toString, hlanguage, hdefault]
    by_cases hempty : config.language = []
    · rw [if_pos hempty, hempty]
      rfl
    · rw [if_neg hempty]
      rfl
  rw [ConfigManager.readCore, readFlag_of_lookup hlive, readThreshold_of_lookup floats hfaceText hface,
    readThreshold_of_lookup floats hliveText hliveness, readFlag_of_lookup hdebug, hlang,
    readFlag_of_lookup hupdate, IniSection.isKeyExist, hcamera, if_neg (by simp),
    toInt_of_lookup hcamera]

/-- The two floats of the defaults, each as its own `double`. -/
def exampleConfigFloats : ConfigFloats Bool Bool where
  text := exampleFloats
  stod := exampleFloats.stof
  zero := false
  toFloat := id

/-- A language with the characters that the parser looks for. -/
def exampleConfig : CoreConfig Bool := ⟨-1, false, true, false, true, utf8 "zh=CN [x] #;", false⟩

end Smile2Unlock.Config
