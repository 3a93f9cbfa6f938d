/-
  Smile2Unlock.GuiIpc.ConfigText

  The recognizer configuration between GUI and service, as lines `key=value` in both
  directions.

  Both texts begin with the same six lines.  `foldl_head` and `foldlM_head` say what the
  two readers make of them: the language as far as it arrived, and the default for
  `auto_update_check`, which the client neither writes nor reads.  `keepsConfig_iff`
  puts the two directions together.
-/

import Mathlib.Data.List.TakeDrop
import Smile2Unlock.GuiIpc.Remote

namespace Smile2Unlock.GuiIpc

open Smile2Unlock Lib
open Handler (keyLine flag recognizerConfigText)

variable {F : Type} {ft : FloatText F} {config : FaceRecognizerConfig F}

-- ============================================================================
-- Lines with a key
-- ============================================================================

/-- A line `key=value` without its newline. -/
def keyed (key : String) (value : Bytes) : Bytes := utf8 key ++ equals :: value

/-- A key with neither `=` nor newline. -/
def IsKey (key : String) : Prop := equals ∉ utf8 key ∧ newline ∉ utf8 key

instance (key : String) : Decidable (IsKey key) := inferInstanceAs (Decidable (_ ∧ _))

theorem newline_not_mem_keyed {key : String} (hkey : IsKey key) {value : Bytes}
    (hvalue : newline ∉ value) : newline ∉ keyed key value := by
  rw [keyed, List.mem_append, List.mem_cons, not_or, not_or]
  exact ⟨hkey.2, by decide, hvalue⟩

theorem splitAtFirst_keyed {key : String} (hkey : IsKey key) (value : Bytes) :
    splitAtFirst equals (keyed key value) = some (utf8 key, value) :=
  splitAtFirst_append hkey.1 value

theorem lines_keyLine {key : String} (hkey : IsKey key) {value : Bytes} (hvalue : newline ∉ value)
    (rest : Bytes) :
    lines newline (keyLine key value ++ rest) = keyed key value :: lines newline rest := by
  have hline : keyLine key value ++ rest = keyed key value ++ newline :: rest := by
    simp [keyLine, keyed]
  rw [hline, lines_append (newline_not_mem_keyed hkey hvalue)]

theorem newline_not_mem_flag (value : Bool) : newline ∉ flag value ∧ 0 ∉ flag value := by
  cases value
  · decide
  · decide

theorem not_mem_print (ft : FloatText F) (x : F) : newline ∉ ft.print x ∧ 0 ∉ ft.print x := by
  constructor
  · intro h
    exact absurd (ft.printable x _ h) (by decide)
  · intro h
    exact absurd (ft.printable x _ h) (by decide)

-- ============================================================================
-- The common head
-- ============================================================================

/-- The text before the language. -/
def beforeLanguage (ft : FloatText F) (config : FaceRecognizerConfig F) : Bytes :=
  keyLine "camera" (toText config.camera) ++ (keyLine "liveness" (flag config.liveness) ++
    (keyLine "face_threshold" (ft.print config.faceThreshold) ++
    (keyLine "liveness_threshold" (ft.print config.livenessThreshold) ++
    (keyLine "debug" (flag config.debug) ++ keyed "language" []))))

/-- The text with a language and what follows it. -/
def withLanguage (ft : FloatText F) (config : FaceRecognizerConfig F) (language rest : Bytes) :
    Bytes := beforeLanguage ft config ++ (language ++ rest)

/-- The text up to the end of the language. -/
def configHead (ft : FloatText F) (config : FaceRecognizerConfig F) : Bytes :=
  withLanguage ft config config.language []

theorem recognizerConfigText_eq (ft : FloatText F) (config : FaceRecognizerConfig F) :
    recognizerConfigText ft config = withLanguage ft config config.language
      (newline :: keyLine "auto_update_check" (flag config.autoUpdateCheck)) := by
  simp [recognizerConfigText, withLanguage, beforeLanguage, keyed, keyLine]

/-- The lines of the head, with a language. -/
def headLines (ft : FloatText F) (config : FaceRecognizerConfig F) (language : Bytes) :
    List Bytes :=
  [keyed "camera" (toText config.camera), keyed "liveness" (flag config.liveness),
    keyed "face_threshold" (ft.print config.faceThreshold),
    keyed "liveness_threshold" (ft.print config.livenessThreshold),
    keyed "debug" (flag config.debug), keyed "language" language]

theorem lines_withLanguage (ft : FloatText F) (config : FaceRecognizerConfig F) {language : Bytes}
    (hlanguage : newline ∉ language) {rest : Bytes} (hrest : rest = [] ∨ ∃ t, rest = newline :: t) :
    lines newline (withLanguage ft config language rest) =
      headLines ft config language ++ lines newline rest.tail := by
  have hlast : lines newline (keyed "language" language ++ rest) =
      keyed "language" language :: lines newline rest.tail := by
    have hkey : IsKey "language" := by decide
    have hline := newline_not_mem_keyed hkey hlanguage
    rcases hrest with rfl | ⟨t, rfl⟩
    · rw [List.append_nil, lines_of_not_mem hline (by simp [keyed])]
      rfl
    · rw [lines_append hline]
      rfl
  have hcamera : newline ∉ toText config.camera := not_mem_toText (by decide) (by decide) _
  have hlanguageLine :
      keyed "language" [] ++ (language ++ rest) = keyed "language" language ++ rest := by
    simp [keyed]
  simp only [withLanguage, beforeLanguage, List.append_assoc]
  rw [hlanguageLine, lines_keyLine (by decide) hcamera,
    lines_keyLine (by decide) (newline_not_mem_flag _).1,
    lines_keyLine (by decide) (not_mem_print ft _).1,
    lines_keyLine (by decide) (not_mem_print ft _).1,
    lines_keyLine (by decide) (newline_not_mem_flag _).1, hlast]
  rfl

-- ============================================================================
-- The two readers
-- ============================================================================

/-- What a reader makes of a text: the configuration with the language that arrived, and
    the default of the key that no line of the head has. -/
def arrived (config : FaceRecognizerConfig F) (language : Bytes) : FaceRecognizerConfig F :=
  { config with language := language, autoUpdateCheck := true }

theorem parseFloat_print {x : F} (h : ft.Survives x) : parseFloat ft (ft.print x) = some x := by
  rw [parseFloat, h]
  dsimp only
  rw [if_neg (not_not_intro rfl)]

theorem readsTrue_flag (value : Bool) : Handler.readsTrue (flag value) = value := by
  cases value
  · decide
  · decide

theorem flag_eq_one (value : Bool) : decide (flag value = utf8 "1") = value := by
  cases value
  · decide
  · decide

section

variable (c : FaceRecognizerConfig F) (value : Bytes)

/-- The service's reading of a line, for the keys of the head. -/
theorem readConfigLine_keyed (ft : FloatText F) :
    Handler.readConfigLine ft c (keyed "camera" value) =
      { c with camera := (parseInt value).getD c.camera } ∧
    Handler.readConfigLine ft c (keyed "liveness" value) =
      { c with liveness := Handler.readsTrue value } ∧
    Handler.readConfigLine ft c (keyed "face_threshold" value) =
      { c with faceThreshold := (parseFloat ft value).getD c.faceThreshold } ∧
    Handler.readConfigLine ft c (keyed "liveness_threshold" value) =
      { c with livenessThreshold := (parseFloat ft value).getD c.livenessThreshold } ∧
    Handler.readConfigLine ft c (keyed "debug" value) =
      { c with debug := Handler.readsTrue value } ∧
    Handler.readConfigLine ft c (keyed "language" value) = { c with language := value } := by
  refine ⟨?_, ?_, ?_, ?_, ?_, ?_⟩
  all_goals
    rw [Handler.readConfigLine, splitAtFirst_keyed (by decide)]
    rfl

/-- The client's reading of a line, for the same keys. -/
theorem remote_readConfigLine_keyed (ft : FloatText F) :
    RemoteBackendService.readConfigLine ft c (keyed "camera" value) =
      (stoi value).map (fun read => { c with camera := read.1 }) ∧
    RemoteBackendService.readConfigLine ft c (keyed "liveness" value) =
      .ok { c with liveness := value = utf8 "1" } ∧
    RemoteBackendService.readConfigLine ft c (keyed "face_threshold" value) =
      (ft.stof value).map (fun read => { c with faceThreshold := read.1 }) ∧
    RemoteBackendService.readConfigLine ft c (keyed "liveness_threshold" value) =
      (ft.stof value).map (fun read => { c with livenessThreshold := read.1 }) ∧
    RemoteBackendService.readConfigLine ft c (keyed "debug" value) =
      .ok { c with debug := value = utf8 "1" } ∧
    RemoteBackendService.readConfigLine ft c (keyed "language" value) =
      .ok { c with language := value } := by
  refine ⟨?_, ?_, ?_, ?_, ?_, ?_⟩
  all_goals
    rw [RemoteBackendService.readConfigLine, splitAtFirst_keyed (by decide)]
    rfl

end

/-- A configuration that the text form can carry, the language apart. -/
structure Carried (ft : FloatText F) (config : FaceRecognizerConfig F) : Prop where
  camera : IsInt config.camera
  faceThreshold : ft.Survives config.faceThreshold
  livenessThreshold : ft.Survives config.livenessThreshold

theorem foldl_head (h : Carried ft config) (language : Bytes) :
    (headLines ft config language).foldl (Handler.readConfigLine ft) (.default ft) =
      arrived config language := by
  simp only [headLines, List.foldl_cons, List.foldl_nil, readConfigLine_keyed,
    parseInt_toText h.camera, parseFloat_print h.faceThreshold,
    parseFloat_print h.livenessThreshold, readsTrue_flag]
  rfl

theorem foldlM_head (h : Carried ft config) (language : Bytes) :
    (headLines ft config language).foldlM (RemoteBackendService.readConfigLine ft) (.default ft) =
      .ok (arrived config language) := by
  have hface : ft.stof (ft.print config.faceThreshold) = .ok (config.faceThreshold, _) :=
    h.faceThreshold
  have hliveness : ft.stof (ft.print config.livenessThreshold) = .ok (config.livenessThreshold, _) :=
    h.livenessThreshold
  simp only [headLines, List.foldlM_cons, List.foldlM_nil, remote_readConfigLine_keyed,
    stoi_toText h.camera, hface, hliveness, flag_eq_one, bind, Except.bind, Except.map]
  rfl

-- ============================================================================
-- Texts that are cut
-- ============================================================================

theorem length_beforeLanguage (h : Carried ft config) :
    (beforeLanguage ft config).length ≤ 200 := by
  have hcamera := length_toText_le h.camera
  have hflag : ∀ value : Bool, (flag value).length = 1 := fun value => by cases value <;> rfl
  have hface := ft.length_print config.faceThreshold
  have hliveness := ft.length_print config.livenessThreshold
  have hkeys : (utf8 "camera").length = 6 ∧ (utf8 "liveness").length = 8 ∧
      (utf8 "face_threshold").length = 14 ∧ (utf8 "liveness_threshold").length = 18 ∧
      (utf8 "debug").length = 5 ∧ (utf8 "language").length = 8 := by decide
  simp only [beforeLanguage, keyLine, keyed, List.length_append, List.length_cons, List.length_nil,
    hflag, hkeys]
  omega

/-- A cut behind the text before the language shortens the language, then the rest. -/
theorem take_withLanguage {k : Nat} (hk : (beforeLanguage ft config).length ≤ k)
    (language rest : Bytes) :
    (withLanguage ft config language rest).take k =
      withLanguage ft config (language.take (k - (beforeLanguage ft config).length))
        (rest.take (k - (beforeLanguage ft config).length - language.length)) := by
  rw [withLanguage, withLanguage, List.take_append, List.take_append,
    List.take_of_length_le hk]

theorem zero_not_mem_beforeLanguage (ft : FloatText F) (config : FaceRecognizerConfig F) :
    0 ∉ beforeLanguage ft config := by
  have hcamera : 0 ∉ toText config.camera := not_mem_toText (by decide) (by decide) _
  have hflag := fun value => (newline_not_mem_flag value).2
  have hprint := fun x => (not_mem_print ft x).2
  have hkeys : 0 ∉ utf8 "camera" ∧ 0 ∉ utf8 "liveness" ∧ 0 ∉ utf8 "face_threshold" ∧
      0 ∉ utf8 "liveness_threshold" ∧ 0 ∉ utf8 "debug" ∧ 0 ∉ utf8 "language" ∧
      (0 : UInt8) ≠ equals ∧ (0 : UInt8) ≠ newline := by decide
  simp [beforeLanguage, keyLine, keyed, hcamera, hflag, hprint, hkeys]

/-- A reader of a C string loses the language behind a NUL, and with it the rest. -/
theorem cString_withLanguage (ft : FloatText F) (config : FaceRecognizerConfig F)
    (language : Bytes) {rest : Bytes} (hrest : 0 ∉ rest) :
    ∃ rest', cString (withLanguage ft config language rest) =
      withLanguage ft config (cString language) rest' ∧ (rest' = [] ∨ rest' = rest) := by
  have hbefore := zero_not_mem_beforeLanguage ft config
  by_cases hlanguage : 0 ∈ language
  · obtain ⟨a, b, rfl, ha⟩ := List.eq_append_cons_of_mem hlanguage
    have htext : withLanguage ft config (a ++ 0 :: b) rest =
        (beforeLanguage ft config ++ a) ++ 0 :: (b ++ rest) := by simp [withLanguage]
    have hfront : 0 ∉ beforeLanguage ft config ++ a := by simp [hbefore, ha]
    refine ⟨[], ?_, Or.inl rfl⟩
    rw [htext, cString_append_zero hfront, cString_append_zero ha, withLanguage, List.append_nil]
  · refine ⟨rest, ?_, Or.inr rfl⟩
    have hall : 0 ∉ withLanguage ft config language rest := by
      simp [withLanguage, hbefore, hlanguage, hrest]
    rw [cString_eq_self hall, cString_eq_self hlanguage]

-- ============================================================================
-- The line that the client ignores
-- ============================================================================

/-- The keys that `parse_recognizer_config` knows. -/
def clientKeys : List Bytes :=
  [utf8 "camera", utf8 "liveness", utf8 "face_threshold", utf8 "liveness_threshold", utf8 "debug",
    utf8 "language"]

theorem readConfigLine_of_other {line : Bytes}
    (h : (splitAtFirst equals line).all (fun p => !clientKeys.contains p.1) = true)
    (c : FaceRecognizerConfig F) : RemoteBackendService.readConfigLine ft c line = .ok c := by
  unfold RemoteBackendService.readConfigLine
  cases hsplit : splitAtFirst equals line with
  | none => rfl
  | some p =>
      rw [hsplit] at h
      have hkeys : p.1 ≠ utf8 "camera" ∧ p.1 ≠ utf8 "liveness" ∧ p.1 ≠ utf8 "face_threshold" ∧
          p.1 ≠ utf8 "liveness_threshold" ∧ p.1 ≠ utf8 "debug" ∧ p.1 ≠ utf8 "language" := by
        simpa [clientKeys] using h
      dsimp only
      rw [if_neg hkeys.1, if_neg hkeys.2.1, if_neg hkeys.2.2.1, if_neg hkeys.2.2.2.1,
        if_neg hkeys.2.2.2.2.1, if_neg hkeys.2.2.2.2.2]

/-- The last line of a reply, however much of it arrived. -/
theorem foldlM_autoUpdateCheck (value : Bool) (k : Nat) (c : FaceRecognizerConfig F) :
    (lines newline ((keyLine "auto_update_check" (flag value)).take k)).foldlM
      (RemoteBackendService.readConfigLine ft) c = .ok c := by
  have hall : (List.range 21).all (fun k => [true, false].all fun value =>
      (lines newline ((keyLine "auto_update_check" (flag value)).take k)).all fun line =>
        (splitAtFirst equals line).all fun p => !clientKeys.contains p.1) = true := by rfl
  have hlength : (keyLine "auto_update_check" (flag value)).length = 20 := by
    cases value <;> rfl
  have htake : (keyLine "auto_update_check" (flag value)).take k =
      (keyLine "auto_update_check" (flag value)).take (min k 20) := by
    rw [← hlength, List.take_eq_take_min]
  have hlines : ∀ line ∈ lines newline ((keyLine "auto_update_check" (flag value)).take k),
      (splitAtFirst equals line).all (fun p => !clientKeys.contains p.1) = true := by
    rw [htake]
    have hk := List.all_eq_true.mp hall (min k 20) (List.mem_range.mpr (by omega))
    exact List.all_eq_true.mp (List.all_eq_true.mp hk value (by cases value <;> simp))
  generalize lines newline ((keyLine "auto_update_check" (flag value)).take k) = read at hlines
  induction read with
  | nil => rfl
  | cons line rest ih =>
      rw [List.foldlM_cons, readConfigLine_of_other (hlines line List.mem_cons_self)]
      exact ih fun l hl => hlines l (List.mem_cons_of_mem _ hl)

/-- The client's reading of a reply, wherever it was cut behind the language. -/
theorem parseRecognizerConfig_withLanguage (h : Carried ft config) {language : Bytes}
    (hlanguage : newline ∉ language) {value : Bool} {k : Nat} {rest : Bytes}
    (hrest : rest = [] ∨ rest = (newline :: keyLine "auto_update_check" (flag value)).take k) :
    RemoteBackendService.parseRecognizerConfig ft (withLanguage ft config language rest) =
      .ok (arrived config language) := by
  obtain ⟨j, hcut⟩ : ∃ j, rest = [] ∨
      rest = newline :: (keyLine "auto_update_check" (flag value)).take j := by
    rcases hrest with rfl | rfl
    · exact ⟨0, Or.inl rfl⟩
    · cases k with
      | zero => exact ⟨0, Or.inl rfl⟩
      | succ k => exact ⟨k, Or.inr rfl⟩
  have hbegins : rest = [] ∨ ∃ t, rest = newline :: t := by
    rcases hcut with rfl | rfl
    · exact Or.inl rfl
    · exact Or.inr ⟨_, rfl⟩
  have hlines := lines_withLanguage ft config hlanguage hbegins
  rw [RemoteBackendService.parseRecognizerConfig, hlines, List.foldlM_append, foldlM_head h]
  rcases hcut with rfl | rfl
  · rfl
  · exact foldlM_autoUpdateCheck value j _

-- ============================================================================
-- The two directions
-- ============================================================================

section

variable (service : PipeService F) (now : Int64) (beyond : Bytes) (remote : RemoteBackendService)

/-- The language as far as it fits. -/
def fittingLanguage (ft : FloatText F) (config : FaceRecognizerConfig F) : Bytes :=
  config.language.take (kPayloadSize - 1 - (beforeLanguage ft config).length)

theorem length_le_fitting (h : Carried ft config) :
    (beforeLanguage ft config).length ≤ kPayloadSize - 1 :=
  Nat.le_trans (length_beforeLanguage h) (by decide)

/-- The language fits exactly if the text up to its end leaves room for a NUL. -/
theorem fittingLanguage_eq_iff (h : Carried ft config) :
    fittingLanguage ft config = config.language ↔ (configHead ft config).length < kPayloadSize := by
  have hbefore := length_le_fitting h
  have hpos : 0 < kPayloadSize := by decide
  have hlength : (configHead ft config).length =
      (beforeLanguage ft config).length + config.language.length := by
    simp [configHead, withLanguage]
  rw [fittingLanguage, List.take_eq_self_iff, hlength]
  omega

theorem newline_not_mem_fittingLanguage (ft : FloatText F) (hlanguage : newline ∉ config.language) :
    newline ∉ fittingLanguage ft config := fun h => hlanguage (List.mem_of_mem_take h)

/-- What of a text arrives: the fitting language, and of what follows some of it. -/
theorem take_fitting (h : Carried ft config) (rest : Bytes) :
    ∃ k, (withLanguage ft config config.language rest).take (kPayloadSize - 1) =
      withLanguage ft config (fittingLanguage ft config) (rest.take k) :=
  ⟨_, take_withLanguage (length_le_fitting h) _ _⟩

/-- The service saves the configuration as far as it arrived. -/
theorem callsFor_saveRecognizerConfig (hlanguage : newline ∉ config.language)
    (h : Carried service.ft config) :
    service.callsFor (remote.saveRecognizerConfig (service.clientIo now beyond) service.ft
      config).written =
      [.saveRecognizerConfig (arrived config (fittingLanguage service.ft config))] := by
  obtain ⟨request, hcalls⟩ := service.callsFor_callForMessage .saveRecognizerConfig now beyond
    (withLanguage service.ft config config.language [newline]) remote
  have hpayload : remote.saveRecognizerConfig (service.clientIo now beyond) service.ft config =
      RemoteBackendService.callForMessage (service.clientIo now beyond) remote
        .saveRecognizerConfig (withLanguage service.ft config config.language [newline]) := by
    rw [RemoteBackendService.saveRecognizerConfig]
    simp [withLanguage, beforeLanguage, keyed, keyLine]
  obtain ⟨k, htake⟩ := take_fitting h [newline]
  have hrest : ([newline].take k = [] ∨ ∃ t, [newline].take k = newline :: t) ∧
      lines newline ([newline].take k).tail = [] := by
    cases k with
    | zero => exact ⟨Or.inl rfl, rfl⟩
    | succ k => exact ⟨Or.inr ⟨_, rfl⟩, by simp⟩
  have hlines := lines_withLanguage service.ft config
    (newline_not_mem_fittingLanguage service.ft hlanguage) hrest.1
  rw [hpayload, hcalls, PipeService.ran, Handler.run_fst, htake]
  show (Handler.saveRecognizerConfig _ _ _).calls = _
  rw [Handler.saveRecognizerConfig, hlines, hrest.2, List.append_nil, foldl_head h]
  rfl

/-- The client gets the configuration that the backend returns, with the language as far
    as it arrives. -/
theorem getRecognizerConfig_value (hlanguage : newline ∉ config.language)
    (h : Carried service.ft config) {error : Bytes}
    (hbackend : service.backend .getRecognizerConfig = .ok (true, config, error))
    (shown : FaceRecognizerConfig F) :
    (remote.getRecognizerConfig (service.clientIo now beyond) service.ft shown).value =
      .ok (true, arrived config (cString (fittingLanguage service.ft config)), []) := by
  have hran : ∀ request, (service.ran .getRecognizerConfig [] request).2 =
      (Handler.opened request).setPayloadText (recognizerConfigText service.ft config) .success := by
    intro request
    rw [PipeService.ran]
    show (Handler.run _ _ (Handler.getRecognizerConfig _ _)).2 = _
    rw [Handler.getRecognizerConfig, Handler.run, hbackend]
    rfl
  obtain ⟨hok, htext⟩ := service.sendRequest_text .getRecognizerConfig now beyond [] remote hran
  obtain ⟨k, htake⟩ := take_fitting h
    (newline :: keyLine "auto_update_check" (flag config.autoUpdateCheck))
  have hzero : 0 ∉ (newline :: keyLine "auto_update_check" (flag config.autoUpdateCheck)).take k := by
    intro hmem
    have hline : 0 ∉ newline :: keyLine "auto_update_check" (flag config.autoUpdateCheck) := by
      cases config.autoUpdateCheck
      · decide
      · decide
    exact hline (List.mem_of_mem_take hmem)
  obtain ⟨rest, hread, hrest⟩ := cString_withLanguage service.ft config
    (fittingLanguage service.ft config) hzero
  have hfitting : newline ∉ cString (fittingLanguage service.ft config) := fun hmem =>
    newline_not_mem_fittingLanguage service.ft hlanguage ((List.takeWhile_sublist _).subset hmem)
  rw [RemoteBackendService.getRecognizerConfig]
  dsimp only
  rw [if_pos hok, htext, recognizerConfigText_eq, htake, hread,
    parseRecognizerConfig_withLanguage h hfitting hrest]
  rfl

/-- The service saves the configuration, and the client gets it back from a backend that
    has kept it. -/
def KeepsConfig (config : FaceRecognizerConfig F) : Prop :=
  service.callsFor (remote.saveRecognizerConfig (service.clientIo now beyond) service.ft
    config).written = [.saveRecognizerConfig config] ∧
  ∀ (backend : Backend F) (error : Bytes) (now' : Int64) (remote' : RemoteBackendService)
    (shown : FaceRecognizerConfig F), backend .getRecognizerConfig = .ok (true, config, error) →
    (remote'.getRecognizerConfig ({ service with backend := backend }.clientIo now' beyond)
      service.ft shown).value = .ok (true, config, [])

/-- A one-line language and thresholds that survive their text form arrive in both
    directions exactly if `auto_update_check` has its default, the language has no NUL and
    the text up to its end leaves room for one. -/
theorem keepsConfig_iff (hlanguage : newline ∉ config.language) (h : Carried service.ft config) :
    KeepsConfig service now beyond remote config ↔
      config.autoUpdateCheck = true ∧ 0 ∉ config.language ∧
        (configHead service.ft config).length < kPayloadSize := by
  have hsaved : service.callsFor (remote.saveRecognizerConfig (service.clientIo now beyond)
      service.ft config).written = [.saveRecognizerConfig config] ↔
      fittingLanguage service.ft config = config.language ∧ config.autoUpdateCheck = true := by
    rw [callsFor_saveRecognizerConfig service now beyond remote hlanguage h]
    obtain ⟨camera, liveness, face, live, debug, language, autoUpdateCheck⟩ := config
    simp [arrived, eq_comm]
  have hread : ∀ backend : Backend F, ∀ error now' remote' shown,
      backend .getRecognizerConfig = .ok (true, config, error) →
      (RemoteBackendService.getRecognizerConfig
        ({ service with backend := backend }.clientIo now' beyond) remote' service.ft shown).value =
        .ok (true, arrived config (cString (fittingLanguage service.ft config)), []) :=
    fun backend error now' remote' shown hbackend =>
      getRecognizerConfig_value { service with backend := backend } now' beyond remote' hlanguage h
        hbackend shown
  constructor
  · rintro ⟨hsave, hget⟩
    obtain ⟨hfit, hauto⟩ := hsaved.mp hsave
    let backend : Backend F
      | .getRecognizerConfig => .ok (true, config, [])
      | _ => .error []
    have hsame := hget backend [] 0 remote (.default service.ft) rfl
    rw [hread backend [] 0 remote (.default service.ft) rfl, hfit] at hsame
    have hlanguage' : cString config.language = config.language :=
      congrArg (·.2.1.language) (Except.ok.inj hsame)
    refine ⟨hauto, ?_, (fittingLanguage_eq_iff h).mp hfit⟩
    rw [← hlanguage']
    exact zero_not_mem_cString _
  · rintro ⟨hauto, hzero, hlength⟩
    have hfit := (fittingLanguage_eq_iff h).mpr hlength
    have harrived : arrived config config.language = config := by
      rw [arrived, ← hauto]
    refine ⟨hsaved.mpr ⟨hfit, hauto⟩, ?_⟩
    intro backend error now' remote' shown hbackend
    rw [hread backend error now' remote' shown hbackend, hfit, cString_eq_self hzero, harrived]

end

/-- A configuration with the default language. -/
def exampleConfig (autoUpdateCheck : Bool) : FaceRecognizerConfig Bool :=
  { FaceRecognizerConfig.default exampleFloats with
    camera := 1
    autoUpdateCheck := autoUpdateCheck }

theorem exampleConfig_carried (autoUpdateCheck : Bool) :
    newline ∉ (exampleConfig autoUpdateCheck).language ∧
      Carried exampleService.ft (exampleConfig autoUpdateCheck) := by
  have hlanguage : newline ∉ utf8 "zh-CN" := by decide
  have hcamera : IsInt 1 := by decide
  exact ⟨hlanguage, hcamera, rfl, rfl⟩

theorem keepsConfig_default :
    KeepsConfig exampleService 0 [] exampleRemote (exampleConfig true) := by
  obtain ⟨hlanguage, hcarried⟩ := exampleConfig_carried true
  have hzero : 0 ∉ utf8 "zh-CN" := by decide
  have hlength : (configHead exampleService.ft (exampleConfig true)).length < kPayloadSize := by
    decide
  exact (keepsConfig_iff exampleService 0 [] exampleRemote hlanguage hcarried).mpr
    ⟨rfl, hzero, hlength⟩

/-- A save turns the update check on again. -/
theorem keepsConfig_fails :
    ¬ ∀ (F : Type) (service : PipeService F) (now : Int64) (beyond : Bytes)
      (remote : RemoteBackendService) (config : FaceRecognizerConfig F),
      newline ∉ config.language → Carried service.ft config →
      KeepsConfig service now beyond remote config := by
  intro h
  obtain ⟨hlanguage, hcarried⟩ := exampleConfig_carried false
  obtain ⟨hsaved, -⟩ := h Bool exampleService 0 [] exampleRemote (exampleConfig false) hlanguage
    hcarried
  rw [callsFor_saveRecognizerConfig exampleService 0 [] exampleRemote hlanguage hcarried] at hsaved
  cases hsaved

end Smile2Unlock.GuiIpc
