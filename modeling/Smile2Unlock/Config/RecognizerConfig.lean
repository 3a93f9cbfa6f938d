/-
  Smile2Unlock.Config.RecognizerConfig

  `SaveRecognizerConfig` and `GetRecognizerConfig` of `BackendService` (modules/service.cppm)
  over the configuration manager and its file.

  A save puts its configuration into the manager before it tries to write it, and leaves it
  there when it fails; a get that cannot open the file writes what the manager holds.  A get
  can also load the data of an earlier parse (`LoadIo.reopens`): a save does not touch it.
  `noLaterEffect_of_freshCreates` compares a run with the one without its rejected saves:
  as long as no get writes what such a save has left, they cannot be told apart.
-/

import Smile2Unlock.Config.ConfigManager
import Smile2Unlock.GuiIpc.Handler
import Smile2Unlock.Lib.Machine

namespace Smile2Unlock.Config

open Smile2Unlock Lib
open Smile2Unlock.GuiIpc (FaceRecognizerConfig)

variable {F D : Type}

-- ============================================================================
-- The two calls
-- ============================================================================

/-- The fields that `SaveRecognizerConfig` copies. -/
def CoreConfig.ofRecognizer (config : FaceRecognizerConfig F) : CoreConfig F where
  camera := Int32.ofInt config.camera
  liveness := config.liveness
  faceThreshold := config.faceThreshold
  livenessThreshold := config.livenessThreshold
  debug := config.debug
  language := config.language
  autoUpdateCheck := config.autoUpdateCheck

/-- The fields that `GetRecognizerConfig` copies. -/
def CoreConfig.toRecognizer (loaded : CoreConfig F) : FaceRecognizerConfig F where
  camera := loaded.camera.toInt
  liveness := loaded.liveness
  faceThreshold := loaded.faceThreshold
  livenessThreshold := loaded.livenessThreshold
  debug := loaded.debug
  language := loaded.language
  autoUpdateCheck := loaded.autoUpdateCheck

/-- What happens to an `std::ofstream`: whether the file opens, and how many bytes reach
    the disk if not all do.  The writers do not look at that. -/
structure WriteIo where
  opens : Bool
  failsAfter : Option Nat

/-- `saveConfig` and `createDefaultConfig` with a disk that may fail. -/
def ConfigManager.writeTo (floats : ConfigFloats F D) (manager : ConfigManager F) (io : WriteIo)
    (file : Option Bytes) : Bool × Option Bytes :=
  let written := manager.writeConfig floats io.opens file
  match io.failsAfter with
  | none => written
  | some n => (written.1, if io.opens then written.2.map (·.take n) else written.2)

/-- The manager, its file (`none` where there is none), and `config_` of
    `FaceRecognition`, which recognition uses. -/
structure ConfigStorage (F : Type) where
  manager : ConfigManager F
  file : Option Bytes
  recognition : FaceRecognizerConfig F

/-- What happens to the file during a get: what the load meets, what the writing of
    defaults meets, and what the load after it. -/
structure GetIo where
  load : LoadIo
  create : WriteIo
  loadAgain : LoadIo

/-- A call, with the argument it is given. -/
inductive ConfigCall (F : Type) where
  | save (config : FaceRecognizerConfig F) (io : WriteIo)
  | get (config : FaceRecognizerConfig F) (io : GetIo)

/-- What a call leaves: its result, the argument `config` and `error_message`. -/
structure ConfigReply (F : Type) where
  ok : Bool
  config : FaceRecognizerConfig F
  errorMessage : Bytes

namespace ConfigStorage

variable (floats : ConfigFloats F D) (filename : Bytes) (s : ConfigStorage F)

/-- `SaveRecognizerConfig`. -/
def saveRecognizerConfig (config : FaceRecognizerConfig F) (io : WriteIo) :
    ConfigStorage F × ConfigReply F :=
  let manager := { s.manager with config := .ofRecognizer config }
  let saved := manager.writeTo floats io s.file
  if ¬ saved.1 then
    (⟨manager, saved.2, s.recognition⟩, ⟨false, config, utf8 "保存识别配置失败"⟩)
  else (⟨manager, saved.2, config⟩, ⟨true, config, utf8 "识别配置已保存"⟩)

/-- The end of `GetRecognizerConfig`. -/
def loaded (manager : ConfigManager F) (file : Option Bytes) : ConfigStorage F × ConfigReply F :=
  (⟨manager, file, manager.config.toRecognizer⟩,
    ⟨true, manager.config.toRecognizer, utf8 "识别配置已加载"⟩)

/-- `GetRecognizerConfig`. -/
def getRecognizerConfig (config : FaceRecognizerConfig F) (io : GetIo) :
    ConfigStorage F × ConfigReply F :=
  match s.manager.loadConfig floats io.load filename s.file with
  | (.ok _, manager) => loaded manager s.file
  | (.error e, manager) =>
      let created := manager.writeTo floats io.create s.file
      if ¬ created.1 then
        (⟨manager, created.2, s.recognition⟩, ⟨false, config, utf8 "创建默认配置失败: " ++ e⟩)
      else
        match manager.loadConfig floats io.loadAgain filename created.2 with
        | (.ok _, manager) => loaded manager created.2
        | (.error e2, manager) =>
            (⟨manager, created.2, s.recognition⟩,
              ⟨false, config, utf8 "加载默认配置失败: " ++ e2⟩)

def call : ConfigCall F → ConfigStorage F × ConfigReply F
  | .save config io => s.saveRecognizerConfig floats config io
  | .get config io => s.getRecognizerConfig floats filename config io

end ConfigStorage

/-- The service over its configuration file, from the constructor of the manager on, which
    may or may not have opened the file.  `file` is what is there after it: its open makes
    an empty file of a missing one, if the directory exists. -/
def configService (floats : ConfigFloats F D) (filename : Bytes) :
    Machine (ConfigStorage F) (ConfigCall F) (ConfigReply F) where
  init s := ∃ opens : Bool, s.manager = .construct floats (if opens then s.file else none)
  step s c := some ((s.call floats filename c).1, [(s.call floats filename c).2])

-- ============================================================================
-- What a call depends on
-- ============================================================================

section

variable {floats : ConfigFloats F D} {filename : Bytes}

theorem writeTo_closed {manager : ConfigManager F} {io : WriteIo} (h : io.opens = false)
    (file : Option Bytes) : manager.writeTo floats io file = (false, file) := by
  rw [ConfigManager.writeTo, h]
  cases io.failsAfter with
  | none => rfl
  | some n => rfl

/-- A file that was opened for writing exists, whatever of the text is in it. -/
theorem writeTo_opened (floats : ConfigFloats F D) (manager : ConfigManager F) {io : WriteIo}
    (h : io.opens = true) (file : Option Bytes) : ∃ bytes, manager.writeTo floats io file = (true, some bytes) := by
  rw [ConfigManager.writeTo, h]
  cases io.failsAfter with
  | none => exact ⟨_, rfl⟩
  | some n => exact ⟨_, rfl⟩

/-- A file that opens decides what the manager holds afterwards, together with the data of
    the last parse. -/
theorem loadConfig_some {manager manager' : ConfigManager F} (hini : manager.ini = manager'.ini)
    {io : LoadIo} {file : Option Bytes} (hread : (if io.opens then file else none) ≠ none) :
    manager.loadConfig floats io filename file = manager'.loadConfig floats io filename file := by
  rw [ConfigManager.loadConfig, ConfigManager.loadConfig, hini]
  cases hfile : (if io.opens then file else none) with
  | none => exact absurd hfile hread
  | some bytes => rfl

theorem loadConfig_none (manager : ConfigManager F) {io : LoadIo} {file : Option Bytes}
    (hread : (if io.opens then file else none) = none) :
    manager.loadConfig floats io filename file =
      (.error (ConfigManager.configException (utf8 "Failed to load config file: " ++ filename)),
        manager) := by
  rw [ConfigManager.loadConfig, hread]

/-- The get opens the file, at once or after it has created it. -/
def GetIo.Loads (io : GetIo) (file : Option Bytes) : Prop :=
  (if io.load.opens then file else none) ≠ none ∨
    (io.create.opens = true ∧ io.loadAgain.opens = true)

/-- The get cannot open the file and creates it from the configuration in memory. -/
def GetIo.Creates (io : GetIo) (file : Option Bytes) : Prop :=
  (if io.load.opens then file else none) = none ∧ io.create.opens = true

/-- What two services have in common whatever their managers hold from a save. -/
structure SameFile (s s' : ConfigStorage F) : Prop where
  file : s.file = s'.file
  recognition : s.recognition = s'.recognition
  ini : s.manager.ini = s'.manager.ini

/-- Two services with the same file answer a get alike, if a get that creates the file
    finds the same configuration in memory. -/
theorem getRecognizerConfig_congr {s s' : ConfigStorage F} (h : SameFile s s')
    (config : FaceRecognizerConfig F) (io : GetIo)
    (hcreates : io.Creates s.file → s.manager.config = s'.manager.config) :
    let r := s.getRecognizerConfig floats filename config io
    let r' := s'.getRecognizerConfig floats filename config io
    r.2 = r'.2 ∧ SameFile r.1 r'.1 ∧
      (s.manager.config = s'.manager.config ∨ io.Loads s.file →
        r.1.manager.config = r'.1.manager.config) := by
  dsimp only
  rw [ConfigStorage.getRecognizerConfig, ConfigStorage.getRecognizerConfig, ← h.file,
    ← h.recognition]
  by_cases hread : (if io.load.opens then s.file else none) = none
  · rw [loadConfig_none _ hread, loadConfig_none _ hread]
    dsimp only
    cases hopens : io.create.opens with
    | false =>
        -- no file at all
        rw [writeTo_closed hopens, writeTo_closed hopens]
        refine ⟨rfl, ⟨rfl, rfl, h.ini⟩, ?_⟩
        rintro (hsame | hread' | ⟨hopens', -⟩)
        · exact hsame
        · exact absurd hread hread'
        · rw [hopens] at hopens'
          cases hopens'
    | true =>
        -- the managers hold the same, and write and load it
        have hsame : s.manager = s'.manager := ConfigManager.ext (hcreates ⟨hread, hopens⟩) h.ini
        rw [hsame]
        exact ⟨rfl, ⟨rfl, rfl, rfl⟩, fun _ => rfl⟩
  · rw [loadConfig_some h.ini hread]
    exact ⟨rfl, ⟨rfl, rfl, rfl⟩, fun _ => rfl⟩

/-- A save that cannot open the file is the one that returns false; it changes the manager. -/
theorem saveRecognizerConfig_closed {s : ConfigStorage F} {config : FaceRecognizerConfig F}
    {io : WriteIo} (h : io.opens = false) :
    s.saveRecognizerConfig floats config io =
      ({ s with manager := { s.manager with config := .ofRecognizer config } },
        ⟨false, config, utf8 "保存识别配置失败"⟩) := by
  rw [ConfigStorage.saveRecognizerConfig]
  dsimp only
  rw [writeTo_closed h]
  rfl

theorem saveRecognizerConfig_ok (floats : ConfigFloats F D) (s : ConfigStorage F)
    (config : FaceRecognizerConfig F) {io : WriteIo} (h : io.opens = true) : (s.saveRecognizerConfig floats config io).2.ok = true := by
  obtain ⟨bytes, hwritten⟩ :=
    writeTo_opened floats { s.manager with config := .ofRecognizer config } h s.file
  rw [ConfigStorage.saveRecognizerConfig]
  dsimp only
  rw [hwritten]
  rfl

/-- Two services with the same file answer a save alike and hold the same afterwards. -/
theorem saveRecognizerConfig_congr {s s' : ConfigStorage F} (h : SameFile s s')
    (config : FaceRecognizerConfig F) (io : WriteIo) :
    let r := s.saveRecognizerConfig floats config io
    let r' := s'.saveRecognizerConfig floats config io
    r.2 = r'.2 ∧ SameFile r.1 r'.1 ∧ r.1.manager.config = r'.1.manager.config := by
  dsimp only
  have hsame : ({ s.manager with config := .ofRecognizer config } : ConfigManager F) =
      { s'.manager with config := .ofRecognizer config } := ConfigManager.ext rfl h.ini
  rw [ConfigStorage.saveRecognizerConfig, ConfigStorage.saveRecognizerConfig, ← h.file,
    ← h.recognition]
  dsimp only
  rw [hsame]
  split
  · exact ⟨rfl, ⟨rfl, rfl, rfl⟩, rfl⟩
  · exact ⟨rfl, ⟨rfl, rfl, rfl⟩, rfl⟩

end

-- ============================================================================
-- Without the rejected saves
-- ============================================================================

abbrev ConfigStep (F : Type) := Transition (ConfigStorage F) (ConfigCall F) (ConfigReply F)

/-- A save that returned false. -/
def rejected (t : ConfigStep F) : Bool :=
  match t.event with
  | .save _ _ => t.sent.any fun reply => !reply.ok
  | .get _ _ => false

/-- The step replaces what the manager holds, and not by a rejected configuration. -/
def Refreshes (t : ConfigStep F) : Prop :=
  match t.event with
  | .save _ io => io.opens = true
  | .get _ io => io.Loads t.before.file

/-- A get creates the file only from a configuration that no rejected save has left: since
    the last one, a save was accepted or a get has loaded the file. -/
def FreshCreates (tr : List (ConfigStep F)) (t : ConfigStep F) : Prop :=
  match t.event with
  | .save _ _ => True
  | .get _ io => io.Creates t.before.file → ¬ Since (fun t => rejected t = true) Refreshes tr

/-- There is a run without the rejected saves in which all other calls have the same
    results, and which leaves the same file and the same configuration for recognition. -/
def NoLaterEffect (floats : ConfigFloats F D) (filename : Bytes) (s₀ : ConfigStorage F)
    (tr : List (ConfigStep F)) (s : ConfigStorage F) : Prop :=
  ∃ tr' s', (configService floats filename).Steps s₀ tr' s' ∧
    tr'.map Machine.observed = (tr.filter (¬ rejected · = true)).map Machine.observed ∧
    s.file = s'.file ∧ s.recognition = s'.recognition

/-- What a run shares with the one without its rejected saves. -/
structure Alike (tr : List (ConfigStep F)) (s s' : ConfigStorage F) : Prop where
  same : SameFile s s'
  config : Since (fun t => rejected t = true) Refreshes tr ∨ s.manager.config = s'.manager.config

section

variable {floats : ConfigFloats F D} {filename : Bytes}

theorem takes_call {t : ConfigStep F} (ht : (configService floats filename).Takes t) :
    t.after = (t.before.call floats filename t.event).1 ∧
      t.sent = [(t.before.call floats filename t.event).2] := by
  obtain ⟨hafter, hsent⟩ := Prod.mk.inj (Option.some.inj ht)
  exact ⟨hafter.symm, hsent.symm⟩

/-- A rejected save changes nothing but the manager. -/
theorem alike_rejected {tr : List (ConfigStep F)} {t : ConfigStep F} {s' : ConfigStorage F}
    (h : Alike tr t.before s') (ht : (configService floats filename).Takes t)
    (hrejected : rejected t = true) : Alike (tr ++ [t]) t.after s' := by
  obtain ⟨hafter, hsent⟩ := takes_call ht
  cases hevent : t.event with
  | get config io =>
      rw [rejected, hevent] at hrejected
      cases hrejected
  | save config io =>
      rw [hevent] at hafter hsent
      cases hopens : io.opens with
      | true =>
          have hok := saveRecognizerConfig_ok floats t.before config hopens
          rw [rejected, hevent, hsent] at hrejected
          simp [ConfigStorage.call, hok] at hrejected
      | false =>
          rw [hafter, ConfigStorage.call, saveRecognizerConfig_closed hopens]
          exact ⟨⟨h.same.file, h.same.recognition, h.same.ini⟩,
            Or.inl (since_snoc.mpr (Or.inl hrejected))⟩

/-- Every other step can be followed, with the same result. -/
theorem alike_kept {tr : List (ConfigStep F)} {t : ConfigStep F} {s' : ConfigStorage F}
    (h : Alike tr t.before s') (ht : (configService floats filename).Takes t)
    (hfresh : FreshCreates tr t) :
    ∃ s'', (configService floats filename).step s' t.event = some (s'', t.sent) ∧
      Alike (tr ++ [t]) t.after s'' := by
  have hcall : (t.before.call floats filename t.event).2 = (s'.call floats filename t.event).2 ∧
      Alike (tr ++ [t]) (t.before.call floats filename t.event).1
        (s'.call floats filename t.event).1 := by
    cases hevent : t.event with
    | save config io =>
        obtain ⟨hreply, hsame, hconfig⟩ := saveRecognizerConfig_congr h.same config io
        exact ⟨hreply, hsame, Or.inr hconfig⟩
    | get config io =>
        have hcreates : io.Creates t.before.file → t.before.manager.config = s'.manager.config := by
          intro hcreates
          rw [FreshCreates, hevent] at hfresh
          exact h.config.resolve_left (hfresh hcreates)
        obtain ⟨hreply, hsame, hconfig⟩ := getRecognizerConfig_congr h.same config io hcreates
        refine ⟨hreply, hsame, ?_⟩
        by_cases hloads : io.Loads t.before.file
        · exact Or.inr (hconfig (Or.inr hloads))
        · rcases h.config with hsince | hsame
          · have hstays : ¬ Refreshes t := by
              rw [Refreshes, hevent]
              exact hloads
            exact Or.inl (since_snoc.mpr (Or.inr ⟨hsince, hstays⟩))
          · exact Or.inr (hconfig (Or.inl hsame))
  obtain ⟨hafter, hsent⟩ := takes_call ht
  refine ⟨_, ?_, by rw [hafter]; exact hcall.2⟩
  rw [hsent, hcall.1]
  rfl

/-- As long as no get creates the file from what a rejected save has left in memory, a
    rejected save has no later effect. -/
theorem noLaterEffect_of_freshCreates {s₀ s : ConfigStorage F} {tr : List (ConfigStep F)}
    (h : (configService floats filename).Steps s₀ tr s) (hC : Always FreshCreates tr) :
    NoLaterEffect floats filename s₀ tr s := by
  obtain ⟨tr', s', hsteps, hobserved, halike⟩ := h.without (R := Alike) ⟨⟨rfl, rfl, rfl⟩, Or.inr rfl⟩
    (fun _ _ _ halike ht hrejected => alike_rejected halike ht hrejected)
    (fun _ _ _ halike ht hfresh _ => alike_kept halike ht hfresh) hC
  exact ⟨tr', s', hsteps, hobserved, halike.same.file, halike.same.recognition⟩

end

/-- A configuration as the GUI sends it. -/
def offered (liveness : Bool) : FaceRecognizerConfig Bool :=
  { FaceRecognizerConfig.default exampleFloats with
    liveness := liveness }

/-- The service after its start, with this file. -/
def startedService (file : Option Bytes) : ConfigStorage Bool :=
  ⟨.construct exampleConfigFloats file, file, offered true⟩

/-- A file that opens, and one that another process keeps closed until it is created. -/
def openFile : GetIo := ⟨⟨true, true⟩, ⟨true, none⟩, ⟨true, true⟩⟩
def lockedFile : GetIo := ⟨⟨false, false⟩, ⟨true, none⟩, ⟨true, true⟩⟩

/-- One step of the service. -/
def configStep (s : ConfigStorage Bool) (c : ConfigCall Bool) : ConfigStep Bool :=
  ⟨s, c, [(s.call exampleConfigFloats [] c).2], (s.call exampleConfigFloats [] c).1⟩

/-- A rejected save and a get. -/
def rejectedThenGet (file : Option Bytes) (io : GetIo) : List (ConfigStep Bool) :=
  let saved := configStep (startedService file) (.save (offered false) ⟨false, none⟩)
  [saved, configStep saved.after (.get (offered true) io)]

theorem steps_rejectedThenGet (file : Option Bytes) (io : GetIo) :
    (configService exampleConfigFloats []).Steps (startedService file) (rejectedThenGet file io)
      (configStep (configStep (startedService file) (.save (offered false) ⟨false, none⟩)).after
        (.get (offered true) io)).after :=
  (Machine.Steps.nil.event rfl).event rfl

theorem noLaterEffect_open :
    NoLaterEffect exampleConfigFloats [] (startedService (some (utf8 "[core]\r\ncamera=1\r\n")))
      (rejectedThenGet (some (utf8 "[core]\r\ncamera=1\r\n")) openFile)
      (configStep (configStep (startedService (some (utf8 "[core]\r\ncamera=1\r\n")))
        (.save (offered false) ⟨false, none⟩)).after (.get (offered true) openFile)).after := by
  refine noLaterEffect_of_freshCreates (steps_rejectedThenGet _ _)
    (always_snoc.mpr ⟨always_snoc.mpr ⟨always_nil, trivial⟩, ?_⟩)
  rintro ⟨hclosed, -⟩
  cases hclosed

/-- A rejected configuration is written to the disk and returned by a get that finds the
    file closed. -/
theorem noLaterEffect_fails :
    ¬ ∀ (F D : Type) (floats : ConfigFloats F D) (filename : Bytes) (s₀ s : ConfigStorage F)
      (tr : List (ConfigStep F)), (configService floats filename).init s₀ →
      (configService floats filename).Steps s₀ tr s → NoLaterEffect floats filename s₀ tr s := by
  intro h
  obtain ⟨tr', s', hsteps, hobserved, -, -⟩ := h Bool Bool exampleConfigFloats []
    (startedService none) _ _ ⟨true, rfl⟩ (steps_rejectedThenGet none lockedFile)
  -- what is left of the run is the get
  have hwith : ∀ reply ∈ (configStep (configStep (startedService none)
      (.save (offered false) ⟨false, none⟩)).after (.get (offered true) lockedFile)).sent,
      reply.config.liveness = false := by decide +kernel
  have hwithout : ∀ reply ∈ (configStep (startedService none) (.get (offered true) lockedFile)).sent,
      reply.config.liveness = true := by decide +kernel
  have hget : tr'.map Machine.observed = [((.get (offered true) lockedFile), (configStep
      (configStep (startedService none) (.save (offered false) ⟨false, none⟩)).after
        (.get (offered true) lockedFile)).sent)] := hobserved
  obtain ⟨t, rfl, ht⟩ := List.map_eq_singleton_iff.mp hget
  obtain ⟨hevent, hsent⟩ := Prod.mk.inj ht
  obtain ⟨hbefore, htakes, -⟩ := Machine.steps_cons.mp hsteps
  have hreply : t.sent = (configStep (startedService none) (.get (offered true) lockedFile)).sent := by
    rw [(takes_call htakes).2, ← hbefore, hevent]
    rfl
  rw [hreply] at hsent
  rw [← hsent] at hwith
  have hmem : (ConfigStorage.call exampleConfigFloats [] (startedService none)
      (.get (offered true) lockedFile)).2 ∈
      (configStep (startedService none) (.get (offered true) lockedFile)).sent :=
    List.mem_singleton.mpr rfl
  exact absurd ((hwith _ hmem).symm.trans (hwithout _ hmem)) Bool.false_ne_true

end Smile2Unlock.Config
