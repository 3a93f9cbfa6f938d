/-
  Smile2Unlock.Application.Language

  The texts of the GUI: `LoadLanguageFile`, `ApplyLanguage` and `Tr` (modules/application.cppm).

  `readLines_eq` takes the loop of `LoadLanguageFile` to the lines of the file, and
  `loadLanguageFile_content` reads back a table from any layout of it.  `tr_applied` is what
  the GUI shows after any number of language changes.

  Without an entry in the Chinese file no change succeeds, also not to an English file that
  is complete.
-/

import Smile2Unlock.Config.Ini

namespace Smile2Unlock.Application

open Smile2Unlock Lib Config

-- ============================================================================
-- LoadLanguageFile
-- ============================================================================

/-- `'\r'`. -/
def carriageReturn : UInt8 := 13

/-- `"\xEF\xBB\xBF"`. -/
def bom : Bytes := [239, 187, 191]

/-- An `unordered_map`: its entries, the one that counts first. -/
abbrev Translations := List (Bytes × Bytes)

/-- The lambda `trim`. -/
def trim (sv : Bytes) : Bytes := (sv.dropWhile isSpace).rdropWhile isSpace

/-- `content` without the byte order mark. -/
def withoutBom (content : Bytes) : Bytes := if bom <+: content then content.drop 3 else content

/-- `line` without a carriage return at its end. -/
def withoutReturn (line : Bytes) : Bytes :=
  if line.getLast? = some carriageReturn then line.dropLast else line

/-- The body of the loop, for one line. -/
def readLine (translations : Translations) (line : Bytes) : Translations :=
  if withoutReturn line = [] ∨ (withoutReturn line).head? = some hash ∨
      (withoutReturn line).head? = some semicolon then translations
  else
    match splitAtFirst equals (withoutReturn line) with
    | none => translations
    | some (key, value) =>
        if trim key = [] then translations else (trim key, trim value) :: translations

theorem le_of_find {s : Bytes} {c : UInt8} {pos i : Nat} (h : find c s pos = some i) :
    pos ≤ i := by
  obtain ⟨p, -, rfl⟩ := Option.map_eq_some_iff.mp h
  exact Nat.le_add_right pos _

/-- The loop over the positions of the lines. -/
def readLines (content : Bytes) (start : Nat) (translations : Translations) : Translations :=
  if start < content.length then
    match h : find newline content start with
    | none => readLine translations (content.drop start)
    | some pos =>
        readLines content (pos + 1) (readLine translations ((content.take pos).drop start))
  else translations
termination_by content.length - start
decreasing_by
  have hle := le_of_find h
  omega

/-- `LoadLanguageFile`; a file that does not open has no content. -/
def loadLanguageFile (file : Option Bytes) : Translations :=
  match file with
  | none => []
  | some content => readLines (withoutBom content) 0 []

/-- The loop reads the lines in their order. -/
theorem readLines_eq (content : Bytes) (start : Nat) (translations : Translations) :
    readLines content start translations =
      (lines newline (content.drop start)).foldl readLine translations := by
  induction hn : content.length - start using Nat.strong_induction_on
    generalizing start translations with
  | _ n ih =>
      rw [readLines]
      by_cases hstart : start < content.length
      · rw [if_pos hstart]
        have hne : content.drop start ≠ [] := by
          rw [Ne, List.drop_eq_nil_iff]
          omega
        split
        · rename_i hfind
          have hnot := splitAtFirst_eq_none_iff.mp (Option.map_eq_none_iff.mp hfind)
          rw [lines_of_not_mem hnot hne]
          rfl
        · rename_i pos hfind
          obtain ⟨⟨line, rest⟩, hsplit, rfl⟩ := Option.map_eq_some_iff.mp hfind
          obtain ⟨hdrop, hline⟩ := splitAtFirst_eq_some_iff.mp hsplit
          obtain ⟨htake, hrest⟩ := take_drop_of_splitAtFirst hsplit
          rw [ih _ (by omega) (start + line.length + 1) _ rfl, hdrop,
            lines_append hline, List.foldl_cons, List.drop_take, Nat.add_sub_cancel_left, htake]
          rw [List.drop_drop] at hrest
          rw [Nat.add_assoc, hrest]
      · rw [if_neg hstart, List.drop_eq_nil_of_le (Nat.le_of_not_lt hstart), lines_nil,
          List.foldl_nil]

-- ============================================================================
-- The text of a file
-- ============================================================================

/-- A line `key = value` with spaces around its parts. -/
structure EntryLine where
  indent : Bytes
  key : Bytes
  beforeEquals : Bytes
  afterEquals : Bytes
  value : Bytes
  trailing : Bytes

def EntryLine.text (e : EntryLine) : Bytes :=
  (e.indent ++ (e.key ++ e.beforeEquals)) ++ equals :: (e.afterEquals ++ (e.value ++ e.trailing))

/-- Both parts are trimmed, and the line does not look like a comment. -/
structure EntryLine.WellFormed (e : EntryLine) : Prop where
  spaces : ∀ c ∈ e.indent ++ e.beforeEquals ++ e.afterEquals ++ e.trailing,
    isSpace c = true ∧ c ≠ newline
  key_ne : e.key ≠ []
  key_trimmed : IsTrimmed e.key
  value_trimmed : IsTrimmed e.value
  key_plain : equals ∉ e.key ∧ newline ∉ e.key
  value_plain : newline ∉ e.value
  not_comment : e.text.head? ≠ some hash ∧ e.text.head? ≠ some semicolon

/-- An entry, or a line that is skipped. -/
inductive LanguageLine where
  | entry (e : EntryLine)
  | skipped (text : Bytes)

namespace LanguageLine

def text : LanguageLine → Bytes
  | entry e => e.text
  | skipped text => text

def entry? : LanguageLine → Option (Bytes × Bytes)
  | entry e => some (e.key, e.value)
  | skipped _ => none

/-- Skipped are empty lines, comments and what has no `=`. -/
def WellFormed : LanguageLine → Prop
  | entry e => e.WellFormed
  | skipped text => newline ∉ text ∧ (withoutReturn text = [] ∨ text.head? = some hash ∨
      text.head? = some semicolon ∨ equals ∉ text)

end LanguageLine

/-- A layout of a language file: with or without a byte order mark, and with or without a
    newline behind its last line. -/
structure LanguageFile where
  withBom : Bool
  lines : List LanguageLine
  last : Option LanguageLine

namespace LanguageFile

def body (f : LanguageFile) : Bytes :=
  (f.lines.flatMap fun line => line.text ++ [newline]) ++ (f.last.map LanguageLine.text).getD []

def content (f : LanguageFile) : Bytes := (if f.withBom then bom else []) ++ f.body

/-- The table of the file, the last entry of a key first. -/
def table (f : LanguageFile) : Translations :=
  ((f.lines ++ f.last.toList).filterMap LanguageLine.entry?).reverse

structure WellFormed (f : LanguageFile) : Prop where
  lines : ∀ line ∈ f.lines ++ f.last.toList, line.WellFormed
  start : f.withBom = false → ¬ bom <+: f.body

end LanguageFile

-- ============================================================================
-- Reading it back
-- ============================================================================

/-- Spaces at either end do not count. -/
theorem trim_front {pad : Bytes} (hpad : ∀ c ∈ pad, isSpace c = true) (s : Bytes) :
    trim (pad ++ s) = trim s := by
  rw [trim, List.dropWhile_append_of_pos hpad]
  rfl

theorem trim_back {pad : Bytes} (hpad : ∀ c ∈ pad, isSpace c = true) (s : Bytes) :
    trim (s ++ pad) = trim s := by
  have hnone : pad.dropWhile isSpace = [] := List.dropWhile_eq_nil_iff.mpr hpad
  have hback (t : Bytes) : (t ++ pad).rdropWhile isSpace = t.rdropWhile isSpace := by
    rw [List.rdropWhile, List.reverse_append, List.dropWhile_append_of_pos]
    · rfl
    · intro c hc
      exact hpad c (List.mem_reverse.mp hc)
  rw [trim, trim, List.dropWhile_append, hnone]
  split
  · rename_i hempty
    rw [List.isEmpty_iff.mp hempty]
  · exact hback _

theorem trim_padded {front back s : Bytes} (hfront : ∀ c ∈ front, isSpace c = true)
    (hback : ∀ c ∈ back, isSpace c = true) (hs : IsTrimmed s) :
    trim (front ++ (s ++ back)) = s := by
  rw [trim_front hfront, trim_back hback]
  exact trimEdges_of_isTrimmed hs

theorem withoutReturn_nil : withoutReturn [] = [] := rfl

theorem withoutReturn_append (a : Bytes) {c : UInt8} (hc : c ≠ carriageReturn) (v : Bytes) :
    withoutReturn (a ++ c :: v) = a ++ c :: withoutReturn v := by
  rcases List.eq_nil_or_concat v with rfl | ⟨v, d, rfl⟩
  · rw [withoutReturn_nil, withoutReturn, List.getLast?_concat, if_neg]
    exact fun heq => hc (Option.some.inj heq)
  · have hsplit : a ++ c :: (v ++ [d]) = (a ++ c :: v) ++ [d] := by simp
    rw [List.concat_eq_append, withoutReturn, withoutReturn, hsplit, List.getLast?_concat,
      List.getLast?_concat, List.dropLast_concat, List.dropLast_concat]
    split
    · rfl
    · exact hsplit.symm

/-- A carriage return is a space. -/
theorem trim_withoutReturn (v : Bytes) : trim (withoutReturn v) = trim v := by
  rw [withoutReturn]
  split
  · rename_i hlast
    obtain ⟨w, rfl⟩ := List.getLast?_eq_some_iff.mp hlast
    rw [List.dropLast_concat]
    symm
    apply trim_back
    intro c hc
    rw [List.mem_singleton.mp hc]
    rfl
  · rfl

theorem withoutReturn_head {c : UInt8} (hc : c ≠ carriageReturn) {text : Bytes}
    (h : text.head? = some c) : (withoutReturn text).head? = some c := by
  obtain ⟨v, rfl⟩ := List.head?_eq_some_iff.mp h
  exact congrArg List.head? (withoutReturn_append [] hc v)

theorem readLine_skipped {text : Bytes} (h : (LanguageLine.skipped text).WellFormed)
    (translations : Translations) : readLine translations text = translations := by
  have hnot (he : equals ∉ text) : splitAtFirst equals (withoutReturn text) = none := by
    rw [splitAtFirst_eq_none_iff, withoutReturn]
    split
    · exact fun hmem => he (List.dropLast_subset _ hmem)
    · exact he
  obtain ⟨-, hempty | hhash | hsemicolon | hequals⟩ := h
  · rw [readLine, if_pos (Or.inl hempty)]
  · rw [readLine, if_pos (Or.inr (Or.inl (withoutReturn_head (by decide) hhash)))]
  · rw [readLine, if_pos (Or.inr (Or.inr (withoutReturn_head (by decide) hsemicolon)))]
  · rw [readLine, hnot hequals, ite_self]

namespace EntryLine.WellFormed

variable {e : EntryLine} (h : e.WellFormed)

include h

theorem spaces_key :
    (∀ c ∈ e.indent, isSpace c = true ∧ c ≠ newline) ∧
      ∀ c ∈ e.beforeEquals, isSpace c = true ∧ c ≠ newline := by
  constructor
  · intro c hc
    exact h.spaces c (by simp [hc])
  · intro c hc
    exact h.spaces c (by simp [hc])

theorem spaces_value :
    (∀ c ∈ e.afterEquals, isSpace c = true ∧ c ≠ newline) ∧
      ∀ c ∈ e.trailing, isSpace c = true ∧ c ≠ newline := by
  constructor
  · intro c hc
    exact h.spaces c (by simp [hc])
  · intro c hc
    exact h.spaces c (by simp [hc])

theorem newline_notMem : newline ∉ e.text := by
  obtain ⟨hindent, hbefore⟩ := h.spaces_key
  obtain ⟨hafter, htrailing⟩ := h.spaces_value
  simp only [EntryLine.text, List.mem_append, List.mem_cons, not_or]
  exact ⟨⟨fun hc => (hindent _ hc).2 rfl, h.key_plain.2, fun hc => (hbefore _ hc).2 rfl⟩,
    by decide, fun hc => (hafter _ hc).2 rfl, h.value_plain, fun hc => (htrailing _ hc).2 rfl⟩

/-- The parts of an entry, whatever the spaces and the end of its line. -/
theorem readLine_text (translations : Translations) :
    readLine translations e.text = (e.key, e.value) :: translations := by
  obtain ⟨hindent, hbefore⟩ := h.spaces_key
  obtain ⟨hafter, htrailing⟩ := h.spaces_value
  have hequals : equals ∉ e.indent ++ (e.key ++ e.beforeEquals) := by
    simp only [List.mem_append, not_or]
    refine ⟨fun hc => ?_, h.key_plain.1, fun hc => ?_⟩
    · exact absurd (hindent _ hc).1 (by decide)
    · exact absurd (hbefore _ hc).1 (by decide)
  have hline : withoutReturn e.text = (e.indent ++ (e.key ++ e.beforeEquals)) ++
      equals :: withoutReturn (e.afterEquals ++ (e.value ++ e.trailing)) :=
    withoutReturn_append _ (by decide) _
  have hhead : (withoutReturn e.text).head? = e.text.head? := by
    rw [hline]
    simp only [EntryLine.text, List.head?_append, List.head?_cons]
  have hkey : trim (e.indent ++ (e.key ++ e.beforeEquals)) = e.key :=
    trim_padded (fun c hc => (hindent c hc).1) (fun c hc => (hbefore c hc).1) h.key_trimmed
  have hvalue : trim (withoutReturn (e.afterEquals ++ (e.value ++ e.trailing))) = e.value := by
    rw [trim_withoutReturn]
    exact trim_padded (fun c hc => (hafter c hc).1) (fun c hc => (htrailing c hc).1)
      h.value_trimmed
  rw [readLine, if_neg, hline, splitAtFirst_append hequals]
  · show (if trim _ = [] then translations else (trim _, trim _) :: translations) = _
    rw [hkey, hvalue, if_neg h.key_ne]
  · rw [hhead]
    rintro (hempty | hhash | hsemicolon)
    · simp [hline] at hempty
    · exact h.not_comment.1 hhash
    · exact h.not_comment.2 hsemicolon

end EntryLine.WellFormed

theorem LanguageLine.WellFormed.newline_notMem {line : LanguageLine} (h : line.WellFormed) :
    newline ∉ line.text := by
  cases line with
  | entry e => exact EntryLine.WellFormed.newline_notMem h
  | skipped text => exact h.1

theorem readLine_text {line : LanguageLine} (h : line.WellFormed) (translations : Translations) :
    readLine translations line.text = line.entry?.toList ++ translations := by
  cases line with
  | entry e => exact EntryLine.WellFormed.readLine_text h translations
  | skipped text => exact readLine_skipped h translations

theorem foldl_readLine {ls : List LanguageLine} (h : ∀ line ∈ ls, line.WellFormed)
    (translations : Translations) :
    (ls.map LanguageLine.text).foldl readLine translations =
      (ls.filterMap LanguageLine.entry?).reverse ++ translations := by
  induction ls generalizing translations with
  | nil => rfl
  | cons line ls ih =>
      obtain ⟨hline, hls⟩ := List.forall_mem_cons.mp h
      rw [List.map_cons, List.foldl_cons, readLine_text hline, ih hls]
      cases hentry : line.entry? with
      | none => simp [hentry]
      | some entry => simp [hentry]

/-- Reading gives the table, for every layout of the file. -/
theorem loadLanguageFile_content {f : LanguageFile} (h : f.WellFormed) :
    loadLanguageFile (some f.content) = f.table := by
  have hbody : withoutBom f.content = f.body := by
    rw [LanguageFile.content]
    cases hbom : f.withBom with
    | true => exact if_pos (List.prefix_append bom f.body)
    | false => exact if_neg (h.start hbom)
  have hlines (line : LanguageLine) (hmem : line ∈ f.lines) : newline ∉ line.text :=
    (h.lines line (List.mem_append_left _ hmem)).newline_notMem
  show readLines (withoutBom f.content) 0 [] = f.table
  rw [readLines_eq, hbody, List.drop_zero, LanguageFile.body, lines_flatMap_append hlines,
    List.foldl_append, foldl_readLine fun line hmem => h.lines line (List.mem_append_left _ hmem),
    List.append_nil, LanguageFile.table, List.filterMap_append, List.reverse_append]
  cases hlast : f.last with
  | none => rfl
  | some line =>
      have hline : line.WellFormed := h.lines line (by simp [hlast])
      have hread := @foldl_readLine [line] (by simpa using hline)
      by_cases hempty : line.text = []
      · have hskip := hread []
        simp only [List.map_cons, List.map_nil, List.foldl_cons, List.foldl_nil, hempty] at hskip
        show (lines newline line.text).foldl readLine _ = _
        rw [hempty, lines_nil, List.foldl_nil, Option.toList_some]
        rw [List.append_nil] at hskip
        rw [← hskip]
        rfl
      · show (lines newline line.text).foldl readLine _ = _
        rw [lines_of_not_mem hline.newline_notMem hempty]
        exact hread _

-- ============================================================================
-- ApplyLanguage
-- ============================================================================

inductive UiLanguage where
  | zhCN
  | enUS
deriving DecidableEq

/-- `ParseUiLanguage`. -/
def parseUiLanguage (languageCode : Bytes) : UiLanguage :=
  if utf8 "en" <+: languageCode then .enUS else .zhCN

def UiLanguage.code : UiLanguage → Bytes
  | .zhCN => utf8 "zh-CN"
  | .enUS => utf8 "en-US"

/-- `NormalizeLanguageCode`. -/
def normalizeLanguageCode (languageCode : Bytes) : Bytes := (parseUiLanguage languageCode).code

/-- `active_language_code_`, `active_translations_` and `fallback_translations_`. -/
structure Languages where
  activeLanguageCode : Bytes
  activeTranslations : Translations
  fallbackTranslations : Translations
deriving DecidableEq

namespace Languages

def initial : Languages := ⟨utf8 "zh-CN", [], []⟩

/-- `ApplyLanguage`, where `disk` has the language files by their codes. -/
def applyLanguage (s : Languages) (disk : Bytes → Option Bytes) (requestedLanguage : Bytes) :
    Languages × Bool :=
  let desired := normalizeLanguageCode requestedLanguage
  let s := if s.fallbackTranslations = [] then
      { s with fallbackTranslations := loadLanguageFile (disk (utf8 "zh-CN")) }
    else s
  if s.fallbackTranslations = [] then (s, false)
  else
    let translations := loadLanguageFile (disk desired)
    if translations = [] then
      if desired ≠ utf8 "zh-CN" then
        (⟨utf8 "zh-CN", s.fallbackTranslations, s.fallbackTranslations⟩, true)
      else (s, false)
    else (⟨desired, translations, s.fallbackTranslations⟩, true)

/-- The string that `Tr` points to. -/
def trString (s : Languages) (key : Bytes) : Bytes :=
  match s.activeTranslations.lookup key with
  | some text => text
  | none => (s.fallbackTranslations.lookup key).getD []

/-- `Tr`, whose callers read up to a NUL. -/
def tr (s : Languages) (key : Bytes) : Bytes := cString (s.trString key)

/-- Several language changes. -/
def applyAll (s : Languages) (disk : Bytes → Option Bytes) (requests : List Bytes) : Languages :=
  requests.foldl (fun s requested => (s.applyLanguage disk requested).1) s

end Languages

/-- The language files on the disk, those that are there. -/
structure LanguageDisk where
  zhCN : Option LanguageFile
  enUS : Option LanguageFile

namespace LanguageDisk

variable (d : LanguageDisk)

def file (languageCode : Bytes) : Option Bytes :=
  if languageCode = UiLanguage.zhCN.code then d.zhCN.map LanguageFile.content
  else if languageCode = UiLanguage.enUS.code then d.enUS.map LanguageFile.content
  else none

/-- The table of a language, empty if there is no file. -/
def table : UiLanguage → Translations
  | .zhCN => (d.zhCN.map LanguageFile.table).getD []
  | .enUS => (d.enUS.map LanguageFile.table).getD []

/-- The language that is shown for a request: Chinese, if the other file is no use. -/
def shown (requested : UiLanguage) : UiLanguage :=
  if d.table requested = [] then .zhCN else requested

structure WellFormed : Prop where
  zhCN : ∀ f ∈ d.zhCN, f.WellFormed
  enUS : ∀ f ∈ d.enUS, f.WellFormed

end LanguageDisk

section Apply

variable {d : LanguageDisk}

theorem loadLanguageFile_map {file : Option LanguageFile} (h : ∀ f ∈ file, f.WellFormed) :
    loadLanguageFile (file.map LanguageFile.content) = (file.map LanguageFile.table).getD [] := by
  cases hfile : file with
  | none => rfl
  | some f => exact loadLanguageFile_content (h f hfile)

theorem load_file (h : d.WellFormed) (l : UiLanguage) :
    loadLanguageFile (d.file l.code) = d.table l := by
  cases l with
  | zhCN => exact loadLanguageFile_map h.zhCN
  | enUS => exact loadLanguageFile_map h.enUS

/-- The Chinese table is in reserve, once it has been read. -/
def Reserved (d : LanguageDisk) (s : Languages) : Prop :=
  s.fallbackTranslations = [] ∨ s.fallbackTranslations = d.table .zhCN

theorem applyLanguage_eq (h : d.WellFormed) (hcomplete : d.table .zhCN ≠ []) {s : Languages}
    (hs : Reserved d s) (requested : Bytes) :
    s.applyLanguage d.file requested =
      (⟨(d.shown (parseUiLanguage requested)).code, d.table (d.shown (parseUiLanguage requested)),
        d.table .zhCN⟩, true) := by
  have hfallback : (if s.fallbackTranslations = [] then
      { s with fallbackTranslations := loadLanguageFile (d.file (utf8 "zh-CN")) } else s) =
      { s with fallbackTranslations := d.table .zhCN } := by
    have hload : loadLanguageFile (d.file (utf8 "zh-CN")) = d.table .zhCN := load_file h .zhCN
    split
    · rw [hload]
    · rename_i hne
      rw [← hs.resolve_left hne]
  have hload := load_file h (parseUiLanguage requested)
  rw [Languages.applyLanguage, hfallback]
  dsimp only
  rw [if_neg hcomplete, normalizeLanguageCode, hload, LanguageDisk.shown]
  by_cases hempty : d.table (parseUiLanguage requested) = []
  · rw [if_pos hempty, if_pos hempty, if_pos]
    · rfl
    · intro hcode
      have hzh : parseUiLanguage requested = .zhCN := by
        cases hl : parseUiLanguage requested with
        | zhCN => rfl
        | enUS =>
            rw [hl] at hcode
            exact absurd hcode (by decide)
      rw [hzh] at hempty
      exact hcomplete hempty
  · rw [if_neg hempty, if_neg hempty]

theorem reserved_applyAll (h : d.WellFormed) (hcomplete : d.table .zhCN ≠ []) {s : Languages}
    (hs : Reserved d s) (requests : List Bytes) : Reserved d (s.applyAll d.file requests) := by
  induction requests generalizing s with
  | nil => exact hs
  | cons requested requests ih =>
      show Reserved d ((s.applyLanguage d.file requested).1.applyAll d.file requests)
      apply ih
      rw [applyLanguage_eq h hcomplete hs]
      exact Or.inr rfl

/-- Without a Chinese table every change is refused. -/
theorem applyLanguage_refused (h : d.WellFormed) (hnone : d.table .zhCN = []) {s : Languages}
    (hs : s.fallbackTranslations = []) (requested : Bytes) :
    s.applyLanguage d.file requested = (s, false) := by
  have hload : loadLanguageFile (d.file (utf8 "zh-CN")) = [] := (load_file h .zhCN).trans hnone
  have hsame : ({ s with fallbackTranslations := [] } : Languages) = s := by
    rw [← hs]
  rw [Languages.applyLanguage, if_pos hs, hload, hsame]
  dsimp only
  rw [if_pos hs]

theorem applyAll_refused (h : d.WellFormed) (hnone : d.table .zhCN = []) {s : Languages}
    (hs : s.fallbackTranslations = []) (requests : List Bytes) :
    s.applyAll d.file requests = s := by
  induction requests with
  | nil => rfl
  | cons requested requests ih =>
      show (s.applyLanguage d.file requested).1.applyAll d.file requests = s
      rw [applyLanguage_refused h hnone hs]
      exact ih

end Apply

/-- For every layout of the language files and after any language changes: if the Chinese
    file has an entry the next change succeeds, and `Tr` gives, up to a NUL, the last text of
    the key in the file of the language asked for, else in the Chinese one, else nothing.
    Otherwise the change is refused, and no key has a text. -/
theorem tr_applied {d : LanguageDisk} (h : d.WellFormed) (earlier : List Bytes)
    (requested : Bytes) :
    let change := (Languages.initial.applyAll d.file earlier).applyLanguage d.file requested
    let language := d.shown (parseUiLanguage requested)
    (d.table .zhCN ≠ [] →
      change.2 = true ∧ change.1.activeLanguageCode = language.code ∧
        ∀ key, change.1.tr key =
          cString ((((d.table language).lookup key).or ((d.table .zhCN).lookup key)).getD [])) ∧
    (d.table .zhCN = [] →
      change.2 = false ∧ change.1.activeLanguageCode = utf8 "zh-CN" ∧
        ∀ key, change.1.tr key = []) := by
  intro change language
  constructor
  · intro hcomplete
    have hchange : change = (⟨language.code, d.table language, d.table .zhCN⟩, true) :=
      applyLanguage_eq h hcomplete (reserved_applyAll h hcomplete (Or.inl rfl) earlier) requested
    refine ⟨by rw [hchange], by rw [hchange], fun key => ?_⟩
    rw [hchange, Languages.tr, Languages.trString]
    dsimp only
    cases (d.table language).lookup key with
    | none => rfl
    | some text => rfl
  · intro hnone
    have hstart : Languages.initial.applyAll d.file earlier = Languages.initial :=
      applyAll_refused h hnone rfl earlier
    have hchange : change = (Languages.initial, false) := by
      show (Languages.initial.applyAll d.file earlier).applyLanguage d.file requested = _
      rw [hstart]
      exact applyLanguage_refused h hnone rfl requested
    rw [hchange]
    exact ⟨rfl, rfl, fun key => rfl⟩

def exampleEntry (key value : String) : EntryLine := ⟨[], utf8 key, [], [], utf8 value, []⟩

/-- A Chinese file with a byte order mark, and an English one with DOS line ends, a comment
    and one text less. -/
def exampleLanguageDisk : LanguageDisk where
  zhCN := some
    ⟨true, [.entry (exampleEntry "done" "完成")], some (.entry (exampleEntry "ready" "就绪"))⟩
  enUS := some ⟨false, [.skipped (utf8 "; buttons\r"),
    .entry ⟨[], utf8 "done", [32], [32], utf8 "Done", [carriageReturn]⟩], none⟩

theorem isTrimmed_of_ends {data : Bytes} {a b : UInt8} (hhead : data.head? = some a)
    (hlast : data.getLast? = some b) (ha : isSpace a = false) (hb : isSpace b = false) :
    IsTrimmed data := by
  constructor
  · intro c hc
    rw [hhead, Option.mem_some_iff] at hc
    rwa [← hc]
  · intro c hc
    rw [hlast, Option.mem_some_iff] at hc
    rwa [← hc]

theorem exampleEntry_wellFormed {key value : String}
    (hkey : IsTrimmed (utf8 key)) (hvalue : IsTrimmed (utf8 value))
    (hplain : utf8 key ≠ [] ∧ (equals ∉ utf8 key ∧ newline ∉ utf8 key) ∧ newline ∉ utf8 value)
    (hcomment : (exampleEntry key value).text.head? ≠ some hash ∧
      (exampleEntry key value).text.head? ≠ some semicolon) :
    (exampleEntry key value).WellFormed where
  spaces _ hc := absurd hc List.not_mem_nil
  key_ne := hplain.1
  key_trimmed := hkey
  value_trimmed := hvalue
  key_plain := hplain.2.1
  value_plain := hplain.2.2
  not_comment := hcomment

theorem exampleLanguageDisk_wellFormed : exampleLanguageDisk.WellFormed := by
  have hdone : IsTrimmed (utf8 "done") :=
    isTrimmed_of_ends (a := 100) (b := 101) (by decide) (by decide) (by decide) (by decide)
  constructor
  · intro f hf
    obtain rfl := Option.mem_some_iff.mp hf
    refine ⟨?_, fun h => absurd h (by decide)⟩
    rintro line hline
    obtain rfl | rfl : line = .entry (exampleEntry "done" "完成") ∨
        line = .entry (exampleEntry "ready" "就绪") := by
      simpa using hline
    · apply exampleEntry_wellFormed hdone _ (by decide) (by decide)
      exact isTrimmed_of_ends (a := 229) (b := 144) (by decide) (by decide) (by decide) (by decide)
    · apply exampleEntry_wellFormed _ _ (by decide) (by decide)
      · apply isTrimmed_of_ends (a := 114) (b := 121) (by decide) (by decide) (by decide)
        decide
      · apply isTrimmed_of_ends (a := 229) (b := 170) (by decide) (by decide) (by decide)
        decide
  · intro f hf
    obtain rfl := Option.mem_some_iff.mp hf
    refine ⟨?_, fun _ => by decide⟩
    intro line hline
    obtain rfl | rfl : line = .skipped (utf8 "; buttons\r") ∨
        line = .entry ⟨[], utf8 "done", [32], [32], utf8 "Done", [carriageReturn]⟩ := by
      simpa using hline
    · exact ⟨by decide, Or.inr (Or.inr (Or.inl (by decide)))⟩
    · refine ⟨?_, by decide, hdone, ?_, by decide, by decide, by decide⟩
      · intro c hc
        obtain rfl | rfl : c = 32 ∨ c = carriageReturn := by simpa using hc
        · decide
        · decide
      · exact isTrimmed_of_ends (a := 68) (b := 101) (by decide) (by decide) (by decide) (by decide)

theorem tr_applied_example :
    let s := (Languages.initial.applyAll exampleLanguageDisk.file [utf8 "zh-CN"]).applyLanguage
      exampleLanguageDisk.file (utf8 "en")
    s.2 = true ∧ s.1.tr (utf8 "done") = utf8 "Done" ∧ s.1.tr (utf8 "ready") = utf8 "就绪" := by
  obtain ⟨hchanged, -, htr⟩ :=
    (tr_applied exampleLanguageDisk_wellFormed [utf8 "zh-CN"] (utf8 "en")).1 (by decide)
  exact ⟨hchanged, (htr _).trans (by decide), (htr _).trans (by decide)⟩

end Smile2Unlock.Application
