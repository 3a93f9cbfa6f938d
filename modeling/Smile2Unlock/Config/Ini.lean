/-
  Smile2Unlock.Config.Ini

  The ini files of inicpp.hpp: `section`, `ini` and `IniManager::parse`.

  A map is the list of its entries, the one that counts first.  `parse_sectionText` says what
  the parser makes of a text with one section, for any well-formed entries, and
  `isSectionExists_parse` which sections of a text it keeps: one at the end that is empty
  is dropped.

  The line numbers of the entries only serve `modify` and are left out.
-/

import Mathlib.Data.List.DropRight
import Mathlib.Data.List.TakeWhile
import Smile2Unlock.Common.Numbers
import Smile2Unlock.Lib.Split

namespace Smile2Unlock.Config

open Smile2Unlock Lib

/-- `'['`, `']'`, `';'` and `'#'`. -/
def bracket : UInt8 := 91
def closing : UInt8 := 93
def semicolon : UInt8 := 59
def hash : UInt8 := 35

-- ============================================================================
-- Sections
-- ============================================================================

/-- `section`, with `_sectionMap`. -/
structure IniSection where
  name : Bytes
  values : List (Bytes × Bytes)
deriving DecidableEq

namespace IniSection

def isEmpty (s : IniSection) : Bool := s.values.isEmpty

def setValue (s : IniSection) (key value : Bytes) : IniSection :=
  { s with values := (key, value) :: s.values }

/-- `append`: `insert` leaves the values that exist. -/
def append (s sec : IniSection) : IniSection := { s with values := s.values ++ sec.values }

def isKeyExist (s : IniSection) (key : Bytes) : Bool := (s.values.lookup key).isSome

def toString (s : IniSection) (key : Bytes) : Bytes := (s.values.lookup key).getD []

/-- `toInt`: zero without a number, or for one that is no `int`. -/
def toInt (s : IniSection) (key : Bytes) : Int :=
  match s.values.lookup key with
  | none => 0
  | some value =>
      match stoi value with
      | .ok (result, _) => result
      | .error _ => 0

end IniSection

/-- `ini`, with `_iniInfoMap`. -/
structure Ini where
  sections : List (Bytes × IniSection)
deriving DecidableEq

namespace Ini

def isSectionExists (data : Ini) (sectionName : Bytes) : Bool :=
  (data.sections.lookup sectionName).isSome

/-- `operator[]`: the section, else the one without a name. -/
def get (data : Ini) (sectionName : Bytes) : IniSection :=
  (data.sections.lookup sectionName).getD ((data.sections.lookup []).getD ⟨[], []⟩)

/-- `addSection`: a section that exists is merged. -/
def addSection (data : Ini) (sec : IniSection) : Ini where
  sections :=
    if data.isSectionExists sec.name then
      data.sections.map fun entry =>
        if entry.1 = sec.name then (entry.1, entry.2.append sec) else entry
    else data.sections ++ [(sec.name, sec)]

end Ini

-- ============================================================================
-- The parser
-- ============================================================================

/-- `filterData`: neither empty nor a comment. -/
def filterData (data : Bytes) : Bool :=
  match data with
  | [] => false
  | c :: _ => c ≠ semicolon && c ≠ hash

/-- `trimEdges`. -/
def trimEdges (data : Bytes) : Bytes := (data.dropWhile isSpace).rdropWhile isSpace

/-- `_iniData`, `sectionName` and `sectionRecord`. -/
structure Parser where
  data : Ini
  sectionName : Bytes
  sectionRecord : IniSection
deriving DecidableEq

namespace Parser

/-- The part of the loop for a line with `=`. -/
def readKeyValue (p : Parser) (data : Bytes) : Parser :=
  match splitAtFirst equals data with
  | none => p
  | some (key, value) =>
      { p with sectionRecord := p.sectionRecord.setValue (trimEdges key) (trimEdges value) }

/-- The section so far goes into the data, if it has a name or a value. -/
def flush (p : Parser) : Parser :=
  if ¬ p.sectionRecord.isEmpty ∨ p.sectionRecord.name ≠ [] then
    { p with data := p.data.addSection p.sectionRecord }
  else p

/-- One pass through the loop of `parse`.  A line `[..]` with `=` is both. -/
def readLine (p : Parser) (data : Bytes) : Parser :=
  if ¬ filterData data then p
  else if data.head? = some bracket then
    match splitAtFirst closing data with
    | none => p.flush
    | some (before, _) =>
        readKeyValue ⟨p.flush.data, before.tail, ⟨before.tail, []⟩⟩ data
  else readKeyValue p data

/-- The end of the file. -/
def finish (p : Parser) : Ini :=
  if ¬ p.sectionRecord.isEmpty then
    p.data.addSection { p.sectionRecord with name := p.sectionName }
  else p.data

end Parser

/-- `IniManager::parse` on the text of its file.  `getline` also gives the empty line
    behind the last newline. -/
def parse (text : Bytes) : Ini :=
  ((text.splitOn newline).foldl Parser.readLine ⟨⟨[]⟩, [], ⟨[], []⟩⟩).finish

-- ============================================================================
-- A section as text
-- ============================================================================

/-- A line `key=value` and its newline. -/
def entryLine (entry : Bytes × Bytes) : Bytes :=
  entry.1 ++ equals :: (entry.2 ++ [newline])

/-- A section as `ConfigManager` writes it. -/
def sectionText (name : Bytes) (entries : List (Bytes × Bytes)) : Bytes :=
  bracket :: (name ++ closing :: newline :: entries.flatMap entryLine)

/-- No whitespace at either end. -/
def IsTrimmed (data : Bytes) : Prop :=
  (∀ c ∈ data.head?, isSpace c = false) ∧ ∀ c ∈ data.getLast?, isSpace c = false

instance (data : Bytes) : Decidable (IsTrimmed data) :=
  inferInstanceAs (Decidable ((∀ c ∈ data.head?, _) ∧ ∀ c ∈ data.getLast?, _))

/-- A key that `readLine` takes for one. -/
structure IsIniKey (key : Bytes) : Prop where
  trimmed : IsTrimmed key
  start : ∃ c ∈ key.head?, c ≠ bracket ∧ c ≠ semicolon ∧ c ≠ hash
  equals : equals ∉ key
  newline : newline ∉ key

/-- A value that is read back. -/
structure IsIniValue (value : Bytes) : Prop where
  trimmed : IsTrimmed value
  newline : newline ∉ value

theorem trimEdges_of_isTrimmed {data : Bytes} (h : IsTrimmed data) : trimEdges data = data := by
  have hfront : data.dropWhile isSpace = data := by
    rw [List.dropWhile_eq_self_iff]
    intro hlength hspace
    have hhead := h.1 data[0] (List.head?_eq_getElem? .. ▸ List.getElem?_eq_getElem hlength)
    rw [hhead] at hspace
    cases hspace
  have hback : data.rdropWhile isSpace = data := by
    rw [List.rdropWhile_eq_self_iff]
    intro hne hspace
    have hlast := h.2 (data.getLast hne) (List.getLast?_eq_some_getLast hne)
    rw [hlast] at hspace
    cases hspace
  rw [trimEdges, hfront, hback]

namespace Parser

/-- A line of a section. -/
theorem readLine_entry {key value : Bytes} (hkey : IsIniKey key) (hvalue : IsIniValue value)
    (p : Parser) :
    p.readLine (key ++ equals :: value) =
      { p with sectionRecord := p.sectionRecord.setValue key value } := by
  obtain ⟨c, hc, hbracket, hsemicolon, hhash⟩ := hkey.start
  obtain ⟨rest, hrest⟩ : ∃ rest, key = c :: rest := List.head?_eq_some_iff.mp hc
  have hfilter : filterData (key ++ equals :: value) = true := by
    rw [hrest, List.cons_append, filterData]
    simp [hsemicolon, hhash]
  have hhead : (key ++ equals :: value).head? ≠ some bracket := by
    rw [hrest, List.cons_append, List.head?_cons, Ne, Option.some.injEq]
    exact hbracket
  rw [readLine, if_neg (not_not.mpr hfilter), if_neg hhead, readKeyValue,
    splitAtFirst_append hkey.equals]
  simp only [trimEdges_of_isTrimmed hkey.trimmed, trimEdges_of_isTrimmed hvalue.trimmed]

/-- The line of a section whose name has neither `]` nor `=`. -/
theorem readLine_section {name : Bytes} (hclosing : closing ∉ name) (hequals : equals ∉ name)
    (p : Parser) :
    p.readLine (bracket :: (name ++ [closing])) = ⟨p.flush.data, name, ⟨name, []⟩⟩ := by
  have hsplit : splitAtFirst closing (bracket :: (name ++ [closing])) =
      some (bracket :: name, []) := by
    rw [← List.cons_append]
    refine splitAtFirst_append ?_ []
    rw [List.mem_cons, not_or]
    exact ⟨by decide, hclosing⟩
  have hkey : splitAtFirst equals (bracket :: (name ++ [closing])) = none := by
    rw [splitAtFirst_eq_none_iff, List.mem_cons, List.mem_append, List.mem_singleton, not_or,
      not_or]
    exact ⟨by decide, hequals, by decide⟩
  have hfilter : filterData (bracket :: (name ++ [closing])) = true := rfl
  have hhead : (bracket :: (name ++ [closing])).head? = some bracket := rfl
  rw [readLine, if_neg (not_not.mpr hfilter), if_pos hhead, hsplit]
  simp only [readKeyValue, hkey, List.tail_cons]

end Parser

/-- The lines of a text are peeled off as `getline` reads them. -/
theorem splitOn_append {line : Bytes} (h : newline ∉ line) (rest : Bytes) :
    (line ++ newline :: rest).splitOn newline = line :: rest.splitOn newline := by
  rw [List.splitOn_eq_splitOnP, List.splitOn_eq_splitOnP]
  refine List.splitOnP_append_cons_of_forall_mem (fun c hc => ?_) newline (by simp) rest
  simpa using fun heq : c = newline => h (heq ▸ hc)

/-- The entries of a section are read one after another. -/
theorem foldl_entries {entries : List (Bytes × Bytes)}
    (h : ∀ entry ∈ entries, IsIniKey entry.1 ∧ IsIniValue entry.2) (p : Parser) :
    ((entries.flatMap entryLine).splitOn newline).foldl Parser.readLine p =
      { p with sectionRecord :=
        { p.sectionRecord with values := entries.reverse ++ p.sectionRecord.values } } := by
  induction entries generalizing p with
  | nil => rfl
  | cons entry entries ih =>
      obtain ⟨hkey, hvalue⟩ := h entry List.mem_cons_self
      have hline : (entry :: entries).flatMap entryLine =
          (entry.1 ++ equals :: entry.2) ++ newline :: entries.flatMap entryLine := by
        simp [List.flatMap_cons, entryLine]
      have hnewline : newline ∉ entry.1 ++ equals :: entry.2 := by
        rw [List.mem_append, List.mem_cons, not_or, not_or]
        exact ⟨hkey.newline, by decide, hvalue.newline⟩
      rw [hline, splitOn_append hnewline, List.foldl_cons, Parser.readLine_entry hkey hvalue,
        ih fun e he => h e (List.mem_cons_of_mem _ he)]
      simp [IniSection.setValue]

/-- A text with one section is read back: the section with its entries, the last one of a
    key first. -/
theorem parse_sectionText {name : Bytes} {entries : List (Bytes × Bytes)}
    (hname : closing ∉ name ∧ equals ∉ name ∧ newline ∉ name) (hne : entries ≠ [])
    (h : ∀ entry ∈ entries, IsIniKey entry.1 ∧ IsIniValue entry.2) :
    parse (sectionText name entries) = ⟨[(name, ⟨name, entries.reverse⟩)]⟩ := by
  have htext : sectionText name entries =
      (bracket :: (name ++ [closing])) ++ newline :: entries.flatMap entryLine := by
    simp [sectionText]
  have hline : newline ∉ bracket :: (name ++ [closing]) := by
    rw [List.mem_cons, List.mem_append, List.mem_singleton, not_or, not_or]
    exact ⟨by decide, hname.2.2, by decide⟩
  have hflush : Parser.flush ⟨⟨[]⟩, [], ⟨[], []⟩⟩ = ⟨⟨[]⟩, [], ⟨[], []⟩⟩ := rfl
  rw [parse, htext, splitOn_append hline, List.foldl_cons,
    Parser.readLine_section hname.1 hname.2.1, hflush, foldl_entries h, List.append_nil,
    Parser.finish, if_pos]
  · rfl
  · simp [IniSection.isEmpty, hne]

-- ============================================================================
-- Which sections are kept
-- ============================================================================

/-- The section that a line `[name]` starts. -/
def headerName (line : Bytes) : Option Bytes :=
  if line.head? = some bracket then (splitAtFirst closing line).map (·.1.tail) else none

/-- The text has a section of this name. -/
def HasSection (name text : Bytes) : Prop :=
  ∃ line ∈ text.splitOn newline, headerName line = some name

/-- A line that starts a section or sets a value; comments and empty lines do neither. -/
def Counts (line : Bytes) : Prop :=
  filterData line = true ∧ (line.head? = some bracket ∨ equals ∈ line)

/-- One of the headers of the section is not the last line that counts, or sets a value
    itself. -/
def KeepsSection (name : Bytes) : List Bytes → Prop
  | [] => False
  | line :: rest =>
      (headerName line = some name ∧ (equals ∈ line ∨ ∃ l ∈ rest, Counts l)) ∨
        KeepsSection name rest

instance (name text : Bytes) : Decidable (HasSection name text) :=
  inferInstanceAs (Decidable (∃ line ∈ _, _))

instance (line : Bytes) : Decidable (Counts line) := inferInstanceAs (Decidable (_ ∧ _))

instance decidableKeepsSection (name : Bytes) : (lines : List Bytes) →
    Decidable (KeepsSection name lines)
  | [] => isFalse id
  | _ :: rest =>
      have := decidableKeepsSection name rest
      inferInstanceAs (Decidable (_ ∨ _))

namespace Ini

theorem isSectionExists_iff {data : Ini} {name : Bytes} :
    data.isSectionExists name = true ↔ ∃ entry ∈ data.sections, entry.1 = name := by
  rw [isSectionExists, List.lookup_isSome_iff]
  exact exists_congr fun entry => and_congr_right fun _ => beq_iff_eq.trans eq_comm

theorem isSectionExists_addSection {data : Ini} {sec : IniSection} {name : Bytes} :
    (data.addSection sec).isSectionExists name = true ↔
      data.isSectionExists name = true ∨ sec.name = name := by
  by_cases hsec : data.isSectionExists sec.name = true
  · -- the keys stay
    have hkey : ∀ entry : Bytes × IniSection,
        (if entry.1 = sec.name then (entry.1, entry.2.append sec) else entry).1 = entry.1 := by
      intro entry
      split
      · rfl
      · rfl
    have hkeys : (data.addSection sec).isSectionExists name = true ↔
        data.isSectionExists name = true := by
      rw [isSectionExists_iff, isSectionExists_iff, addSection, if_pos hsec]
      simp only [List.mem_map, exists_exists_and_eq_and, hkey]
    rw [hkeys]
    exact ⟨Or.inl, fun h => h.elim id fun hname => hname ▸ hsec⟩
  · rw [isSectionExists_iff, isSectionExists_iff, addSection, if_neg hsec]
    simp only [List.mem_append, List.mem_singleton, or_and_right, exists_or, exists_eq_left]

end Ini

namespace Parser

/-- What the record has when the line has been read. -/
theorem readKeyValue_spec (p : Parser) (line : Bytes) :
    (p.readKeyValue line).data = p.data ∧
      (p.readKeyValue line).sectionName = p.sectionName ∧
      (p.readKeyValue line).sectionRecord.name = p.sectionRecord.name ∧
      ((p.readKeyValue line).sectionRecord.isEmpty = false ↔
        p.sectionRecord.isEmpty = false ∨ equals ∈ line) := by
  rw [readKeyValue]
  cases hsplit : splitAtFirst equals line with
  | none =>
      have hnone : equals ∉ line := splitAtFirst_eq_none_iff.mp hsplit
      exact ⟨rfl, rfl, rfl, by simp only [hnone, or_false]⟩
  | some pair =>
      have hmem : equals ∈ line := by
        by_contra hnone
        rw [splitAtFirst_eq_none_iff.mpr hnone] at hsplit
        cases hsplit
      exact ⟨rfl, rfl, rfl, by simp only [hmem, or_true, iff_true]; rfl⟩

/-- The record goes into the data if it has a name. -/
theorem isSectionExists_flush {p : Parser} {name : Bytes} (hname : name ≠ []) :
    p.flush.data.isSectionExists name = true ↔
      p.data.isSectionExists name = true ∨ p.sectionRecord.name = name := by
  rw [flush]
  split
  · exact Ini.isSectionExists_addSection
  · rename_i hflush
    rw [not_or, not_not, not_not] at hflush
    exact (or_iff_left fun heq => hname (heq.symm.trans hflush.2)).symm

theorem flush_record (p : Parser) :
    p.flush.sectionName = p.sectionName ∧ p.flush.sectionRecord = p.sectionRecord := by
  rw [flush]
  split
  · exact ⟨rfl, rfl⟩
  · exact ⟨rfl, rfl⟩

/-- What is there, what the record becomes, and what is still to come. -/
def Keeps (p : Parser) (name : Bytes) (lines : List Bytes) : Prop :=
  p.data.isSectionExists name = true ∨
    (p.sectionRecord.name = name ∧
      (p.sectionRecord.isEmpty = false ∨ ∃ line ∈ lines, Counts line)) ∨
    KeepsSection name lines

/-- One line, by its kind. -/
theorem keeps_readLine {p : Parser} {name : Bytes} (hname : name ≠ []) (line : Bytes)
    (lines : List Bytes) : (p.readLine line).Keeps name lines ↔ p.Keeps name (line :: lines) := by
  have hcounts : (∃ l ∈ line :: lines, Counts l) ↔ Counts line ∨ ∃ l ∈ lines, Counts l := by
    simp only [List.mem_cons, or_and_right, exists_or, exists_eq_left]
  rw [Keeps, Keeps, KeepsSection, hcounts, readLine, headerName]
  by_cases hfilter : filterData line = true
  · rw [if_neg (not_not.mpr hfilter)]
    by_cases hhead : line.head? = some bracket
    · have hline : Counts line := ⟨hfilter, Or.inl hhead⟩
      rw [if_pos hhead, if_pos hhead]
      cases splitAtFirst closing line with
      | none =>
          -- a header without its end: the record so far is stored and kept
          obtain ⟨-, hrecord⟩ := flush_record p
          simp only [isSectionExists_flush hname, hrecord, hline, Option.map_none, true_or, or_true,
            and_true, reduceCtorEq, false_and, false_or]
          tauto
      | some pair =>
          obtain ⟨hdata, -, hrecord, hempty⟩ :=
            readKeyValue_spec ⟨p.flush.data, pair.1.tail, ⟨pair.1.tail, []⟩⟩ line
          have hnew : (IniSection.mk pair.1.tail []).isEmpty = true := rfl
          simp only [hdata, hrecord, hempty, isSectionExists_flush hname, hnew, hline, Option.map_some,
            Option.some.injEq, true_or, or_true, and_true, Bool.true_eq_false, false_or]
          exact or_assoc
    · -- a line of the section
      obtain ⟨hdata, -, hrecord, hempty⟩ := readKeyValue_spec p line
      have hline : Counts line ↔ equals ∈ line := by
        rw [Counts]
        simp only [hfilter, hhead, true_and, false_or]
      rw [if_neg hhead, if_neg hhead, hdata, hrecord, hempty, hline]
      simp only [reduceCtorEq, false_and, false_or, or_assoc]
  · -- a comment or nothing
    have hline : ¬ Counts line := fun h => hfilter h.1
    have hhead : line.head? ≠ some bracket := by
      rintro hhead
      obtain ⟨rest, rfl⟩ := List.head?_eq_some_iff.mp hhead
      exact hfilter rfl
    rw [if_pos hfilter, if_neg hhead]
    simp only [hline, reduceCtorEq, false_and, false_or]

/-- The record has the name of the section. -/
theorem sectionName_readLine {p : Parser} (h : p.sectionRecord.name = p.sectionName)
    (line : Bytes) : (p.readLine line).sectionRecord.name = (p.readLine line).sectionName := by
  have hkeyValue : ∀ q : Parser, q.sectionRecord.name = q.sectionName →
      (q.readKeyValue line).sectionRecord.name = (q.readKeyValue line).sectionName := by
    intro q hq
    obtain ⟨-, hsection, hrecord, -⟩ := readKeyValue_spec q line
    rw [hsection, hrecord, hq]
  rw [readLine]
  split
  · exact h
  · split
    · split
      · rw [(flush_record p).1, (flush_record p).2, h]
      · exact hkeyValue _ rfl
    · exact hkeyValue p h

/-- The rest of the text. -/
theorem isSectionExists_finish {name : Bytes} (hname : name ≠ []) (lines : List Bytes) {p : Parser}
    (h : p.sectionRecord.name = p.sectionName) :
    (lines.foldl readLine p).finish.isSectionExists name = true ↔ p.Keeps name lines := by
  induction lines generalizing p with
  | nil =>
      rw [List.foldl_nil, finish, Keeps, KeepsSection]
      by_cases hempty : p.sectionRecord.isEmpty = true
      · simp [hempty]
      · rw [if_pos hempty, Ini.isSectionExists_addSection, ← h]
        simp [hempty]
  | cons line lines ih =>
      rw [List.foldl_cons, ih (sectionName_readLine h line), keeps_readLine hname]

end Parser

/-- The parser keeps a section unless nothing comes after its last header. -/
theorem isSectionExists_parse {name : Bytes} (hname : name ≠ []) (text : Bytes) :
    (parse text).isSectionExists name = true ↔ KeepsSection name (text.splitOn newline) := by
  have hempty : ¬ (Ini.mk []).isSectionExists name = true := by
    rw [Ini.isSectionExists_iff]
    rintro ⟨entry, hentry, -⟩
    cases hentry
  have hstart : ¬ ([] = name ∧ ((IniSection.mk [] []).isEmpty = false ∨
      ∃ line ∈ text.splitOn newline, Counts line)) := fun h => hname h.1.symm
  rw [parse, Parser.isSectionExists_finish hname _ rfl, Parser.Keeps, or_iff_right hempty,
    or_iff_right hstart]

end Smile2Unlock.Config
