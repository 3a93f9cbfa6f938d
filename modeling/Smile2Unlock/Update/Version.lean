/-
  Smile2Unlock.Update.Version

  Version strings and their order: `TrimCopy`, `NormalizeVersion`, `ParseVersionParts` and
  `CompareVersions` (application.cppm).

  The parser collects runs of digits (`digitRuns`) and converts each with `std::stoi`, which
  throws behind the range of `int`.  If every run is in the range, versions are compared as
  padded lists (`Lib.PaddedLex`), so they form a total preorder.
-/

import Mathlib.Data.List.DropRight
import Smile2Unlock.Common.Numbers
import Smile2Unlock.Lib.PaddedLex

namespace Smile2Unlock.Update

open Lib Lib.PaddedLex

-- ============================================================================
-- The functions
-- ============================================================================

def dot : UInt8 := 46

def trimCopy (value : Bytes) : Bytes := (value.dropWhile isSpace).rdropWhile isSpace

/-- The leading `v` or `V` is dropped. -/
def normalizeVersion (version : Bytes) : Bytes :=
  if (trimCopy version).head? = some 118 ∨ (trimCopy version).head? = some 86 then
    (trimCopy version).tail
  else trimCopy version

/-- `parts.push_back(std::stoi(current))`, if there is anything in `current`. -/
def pushPart (parts : List Int) (current : Bytes) : Except StdException (List Int) :=
  if current = [] then .ok parts else (stoi current).map fun p => parts ++ [p.1]

/-- The loop over the characters and the part behind it. -/
def parseLoop : Bytes → List Int → Bytes → Except StdException (List Int)
  | [], parts, current => pushPart parts current
  | ch :: version, parts, current =>
      if Decimal.isDigit ch then parseLoop version parts (current ++ [ch])
      else
        match pushPart parts current with
        | .error e => .error e
        | .ok parts => if ch ≠ dot then .ok parts else parseLoop version parts []

def parseVersionParts (version : Bytes) : Except StdException (List Int) :=
  parseLoop (normalizeVersion version) [] []

/-- The loop over the components; a missing one is 0. -/
def compareParts (leftParts rightParts : List Int) : Int :=
  ((List.range (max leftParts.length rightParts.length)).findSome? fun index =>
    if leftParts.getD index 0 < rightParts.getD index 0 then some (-1)
    else if leftParts.getD index 0 > rightParts.getD index 0 then some 1
    else none).getD 0

def compareVersions (lhs rhs : Bytes) : Except StdException Int :=
  match parseVersionParts lhs with
  | .error e => .error e
  | .ok leftParts =>
      match parseVersionParts rhs with
      | .error e => .error e
      | .ok rightParts => .ok (compareParts leftParts rightParts)

theorem compareParts_eq (l r : List Int) : compareParts l r = comparePadded 0 l r := rfl

-- ============================================================================
-- Runs of digits
-- ============================================================================

/-- The runs of digits that the loop comes to, the first of which begins with `current`. -/
def digitRuns : Bytes → Bytes → List Bytes
  | current, [] => if current = [] then [] else [current]
  | current, ch :: version =>
      if Decimal.isDigit ch then digitRuns (current ++ [ch]) version
      else (if current = [] then [] else [current]) ++ if ch ≠ dot then [] else digitRuns [] version

/-- The runs of a version string, and its components. -/
def runs (version : Bytes) : List Bytes := digitRuns [] (normalizeVersion version)

def components (runs : List Bytes) : List Int := runs.map fun run => (Decimal.value run : Int)

/-- A component of a numeral. -/
def IsRun (run : Bytes) : Prop := run ≠ [] ∧ ∀ c ∈ run, Decimal.isDigit c = true

instance (run : Bytes) : Decidable (IsRun run) :=
  decidable_of_iff (run ≠ [] ∧ run.all Decimal.isDigit = true) (by simp [IsRun])

/-- It is in the range of `int`. -/
def Fits (run : Bytes) : Prop := Decimal.value run ≤ 2147483647

instance (run : Bytes) : Decidable (Fits run) := inferInstanceAs (Decidable (_ ≤ _))

/-- Every run that the parser comes to fits. -/
def Parses (version : Bytes) : Prop := ∀ run ∈ runs version, Fits run

instance (version : Bytes) : Decidable (Parses version) :=
  inferInstanceAs (Decidable (∀ run ∈ runs version, Fits run))

theorem foldlM_pushPart (parts : List Int) (current : Bytes) :
    (if current = [] then [] else [current]).foldlM pushPart parts = pushPart parts current := by
  by_cases hempty : current = []
  · rw [if_pos hempty, hempty]
    rfl
  · rw [if_neg hempty, List.foldlM_cons]
    cases pushPart parts current with
    | error e => rfl
    | ok parts => rfl

/-- The loop converts the runs in their order. -/
theorem parseLoop_eq (version : Bytes) (parts : List Int) (current : Bytes) :
    parseLoop version parts current = (digitRuns current version).foldlM pushPart parts := by
  induction version generalizing parts current with
  | nil => rw [parseLoop, digitRuns, foldlM_pushPart]
  | cons ch version ih =>
      rw [parseLoop, digitRuns]
      by_cases hdigit : Decimal.isDigit ch = true
      · rw [if_pos hdigit, if_pos hdigit, ih]
      · rw [if_neg hdigit, if_neg hdigit, List.foldlM_append, foldlM_pushPart]
        cases pushPart parts current with
        | error e => rfl
        | ok parts =>
            by_cases hdot : ch ≠ dot
            · simp only [if_pos hdot]
              rfl
            · simp only [if_neg hdot]
              exact ih parts []

/-- A run that is too long for an `int` ends the parser with an exception. -/
theorem foldlM_pushPart_eq {runs : List Bytes} (hruns : ∀ run ∈ runs, IsRun run)
    (parts : List Int) : runs.foldlM pushPart parts =
      if ∀ run ∈ runs, Fits run then .ok (parts ++ components runs) else .error .outOfRange := by
  induction runs generalizing parts with
  | nil =>
      rw [if_pos (by simp), components, List.map_nil, List.append_nil]
      rfl
  | cons run runs ih =>
      obtain ⟨hne, hdigits⟩ := hruns run List.mem_cons_self
      have hrest := ih fun r hr => hruns r (List.mem_cons_of_mem run hr)
      rw [List.foldlM_cons, pushPart, if_neg hne, stoi_digits hne hdigits]
      by_cases hfits : Decimal.value run ≤ 2147483647
      · rw [if_pos hfits]
        simp only [Except.map, bind, Except.bind, hrest, List.forall_mem_cons, Fits, hfits, true_and,
          components, List.map_cons, List.append_assoc, List.singleton_append]
      · rw [if_neg hfits, if_neg fun hall => hfits (hall run List.mem_cons_self)]
        rfl

/-- What the loop collects are runs of digits of the text. -/
theorem of_mem_digitRuns {current version run : Bytes}
    (hcurrent : ∀ c ∈ current, Decimal.isDigit c = true) (h : run ∈ digitRuns current version) :
    IsRun run ∧ run <:+: current ++ version := by
  have hflush : ∀ current : Bytes, (∀ c ∈ current, Decimal.isDigit c = true) → ∀ rest,
      run ∈ (if current = [] then [] else [current]) → IsRun run ∧ run <:+: current ++ rest := by
    intro current hcurrent rest hmem
    by_cases hempty : current = []
    · rw [if_pos hempty] at hmem
      cases hmem
    · rw [if_neg hempty, List.mem_singleton] at hmem
      subst hmem
      exact ⟨⟨hempty, hcurrent⟩, (List.prefix_append _ _).isInfix⟩
  induction version generalizing current with
  | nil => exact hflush current hcurrent [] h
  | cons ch version ih =>
      rw [digitRuns] at h
      by_cases hdigit : Decimal.isDigit ch = true
      · rw [if_pos hdigit] at h
        have hrun := @ih (current ++ [ch]) (by simpa [or_imp, forall_and] using ⟨hcurrent, hdigit⟩) h
        rwa [List.append_assoc, List.singleton_append] at hrun
      · rw [if_neg hdigit] at h
        rcases List.mem_append.mp h with hfirst | hlater
        · exact hflush current hcurrent _ hfirst
        · by_cases hdot : ch ≠ dot
          · rw [if_pos hdot] at hlater
            cases hlater
          · rw [if_neg hdot] at hlater
            obtain ⟨hrun, hinside⟩ := @ih [] (by simp) hlater
            refine ⟨hrun, hinside.trans ?_⟩
            exact ((List.suffix_cons ch version).trans (List.suffix_append current _)).isInfix

theorem of_mem_runs {version run : Bytes} (h : run ∈ runs version) :
    IsRun run ∧ run <:+: normalizeVersion version :=
  @of_mem_digitRuns [] _ run (by simp) h

theorem parseVersionParts_eq (version : Bytes) : parseVersionParts version =
    if Parses version then .ok (components (runs version)) else .error .outOfRange := by
  rw [parseVersionParts, parseLoop_eq]
  exact foldlM_pushPart_eq (fun run hrun => (of_mem_runs hrun).1) []

/-- Two version strings are compared, unless a run of one of them is out of range. -/
theorem compareVersions_eq (lhs rhs : Bytes) : compareVersions lhs rhs =
    if Parses lhs ∧ Parses rhs then
      .ok (comparePadded 0 (components (runs lhs)) (components (runs rhs)))
    else .error .outOfRange := by
  rw [compareVersions, parseVersionParts_eq, parseVersionParts_eq]
  by_cases hl : Parses lhs
  · by_cases hr : Parses rhs
    · rw [if_pos hl, if_pos hr, if_pos ⟨hl, hr⟩, ← compareParts_eq]
    · rw [if_pos hl, if_neg hr, if_neg fun h => hr h.2]
  · have hnot : ¬ (Parses lhs ∧ Parses rhs) := fun h => hl h.1
    rw [if_neg hl, if_neg hnot]

-- ============================================================================
-- The order
-- ============================================================================

/-- No run of digits of a text exceeds the range of `int`. -/
def RunsFit (version : Bytes) : Prop := ∀ run, IsRun run → run <:+: version → Fits run

/-- A comparison that returns on all texts of a domain, with the laws of a total
    preorder. -/
structure IsTotalPreorder (domain : Bytes → Prop)
    (compare : Bytes → Bytes → Except StdException Int) : Prop where
  refl : ∀ a, domain a → compare a a = .ok 0
  swap : ∀ a b, domain a → domain b → ∃ x, compare a b = .ok x ∧ compare b a = .ok (-x)
  trans : ∀ a b c, domain a → domain b → domain c → ∀ x y, compare a b = .ok x → x ≤ 0 →
    compare b c = .ok y → y ≤ 0 → ∃ z, compare a c = .ok z ∧ z ≤ 0

/-- Plain dotted numerals. -/
def dotted : List Bytes → Bytes
  | [] => []
  | [run] => run
  | run :: runs => run ++ dot :: dotted runs

theorem trimCopy_inside (value : Bytes) : trimCopy value <:+: value :=
  (List.rdropWhile_prefix _ _).isInfix.trans (List.dropWhile_suffix _).isInfix

theorem normalizeVersion_inside (version : Bytes) : normalizeVersion version <:+: version := by
  rw [normalizeVersion]
  split
  · exact (List.tail_suffix _).isInfix.trans (trimCopy_inside version)
  · exact trimCopy_inside version

theorem parses_of_runsFit {version : Bytes} (h : RunsFit version) : Parses version := by
  intro run hrun
  obtain ⟨hdigits, hinside⟩ := of_mem_runs hrun
  exact h run hdigits (hinside.trans (normalizeVersion_inside version))

theorem compareVersions_of_runsFit {a b : Bytes} (ha : RunsFit a) (hb : RunsFit b) :
    compareVersions a b = .ok (comparePadded 0 (components (runs a)) (components (runs b))) := by
  rw [compareVersions_eq, if_pos ⟨parses_of_runsFit ha, parses_of_runsFit hb⟩]

theorem isTotalPreorder_compareVersions : IsTotalPreorder RunsFit compareVersions where
  refl a ha := by
    rw [compareVersions_of_runsFit ha ha, comparePadded_eq_zero_iff.mpr rfl]
  swap a b ha hb := by
    refine ⟨_, compareVersions_of_runsFit ha hb, ?_⟩
    rw [compareVersions_of_runsFit hb ha, comparePadded_swap]
  trans a b c ha hb hc x y hx hx' hy hy' := by
    rw [compareVersions_of_runsFit ha hb, Except.ok.injEq] at hx
    rw [compareVersions_of_runsFit hb hc, Except.ok.injEq] at hy
    subst hx hy
    exact ⟨_, compareVersions_of_runsFit ha hc, comparePadded_trans hx' hy'⟩

-- ============================================================================
-- Dotted numerals
-- ============================================================================

/-- A numeral consists of digits and dots. -/
theorem of_mem_dotted {runs : List Bytes} (hruns : ∀ run ∈ runs, IsRun run) {c : UInt8}
    (hc : c ∈ dotted runs) : c = dot ∨ Decimal.isDigit c = true := by
  induction runs using dotted.induct with
  | case1 => cases hc
  | case2 run => exact .inr ((hruns run List.mem_cons_self).2 c hc)
  | case3 run runs hmore ih =>
      rw [dotted] at hc
      · rcases List.mem_append.mp hc with hrun | hrest
        · exact .inr ((hruns run List.mem_cons_self).2 c hrun)
        · rcases List.mem_cons.mp hrest with hdot | hrest
          · exact .inl hdot
          · exact ih (fun r hr => hruns r (List.mem_cons_of_mem run hr)) hrest
      · exact hmore

theorem digitRuns_append {w : Bytes} (hw : ∀ c ∈ w, Decimal.isDigit c = true) (current rest : Bytes) :
    digitRuns current (w ++ rest) = digitRuns (current ++ w) rest := by
  induction w generalizing current with
  | nil => rw [List.nil_append, List.append_nil]
  | cons c w ih =>
      rw [List.cons_append, digitRuns, if_pos (hw c List.mem_cons_self),
        ih fun d hd => hw d (List.mem_cons_of_mem c hd), List.append_assoc, List.singleton_append]

/-- The loop finds the components of a numeral. -/
theorem digitRuns_dotted {runs : List Bytes} (hruns : ∀ run ∈ runs, IsRun run) :
    digitRuns [] (dotted runs) = runs := by
  induction runs using dotted.induct with
  | case1 => rfl
  | case2 run =>
      obtain ⟨hne, hdigits⟩ := hruns run List.mem_cons_self
      have hrun := digitRuns_append hdigits [] []
      rw [List.append_nil, List.nil_append, digitRuns, if_neg hne] at hrun
      exact hrun
  | case3 run runs hmore ih =>
      obtain ⟨hne, hdigits⟩ := hruns run List.mem_cons_self
      have hdot : ¬ Decimal.isDigit dot = true := by decide
      rw [dotted, digitRuns_append hdigits, List.nil_append, digitRuns, if_neg hdot, if_neg hne,
        if_neg (by simp), ih fun r hr => hruns r (List.mem_cons_of_mem run hr),
        List.singleton_append]
      exact hmore

theorem trimCopy_of_no_space {value : Bytes} (h : ∀ c ∈ value, isSpace c = false) :
    trimCopy value = value := by
  have hdrop : value.dropWhile isSpace = value := by
    cases value with
    | nil => rfl
    | cons c value => rw [List.dropWhile_cons_of_neg (by simp [h c List.mem_cons_self])]
  rw [trimCopy, hdrop, List.rdropWhile_eq_self_iff]
  intro hne
  rw [h _ (List.getLast_mem hne)]
  decide

/-- What may stand in front of a numeral. -/
def IsVersionPrefix (v : Bytes) : Prop := v = [] ∨ v = [118] ∨ v = [86]

theorem IsVersionPrefix.of_mem {v : Bytes} (hv : IsVersionPrefix v) {c : UInt8} (hc : c ∈ v) :
    c = 118 ∨ c = 86 := by
  rcases hv with rfl | rfl | rfl
  · cases hc
  · exact .inl (List.mem_singleton.mp hc)
  · exact .inr (List.mem_singleton.mp hc)

/-- The components of a numeral are its runs, with or without a `v`. -/
theorem runs_dotted {v : Bytes} {rs : List Bytes} (hv : IsVersionPrefix v)
    (hrs : ∀ run ∈ rs, IsRun run) : runs (v ++ dotted rs) = rs := by
  have hchar : ∀ c ∈ dotted rs, isSpace c = false ∧ c ≠ 118 ∧ c ≠ 86 := by
    intro c hc
    rcases of_mem_dotted hrs hc with rfl | hdigit
    · decide
    · refine ⟨not_space_of_digit (.inr hdigit), ?_, ?_⟩
      · rintro rfl
        exact absurd hdigit (by decide)
      · rintro rfl
        exact absurd hdigit (by decide)
  have htrim : trimCopy (v ++ dotted rs) = v ++ dotted rs := by
    refine trimCopy_of_no_space fun c hc => ?_
    rcases List.mem_append.mp hc with hfirst | hrest
    · rcases hv.of_mem hfirst with rfl | rfl
      · decide
      · decide
    · exact (hchar c hrest).1
  have hnormal : normalizeVersion (v ++ dotted rs) = dotted rs := by
    rw [normalizeVersion, htrim]
    rcases hv with rfl | rfl | rfl
    · rw [List.nil_append, if_neg]
      rintro (hhead | hhead)
      · exact (hchar _ (List.mem_of_head? hhead)).2.1 rfl
      · exact (hchar _ (List.mem_of_head? hhead)).2.2 rfl
    · exact if_pos (.inl rfl)
    · exact if_pos (.inr rfl)
  rw [runs, hnormal, digitRuns_dotted hrs]

/-- On dotted numerals the order is the lexicographic one of the numbers. -/
theorem compareVersions_dotted {l r : List Bytes} (hl : ∀ run ∈ l, IsRun run)
    (hr : ∀ run ∈ r, IsRun run) (hlfit : RunsFit (dotted l)) (hrfit : RunsFit (dotted r)) :
    ∃ x, compareVersions (dotted l) (dotted r) = .ok x ∧
      (x < 0 ↔ toLex (padded 0 (components l)) < toLex (padded 0 (components r))) ∧
      (0 < x ↔ toLex (padded 0 (components r)) < toLex (padded 0 (components l))) ∧
      (x = 0 ↔ padded 0 (components l) = padded 0 (components r)) := by
  refine ⟨_, compareVersions_of_runsFit hlfit hrfit, ?_⟩
  have hruns : ∀ rs : List Bytes, (∀ run ∈ rs, IsRun run) → runs (dotted rs) = rs :=
    fun rs hrs => runs_dotted (.inl rfl) hrs
  rw [hruns l hl, hruns r hr]
  refine ⟨comparePadded_lt_zero_iff, ?_, comparePadded_eq_zero_iff⟩
  rw [← comparePadded_lt_zero_iff, comparePadded_swap]
  omega

/-- `CompareVersions` is a total preorder, and the lexicographic order on numerals. -/
theorem compareVersions_order : IsTotalPreorder RunsFit compareVersions ∧
    ∀ l r : List Bytes, (∀ run ∈ l, IsRun run) → (∀ run ∈ r, IsRun run) →
      RunsFit (dotted l) → RunsFit (dotted r) →
      ∃ x, compareVersions (dotted l) (dotted r) = .ok x ∧
        (x < 0 ↔ toLex (padded 0 (components l)) < toLex (padded 0 (components r))) ∧
        (0 < x ↔ toLex (padded 0 (components r)) < toLex (padded 0 (components l))) ∧
        (x = 0 ↔ padded 0 (components l) = padded 0 (components r)) :=
  ⟨isTotalPreorder_compareVersions, fun _ _ => compareVersions_dotted⟩

theorem value_lt {digits : Bytes} (h : ∀ c ∈ digits, Decimal.isDigit c = true) :
    Decimal.value digits < 10 ^ digits.length := by
  induction digits using List.reverseRecOn with
  | nil => decide
  | append_singleton digits c ih =>
      have hc := Decimal.isDigit_iff.mp (h c (by simp))
      have hrest := ih fun d hd => h d (List.mem_append_left _ hd)
      rw [Decimal.value_append_singleton, List.length_append, List.length_singleton, Nat.pow_succ]
      omega

/-- Nine digits are in the range. -/
theorem runsFit_of_length_le {version : Bytes} (h : version.length ≤ 9) : RunsFit version := by
  intro run hrun hinside
  have hvalue := value_lt hrun.2
  have hpow : 10 ^ run.length ≤ 10 ^ 9 :=
    Nat.pow_le_pow_right (by decide) (hinside.length_le.trans h)
  rw [Fits]
  omega

/-- A version with spaces and a suffix, and the numerals 1.2 and 1.10. -/
theorem compareVersions_example : compareVersions (utf8 " v2.1-rc ") (utf8 " v2.1-rc ") = .ok 0 ∧
    ∃ x, compareVersions (dotted [utf8 "1", utf8 "2"]) (dotted [utf8 "1", utf8 "10"]) = .ok x ∧
      (x < 0 ↔ toLex (padded 0 (components [utf8 "1", utf8 "2"])) <
        toLex (padded 0 (components [utf8 "1", utf8 "10"]))) := by
  refine ⟨compareVersions_order.1.refl _ (runsFit_of_length_le (by decide)), ?_⟩
  obtain ⟨x, hx, hlt, -⟩ := compareVersions_order.2 [utf8 "1", utf8 "2"] [utf8 "1", utf8 "10"]
    (by decide) (by decide) (runsFit_of_length_le (by decide)) (runsFit_of_length_le (by decide))
  exact ⟨x, hx, hlt⟩

end Smile2Unlock.Update
