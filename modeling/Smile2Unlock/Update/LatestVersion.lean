/-
  Smile2Unlock.Update.LatestVersion

  `FetchLatestVersionInfo` (application.cppm): the release description is downloaded, the tag
  is taken out of it (`JsonField`) and compared with the version of the build (`Version`).

  The download is a parameter, and so is the text of an exception of `std::stoi`.  Every
  exception ends the check as a failure, so a tag with a component behind the range of `int`
  is no version for it: `fetchLatestVersionInfo_iff`.
-/

import Smile2Unlock.Update.JsonField
import Smile2Unlock.Update.Version

namespace Smile2Unlock.Update

open Lib Lib.PaddedLex Lib.Escape

-- ============================================================================
-- The function
-- ============================================================================

structure VersionCheckResult where
  success : Bool
  updateAvailable : Bool
  manual : Bool
  currentVersion : Bytes
  remoteVersion : Bytes
  releaseUrl : Bytes
  publishedAt : Bytes
  errorMessage : Bytes
deriving DecidableEq

/-- What the build defines: `kCurrentVersion`, `kLatestReleaseApiUrl` and
    `kReleasesPageUrl`. -/
structure Build where
  currentVersion : Bytes
  latestReleaseApiUrl : Bytes
  releasesPageUrl : Bytes

/-- The definitions of xmake.lua. -/
def xmakeBuild : Build where
  currentVersion := utf8 "v0.0.0"
  latestReleaseApiUrl :=
    utf8 "https://api.github.com/repos/Smile2Unlock/Smile2Unlock_v2/releases/latest"
  releasesPageUrl := utf8 "https://github.com/Smile2Unlock/Smile2Unlock_v2/releases"

def htmlUrl : FieldName := ⟨utf8 "html_url", List.all_eq_true.mp (by decide)⟩

def publishedAt : FieldName := ⟨utf8 "published_at", List.all_eq_true.mp (by decide)⟩

/-- Every `T` becomes a space, and a `Z` at the end ` UTC`. -/
def formatIsoTimestamp (timestamp : Bytes) : Bytes :=
  let timestamp := timestamp.map fun c => if c = 84 then 32 else c
  if timestamp.getLast? = some 90 then timestamp.dropLast ++ utf8 " UTC" else timestamp

/-- `httpGetUtf8` returns the body, or the text of the exception. -/
def fetchLatestVersionInfo (build : Build) (what : StdException → Bytes)
    (httpGetUtf8 : Bytes → Except Bytes Bytes) (manual : Bool) : VersionCheckResult :=
  let result : VersionCheckResult :=
    { success := false, updateAvailable := false, manual, currentVersion := build.currentVersion
      remoteVersion := [], releaseUrl := build.releasesPageUrl, publishedAt := []
      errorMessage := [] }
  match httpGetUtf8 build.latestReleaseApiUrl with
  | .error e => { result with errorMessage := e }
  | .ok response =>
      match extractJsonStringField response tagName with
      | none =>
          { result with errorMessage := utf8 "Release tag was missing from the update response." }
      | some [] =>
          { result with errorMessage := utf8 "Release tag was missing from the update response." }
      | some tag =>
          let result := { result with
            remoteVersion := tag
            releaseUrl := (extractJsonStringField response htmlUrl).getD result.releaseUrl
            publishedAt :=
              ((extractJsonStringField response publishedAt).map formatIsoTimestamp).getD [] }
          match compareVersions result.currentVersion result.remoteVersion with
          | .error e => { result with errorMessage := what e }
          | .ok order => { result with updateAvailable := order < 0, success := true }

-- ============================================================================
-- Release tags
-- ============================================================================

/-- A dotted decimal numeral with the given components, with or without a `v`. -/
def IsTag (tag : Bytes) (rs : List Bytes) : Prop :=
  rs ≠ [] ∧ (∀ run ∈ rs, IsRun run) ∧ ∃ v, IsVersionPrefix v ∧ tag = v ++ dotted rs

/-- The check succeeds, and reports an update exactly if the tag is greater than the current
    version. -/
def ReportsUpdate (result : VersionCheckResult) (current tag : List Bytes) : Prop :=
  result.success = true ∧
    (result.updateAvailable = true ↔
      toLex (padded 0 (components current)) < toLex (padded 0 (components tag)))

theorem IsTag.runs_eq {tag : Bytes} {rs : List Bytes} (h : IsTag tag rs) : runs tag = rs := by
  obtain ⟨-, hrs, v, hv, rfl⟩ := h
  exact runs_dotted hv hrs

theorem IsTag.no_backslash {tag : Bytes} {rs : List Bytes} (h : IsTag tag rs) : backslash ∉ tag := by
  obtain ⟨-, hrs, v, hv, rfl⟩ := h
  intro hc
  rcases List.mem_append.mp hc with hfirst | hrest
  · rcases hv.of_mem hfirst with hv | hv
    · exact absurd hv (by decide)
    · exact absurd hv (by decide)
  · rcases of_mem_dotted hrs hrest with hdot | hdigit
    · exact absurd hdot (by decide)
    · exact absurd hdigit (by decide)

theorem IsTag.ne_nil {tag : Bytes} {rs : List Bytes} (h : IsTag tag rs) : tag ≠ [] := by
  rintro rfl
  exact h.1 (h.runs_eq ▸ rfl)

variable {build : Build} {what : StdException → Bytes}
  {httpGetUtf8 : Bytes → Except Bytes Bytes} {manual : Bool} {response tag : Bytes}

/-- With a tag in the response, the comparison decides. -/
theorem fetchLatestVersionInfo_of_field (hhttp : httpGetUtf8 build.latestReleaseApiUrl = .ok response)
    (hfield : FirstField tagName response tag) (hbackslash : backslash ∉ tag) (hne : tag ≠ []) :
    (fetchLatestVersionInfo build what httpGetUtf8 manual).success =
        (compareVersions build.currentVersion tag).isOk ∧
      ((fetchLatestVersionInfo build what httpGetUtf8 manual).updateAvailable = true ↔
        ∃ order, compareVersions build.currentVersion tag = .ok order ∧ order < 0) := by
  have htag := extractJsonStringField_of_not_mem hfield hbackslash
  obtain ⟨c, rest, rfl⟩ := List.exists_cons_of_ne_nil hne
  rw [fetchLatestVersionInfo, hhttp]
  simp only [htag]
  cases hcompare : compareVersions build.currentVersion (c :: rest) with
  | error e => simp [Except.isOk, Except.toBool]
  | ok order => simp [Except.isOk, Except.toBool]

/-- A tag that is a numeral is reported as it should be exactly if all components, those of
    the current version as well, are in the range of `int`. -/
theorem fetchLatestVersionInfo_iff {current rs : List Bytes}
    (hhttp : httpGetUtf8 build.latestReleaseApiUrl = .ok response)
    (hfield : FirstField tagName response tag) (htag : IsTag tag rs)
    (hcurrent : IsTag build.currentVersion current) :
    ReportsUpdate (fetchLatestVersionInfo build what httpGetUtf8 manual) current rs ↔
      (∀ run ∈ current, Fits run) ∧ ∀ run ∈ rs, Fits run := by
  obtain ⟨hsuccess, hupdate⟩ := @fetchLatestVersionInfo_of_field build what httpGetUtf8 manual
    response tag hhttp hfield htag.no_backslash htag.ne_nil
  have hparses : Parses build.currentVersion ∧ Parses tag ↔
      (∀ run ∈ current, Fits run) ∧ ∀ run ∈ rs, Fits run := by
    simp only [Parses, htag.runs_eq, hcurrent.runs_eq]
  rw [ReportsUpdate, hsuccess, hupdate, compareVersions_eq, ← hparses]
  by_cases hfits : Parses build.currentVersion ∧ Parses tag
  · rw [if_pos hfits, htag.runs_eq, hcurrent.runs_eq, ← comparePadded_lt_zero_iff]
    refine iff_of_true ⟨rfl, ?_⟩ hfits
    simp
  · rw [if_neg hfits]
    exact iff_of_false (fun h => absurd h.1 (by decide)) hfits

theorem jsonEscaped_self {s : Bytes} (h : ∀ c ∈ s, IsPlain c) : JsonEscaped s s := by
  induction s with
  | nil => exact .nil
  | cons c s ih =>
      exact .plain (h c List.mem_cons_self) (ih fun d hd => h d (List.mem_cons_of_mem c hd))

/-- A response with nothing but a tag. -/
def tagResponse (tag : Bytes) : Bytes :=
  123 :: (quoted tagName ++ colon :: quote :: (tag ++ quote :: [125]))

/-- A server with this response. -/
def serve (tag : Bytes) : Bytes → Except Bytes Bytes := fun _ => .ok (tagResponse tag)

theorem firstField_tagResponse {tag : Bytes} (h : ∀ c ∈ tag, IsPlain c) :
    FirstField tagName (tagResponse tag) tag := by
  refine ⟨[123], [], [], tag, [125], rfl, ?_, by simp, by simp, jsonEscaped_self h⟩
  intro i hi hprefix
  rw [List.length_singleton, Nat.lt_one_iff] at hi
  subst hi
  exact absurd (List.cons_prefix_cons.mp hprefix).1 (by decide)

/-- The tag v1.2 is newer than the version of the build. -/
theorem fetchLatestVersionInfo_v1 : ReportsUpdate
    (fetchLatestVersionInfo xmakeBuild (fun _ => []) (serve (utf8 "v1.2")) false)
    [utf8 "0", utf8 "0", utf8 "0"] [utf8 "1", utf8 "2"] := by
  have htag : IsTag (utf8 "v1.2") [utf8 "1", utf8 "2"] :=
    ⟨by decide, by decide, [118], .inr (.inl rfl), by decide⟩
  have hcurrent : IsTag xmakeBuild.currentVersion [utf8 "0", utf8 "0", utf8 "0"] :=
    ⟨by decide, by decide, [118], .inr (.inl rfl), by decide⟩
  have hfield := @firstField_tagResponse (utf8 "v1.2") (List.all_iff_forall_prop.mp (by decide))
  exact (@fetchLatestVersionInfo_iff xmakeBuild (fun _ => []) (serve (utf8 "v1.2")) false _ _ _ _ rfl
    hfield htag hcurrent).mpr ⟨by decide, by decide⟩

/-- A tag with the time of the release is no version for the check. -/
theorem fetchLatestVersionInfo_fails :
    ¬ ∀ (what : StdException → Bytes) (httpGetUtf8 : Bytes → Except Bytes Bytes) (manual : Bool)
      (response tag : Bytes) (current rs : List Bytes),
      httpGetUtf8 xmakeBuild.latestReleaseApiUrl = .ok response →
      FirstField tagName response tag → IsTag tag rs → IsTag xmakeBuild.currentVersion current →
      ReportsUpdate (fetchLatestVersionInfo xmakeBuild what httpGetUtf8 manual) current rs := by
  intro h
  have htag : IsTag (utf8 "v20241231235959") [utf8 "20241231235959"] :=
    ⟨by decide, by decide, [118], .inr (.inl rfl), by decide⟩
  have hcurrent : IsTag xmakeBuild.currentVersion [utf8 "0", utf8 "0", utf8 "0"] :=
    ⟨by decide, by decide, [118], .inr (.inl rfl), by decide⟩
  have hfield := @firstField_tagResponse (utf8 "v20241231235959")
    (List.all_iff_forall_prop.mp (by decide))
  have hreports := h (fun _ => []) (serve (utf8 "v20241231235959")) false _ _ _ _ rfl hfield htag
    hcurrent
  have hsuccess := (@fetchLatestVersionInfo_of_field xmakeBuild (fun _ => [])
    (serve (utf8 "v20241231235959")) false _ _ rfl hfield htag.no_backslash htag.ne_nil).1
  have hlarge : ¬ (Parses xmakeBuild.currentVersion ∧ Parses (utf8 "v20241231235959")) := by
    rintro ⟨-, hparses⟩
    rw [Parses, htag.runs_eq] at hparses
    exact absurd (hparses _ List.mem_cons_self) (by decide)
  rw [compareVersions_eq, if_neg hlarge, hreports.1] at hsuccess
  cases hsuccess

end Smile2Unlock.Update
