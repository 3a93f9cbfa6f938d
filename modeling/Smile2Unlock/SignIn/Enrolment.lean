/-
  Smile2Unlock.SignIn.Enrolment

  A feature on its two ways into the service: through the shared memory into the table of
  faces (`CaptureAndAddFace`), and as a probe through a status packet into
  `compare_features_on_su`.

  The ways have limits of their own.  The shared memory takes 8192 floats, the packet
  6143 and the comparison 4096, so `enrolled_passesLogin_iff` holds with the last one.
-/

import Smile2Unlock.FaceRecognizer.SharedFrame
import Smile2Unlock.Service.Backend
import Smile2Unlock.Service.CompareFeatures

namespace Smile2Unlock.SignIn

open Smile2Unlock FaceRecognizer Service

-- ============================================================================
-- Enrolment
-- ============================================================================

/-- `feature_hex`. -/
def featureHex (feature : List Float32) : Bytes := encodeBytesToHex (floatBytes feature)

/-- `CaptureFrameAndFeature`: the feature, or the error message. -/
def captureFrameAndFeature (captured : CapturedPayload) : Except Bytes Bytes :=
  if captured.ok then .ok captured.feature else .error captured.errorMessage

/-- `CaptureAndAddFace` for a frame from which FaceRecognizer extracts a feature. -/
def captureAndAddFace (image : SeetaImageData) (feature : List Float32)
    (memory : PacketMemory kSharedFrameMappingSize) (db : Database) (now : Bytes) (userId : Int)
    (remark : Bytes) : BackendService.Reply :=
  BackendService.captureAndAddFace db now userId remark
    (captureFrameAndFeature (captureImage image (.feature (floatBytes feature)) true memory).2)

theorem kHex_ne_zero : ∀ n < 16, kHex.getD n 0 ≠ 0 := by
  have hall : ∀ m : Fin 16, kHex.getD m 0 ≠ 0 := by decide
  exact fun n hn => hall ⟨n, hn⟩

/-- Hexadecimal text has no NUL, so SQLite keeps all of it. -/
theorem zero_not_mem_featureHex (feature : List Float32) : (0 : UInt8) ∉ featureHex feature := by
  intro hmem
  obtain ⟨b, -, hdigit⟩ := List.mem_flatMap.mp hmem
  have hb : b.toNat < 256 := b.toNat_lt
  rcases List.mem_cons.mp hdigit with hzero | hdigit
  · exact kHex_ne_zero (b.toNat / 16) (by omega) hzero.symm
  · exact kHex_ne_zero (b.toNat % 16) (by omega) (List.mem_singleton.mp hdigit).symm

@[simp] theorem length_featureHex (feature : List Float32) :
    (featureHex feature).length = 8 * feature.length := by
  rw [featureHex, length_encodeBytesToHex, length_floatBytes]
  omega

/-- The face that `AddFace` appends. -/
theorem getUserFaces_addFace {db db' : Database} {now : Bytes} {userId : Int} {face : FaceData}
    (h : db.addFace now userId face = some db') :
    ∃ stored, db'.getUserFaces userId = db.getUserFaces userId ++ [stored] ∧
      stored.feature = cString face.feature := by
  rw [Database.addFace] at h
  split at h
  · cases h
    refine ⟨⟨db.nextFaceId, cString face.feature, cString face.imagePath, cString face.remark,
      cString now⟩, ?_, rfl⟩
    simp only [Database.getUserFaces, List.filter_append, List.map_append]
    congr 1
    rw [List.filter_cons_of_pos (by simp)]
    rfl
  · cases h

/-- An enrolment that succeeds has stored the feature as it was extracted. -/
theorem stored_of_captureAndAddFace {image : SeetaImageData} {feature : List Float32}
    {memory : PacketMemory kSharedFrameMappingSize} {db : Database} {now : Bytes} {userId : Int}
    {remark : Bytes}
    (h : (captureAndAddFace image feature memory db now userId remark).ok = true) :
    ∃ face, (captureAndAddFace image feature memory db now userId remark).database.getUserFaces
        userId = db.getUserFaces userId ++ [face] ∧ face.feature = featureHex feature := by
  cases huser : db.getUserById userId with
  | none =>
      simp only [captureAndAddFace, BackendService.captureAndAddFace, huser] at h
      cases h
  | some user =>
      by_cases hok : (captureImage image (.feature (floatBytes feature)) true memory).2.ok = true
      · have hfeature := (feature_of_captureImage_ok hok).1
        simp only [captureAndAddFace, BackendService.captureAndAddFace, captureFrameAndFeature,
          huser, if_pos hok, hfeature, BackendService.addFace] at h ⊢
        by_cases hnil : encodeBytesToHex (floatBytes feature) = []
        · rw [if_pos hnil] at h
          cases h
        · rw [if_neg hnil] at h ⊢
          cases hadd : db.addFace now userId
              ⟨0, encodeBytesToHex (floatBytes feature), [], remark, []⟩ with
          | none =>
              rw [hadd] at h
              cases h
          | some db' =>
              obtain ⟨stored, hfaces, hstored⟩ := getUserFaces_addFace hadd
              refine ⟨stored, hfaces, ?_⟩
              rw [hstored]
              exact cString_eq_self (zero_not_mem_featureHex feature)
      · simp only [captureAndAddFace, BackendService.captureAndAddFace, captureFrameAndFeature,
          huser, if_neg hok] at h
        cases h

/-- What enrolment asks for: a frame and a feature that fit, and a user. -/
theorem captureAndAddFace_ok {image : SeetaImageData} {feature : List Float32} {db : Database}
    {userId : Int} (hwidth : 0 < image.width) (hheight : 0 < image.height)
    (hchannels : 0 < image.channels)
    (hproduct : image.width.toInt * image.height.toInt * image.channels.toInt ≤ 2 ^ 31 - 1)
    (hsize : image.data.length ≤ maxImageBytes) (hne : feature ≠ [])
    (hfits : 8 * feature.length ≤ maxFeatureBytes) (huser : userId ∈ db.users.map (·.id))
    (memory : PacketMemory kSharedFrameMappingSize) (now remark : Bytes) :
    (captureAndAddFace image feature memory db now userId remark).ok = true := by
  have hhex : featureHex feature ≠ [] ∧ (featureHex feature).length ≤ maxFeatureBytes := by
    rw [← List.length_pos_iff, length_featureHex]
    exact ⟨Nat.mul_pos (by decide) (List.length_pos_iff.mpr hne), hfits⟩
  obtain ⟨errorMessage, hpayload⟩ := captureImage_payload hwidth hheight hchannels hproduct
    (.feature (floatBytes feature)) true memory
  rw [if_pos hsize, if_neg (by simp), Extraction.hex, ← featureHex, if_pos hhex] at hpayload
  obtain ⟨row, hrow, hid⟩ := List.mem_map.mp huser
  obtain ⟨user, hget⟩ : ∃ user, db.getUserById userId = some user := by
    rw [← Option.isSome_iff_exists, Database.getUserById, Option.isSome_map, List.find?_isSome]
    exact ⟨row, hrow, by simpa using hid⟩
  simp only [captureAndAddFace, BackendService.captureAndAddFace, captureFrameAndFeature, hpayload,
    hget, if_true, BackendService.addFace, if_neg hhex.1, Database.addFace, if_pos huser]

-- ============================================================================
-- Login
-- ============================================================================

/-- The feature as a probe: it is sent, delivered unchanged among any other datagrams,
    and matches the enrolled one. -/
def PassesLogin (socket : DatagramSocket) (feature : List Float32) (enrolled : Bytes) : Prop :=
  ∀ timestamp, ∃ datagram,
    UdpSender.sendStatus .success [] 0 (featureHex feature) timestamp = some datagram ∧
    (∀ packet before beyond after,
      StatusReceiver.receiveLoop socket packet (before ++ (datagram, beyond) :: after) =
        StatusReceiver.receiveLoop socket packet before ++
          ⟨.success, [], 0, featureHex feature⟩ :: StatusReceiver.receiveLoop socket packet after) ∧
    (compareFeaturesOnSu (featureHex feature) enrolled).isSome

/-- A probe of 128 to 4096 floats passes. -/
theorem passesLogin_of_le {socket : DatagramSocket} (hsocket : socket.Documented)
    {feature : List Float32} (hfinite : ∀ x ∈ feature, x.isFinite = true)
    (hmin : minFeatureDim ≤ feature.length) (hmax : feature.length ≤ maxFeatureDim)
    (hnorm : epsilon < squaredNorm feature) :
    PassesLogin socket feature (featureHex feature) := by
  intro timestamp
  have hfits : (featureHex feature).length < udpStatusMaxFeatureBytes := by
    rw [length_featureHex, udpStatusMaxFeatureBytes]
    rw [maxFeatureDim] at hmax
    omega
  obtain ⟨datagram, hsent, -, harrives⟩ :=
    (statusArrives hsocket .success [] 0 (featureHex feature) timestamp).1 hfits
  exact ⟨datagram, hsent, harrives, compareFeaturesOnSu_self hfinite hmin hmax hnorm⟩

/-- One that is longer does not, whatever is enrolled. -/
theorem not_passesLogin_of_lt {feature : List Float32} (hlong : maxFeatureDim < feature.length)
    (socket : DatagramSocket) (enrolled : Bytes) : ¬ PassesLogin socket feature enrolled := by
  intro hpasses
  obtain ⟨datagram, -, -, hmatch⟩ := hpasses 0
  rw [featureHex, compareFeaturesOnSu_of_long hlong] at hmatch
  cases hmatch

/-- A feature that was enrolled passes as a probe exactly if it has at most
    `MAX_FEATURE_DIM` floats. -/
theorem enrolled_passesLogin_iff (socket : DatagramSocket) (hsocket : socket.Documented)
    (image : SeetaImageData) (memory : PacketMemory kSharedFrameMappingSize) (db : Database)
    (now : Bytes) (userId : Int) (remark : Bytes) (feature : List Float32)
    (hfinite : ∀ x ∈ feature, x.isFinite = true) (hmin : minFeatureDim ≤ feature.length)
    (hnorm : epsilon < squaredNorm feature)
    (henrol : (captureAndAddFace image feature memory db now userId remark).ok = true) :
    ∃ face, (captureAndAddFace image feature memory db now userId remark).database.getUserFaces
        userId = db.getUserFaces userId ++ [face] ∧
      (PassesLogin socket feature face.feature ↔ feature.length ≤ maxFeatureDim) := by
  obtain ⟨face, hfaces, hstored⟩ := stored_of_captureAndAddFace henrol
  refine ⟨face, hfaces, fun hpasses => ?_, fun hmax => ?_⟩
  · by_contra hlong
    exact not_passesLogin_of_lt (Nat.lt_of_not_le hlong) socket face.feature hpasses
  · rw [hstored]
    exact passesLogin_of_le hsocket hfinite hmin hmax hnorm

/-- One float of 1.0 before zeros, a feature of norm one, and a table with one user. -/
def unitFeature (zeros : Nat) : List Float32 := 1.0 :: List.replicate zeros 0.0

@[simp] theorem length_unitFeature (zeros : Nat) : (unitFeature zeros).length = zeros + 1 := by
  rw [unitFeature, List.length_cons, List.length_replicate]

def oneUser : Database where
  users := [⟨1, bindText (utf8 "user"), none, none⟩]
  faces := []
  idUnique := List.nodup_singleton _
  usernameUnique := List.nodup_singleton _

theorem isFinite_of_mem_unitFeature {zeros : Nat} {x : Float32} (h : x ∈ unitFeature zeros) :
    x.isFinite = true := by
  rcases List.mem_cons.mp h with rfl | hzero
  · decide
  · rw [(List.mem_replicate.mp hzero).2]
    decide

theorem squaredNorm_unitFeature (zeros : Nat) : squaredNorm (unitFeature zeros) = 1.0 := by
  have hone : addSquare 0.0 1.0 = 1.0 := by decide
  have hzero : addSquare 1.0 0.0 = 1.0 := by decide
  rw [squaredNorm, unitFeature, List.foldl_cons, hone]
  induction zeros with
  | zero => rfl
  | succ zeros ih => rw [List.replicate_succ, List.foldl_cons, hzero, ih]

theorem captureAndAddFace_unitFeature {zeros : Nat} (h : zeros < 8192) :
    (captureAndAddFace greyPixel (unitFeature zeros) zeroMapping oneUser [] 1 []).ok = true := by
  have hfits : 8 * (unitFeature zeros).length ≤ maxFeatureBytes := by
    rw [length_unitFeature, maxFeatureBytes]
    omega
  exact captureAndAddFace_ok (by decide) (by decide) (by decide) (by decide) (by decide)
    (List.cons_ne_nil _ _) hfits (by decide) zeroMapping [] []

theorem enrolled_passesLogin_unitFeature :
    winsock.Documented ∧ (∀ x ∈ unitFeature 127, x.isFinite = true) ∧
    minFeatureDim ≤ (unitFeature 127).length ∧ epsilon < squaredNorm (unitFeature 127) ∧
    (captureAndAddFace greyPixel (unitFeature 127) zeroMapping oneUser [] 1 []).ok = true ∧
    ∃ face, (captureAndAddFace greyPixel (unitFeature 127) zeroMapping oneUser [] 1
        []).database.getUserFaces 1 = oneUser.getUserFaces 1 ++ [face] ∧
      (PassesLogin winsock (unitFeature 127) face.feature ↔
        (unitFeature 127).length ≤ maxFeatureDim) := by
  have hmin : minFeatureDim ≤ (unitFeature 127).length := by
    rw [length_unitFeature]
    decide
  have hnorm : epsilon < squaredNorm (unitFeature 127) := by
    rw [squaredNorm_unitFeature]
    decide
  exact ⟨winsock_documented, fun _ => isFinite_of_mem_unitFeature, hmin, hnorm,
    captureAndAddFace_unitFeature (by decide),
    enrolled_passesLogin_iff winsock winsock_documented greyPixel zeroMapping oneUser [] 1 []
      (unitFeature 127) (fun _ => isFinite_of_mem_unitFeature) hmin hnorm
      (captureAndAddFace_unitFeature (by decide))⟩

/-- A feature of 4097 floats is enrolled and matches nothing, not even itself. -/
theorem enrolled_matchesNothing_4097 :
    (∀ x ∈ unitFeature 4096, x.isFinite = true) ∧ minFeatureDim ≤ (unitFeature 4096).length ∧
    epsilon < squaredNorm (unitFeature 4096) ∧
    (captureAndAddFace greyPixel (unitFeature 4096) zeroMapping oneUser [] 1 []).ok = true ∧
    ∀ enrolled, compareFeaturesOnSu (featureHex (unitFeature 4096)) enrolled = none ∧
      ¬ PassesLogin winsock (unitFeature 4096) enrolled := by
  have hlong : maxFeatureDim < (unitFeature 4096).length := by
    rw [length_unitFeature]
    decide
  refine ⟨fun _ => isFinite_of_mem_unitFeature, by rw [length_unitFeature]; decide, ?_,
    captureAndAddFace_unitFeature (by decide), fun enrolled => ?_⟩
  · rw [squaredNorm_unitFeature]
    decide
  · exact ⟨compareFeaturesOnSu_of_long hlong enrolled, not_passesLogin_of_lt hlong winsock enrolled⟩

end Smile2Unlock.SignIn
