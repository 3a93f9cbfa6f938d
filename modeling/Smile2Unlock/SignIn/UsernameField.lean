/-
  Smile2Unlock.SignIn.UsernameField

  What the 64 bytes of a username field determine.

  All three receivers make a `std::string` of the field's address, which reads on until
  a NUL wherever it lies.  A field with a NUL determines the name, and the read stays in
  it (`readText_of_zero_mem`); a field without one lets the fields behind it into the
  name, and nothing in the packet need end it.
-/

import Smile2Unlock.Common.Datagram
import Smile2Unlock.CredentialProvider.StatusRegister

namespace Smile2Unlock.SignIn

open Smile2Unlock Lib CredentialProvider

-- ============================================================================
-- Reading a text in memory
-- ============================================================================

/-- The text at an offset, and the end of the bytes that are touched to find it: the
    terminator is one of them. -/
def textAt (offset : Nat) (memory : Bytes) : Bytes := cString (memory.drop offset)
def textEnd (offset : Nat) (memory : Bytes) : Nat := offset + (textAt offset memory).length + 1

/-- The C string in a byte string with a NUL ends at its first one. -/
theorem exists_cString {bytes : Bytes} (h : (0 : UInt8) ∈ bytes) :
    ∃ rest, bytes = cString bytes ++ 0 :: rest := by
  induction bytes with
  | nil => cases h
  | cons b bytes ih =>
      by_cases hb : b = 0
      · exact ⟨bytes, by simp [cString, hb]⟩
      · obtain ⟨rest, hrest⟩ := ih ((List.mem_cons.mp h).resolve_left fun h0 => hb h0.symm)
        refine ⟨rest, ?_⟩
        have hcons : cString (b :: bytes) = b :: cString bytes := by simp [cString, hb]
        rw [hcons, List.cons_append, ← hrest]

/-- A NUL in the field ends the text. -/
theorem readText_of_zero_mem {n : Nat} {field : CharField n} (h : (0 : UInt8) ∈ field.bytes)
    (following : Bytes) : field.readText following = cString field.bytes := by
  obtain ⟨rest, hrest⟩ := exists_cString h
  rw [CharField.readText_of_zero hrest following, cString_cString]

theorem length_cString_lt {n : Nat} {field : CharField n} (h : (0 : UInt8) ∈ field.bytes) :
    (cString field.bytes).length < n := by
  obtain ⟨rest, hrest⟩ := exists_cString h
  have hlength := congrArg List.length hrest
  rw [List.length_append, List.length_cons, field.length_eq] at hlength
  omega

/-- Without one it goes on with the bytes behind the field. -/
theorem readText_of_zero_not_mem {n : Nat} {field : CharField n} (h : (0 : UInt8) ∉ field.bytes)
    (following : Bytes) : field.readText following = field.bytes ++ cString following := by
  rw [CharField.readText, cString, List.takeWhile_append_of_pos]
  · rfl
  · intro b hb
    simpa using fun hb0 : b = 0 => h (hb0 ▸ hb)

-- ============================================================================
-- The field in the packets
-- ============================================================================

/-- The name of a status packet is the text at offset 20 of the receiver's memory, that
    of a request the text at offset 12. -/
theorem usernameText_eq_textAt (p : UdpStatusPacket) (beyond : Bytes) :
    p.usernameText beyond = textAt 20 (p.toBytes ++ beyond) := by
  have hfront : p.toBytes ++ beyond = (leBytes 4 p.magicNumber.toNat ++ (leBytes 4 p.version.toNat ++
      (leBytes 4 p.statusCode.toUInt32.toNat ++ (leBytes 4 p.sessionId.toNat ++
        leBytes 4 p.featureBytes.toNat)))) ++ (p.username.bytes ++
          (p.feature.bytes ++ leBytes 8 p.timestamp.toNat ++ beyond)) := by
    simp only [UdpStatusPacket.toBytes, List.append_assoc]
  rw [UdpStatusPacket.usernameText, CharField.readText, textAt, hfront,
    List.drop_left' (by simp only [List.length_append, length_leBytes])]

theorem hintText_eq_textAt (p : UdpAuthRequestPacket) (beyond : Bytes) :
    p.usernameHint.readText (leBytes 8 p.timestamp.toNat ++ leBytes 4 p.sessionId.toNat ++ beyond) =
      textAt 12 (p.toBytes ++ beyond) := by
  have hfront : p.toBytes ++ beyond = (leBytes 4 p.magicNumber.toNat ++ (leBytes 4 p.version.toNat ++
      leBytes 4 p.requestType.toUInt32.toNat)) ++ (p.usernameHint.bytes ++
        (leBytes 8 p.timestamp.toNat ++ leBytes 4 p.sessionId.toNat ++ beyond)) := by
    simp only [UdpAuthRequestPacket.toBytes, List.append_assoc]
  rw [CharField.readText, textAt, hfront,
    List.drop_left' (by simp only [List.length_append, length_leBytes])]

-- ============================================================================
-- What is determined
-- ============================================================================

/-- Any two status packets with this field are delivered with one name, and the read of
    it stays in the packet. -/
def StatusNameDetermined (field : CharField 64) : Prop :=
  ∀ p p' beyond beyond' d d', p.username = field → p'.username = field →
    statusReceiver p beyond = some d → statusReceiver p' beyond' = some d' →
    d.username = d'.username ∧ textEnd 20 (p.toBytes ++ beyond) ≤ sizeofUdpStatusPacket

/-- The same for `AuthRequestReceiver`. -/
def HintDetermined (field : CharField 64) : Prop :=
  ∀ p p' beyond beyond' d d', p.usernameHint = field → p'.usernameHint = field →
    authRequestReceiver p beyond = some d → authRequestReceiver p' beyond' = some d' →
    d.usernameHint = d'.usernameHint ∧
      textEnd 12 (p.toBytes ++ beyond) ≤ sizeofUdpAuthRequestPacket

/-- The same for `UdpReceiver`, for any name already in the register. -/
def RegisterNameDetermined (field : CharField 64) : Prop :=
  ∀ (register : StatusRegister) (p p' : UdpStatusPacket) (beyond beyond' : Bytes) (tick tick' : Nat),
    p.username = field → p'.username = field →
    p.magicNumber = magicNumber ∧ p.version = protocolVersion →
    p'.magicNumber = magicNumber ∧ p'.version = protocolVersion →
    (register.receive p beyond tick).recognizedUsername =
        (register.receive p' beyond' tick').recognizedUsername ∧
      textEnd 20 (p.toBytes ++ beyond) ≤ sizeofUdpStatusPacket

/-- Two packets of the service with a given field: an empty feature, and one that begins
    with an `x`. -/
def plainPacket (field : CharField 64) : UdpStatusPacket :=
  { statusPacket .idle [] 0 [] nil_fits_feature 0 with username := field }

def featurePacket (field : CharField 64) : UdpStatusPacket :=
  { statusPacket .idle [] 0 (utf8 "x") (by decide) 0 with username := field }

theorem statusReceiver_username {p : UdpStatusPacket} {beyond : Bytes} {d : StatusDelivery}
    (h : statusReceiver p beyond = some d) : d.username = p.usernameText beyond := by
  rw [statusReceiver] at h
  split at h
  · cases h
  · obtain rfl := Option.some.inj h
    rfl

theorem textEnd_status {p : UdpStatusPacket} (h : (0 : UInt8) ∈ p.username.bytes)
    (beyond : Bytes) : textEnd 20 (p.toBytes ++ beyond) ≤ sizeofUdpStatusPacket := by
  have hlength := length_cString_lt h
  rw [textEnd, ← usernameText_eq_textAt, UdpStatusPacket.usernameText, readText_of_zero_mem h,
    sizeofUdpStatusPacket]
  omega

theorem cString_cons_ne_nil {b : UInt8} (h : b ≠ 0) (rest : Bytes) : cString (b :: rest) ≠ [] := by
  simp [cString, h]

/-- Without a NUL the feature is read as a part of the name. -/
theorem usernameText_packets_ne {field : CharField 64} (h : (0 : UInt8) ∉ field.bytes) :
    (plainPacket field).usernameText [] ≠ (featurePacket field).usernameText [] := by
  have hplain : (plainPacket field).feature.bytes = 0 :: List.replicate 49151 0 := by
    show ([] : Bytes) ++ List.replicate (udpStatusMaxFeatureBytes - 0) 0 = _
    rw [List.nil_append, show udpStatusMaxFeatureBytes - 0 = 49151 + 1 by decide,
      List.replicate_succ]
  have hfeature : (featurePacket field).feature.bytes = 120 :: List.replicate 49151 0 := by
    show utf8 "x" ++ List.replicate (udpStatusMaxFeatureBytes - 1) 0 = _
    rw [show udpStatusMaxFeatureBytes - 1 = 49151 by decide, show utf8 "x" = [120] by decide,
      List.singleton_append]
  intro heq
  rw [UdpStatusPacket.usernameText, UdpStatusPacket.usernameText, hplain, hfeature] at heq
  rw [show (plainPacket field).username = field from rfl,
    show (featurePacket field).username = field from rfl, readText_of_zero_not_mem h,
    readText_of_zero_not_mem h] at heq
  exact cString_cons_ne_nil (b := 120) (by decide) _ (List.append_cancel_left heq).symm

theorem statusNameDetermined_iff (field : CharField 64) :
    StatusNameDetermined field ↔ (0 : UInt8) ∈ field.bytes := by
  constructor
  · intro hdetermined
    by_contra hzero
    exact usernameText_packets_ne hzero (hdetermined (plainPacket field) (featurePacket field) [] []
      _ _ rfl rfl rfl rfl).1
  · rintro hzero p p' beyond beyond' d d' rfl hp' hd hd'
    refine ⟨?_, textEnd_status hzero beyond⟩
    rw [statusReceiver_username hd, statusReceiver_username hd', UdpStatusPacket.usernameText,
      UdpStatusPacket.usernameText, hp', readText_of_zero_mem hzero, readText_of_zero_mem hzero]

/-- Two requests with a given field, sent at different times. -/
def timedPacket (field : CharField 64) (timestamp : UInt64) : UdpAuthRequestPacket :=
  { sendRequest .queryStatus [] 0 timestamp with usernameHint := field }

theorem authRequestReceiver_hint {p : UdpAuthRequestPacket} {beyond : Bytes}
    {d : AuthRequestDelivery} (h : authRequestReceiver p beyond = some d) :
    d.usernameHint = p.usernameHint.readText
      (leBytes 8 p.timestamp.toNat ++ leBytes 4 p.sessionId.toNat ++ beyond) := by
  rw [authRequestReceiver] at h
  split at h
  · cases h
  · obtain rfl := Option.some.inj h
    rfl

/-- Without a NUL the timestamp is read as a part of the hint. -/
theorem hintDetermined_iff (field : CharField 64) :
    HintDetermined field ↔ (0 : UInt8) ∈ field.bytes := by
  constructor
  · intro hdetermined
    by_contra hzero
    have heq := (hdetermined (timedPacket field 0) (timedPacket field 120) [] [] _ _ rfl rfl rfl
      rfl).1
    dsimp only at heq
    rw [show (timedPacket field 0).usernameHint = field from rfl,
      show (timedPacket field 120).usernameHint = field from rfl, readText_of_zero_not_mem hzero,
      readText_of_zero_not_mem hzero] at heq
    exact cString_cons_ne_nil (b := 120) (by decide) _ (List.append_cancel_left heq).symm
  · rintro hzero p p' beyond beyond' d d' rfl hp' hd hd'
    have hlength := length_cString_lt hzero
    refine ⟨?_, ?_⟩
    · rw [authRequestReceiver_hint hd, authRequestReceiver_hint hd', hp',
        readText_of_zero_mem hzero, readText_of_zero_mem hzero]
    · rw [textEnd, ← hintText_eq_textAt, readText_of_zero_mem hzero, sizeofUdpAuthRequestPacket]
      omega

/-- The register takes the name of a valid packet unless the field is empty. -/
theorem receive_recognizedUsername {register : StatusRegister} {p : UdpStatusPacket}
    (h : p.magicNumber = magicNumber ∧ p.version = protocolVersion) (beyond : Bytes) (tick : Nat) :
    (register.receive p beyond tick).recognizedUsername =
      if p.username.bytes.head? ≠ some 0 then p.usernameText beyond
      else register.recognizedUsername := by
  rw [StatusRegister.receive, if_neg (by simp [h])]

theorem registerNameDetermined_iff (field : CharField 64) :
    RegisterNameDetermined field ↔ (0 : UInt8) ∈ field.bytes := by
  constructor
  · intro hdetermined
    by_contra hzero
    have heq := (hdetermined .initial (plainPacket field) (featurePacket field) [] [] 0 0 rfl rfl
      ⟨rfl, rfl⟩ ⟨rfl, rfl⟩).1
    have hfirst : field.bytes.head? ≠ some 0 := by
      intro hhead
      exact hzero (List.mem_of_head? hhead)
    rw [receive_recognizedUsername ⟨rfl, rfl⟩, receive_recognizedUsername ⟨rfl, rfl⟩,
      if_pos (by exact hfirst), if_pos (by exact hfirst)] at heq
    exact usernameText_packets_ne hzero heq
  · rintro hzero register p p' beyond beyond' tick tick' rfl hp' hvalid hvalid'
    refine ⟨?_, textEnd_status hzero beyond⟩
    rw [receive_recognizedUsername hvalid, receive_recognizedUsername hvalid',
      UdpStatusPacket.usernameText, UdpStatusPacket.usernameText, hp', readText_of_zero_mem hzero,
      readText_of_zero_mem hzero]

/-- The 64 bytes determine the delivered name, and the read of it stays in the packet,
    exactly when one of them is a NUL. -/
theorem nameDetermined_iff (field : CharField 64) :
    (StatusNameDetermined field ↔ (0 : UInt8) ∈ field.bytes) ∧
    (HintDetermined field ↔ (0 : UInt8) ∈ field.bytes) ∧
    (RegisterNameDetermined field ↔ (0 : UInt8) ∈ field.bytes) :=
  ⟨statusNameDetermined_iff field, hintDetermined_iff field, registerNameDetermined_iff field⟩

/-- A field of 64 letters. -/
theorem nameDetermined_fails :
    ¬ ∀ field, StatusNameDetermined field ∧ HintDetermined field ∧ RegisterNameDetermined field := by
  intro hall
  have hletters := (hall ⟨List.replicate 64 97, List.length_replicate⟩).1
  rw [statusNameDetermined_iff] at hletters
  exact absurd (List.eq_of_mem_replicate hletters) (by decide)

end Smile2Unlock.SignIn
