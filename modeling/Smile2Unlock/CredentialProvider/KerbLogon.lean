/-
  Smile2Unlock.CredentialProvider.KerbLogon

  The logon buffer of `GetSerialization` (helpers.cpp): the three strings of a
  `KERB_INTERACTIVE_UNLOCK_LOGON` and the packed form that WinLogon and LSA read.

  Offsets and sizes are those of the 64-bit structures.  `readLogon` is the reader's
  side: every string is `Length` bytes from the offset in `Buffer`.
-/

import Smile2Unlock.CredentialProvider.Serialization
import Smile2Unlock.Lib.Layout

namespace Smile2Unlock.CredentialProvider

open Smile2Unlock Lib Layout

-- ============================================================================
-- The structure
-- ============================================================================

/-- The failing `HRESULT`s of this path; `other` is one that a platform call returned. -/
inductive SerializationError where
  | invalidArg
  | arithmeticOverflow
  | outOfMemory
  | fail
  | other (code : UInt32)
deriving DecidableEq

/-- What a `PWSTR` says: its units before the NUL. -/
def wideText (pwz : Wide) : Wide := pwz.takeWhile (· ≠ 0)

/-- `wcslen` -/
def wcslen (pwz : Wide) : Nat := (wideText pwz).length

/-- A `UNICODE_STRING` of this process: `buffer` is what `Buffer` points to, and
    `length`, which counts bytes, does not reach beyond it. -/
structure UnicodeString where
  length : UInt16
  maximumLength : UInt16
  buffer : Wide
  inside : length.toNat ≤ 2 * buffer.length

/-- The bytes of a string. -/
def UnicodeString.bytes (rus : UnicodeString) : Bytes :=
  (encodeUnits rus.buffer).take rus.length.toNat

/-- `KERB_INTERACTIVE_UNLOCK_LOGON`, without the `LogonId` that `Init` clears and `Pack`
    clears again. -/
structure KerbInteractiveUnlockLogon where
  messageType : UInt32
  logonDomainName : UnicodeString
  userName : UnicodeString
  password : UnicodeString

/-- `KerbInteractiveLogon` and `KerbWorkstationUnlockLogon`. -/
def kerbInteractiveLogon : UInt32 := 2
def kerbWorkstationUnlockLogon : UInt32 := 7

/-- The `MessageType` of a scenario. -/
def messageTypeOf : UsageScenario → UInt32
  | .unlockWorkstation => kerbWorkstationUnlockLogon
  | .logon => kerbInteractiveLogon
  | .credUi => 0

/-- A `PWSTR` that a `USHORT` of bytes can count. -/
def FitsUnicodeString (pwz : Wide) : Prop := 2 * wcslen pwz < 65536

instance (pwz : Wide) : Decidable (FitsUnicodeString pwz) := inferInstanceAs (Decidable (_ < _))

theorem wcslen_le (pwz : Wide) : wcslen pwz ≤ pwz.length := by
  rw [wcslen, wideText]
  exact (List.takeWhile_sublist _).length_le

/-- `UnicodeStringInitWithString`: `SizeTToUShort` of the length, then `UShortMult`. -/
def unicodeStringInitWithString : Option Wide → Except SerializationError UnicodeString
  | none => .error .invalidArg
  | some pwz =>
      if wcslen pwz < 65536 then
        if h : FitsUnicodeString pwz then
          .ok {
            length := UInt16.ofNat (2 * wcslen pwz)
            maximumLength := UInt16.ofNat (2 * wcslen pwz)
            buffer := pwz
            inside := by
              rw [UInt16.toNat_ofNat', Nat.mod_eq_of_lt h]
              exact Nat.mul_le_mul_left 2 (wcslen_le pwz) }
        else .error .arithmeticOverflow
      else .error .arithmeticOverflow

/-- `KerbInteractiveUnlockLogonInit` -/
def kerbInteractiveUnlockLogonInit (pwzDomain pwzUsername pwzPassword : Option Wide)
    (cpus : UsageScenario) : Except SerializationError KerbInteractiveUnlockLogon := do
  let logonDomainName ← unicodeStringInitWithString pwzDomain
  let userName ← unicodeStringInitWithString pwzUsername
  let password ← unicodeStringInitWithString pwzPassword
  return ⟨messageTypeOf cpus, logonDomainName, userName, password⟩

-- ============================================================================
-- Packing
-- ============================================================================

/-- `CoTaskMemAlloc`: no memory, or as many bytes as asked for, with any content. -/
abbrev CoTaskMemAlloc := (cb : Nat) → Option { memory : Bytes // memory.length = cb }

/-- `sizeof(KERB_INTERACTIVE_UNLOCK_LOGON)` -/
def sizeofKerbInteractiveUnlockLogon : Nat := 64

/-- The offsets of `LogonDomainName`, `UserName`, `Password` and `LogonId`. -/
def logonDomainNameOffset : Nat := 8
def userNameOffset : Nat := 24
def passwordOffset : Nat := 40
def logonIdOffset : Nat := 56

/-- `_UnicodeStringPackedUnicodeStringCopy` to the structure at `field`, with the
    characters at `offset`; the pointer in `Buffer` has been fixed up to the offset. -/
def unicodeStringStores (field : Nat) (rus : UnicodeString) (offset : Nat) : List (Nat × Bytes) :=
  [(field, encode 2 rus.length.toNat), (field + 2, encode 2 rus.length.toNat),
    (offset, rus.bytes), (field + 8, encode 8 offset)]

/-- The stores of `KerbInteractiveUnlockLogonPack`. -/
def packStores (kiul : KerbInteractiveUnlockLogon) : List (Nat × Bytes) :=
  let domain := sizeofKerbInteractiveUnlockLogon
  let user := domain + kiul.logonDomainName.length.toNat
  let password := user + kiul.userName.length.toNat
  [(logonIdOffset, encode 8 0), (0, encode 4 kiul.messageType.toNat)] ++
    unicodeStringStores logonDomainNameOffset kiul.logonDomainName domain ++
    unicodeStringStores userNameOffset kiul.userName user ++
    unicodeStringStores passwordOffset kiul.password password

/-- The size that `KerbInteractiveUnlockLogonPack` asks for. -/
def packedSize (kiul : KerbInteractiveUnlockLogon) : Nat :=
  sizeofKerbInteractiveUnlockLogon + kiul.logonDomainName.length.toNat +
    kiul.userName.length.toNat + kiul.password.length.toNat

/-- `KerbInteractiveUnlockLogonPack` -/
def kerbInteractiveUnlockLogonPack (alloc : CoTaskMemAlloc) (kiul : KerbInteractiveUnlockLogon) :
    Except SerializationError Bytes :=
  match alloc (packedSize kiul) with
  | some memory => .ok (patchAll (packStores kiul) memory)
  | none => .error .outOfMemory

-- ============================================================================
-- Reading
-- ============================================================================

/-- What LSA takes from a packed logon. -/
structure LogonRequest where
  messageType : Nat
  domain : Wide
  username : Wide
  password : Wide
  logonId : Nat
deriving DecidableEq

/-- The members of the `UNICODE_STRING` at `field`. -/
def lengthAt (field : Nat) (buffer : Bytes) : Nat := decode (slice field 2 buffer)
def maximumLengthAt (field : Nat) (buffer : Bytes) : Nat := decode (slice (field + 2) 2 buffer)
def bufferAt (field : Nat) (buffer : Bytes) : Nat := decode (slice (field + 8) 8 buffer)

/-- The string at `field`, when it lies inside the buffer. -/
def readUnicodeString (field : Nat) (buffer : Bytes) : Option Wide :=
  if bufferAt field buffer + lengthAt field buffer ≤ buffer.length then
    some (decodeUnits (slice (bufferAt field buffer) (lengthAt field buffer) buffer))
  else none

/-- A packed logon as its reader sees it. -/
def readLogon (buffer : Bytes) : Option LogonRequest := do
  let domain ← readUnicodeString logonDomainNameOffset buffer
  let username ← readUnicodeString userNameOffset buffer
  let password ← readUnicodeString passwordOffset buffer
  return ⟨decode (slice 0 4 buffer), domain, username, password,
    decode (slice logonIdOffset 8 buffer)⟩

-- ============================================================================
-- What is packed is read
-- ============================================================================

variable {kiul : KerbInteractiveUnlockLogon} {memory : Bytes}

@[simp] theorem UnicodeString.length_bytes (rus : UnicodeString) :
    rus.bytes.length = rus.length.toNat := by
  rw [bytes, List.length_take, length_encodeUnits]
  exact Nat.min_eq_left rus.inside

/-- The stores end inside the memory that was asked for. -/
theorem packStores_fits (hmemory : memory.length = packedSize kiul) :
    ∀ s ∈ packStores kiul, Fits memory s := by
  simp only [packStores, unicodeStringStores, List.cons_append, List.nil_append,
    List.forall_mem_cons, Fits, hmemory, packedSize, length_encode, UnicodeString.length_bytes,
    sizeofKerbInteractiveUnlockLogon, logonDomainNameOffset, userNameOffset, passwordOffset,
    logonIdOffset]
  refine ⟨?_, ?_, ?_, ?_, ?_, ?_, ?_, ?_, ?_, ?_, ?_, ?_, ?_, ?_, List.forall_mem_nil _⟩ <;> omega

/-- No store writes where another does. -/
theorem packStores_apart (kiul : KerbInteractiveUnlockLogon) :
    (packStores kiul).Pairwise Apart := by
  simp only [packStores, unicodeStringStores, List.cons_append, List.nil_append,
    List.pairwise_cons, List.forall_mem_cons, Apart, length_encode, UnicodeString.length_bytes,
    sizeofKerbInteractiveUnlockLogon, logonDomainNameOffset, userNameOffset, passwordOffset,
    logonIdOffset, List.Pairwise.nil, List.not_mem_nil, false_implies, implies_true, and_true]
  omega

section Stores

variable {stores : List (Nat × Bytes)} {field offset : Nat} {rus : UnicodeString}

/-- The `UNICODE_STRING` members behind its stores. -/
theorem members_of_stores (hfits : ∀ s ∈ stores, Fits memory s) (hapart : stores.Pairwise Apart)
    (hmem : ∀ s ∈ unicodeStringStores field rus offset, s ∈ stores) (hoffset : offset < 2 ^ 64) :
    lengthAt field (patchAll stores memory) = rus.length.toNat ∧
      maximumLengthAt field (patchAll stores memory) = rus.length.toNat ∧
      bufferAt field (patchAll stores memory) = offset ∧
      slice offset rus.length.toNat (patchAll stores memory) = rus.bytes := by
  simp only [unicodeStringStores, List.forall_mem_cons] at hmem
  obtain ⟨hlength, hmaximum, hbytes, hbuffer, -⟩ := hmem
  have hread := fun {s} (h : s ∈ stores) => slice_patchAll_of_mem hfits hapart h
  refine ⟨?_, ?_, ?_, ?_⟩
  · rw [lengthAt, show (2 : Nat) = (encode 2 rus.length.toNat).length by rw [length_encode],
      hread hlength, decode_encode_of_lt rus.length.toNat_lt]
  · rw [maximumLengthAt]
    have h := hread hmaximum
    rw [length_encode] at h
    rw [h, decode_encode_of_lt rus.length.toNat_lt]
  · rw [bufferAt]
    have h := hread hbuffer
    rw [length_encode] at h
    rw [h, decode_encode_of_lt hoffset]
  · have h := hread hbytes
    rwa [UnicodeString.length_bytes] at h

theorem readUnicodeString_of_stores (hfits : ∀ s ∈ stores, Fits memory s)
    (hapart : stores.Pairwise Apart)
    (hmem : ∀ s ∈ unicodeStringStores field rus offset, s ∈ stores) (hoffset : offset < 2 ^ 64) :
    readUnicodeString field (patchAll stores memory) = some (decodeUnits rus.bytes) := by
  obtain ⟨hlength, -, hbuffer, hslice⟩ := members_of_stores hfits hapart hmem hoffset
  have hinside : offset + rus.length.toNat ≤ memory.length := by
    have h := hfits (offset, rus.bytes) (hmem _ (by simp [unicodeStringStores]))
    rwa [Fits, UnicodeString.length_bytes] at h
  rw [readUnicodeString, hlength, hbuffer, length_patchAll, if_pos hinside, hslice]

end Stores

/-- Where the characters of the three strings go. -/
def domainAt : Nat := sizeofKerbInteractiveUnlockLogon
def usernameAt (kiul : KerbInteractiveUnlockLogon) : Nat :=
  domainAt + kiul.logonDomainName.length.toNat
def passwordAt (kiul : KerbInteractiveUnlockLogon) : Nat :=
  usernameAt kiul + kiul.userName.length.toNat

/-- The strings stand behind the structure, each right behind the one before. -/
theorem packedStrings (kiul : KerbInteractiveUnlockLogon) :
    (∀ s ∈ unicodeStringStores logonDomainNameOffset kiul.logonDomainName domainAt,
        s ∈ packStores kiul) ∧
      (∀ s ∈ unicodeStringStores userNameOffset kiul.userName (usernameAt kiul),
        s ∈ packStores kiul) ∧
      (∀ s ∈ unicodeStringStores passwordOffset kiul.password (passwordAt kiul),
        s ∈ packStores kiul) ∧
      passwordAt kiul + kiul.password.length.toNat = packedSize kiul ∧
      passwordAt kiul < 2 ^ 64 := by
  have hdomain := kiul.logonDomainName.length.toNat_lt
  have huser := kiul.userName.length.toNat_lt
  refine ⟨?_, ?_, ?_, rfl, ?_⟩
  · intro s hs
    exact List.mem_append_left _ (List.mem_append_left _ (List.mem_append_right _ hs))
  · intro s hs
    exact List.mem_append_left _ (List.mem_append_right _ hs)
  · intro s hs
    exact List.mem_append_right _ hs
  · rw [passwordAt, usernameAt, domainAt, sizeofKerbInteractiveUnlockLogon]
    omega

/-- The reader of a packed logon sees the strings of the logon. -/
theorem readLogon_pack (hmemory : memory.length = packedSize kiul) :
    readLogon (patchAll (packStores kiul) memory) =
      some ⟨kiul.messageType.toNat, decodeUnits kiul.logonDomainName.bytes,
        decodeUnits kiul.userName.bytes, decodeUnits kiul.password.bytes, 0⟩ := by
  have hfits := packStores_fits hmemory
  have hapart := packStores_apart kiul
  obtain ⟨hdomain, huser, hpassword, -, hlast⟩ := packedStrings kiul
  have hfirst : usernameAt kiul ≤ passwordAt kiul := Nat.le_add_right _ _
  have hmessage := slice_patchAll_of_mem (s := (0, encode 4 kiul.messageType.toNat)) hfits hapart
    (by simp [packStores])
  have hid := slice_patchAll_of_mem (s := (logonIdOffset, encode 8 0)) hfits hapart
    (by simp [packStores])
  rw [length_encode] at hmessage hid
  rw [readLogon, readUnicodeString_of_stores hfits hapart hdomain (by decide),
    readUnicodeString_of_stores hfits hapart huser (by omega),
    readUnicodeString_of_stores hfits hapart hpassword hlast, hmessage, hid,
    decode_encode_of_lt kiul.messageType.toNat_lt, decode_encode_of_lt (by decide)]
  rfl

/-- The bytes of the structure between its members. -/
def IsPadding (i : Nat) : Prop :=
  (4 ≤ i ∧ i < 8) ∨ (12 ≤ i ∧ i < 16) ∨ (28 ≤ i ∧ i < 32) ∨ (44 ≤ i ∧ i < 48)

/-- Every other byte is in a store. -/
theorem stored_iff_not_padding {i : Nat} (hi : i < packedSize kiul) :
    (∃ s ∈ packStores kiul, s.1 ≤ i ∧ i < s.1 + s.2.length) ↔ ¬ IsPadding i := by
  simp only [packStores, unicodeStringStores, List.cons_append, List.nil_append, List.mem_cons,
    List.not_mem_nil, or_false, exists_eq_or_imp, exists_eq_left, length_encode,
    UnicodeString.length_bytes, sizeofKerbInteractiveUnlockLogon, logonDomainNameOffset,
    userNameOffset, passwordOffset, logonIdOffset, IsPadding]
  simp only [packedSize, sizeofKerbInteractiveUnlockLogon] at hi
  omega

/-- The padding keeps what the allocation contained. -/
theorem padding_of_pack {i : Nat} (hmemory : memory.length = packedSize kiul) (hi : IsPadding i) :
    (patchAll (packStores kiul) memory)[i]? = memory[i]? := by
  have hsize : 64 ≤ packedSize kiul := by
    rw [packedSize, sizeofKerbInteractiveUnlockLogon]
    omega
  have hlt : i < packedSize kiul := by
    rw [IsPadding] at hi
    omega
  have hnone := mt (stored_iff_not_padding hlt).mp (not_not.mpr hi)
  push Not at hnone
  refine getElem?_patchAll_of_apart (packStores_fits hmemory) fun s hs => ?_
  by_cases hlow : s.1 ≤ i
  · exact Or.inr (hnone s hs hlow)
  · exact Or.inl (by omega)

/-- What is not padding does not depend on the allocation. -/
theorem byte_of_pack {memory' : Bytes} {i : Nat} (hmemory : memory.length = packedSize kiul)
    (hmemory' : memory'.length = packedSize kiul) (hi : ¬ IsPadding i) :
    (patchAll (packStores kiul) memory)[i]? = (patchAll (packStores kiul) memory')[i]? := by
  by_cases hlt : i < packedSize kiul
  · obtain ⟨s, hs, hlow, hhigh⟩ := (stored_iff_not_padding hlt).mpr hi
    have hread := slice_patchAll_of_mem (packStores_fits hmemory) (packStores_apart kiul) hs
    have hread' := slice_patchAll_of_mem (packStores_fits hmemory') (packStores_apart kiul) hs
    have h := congrArg (·[i - s.1]?) (hread.trans hread'.symm)
    simpa only [getElem?_slice, if_pos (show i - s.1 < s.2.length by omega),
      Nat.add_sub_cancel' hlow] using h
  · rw [List.getElem?_eq_none (by rw [length_patchAll]; omega),
      List.getElem?_eq_none (by rw [length_patchAll]; omega)]

-- ============================================================================
-- From the strings to the buffer
-- ============================================================================

theorem unicodeString_of_init {pwz : Wide} {rus : UnicodeString}
    (h : unicodeStringInitWithString (some pwz) = .ok rus) :
    FitsUnicodeString pwz ∧ rus.length.toNat = 2 * wcslen pwz ∧
      decodeUnits rus.bytes = wideText pwz := by
  rw [unicodeStringInitWithString] at h
  split at h
  · split at h
    · rename_i hfits
      cases h
      have hlength : (UInt16.ofNat (2 * wcslen pwz)).toNat = 2 * wcslen pwz := by
        rw [UInt16.toNat_ofNat', Nat.mod_eq_of_lt hfits]
      refine ⟨hfits, hlength, ?_⟩
      show decodeUnits ((encodeUnits pwz).take (UInt16.ofNat (2 * wcslen pwz)).toNat) = _
      rw [hlength, take_encodeUnits, decodeUnits_encodeUnits, wcslen, wideText]
      exact (List.prefix_iff_eq_take.mp (List.takeWhile_prefix _)).symm
    · cases h
  · cases h

theorem init_ok_iff {pwz : Wide} :
    (∃ rus, unicodeStringInitWithString (some pwz) = .ok rus) ↔ FitsUnicodeString pwz := by
  constructor
  · rintro ⟨rus, h⟩
    exact (unicodeString_of_init h).1
  · intro h
    have hlt : wcslen pwz < 65536 := by
      rw [FitsUnicodeString] at h
      omega
    rw [unicodeStringInitWithString, if_pos hlt, dif_pos h]
    exact ⟨_, rfl⟩

/-- `KerbInteractiveUnlockLogonInit` and `KerbInteractiveUnlockLogonPack`. -/
def packLogon (alloc : CoTaskMemAlloc) (pwzDomain pwzUsername pwzPassword : Option Wide)
    (cpus : UsageScenario) : Except SerializationError Bytes := do
  let kiul ← kerbInteractiveUnlockLogonInit pwzDomain pwzUsername pwzPassword cpus
  kerbInteractiveUnlockLogonPack alloc kiul

/-- The size of the buffer for three strings. -/
def logonSize (domain username password : Wide) : Nat :=
  sizeofKerbInteractiveUnlockLogon + 2 * (wcslen domain + wcslen username + wcslen password)

theorem ok_of_bind {ε α β : Type} {x : Except ε α} {f : α → Except ε β} {b : β}
    (h : x >>= f = .ok b) : ∃ a, x = .ok a ∧ f a = .ok b := by
  cases x with
  | error e => cases h
  | ok a => exact ⟨a, rfl, h⟩

/-- What a successful `Init` holds. -/
theorem of_init {domain username password : Wide} {cpus : UsageScenario}
    (h : kerbInteractiveUnlockLogonInit (some domain) (some username) (some password) cpus =
      .ok kiul) :
    (FitsUnicodeString domain ∧ FitsUnicodeString username ∧ FitsUnicodeString password) ∧
      packedSize kiul = logonSize domain username password ∧
      kiul.messageType = messageTypeOf cpus ∧
      decodeUnits kiul.logonDomainName.bytes = wideText domain ∧
      decodeUnits kiul.userName.bytes = wideText username ∧
      decodeUnits kiul.password.bytes = wideText password := by
  rw [kerbInteractiveUnlockLogonInit] at h
  obtain ⟨d, hd, h⟩ := ok_of_bind h
  obtain ⟨u, hu, h⟩ := ok_of_bind h
  obtain ⟨p, hp, h⟩ := ok_of_bind h
  cases h
  obtain ⟨hdFits, hdLength, hdText⟩ := unicodeString_of_init hd
  obtain ⟨huFits, huLength, huText⟩ := unicodeString_of_init hu
  obtain ⟨hpFits, hpLength, hpText⟩ := unicodeString_of_init hp
  refine ⟨⟨hdFits, huFits, hpFits⟩, ?_, rfl, hdText, huText, hpText⟩
  rw [packedSize, logonSize, hdLength, huLength, hpLength]
  omega

theorem exists_init_iff {domain username password : Wide} {cpus : UsageScenario} :
    (∃ kiul, kerbInteractiveUnlockLogonInit (some domain) (some username) (some password) cpus =
      .ok kiul) ↔
      FitsUnicodeString domain ∧ FitsUnicodeString username ∧ FitsUnicodeString password := by
  constructor
  · rintro ⟨kiul, h⟩
    exact (of_init h).1
  · rintro ⟨hdomain, husername, hpassword⟩
    obtain ⟨d, hd⟩ := init_ok_iff.mpr hdomain
    obtain ⟨u, hu⟩ := init_ok_iff.mpr husername
    obtain ⟨p, hp⟩ := init_ok_iff.mpr hpassword
    refine ⟨⟨messageTypeOf cpus, d, u, p⟩, ?_⟩
    rw [kerbInteractiveUnlockLogonInit, hd, hu, hp]
    rfl

theorem pack_ok_iff {alloc : CoTaskMemAlloc} {buffer : Bytes} :
    kerbInteractiveUnlockLogonPack alloc kiul = .ok buffer ↔
      ∃ memory, alloc (packedSize kiul) = some memory ∧
        patchAll (packStores kiul) memory.1 = buffer := by
  rw [kerbInteractiveUnlockLogonPack]
  split
  · rename_i memory hmemory
    simp [hmemory]
  · rename_i hmemory
    simp [hmemory]

/-- What a buffer is, whose packing succeeded. -/
theorem of_packLogon {alloc : CoTaskMemAlloc} {domain username password : Wide}
    {cpus : UsageScenario} {buffer : Bytes}
    (h : packLogon alloc (some domain) (some username) (some password) cpus = .ok buffer) :
    ∃ kiul memory,
      kerbInteractiveUnlockLogonInit (some domain) (some username) (some password) cpus = .ok kiul ∧
        alloc (packedSize kiul) = some memory ∧ patchAll (packStores kiul) memory.1 = buffer := by
  obtain ⟨kiul, hinit, hpack⟩ := ok_of_bind h
  obtain ⟨memory, hmemory, hbuffer⟩ := pack_ok_iff.mp hpack
  exact ⟨kiul, memory, hinit, hmemory, hbuffer⟩

/-- Packing succeeds exactly for three strings that fit, when there is memory. -/
theorem packLogon_ok_iff (alloc : CoTaskMemAlloc) (domain username password : Wide)
    (cpus : UsageScenario) :
    (∃ buffer, packLogon alloc (some domain) (some username) (some password) cpus = .ok buffer) ↔
      (FitsUnicodeString domain ∧ FitsUnicodeString username ∧ FitsUnicodeString password) ∧
        (alloc (logonSize domain username password)).isSome := by
  constructor
  · rintro ⟨buffer, h⟩
    obtain ⟨kiul, memory, hinit, hmemory, -⟩ := of_packLogon h
    obtain ⟨hfits, hsize, -⟩ := of_init hinit
    rw [← hsize, hmemory]
    exact ⟨hfits, rfl⟩
  · rintro ⟨hfits, hsome⟩
    obtain ⟨kiul, hinit⟩ := exists_init_iff.mpr hfits
    obtain ⟨-, hsize, -⟩ := of_init hinit
    rw [← hsize] at hsome
    obtain ⟨memory, hmemory⟩ := Option.isSome_iff_exists.mp hsome
    refine ⟨patchAll (packStores kiul) memory.1, ?_⟩
    rw [packLogon, hinit]
    exact pack_ok_iff.mpr ⟨memory, hmemory, rfl⟩

/-- What the buffer of a logon says. -/
theorem readLogon_of_packLogon {alloc : CoTaskMemAlloc} {domain username password : Wide}
    {cpus : UsageScenario} {buffer : Bytes}
    (h : packLogon alloc (some domain) (some username) (some password) cpus = .ok buffer) :
    buffer.length = logonSize domain username password ∧
      readLogon buffer = some ⟨(messageTypeOf cpus).toNat, wideText domain, wideText username,
        wideText password, 0⟩ := by
  obtain ⟨kiul, memory, hinit, hmemory, rfl⟩ := of_packLogon h
  obtain ⟨-, hsize, hmessage, hdomain, husername, hpassword⟩ := of_init hinit
  refine ⟨?_, ?_⟩
  · rw [length_patchAll, memory.2, hsize]
  · rw [readLogon_pack memory.2, hmessage, hdomain, husername, hpassword]

/-- The logon buffer: it can be built exactly for strings that a `UNICODE_STRING` can
    count, its reader gets the three strings, and of the allocation's content only the
    padding is left. -/
theorem logonBuffer_roundTrip (alloc : CoTaskMemAlloc) (domain username password : Wide)
    (cpus : UsageScenario) :
    ((∃ buffer, packLogon alloc (some domain) (some username) (some password) cpus = .ok buffer) ↔
      (wcslen domain ≤ 32767 ∧ wcslen username ≤ 32767 ∧ wcslen password ≤ 32767) ∧
        (alloc (logonSize domain username password)).isSome) ∧
    ∀ buffer, packLogon alloc (some domain) (some username) (some password) cpus = .ok buffer →
      buffer.length = logonSize domain username password ∧
      readLogon buffer = some ⟨(messageTypeOf cpus).toNat, wideText domain, wideText username,
        wideText password, 0⟩ ∧
      (∀ i, IsPadding i → ∃ memory, alloc buffer.length = some memory ∧ buffer[i]? = memory.1[i]?) ∧
      ∀ alloc' buffer',
        packLogon alloc' (some domain) (some username) (some password) cpus = .ok buffer' →
          ∀ i, ¬ IsPadding i → buffer[i]? = buffer'[i]? := by
  have hcount : ∀ pwz, FitsUnicodeString pwz ↔ wcslen pwz ≤ 32767 := by
    intro pwz
    rw [FitsUnicodeString]
    omega
  refine ⟨?_, ?_⟩
  · rw [packLogon_ok_iff, hcount, hcount, hcount]
  intro buffer h
  obtain ⟨hlength, hread⟩ := readLogon_of_packLogon h
  obtain ⟨kiul, memory, hinit, hmemory, rfl⟩ := of_packLogon h
  refine ⟨hlength, hread, ?_, ?_⟩
  · intro i hi
    rw [padding_of_pack memory.2 hi, length_patchAll, memory.2]
    exact ⟨memory, hmemory, rfl⟩
  · intro alloc' buffer' h' i hi
    obtain ⟨kiul', memory', hinit', -, rfl⟩ := of_packLogon h'
    rw [hinit] at hinit'
    cases hinit'
    exact byte_of_pack memory.2 memory'.2 hi

/-- An allocator that always has memory, filled with a pattern. -/
def exampleAlloc : CoTaskMemAlloc := fun cb =>
  some ⟨List.replicate cb 0xCD, List.length_replicate⟩

end Smile2Unlock.CredentialProvider
