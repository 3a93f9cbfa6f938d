/-
  Smile2Unlock.CredentialProvider.KerbUnpack

  `KerbInteractiveUnlockLogonUnpackInPlace` (helpers.cpp): the offsets of a packed logon
  become pointers into its own block.

  `unpackInPlace_packedLogon` says what it makes of a logon that was packed here; a
  second call sees pointers, which do not pass its check.
-/

import Smile2Unlock.CredentialProvider.KerbLogon

namespace Smile2Unlock.CredentialProvider

open Smile2Unlock Lib Layout

variable {kiul : KerbInteractiveUnlockLogon} {memory : Bytes}

-- ============================================================================
-- Unpacking in place
-- ============================================================================

/-- The sanity check on one string, in the arithmetic of a `ULONG_PTR`. -/
def withinTotal (field cb : Nat) (memory : Bytes) : Prop :=
  (bufferAt field memory + maximumLengthAt field memory) % 2 ^ 64 ≤ cb

instance (field cb : Nat) (memory : Bytes) : Decidable (withinTotal field cb memory) :=
  inferInstanceAs (Decidable (_ ≤ _))

/-- The pointer for an offset; a null `Buffer` stays null. -/
def pointerFor (base offset : Nat) : Nat := if offset = 0 then 0 else (base + offset) % 2 ^ 64

/-- The three assignments to `Buffer`, each from its own old value. -/
def pointerStores (base : Nat) (memory : Bytes) : List (Nat × Bytes) :=
  [logonDomainNameOffset, userNameOffset, passwordOffset].map fun field =>
    (field + 8, encode 8 (pointerFor base (bufferAt field memory)))

/-- `KerbInteractiveUnlockLogonUnpackInPlace` on the memory at address `base`. -/
def kerbInteractiveUnlockLogonUnpackInPlace (base cb : Nat) (memory : Bytes) : Bytes :=
  if sizeofKerbInteractiveUnlockLogon ≤ cb ∧ withinTotal logonDomainNameOffset cb memory ∧
      withinTotal userNameOffset cb memory ∧ withinTotal passwordOffset cb memory then
    patchAll (pointerStores base memory) memory
  else memory

/-- The string at `field` of an unpacked logon: `Buffer` is an address. -/
def stringAt (base field : Nat) (memory : Bytes) : Option Wide :=
  if base ≤ bufferAt field memory ∧
      bufferAt field memory - base + lengthAt field memory ≤ memory.length then
    some (decodeUnits (slice (bufferAt field memory - base) (lengthAt field memory) memory))
  else none

/-- The fields of the three strings. -/
def IsStringField (field : Nat) : Prop :=
  field = logonDomainNameOffset ∨ field = userNameOffset ∨ field = passwordOffset

/-- The offset of a string's characters in a packed logon. -/
def charactersAt (kiul : KerbInteractiveUnlockLogon) (field : Nat) : Nat :=
  if field = logonDomainNameOffset then domainAt
  else if field = userNameOffset then usernameAt kiul else passwordAt kiul

/-- The string of a field. -/
def stringOf (kiul : KerbInteractiveUnlockLogon) (field : Nat) : UnicodeString :=
  if field = logonDomainNameOffset then kiul.logonDomainName
  else if field = userNameOffset then kiul.userName else kiul.password

/-- One of the strings of a packed logon. -/
theorem stringStores_of_field (kiul : KerbInteractiveUnlockLogon) {field : Nat}
    (hfield : IsStringField field) :
    (∀ s ∈ unicodeStringStores field (stringOf kiul field) (charactersAt kiul field),
      s ∈ packStores kiul) ∧
      sizeofKerbInteractiveUnlockLogon ≤ charactersAt kiul field ∧
      charactersAt kiul field + (stringOf kiul field).length.toNat ≤ packedSize kiul ∧
      packedSize kiul < 2 ^ 32 := by
  obtain ⟨hdomain, husername, hpassword, hsize, -⟩ := packedStrings kiul
  have hd := kiul.logonDomainName.length.toNat_lt
  have hu := kiul.userName.length.toNat_lt
  have hp := kiul.password.length.toNat_lt
  rw [passwordAt, usernameAt, domainAt] at hsize
  refine ⟨?_, ?_⟩
  · rcases hfield with rfl | rfl | rfl
    · exact hdomain
    · exact husername
    · exact hpassword
  · rw [← hsize]
    rcases hfield with rfl | rfl | rfl <;>
      simp only [charactersAt, stringOf, logonDomainNameOffset, userNameOffset, passwordOffset,
        passwordAt, usernameAt, domainAt, sizeofKerbInteractiveUnlockLogon, reduceIte,
        Nat.reduceEqDiff] <;> omega

/-- What a packed logon says at one of its strings. -/
theorem members_of_pack {field : Nat} (hmemory : memory.length = packedSize kiul)
    (hfield : IsStringField field) :
    lengthAt field (patchAll (packStores kiul) memory) = (stringOf kiul field).length.toNat ∧
      maximumLengthAt field (patchAll (packStores kiul) memory) =
        (stringOf kiul field).length.toNat ∧
      bufferAt field (patchAll (packStores kiul) memory) = charactersAt kiul field ∧
      slice (charactersAt kiul field) (stringOf kiul field).length.toNat
        (patchAll (packStores kiul) memory) = (stringOf kiul field).bytes := by
  obtain ⟨hstores, -, hinside, hsize⟩ := stringStores_of_field kiul hfield
  exact members_of_stores (packStores_fits hmemory) (packStores_apart kiul) hstores (by omega)

section Unpack

variable {base : Nat}

theorem mem_pointerStores {field : Nat} (hfield : IsStringField field) :
    (field + 8, encode 8 (pointerFor base (bufferAt field memory))) ∈ pointerStores base memory := by
  rcases hfield with rfl | rfl | rfl <;> simp [pointerStores]

theorem pointerStores_fits (base : Nat) (h : sizeofKerbInteractiveUnlockLogon ≤ memory.length) :
    ∀ s ∈ pointerStores base memory, Fits memory s := by
  rw [sizeofKerbInteractiveUnlockLogon] at h
  simp only [pointerStores, List.map_cons, List.map_nil, List.forall_mem_cons, Fits, length_encode,
    logonDomainNameOffset, userNameOffset, passwordOffset]
  exact ⟨by omega, by omega, by omega, List.forall_mem_nil _⟩

theorem pointerStores_apart : (pointerStores base memory).Pairwise Apart := by
  simp [pointerStores, Apart, logonDomainNameOffset, userNameOffset, passwordOffset]

/-- Outside the three pointers the stores change nothing. -/
theorem slice_pointerStores {o n : Nat} (h : sizeofKerbInteractiveUnlockLogon ≤ memory.length)
    (hapart : ∀ field, IsStringField field → o + n ≤ field + 8 ∨ field + 16 ≤ o) :
    slice o n (patchAll (pointerStores base memory) memory) = slice o n memory := by
  refine slice_patchAll_of_apart (pointerStores_fits base h) fun s hs => ?_
  obtain ⟨field, hfield, rfl⟩ := List.mem_map.mp hs
  rw [length_encode]
  refine hapart field ?_
  simpa [IsStringField] using hfield

/-- After the stores a pointer stands where its offset stood; the lengths are the same. -/
theorem members_of_pointerStores (base : Nat) {field : Nat}
    (h : sizeofKerbInteractiveUnlockLogon ≤ memory.length) (hfield : IsStringField field) :
    bufferAt field (patchAll (pointerStores base memory) memory) =
        pointerFor base (bufferAt field memory) ∧
      lengthAt field (patchAll (pointerStores base memory) memory) = lengthAt field memory ∧
      maximumLengthAt field (patchAll (pointerStores base memory) memory) =
        maximumLengthAt field memory := by
  have hlt : pointerFor base (bufferAt field memory) < 2 ^ 64 := by
    rw [pointerFor]
    split
    · exact Nat.two_pow_pos 64
    · exact Nat.mod_lt _ (Nat.two_pow_pos 64)
  have hread := slice_patchAll_of_mem (pointerStores_fits base h) pointerStores_apart
    (mem_pointerStores hfield)
  rw [length_encode] at hread
  refine ⟨?_, ?_, ?_⟩
  · rw [bufferAt, hread, decode_encode_of_lt hlt]
  · rw [lengthAt, slice_pointerStores h, lengthAt]
    rintro f (rfl | rfl | rfl) <;> rcases hfield with rfl | rfl | rfl <;> decide
  · rw [maximumLengthAt, slice_pointerStores h, maximumLengthAt]
    rintro f (rfl | rfl | rfl) <;> rcases hfield with rfl | rfl | rfl <;> decide

end Unpack

section UnpackPacked

variable {base : Nat} (hmemory : memory.length = packedSize kiul)
include hmemory

/-- The check passes for every string that was packed. -/
theorem withinTotal_of_pack {field : Nat} (hfield : IsStringField field) :
    withinTotal field (packedSize kiul) (patchAll (packStores kiul) memory) := by
  obtain ⟨-, hmaximum, hbuffer, -⟩ := members_of_pack hmemory hfield
  obtain ⟨-, -, hinside, -⟩ := stringStores_of_field kiul hfield
  rw [withinTotal, hmaximum, hbuffer]
  exact (Nat.mod_le _ _).trans hinside

theorem le_length_pack :
    sizeofKerbInteractiveUnlockLogon ≤ (patchAll (packStores kiul) memory).length := by
  rw [length_patchAll, hmemory, packedSize]
  omega

theorem unpackInPlace_pack : kerbInteractiveUnlockLogonUnpackInPlace base (packedSize kiul)
    (patchAll (packStores kiul) memory) =
      patchAll (pointerStores base (patchAll (packStores kiul) memory))
        (patchAll (packStores kiul) memory) := by
  refine if_pos ⟨?_, withinTotal_of_pack hmemory (Or.inl rfl),
    withinTotal_of_pack hmemory (Or.inr (Or.inl rfl)),
    withinTotal_of_pack hmemory (Or.inr (Or.inr rfl))⟩
  rw [packedSize]
  omega

/-- The pointer of a string is the address of its characters. -/
theorem bufferAt_unpacked {field : Nat} (hhigh : base + packedSize kiul < 2 ^ 64)
    (hfield : IsStringField field) :
    bufferAt field (patchAll (pointerStores base (patchAll (packStores kiul) memory))
      (patchAll (packStores kiul) memory)) = base + charactersAt kiul field := by
  obtain ⟨-, hbehind, hinside, -⟩ := stringStores_of_field kiul hfield
  rw [sizeofKerbInteractiveUnlockLogon] at hbehind
  have hlength := le_length_pack hmemory
  obtain ⟨hpointer, -, -⟩ := members_of_pointerStores base hlength hfield
  obtain ⟨-, -, hbuffer, -⟩ := members_of_pack hmemory hfield
  rw [hpointer, hbuffer, pointerFor, if_neg (by omega), Nat.mod_eq_of_lt (by omega)]

theorem stringAt_unpacked {field : Nat} (hhigh : base + packedSize kiul < 2 ^ 64)
    (hfield : IsStringField field) :
    stringAt base field (patchAll (pointerStores base (patchAll (packStores kiul) memory))
      (patchAll (packStores kiul) memory)) = some (decodeUnits (stringOf kiul field).bytes) := by
  have hlength := le_length_pack hmemory
  obtain ⟨-, hbehind, hinside, -⟩ := stringStores_of_field kiul hfield
  rw [sizeofKerbInteractiveUnlockLogon] at hbehind
  obtain ⟨-, hlengthAt, -⟩ := members_of_pointerStores base hlength hfield
  obtain ⟨hpacked, -, -, hslice⟩ := members_of_pack hmemory hfield
  rw [stringAt, bufferAt_unpacked hmemory hhigh hfield, hlengthAt, hpacked, length_patchAll,
    length_patchAll, hmemory, Nat.add_sub_cancel_left,
    if_pos ⟨Nat.le_add_right _ _, hinside⟩, slice_pointerStores hlength, hslice]
  intro f hf
  right
  have hf40 : f ≤ 40 := by rcases hf with rfl | rfl | rfl <;> decide
  omega

/-- The pointers do not pass for offsets. -/
theorem unpackInPlace_unpacked (hlow : packedSize kiul ≤ base)
    (hhigh : base + packedSize kiul < 2 ^ 64) :
    kerbInteractiveUnlockLogonUnpackInPlace base (packedSize kiul)
      (patchAll (pointerStores base (patchAll (packStores kiul) memory))
        (patchAll (packStores kiul) memory)) =
      patchAll (pointerStores base (patchAll (packStores kiul) memory))
        (patchAll (packStores kiul) memory) := by
  have hfield : IsStringField logonDomainNameOffset := Or.inl rfl
  have hlength := le_length_pack hmemory
  obtain ⟨-, hbehind, hinside, -⟩ := stringStores_of_field kiul hfield
  rw [sizeofKerbInteractiveUnlockLogon] at hbehind
  obtain ⟨-, -, hmaximum⟩ := members_of_pointerStores base hlength hfield
  obtain ⟨-, hpacked, -, -⟩ := members_of_pack hmemory hfield
  refine if_neg fun h => ?_
  obtain ⟨-, hdomain, -, -⟩ := h
  rw [withinTotal, bufferAt_unpacked hmemory hhigh hfield, hmaximum, hpacked,
    Nat.mod_eq_of_lt (by omega)] at hdomain
  omega

end UnpackPacked

/-- Unpacking a packed logon of the block at `base`: every string is found through its
    pointer, nothing but the three pointers changes, and unpacking again changes nothing. -/
theorem unpackInPlace_packedLogon (alloc : CoTaskMemAlloc) (domain username password : Wide)
    (cpus : UsageScenario) (base : Nat) (buffer : Bytes)
    (hpacked : packLogon alloc (some domain) (some username) (some password) cpus = .ok buffer)
    (hlow : buffer.length ≤ base) (hhigh : base + buffer.length < 2 ^ 64) :
    let unpacked := kerbInteractiveUnlockLogonUnpackInPlace base buffer.length buffer
    stringAt base logonDomainNameOffset unpacked = some (wideText domain) ∧
      stringAt base userNameOffset unpacked = some (wideText username) ∧
      stringAt base passwordOffset unpacked = some (wideText password) ∧
      (∀ i, (∀ field, IsStringField field → i < field + 8 ∨ field + 16 ≤ i) →
        unpacked[i]? = buffer[i]?) ∧
      kerbInteractiveUnlockLogonUnpackInPlace base buffer.length unpacked = unpacked := by
  obtain ⟨kiul, ⟨memory, hmemory⟩, hinit, -, rfl⟩ := of_packLogon hpacked
  obtain ⟨-, -, -, hdomain, husername, hpassword⟩ := of_init hinit
  rw [length_patchAll, hmemory] at hlow hhigh ⊢
  intro unpacked
  have hunpacked : unpacked = _ := unpackInPlace_pack hmemory
  rw [hunpacked]
  refine ⟨?_, ?_, ?_, ?_, unpackInPlace_unpacked hmemory hlow hhigh⟩
  · rw [stringAt_unpacked hmemory hhigh (Or.inl rfl)]
    exact congrArg some hdomain
  · rw [stringAt_unpacked hmemory hhigh (Or.inr (Or.inl rfl))]
    exact congrArg some husername
  · rw [stringAt_unpacked hmemory hhigh (Or.inr (Or.inr rfl))]
    exact congrArg some hpassword
  · intro i hi
    have hlength := le_length_pack hmemory
    refine getElem?_patchAll_of_apart (pointerStores_fits base hlength) fun s hs => ?_
    obtain ⟨field, hfield, rfl⟩ := List.mem_map.mp hs
    rw [length_encode]
    exact hi field (by simpa [IsStringField] using hfield)

theorem unpackInPlace_packedExample : ∃ buffer,
    packLogon exampleAlloc (some [80, 67]) (some [98, 111, 98]) (some [49]) .logon = .ok buffer ∧
      stringAt 65536 userNameOffset
        (kerbInteractiveUnlockLogonUnpackInPlace 65536 buffer.length buffer) =
          some [98, 111, 98] := by
  obtain ⟨buffer, hpacked⟩ := (packLogon_ok_iff exampleAlloc [80, 67] [98, 111, 98] [49] .logon).mpr
    ⟨by decide, rfl⟩
  have hlength : buffer.length = 76 :=
    (readLogon_of_packLogon hpacked).1
  exact ⟨buffer, hpacked, (unpackInPlace_packedLogon exampleAlloc _ _ _ _ 65536 buffer hpacked
    (by omega) (by omega)).2.1⟩

end Smile2Unlock.CredentialProvider
