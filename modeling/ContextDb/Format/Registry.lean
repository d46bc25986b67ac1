import ContextDb.Lib.Text
import ContextDb.Lib.Fallible
import ContextDb.Lib.Collections

/-! Record frames: a fixed header of big-endian fields, then the payload. Encoding and decoding
are inverse to each other. -/

set_option autoImplicit false

namespace ContextDb.Format

open Lib Std BitVec

/-- Failures of record framing, compatibility checks and migration planning. -/
inductive FormatError
  | invalidIdentifier (kind value : String)
  | invalidMigrationId (value : String)
  | invalidReaderRange (readMin readMax : UInt32)
  | unknownFormatFamily (family : String)
  | duplicateReader (family : String)
  | unsupportedWriterVersion (family : String) (writer readMin readMax : UInt32)
  | unknownRequiredFeature (family feature : String)
  | duplicateMigration (migrationId : String)
  | duplicateMigrationEdge (family : String) (fromWriter toWriter : UInt32)
  | identityMigration (family : String) (writer : UInt32)
  | invalidFreeSpaceRequirement | freeSpaceEstimateOverflow
  | migrationPathUnavailable (family : String) (fromWriter toWriter : UInt32)
  | insufficientMigrationSpace (required available : Nat)
  | truncatedHeader (actual : Nat)
  | badMagic
  | payloadTooLarge (length : Nat)
  | invalidLength
  | lengthMismatch (declared actual : Nat)
  | checksumMismatch (expected actual : Nat)
deriving DecidableEq

abbrev Bytes := List UInt8

/-- The hash function, an external package. -/
structure Hasher where
  blake3 : Bytes → Vector UInt8 32

open List

def magic : Bytes := [67, 84, 88, 74]

def headerLen : Nat := 32

structure RecordEnvelope where
  (recordKind schemaVersion : BitVec 16)
  flags : BitVec 32
  commitSeq : BitVec 64
  payloadLen : BitVec 32
  payloadChecksum : BitVec 64
deriving DecidableEq

structure DecodedRecord where
  envelope : RecordEnvelope
  payload : Bytes
deriving DecidableEq

def toBytes (width : Nat) (value : BitVec (8 * width)) : Bytes :=
  toBeBytes width value.toNat

/-- A fixed-width field, as `read_u16`, `read_u32` and `read_u64` read it. -/
def readField (width : Nat) (bytes : Bytes) (offset : Nat) :
    Except FormatError (BitVec (8 * width)) := do
  ensure (offset + width ≤ bytes.length) .invalidLength
  pure (BitVec.ofNat _ (fromBeBytes ((bytes.drop offset).take width)))

/-- The fields of an envelope in their order, and the payload. -/
def layout (envelope : RecordEnvelope) (payload : Bytes) : Bytes :=
  magic ++ (toBytes 2 envelope.recordKind ++ (toBytes 2 envelope.schemaVersion ++
    (toBytes 4 envelope.flags ++ (toBytes 8 envelope.commitSeq ++
      (toBytes 4 envelope.payloadLen ++ (toBytes 8 envelope.payloadChecksum ++ payload))))))

variable (hasher : Hasher)

def checksum (payload : Bytes) : BitVec 64 :=
  BitVec.ofNat 64 (fromBeBytes ((hasher.blake3 payload).toList.take 8))

def encode (recordKind schemaVersion : BitVec 16) (flags : BitVec 32) (commitSeq : BitVec 64)
    (payload : Bytes) : Except FormatError Bytes := do
  ensure (payload.length < 2 ^ 32) (.payloadTooLarge payload.length)
  let payloadLen := BitVec.ofNat 32 payload.length
  pure (layout ⟨recordKind, schemaVersion, flags, commitSeq, payloadLen,
    checksum hasher payload⟩ payload)

def decode (frame : Bytes) : Except FormatError DecodedRecord := do
  ensure (headerLen ≤ frame.length) (.truncatedHeader frame.length)
  ensure (frame.take 4 = magic) .badMagic
  let recordKind ← readField 2 frame 4
  let schemaVersion ← readField 2 frame 6
  let flags ← readField 4 frame 8
  let commitSeq ← readField 8 frame 12
  let payloadLen ← readField 4 frame 20
  let payloadChecksum ← readField 8 frame 24
  let expectedLen := headerLen + payloadLen.toNat
  ensure (expectedLen < 2 ^ 64) .invalidLength
  ensure (frame.length = expectedLen) (.lengthMismatch payloadLen.toNat (frame.length - headerLen))
  let payload := frame.drop headerLen
  let actualChecksum := checksum hasher payload
  ensure (payloadChecksum = actualChecksum)
    (.checksumMismatch payloadChecksum.toNat actualChecksum.toNat)
  pure ⟨⟨recordKind, schemaVersion, flags, commitSeq, payloadLen, payloadChecksum⟩, payload⟩

variable {width offset : Nat} {value : BitVec (8 * width)} {bytes rest : Bytes}

@[simp] theorem length_toBytes : (toBytes width value).length = width :=
  length_toBeBytes

theorem pow_bytes (width : Nat) : 2 ^ (8 * width) = 256 ^ width := by
  rw [pow_mul]
  rfl

theorem toBytes_fromBeBytes (exact_ : bytes.length = width) :
    toBytes width (BitVec.ofNat _ (fromBeBytes bytes)) = bytes := by
  subst exact_
  rw [toBytes, toNat_ofNat, pow_bytes, Nat.mod_eq_of_lt fromBeBytes_lt, toBeBytes_fromBeBytes]

theorem fromBeBytes_toBytes : BitVec.ofNat (8 * width) (fromBeBytes
    (toBytes width value)) = value := by
  have bounded := value.isLt
  rw [pow_bytes] at bounded
  rw [toBytes, fromBeBytes_toBeBytes bounded, BitVec.ofNat_toNat, BitVec.setWidth_eq]

/-- A field that is read is what stands at its offset. -/
theorem readField_ok (success : readField width bytes offset = .ok value) :
    toBytes width value ++ bytes.drop (offset + width) = bytes.drop offset := by
  obtain ⟨inside, success⟩ := unit_ok success
  cases success
  have exact_ : ((bytes.drop offset).take width).length = width := by
    simp at inside ⊢
    omega
  rw [toBytes_fromBeBytes exact_, ← drop_drop, take_append_drop]

/-- What stands at an offset is read, and the next field follows it. -/
theorem readField_of_drop (positive : 0 < width) (stands : bytes.drop offset =
    toBytes width value ++ rest) :
    readField width bytes offset = .ok value ∧ bytes.drop (offset + width) = rest := by
  have length := congrArg length stands
  simp only [length_drop, length_append, length_toBytes] at length
  constructor
  · unfold readField
    rw [ensure, if_pos (by simp; omega), ok_bind, stands, take_left' length_toBytes,
      fromBeBytes_toBytes]
    rfl
  · rw [← drop_drop, stands, drop_left' length_toBytes]

variable {hasher}

/-- Every check of the decoder is a fact the encoder establishes again, field by field from the
payload to the front. -/
theorem encode_of_decode {frame : Bytes} {record : DecodedRecord}
    (success : decode hasher frame = .ok record) :
    encode hasher record.envelope.recordKind record.envelope.schemaVersion record.envelope.flags
      record.envelope.commitSeq record.payload = .ok frame := by
  obtain ⟨long, success⟩ := unit_ok success
  obtain ⟨marked, success⟩ := unit_ok success
  obtain ⟨kind, readKind, success⟩ := bind_ok success
  obtain ⟨version, readVersion, success⟩ := bind_ok success
  obtain ⟨flags, readFlags, success⟩ := bind_ok success
  obtain ⟨sequence, readSequence, success⟩ := bind_ok success
  obtain ⟨length, readLength, success⟩ := bind_ok success
  obtain ⟨sum, readSum, success⟩ := bind_ok success
  have success := rest_ok success
  obtain ⟨sized, success⟩ := unit_ok success
  obtain ⟨summed, success⟩ := unit_ok success
  cases success
  simp only [ensure_ok_iff, decide_eq_true_eq] at marked sized summed
  have declared : (frame.drop headerLen).length = length.toNat := by
    rw [length_drop, sized]
    omega
  have fits : (frame.drop headerLen).length < 2 ^ 32 := declared ▸ length.isLt
  have sumField : toBytes 8 sum ++ frame.drop headerLen = frame.drop 24 := readField_ok readSum
  have lengthField : toBytes 4 length ++ frame.drop 24 = frame.drop 20 := readField_ok readLength
  have sequenceField : toBytes 8 sequence ++ frame.drop 20 = frame.drop 12 :=
    readField_ok readSequence
  have flagsField : toBytes 4 flags ++ frame.drop 12 = frame.drop 8 := readField_ok readFlags
  have versionField : toBytes 2 version ++ frame.drop 8 = frame.drop 6 := readField_ok readVersion
  have kindField : toBytes 2 kind ++ frame.drop 6 = frame.drop 4 := readField_ok readKind
  have whole : layout ⟨kind, version, flags, sequence, length, sum⟩
    (frame.drop headerLen) = frame := by
    simp only [layout]
    rw [sumField, lengthField, sequenceField, flagsField, versionField, kindField, ← marked,
      take_append_drop]
  unfold encode
  rw [ensure, if_pos (by simpa using fits), ok_bind, declared, ofNat_toNat, setWidth_eq, ← summed]
  exact congrArg Except.ok whole

theorem decode_layout {envelope : RecordEnvelope} {payload : Bytes}
    (declared : envelope.payloadLen.toNat = payload.length)
    (summed : envelope.payloadChecksum = checksum hasher payload) :
    decode hasher (layout envelope payload) = .ok ⟨envelope, payload⟩ := by
  have length : (layout envelope payload).length = headerLen + payload.length := by
    simp [layout, magic, headerLen]
    omega
  have marked : (layout envelope payload).take 4 = magic := take_left' rfl
  obtain ⟨readKind, afterKind⟩ := readField_of_drop (by decide)
    (drop_left' rfl : (layout envelope payload).drop 4 = toBytes 2 envelope.recordKind ++ _)
  obtain ⟨readVersion, afterVersion⟩ := readField_of_drop (by decide) afterKind
  obtain ⟨readFlags, afterFlags⟩ := readField_of_drop (by decide) afterVersion
  obtain ⟨readSequence, afterSequence⟩ := readField_of_drop (by decide) afterFlags
  obtain ⟨readLength, afterLength⟩ := readField_of_drop (by decide) afterSequence
  obtain ⟨readSum, afterSum⟩ := readField_of_drop (by decide) afterLength
  have bounded := envelope.payloadLen.isLt
  have addressable : headerLen + envelope.payloadLen.toNat < 2 ^ 64 := by
    simp only [headerLen]
    omega
  have content : (layout envelope payload).drop headerLen = payload := afterSum
  refine bind_ok_iff.mpr ⟨(), by simp [length], bind_ok_iff.mpr ⟨(), by simp [marked], ?_⟩⟩
  refine bind_ok_iff.mpr ⟨_, readKind, bind_ok_iff.mpr ⟨_, readVersion, ?_⟩⟩
  refine bind_ok_iff.mpr ⟨_, readFlags, bind_ok_iff.mpr ⟨_, readSequence, ?_⟩⟩
  refine bind_ok_iff.mpr ⟨_, readLength, bind_ok_iff.mpr ⟨_, readSum, ?_⟩⟩
  refine bind_ok_iff.mpr ⟨(), by simpa using addressable, ?_⟩
  refine bind_ok_iff.mpr ⟨(), by simp [length, declared], ?_⟩
  refine bind_ok_iff.mpr ⟨(), by simp [content, summed], ?_⟩
  rw [content]
  rfl

/-- The frame of a payload that fits decodes to exactly what was encoded. A byte string that
decodes is the frame of what it decodes to, so no two decode to one record. -/
theorem frames_bijective (hasher : Hasher) :
    (∀ recordKind schemaVersion flags commitSeq (payload : Bytes), payload.length < 2 ^ 32 →
      ∃ frame, encode hasher recordKind schemaVersion flags commitSeq payload = .ok frame ∧
        decode hasher frame = .ok ⟨⟨recordKind, schemaVersion, flags, commitSeq,
          BitVec.ofNat 32 payload.length, checksum hasher payload⟩, payload⟩) ∧
    (∀ frame record, decode hasher frame = .ok record →
      encode hasher record.envelope.recordKind record.envelope.schemaVersion record.envelope.flags
        record.envelope.commitSeq record.payload = .ok frame) ∧
    (∀ left right record, decode hasher left = .ok record → decode hasher right = .ok record →
      left = right) ∧
    ∀ frame, (∃ record, decode hasher frame = .ok record) ∨
      ∃ error, decode hasher frame = .error error := by
  refine ⟨?_, fun _ _ => encode_of_decode, ?_, ?_⟩
  · intro recordKind schemaVersion flags commitSeq payload fits
    refine ⟨_, ?_, decode_layout (by rw [toNat_ofNat, Nat.mod_eq_of_lt fits]) rfl⟩
    unfold encode
    rw [ensure, if_pos (by simpa using fits), ok_bind]
    rfl
  · intro left right record first second
    have same := (encode_of_decode first).symm.trans (encode_of_decode second)
    simpa using same
  · intro frame
    cases decode hasher frame with
    | ok record => exact .inl ⟨record, rfl⟩
    | error error => exact .inr ⟨error, rfl⟩

/-! The registry of reader capabilities and migration edges. A rejected registration leaves it
alone, except that a second reader of a family replaces the first. -/

/-- ASCII tests; a character outside ASCII fails them as its bytes do. -/
def validateIdentifier (kind value : String) : Except FormatError Unit :=
  match value.toList with
  | [] => .error (.invalidIdentifier kind value)
  | first :: rest =>
    ensure (first.isLower && rest.all fun character =>
        character.isLower || character.isDigit || character == '_' || character == '-')
      (.invalidIdentifier kind value)

/-- Capital letters and at least four digits around the last hyphen. -/
def validateMigrationId (value : String) : Except FormatError Unit :=
  let backwards := value.toList.reverse
  let sequence := backwards.takeWhile (· != '-')
  match backwards.dropWhile (· != '-') with
  | [] => .error (.invalidMigrationId value)
  | _ :: stem =>
    ensure (!stem.isEmpty && stem.all Char.isUpper && 4 ≤ sequence.length &&
      sequence.all Char.isDigit) (.invalidMigrationId value)

structure StoredFormatManifest where
  family : String
  writer : UInt32
  requiredFeatures : BTreeSet String

def StoredFormatManifest.validate (stored : StoredFormatManifest) : Except FormatError Unit := do
  validateIdentifier "format family" stored.family
  forM stored.requiredFeatures.toList (validateIdentifier "required format feature")

structure ReaderCapability where
  (readMin readMax : UInt32)
  supportedFeatures : BTreeSet String

namespace ReaderCapability

def validate (capability : ReaderCapability) : Except FormatError Unit := do
  ensure (capability.readMin ≤ capability.readMax)
    (.invalidReaderRange capability.readMin capability.readMax)
  forM capability.supportedFeatures.toList (validateIdentifier "supported format feature")

def ensureCanRead (capability : ReaderCapability) (stored : StoredFormatManifest) :
    Except FormatError Unit := do
  capability.validate
  stored.validate
  ensure (capability.readMin ≤ stored.writer && stored.writer ≤ capability.readMax)
    (.unsupportedWriterVersion stored.family stored.writer capability.readMin capability.readMax)
  match (BTreeSet.difference stored.requiredFeatures capability.supportedFeatures).toList with
  | feature :: _ => .error (.unknownRequiredFeature stored.family feature)
  | [] => pure ()

end ReaderCapability

inductive RollbackPolicy
  | switchToUntouchedSource | verifiedReverseMigration | unsupported
deriving DecidableEq

structure FreeSpaceRequirement where
  fixedBytes : UInt64
  (sourceMultiplierNumerator sourceMultiplierDenominator : UInt32)

/-- The intermediate values are unsigned 128-bit integers. -/
def FreeSpaceRequirement.estimate (requirement : FreeSpaceRequirement) (sourceBytes : UInt64) :
    Except FormatError Nat := do
  let denominator := requirement.sourceMultiplierDenominator.toNat
  ensure (denominator != 0) .invalidFreeSpaceRequirement
  let numerator := sourceBytes.toNat * requirement.sourceMultiplierNumerator.toNat
  ensure (numerator < 2 ^ 128) .freeSpaceEstimateOverflow
  ensure (numerator + (denominator - 1) < 2 ^ 128) .freeSpaceEstimateOverflow
  let total := (numerator + (denominator - 1)) / denominator + requirement.fixedBytes.toNat
  ensure (total < 2 ^ 128) .freeSpaceEstimateOverflow
  ensure (total < 2 ^ 64) .freeSpaceEstimateOverflow
  pure total

structure MigrationDescriptor where
  (migrationId family : String)
  (fromWriter toWriter : UInt32)
  rollback : RollbackPolicy
  requiredFreeSpace : FreeSpaceRequirement
  checksumPlan : String

def MigrationDescriptor.validate (migration : MigrationDescriptor) : Except FormatError Unit := do
  validateMigrationId migration.migrationId
  validateIdentifier "format family" migration.family
  validateIdentifier "checksum plan" migration.checksumPlan
  ensure (migration.fromWriter != migration.toWriter)
    (.identityMigration migration.family migration.fromWriter)
  discard (migration.requiredFreeSpace.estimate 0)

structure MigrationPlan where
  family : String
  (fromWriter toWriter : UInt32)
  steps : List MigrationDescriptor
  requiredFreeSpaceBytes : Nat
  rollbackSupported : Bool

structure FormatRegistry where
  readers : BTreeMap String ReaderCapability
  migrations : BTreeMap String MigrationDescriptor

/-- The writers to visit, each with the ids of the migrations that lead there. -/
abbrev Frontier := List (UInt32 × List String) × BTreeSet UInt32

namespace FormatRegistry

def new : FormatRegistry := ⟨∅, ∅⟩

variable (registry : FormatRegistry) (family : String)

def checkReader (capability : ReaderCapability) : Except FormatError Unit := do
  validateIdentifier "format family" family
  capability.validate

/-- The capability is inserted before the duplicate is reported. -/
def registerReader (capability : ReaderCapability) : Except FormatError Unit × FormatRegistry :=
  match checkReader family capability with
  | .error error => (.error error, registry)
  | .ok () =>
    let inserted := { registry with readers := registry.readers.insert family capability }
    if registry.readers.contains family then (.error (.duplicateReader family), inserted)
    else (.ok (), inserted)

def checkMigration (migration : MigrationDescriptor) : Except FormatError Unit := do
  migration.validate
  ensure (!registry.migrations.contains migration.migrationId)
    (.duplicateMigration migration.migrationId)
  ensure (!registry.migrations.inOrder.any fun existing => existing.family == migration.family &&
      existing.fromWriter == migration.fromWriter && existing.toWriter == migration.toWriter)
    (.duplicateMigrationEdge migration.family migration.fromWriter migration.toWriter)

def registerMigration (migration : MigrationDescriptor) :
    Except FormatError Unit × FormatRegistry :=
  match registry.checkMigration migration with
  | .error error => (.error error, registry)
  | .ok () => (.ok (), { registry with
      migrations := registry.migrations.insert migration.migrationId migration })

def ensureReadable (stored : StoredFormatManifest) : Except FormatError Unit := do
  stored.validate
  match registry.readers[stored.family]? with
  | none => .error (.unknownFormatFamily stored.family)
  | some reader => reader.ensureCanRead stored

/-- The edges out of a writer, in the order the planner tries them. -/
def outgoing (writer : UInt32) : List MigrationDescriptor :=
  (registry.migrations.inOrder.filter fun migration =>
    migration.family == family && migration.fromWriter == writer).mergeSort fun left right =>
      ((compare left.toWriter right.toWriter).then
        (compare left.migrationId right.migrationId)).isLE

/-- The loop over the edges out of a writer that `path` leads to. -/
def expand (toWriter : UInt32) (path : List String) :
    List MigrationDescriptor → Frontier → Option (List String) × Frontier
  | [], frontier => (none, frontier)
  | migration :: rest, (queue, visited) =>
    if visited.contains migration.toWriter then expand toWriter path rest (queue, visited)
    else
      let next := path ++ [migration.migrationId]
      let visited := visited.insert migration.toWriter
      if migration.toWriter = toWriter then (some next, queue, visited)
      else expand toWriter path rest (queue ++ [(migration.toWriter, next)], visited)

/-- The queue loop; every writer is queued once, which bounds the rounds. -/
def search (registry : FormatRegistry) (family : String) (toWriter : UInt32) : Nat → Frontier →
    Option (List String)
  | 0, _ | _, ([], _) => none
  | rounds + 1, ((writer, path) :: queue, visited) =>
    match expand toWriter path (registry.outgoing family writer) (queue, visited) with
    | (some found, _) => some found
    | (none, frontier) => registry.search family toWriter rounds frontier

def planMigration (fromWriter toWriter : UInt32)
    (sourceBytes availableFreeSpace : UInt64) : Except FormatError MigrationPlan := do
  validateIdentifier "format family" family
  if fromWriter = toWriter then
    pure ⟨family, fromWriter, toWriter, [], 0, true⟩
  else
    match registry.search family toWriter (registry.migrations.size + 1)
      ([(fromWriter, [])], (∅ : BTreeSet UInt32).insert fromWriter) with
    | none => .error (.migrationPathUnavailable family fromWriter toWriter)
    | some migrationIds => do
      let steps := migrationIds.filterMap fun id => registry.migrations[id]?
      let required ← steps.foldlM (fun required step => do
        pure (max required (← step.requiredFreeSpace.estimate sourceBytes))) 0
      ensure (required ≤ availableFreeSpace.toNat)
        (.insufficientMigrationSpace required availableFreeSpace.toNat)
      pure ⟨family, fromWriter, toWriter, steps, required,
        steps.all fun step => step.rollback != .unsupported⟩

end FormatRegistry

inductive Registration
  | reader (family : String) (capability : ReaderCapability)
  | migration (migration : MigrationDescriptor)

namespace FormatRegistry

def register (registry : FormatRegistry) : Registration → Except FormatError Unit × FormatRegistry
  | .reader family capability => registry.registerReader family capability
  | .migration migration => registry.registerMigration migration

/-- A valid second reader of a family, different from the first. -/
def Replaces (registry : FormatRegistry) : Registration → Prop
  | .reader family capability => checkReader family capability = .ok () ∧
      ∃ earlier, registry.readers[family]? = some earlier ∧ earlier ≠ capability
  | .migration _ => False

variable {registry : FormatRegistry} {call : Registration} {error : FormatError}

theorem registerReader_unchanged_iff {family : String} {capability : ReaderCapability}
    (rejected : (registry.registerReader family capability).1 = .error error) :
    (registry.registerReader family capability).2 = registry ↔
      ¬registry.Replaces (.reader family capability) := by
  unfold registerReader at rejected ⊢
  unfold Replaces
  cases checked : checkReader family capability with
  | error error => simp [checked]
  | ok done =>
    rw [checked] at rejected
    have present : registry.readers.contains family = true := by
      by_contra absent
      simp [absent] at rejected
    obtain ⟨earlier, found⟩ : ∃ earlier, registry.readers[family]? = some earlier := by
      rw [← Option.isSome_iff_exists, ExtTreeMap.isSome_getElem?_eq_contains, present]
    simp only [checked, present, ↓reduceIte, found, Option.some.injEq, exists_eq_left', true_and,
      ne_eq, Classical.not_not]
    constructor
    · intro unchanged
      have same := congrArg (fun registry => registry.readers[family]?) unchanged
      simpa [found, eq_comm] using same
    · rintro rfl
      have kept : registry.readers.insert family earlier = registry.readers := by
        refine ExtTreeMap.ext_getElem? fun other => ?_
        by_cases same : family = other
        · rw [← same, ExtTreeMap.getElem?_insert_self, found]
        · exact BTreeMap.getElem?_insert_of_ne same
      rw [kept]

theorem registerMigration_unchanged {migration : MigrationDescriptor}
    (rejected : (registry.registerMigration migration).1 = .error error) :
    (registry.registerMigration migration).2 = registry := by
  unfold registerMigration at *
  split at rejected
  · rfl
  · cases rejected

/-- A rejected registration goes unnoticed exactly when it is not a valid second reader that
differs from the registered one. -/
theorem rejected_registration_unnoticed_iff (rejected : (registry.register call).1 = .error error) :
    ((registry.register call).2 = registry ∧
      (∀ stored, (registry.register call).2.ensureReadable stored =
        registry.ensureReadable stored) ∧
      ∀ family fromWriter toWriter sourceBytes availableFreeSpace,
        (registry.register call).2.planMigration family fromWriter toWriter sourceBytes availableFreeSpace =
          registry.planMigration family fromWriter toWriter sourceBytes availableFreeSpace) ↔
    ¬registry.Replaces call := by
  have unchanged : (registry.register call).2 = registry ↔ ¬registry.Replaces call := by
    cases call with
    | reader family capability => exact registerReader_unchanged_iff rejected
    | migration migration => exact iff_of_true (registerMigration_unchanged rejected) id
  rw [← unchanged]
  refine ⟨fun held => held.1, fun same => ⟨same, fun stored => by rw [same], ?_⟩⟩
  intro family fromWriter toWriter sourceBytes availableFreeSpace
  rw [same]

/-- A registry that reads storage from version 1 up to the given one. -/
def storageReader (readMax : UInt32) : Registration := .reader "storage" ⟨1, readMax, ∅⟩

theorem repeated_reader_unnoticed : let registry := (new.register (storageReader 1)).2
    (registry.register (storageReader 1)).2 = registry := by
  intro registry
  have rejected : (registry.register (storageReader 1)).1 = .error
    (.duplicateReader "storage") := by
    decide +kernel
  refine ((rejected_registration_unnoticed_iff rejected).mpr ?_).1
  rintro ⟨_, earlier, found, different⟩
  have stored : registry.readers["storage"]? = some ⟨1, 1, ∅⟩ := by
    simp [registry, register, registerReader, storageReader, new,
      show checkReader "storage" ⟨1, 1, ∅⟩ = .ok () by decide +kernel]
  exact different (Option.some.inj (found.symm.trans stored))

/-- The rejected second reader opens what the registered one refused. -/
theorem duplicate_reader_replaces_first : let registry := (new.register (storageReader 1)).2
    let rejected := registry.register (storageReader 2)
    rejected.1 = .error (.duplicateReader "storage") ∧
      registry.ensureReadable ⟨"storage", 2, ∅⟩ = .error
        (.unsupportedWriterVersion "storage" 2 1 1) ∧
      rejected.2.ensureReadable ⟨"storage", 2, ∅⟩ = .ok () := by
  decide +kernel

end FormatRegistry

end ContextDb.Format
