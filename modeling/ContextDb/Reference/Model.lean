import ContextDb.Core.Semantic

/-! Access labels and the authorization gate of the correctness oracle. The gate
reads only non-content policy metadata. -/

set_option autoImplicit false

namespace ContextDb.Reference

open Lib Std ContextDb.Core

abbrev LogicalId := String

inductive Sensitivity
  | «public»
  | internal
  | «private»
  | restricted
deriving DecidableEq

def Sensitivity.rank : Sensitivity → Nat
  | .public => 0
  | .internal => 1
  | .private => 2
  | .restricted => 3

inductive Consent
  | granted | unknown | denied
deriving DecidableEq

structure AccessLabel where
  workspace : LogicalId
  (scopes owners audience : BTreeSet LogicalId)
  audiencePurposeGrants : BTreeMap LogicalId (BTreeSet String)
  purposes : BTreeSet String
  sensitivity : Sensitivity
  consent : Consent
  retrievable : Bool
deriving DecidableEq

structure Principal where
  subject : LogicalId
  audiences : BTreeSet LogicalId
  workspace : LogicalId
  scopes : BTreeSet LogicalId
  purpose : String
  clearance : Sensitivity
deriving DecidableEq

namespace Principal

variable (principal : Principal)

def audienceKeys (isOwner : Bool) : List LogicalId :=
  principal.subject :: "*" :: ((if isOwner then ["@owner"] else []) ++ principal.audiences.toList)

variable (label : AccessLabel)

def purposeAdmitted : Bool :=
  label.purposes.isEmpty || label.purposes.contains principal.purpose

/-- Audience check. Paired grants, once present, replace the Cartesian fields. -/
def hasAudienceGrant : Bool :=
  let isOwner := label.owners.contains principal.subject
  if label.audiencePurposeGrants.isEmpty then
    (label.audience.contains principal.subject || label.audience.contains "*") && principal.purposeAdmitted label ||
      isOwner && principal.purposeAdmitted label
  else
    (principal.audienceKeys isOwner).any fun audience =>
      label.audiencePurposeGrants[audience]?.any (·.contains principal.purpose)

def hasScope : Bool :=
  label.scopes.isEmpty || BTreeSet.anyElement label.scopes principal.scopes.contains

def allows : Bool :=
  if label.workspace != principal.workspace || label.consent != .granted ||
      !label.retrievable || principal.clearance.rank < label.sensitivity.rank then
    false
  else
    principal.hasAudienceGrant label && principal.hasScope label

theorem allows_iff {principal : Principal} {label : AccessLabel} : principal.allows label = true ↔
      label.workspace = principal.workspace ∧ label.consent = .granted ∧
        label.retrievable = true ∧ label.sensitivity.rank ≤ principal.clearance.rank ∧
        principal.hasAudienceGrant label = true ∧ principal.hasScope label = true := by
  simp only [allows]
  split
  · rename_i rejected
    simp only [Bool.or_eq_true, bne_iff_ne, ne_eq, Bool.not_eq_true', decide_eq_true_eq] at rejected
    constructor
    · simp
    · rintro ⟨workspace, consent, retrievable, sensitivity, _, _⟩
      rcases rejected with ((other | other) | other) | other
      · exact absurd workspace other
      · exact absurd consent other
      · simp [retrievable] at other
      · omega
  · rename_i passed
    simp only [Bool.or_eq_true, bne_iff_ne, ne_eq, Bool.not_eq_true', decide_eq_true_eq, not_or,
      Decidable.not_not, Bool.not_eq_false, Nat.not_lt] at passed
    obtain ⟨⟨⟨workspace, consent⟩, retrievable⟩, sensitivity⟩ := passed
    simp [workspace, consent, retrievable, sensitivity]

theorem allows_workspace {principal : Principal} {label : AccessLabel}
    (allowed : principal.allows label = true) : label.workspace = principal.workspace :=
  (allows_iff.mp allowed).1

end Principal

/-! Records, transactions, journal entries and read results of the reference
oracle. Commit sequences are naturals bounded where the source increments them. -/

structure ValidTime where
  (start finish : Option Int)
deriving DecidableEq

def ValidTime.isValid (time : ValidTime) : Bool :=
  match time.start, time.finish with
  | some start, some finish => start < finish
  | _, _ => true

inductive RecordKind
  | node | claim | edge | conflict | evidence | candidate | semanticObject | runtimeState
  | domainExtension
deriving DecidableEq

def RecordKind.debug : RecordKind → String
  | .node => "Node"
  | .claim => "Claim"
  | .edge => "Edge"
  | .conflict => "Conflict"
  | .evidence => "Evidence"
  | .candidate => "Candidate"
  | .semanticObject => "SemanticObject"
  | .runtimeState => "RuntimeState"
  | .domainExtension => "DomainExtension"

inductive Lifecycle
  | active | superseded | retracted | suppressed
deriving DecidableEq

structure SemanticLinks where
  (subject source target predicate conflictSet : Option LogicalId)
  (supersedes evidence conflictMembers : BTreeSet LogicalId)
  singleValued : Bool
deriving DecidableEq

structure LogicalRecordMetadata where
  kind : RecordKind
  access : AccessLabel
  validTime : ValidTime
  lifecycle : Lifecycle
  links : SemanticLinks
deriving DecidableEq

structure RecordContent where
  value : Value
  searchText : Option String
  vector : Option (List F32)
  attributes : BTreeMap String Value

structure LogicalRecord where
  id : LogicalId
  kind : RecordKind
  access : AccessLabel
  validTime : ValidTime
  lifecycle : Lifecycle
  links : SemanticLinks
  value : Value
  searchText : Option String
  vector : Option (List F32)
  attributes : BTreeMap String Value

namespace LogicalRecord

def metadata (record : LogicalRecord) : LogicalRecordMetadata where
  kind := record.kind
  access := record.access
  validTime := record.validTime
  lifecycle := record.lifecycle
  links := record.links

def content (record : LogicalRecord) : RecordContent where
  value := record.value
  searchText := record.searchText
  vector := record.vector
  attributes := record.attributes

end LogicalRecord

structure ContentRef where
  (id digest : String)
deriving DecidableEq

structure StoredRevision where
  id : LogicalId
  (revision transactionFrom : Nat)
  transactionTo : Option Nat
  record : LogicalRecordMetadata
  content : ContentRef
deriving DecidableEq

structure MaterializedRecord where
  revision : StoredRevision
  content : RecordContent

inductive Mutation
  | put (record : LogicalRecord) (expectedRevision : Option Nat)
  | correct (target : LogicalId) (replacement : LogicalRecord)
  | retract (target : LogicalId)
  | delete (target requestedBy : LogicalId) (reason : String)

structure SemanticTransaction where
  baseSeq : Nat
  idempotencyKey : String
  mutations : List Mutation

structure ObservationInput where
  idempotencyKey : String
  observationId : LogicalId
  access : AccessLabel
  metadata : BTreeMap String Value
  content : Value

structure Snapshot where
  databaseId : String
  (commitSeq semanticGeneration storageGeneration : Nat)
deriving DecidableEq

structure Watermarks where
  (journal semantic lexical vector graph : Nat)
deriving DecidableEq

def Watermarks.default : Watermarks :=
  ⟨0, 0, 0, 0, 0⟩

structure CommitReceipt where
  commitSeq : Nat
  replayed : Bool
  requestDigest : String
  watermarks : Watermarks
deriving DecidableEq

structure ObservationRecord where
  observationId : LogicalId
  acceptedSeq : Nat
  access : AccessLabel
  content : ContentRef
  metadata : BTreeMap String Value

structure DeletionTombstone where
  (target requestedBy : LogicalId)
  reason : String
  effectiveSeq : Nat
  erasedContentRefs : BTreeSet String
deriving DecidableEq

inductive JournalEvent
  | observationAccepted (observationId : LogicalId) (requestDigest : String) (requestContent : ContentRef)
  | semanticPublished (requestDigest : String) (requestContent : ContentRef) (affectedIds : BTreeSet LogicalId)
deriving DecidableEq

structure JournalRecord where
  commitSeq : Nat
  previousDigest : Option String
  recordDigest : String
  event : JournalEvent
deriving DecidableEq

structure IdempotencyRecord where
  requestDigest : String
  receipt : CommitReceipt
deriving DecidableEq

inductive WorkspaceEventCandidateKind
  | observationAccepted (observationId : LogicalId)
  | semanticRecordChanged (recordId : LogicalId)
  | semanticWatermark
deriving DecidableEq

structure WorkspaceEventCandidate where
  (workspaceSeq ordinal commitSeq : Nat)
  recordDigest : String
  kind : WorkspaceEventCandidateKind
deriving DecidableEq

structure WorkspaceEventPage where
  candidates : List WorkspaceEventCandidate
  scannedThrough : Nat × Nat
  hasMore : Bool
deriving DecidableEq

structure LogicalExport where
  (format databaseId : String)
  head : Nat
  watermarks : Watermarks
  histories : BTreeMap LogicalId (List StoredRevision)
  observations : BTreeMap LogicalId ObservationRecord
  tombstones : BTreeMap LogicalId DeletionTombstone
  journal : List JournalRecord
  idempotency : BTreeMap String IdempotencyRecord
  contents : BTreeMap String Value

inductive Direction
  | outgoing | incoming | both
deriving DecidableEq

structure SearchHit where
  id : LogicalId
  score : F32
deriving DecidableEq

structure ReadTrace where
  snapshotSeq : Nat
  operation : String
  authorizedCandidates : Nat
  selectedIds : List LogicalId
  watermarks : Watermarks
deriving DecidableEq

structure Traced (Result : Type) where
  value : Result
  trace : ReadTrace

inductive Failpoint
  | none | beforePublish | afterPublish
deriving DecidableEq

inductive ReferenceError
  | snapshotConflict (expected current : Nat)
  | idempotencyConflict (keyDigest : String)
  | snapshotNotFound (requested head : Nat)
  | notFound (kind id : String)
  | unauthorized | resourceExhausted
  | invariant (reason : String)
  | invalidImport (reason : String)
  | serialization (reason : String)
  | injectedCrash (point : String)
deriving DecidableEq

abbrev Result := Except ReferenceError

/-! Canonical serialization and content references. The JSON library and the hash
function are parameters; key sorting, digest inputs and content identifiers are
those of the oracle. -/

/-- The serializer and the hash function the oracle relies on. A failure carries the
library's message. -/
structure Codec where
  contentToValue : RecordContent → Except String Value
  contentFromValue : Value → Except String RecordContent
  observationToValue : ObservationInput → Except String Value
  transactionToValue : SemanticTransaction → Except String Value
  exportToValue : LogicalExport → Except String Value
  toVec : Value → Except String (List UInt8)
  hash : List UInt8 → String
  hash_hex : ∀ bytes, ∀ character ∈ (hash bytes).toList, isHexDigit character = true

mutual

def canonicalize : Value → Value
  | .array values => .array (canonicalizeAll values)
  | .object fields => .object (ExtTreeMap.ofList (canonicalizeFields fields)).toList
  | scalar => scalar

def canonicalizeAll : List Value → List Value
  | [] => []
  | value :: rest => canonicalize value :: canonicalizeAll rest

def canonicalizeFields : List (String × Value) → List (String × Value)
  | [] => []
  | (key, value) :: rest => (key, canonicalize value) :: canonicalizeFields rest

end

def unsigned (value : Nat) : Value :=
  .number (.posInt value.toUInt64)

def ContentRef.toValue (reference : ContentRef) : Value :=
  .object [("id", .string reference.id), ("digest", .string reference.digest)]

/-- Internally tagged by `event`, as the journal serializes it. -/
def JournalEvent.toValue : JournalEvent → Value
  | .observationAccepted observationId requestDigest requestContent =>
    .object [("event", .string "observation_accepted"), ("observation_id", .string observationId),
      ("request_digest", .string requestDigest), ("request_content", requestContent.toValue)]
  | .semanticPublished requestDigest requestContent affectedIds =>
    .object [("event", .string "semantic_published"), ("request_digest", .string requestDigest),
      ("request_content", requestContent.toValue), ("affected_ids", .array (affectedIds.toList.map .string))]

namespace Codec

variable (codec : Codec)

/-- Serialize after sorting keys. The argument is the value as converted to JSON,
or the failure of that conversion. -/
def canonicalVec (encoded : Except String Value) : Result (List UInt8) := do
  let value ← encoded.mapError .serialization
  (codec.toVec (canonicalize value)).mapError .serialization

def digest (encoded : Except String Value) : Result String := do
  let bytes ← codec.canonicalVec encoded
  pure (codec.hash bytes)

def operationDigest (operation : String) (encoded : Except String Value) : Result String :=
  codec.digest do
    let value ← encoded
    pure (.object [("operation", .string operation), ("value", value)])

def keyDigest (key : String) : String :=
  codec.hash key.toUTF8.data.toList

def journalDigest (commitSeq : Nat) (previousDigest : Option String) (event : JournalEvent) : Result String :=
  codec.digest (.ok (.object [("commit_seq", unsigned commitSeq),
    ("previous_digest", previousDigest.elim .null .string), ("event", event.toValue)]))

def makeContentRef (kind owner : String) (commitSeq : Nat)
    (encoded : Except String Value) : Result (ContentRef × Value) := do
  let digest ← codec.digest encoded
  let value ← encoded.mapError .serialization
  pure (⟨compositeKey kind owner commitSeq digest, digest⟩, value)

end Codec

variable {codec : Codec}

theorem colon_not_mem_of_hex {text : String} (hex : ∀ character ∈ text.toList, isHexDigit character = true) : ':' ∉ text.toList := by
  intro member
  exact absurd (hex _ member) (by decide)

variable {encoded : Except String Value}

theorem Codec.digest_hex {digest : String} (computed : codec.digest encoded = .ok digest) : ':' ∉ digest.toList := by
  obtain ⟨bytes, _, hashed⟩ := bind_ok computed
  cases hashed
  exact colon_not_mem_of_hex (codec.hash_hex bytes)

def RefersTo (kind owner : String) (commitSeq : Nat) (reference : ContentRef) : Prop :=
  reference.id = compositeKey kind owner commitSeq reference.digest ∧ ':' ∉ reference.digest.toList

variable {reference : ContentRef} {kind owner : String} {commitSeq : Nat}

theorem Codec.refersTo_makeContentRef {value : Value}
    (made : codec.makeContentRef kind owner commitSeq encoded = .ok (reference, value)) : RefersTo kind owner commitSeq reference := by
  obtain ⟨digest, computed, remaining⟩ := bind_ok made
  obtain ⟨converted, _, assembled⟩ := bind_ok remaining
  cases assembled
  exact ⟨rfl, codec.digest_hex computed⟩

def ContentKey (kind owner : String) (commitSeq : Nat) (key : String) : Prop :=
  ∃ digest : String, key = compositeKey kind owner commitSeq digest ∧ ':' ∉ digest.toList

theorem RefersTo.key (shape : RefersTo kind owner commitSeq reference) : ContentKey kind owner commitSeq reference.id :=
  ⟨reference.digest, shape⟩

theorem ContentKey.inj {kind' owner' : String} {commitSeq' : Nat} {key : String}
    (shape : ContentKey kind owner commitSeq key) (shape' : ContentKey kind' owner' commitSeq' key)
    (kindPlain : ':' ∉ kind.toList) (kindPlain' : ':' ∉ kind'.toList) : kind = kind' ∧ owner = owner' ∧ commitSeq = commitSeq' := by
  obtain ⟨digest, composed, plain⟩ := shape
  obtain ⟨digest', composed', plain'⟩ := shape'
  obtain ⟨sameKind, sameOwner, sameSeq, _⟩ :=
    compositeKey_inj kindPlain kindPlain' plain plain' (composed.symm.trans composed')
  exact ⟨sameKind, sameOwner, sameSeq⟩

end ContextDb.Reference
