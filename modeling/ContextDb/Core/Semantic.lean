import ContextDb.Core.Policy

/-! Selectors into immutable content and artifact metadata. Only the artifact fields
that the graph validates or indexes are carried. -/

set_option autoImplicit false

namespace ContextDb.Core

open Lib Std

inductive EvidenceSelector
  | whole
  | byteRange (start finish : Nat)
  | characterRange (start finish : Nat)
  | jsonPointer (pointer : String)
  | lineRange (startLine startColumn endLine endColumn : Nat)
  | documentHeading (path : NonEmptyVec String)
  | astNode (language nodePath : String)
  | gitDiffHunk (path : String) (oldStart newStart : Nat)
  | imageRegion (x y width height : Nat)
  | mediaTimeRange (startMillis endMillis : Nat)
  | speakerSegment (speaker : String) (startMillis endMillis : Nat)
  | toolResultField (jsonPointer : String)
  | sensorInterval (interval : TimeRange)
deriving DecidableEq

def requireOrdered (start finish : Nat) (reason : String) : ValidationResult :=
  ensure (start < finish) (.invalidEvidenceSelector reason)

def validatePointer (pointer : String) : ValidationResult :=
  ensure (pointer.toList.head? = some '/') (.invalidEvidenceSelector "JSON Pointer must start with '/'")

def EvidenceSelector.validate : EvidenceSelector → ValidationResult
  | .whole => .ok ()
  | .byteRange start finish => requireOrdered start finish "range must be non-empty"
  | .characterRange start finish => requireOrdered start finish "range must be non-empty"
  | .jsonPointer pointer => validatePointer pointer
  | .lineRange startLine startColumn endLine endColumn =>
    ensure (startLine ≠ 0 && endLine ≠ 0 &&
        (startLine < endLine || (startLine = endLine && startColumn < endColumn)))
      (.invalidEvidenceSelector "line range must use one-based lines and be non-empty")
  | .documentHeading path => forM path.toList fun heading =>
    validateNonBlank heading "selector.heading"
  | .astNode language nodePath => do
      validateNonBlank language "selector.language"
      validateNonBlank nodePath "selector.node_path"
  | .gitDiffHunk path _ _ => validateNonBlank path "selector.path"
  | .imageRegion _ _ width height =>
    ensure (width ≠ 0 && height ≠ 0)
      (.invalidEvidenceSelector "image region must have positive width and height")
  | .mediaTimeRange startMillis endMillis =>
    requireOrdered startMillis endMillis "media range must be non-empty"
  | .speakerSegment speaker startMillis endMillis => do
      validateNonBlank speaker "selector.speaker"
      requireOrdered startMillis endMillis "speaker range must be non-empty"
  | .toolResultField pointer => validatePointer pointer
  | .sensorInterval interval => interval.validate

inductive Modality
  | text | image | audio | video | structured | code | sensor
  | other (label : String)
deriving DecidableEq

/-- Immutable source artifact. Its content references are opaque to the graph. -/
structure Artifact where
  id : ArtifactId
  modality : Modality
  mediaType : String
  nativeLocator : Option String
  envelope : SemanticEnvelope
deriving DecidableEq

def Artifact.validate (artifact : Artifact) : ValidationResult := do
  validateNonBlank artifact.mediaType "artifact.media_type"
  match artifact.nativeLocator with
  | some locator => validateNonBlank locator "artifact.native_locator"
  | none => .ok ()
  match artifact.modality with
  | .other label => validateNonBlank label "artifact.modality"
  | _ => .ok ()
  artifact.envelope.validate

/-! Immutable sources: where content comes from, the blocks that hold it, the spans quoted
from them and the observations that record their arrival. -/

abbrev ContentDigest := BitVec 256

def contentDigestHex (digest : ContentDigest) : String :=
  String.ofList (hexDigits 64 digest.toNat)

inductive TrustClass
  | untrusted | unknown | selfAsserted | authenticated | verified
deriving DecidableEq

inductive SourceKind
  | conversation | document | image | audio | video | tool | api | git | sensor
  | «import»
  | other (label : String)
deriving DecidableEq

structure Source where
  id : SourceId
  workspaceId : WorkspaceId
  kind : SourceKind
  nativeLocator : String
  ownerActor : Option ActorId
  ownerSubject : Option MemorySubjectId
  trust : TrustClass
  ingestionPolicy : PolicyId
  contentFingerprint : Option ContentDigest
deriving DecidableEq

def Source.validate (source : Source) : ValidationResult := do
  match source.kind with
  | .other label => validateNonBlank label "source.kind"
  | _ => .ok ()
  validateNonBlank source.nativeLocator "source.native_locator"

structure StreamPosition where
  streamId : StreamId
  ordinal : Nat
  nativeRevision : Option String
  wallTime : Option Int
deriving DecidableEq

def StreamPosition.validate (position : StreamPosition) : ValidationResult :=
  forM position.nativeRevision.toList (validateNonBlank · "stream.native_revision")

inductive ContentEncoding
  | utf8 | binary | json
  | other (label : String)
deriving DecidableEq

inductive Compression
  | none | gzip | zstd
  | other (label : String)
deriving DecidableEq

structure ContentBlock where
  id : ContentBlockId
  mediaType : String
  encoding : ContentEncoding
  compression : Compression
  byteLength : Nat
  blobLocator : String
  contentHash : ContentDigest
deriving DecidableEq

def ContentBlock.validate (block : ContentBlock) : ValidationResult := do
  validateNonBlank block.mediaType "content_block.media_type"
  validateNonBlank block.blobLocator "content_block.blob_locator"
  match block.encoding with
  | .other label => validateNonBlank label "content_block.encoding"
  | _ => .ok ()
  match block.compression with
  | .other label => validateNonBlank label "content_block.compression"
  | _ => .ok ()

/-- An artifact with its content references. They take no part in its validation. -/
structure SourceArtifact extends Artifact where
  sourceId : SourceId
  contentBlocks : NonEmptyVec ContentBlockId
  contentHash : ContentDigest
  createdAt : Option Int
  ingestedAt : Int
deriving DecidableEq

structure EvidenceSpan where
  id : EvidenceId
  observationId : ObservationId
  artifactId : Option ArtifactId
  contentBlockId : ContentBlockId
  selector : EvidenceSelector
  quoteHash : ContentDigest
  extractedText : Option String
  trust : TrustClass
  derivation : Option DerivationRef
deriving DecidableEq

def EvidenceSpan.validate (span : EvidenceSpan) : ValidationResult := do
  span.selector.validate
  ensure (span.extractedText.all (!·.isEmpty)) (.blankText "evidence.extracted_text")
  forM span.derivation.toList DerivationRef.validate

structure ObservationUnit where
  id : ObservationId
  workspaceId : WorkspaceId
  memorySpaces : NonEmptyVec MemorySpaceId
  sourceId : SourceId
  streamPosition : Option StreamPosition
  participants : NonEmptyVec ActorId
  occurredAt : TimeRange
  (observedAt recordedAt : Int)
  artifactRefs : List ArtifactId
  contentBlockRefs : List ContentBlockId
  contentHash : ContentDigest
  envelope : SemanticEnvelope
deriving DecidableEq

def ObservationUnit.validate (observation : ObservationUnit) : ValidationResult := do
  ensure (!(observation.artifactRefs.isEmpty && observation.contentBlockRefs.isEmpty)) .missingObservationContent
  observation.occurredAt.validate
  forM observation.streamPosition.toList StreamPosition.validate
  observation.envelope.validate

/-! JSON values and floating-point components. Floating-point numbers are carried as
their bit patterns. -/

inductive Number
  | posInt (value : UInt64)
  | negInt (value : Int)
  | float (bits : UInt64)
deriving DecidableEq

inductive Value
  | null
  | bool (value : Bool)
  | number (value : Number)
  | string (value : String)
  | array (values : List Value)
  | object (fields : List (String × Value))

structure F32 where
  bits : BitVec 32
deriving DecidableEq

namespace F32

variable (value : F32)

def isFinite : Bool :=
  value.bits.toNat / 0x800000 % 0x100 != 0xff

/-- Position in the IEEE total order: negative patterns are mirrored below the
positive ones. -/
def totalRank : Nat :=
  if value.bits.toNat < 0x80000000 then value.bits.toNat + 0x80000000
  else 0xffffffff - value.bits.toNat

/-- Membership in the closed unit interval: the non-negative patterns are ordered as
their values, and negative zero compares equal to zero. -/
def inUnitRange : Bool :=
  value.bits.toNat ≤ 0x3f800000 || value.bits.toNat == 0x80000000

def isNan : Bool :=
  value.bits.toNat % 0x80000000 > 0x7f800000

/-- Numeric position: the magnitude of the pattern under its sign, so that both zeros
meet. -/
def position : Int :=
  if value.bits.toNat < 0x80000000 then value.bits.toNat
  else -((value.bits.toNat - 0x80000000 : Nat) : Int)

/-- Numeric `≥`: false as soon as one side is not a number. -/
def atLeast (value bound : F32) : Bool :=
  !value.isNan && !bound.isNan && bound.position ≤ value.position

end F32

structure F64 where
  bits : BitVec 64
deriving DecidableEq

def F64.isFinite (value : F64) : Bool :=
  value.bits.toNat / 0x10000000000000 % 0x800 != 0x7ff

/-! The semantic multigraph: stable identities and their bitemporal revisions. -/

inductive NodeType
  | actor | entity | concept | event | claim | relationship | preference | boundary | goal
  | commitment | decision | procedure | episode | artifact | correction | conflict | reflection
  | sharedReference | selfModel | openLoop | unknown
  | domain (pack name : String)
deriving DecidableEq

def NodeType.validate : NodeType → ValidationResult
  | .domain pack name => do
      validateNonBlank pack "node_type.pack"
      validateNonBlank name "node_type.name"
  | _ => .ok ()

inductive IdentityState
  | canonical | ambiguous | redirected | split | retired
deriving DecidableEq

structure Node where
  id : NodeId
  workspaceId : WorkspaceId
  nodeType : NodeType
  createdSeq : Nat
  retiredSeq : Option Nat
  identityState : IdentityState
  primaryScope : ScopeRef
deriving DecidableEq

def Node.validate (node : Node) : ValidationResult := do
  node.nodeType.validate
  node.primaryScope.validate
  ensure (node.retiredSeq.all (node.createdSeq ≤ ·)) (.invalidState "node retired before it was created")

inductive EpistemicBasis
  | observation | actorAssertion | modelInference | deterministicDerivation | humanAdjudication
  | hypothesis
deriving DecidableEq

def EpistemicBasis.label : EpistemicBasis → String
  | .observation => "observation"
  | .actorAssertion => "actor_assertion"
  | .modelInference => "model_inference"
  | .deterministicDerivation => "deterministic_derivation"
  | .humanAdjudication => "human_adjudication"
  | .hypothesis => "hypothesis"

inductive AcceptanceState
  | proposed | validated | accepted | consolidated | rejected
deriving DecidableEq

inductive ConflictState
  | none | disputed
  | inConflict (setId : ConflictSetId)
  | resolved (setId : ConflictSetId)
deriving DecidableEq

def ConflictState.setId : ConflictState → Option ConflictSetId
  | .inConflict setId => some setId
  | .resolved setId => some setId
  | .none => Option.none
  | .disputed => Option.none

inductive LifecycleState
  | active | historical | superseded | retracted | suppressed | deleted
deriving DecidableEq

structure EpistemicState where
  basis : EpistemicBasis
  acceptance : AcceptanceState
  conflict : ConflictState
  lifecycle : LifecycleState
deriving DecidableEq

structure ConfidenceProfile where
  (overall sourceTrust extractionQuality corroboration : F32)
deriving DecidableEq

def validateUnitNumber (value : F32) (field : String) : ValidationResult :=
  ensure (value.isFinite && value.inUnitRange) (.invalidNumber field)

def ConfidenceProfile.validate (confidence : ConfidenceProfile) : ValidationResult := do
  validateUnitNumber confidence.overall "confidence.overall"
  validateUnitNumber confidence.sourceTrust "confidence.source_trust"
  validateUnitNumber confidence.extractionQuality "confidence.extraction_quality"
  validateUnitNumber confidence.corroboration "confidence.corroboration"

def validateSemanticSupport (basis : EpistemicBasis) (evidence : List EvidenceId)
    (envelope : SemanticEnvelope) : ValidationResult := do
  ensure (!evidence.isEmpty || basis == .actorAssertion || basis == .hypothesis) (.missingEvidence basis.label)
  ensure (!(basis == .actorAssertion && envelope.derivation.kind != .actorAssertion)) .invalidAssertionDerivation

structure NodeRevision where
  nodeId : NodeId
  revision : RevisionNumber
  temporal : BitemporalRange
  canonicalName : String
  attributes : BTreeMap String Value
  epistemic : EpistemicState
  confidence : ConfidenceProfile
  evidence : List EvidenceId
  envelope : SemanticEnvelope

def NodeRevision.transactionTime (revision : NodeRevision) : CommitRange :=
  revision.temporal.transactionTime

def NodeRevision.validate (revision : NodeRevision) : ValidationResult := do
  revision.temporal.validate
  validateNonBlank revision.canonicalName "node.canonical_name"
  forM revision.attributes.keys fun key => validateNonBlank key "node.attribute"
  revision.confidence.validate
  revision.envelope.validateForTarget (.nodeRevision revision.nodeId revision.revision)
  validateSemanticSupport revision.epistemic.basis revision.evidence revision.envelope

inductive ClaimObject
  | node (id : NodeId)
  | string (value : String)
  | integer (value : Int)
  | float (value : F64)
  | boolean (value : Bool)
  | timestamp (micros : Int)
  | timeRange (range : TimeRange)
  | quantity (value : F64) (unit : String)
  | uri (value : String)
  | codeLocation (artifact : ArtifactId) (selector : EvidenceSelector)
  | structured (value : Value)

def validateF64 (value : F64) (field : String) : ValidationResult :=
  ensure value.isFinite (.invalidNumber field)

def ClaimObject.validate : ClaimObject → ValidationResult
  | .string value => validateNonBlank value "claim.string"
  | .float value => validateF64 value "claim.float"
  | .timeRange range => range.validate
  | .quantity value unit => do
      validateF64 value "claim.quantity"
      validateNonBlank unit "claim.quantity.unit"
  | .uri value => validateNonBlank value "claim.uri"
  | .codeLocation _ selector => selector.validate
  | _ => .ok ()

structure Claim where
  id : ClaimId
  workspaceId : WorkspaceId
  subject : NodeId
  predicate : PredicateId
  createdSeq : Nat
deriving DecidableEq

structure ClaimRevision where
  claimId : ClaimId
  revision : RevisionNumber
  object : ClaimObject
  temporal : BitemporalRange
  epistemic : EpistemicState
  confidence : ConfidenceProfile
  sourceFamilies : BTreeSet String
  evidence : List EvidenceId
  supersedes : List ClaimId
  envelope : SemanticEnvelope

def ClaimRevision.transactionTime (revision : ClaimRevision) : CommitRange :=
  revision.temporal.transactionTime

def ClaimRevision.validate (revision : ClaimRevision) : ValidationResult := do
  revision.object.validate
  revision.temporal.validate
  revision.confidence.validate
  forM revision.sourceFamilies.toList fun family => validateNonBlank family "claim.source_family"
  revision.envelope.validateForTarget (.claimRevision revision.claimId revision.revision)
  validateSemanticSupport revision.epistemic.basis revision.evidence revision.envelope

inductive Directionality
  | directed | undirected
deriving DecidableEq

structure Edge where
  id : EdgeId
  workspaceId : WorkspaceId
  (source target : NodeId)
  edgeType : EdgeTypeId
  directionality : Directionality
  createdSeq : Nat
  materializedFromClaim : Option ClaimId
deriving DecidableEq

def Edge.validate (edge : Edge) : ValidationResult :=
  ensure (!(edge.source = edge.target && edge.directionality = .undirected)) (.invalidState "undirected self-edge has no traversal meaning")

structure EdgeRevision where
  edgeId : EdgeId
  revision : RevisionNumber
  temporal : BitemporalRange
  weight : F32
  epistemic : EpistemicState
  confidence : ConfidenceProfile
  evidence : List EvidenceId
  attributes : BTreeMap String Value
  envelope : SemanticEnvelope

def EdgeRevision.transactionTime (revision : EdgeRevision) : CommitRange :=
  revision.temporal.transactionTime

def EdgeRevision.validate (revision : EdgeRevision) : ValidationResult := do
  revision.temporal.validate
  validateUnitNumber revision.weight "edge.weight"
  revision.confidence.validate
  forM revision.attributes.keys fun key => validateNonBlank key "edge.attribute"
  revision.envelope.validateForTarget (.edgeRevision revision.edgeId revision.revision)
  validateSemanticSupport revision.epistemic.basis revision.evidence revision.envelope

structure ConflictSet where
  id : ConflictSetId
  workspaceId : WorkspaceId
  subject : NodeId
  predicate : PredicateId
  scopes : NonEmptyVec ScopeRef
  createdSeq : Nat
deriving DecidableEq

def ConflictSet.validate (conflict : ConflictSet) : ValidationResult :=
  forM conflict.scopes.toList ScopeRef.validate

inductive ConflictResolution
  | unresolved | temporalTransition | scopedCoexistence
  | winnerWithDissent (winner : ClaimId)
  | corrected (replacement : ClaimId)
  | humanAdjudicated (winner : Option ClaimId)
deriving DecidableEq

def ConflictResolution.declaredWinner : ConflictResolution → Option ClaimId
  | .winnerWithDissent winner => some winner
  | .corrected replacement => some replacement
  | .humanAdjudicated winner => winner
  | _ => none

structure ConflictSetRevision where
  conflictSetId : ConflictSetId
  revision : RevisionNumber
  transactionTime : CommitRange
  members : NonEmptyVec ClaimId
  resolution : ConflictResolution
  evidence : List EvidenceId
  envelope : SemanticEnvelope
deriving DecidableEq

def ConflictSetRevision.validate (revision : ConflictSetRevision) : ValidationResult := do
  revision.transactionTime.validate
  ensure (decide revision.members.toList.Nodup && 2 ≤ revision.members.toList.length) .invalidConflictSet
  ensure (revision.resolution.declaredWinner.all revision.members.toList.contains) .invalidConflictSet
  revision.envelope.validateForTarget (.conflictRevision revision.conflictSetId revision.revision)
  ensure (revision.resolution == .unresolved || !revision.evidence.isEmpty) (.missingEvidence "conflict_resolution")

/-! Administrative identities: workspaces, memory spaces and memory subjects. -/

inductive WorkspaceState
  | active | readOnly | archived
deriving DecidableEq

structure Workspace where
  id : WorkspaceId
  name : String
  policyProfile : PolicyId
  ontologyProfile : String
  state : WorkspaceState
deriving DecidableEq

def Workspace.validate (workspace : Workspace) : ValidationResult := do
  validateNonBlank workspace.name "workspace.name"
  validateNonBlank workspace.ontologyProfile "workspace.ontology_profile"

inductive MemorySpaceKind
  | userPrivate | agentPrivate | sharedUserAgent | group | organisation | publicKnowledge | session
  | domain | fictionalWorld | deviceLocal
  | other (label : String)
deriving DecidableEq

structure MemorySpace where
  id : MemorySpaceId
  workspaceId : WorkspaceId
  kind : MemorySpaceKind
  owners : NonEmptyVec MemorySubjectId
  defaultPolicy : OwnershipPolicy
  retentionPolicy : RetentionPolicy
  parent : Option MemorySpaceId
deriving DecidableEq

def MemorySpace.validate (space : MemorySpace) : ValidationResult := do
  match space.kind with
  | .other label => validateNonBlank label "memory_space.kind"
  | _ => .ok ()
  ensure (space.parent ≠ some space.id) .hierarchyCycle
  ensureDistinct space.owners.toList "memory_space.owners"
  space.defaultPolicy.validate
  ensure ((.ofList space.owners.toList : BTreeSet MemorySubjectId) = .ofList space.defaultPolicy.owners.toList)
    (.invalidState "memory-space owners and default-policy owners differ")

inductive SubjectKind
  | user | agent | relationship | group | organisation | world | project
  | other (label : String)
deriving DecidableEq

structure MemorySubject where
  id : MemorySubjectId
  workspaceId : WorkspaceId
  kind : SubjectKind
  canonicalNode : NodeId
  primarySpaces : NonEmptyVec MemorySpaceId
  continuityPolicy : PolicyId
deriving DecidableEq

def MemorySubject.validate (subject : MemorySubject) : ValidationResult := do
  match subject.kind with
  | .other label => validateNonBlank label "memory_subject.kind"
  | _ => .ok ()
  ensureDistinct subject.primarySpaces.toList "memory_subject.primary_spaces"

/-! Model-neutral recall contracts: the cues, constraints and budgets of a request. The
agent, actor and session a request names are carried by the source and read by no
validator or planner. -/

inductive ConversationMode
  | casual | questionAnswering | planning | reflection | taskExecution | teaching | forensic
  | other (label : String)
deriving DecidableEq

structure ActivatedNode where
  nodeId : NodeId
  activation : F32
deriving DecidableEq

def ActivatedNode.validate (node : ActivatedNode) : ValidationResult :=
  validateUnitNumber node.activation "activated_node.activation"

structure ActiveReferent where
  surface : String
  candidates : NonEmptyVec ActivatedNode
  resolved : Option NodeId
deriving DecidableEq

def ActiveReferent.validate (referent : ActiveReferent) : ValidationResult := do
  validateNonBlank referent.surface "active_referent.surface"
  forM referent.candidates.toList ActivatedNode.validate
  ensure (referent.resolved.all fun resolved =>
      referent.candidates.toList.any (·.nodeId == resolved))
    (.invalidState "resolved referent is absent from its candidate set")

inductive QueryContent
  | text (content : String)
  | artifact (id : ArtifactId)
  | structured (value : Value)

def QueryContent.validate : QueryContent → ValidationResult
  | .text content => validateNonBlank content "query.text"
  | _ => .ok ()

structure TemporalContext where
  now : Int
  referencedValidTime : Option TimeRange
  knownAt : Option Nat
deriving DecidableEq

def TemporalContext.validate (context : TemporalContext) : ValidationResult :=
  match context.referencedValidTime with
  | some range => range.validate
  | none => .ok ()

structure CueBundle where
  currentInput : QueryContent
  recentObservations : List ObservationId
  participants : NonEmptyVec MemorySubjectId
  activeReferents : List ActiveReferent
  activeTopics : List NodeId
  temporalContext : TemporalContext
  locationContext : Option NodeId
  conversationMode : ConversationMode
  goal : Option String
  interactionSignals : List NodeId

def ConversationMode.validate : ConversationMode → ValidationResult
  | .other label => validateNonBlank label "cue.conversation_mode"
  | _ => .ok ()

def CueBundle.validate (cues : CueBundle) : ValidationResult := do
  cues.currentInput.validate
  cues.temporalContext.validate
  cues.conversationMode.validate
  forM cues.goal.toList fun goal => validateNonBlank goal "cue.goal"
  forM cues.activeReferents ActiveReferent.validate

inductive RecallIntent
  | continuity | currentTruth | historicalTruth | associative | relational | procedural | reflective
  | forensic | bootstrap | preflight
  | other (label : String)
deriving DecidableEq

def RecallIntent.validate : RecallIntent → ValidationResult
  | .other label => validateNonBlank label "recall.intent"
  | _ => .ok ()

structure FacetRequirement where
  name : String
  required : Bool
  minimumConfidence : F32
deriving DecidableEq

def FacetRequirement.validate (facet : FacetRequirement) : ValidationResult := do
  validateNonBlank facet.name "facet.name"
  validateUnitNumber facet.minimumConfidence "facet.minimum_confidence"

structure RecallBudgets where
  maxTokens : UInt32
  maxLatencyMicros : UInt64
  (maxCandidates maxGraphVisits maxEvidenceItems : UInt32)
deriving DecidableEq

def RecallBudgets.validate (budgets : RecallBudgets) : ValidationResult :=
  ensure (budgets.maxTokens != 0 && budgets.maxLatencyMicros != 0 && budgets.maxCandidates != 0 &&
      budgets.maxGraphVisits != 0 && budgets.maxEvidenceItems != 0)
    (.invalidState "recall budgets must be positive")

structure EvidencePolicy where
  (requirePrimaryEvidence includeQuotes permitDerivedOnly : Bool)
deriving DecidableEq

inductive TemporalConstraint
  | current
  | validDuring (range : TimeRange)
  | knownAt (commitSeq : Nat)
  | bitemporal (validDuring : TimeRange) (knownAt : Nat)
deriving DecidableEq

def TemporalConstraint.validate : TemporalConstraint → ValidationResult
  | .validDuring range | .bitemporal range _ => range.validate
  | .current | .knownAt _ => .ok ()

structure RecallRequest where
  cues : CueBundle
  intent : RecallIntent
  scopes : NonEmptyVec ScopeRef
  temporal : TemporalConstraint
  requiredFacets : List FacetRequirement
  budgets : RecallBudgets
  evidencePolicy : EvidencePolicy
  memoryUsePolicy : PolicyId
  purpose : Purpose
  targetModel : Option ModelProfileId

def RecallRequest.validate (request : RecallRequest) : ValidationResult := do
  request.cues.validate
  request.intent.validate
  forM request.scopes.toList ScopeRef.validate
  request.temporal.validate
  forM request.requiredFacets FacetRequirement.validate
  request.budgets.validate
  request.purpose.validate

/-! The predicate registry and the comparison of claim objects. Objects are compared as the
source compares them: floating-point components numerically, so that no NaN equals itself. -/

def F64.isNan (value : F64) : Bool :=
  value.bits.toNat % 0x8000000000000000 > 0x7ff0000000000000

/-- IEEE equality: both zeros are equal and no NaN equals anything. -/
def F64.equal (left right : F64) : Bool :=
  !left.isNan && !right.isNan && (left.bits == right.bits ||
      (left.bits.toNat % 0x8000000000000000 == 0 && right.bits.toNat % 0x8000000000000000 == 0))

def Number.equal : Number → Number → Bool
  | .posInt left, .posInt right => left == right
  | .negInt left, .negInt right => left == right
  | .float left, .float right => (F64.mk left.toBitVec).equal ⟨right.toBitVec⟩
  | _, _ => false

mutual

def Value.equal : Value → Value → Bool
  | .null, .null => true
  | .bool left, .bool right => left == right
  | .number left, .number right => left.equal right
  | .string left, .string right => left == right
  | .array left, .array right => equalValues left right
  | .object left, .object right => equalFields left right
  | _, _ => false

def equalValues : List Value → List Value → Bool
  | [], [] => true
  | left :: lefts, right :: rights => left.equal right && equalValues lefts rights
  | _, _ => false

def equalFields : List (String × Value) → List (String × Value) → Bool
  | [], [] => true
  | (name, left) :: lefts, (other, right) :: rights =>
    name == other && left.equal right && equalFields lefts rights
  | _, _ => false

end

def ClaimObject.equal : ClaimObject → ClaimObject → Bool
  | .node left, .node right => left == right
  | .string left, .string right => left == right
  | .integer left, .integer right => left == right
  | .float left, .float right => left.equal right
  | .boolean left, .boolean right => left == right
  | .timestamp left, .timestamp right => left == right
  | .timeRange left, .timeRange right => left == right
  | .quantity left unit, .quantity right other => left.equal right && unit == other
  | .uri left, .uri right => left == right
  | .codeLocation artifact selector, .codeLocation other target =>
    artifact == other && selector == target
  | .structured left, .structured right => left.equal right
  | _, _ => false

inductive ValueType
  | node | string | integer | float | boolean | timestamp | timeRange | quantity | uri
  | codeLocation | structured
deriving DecidableEq

def ClaimObject.valueType : ClaimObject → ValueType
  | .node _ => .node
  | .string _ => .string
  | .integer _ => .integer
  | .float _ => .float
  | .boolean _ => .boolean
  | .timestamp _ => .timestamp
  | .timeRange _ => .timeRange
  | .quantity _ _ => .quantity
  | .uri _ => .uri
  | .codeLocation _ _ => .codeLocation
  | .structured _ => .structured

inductive Cardinality
  | requiredSingle | optionalSingle | set | list
deriving DecidableEq

inductive TemporalMode
  | atemporal | point | interval | bitemporal
deriving DecidableEq

inductive ConflictPolicy
  | allowCoexistence | requireConflictSet | temporalTransition | reject
deriving DecidableEq

inductive Transitivity
  | none | transitive | symmetric | transitiveAndSymmetric
deriving DecidableEq

inductive SecurityPropagation
  | inheritStrictest | inheritSource | inheritTarget | explicitOnly
deriving DecidableEq

/-- Versioned registry definition controlling claim and traversal semantics. The domain is a
set, kept as the list of its members. -/
structure PredicateDefinition where
  id : PredicateId
  name : String
  domain : List NodeType
  range : ValueType
  cardinality : Cardinality
  temporalMode : TemporalMode
  inverse : Option PredicateId
  transitivity : Transitivity
  conflictPolicy : ConflictPolicy
  defaultTraversalWeight : F32
  securityPropagation : SecurityPropagation
  version : RevisionNumber
deriving DecidableEq

def PredicateDefinition.validate (predicate : PredicateDefinition) : ValidationResult := do
  validateNonBlank predicate.name "predicate.name"
  ensure (!predicate.domain.isEmpty) (.emptyCollection "predicate.domain")
  forM predicate.domain NodeType.validate
  ensure (predicate.defaultTraversalWeight.isFinite && predicate.defaultTraversalWeight.inUnitRange)
    (.invalidNumber "predicate.default_traversal_weight")

def validateClaimAgainstPredicate (predicate : PredicateDefinition) (subjectType : NodeType)
    (revision : ClaimRevision) : ValidationResult := do
  predicate.validate
  revision.validate
  ensure (predicate.domain.contains subjectType && predicate.range == revision.object.valueType) .predicateTypeMismatch

def AcceptanceState.isPublished : AcceptanceState → Bool
  | .accepted => true
  | .consolidated => true
  | _ => false

theorem one_lt_two_pow_thirtyTwo : 1 < 2 ^ 32 := by
  decide

def RevisionNumber.first : RevisionNumber :=
  ⟨1, Nat.one_pos, one_lt_two_pow_thirtyTwo⟩

def RevisionNumber.checkedNext (number : RevisionNumber) : Option RevisionNumber :=
  if bounded : number.value + 1 < 2 ^ 32 then some ⟨number.value + 1, Nat.succ_pos _, bounded⟩
  else none

end ContextDb.Core
