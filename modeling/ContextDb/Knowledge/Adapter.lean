import ContextDb.Recall.Types

/-! Documents, source revisions and source claims of the knowledge ledger. The serializer and
the hash function are parameters; identifiers are derived from hashed parts. -/

set_option autoImplicit false

namespace ContextDb.Knowledge

open Std Lib ContextDb.Core Recall

inductive KnowledgeError
  | invalidInput (field reason : String)
  | hallucinatedCitation (statement place : String)
  | revisionDigestConflict (nativeRevision : String)
  | sourceRevisionFork
  | unknownRetractionTarget (sourceKey statementKey : String)
  | crossFamilyRetraction | futureSnapshot | commitSequenceExhausted
  | serialization (message : String)
  | core (error : ValidationError)
  | recall (error : RecallError)
deriving DecidableEq

abbrev Result := Except KnowledgeError

def validated (outcome : ValidationResult) : Result Unit :=
  outcome.mapError .core

def serialized {Value : Type} (outcome : Except String Value) : Result Value :=
  outcome.mapError .serialization

/-! ### Documents -/

inductive DocumentFormat
  | plainText | markdown | pdfExtractedText | htmlExtractedText | json | csv
  | other (label : String)
deriving DecidableEq

inductive DocumentRevisionKind
  | upsert | retractDocument
deriving DecidableEq

structure SourceStatementRef where
  (sourceKey statementKey : String)
deriving DecidableEq

namespace SourceStatementRef

instance : Ord SourceStatementRef :=
  ⟨compareLex (compareOn sourceKey) (compareOn statementKey)⟩

instance : TransOrd SourceStatementRef :=
  inferInstanceAs (TransCmp (compareLex (compareOn sourceKey) (compareOn statementKey)))

instance : LawfulEqOrd SourceStatementRef where
  eq_of_compare {left right} same := by
    obtain ⟨sources, statements⟩ := Ordering.then_eq_eq.mp same
    have sameSource : left.sourceKey = right.sourceKey :=
      Std.compare_eq_iff_eq.mp sources
    have sameStatement : left.statementKey = right.statementKey :=
      Std.compare_eq_iff_eq.mp statements
    cases left
    cases right
    cases sameSource
    cases sameStatement
    rfl

end SourceStatementRef

/-- A directly stated proposition, or a derived one that never joins accepted consensus. -/
inductive StatementEpistemic
  | sourceAssertion
  | derivedHypothesis (supportingEvidence : List EvidenceId)
deriving DecidableEq

inductive DocumentStatementAction
  | assert (object : ClaimObject) (validTime : TimeRange) (epistemic : StatementEpistemic)
  | retract (target : SourceStatementRef) (reason : String)
  | openQuestion (question reason : String)

structure DocumentStatementInput where
  (statementKey subjectKey subjectLabel predicateKey quote : String)
  action : DocumentStatementAction

structure DocumentSectionInput where
  path : List String
  content : String
  statements : List DocumentStatementInput

structure DocumentRevisionInput where
  workspaceId : WorkspaceId
  memorySpaceId : MemorySpaceId
  actorId : ActorId
  (corpusKey sourceKey sourceFamily nativeLocator nativeRevision : String)
  supersedesNativeRevision : Option String
  title : String
  format : DocumentFormat
  revisionKind : DocumentRevisionKind
  createdAt : Option Int
  (effectiveAt observedAt recordedAt : Int)
  trust : TrustClass
  ingestionPolicy : PolicyId
  expectedContentHash : Option ContentDigest
  envelope : SemanticEnvelope
  sections : List DocumentSectionInput

/-! ### Source revisions -/

structure DocumentSection where
  id : NodeId
  ordinal : Nat
  path : List String
  content : String
  contentBlockId : ContentBlockId
  contentHash : ContentDigest
deriving DecidableEq

inductive SourceHierarchyKind
  | corpus | document | revision
  | «section»
deriving DecidableEq

def SourceHierarchyKind.rank : SourceHierarchyKind → Nat
  | .corpus => 0
  | .document => 1
  | .revision => 2
  | .section => 3

structure SourceHierarchyEntry where
  id : NodeId
  parent : Option NodeId
  kind : SourceHierarchyKind
  orderKey : Nat
  label : String
  sourceId : Option SourceId
  artifactId : Option ArtifactId
deriving DecidableEq

structure SourceRevision where
  publishedAt : Nat
  source : Source
  (sourceKey corpusKey sourceFamily : String)
  revision : RevisionNumber
  nativeRevision : String
  supersedes : Option ArtifactId
  (contentDigest logicalDigest : ContentDigest)
  artifact : SourceArtifact
  contentBlocks : List ContentBlock
  observation : ObservationUnit
  sections : List DocumentSection
  evidence : List EvidenceSpan
  hierarchy : List SourceHierarchyEntry
  envelope : SemanticEnvelope
  revisionKind : DocumentRevisionKind
deriving DecidableEq

/-- What one document span proposes. The cognition candidate built beside an assertion is
never read by the ledger. -/
inductive KnowledgeProposalAction
  | assert (subjectKey subjectLabel predicateKey : String) (object : ClaimObject)
      (validTime : TimeRange) (epistemic : StatementEpistemic)
  | retract (target : SourceStatementRef) (reason : String)
  | openQuestion (subjectKey predicateKey question reason : String)

structure KnowledgeProposal where
  (localId statementKey : String)
  sectionId : NodeId
  evidenceId : EvidenceId
  action : KnowledgeProposalAction

structure AdaptedDocument where
  sourceRevision : SourceRevision
  proposals : List KnowledgeProposal

/-! ### Claims -/

inductive SourceClaimRevisionReason
  | sourceAdded | sourceUpdated | explicitTemporalTransition | sourceRetracted | conflictDetected
  | conflictResolved
deriving DecidableEq

/-- Source-specific canonical claim and its revision chain, each revision with the reason it
was appended for. The source keeps two vectors of equal length. -/
structure SourceClaimRecord where
  claim : Claim
  sourceId : SourceId
  (sourceKey sourceFamily statementKey subjectKey predicateKey : String)
  revisions : NonEmptyVec (ClaimRevision × SourceClaimRevisionReason)

structure NodeRecord where
  node : Node
  revision : NodeRevision

structure ConflictSetRecord where
  conflict : ConflictSet
  revisions : NonEmptyVec ConflictSetRevision

structure KnowledgeHypothesis where
  sourceId : SourceId
  (statementKey subjectKey predicateKey : String)
  object : ClaimObject
  (evidence supportingEvidence : List EvidenceId)
  publishedAt : Nat
  envelope : SemanticEnvelope

structure KnowledgeOpenQuestion where
  sourceId : SourceId
  (statementKey subjectKey predicateKey question reason : String)
  evidenceId : EvidenceId
  publishedAt : Nat
  envelope : SemanticEnvelope

/-! ### Identifiers -/

structure Library where
  blake3 : List UInt8 → ContentDigest
  encodeInput : DocumentRevisionInput → Except String (List UInt8)
  encodeLineage : LineageNode → Except String String
  /-- The scopes, ownership, consent, use policy and security of an envelope. -/
  encodePolicy : SemanticEnvelope → Except String (List UInt8)
  encodeObject : ClaimObject → Except String String
  packageVersion : String

def beBytes : Nat → Nat → List UInt8
  | 0, _ => []
  | width + 1, value => beBytes width (value / 256) ++ [UInt8.ofNat (value % 256)]

def textBytes (text : String) : List UInt8 :=
  text.toUTF8.toList

def framedPart (part : List UInt8) : List UInt8 :=
  beBytes 8 part.length ++ part

theorem or_variant_ne_zero (bits : BitVec 128) : bits ||| 0x00000000000050008000000000000000#128 ≠
    0 := by
  intro zero
  have bit := congrArg (·.getLsbD 63) zero
  simp at bit

variable (library : Library)

def digestBytes (bytes : List UInt8) : ContentDigest :=
  library.blake3 bytes

def deterministicId {kind : IdKind} (parts : List (List UInt8)) : StableId kind :=
  let digest := library.blake3 (textBytes "contextdb-knowledge-id-v1\x00" ++
    parts.flatMap framedPart)
  ⟨⟨digest.extractLsb' 128 128 &&& 0xffffffffffff0fff3fffffffffffffff#128 |||
    0x00000000000050008000000000000000#128⟩, or_variant_ne_zero _⟩

def uuidBytes {kind : IdKind} (id : StableId kind) : List UInt8 :=
  beBytes 16 id.uuid.bits.toNat

variable (workspace : WorkspaceId)

def sourceIdOf (sourceKey : String) : SourceId :=
  deterministicId library [textBytes "source", uuidBytes workspace, textBytes sourceKey]

variable (source : SourceId)

def sourceArtifactId (nativeRevision : String) : ArtifactId :=
  deterministicId library [textBytes "artifact", uuidBytes source, textBytes nativeRevision]

variable (artifact : ArtifactId)

def contentBlockIdOf (ordinal : Nat) : ContentBlockId :=
  deterministicId library [textBytes "content-block", uuidBytes artifact, beBytes 4 ordinal]

def observationIdOf : ObservationId :=
  deterministicId library [textBytes "observation", uuidBytes artifact]

def streamIdOf : StreamId :=
  deterministicId library [textBytes "stream", uuidBytes source]

def evidenceIdOf (statementKey : String) : EvidenceId :=
  deterministicId library [textBytes "evidence", uuidBytes artifact, textBytes statementKey]

def derivationIdOf (evidence : EvidenceId) (label : String) : DerivationId :=
  deterministicId library [textBytes "derivation", uuidBytes evidence, textBytes label]

def hierarchyId (kind sourceKey localKey : String) : NodeId :=
  deterministicId library [textBytes "knowledge-hierarchy", uuidBytes workspace, textBytes kind,
    textBytes sourceKey, textBytes localKey]

def nodeIdOf (key : String) : NodeId :=
  deterministicId library [textBytes "knowledge-node", uuidBytes workspace, textBytes key]

def predicateIdOf (key : String) : PredicateId :=
  deterministicId library [textBytes "knowledge-predicate", textBytes key]

def claimIdOf (statement : String) : ClaimId :=
  deterministicId library [textBytes "knowledge-claim", uuidBytes source, textBytes statement]

def conflictIdOf (subject predicate policySignature : String) : ConflictSetId :=
  deterministicId library [textBytes "knowledge-conflict", textBytes subject, textBytes predicate,
    textBytes policySignature]

def mutationIdOf (observation : ObservationId) : MutationId :=
  deterministicId library [textBytes "knowledge-mutation", uuidBytes observation]

def contentDigest (sections : List (List String × String)) : ContentDigest :=
  library.blake3 (textBytes "contextdb-document-content-v1\x00" ++ sections.flatMap
    fun (path, content) => path.flatMap (framedPart ∘ textBytes) ++ framedPart (textBytes content))

/-! The generic document adapter: bounded validation of one document revision, exact
alignment of every quoted statement with its section, and the proposals handed to the
ledger. It publishes nothing itself. -/

structure DocumentAdapterConfig where
  (maxSections maxStatements maxSectionBytes maxTotalBytes : Nat)
deriving DecidableEq

def DocumentAdapterConfig.default : DocumentAdapterConfig :=
  ⟨4096, 16384, 4 * 1024 * 1024, 128 * 1024 * 1024⟩

variable (library : Library) (config : DocumentAdapterConfig)

def containsNul (text : String) : Bool :=
  text.toList.contains '\x00'

def requirePlain (field value : String) : Result Unit :=
  ensure (!isBlank value && !containsNul value)
    (.invalidInput field "must not be blank or contain NUL")

def byteLength (text : String) : Nat :=
  (textBytes text).length

def DocumentStatementAction.isRetract : DocumentStatementAction → Bool
  | .retract _ _ => true
  | _ => false

variable (statement : DocumentStatementInput)

def validateStatement : Result Unit := do
  requirePlain "statement.key" statement.statementKey
  requirePlain "statement.subject_key" statement.subjectKey
  requirePlain "statement.subject_label" statement.subjectLabel
  requirePlain "statement.predicate_key" statement.predicateKey
  requirePlain "statement.quote" statement.quote

def validateSection (paths : List (List String)) (input : DocumentSectionInput) :
    Result (List (List String)) := do
  ensure (!input.path.isEmpty && input.path.all (fun part => !isBlank part && !containsNul part) &&
      !input.content.isEmpty)
    (.invalidInput "document.section" "path and content must be non-empty")
  ensure (!paths.contains input.path)
    (.invalidInput "document.section.path" "section paths must be unique within a revision")
  ensure (byteLength input.content ≤ config.maxSectionBytes)
    (.invalidInput "document.section.content" "section exceeds configured byte limit")
  forM input.statements validateStatement
  pure (input.path :: paths)

variable (input : DocumentRevisionInput)

def validateInput (config : DocumentAdapterConfig) : Result Unit := do
  requirePlain "document.corpus_key" input.corpusKey
  requirePlain "document.source_key" input.sourceKey
  requirePlain "document.source_family" input.sourceFamily
  requirePlain "document.native_locator" input.nativeLocator
  requirePlain "document.native_revision" input.nativeRevision
  requirePlain "document.title" input.title
  let blankFormat := match input.format with
    | .other label => isBlank label
    | _ => false
  ensure (!blankFormat && input.supersedesNativeRevision.all fun parent =>
      !isBlank parent && parent != input.nativeRevision)
    (.invalidInput "document.revision_metadata"
      "custom format and parent revision metadata must be non-blank and acyclic")
  ensure (input.observedAt ≤ input.recordedAt && input.createdAt.all (· ≤ input.recordedAt))
    (.invalidInput "document.timestamps" "observation and creation cannot occur after recording")
  validated input.envelope.validate
  ensure (!input.sections.isEmpty && input.sections.length ≤ config.maxSections)
    (.invalidInput "document.sections" "section count is outside configured bounds")
  let _ ← input.sections.foldlM (validateSection config) []
  -- The saturating totals agree with the exact ones on texts held in memory.
  let totalBytes := (input.sections.map fun entry => byteLength entry.content).sum
  let totalStatements := (input.sections.map fun entry => entry.statements.length).sum
  ensure (totalBytes ≤ config.maxTotalBytes && totalStatements ≤ config.maxStatements)
    (.invalidInput "document" "document exceeds configured aggregate bounds")
  ensure (!(input.revisionKind == .retractDocument && (totalStatements == 0 ||
      input.sections.any fun entry => entry.statements.any fun statement =>
        !statement.action.isRetract)))
    (.invalidInput "document.revision_kind" "a document retraction may only carry explicit retraction statements")

def findBytes (needle : List UInt8) : Nat → List UInt8 → Option Nat
  | offset, [] => if needle.isEmpty then some offset else none
  | offset, byte :: rest =>
    if needle.isPrefixOf (byte :: rest) then some offset else findBytes needle (offset + 1) rest

/-- The byte range of a quote that has no second match after its first. -/
def uniqueQuoteRange (content quote : String) : Option (Nat × Nat) := do
  let bytes := textBytes content
  let needle := textBytes quote
  let start ← findBytes needle 0 bytes
  let finish := start + needle.length
  if (findBytes needle finish (bytes.drop finish)).isSome then none else some (start, finish)

def mediaType : DocumentFormat → String
  | .plainText => "text/plain"
  | .markdown => "text/markdown"
  | .pdfExtractedText => "application/pdf+text"
  | .htmlExtractedText => "text/html+extracted"
  | .json => "application/json"
  | .csv => "text/csv"
  | .other _ => "application/octet-stream"

def sectionLabel (input : DocumentSectionInput) (ordinal : Nat) : String :=
  input.path.getLast?.getD ("section-" ++ toString ordinal)

def proposedValue : ClaimObject → Result Unit
  | .node _ | .codeLocation _ _ => .error (.invalidInput "statement.object"
      "generic document claim objects cannot contain canonical node/code IDs")
  | _ => .ok ()

def proposalAction : Result KnowledgeProposalAction :=
  match statement.action with
  | .assert object validTime epistemic => do
      validated object.validate
      validated validTime.validate
      match epistemic with
      | .sourceAssertion => .ok ()
      | .derivedHypothesis support =>
        ensure (!support.isEmpty && decide support.Nodup)
          (.invalidInput "statement.epistemic.supporting_evidence"
            "a hypothesis requires unique independent support references")
      proposedValue object
      pure (.assert statement.subjectKey statement.subjectLabel statement.predicateKey object validTime epistemic)
  | .retract target reason => do
      ensure (!isBlank reason && !isBlank target.sourceKey && !isBlank target.statementKey &&
          !containsNul target.sourceKey && !containsNul target.statementKey)
        (.invalidInput "statement.retraction" "target and reason must be non-blank and contain no NUL")
      pure (.retract target reason)
  | .openQuestion question reason => do
      ensure (!isBlank question && !isBlank reason)
        (.invalidInput "statement.open_question" "question and reason must not be blank")
      pure (.openQuestion statement.subjectKey statement.predicateKey question reason)

structure Draft where
  contentBlocks : List ContentBlock
  sections : List DocumentSection
  evidence : List EvidenceSpan
  proposals : List KnowledgeProposal
  statementKeys : BTreeSet String
  hierarchy : List SourceHierarchyEntry

def adaptStatement (entry : DocumentSectionInput) (ordinal : Nat)
    (artifactId : ArtifactId) (blockId : ContentBlockId) (sectionId : NodeId) (draft : Draft)
    (statement : DocumentStatementInput) : Result Draft := do
  ensure (!draft.statementKeys.contains statement.statementKey)
    (.invalidInput "document.statement_key"
      "statement keys must be unique within a source revision")
  let (start, finish) ← match uniqueQuoteRange entry.content statement.quote with
    | some range => .ok range
    | none => .error (.hallucinatedCitation statement.statementKey (sectionLabel entry ordinal))
  let evidenceId := evidenceIdOf library artifactId statement.statementKey
  let span : EvidenceSpan :=
    { id := evidenceId, observationId := observationIdOf library artifactId, artifactId := some artifactId
      contentBlockId := blockId, selector := .byteRange start finish
      quoteHash := digestBytes library
        (textBytes statement.quote), extractedText := some statement.quote
      trust := input.trust, derivation := some { input.envelope.derivation with
          id := derivationIdOf library evidenceId "evidence", kind := .deterministicProjector, modelCall := none
          inputs := [.artifact artifactId] } }
  validated span.validate
  let action ← proposalAction statement
  let proposal : KnowledgeProposal :=
    ⟨input.sourceKey ++ ":" ++ statement.statementKey, statement.statementKey, sectionId,
      evidenceId, action⟩
  pure { draft with
    evidence := draft.evidence ++ [span], proposals := draft.proposals ++ [proposal]
    statementKeys := draft.statementKeys.insert statement.statementKey }

def adaptSection (sourceId : SourceId) (artifactId : ArtifactId)
    (draft : Draft) (indexed : DocumentSectionInput × Nat) : Result Draft := do
  let entry := indexed.1
  let ordinal := indexed.2 + 1
  ensure (ordinal < 2 ^ 32)
    (.invalidInput "document.sections" "section ordinal exceeds u32")
  let contentHash := digestBytes library (textBytes entry.content)
  let blockId := contentBlockIdOf library artifactId ordinal
  let sectionId := hierarchyId library input.workspaceId "section" input.sourceKey
    (input.nativeRevision ++ ":" ++ toString ordinal)
  let block : ContentBlock :=
    { id := blockId
      mediaType := mediaType input.format
      encoding := .utf8
      compression := .none
      byteLength := byteLength entry.content
      blobLocator := "contextdb://source/" ++ sourceId.display ++ "/artifact/" ++
        artifactId.display ++ "/section/" ++ toString ordinal
      contentHash }
  validated block.validate
  let revisionNode := hierarchyId library input.workspaceId "revision" input.sourceKey
    input.nativeRevision
  entry.statements.foldlM (adaptStatement library input entry ordinal artifactId blockId sectionId)
    { draft with
      contentBlocks := draft.contentBlocks ++ [block]
      sections := draft.sections ++
        [⟨sectionId, ordinal, entry.path, entry.content, blockId, contentHash⟩]
      hierarchy := draft.hierarchy ++ [⟨sectionId, some revisionNode, .section, ordinal,
        sectionLabel entry ordinal, some sourceId, some artifactId⟩] }

def rootHierarchy (sourceId : SourceId) (artifactId : ArtifactId) : List SourceHierarchyEntry :=
  let corpusNode := hierarchyId library input.workspaceId "corpus" input.corpusKey "stable"
  let documentNode := hierarchyId library input.workspaceId "document" input.sourceKey "stable"
  let revisionNode := hierarchyId library input.workspaceId "revision" input.sourceKey input.nativeRevision
  [⟨corpusNode, none, .corpus, 0, input.corpusKey, none, none⟩,
    ⟨documentNode, some corpusNode, .document, 0, input.title, some sourceId, none⟩,
    ⟨revisionNode, some documentNode, .revision, RevisionNumber.first.value, input.nativeRevision,
      some sourceId, some artifactId⟩]

def compareHierarchy (left right : SourceHierarchyEntry) : Ordering :=
  ((compare left.kind.rank right.kind.rank).then (compare left.orderKey right.orderKey)).then
    (compare left.id right.id)

def nonEmptyVec {Element : Type} (values : List Element) (field : String) :
    Result (NonEmptyVec Element) :=
  if nonEmpty : values ≠ [] then .ok ⟨values, nonEmpty⟩
  else .error (.core (.emptyCollection field))

def singleVec {Element : Type} (value : Element) : NonEmptyVec Element :=
  ⟨[value], List.cons_ne_nil _ _⟩

/-- The adapter does not know the ledger's sequence: revision, stream position and publication
are provisional until the document is published. -/
def adapt : Result AdaptedDocument := do
  validateInput input config
  let encoded ← serialized (library.encodeInput input)
  let logicalDigest := digestBytes library encoded
  let sourceId := sourceIdOf library input.workspaceId input.sourceKey
  let artifactId := sourceArtifactId library sourceId input.nativeRevision
  let observationId := observationIdOf library artifactId
  let digest := contentDigest library (input.sections.map fun entry => (entry.path, entry.content))
  ensure (input.expectedContentHash.all (· == digest))
    (.invalidInput "document.expected_content_hash"
      "expected digest does not match normalized section content")
  let source : Source :=
    { id := sourceId, workspaceId := input.workspaceId, kind := .document, nativeLocator := input.nativeLocator
      ownerActor := some input.actorId, ownerSubject := input.envelope.ownership.owners.toList.head?
      trust := input.trust, ingestionPolicy := input.ingestionPolicy, contentFingerprint := some digest }
  validated source.validate
  let draft ← input.sections.zipIdx.foldlM (adaptSection library input sourceId artifactId)
    ⟨[], [], [], [], ∅, rootHierarchy library input sourceId artifactId⟩
  let blocks ← nonEmptyVec (draft.contentBlocks.map (·.id)) "document.content_blocks"
  let artifact : SourceArtifact :=
    { id := artifactId, modality := .text, mediaType := mediaType input.format
      nativeLocator := some input.nativeLocator, envelope := input.envelope
      sourceId, contentBlocks := blocks, contentHash := digest, createdAt := input.createdAt
      ingestedAt := input.recordedAt }
  validated artifact.validate
  let observation : ObservationUnit :=
    { id := observationId, workspaceId := input.workspaceId, memorySpaces := singleVec input.memorySpaceId
      sourceId, streamPosition := some ⟨streamIdOf library sourceId, RevisionNumber.first.value,
        some input.nativeRevision, some input.observedAt⟩, participants := singleVec input.actorId
      occurredAt := ⟨input.effectiveAt,
        none⟩, observedAt := input.observedAt, recordedAt := input.recordedAt
      artifactRefs := [artifactId], contentBlockRefs := blocks.toList, contentHash := digest
      envelope := input.envelope }
  validated observation.validate
  pure { sourceRevision :=
        { publishedAt := 0
          source, sourceKey := input.sourceKey, corpusKey := input.corpusKey, sourceFamily := input.sourceFamily
          revision := .first, nativeRevision := input.nativeRevision
          supersedes := input.supersedesNativeRevision.map
            (sourceArtifactId library sourceId), contentDigest := digest
          logicalDigest
          artifact, contentBlocks := draft.contentBlocks
          observation, sections := draft.sections, evidence := draft.evidence
          hierarchy := sortBy compareHierarchy draft.hierarchy, envelope := input.envelope
          revisionKind := input.revisionKind }, proposals := sortBy
            (compareOn (·.localId)) draft.proposals }

end ContextDb.Knowledge
