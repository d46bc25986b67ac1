import ContextDb.Knowledge.Mutation

/-! The in-memory knowledge ledger: publication of adapted documents into source claims with
revision chains, retraction, and the conflict sets rebuilt for every touched slot. A
publication works on a copy, so a failed one leaves the ledger as it was. -/

set_option autoImplicit false

namespace ContextDb.Core.NonEmptyVec

variable {Element : Type} (values : NonEmptyVec Element)

def last : Element :=
  values.toList.getLast values.nonEmpty

def push (value : Element) : NonEmptyVec Element :=
  ⟨values.toList ++ [value], List.append_ne_nil_of_right_ne_nil _ (List.cons_ne_nil _ _)⟩

def mapLast (change : Element → Element) : NonEmptyVec Element :=
  ⟨values.toList.dropLast ++ [change values.last], List.append_ne_nil_of_right_ne_nil _
    (List.cons_ne_nil _ _)⟩

end ContextDb.Core.NonEmptyVec

namespace ContextDb.Knowledge

open Std Lib ContextDb.Core Recall

structure KnowledgeLedger where
  workspaceId : Option WorkspaceId
  commitSeq : Nat
  sources : BTreeMap SourceId (List SourceRevision)
  sourceKeys : BTreeMap String SourceId
  nodes : BTreeMap String NodeRecord
  predicates : BTreeMap String PredicateDefinition
  claims : BTreeMap ClaimId SourceClaimRecord
  claimKeys : BTreeMap SourceStatementRef ClaimId
  conflicts : BTreeMap String ConflictSetRecord
  hypotheses : List KnowledgeHypothesis
  openQuestions : List KnowledgeOpenQuestion
  evidence : BTreeMap EvidenceId EvidenceSpan
  evidenceSources : BTreeMap EvidenceId SourceId
  slotWatermarks : BTreeMap String Nat

def KnowledgeLedger.empty : KnowledgeLedger :=
  ⟨none, 0, ∅, ∅, ∅, ∅, ∅, ∅, ∅, [], [], ∅, ∅, ∅⟩

/-! ### Source revisions -/

def exactQuoteMatches (revision : SourceRevision) (span : EvidenceSpan) : Bool :=
  match revision.sections.find? (·.contentBlockId == span.contentBlockId), span.selector,
      span.extractedText with
  | some part, .byteRange start finish, some excerpt =>
    let bytes := textBytes part.content
    start ≤ finish && finish ≤ bytes.length && (bytes.drop start).take
      (finish - start) == textBytes excerpt
  | _, _, _ => false

def countKind (kind : SourceHierarchyKind) (entries : List SourceHierarchyEntry) : Nat :=
  entries.countP (·.kind == kind)

def findKind (kind : SourceHierarchyKind) (entries : List SourceHierarchyEntry) (name : String) :
    Result SourceHierarchyEntry :=
  match entries.find? (·.kind == kind) with
  | some entry => .ok entry
  | none => .error (.invalidInput "source_revision.hierarchy" (name ++ " hierarchy entry is absent"))

section

variable (library : Library) (revision : SourceRevision)

def validateSections (seen : List Nat × List (List String))
    (part : DocumentSection) : Result (List Nat × List (List String)) := do
  let block ← match revision.contentBlocks.find? (·.id == part.contentBlockId) with
    | some block => .ok block
    | none => .error (.invalidInput "source_revision.sections" "section refers to an absent content block")
  ensure (!seen.1.contains part.ordinal && !seen.2.contains part.path && !part.path.isEmpty &&
      part.path.all (!isBlank ·) && part.contentHash == block.contentHash &&
      part.contentHash == digestBytes library (textBytes part.content) &&
        block.byteLength == byteLength part.content)
    (.invalidInput "source_revision.sections" "section ordering, path, bytes, or content hash is inconsistent")
  pure (part.ordinal :: seen.1, part.path :: seen.2)

def validateHierarchy : Result Unit := do
  ensure (decide (revision.hierarchy.map (·.id)).Nodup)
    (.invalidInput "source_revision.hierarchy" "hierarchy IDs must be unique")
  let corpus ← findKind .corpus revision.hierarchy "corpus"
  let document ← findKind .document revision.hierarchy "document"
  let entry ← findKind .revision revision.hierarchy "revision"
  ensure (corpus.parent.isNone && corpus.sourceId.isNone && corpus.artifactId.isNone &&
      document.parent == some corpus.id && document.sourceId == some revision.source.id &&
      document.artifactId.isNone && entry.parent == some document.id &&
        entry.sourceId == some revision.source.id &&
      entry.artifactId == some revision.artifact.id && revision.hierarchy.all (!isBlank ·.label) &&
      revision.sections.all fun part => revision.hierarchy.any fun item =>
        item.id == part.id && item.kind == .section && item.parent == some entry.id &&
          item.sourceId == some revision.source.id && item.artifactId == some revision.artifact.id)
    (.invalidInput "source_revision.hierarchy" "corpus, document, revision, and section parentage is inconsistent")
  ensure (revision.hierarchy.all fun item =>
      item.kind != .revision || item.orderKey == revision.revision.value)
    (.invalidInput "source_revision.hierarchy" "revision hierarchy order differs from the published source sequence")

def validateEvidence (span : EvidenceSpan) : Result Unit := do
  validated span.validate
  ensure (span.artifactId == some revision.artifact.id &&
    span.observationId == revision.observation.id &&
      (revision.contentBlocks.map (·.id)).contains span.contentBlockId &&
        exactQuoteMatches revision span &&
      span.extractedText.all fun text => digestBytes library (textBytes text) == span.quoteHash)
    (.invalidInput "source_revision.evidence" "evidence lineage or exact quote hash is inconsistent")

def validateSourceRevision : Result Unit := do
  validated revision.source.validate
  validated revision.artifact.validate
  validated revision.observation.validate
  validated revision.envelope.validate
  let contentIds := revision.contentBlocks.map (·.id)
  ensure (revision.source.id == revision.artifact.sourceId &&
    revision.source.id == revision.observation.sourceId &&
      revision.observation.artifactRefs == [revision.artifact.id] &&
      revision.artifact.contentBlocks.toList == contentIds &&
        revision.observation.contentBlockRefs == contentIds &&
      revision.artifact.contentHash == revision.contentDigest &&
      revision.observation.contentHash == revision.contentDigest &&
      revision.source.contentFingerprint == some revision.contentDigest &&
      revision.artifact.envelope == revision.envelope &&
        revision.observation.envelope == revision.envelope &&
      revision.observation.streamPosition.any (·.ordinal == revision.revision.value))
    (.invalidInput "source_revision.identity" "source, artifact, observation, envelope, or content identities disagree")
  ensure (!revision.contentBlocks.isEmpty &&
    revision.sections.length == revision.contentBlocks.length &&
      countKind .corpus revision.hierarchy == 1 && countKind .document revision.hierarchy == 1 &&
      countKind .revision revision.hierarchy == 1 &&
        countKind .section revision.hierarchy == revision.sections.length)
    (.invalidInput "source_revision.structure" "source hierarchy and immutable content blocks are incomplete")
  validateHierarchy revision
  forM revision.contentBlocks fun block => validated block.validate
  let _ ← revision.sections.foldlM (validateSections library revision) ([], [])
  ensure (contentDigest library (revision.sections.map fun part =>
    (part.path, part.content)) == revision.contentDigest)
    (.invalidInput "source_revision.content_digest" "aggregate content digest differs from immutable section bytes")
  forM revision.evidence (validateEvidence library revision)

end

/-! ### Claim revisions -/

def acceptedSourceExtraction (conflict : ConflictState) (lifecycle : LifecycleState) :
    EpistemicState :=
  ⟨.deterministicDerivation, .accepted, conflict, lifecycle⟩

/-- The profile of a claim with one independent source family. The overall confidence is the
single-precision value of `0.45 * trust + 0.30 + 0.25 * 0.35`. -/
def confidence (trust : TrustClass) : ConfidenceProfile :=
  let (overall, sourceTrust) : BitVec 32 × BitVec 32 := match trust with
    | .untrusted => (0x3ef47ae2, 0x3e4ccccd)
    | .unknown => (0x3f0b851f, 0x3eb33333)
    | .selfAsserted => (0x3f228f5c, 0x3f0ccccd)
    | .authenticated => (0x3f399999, 0x3f400000)
    | .verified => (0x3f4ae147, 0x3f666666)
  ⟨⟨overall⟩, ⟨sourceTrust⟩, ⟨0x3f800000⟩, ⟨0x3eb33333⟩⟩

def slotKey (subject predicate : String) : String :=
  subject ++ "\x00" ++ predicate

def insertEvidence (evidence : List EvidenceId) (id : EvidenceId) : List EvidenceId :=
  if evidence.contains id then evidence else sortBy compare (evidence ++ [id])

variable (record : SourceClaimRecord)

def SourceClaimRecord.head : ClaimRevision :=
  record.revisions.last.1

def SourceClaimRecord.slot : String :=
  slotKey record.subjectKey record.predicateKey

def SourceClaimRecord.append (revision : ClaimRevision) (reason : SourceClaimRevisionReason) :
    SourceClaimRecord :=
  { record with revisions := record.revisions.push (revision, reason) }

def closeTransactionHead (commit : Nat) : Result SourceClaimRecord := do
  let closed := { record with
    revisions := record.revisions.mapLast fun (revision, reason) =>
      ({ revision with
        temporal := { revision.temporal with
          transactionTime := { revision.temporal.transactionTime with finish := some commit } } }, reason) }
  validated closed.head.temporal.transactionTime.validate
  pure closed

def nextRevision (previous : RevisionNumber) (field : String) : Result RevisionNumber :=
  match previous.checkedNext with
  | some number => .ok number
  | none => .error (.invalidInput field "revision sequence exhausted")

structure Staged where
  ledger : KnowledgeLedger
  builder : MutationBuilder
  (createdClaims revisedClaims retractedClaims : List ClaimId)
  touchedSlots : BTreeSet String
  (hypothesesRetained openQuestionsRetained : Nat)

abbrev Step := KnowledgeLedger × MutationBuilder

section

variable (library : Library)

def policySignature (envelope : SemanticEnvelope) : Result String := do
  let bytes ← serialized (library.encodePolicy envelope)
  pure (contentDigestHex (library.blake3 bytes))

def policySignatureMatches (envelope : SemanticEnvelope) (expected : String) : Bool :=
  yields (policySignature library envelope) (· == expected)

def objectKey (object : ClaimObject) : String :=
  match library.encodeObject object with
  | .ok text => text
  | .error _ => "<unserializable>"

def derivedEnvelope (source : SemanticEnvelope) (target : LineageNode) (inputs : List LineageNode)
    (stage : String) : Result SemanticEnvelope := do
  let encoded ← serialized (library.encodeLineage target)
  let envelope := { source with
    derivation :=
      { id := deterministicId library [textBytes "knowledge-derivation", textBytes stage, textBytes encoded]
        kind := .deterministicProjector, actor := none, modelCall := none
        pipeline := ⟨"contextdb-knowledge", library.packageVersion, "1"⟩, inputs } }
  validated (envelope.validateDerivedFrom source)
  validated (envelope.validateForTarget target)
  pure envelope

def MutationBuilder.reviseClaim (builder : MutationBuilder) (revision : ClaimRevision)
    (subject : Option NodeId) : MutationBuilder :=
  { builder with
    transaction := { builder.transaction with
      claimRevisions := builder.transaction.claimRevisions ++ [revision] }
    dirtyNodes := builder.dirtyNodes.insertMany subject.toList
    dirtyClaims := builder.dirtyClaims.insert revision.claimId }

def requireSome {Value : Type} (found : Option Value) (error : KnowledgeError) : Result Value :=
  match found with
  | some value => .ok value
  | none => .error error

variable (ledger : KnowledgeLedger)

def findClaim (id : ClaimId) (field reason : String) : Result SourceClaimRecord :=
  requireSome ledger.claims[id]? (.invalidInput field reason)

structure NewClaim where
  id : ClaimId
  (statementKey subjectKey predicateKey : String)
  subject : NodeId
  predicate : PredicateDefinition
  object : ClaimObject
  validTime : TimeRange
  evidenceId : EvidenceId

variable (source : SourceRevision)

def createSourceClaim (new : NewClaim) (commit : Nat) (step : Step) : Result Step := do
  let (ledger, builder) := step
  let claim : Claim := ⟨new.id, builder.workspace, new.subject, new.predicate.id, commit⟩
  let envelope ← derivedEnvelope library source.envelope (.claimRevision new.id .first)
    [.evidence new.evidenceId] "claim-create"
  let revision : ClaimRevision :=
    { claimId := new.id, revision := .first, object := new.object, temporal := ⟨new.validTime, ⟨commit, none⟩⟩
      epistemic := acceptedSourceExtraction .none .active, confidence := confidence source.source.trust
      sourceFamilies := .ofList [source.sourceFamily], evidence := [new.evidenceId], supersedes := [], envelope }
  validated revision.validate
  validated (validateClaimAgainstPredicate new.predicate .concept revision)
  let revised := builder.reviseClaim revision (some new.subject)
  let builder := { revised with
    transaction := { revised.transaction with
      claimCreates := revised.transaction.claimCreates ++ [claim] } }
  let record : SourceClaimRecord :=
    { claim, sourceId := source.source.id, sourceKey := source.sourceKey, sourceFamily := source.sourceFamily
      statementKey := new.statementKey, subjectKey := new.subjectKey, predicateKey := new.predicateKey
      revisions := singleVec (revision, .sourceAdded) }
  pure ({ ledger with claims := ledger.claims.insert new.id record }, builder)

def appendSourceUpdate (claimId : ClaimId) (object : ClaimObject)
    (validTime : TimeRange) (evidenceId : EvidenceId) (commit : Nat) (step : Step) :
    Result Step := do
  let (ledger, builder) := step
  let record ← findClaim ledger claimId "knowledge.claim" "source update target disappeared"
  let previous := record.head
  let next ← nextRevision previous.revision "knowledge.claim.revision"
  let closed ← closeTransactionHead record commit
  let temporalTransition := !previous.object.equal object &&
    previous.temporal.validTime.finish == some validTime.start
  let envelope ← derivedEnvelope library source.envelope (.claimRevision claimId next)
    [.evidence evidenceId, .claimRevision claimId previous.revision] "claim-update"
  let revision : ClaimRevision :=
    { claimId, revision := next
      object, temporal := ⟨validTime,
        ⟨commit, none⟩⟩, epistemic := acceptedSourceExtraction .none .active
      confidence := confidence source.source.trust, sourceFamilies := .ofList [record.sourceFamily]
      evidence := insertEvidence previous.evidence evidenceId, supersedes := [], envelope }
  validated revision.validate
  let reason := if temporalTransition then .explicitTemporalTransition else .sourceUpdated
  pure ({ ledger with claims := ledger.claims.insert claimId (closed.append revision reason) },
    builder.reviseClaim revision (some record.claim.subject))

/-- Appends a retracted revision over the valid time of the current head only. -/
def retractClaim (claimId : ClaimId) (evidenceId : EvidenceId) (commit : Nat) (step : Step) :
    Result Step := do
  let (ledger, builder) := step
  let record ← findClaim ledger claimId "knowledge.claim" "retraction target disappeared"
  let previous := record.head
  if previous.epistemic.lifecycle = .retracted then pure (ledger, builder)
  else
    let next ← nextRevision previous.revision "knowledge.claim.revision"
    let closed ← closeTransactionHead record commit
    let envelope ← derivedEnvelope library source.envelope (.claimRevision claimId next)
      [.evidence evidenceId, .claimRevision claimId previous.revision] "claim-retract"
    let revision : ClaimRevision :=
      { claimId, revision := next, object := previous.object, temporal := ⟨previous.temporal.validTime, ⟨commit, none⟩⟩
        epistemic := acceptedSourceExtraction .none .retracted, confidence := previous.confidence
        sourceFamilies := previous.sourceFamilies, evidence := insertEvidence previous.evidence evidenceId
        supersedes := previous.supersedes, envelope }
    validated revision.validate
    pure ({ ledger with
        claims := ledger.claims.insert claimId (closed.append revision .sourceRetracted) },
      builder.reviseClaim revision (some record.claim.subject))

def ensureSubject (key label : String) (evidenceId : EvidenceId)
    (commit : Nat) (step : Step) : Result (NodeId × Step) := do
  let (ledger, builder) := step
  match ledger.nodes[key]? with
  | some record => pure (record.node.id, step)
  | none =>
    let id := nodeIdOf library builder.workspace key
    let node : Node :=
      { id, workspaceId := builder.workspace, nodeType := .concept, createdSeq := commit, retiredSeq := none
        identityState := .canonical
        primaryScope := source.envelope.scopes.toList.head source.envelope.scopes.nonEmpty }
    let envelope ← derivedEnvelope library source.envelope (.nodeRevision id .first)
      [.evidence evidenceId] "subject-create"
    let revision : NodeRevision :=
      { nodeId := id, revision := .first, temporal := ⟨⟨0, none⟩, ⟨commit, none⟩⟩, canonicalName := label
        attributes := (∅ : BTreeMap String Value).insert "knowledge_key" (.string key)
        epistemic := acceptedSourceExtraction .none .active, confidence := confidence source.source.trust
        evidence := [evidenceId], envelope }
    validated node.validate
    validated revision.validate
    let builder := { builder with
      transaction := { builder.transaction with
        nodeCreates := builder.transaction.nodeCreates ++ [node]
        nodeRevisions := builder.transaction.nodeRevisions ++
          [revision] }, dirtyNodes := builder.dirtyNodes.insert id }
    pure (id, { ledger with nodes := ledger.nodes.insert key ⟨node, revision⟩ }, builder)

def ensurePredicate (key : String) (object : ClaimObject) (ledger : KnowledgeLedger) :
    Result (PredicateDefinition × KnowledgeLedger) := do
  match ledger.predicates[key]? with
  | some predicate =>
    ensure (predicate.range == object.valueType) (.invalidInput "knowledge.predicate.range"
        "source claim object differs from registered predicate range")
    pure (predicate, ledger)
  | none =>
    let predicate : PredicateDefinition :=
      { id := predicateIdOf library key, name := key, domain := [.concept], range := object.valueType
        cardinality := .optionalSingle, temporalMode := .bitemporal, inverse := none, transitivity := .none
        conflictPolicy := .requireConflictSet, defaultTraversalWeight := ⟨0x3f000000⟩
        securityPropagation := .inheritStrictest, version := .first }
    validated predicate.validate
    pure (predicate, { ledger with predicates := ledger.predicates.insert key predicate })

/-! ### Conflict sets -/

structure ConflictMark where
  state : ConflictState
  stage : String
  reason : SourceClaimRevisionReason
  (missing absent : KnowledgeError)

variable (id : ConflictSetId)

def detectedMark : ConflictMark where
  state := .inConflict id
  stage := "claim-conflict"
  reason := .conflictDetected
  missing := .invalidInput "knowledge.conflict.member" "claim member disappeared"
  absent := .invalidInput "knowledge.semantic_transaction" "same-commit claim revision is absent"

def resolvedMark : ConflictMark where
  state := .resolved id
  stage := "claim-conflict-resolved"
  reason := .conflictResolved
  missing := .invalidInput "knowledge.conflict.winner" "winner claim disappeared"
  absent := .invalidInput "knowledge.semantic_transaction" "same-commit winner revision is absent"

def ClaimRevision.mark (revision : ClaimRevision) (state : ConflictState) : ClaimRevision :=
  { revision with epistemic := { revision.epistemic with conflict := state } }

def conflictHead : RevisionNumber :=
  match ledger.conflicts.inOrder.find? (·.conflict.id == id) with
  | some record => record.revisions.last.revision
  | none => .first

/-- Marks the head of a claim: in place when the head was written by this commit, otherwise
with a further revision. -/
def markClaim (mark : ConflictMark) (conflictId : ConflictSetId) (commit : Nat) (step : Step)
    (claimId : ClaimId) : Result Step := do
  let (ledger, builder) := step
  let record ← requireSome ledger.claims[claimId]? mark.missing
  let previous := record.head
  if previous.epistemic.conflict = mark.state then pure step
  else if previous.temporal.transactionTime.start = commit then
    ensure (builder.transaction.claimRevisions.any fun revision =>
        revision.claimId == claimId && revision.revision == previous.revision) mark.absent
    let pending := builder.transaction.claimRevisions
    let position := pending.findIdx fun revision =>
      revision.claimId == claimId && revision.revision == previous.revision
    validated (ClaimRevision.mark previous mark.state).validate
    pure ({ ledger with
        claims := ledger.claims.insert claimId { record with
          revisions := record.revisions.mapLast fun (revision, reason) =>
            (ClaimRevision.mark revision mark.state, reason) } }, { builder with
        transaction := { builder.transaction with
          claimRevisions := pending.modify position (ClaimRevision.mark · mark.state) } })
  else
    let next ← nextRevision previous.revision "knowledge.claim.revision"
    let closed ← closeTransactionHead record commit
    let envelope ← derivedEnvelope library previous.envelope (.claimRevision claimId next)
      [.conflictRevision conflictId (conflictHead ledger conflictId)] mark.stage
    let revision : ClaimRevision :=
      { ClaimRevision.mark previous mark.state with
        revision := next, temporal := { previous.temporal with transactionTime := ⟨commit, none⟩ }, envelope }
    validated revision.validate
    pure ({ ledger with
        claims := ledger.claims.insert claimId (closed.append revision mark.reason) },
      builder.reviseClaim revision none)

structure ConflictCandidate where
  claim : ClaimId
  object : ClaimObject
  evidence : List EvidenceId
  validTime : TimeRange

def conflictCandidates (slot signature : String) : List ConflictCandidate :=
  (ledger.claims.inOrder.filter fun record => record.slot == slot &&
      policySignatureMatches library record.head.envelope signature &&
      record.head.epistemic.lifecycle == .active).map fun record =>
    ⟨record.claim.id, record.head.object, record.head.evidence, record.head.temporal.validTime⟩

variable (candidates : List ConflictCandidate)

def conflictingMembers : BTreeSet ClaimId :=
  (∅ : BTreeSet ClaimId).insertMany <| candidates.zipIdx.flatMap fun (left, index) =>
    (candidates.drop (index + 1)).flatMap fun right =>
      if !left.object.equal right.object && left.validTime.overlaps right.validTime then
        [left.claim, right.claim]
      else []

def claimLineage (member : ClaimId) : LineageNode :=
  .claimRevision member ((ledger.claims[member]?).elim .first (·.head.revision))

def closeConflictHead (record : ConflictSetRecord) (commit : Nat) : Result ConflictSetRecord := do
  let closed := { record with
    revisions := record.revisions.mapLast fun revision =>
      { revision with
        transactionTime := { revision.transactionTime with finish := some commit } } }
  validated closed.revisions.last.transactionTime.validate
  pure closed

def MutationBuilder.reviseConflict (builder : MutationBuilder) (creates : List ConflictSet)
    (revision : ConflictSetRevision) : MutationBuilder :=
  { builder with
    transaction := { builder.transaction with
      conflictCreates := builder.transaction.conflictCreates ++ creates
      conflictRevisions := builder.transaction.conflictRevisions ++ [revision] } }

def distinctObjects : Nat :=
  (.ofList (candidates.map fun candidate => objectKey library candidate.object) : BTreeSet String).size

def resolutionOf (current : List ConflictCandidate) (winner : ClaimId) : ConflictResolution :=
  if distinctObjects library current > 1 then .temporalTransition else .winnerWithDissent winner

def resolvedClaims (resolution : ConflictResolution) (current : List ConflictCandidate)
    (winner : ClaimId) : List ClaimId :=
  if resolution = .temporalTransition then current.map (·.claim) else [winner]

/-- The conflict set without its contradiction: its remaining active members, if any, resolve
it. -/
def resolveConflict (conflictKey : String)
    (current : List ConflictCandidate) (commit : Nat) (step : Step) : Result Step := do
  let (ledger, builder) := step
  match ledger.conflicts[conflictKey]? with
  | none => pure step
  | some existing =>
    let previous := existing.revisions.last
    match (sortBy compare (current.map (·.claim))).head? with
    | none => pure step
    | some winner =>
      let resolution := resolutionOf library current winner
      if previous.resolution = resolution then pure step
      else
        let number ← nextRevision previous.revision "knowledge.conflict.revision"
        let memberSet : BTreeSet ClaimId :=
          .ofList (previous.members.toList ++ current.map (·.claim))
        let evidenceSet : BTreeSet EvidenceId :=
          .ofList (previous.evidence ++ current.flatMap (·.evidence))
        let envelope ← derivedEnvelope library source.envelope
          (.conflictRevision existing.conflict.id number)
          ((memberSet.toList.filter fun member => (ledger.claims[member]?).isSome).map
            (claimLineage ledger)) "conflict-resolve"
        let members ← nonEmptyVec memberSet.toList "knowledge.conflict.members"
        let revision : ConflictSetRevision :=
          { conflictSetId := existing.conflict.id, revision := number, transactionTime := ⟨commit, none⟩
            members
            resolution, evidence := evidenceSet.toList, envelope }
        validated revision.validate
        let closed ← closeConflictHead existing commit
        let record := { closed with revisions := closed.revisions.push revision }
        (resolvedClaims resolution current winner).foldlM
          (markClaim library (resolvedMark existing.conflict.id) existing.conflict.id commit)
          ({ ledger with conflicts := ledger.conflicts.insert conflictKey record },
            builder.reviseConflict [] revision)

def recordConflict (conflictKey signature : String)
    (current : List ConflictCandidate) (commit : Nat) (step : Step) : Result Step := do
  let (ledger, builder) := step
  let ids := current.map (·.claim)
  let members ← nonEmptyVec ids "knowledge.conflict.members"
  let evidenceSet : BTreeSet EvidenceId := .ofList (current.flatMap (·.evidence))
  let first ← findClaim ledger (members.toList.head members.nonEmpty) "knowledge.conflict" "conflict member disappeared"
  let id := conflictIdOf library first.subjectKey first.predicateKey signature
  match ledger.conflicts[conflictKey]? with
  | some existing =>
    let previous := existing.revisions.last
    let closed ← closeConflictHead existing commit
    let number ← nextRevision previous.revision "knowledge.conflict.revision"
    let envelope ← derivedEnvelope library source.envelope (.conflictRevision id number)
      (ids.map (claimLineage ledger)) "conflict-update"
    let revision : ConflictSetRevision :=
      { conflictSetId := id, revision := number, transactionTime := ⟨commit, none⟩
        members, resolution := .unresolved, evidence := evidenceSet.toList, envelope }
    validated revision.validate
    let record := { closed with revisions := closed.revisions.push revision }
    ids.foldlM (markClaim library (detectedMark id) id commit)
      ({ ledger with conflicts := ledger.conflicts.insert conflictKey record },
        builder.reviseConflict [] revision)
  | none =>
    let conflict : ConflictSet :=
      { id, workspaceId := first.claim.workspaceId, subject := first.claim.subject, predicate := first.claim.predicate
        scopes := source.envelope.scopes, createdSeq := commit }
    let envelope ← derivedEnvelope library source.envelope (.conflictRevision id .first)
      (ids.map (claimLineage ledger)) "conflict-create"
    let revision : ConflictSetRevision :=
      { conflictSetId := id, revision := .first, transactionTime := ⟨commit, none⟩
        members, resolution := .unresolved, evidence := evidenceSet.toList, envelope }
    validated conflict.validate
    validated revision.validate
    ids.foldlM (markClaim library (detectedMark id) id commit) ({ ledger with
          conflicts := ledger.conflicts.insert conflictKey ⟨conflict, singleVec revision⟩ },
        builder.reviseConflict [conflict] revision)

def rebuildConflict (commit : Nat) (step : Step) (slot : String) : Result Step := do
  let signature ← policySignature library source.envelope
  let conflictKey := slot ++ "\x00" ++ signature
  let candidates := conflictCandidates library step.1 slot signature
  let members := conflictingMembers candidates
  let current := candidates.filter fun candidate => members.contains candidate.claim
  if distinctObjects library current < 2 then
    let previousMembers := (step.1.conflicts[conflictKey]?).elim [] fun record =>
      record.revisions.last.members.toList
    resolveConflict library source conflictKey
      (candidates.filter fun candidate => previousMembers.contains candidate.claim) commit step
  else recordConflict library source conflictKey signature current commit step

end

/-! ### Publication -/

inductive PublicationStatus
  | published | alreadyPublished
deriving DecidableEq

structure KnowledgePublication where
  status : PublicationStatus
  commitSeq : Nat
  sourceId : SourceId
  artifactId : ArtifactId
  (createdClaims revisedClaims retractedClaims : List ClaimId)
  (hypothesesRetained openQuestionsRetained : Nat)
  semanticTransaction : Option SemanticMutationSet

section

variable (library : Library) (source : SourceRevision) (ledger : KnowledgeLedger) (commit : Nat)
variable (staged : Staged) (proposal : KnowledgeProposal)

def assertStatement (subjectKey subjectLabel predicateKey : String) (object : ClaimObject)
    (validTime : TimeRange)
    (staged : Staged) : Result Staged := do
  let (subject, ledger, builder) ← ensureSubject library source subjectKey subjectLabel
    proposal.evidenceId commit (staged.ledger, staged.builder)
  let (predicate, ledger) ← ensurePredicate library predicateKey object ledger
  let key : SourceStatementRef := ⟨source.sourceKey, proposal.statementKey⟩
  let touchedSlots := staged.touchedSlots.insert (slotKey subjectKey predicateKey)
  match ledger.claimKeys[key]? with
  | some existing =>
    let (ledger, builder) ← appendSourceUpdate library source existing object validTime
      proposal.evidenceId commit (ledger, builder)
    pure { staged with
      ledger, builder, touchedSlots, revisedClaims := staged.revisedClaims ++ [existing] }
  | none =>
    let id := claimIdOf library source.source.id proposal.statementKey
    let (ledger, builder) ← createSourceClaim library source
      ⟨id, proposal.statementKey, subjectKey, predicateKey, subject, predicate, object, validTime,
        proposal.evidenceId⟩ commit (ledger, builder)
    pure { staged with
      ledger := { ledger with claimKeys := ledger.claimKeys.insert key id }
      builder, touchedSlots, createdClaims := staged.createdClaims ++ [id] }

def retainHypothesis (subjectKey predicateKey : String) (object : ClaimObject)
    (support : List EvidenceId)
    (staged : Staged) : Result Staged := do
  ensure (support.all fun evidence => (staged.ledger.evidence[evidence]?).isSome)
    (.invalidInput "knowledge.hypothesis.supporting_evidence"
      "hypothesis cites evidence absent from the immutable ledger")
  ensure (!support.contains proposal.evidenceId && support.all fun evidence =>
      staged.ledger.evidenceSources[evidence]? != some source.source.id)
    (.invalidInput "knowledge.hypothesis.supporting_evidence" "hypothesis support must be independent and non-circular")
  let hypothesis : KnowledgeHypothesis :=
    ⟨source.source.id, proposal.statementKey, subjectKey, predicateKey, object,
      [proposal.evidenceId], support, commit, source.envelope⟩
  pure { staged with
    ledger := { staged.ledger with hypotheses := staged.ledger.hypotheses ++ [hypothesis] }
    touchedSlots := staged.touchedSlots.insert (slotKey subjectKey predicateKey)
    hypothesesRetained := staged.hypothesesRetained + 1 }

def retractStaged (evidenceId : EvidenceId)
    (staged : Staged) (record : SourceClaimRecord) (claimId : ClaimId) : Result Staged := do
  let (ledger, builder) ← retractClaim library source claimId evidenceId commit
    (staged.ledger, staged.builder)
  pure { staged with
    ledger, builder, touchedSlots := staged.touchedSlots.insert record.slot
    retractedClaims := staged.retractedClaims ++ [claimId] }

def applyProposal : Result Staged :=
  match proposal.action with
  | .assert subjectKey subjectLabel predicateKey object validTime .sourceAssertion =>
    assertStatement library source commit proposal subjectKey subjectLabel predicateKey object validTime staged
  | .assert subjectKey _ predicateKey object _ (.derivedHypothesis support) =>
    retainHypothesis source commit proposal subjectKey predicateKey object support staged
  | .retract target _ => do
      let claimId ← requireSome staged.ledger.claimKeys[target]?
        (.unknownRetractionTarget target.sourceKey target.statementKey)
      let record ← findClaim staged.ledger claimId "knowledge.claim_index" "claim key points at a missing record"
      ensure (record.sourceId == source.source.id &&
        record.sourceFamily == source.sourceFamily) .crossFamilyRetraction
      retractStaged library source commit proposal.evidenceId staged record claimId
  | .openQuestion subjectKey predicateKey question reason =>
    let entry : KnowledgeOpenQuestion :=
      ⟨source.source.id, proposal.statementKey, subjectKey, predicateKey, question, reason,
        proposal.evidenceId, commit, source.envelope⟩
    pure { staged with
      ledger := { staged.ledger with openQuestions := staged.ledger.openQuestions ++ [entry] }
      touchedSlots := staged.touchedSlots.insert (slotKey subjectKey predicateKey)
      openQuestionsRetained := staged.openQuestionsRetained + 1 }

/-- The retraction of a whole document reaches every claim of the source that is active. -/
def retractAll : Result Staged := do
  let current := (staged.ledger.claims.inOrder.filter fun record =>
    record.sourceId == source.source.id && record.head.epistemic.lifecycle == .active).map
      (·.claim.id)
  let span ← requireSome source.evidence.head?
    (.invalidInput "document.retraction" "document retraction requires evidence")
  current.foldlM (fun staged claimId => do
    let record ← findClaim staged.ledger claimId "knowledge.claim_index"
      "document claim disappeared during retraction"
    retractStaged library source commit span.id staged record claimId) staged

def retractDocument (source : SourceRevision) (commit : Nat) (staged : Staged) : Result Staged :=
  if source.revisionKind = .retractDocument then retractAll library source commit staged
  else .ok staged

def checkSourceHead (document : SourceRevision) : Result Unit :=
  match ((ledger.sources[document.source.id]?).getD []).getLast? with
  | some head => do
      ensure (document.supersedes == some head.artifact.id) .sourceRevisionFork
      ensure (document.sourceKey == head.sourceKey && document.sourceFamily == head.sourceFamily)
        (.invalidInput "document.source_identity" "source key and dependence family are immutable")
  | none => ensure document.supersedes.isNone .sourceRevisionFork

def revisionNumber (count : Nat) : Result RevisionNumber :=
  if valid : 0 < count ∧ count < 2 ^ 32 then .ok ⟨count, valid.1, valid.2⟩
  else .error (.invalidInput "source_revision.revision" "source revision count exceeds u32")

def placeRevision (document : SourceRevision) : Result SourceRevision := do
  let count := ((ledger.sources[document.source.id]?).getD []).length + 1
  let revision ← revisionNumber count
  pure { document with
    revision, publishedAt := commit, observation := { document.observation with
      streamPosition := document.observation.streamPosition.map fun position =>
        { position with ordinal := revision.value } }, hierarchy := document.hierarchy.map fun entry =>
      if entry.kind = .revision then { entry with orderKey := revision.value } else entry }

def stageEvidence (source : SourceRevision) : KnowledgeLedger :=
  { ledger with
    evidence := ledger.evidence.insertMany (source.evidence.map fun span => (span.id, span))
    evidenceSources := ledger.evidenceSources.insertMany
      (source.evidence.map fun span => (span.id, source.source.id)) }

def rebuildSlots : Result Step :=
  staged.touchedSlots.toList.foldlM (fun step slot => do
    let (ledger, builder) ← rebuildConflict library source commit step slot
    pure ({ ledger with slotWatermarks := ledger.slotWatermarks.insert slot commit }, builder))
    (staged.ledger, staged.builder)

def joinSource (source : SourceRevision) (workspace : WorkspaceId) (commit : Nat) :
    KnowledgeLedger :=
  { ledger with
    sourceKeys := ledger.sourceKeys.insert source.sourceKey source.source.id
    sources := ledger.sources.insert source.source.id ((ledger.sources[source.source.id]?).getD
      [] ++ [source])
    workspaceId := some workspace, commitSeq := commit }

def sortedIds (ids : List ClaimId) : List ClaimId :=
  sortBy compare ids

def dedupIds (ids : List ClaimId) : List ClaimId :=
  (.ofList ids : BTreeSet ClaimId).toList

def stageDocument (document : AdaptedDocument) :
    Result (KnowledgePublication × KnowledgeLedger) := do
  ensure (ledger.commitSeq + 1 < 2 ^ 64) .commitSequenceExhausted
  let commit := ledger.commitSeq + 1
  let source ← placeRevision ledger commit document.sourceRevision
  validateSourceRevision library source
  let fresh := MutationBuilder.new library source.source.workspaceId ledger.commitSeq
    source.observation.id
  let builder := { fresh with
    transaction := { fresh.transaction with observationAppends := [source.observation] } }
  let staged ← document.proposals.foldlM (applyProposal library source commit)
    ⟨stageEvidence ledger source, builder, [], [], [], ∅, 0, 0⟩
  let staged ← retractDocument library source commit staged
  let (rebuilt, builder) ← rebuildSlots library source commit staged
  let builder := builder.addWork
  validated builder.transaction.validate
  pure
    ({ status := .published
       commitSeq := commit
       sourceId := source.source.id
       artifactId := source.artifact.id
       createdClaims := sortedIds staged.createdClaims
       revisedClaims := dedupIds staged.revisedClaims
       retractedClaims := dedupIds staged.retractedClaims
       hypothesesRetained := staged.hypothesesRetained
       openQuestionsRetained := staged.openQuestionsRetained
       semanticTransaction := some builder.transaction },
      joinSource rebuilt source builder.workspace commit)

def publish (document : AdaptedDocument) : Result (KnowledgePublication × KnowledgeLedger) := do
  let source := document.sourceRevision
  validateSourceRevision library source
  ensure (ledger.workspaceId.all (· == source.source.workspaceId))
    (.invalidInput "document.workspace_id" "one knowledge ledger serves exactly one workspace")
  ensure ((ledger.sourceKeys[source.sourceKey]?).all (· == source.source.id))
    (.invalidInput "document.source_key" "stable source key maps to a different source ID")
  match ((ledger.sources[source.source.id]?).getD []).find?
      (·.nativeRevision == source.nativeRevision) with
  | some existing =>
    ensure (existing.logicalDigest == source.logicalDigest)
      (.revisionDigestConflict source.nativeRevision)
    pure (⟨.alreadyPublished, existing.publishedAt, source.source.id, source.artifact.id, [], [],
      [], 0, 0, none⟩, ledger)
  | none =>
    checkSourceHead ledger source
    stageDocument library ledger document

end

end ContextDb.Knowledge
