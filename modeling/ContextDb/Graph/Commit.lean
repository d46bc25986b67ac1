import ContextDb.Graph.Lookup

/-! Atomic graph mutations: validation, staging of identities, references, revisions and
adjacency deltas, and the publication of the next version. A failed mutation leaves the
store as it was. -/

set_option autoImplicit false

namespace ContextDb.Graph

open Lib Std ContextDb.Core BTreeMap Tables

variable (tables : Tables) (mutation : GraphMutation)

def validateBatch : Result Unit := do
  forM mutation.workspaces (validated ·.validate)
  forM mutation.memorySpaces (validated ·.validate)
  forM mutation.memorySubjects (validated ·.validate)
  forM mutation.nodes (validated ·.validate)
  forM mutation.nodeRevisions (validated ·.validate)
  -- Claim identities have nothing to validate.
  forM mutation.claimRevisions (validated ·.validate)
  forM mutation.edges (validated ·.validate)
  forM mutation.edgeRevisions (validated ·.validate)
  forM mutation.conflicts (validated ·.validate)
  forM mutation.conflictRevisions (validated ·.validate)
  forM mutation.artifacts (validated ·.validate)

def timesMatch (commitSeq : Nat) : Bool :=
  mutation.nodes.all (·.createdSeq = commitSeq) && mutation.claims.all (·.createdSeq = commitSeq) &&
    mutation.edges.all (·.createdSeq = commitSeq) && mutation.conflicts.all
      (·.createdSeq = commitSeq) &&
    mutation.nodeRevisions.all (·.transactionTime.start = commitSeq) &&
    mutation.claimRevisions.all (·.transactionTime.start = commitSeq) &&
    mutation.edgeRevisions.all (·.transactionTime.start = commitSeq) &&
    mutation.conflictRevisions.all (·.transactionTime.start = commitSeq)

def validateMutationTime (commitSeq : Nat) : Result Unit :=
  ensure (timesMatch mutation commitSeq)
    (.invariant ("created/transaction times must begin at graph semantic commit " ++
      commitSeq.repr))

def registerObjectId (id : Uuid) (kind : ObjectKind) : Result Tables :=
  match tables.objectKind[id]? with
  | some existing =>
    .error (.invariant ("stable external ID " ++ id.display ++ " is already registered as " ++
      existing.label ++ ", not " ++ kind.label))
  | none => .ok { tables with objectKind := tables.objectKind.insert id kind }

def stageWorkspace (workspace : Workspace) : Result Tables := do
  let tables ← registerObjectId tables workspace.id.uuid .workspace
  ensureAbsent tables.workspaces workspace.id.uuid
  pure { tables with workspaces := tables.workspaces.insert workspace.id.uuid workspace }

def stageSpace (space : MemorySpace) : Result Tables := do
  let tables ← registerObjectId tables space.id.uuid .memorySpace
  ensureAbsent tables.spaces space.id.uuid
  requireIdentity tables.workspaces space.workspaceId.uuid
  pure { tables with spaces := tables.spaces.insert space.id.uuid space }

def stageSubject (subject : MemorySubject) : Result Tables := do
  let tables ← registerObjectId tables subject.id.uuid .memorySubject
  ensureAbsent tables.subjects subject.id.uuid
  requireIdentity tables.workspaces subject.workspaceId.uuid
  pure { tables with subjects := tables.subjects.insert subject.id.uuid subject }

def RevisionSpace.addIdentity {Identity Revision : Type}
    (space : RevisionSpace Identity Revision) (id : Uuid) (identity : Identity) :
    RevisionSpace Identity Revision :=
  { space with identity := space.identity.insert id identity }

def allocateMapping (index : DenseIndex) (externalId : Uuid) (nextDense createdSeq : Nat) :
    Result (DenseIndex × Nat) := do
  ensureAbsent index.external externalId
  let denseId ← DenseId.new nextDense
  let following ← checkedNext nextDense (.invariant "dense identifier space exhausted")
  pure ({ index with
    external := index.external.insert externalId ⟨externalId, denseId, createdSeq⟩
    dense := index.dense.insert denseId.value externalId }, following)

def stageNode (visibleFrom : Nat) (staged : Tables × Nat) (node : Node) :
    Result (Tables × Nat) := do
  let tables ← registerObjectId staged.1 node.id.uuid .node
  requireIdentity tables.workspaces node.workspaceId.uuid
  ensureAbsent tables.nodes.identity node.id.uuid
  let (dense, nextDense) ← allocateMapping tables.dense node.id.uuid staged.2 visibleFrom
  pure ({ tables with dense, nodes := tables.nodes.addIdentity node.id.uuid node }, nextDense)

def stageClaim (claim : Claim) : Result Tables := do
  let tables ← registerObjectId tables claim.id.uuid .claim
  requireIdentity tables.workspaces claim.workspaceId.uuid
  requireIdentity tables.nodes.identity claim.subject.uuid
  ensureAbsent tables.claims.identity claim.id.uuid
  pure { tables with claims := tables.claims.addIdentity claim.id.uuid claim }

def stageEdge (edge : Edge) : Result Tables := do
  let tables ← registerObjectId tables edge.id.uuid .edge
  requireIdentity tables.workspaces edge.workspaceId.uuid
  requireIdentity tables.nodes.identity edge.source.uuid
  requireIdentity tables.nodes.identity edge.target.uuid
  ensureAbsent tables.edges.identity edge.id.uuid
  pure { tables with edges := tables.edges.addIdentity edge.id.uuid edge }

def stageConflict (conflict : ConflictSet) : Result Tables := do
  let tables ← registerObjectId tables conflict.id.uuid .conflictSet
  requireIdentity tables.workspaces conflict.workspaceId.uuid
  requireIdentity tables.nodes.identity conflict.subject.uuid
  ensureAbsent tables.conflicts.identity conflict.id.uuid
  pure { tables with conflicts := tables.conflicts.addIdentity conflict.id.uuid conflict }

def ensureWorkspace (relation : String) (expected actual : WorkspaceId) : Result Unit :=
  ensure (expected = actual)
    (.invariant (relation ++ " crosses workspace boundary " ++ expected.display ++ " -> " ++
      actual.display))

/-- Follow the parents of a memory space. Every ancestor is a stored space and none is
met twice, so the stored spaces bound the walk. -/
def checkParents (tables : Tables) (workspaceId : WorkspaceId) :
    Nat → BTreeSet MemorySpaceId → Option MemorySpaceId → Result Unit
  | _, _, none => .ok ()
  | 0, _, some _ =>
    .error (.invariant "memory-space parent hierarchy contains a cycle")
  | rounds + 1, ancestors, some parentId => do
      ensure (!ancestors.contains parentId)
        (.invariant "memory-space parent hierarchy contains a cycle")
      let parent ← getIdentity tables.spaces parentId.uuid "parent memory space"
      ensureWorkspace "memory-space parent" workspaceId parent.workspaceId
      checkParents tables workspaceId rounds (ancestors.insert parentId) parent.parent

def checkSpaceReferences (space : MemorySpace) : Result Unit := do
  checkParents tables space.workspaceId (tables.spaces.size + 1) {space.id} space.parent
  forM space.owners.toList fun owner => do
    let subject ← getIdentity tables.subjects owner.uuid "memory-space owner"
    ensureWorkspace "memory-space owner" space.workspaceId subject.workspaceId

def checkSubjectReferences (subject : MemorySubject) : Result Unit := do
  let canonical ← getIdentity tables.nodes.identity subject.canonicalNode.uuid "subject canonical node"
  ensureWorkspace "subject canonical node" subject.workspaceId canonical.workspaceId
  forM subject.primarySpaces.toList fun spaceId => do
    let space ← getIdentity tables.spaces spaceId.uuid "subject primary space"
    ensureWorkspace "subject primary space" subject.workspaceId space.workspaceId
    ensure (space.owners.toList.contains subject.id)
      (.invariant ("subject " ++ subject.id.display ++ " is not an owner of primary space " ++
        space.id.display))

def checkNodeReferences (node : Node) : Result Unit :=
  match node.primaryScope.kind with
  | .workspace =>
    ensureWorkspace "node primary workspace" node.workspaceId
      (node.primaryScope.id.recast .workspace)
  | .memorySpace => do
      let space ← getIdentity tables.spaces node.primaryScope.id.uuid "node memory space"
      ensureWorkspace "node memory space" node.workspaceId space.workspaceId
  | _ => .ok ()

def checkClaimReferences (claim : Claim) : Result Unit := do
  let subject ← getIdentity tables.nodes.identity claim.subject.uuid "claim subject"
  ensureWorkspace "claim subject" claim.workspaceId subject.workspaceId

def checkEdgeReferences (edge : Edge) : Result Unit := do
  let source ← getIdentity tables.nodes.identity edge.source.uuid "edge source"
  let target ← getIdentity tables.nodes.identity edge.target.uuid "edge target"
  ensureWorkspace "edge source" edge.workspaceId source.workspaceId
  ensureWorkspace "edge target" edge.workspaceId target.workspaceId
  match edge.materializedFromClaim with
  | some claimId => do
      let claim ← getIdentity tables.claims.identity claimId.uuid "materialized claim"
      ensureWorkspace "materialized claim" edge.workspaceId claim.workspaceId
  | none => .ok ()

def checkConflictReferences (conflict : ConflictSet) : Result Unit := do
  let subject ← getIdentity tables.nodes.identity conflict.subject.uuid "conflict subject"
  ensureWorkspace "conflict subject" conflict.workspaceId subject.workspaceId

def ensureClaimConflictSignature (claim : Claim) (conflict : ConflictSet) : Result Unit :=
  ensure (claim.workspaceId = conflict.workspaceId && claim.subject = conflict.subject &&
      claim.predicate = conflict.predicate)
    (.invariant "conflict member does not share workspace/subject/predicate")

def checkClaimRevisionReferences (revision : ClaimRevision) : Result Unit := do
  let claim ← getIdentity tables.claims.identity revision.claimId.uuid "claim"
  forM revision.supersedes fun supersededId => do
    let superseded ← getIdentity tables.claims.identity supersededId.uuid "superseded claim"
    ensure (claim.workspaceId = superseded.workspaceId && claim.subject = superseded.subject &&
        claim.predicate = superseded.predicate)
      (.invariant "a claim may supersede only the same workspace/subject/predicate")
  match revision.epistemic.conflict.setId with
  | some setId => do
      let conflict ← getIdentity tables.conflicts.identity setId.uuid "referenced conflict set"
      ensureClaimConflictSignature claim conflict
  | none => .ok ()

def checkConflictRevisionReferences (revision : ConflictSetRevision) : Result Unit := do
  let conflict ← getIdentity tables.conflicts.identity revision.conflictSetId.uuid "conflict set"
  forM revision.members.toList fun member => do
    let claim ← getIdentity tables.claims.identity member.uuid "conflict member"
    ensureClaimConflictSignature claim conflict

def validateStagedReferences : Result Unit := do
  forM mutation.memorySpaces (checkSpaceReferences tables)
  forM mutation.memorySubjects (checkSubjectReferences tables)
  forM mutation.nodes (checkNodeReferences tables)
  forM mutation.claims (checkClaimReferences tables)
  forM mutation.edges (checkEdgeReferences tables)
  forM mutation.conflicts (checkConflictReferences tables)
  forM mutation.claimRevisions (checkClaimRevisionReferences tables)
  forM mutation.conflictRevisions (checkConflictRevisionReferences tables)

def workspaceFromEnvelope (envelope : SemanticEnvelope) : Result WorkspaceId :=
  match envelope.scopes.toList.find? (·.kind = .workspace) with
  | some scope => .ok (scope.id.recast .workspace)
  | none => .error (.invariant "artifact envelope requires a workspace scope")

def requireSubjectWorkspace (id : MemorySubjectId) (expected : WorkspaceId) : Result Unit := do
  let subject ← getIdentity tables.subjects id.uuid "envelope subject"
  ensureWorkspace "semantic envelope subject" expected subject.workspaceId

def requireSpaceWorkspace (id : MemorySpaceId) (expected : WorkspaceId) : Result Unit := do
  let space ← getIdentity tables.spaces id.uuid "envelope memory space"
  ensureWorkspace "semantic envelope memory space" expected space.workspaceId

def requireAudienceWorkspace (expected : WorkspaceId) : Audience → Result Unit
  | .subject id => requireSubjectWorkspace tables id expected
  | .group id => requireSubjectWorkspace tables id expected
  | .memorySpace id => requireSpaceWorkspace tables id expected
  | .public => .ok ()
  | .owner => .ok ()

def validateEnvelopeReferences (envelope : SemanticEnvelope) (expected : WorkspaceId) :
    Result Unit := do
  let actual ← workspaceFromEnvelope envelope
  ensureWorkspace "semantic envelope" expected actual
  forM envelope.scopes.toList fun scope =>
    if scope.kind = .memorySpace then
      requireSpaceWorkspace tables (scope.id.recast .memorySpace) expected
    else .ok ()
  requireSubjectWorkspace tables envelope.perspective.knower expected
  forM envelope.perspective.experiencer.toList (requireSubjectWorkspace tables · expected)
  forM envelope.ownership.owners.toList (requireSubjectWorkspace tables · expected)
  forM envelope.ownership.audienceGrants (requireAudienceWorkspace tables expected ·.audience)

section

def RevisionSpace.writeRevision {Identity Revision : Type}
    (space : RevisionSpace Identity Revision) (id : Uuid) (revision : Nat) (value : Revision)
    (visibleFrom : Nat) : Result (RevisionSpace Identity Revision) := do
  ensure (space.identity.contains id) (notFound "stable identity" id)
  let expected := space.head[id]?.getD 0 + 1
  ensure (expected < 0x100000000) (.invariant "revision sequence exhausted")
  ensure (revision = expected) (.invariant ("revision sequence for " ++ id.display ++
    ": expected " ++ expected.repr ++
      ", received " ++ revision.repr))
  pure { space with
    revision := BTreeMap.updateEntry space.revision id ∅
      (·.insert revision ⟨visibleFrom, none, value⟩)
    head := space.head.insert id revision }

namespace IndexTable

variable {Term : Type} [Ord Term] [TransOrd Term] [LawfulEqOrd Term]

def list (table : IndexTable Term) (id : Uuid) (terms : List Term) : IndexTable Term :=
  terms.foldl (fun table term => BTreeMap.updateEntry table term ∅ (·.insert id)) table

def unlist (table : IndexTable Term) (id : Uuid) (terms : List Term) : IndexTable Term :=
  terms.foldl (fun table term => BTreeMap.updateEntry table term ∅ (·.erase id)) table

end IndexTable

open IndexTable (list unlist)

def writePolicyIndexes (indexes : PolicyIndexes) (id : Uuid) (policy : PolicyIndexEntry) :
    PolicyIndexes where
  byWorkspace := list indexes.byWorkspace id [policy.workspaceId]
  bySubject := list indexes.bySubject id policy.subjects.toList
  byScope := list indexes.byScope id policy.scopes.toList
  byOwner := list indexes.byOwner id policy.owners.toList
  bySpace := list indexes.bySpace id policy.memorySpaces.toList
  byAudience := list indexes.byAudience id policy.audiencePurposes.keys
  byPurpose := list indexes.byPurpose id policy.allowedPurposes.toList

def removePolicyIndexes (indexes : PolicyIndexes) (id : Uuid) (policy : PolicyIndexEntry) :
    PolicyIndexes where
  byWorkspace := unlist indexes.byWorkspace id [policy.workspaceId]
  bySubject := unlist indexes.bySubject id policy.subjects.toList
  byScope := unlist indexes.byScope id policy.scopes.toList
  byOwner := unlist indexes.byOwner id policy.owners.toList
  bySpace := unlist indexes.bySpace id policy.memorySpaces.toList
  byAudience := unlist indexes.byAudience id policy.audiencePurposes.keys
  byPurpose := unlist indexes.byPurpose id policy.allowedPurposes.toList

namespace Tables

def putPolicy (tables : Tables) (id : Uuid) (visibleFrom : Nat) (policy : PolicyIndexEntry) :
    Tables :=
  { tables with
    policy := tables.policy.insert id policy, policyHistory := BTreeMap.updateEntry tables.policyHistory id ∅
      (·.insert visibleFrom ⟨visibleFrom,
        policy⟩), policyIndexes := writePolicyIndexes tables.policyIndexes id policy }

def recordPolicy (tables : Tables) (id : Uuid) (visibleFrom : Nat) (policy : PolicyIndexEntry) :
    Tables :=
  let policyIndexes :=
    match tables.policy[id]? with
    | some previous => removePolicyIndexes tables.policyIndexes id previous
    | none => tables.policyIndexes
  putPolicy { tables with policyIndexes } id visibleFrom policy

def putDelta (tables : Tables) (visibleFrom : Nat) (edge : SegmentEdge) : Tables :=
  { tables with
    edgeOutDelta := updateEntry tables.edgeOutDelta edge.source.value ∅
      (·.insert ⟨visibleFrom, edge.edgeId⟩ edge)
    edgeInDelta := updateEntry tables.edgeInDelta edge.target.value ∅
      (·.insert ⟨visibleFrom, edge.edgeId⟩ edge) }

end Tables

def SegmentEdge.reverse (edge : SegmentEdge) : SegmentEdge :=
  { edge with source := edge.target, target := edge.source }

variable (visibleFrom : Nat)

def stageNodeRevision (tables : Tables) (revision : NodeRevision) : Result Tables := do
  let node ← getIdentity tables.nodes.identity revision.nodeId.uuid "node"
  validateEnvelopeReferences tables revision.envelope node.workspaceId
  let nodes ← tables.nodes.writeRevision revision.nodeId.uuid revision.revision.value revision visibleFrom
  pure (recordPolicy { tables with nodes } revision.nodeId.uuid visibleFrom
    (buildPolicy node.workspaceId revision.envelope))

def stageClaimRevision (tables : Tables) (revision : ClaimRevision) : Result Tables := do
  let claim ← getIdentity tables.claims.identity revision.claimId.uuid "claim"
  validateEnvelopeReferences tables revision.envelope claim.workspaceId
  let claims ← tables.claims.writeRevision revision.claimId.uuid revision.revision.value revision visibleFrom
  pure (recordPolicy { tables with claims } revision.claimId.uuid visibleFrom
    (buildPolicy claim.workspaceId revision.envelope))

def Edge.segmentEdge (edge : Edge) (source target : DenseId) : SegmentEdge :=
  ⟨edge.id.uuid, source, target, edge.edgeType.uuid, edge.directionality⟩

def stageEdgeRevision (tables : Tables) (revision : EdgeRevision) : Result Tables := do
  let edge ← getIdentity tables.edges.identity revision.edgeId.uuid "edge"
  validateEnvelopeReferences tables revision.envelope edge.workspaceId
  let edges ← tables.edges.writeRevision revision.edgeId.uuid revision.revision.value revision visibleFrom
  let tables := recordPolicy { tables with edges } revision.edgeId.uuid visibleFrom
    (buildPolicy edge.workspaceId revision.envelope)
  let source ← denseForExternal tables.dense edge.source.uuid
  let target ← denseForExternal tables.dense edge.target.uuid
  let delta := Edge.segmentEdge edge source target
  let tables := tables.putDelta visibleFrom delta
  pure (if edge.directionality =
    .undirected then tables.putDelta visibleFrom delta.reverse else tables)

def stageConflictRevision (tables : Tables) (revision : ConflictSetRevision) : Result Tables := do
  let conflict ← getIdentity tables.conflicts.identity revision.conflictSetId.uuid "conflict set"
  validateEnvelopeReferences tables revision.envelope conflict.workspaceId
  let conflicts ← tables.conflicts.writeRevision revision.conflictSetId.uuid
    revision.revision.value revision visibleFrom
  pure (recordPolicy { tables with conflicts } revision.conflictSetId.uuid visibleFrom
    (buildPolicy conflict.workspaceId revision.envelope))

def writeRevisions (tables : Tables) (mutation : GraphMutation) : Result Tables := do
  let tables ← mutation.nodeRevisions.foldlM (stageNodeRevision visibleFrom) tables
  let tables ← mutation.claimRevisions.foldlM (stageClaimRevision visibleFrom) tables
  let tables ← mutation.edgeRevisions.foldlM (stageEdgeRevision visibleFrom) tables
  mutation.conflictRevisions.foldlM (stageConflictRevision visibleFrom) tables

def stageArtifact (tables : Tables) (artifact : Artifact) : Result Tables := do
  let tables ← registerObjectId tables artifact.id.uuid .artifact
  ensureAbsent tables.artifacts artifact.id.uuid
  let workspace ← workspaceFromEnvelope artifact.envelope
  validateEnvelopeReferences tables artifact.envelope workspace
  let policy := buildPolicy workspace artifact.envelope
  let tables := tables.putPolicy artifact.id.uuid visibleFrom policy
  pure { tables with
    artifacts := tables.artifacts.insert artifact.id.uuid ⟨artifact, policy, visibleFrom⟩ }

end

section

def stageIdentities (visibleFrom : Nat) (tables : Tables) (mutation : GraphMutation) :
    Result (Tables × Nat) := do
  let tables ← mutation.workspaces.foldlM stageWorkspace tables
  let tables ← mutation.memorySpaces.foldlM stageSpace tables
  let tables ← mutation.memorySubjects.foldlM stageSubject tables
  let (tables, nextDense) ← mutation.nodes.foldlM (stageNode visibleFrom)
    (tables, tables.dense.next.getD 1)
  let tables ← mutation.claims.foldlM stageClaim tables
  let tables ← mutation.edges.foldlM stageEdge tables
  let tables ← mutation.conflicts.foldlM stageConflict tables
  pure (tables, nextDense)

def stageCommit (visibleFrom semanticSeq nextDense : Nat) (publication : Option GraphPublication)
    (tables : Tables) : Tables :=
  { tables with
    dense := { tables.dense with next := some nextDense }, semantic :=
      { watermark := some semanticSeq, snapshots := tables.semantic.snapshots.insert semanticSeq visibleFrom }
    publications :=
      match publication with
      | some publication => tables.publications.insert publication.mutationId.uuid
          ⟨publication, visibleFrom, false⟩
      | none => tables.publications }

def stageMutation (visibleFrom semanticSeq : Nat) (publication : Option GraphPublication)
    (tables : Tables) (mutation : GraphMutation) : Result Tables := do
  let (tables, nextDense) ← stageIdentities visibleFrom tables mutation
  validateStagedReferences tables mutation
  let tables ← writeRevisions visibleFrom tables mutation
  let tables ← mutation.artifacts.foldlM (stageArtifact visibleFrom) tables
  pure (stageCommit visibleFrom semanticSeq nextDense publication tables)

def semanticCommit (previous : Nat) (publication : Option GraphPublication) : Result Nat :=
  match publication with
  | some publication => do
      ensure (previous < publication.commitSeq)
        (.invariant ("journal projection sequence " ++ publication.commitSeq.repr ++
          " does not advance graph watermark " ++ previous.repr))
      pure publication.commitSeq
  | none => checkedNext previous (.invariant "semantic sequence exhausted")

structure ApplyOutcome where
  storageSeq : Nat
  replayed : Bool
deriving DecidableEq

def replayedOutcome (tables : Tables) (publication : Option GraphPublication) :
    Result (Option ApplyOutcome) :=
  match publication with
  | none => .ok none
  | some publication =>
    match tables.publications[publication.mutationId.uuid]? with
    | none => .ok none
    | some existing => do
        ensure (existing.publication = publication)
          (.invariant "mutation ID was already projected with different publication bytes")
        pure (some ⟨existing.storageSeq, true⟩)

variable (engine : Engine)

def applyMutation (store : Store) (mutation : GraphMutation)
    (publication : Option GraphPublication) (enforceBase : Bool) :
    Result (ApplyOutcome × Store) := do
  match ← replayedOutcome store.latest publication with
  | some outcome => pure (outcome, store)
  | none => do
      ensure (!(enforceBase && store.head ≠ mutation.baseStorageSeq))
        (.invariant ("snapshot precondition failed: expected " ++ mutation.baseStorageSeq.repr ++
          ", current " ++ store.head.repr))
      validateBatch mutation
      let visibleFrom ← checkedNext store.head (.invariant "storage sequence exhausted")
      let semanticSeq ← semanticCommit (readSemanticWatermark store.latest) publication
      validateMutationTime mutation semanticSeq
      let tables ← stageMutation visibleFrom semanticSeq publication store.latest mutation
      let committed ← store.commit engine tables
      ensure (committed.head = visibleFrom)
        (.invariant "backend sequence diverged from prepared graph sequence")
      pure (⟨committed.head, false⟩, committed)

def commit (store : Store) (mutation : GraphMutation) : Result (Nat × Store) := do
  let (outcome, committed) ← applyMutation engine store mutation none true
  pure (outcome.storageSeq, committed)

structure SemanticMutationSet where
  id : MutationId
  baseCommitSeq : Nat
  nodeCreates : List Node
  nodeRevisions : List NodeRevision
  claimCreates : List Claim
  claimRevisions : List ClaimRevision
  edgeCreates : List Edge
  edgeRevisions : List EdgeRevision
  conflictCreates : List ConflictSet
  conflictRevisions : List ConflictSetRevision
  derivedWork : List DerivedWorkItem

structure ValidatedMutation where
  mutation : SemanticMutationSet
  digest : Digest

structure PublicationReceipt where
  mutationId : MutationId
  publicationId : PublicationId
  (commitSeq outboxCount : Nat)
  mutationDigest : Digest

def SemanticMutationSet.graphMutation (mutation : SemanticMutationSet) : GraphMutation :=
  { GraphMutation.empty with
    nodes := mutation.nodeCreates, nodeRevisions := mutation.nodeRevisions, claims := mutation.claimCreates
    claimRevisions := mutation.claimRevisions, edges := mutation.edgeCreates
    edgeRevisions := mutation.edgeRevisions, conflicts := mutation.conflictCreates
    conflictRevisions := mutation.conflictRevisions }

def validatePublicationTime (mutation : SemanticMutationSet) (commitSeq : Nat) : Result Unit := do
  ensure (checkedAdd mutation.baseCommitSeq 1 = some commitSeq)
    (.invariant "publication commit must immediately follow its declared base snapshot")
  ensure (mutation.nodeRevisions.all (·.transactionTime.start = commitSeq) &&
      mutation.claimRevisions.all (·.transactionTime.start = commitSeq) &&
      mutation.edgeRevisions.all (·.transactionTime.start = commitSeq) &&
      mutation.conflictRevisions.all (·.transactionTime.start = commitSeq))
    (.invariant "projected graph revisions must begin at the publication commit")

def projectPublication (store : Store) (validated : ValidatedMutation)
    (receipt : PublicationReceipt) : Result (GraphProjectionReceipt × Store) := do
  ensure (validated.mutation.id = receipt.mutationId && validated.digest = receipt.mutationDigest)
    (.invariant "journal receipt does not identify the validated mutation bytes")
  ensure (validated.mutation.derivedWork.length < 0x100000000)
    (.invariant "semantic outbox exceeds u32")
  ensure (receipt.outboxCount = validated.mutation.derivedWork.length)
    (.invariant "journal receipt outbox count disagrees with validated mutation")
  validatePublicationTime validated.mutation receipt.commitSeq
  let publication : GraphPublication :=
    ⟨receipt.mutationId, receipt.publicationId, receipt.commitSeq, receipt.mutationDigest⟩
  let (outcome, committed) ← applyMutation engine store validated.mutation.graphMutation
    (some publication) false
  pure (⟨publication, outcome.storageSeq, outcome.replayed⟩, committed)

end

end ContextDb.Graph
