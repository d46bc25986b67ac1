import ContextDb.Core.Semantic
import ContextDb.Lib.OrderedEntries

/-! Data of the persistent graph: identifiers local to the store, policy metadata, graph
snapshots, adjacency records and the write batch. Sequences, counters and lengths are
naturals, bounded where the source uses checked arithmetic. -/

set_option autoImplicit false

namespace ContextDb.Graph

open Lib Std ContextDb.Core

inductive StorageError
  | snapshotUnavailable (requested head : Nat)
  | resourceExhausted (resource : String) (limit required : Nat)
  | backend (message : String)
deriving DecidableEq

inductive GraphError
  | validation (error : ValidationError)
  | storage (error : StorageError)
  | invariant (reason : String)
  | notFound (kind id : String)
  | unauthorized
  | corrupt (reason : String)
  | resourceExhausted (resource : String) (limit required : Nat)
  | adjacencyMaintenanceConflict (requested active : String)
  | snapshotPruned (requested oldestRetained : Nat)
  | unsupportedMaintenance (kind : String)
deriving DecidableEq

abbrev Result := Except GraphError

def validated (outcome : ValidationResult) : Result Unit :=
  outcome.mapError .validation

def maxU64 : Nat := 0xffffffffffffffff

def checkedAdd (left right : Nat) : Option Nat :=
  if left + right ≤ maxU64 then some (left + right) else none

def checkedNext (value : Nat) (exhausted : GraphError) : Result Nat :=
  match checkedAdd value 1 with
  | some next => .ok next
  | none => .error exhausted

/-- Dense storage-local key, one-based. -/
@[ext]
structure DenseId where
  value : Nat
  oneBased : 0 < value

instance : DecidableEq DenseId := fun _ _ => decidable_of_iff _ DenseId.ext_iff.symm

def DenseId.new (value : Nat) : Result DenseId :=
  if positive : 0 < value then .ok ⟨value, positive⟩
  else .error (.invariant "dense identifiers are one-based")

structure IdMapping where
  externalId : Uuid
  denseId : DenseId
  createdSeq : Nat
deriving DecidableEq

inductive ObjectKind
  | workspace | memorySpace | memorySubject | node | claim | edge | conflictSet | artifact
deriving DecidableEq

def ObjectKind.label : ObjectKind → String
  | .workspace => "workspace"
  | .memorySpace => "memory_space"
  | .memorySubject => "memory_subject"
  | .node => "node"
  | .claim => "claim"
  | .edge => "edge"
  | .conflictSet => "conflict_set"
  | .artifact => "artifact"

structure PolicyIndexEntry where
  workspaceId : WorkspaceId
  scopes : BTreeSet ScopeId
  (owners subjects : BTreeSet MemorySubjectId)
  memorySpaces : BTreeSet MemorySpaceId
  audiencePurposes : BTreeMap String (BTreeSet Purpose)
  allowedPurposes : BTreeSet Purpose
  classification : SecurityClassification
  compartments : BTreeSet ScopeId
  (retrievable consentGranted : Bool)

structure ReadPrincipal where
  subject : MemorySubjectId
  workspaceId : WorkspaceId
  scopes : BTreeSet ScopeId
  memorySpaces : BTreeSet MemorySpaceId
  audienceSubjects : BTreeSet MemorySubjectId
  purpose : Purpose
  clearance : SecurityClassification
  compartments : BTreeSet ScopeId

structure PersistedPolicy where
  visibleFrom : Nat
  value : PolicyIndexEntry

structure ArtifactMetadata where
  artifact : Artifact
  policy : PolicyIndexEntry
  createdSeq : Nat

abbrev Digest := BitVec 256

structure GraphPublication where
  mutationId : MutationId
  publicationId : PublicationId
  commitSeq : Nat
  mutationDigest : Digest
deriving DecidableEq

structure GraphProjectionReceipt where
  publication : GraphPublication
  storageSeq : Nat
  replayed : Bool
deriving DecidableEq

inductive DerivedWorkItem
  | lexicalIndex (nodeIds : List NodeId) (claimIds : List ClaimId)
  | vectorize (nodes : List NodeId)
  | updateAliasMap (nodes : List NodeId)
  | updateFilterBitmaps (nodes : List NodeId)
  | dirtyHierarchyRegion (roots : List NodeId)
  | invalidateSummaries (nodes : List NodeId)
  | consolidate (roots : List NodeId)
  | updateSessionActiveSet (observations : List ObservationId)
deriving DecidableEq

structure SegmentEdge where
  edgeId : Uuid
  (source target : DenseId)
  edgeType : Uuid
  directionality : Directionality
deriving DecidableEq

inductive SegmentDirection
  | outgoing | incoming
deriving DecidableEq

namespace SegmentDirection

def rowNode (direction : SegmentDirection) (edge : SegmentEdge) : DenseId :=
  match direction with
  | .outgoing => edge.source
  | .incoming => edge.target

end SegmentDirection

structure GraphMutation where
  baseStorageSeq : Nat
  workspaces : List Workspace
  memorySpaces : List MemorySpace
  memorySubjects : List MemorySubject
  nodes : List Node
  nodeRevisions : List NodeRevision
  claims : List Claim
  claimRevisions : List ClaimRevision
  edges : List Edge
  edgeRevisions : List EdgeRevision
  conflicts : List ConflictSet
  conflictRevisions : List ConflictSetRevision
  artifacts : List Artifact

def GraphMutation.empty : GraphMutation :=
  ⟨0, [], [], [], [], [], [], [], [], [], [], [], []⟩

/-! Derivation of the policy entry of a revision and the authorization decision. -/

def audienceKey : Audience → String
  | .public => "public"
  | .owner => "owner"
  | .subject id => id.display
  | .group id => "group:" ++ id.display
  | .memorySpace id => "space:" ++ id.display

def scopeMemorySpaces (scopes : List ScopeRef) : List MemorySpaceId :=
  (scopes.filter (·.kind = .memorySpace)).map (·.id.recast .memorySpace)

def grantMemorySpaces (grants : List AudienceGrant) : List MemorySpaceId :=
  grants.filterMap fun grant =>
    match grant.audience with
    | .memorySpace id => some id
    | _ => none

def itemSpaces (envelope : SemanticEnvelope) : List MemorySpaceId :=
  scopeMemorySpaces envelope.scopes.toList ++ grantMemorySpaces envelope.ownership.audienceGrants

def audiencePurposes (grants : List AudienceGrant) : BTreeMap String (BTreeSet Purpose) :=
  grants.foldl (fun map grant =>
    BTreeMap.updateEntry map (audienceKey grant.audience) ∅ (·.insertMany grant.purposes.toList)) ∅

def consentGranted (consent : ConsentPolicy) : Bool :=
  !consent.required || (!consent.decisions.isEmpty && consent.decisions.all (·.status = .granted))

def buildPolicy (workspaceId : WorkspaceId) (envelope : SemanticEnvelope) : PolicyIndexEntry where
  workspaceId
  scopes := .ofList (envelope.scopes.toList.map (·.id))
  owners := .ofList envelope.ownership.owners.toList
  subjects := .ofList (envelope.perspective.knower :: envelope.perspective.experiencer.toList)
  memorySpaces := .ofList (scopeMemorySpaces envelope.scopes.toList ++
    grantMemorySpaces envelope.ownership.audienceGrants)
  audiencePurposes := audiencePurposes envelope.ownership.audienceGrants
  allowedPurposes := envelope.ownership.allowedPurposes
  classification := envelope.security.classification
  compartments := envelope.security.requiredCompartments
  retrievable := envelope.usePolicy.retrieve = .allow
  consentGranted := consentGranted envelope.consent

def isDisjoint {Key : Type} [Ord Key] [TransOrd Key] (left right : BTreeSet Key) : Bool :=
  left.toList.all (!right.contains ·)

def audienceMatches (policy : PolicyIndexEntry) (principal : ReadPrincipal) (audience : String) : Bool :=
  if audience = "public" then true
  else if audience = "owner" then policy.owners.contains principal.subject
  else
    audience = principal.subject.display ||
      BTreeSet.anyElement principal.audienceSubjects (audience = "group:" ++ ·.display) ||
      BTreeSet.anyElement principal.memorySpaces (audience = "space:" ++ ·.display)

def allows (policy : PolicyIndexEntry) (principal : ReadPrincipal) : Bool :=
  policy.workspaceId = principal.workspaceId && policy.retrievable && policy.consentGranted &&
    policy.classification.rank ≤ principal.clearance.rank &&
    BTreeSet.isSubset policy.compartments principal.compartments && policy.allowedPurposes.contains principal.purpose &&
    (policy.scopes.isEmpty || !isDisjoint policy.scopes principal.scopes) &&
    (policy.memorySpaces.isEmpty || !isDisjoint policy.memorySpaces principal.memorySpaces) &&
    policy.audiencePurposes.toList.any fun grant =>
      grant.2.contains principal.purpose && audienceMatches policy principal grant.1

/-! The keyspaces of the graph as typed ordered maps. Composite keys become nested maps
or structured keys with the byte order of the source. Values are stored as themselves:
the JSON codec returns what it encoded. The administrative policies and lookup indexes,
which no modelled operation reads, are left out. -/

structure PersistedRevision (Value : Type) where
  visibleFrom : Nat
  visibleTo : Option Nat
  value : Value

structure RevisionSpace (Identity Revision : Type) where
  identity : BTreeMap Uuid Identity
  revision : BTreeMap Uuid (BTreeMap Nat (PersistedRevision Revision))
  head : BTreeMap Uuid Nat

variable {Identity Revision : Type}

namespace RevisionSpace

def empty : RevisionSpace Identity Revision := ⟨∅, ∅, ∅⟩

variable (space : RevisionSpace Identity Revision)

def numbered (id : Uuid) : BTreeMap Nat (PersistedRevision Revision) :=
  space.revision[id]?.getD ∅

def history (id : Uuid) : List (PersistedRevision Revision) :=
  (space.numbered id).toList.map (·.2)

end RevisionSpace

structure DenseIndex where
  external : BTreeMap Uuid IdMapping
  dense : BTreeMap Nat Uuid
  next : Option Nat

structure SemanticIndex where
  watermark : Option Nat
  snapshots : BTreeMap Nat Nat

structure DeltaKey where
  visibleFrom : Nat
  edgeId : Uuid
deriving DecidableEq

namespace DeltaKey

def rank (key : DeltaKey) : List Nat :=
  [key.visibleFrom, key.edgeId.rank]

theorem rank_injective (left right : DeltaKey) (equal : left.rank = right.rank) : left = right := by
  cases left; cases right
  simp only [rank, List.cons.injEq, and_true] at equal
  rw [equal.1, Uuid.rank_injective _ _ equal.2]

instance : Ord DeltaKey := ⟨compareOn rank⟩

instance : TransOrd DeltaKey := inferInstanceAs (TransCmp (compareOn rank))

instance : LawfulEqOrd DeltaKey := lawfulEqCmp_compareOn rank rank_injective

end DeltaKey

abbrev DeltaTable := BTreeMap Nat (BTreeMap DeltaKey SegmentEdge)

abbrev IndexTable (Term : Type) [Ord Term] := BTreeMap Term (BTreeSet Uuid)

structure PolicyIndexes where
  byWorkspace : IndexTable WorkspaceId
  bySubject : IndexTable MemorySubjectId
  byScope : IndexTable ScopeId
  byOwner : IndexTable MemorySubjectId
  bySpace : IndexTable MemorySpaceId
  byAudience : IndexTable String
  byPurpose : IndexTable Purpose

structure Tables where
  objectKind : BTreeMap Uuid ObjectKind
  workspaces : BTreeMap Uuid Workspace
  spaces : BTreeMap Uuid MemorySpace
  subjects : BTreeMap Uuid MemorySubject
  nodes : RevisionSpace Node NodeRevision
  claims : RevisionSpace Claim ClaimRevision
  edges : RevisionSpace Edge EdgeRevision
  conflicts : RevisionSpace ConflictSet ConflictSetRevision
  artifacts : BTreeMap Uuid ArtifactMetadata
  policy : BTreeMap Uuid PolicyIndexEntry
  policyHistory : BTreeMap Uuid (BTreeMap Nat PersistedPolicy)
  policyIndexes : PolicyIndexes
  dense : DenseIndex
  (edgeOutDelta edgeInDelta : DeltaTable)
  semantic : SemanticIndex
  publications : BTreeMap Uuid GraphProjectionReceipt

def Tables.empty : Tables where
  objectKind := ∅
  workspaces := ∅
  spaces := ∅
  subjects := ∅
  nodes := .empty
  claims := .empty
  edges := .empty
  conflicts := .empty
  artifacts := ∅
  policy := ∅
  policyHistory := ∅
  policyIndexes := ⟨∅, ∅, ∅, ∅, ∅, ∅, ∅⟩
  dense := ⟨∅, ∅, none⟩
  edgeOutDelta := ∅
  edgeInDelta := ∅
  semantic := ⟨none, ∅⟩
  publications := ∅

/-- A storage backend, by the versions it still retains when a version is committed. -/
structure Engine where
  retains : (head sequence : Nat) → Bool

structure Store where
  head : Nat
  latest : Tables
  earlier : BTreeMap Nat Tables

namespace Store

def new : Store := ⟨0, .empty, ∅⟩

def commit (engine : Engine) (store : Store) (tables : Tables) : Result Store := do
  let sequence ← checkedNext store.head (.storage (.backend "commit sequence exhausted"))
  pure
    { head := sequence
      latest := tables
      earlier := (store.earlier.insert store.head store.latest).filter fun kept _ =>
        engine.retains sequence kept }

end Store

abbrev Bytes := List UInt8

def textBytes (text : String) : Bytes :=
  text.toUTF8.toList

/-! ### Point lookups on one version -/

def notFound (kind : String) (id : Uuid) : GraphError :=
  .notFound kind id.display

section

variable {Identity : Type} (identities : BTreeMap Uuid Identity)

def getIdentity (id : Uuid) (kind : String) : Result Identity :=
  match identities[id]? with
  | some identity => .ok identity
  | none => .error (notFound kind id)

def requireIdentity (id : Uuid) : Result Unit :=
  ensure (identities.contains id) (notFound "stable identity" id)

def ensureAbsent (id : Uuid) : Result Unit :=
  ensure (!identities.contains id) (.invariant ("stable external ID " ++ id.display ++ " cannot be reused"))

def denseForExternal (index : DenseIndex) (externalId : Uuid) : Result DenseId :=
  match index.external[externalId]? with
  | some mapping => .ok mapping.denseId
  | none => .error (notFound "dense mapping" externalId)

end

variable (tables : Tables)

def readSemanticWatermark : Nat :=
  tables.semantic.watermark.getD 0

end ContextDb.Graph
