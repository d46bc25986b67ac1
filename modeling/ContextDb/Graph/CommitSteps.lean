import ContextDb.Lib.Execution
import ContextDb.Graph.Commit

/-! What every staging step of a mutation checks and writes. Later invariants are proved
from these inversions and never unfold a staging function. -/

set_option autoImplicit false

namespace ContextDb.Graph

open Lib Std ContextDb.Core

variable {Identity : Type} {identities : BTreeMap Uuid Identity} {id : Uuid} {identity : Identity}
  {kind : String} {done : Unit}

@[simp] theorem getIdentity_ok_iff : getIdentity identities id kind = .ok identity ↔
    identities[id]? = some identity := by
  rw [getIdentity]
  cases identities[id]? with
  | none => simp
  | some stored => simp

@[simp] theorem ensureAbsent_ok_iff : ensureAbsent identities id = .ok done ↔
    identities[id]? = none := by
  rw [ensureAbsent, ensure_ok_iff, ExtTreeMap.contains_eq_isSome_getElem?]
  cases identities[id]? <;> simp

@[simp] theorem ensureWorkspace_ok_iff {relation : String} {expected actual : WorkspaceId} :
    ensureWorkspace relation expected actual = .ok done ↔ expected = actual := by
  simp [ensureWorkspace]

variable {dense : DenseId} {value : Nat}

theorem checkedNext_ok {next : Nat} {exhausted : GraphError}
    (success : checkedNext value exhausted = .ok next) : next = value + 1 := by
  unfold checkedNext checkedAdd at success
  split at success
  · rename_i sum found
    split at found
    · cases found
      cases success
      rfl
    · cases found
  · cases success

theorem denseId_new_ok (success : DenseId.new value = .ok dense) : dense.value = value := by
  unfold DenseId.new at success
  split at success
  · cases success
    rfl
  · cases success

variable {tables next : Tables} {Value : Type}

def Tables.register (tables : Tables) (id : Uuid) (kind : ObjectKind) : Tables :=
  { tables with objectKind := tables.objectKind.insert id kind }

/-- An id is registered only once, whatever the kind of its object. -/
theorem registerObjectId_ok {kind : ObjectKind} {onwards : Tables → Result Value} {value : Value}
    (success : (registerObjectId tables id kind >>= onwards) = .ok value) :
    tables.objectKind[id]? = none ∧ onwards (tables.register id kind) = .ok value := by
  obtain ⟨registered, register, rest⟩ := bind_ok success
  unfold registerObjectId at register
  split at register
  · cases register
  · rename_i vacant
    cases register
    exact ⟨vacant, rest⟩

theorem stageWorkspace_ok {workspace : Workspace} (success : stageWorkspace tables workspace =
    .ok next) :
    tables.objectKind[workspace.id.uuid]? = none ∧ tables.workspaces[workspace.id.uuid]? = none ∧
      next = { tables.register workspace.id.uuid .workspace with
        workspaces := tables.workspaces.insert workspace.id.uuid workspace } := by
  obtain ⟨vacant, rest⟩ := registerObjectId_ok success
  obtain ⟨absent, written⟩ := unit_ok rest
  cases written
  exact ⟨vacant, ensureAbsent_ok_iff.mp absent, rfl⟩

theorem stageSpace_ok {space : MemorySpace} (success : stageSpace tables space = .ok next) :
    tables.objectKind[space.id.uuid]? = none ∧ tables.spaces[space.id.uuid]? = none ∧
      next = { tables.register space.id.uuid .memorySpace with
        spaces := tables.spaces.insert space.id.uuid space } := by
  obtain ⟨vacant, rest⟩ := registerObjectId_ok success
  obtain ⟨absent, rest⟩ := unit_ok rest
  have written := rest_ok rest
  cases written
  exact ⟨vacant, ensureAbsent_ok_iff.mp absent, rfl⟩

theorem stageSubject_ok {subject : MemorySubject} (success : stageSubject tables subject =
    .ok next) :
    tables.objectKind[subject.id.uuid]? = none ∧ tables.subjects[subject.id.uuid]? = none ∧
      next = { tables.register subject.id.uuid .memorySubject with
        subjects := tables.subjects.insert subject.id.uuid subject } := by
  obtain ⟨vacant, rest⟩ := registerObjectId_ok success
  obtain ⟨absent, rest⟩ := unit_ok rest
  have written := rest_ok rest
  cases written
  exact ⟨vacant, ensureAbsent_ok_iff.mp absent, rfl⟩

def DenseIndex.map (index : DenseIndex) (externalId : Uuid) (denseId : DenseId) (createdSeq : Nat) :
    DenseIndex :=
  { index with
    external := index.external.insert externalId ⟨externalId, denseId, createdSeq⟩
    dense := index.dense.insert denseId.value externalId }

variable {nextDense following : Nat}

theorem allocateMapping_ok {index mapped : DenseIndex} {externalId : Uuid} {createdSeq : Nat}
    (success : allocateMapping index externalId nextDense createdSeq = .ok (mapped, following)) :
    index.external[externalId]? = none ∧ following = nextDense + 1 ∧
      ∃ denseId, denseId.value = nextDense ∧ mapped = index.map externalId denseId createdSeq := by
  obtain ⟨absent, rest⟩ := unit_ok success
  obtain ⟨denseId, allocated, rest⟩ := bind_ok rest
  obtain ⟨counter, counted, written⟩ := bind_ok rest
  cases written
  exact ⟨ensureAbsent_ok_iff.mp absent, checkedNext_ok counted, denseId, denseId_new_ok allocated,
    rfl⟩

theorem stageNode_ok {node : Node} {visibleFrom : Nat} (success : stageNode visibleFrom
    (tables, nextDense) node = .ok (next, following)) :
    tables.objectKind[node.id.uuid]? = none ∧ tables.nodes.identity[node.id.uuid]? = none ∧
      tables.dense.external[node.id.uuid]? = none ∧ following = nextDense + 1 ∧
      ∃ denseId, denseId.value = nextDense ∧ next = { tables.register node.id.uuid .node with
          nodes := tables.nodes.addIdentity node.id.uuid node, dense := tables.dense.map node.id.uuid denseId visibleFrom } := by
  obtain ⟨vacant, rest⟩ := registerObjectId_ok success
  have rest := rest_ok rest
  obtain ⟨absent, rest⟩ := unit_ok rest
  obtain ⟨⟨mapped, counter⟩, allocated, written⟩ := bind_ok rest
  obtain ⟨unmapped, counted, denseId, numbered, rfl⟩ := allocateMapping_ok allocated
  cases written
  exact ⟨vacant, ensureAbsent_ok_iff.mp absent, unmapped, counted, denseId, numbered, rfl⟩

theorem stageClaim_ok {claim : Claim} (success : stageClaim tables claim = .ok next) :
    tables.objectKind[claim.id.uuid]? = none ∧ tables.claims.identity[claim.id.uuid]? = none ∧
      next = { tables.register claim.id.uuid .claim with
        claims := tables.claims.addIdentity claim.id.uuid claim } := by
  obtain ⟨vacant, rest⟩ := registerObjectId_ok success
  have rest := rest_ok rest
  have rest := rest_ok rest
  obtain ⟨absent, written⟩ := unit_ok rest
  cases written
  exact ⟨vacant, ensureAbsent_ok_iff.mp absent, rfl⟩

theorem stageEdge_ok {edge : Edge} (success : stageEdge tables edge = .ok next) :
    tables.objectKind[edge.id.uuid]? = none ∧ tables.edges.identity[edge.id.uuid]? = none ∧
      next = { tables.register edge.id.uuid .edge with
        edges := tables.edges.addIdentity edge.id.uuid edge } := by
  obtain ⟨vacant, rest⟩ := registerObjectId_ok success
  have rest := rest_ok rest
  have rest := rest_ok rest
  have rest := rest_ok rest
  obtain ⟨absent, written⟩ := unit_ok rest
  cases written
  exact ⟨vacant, ensureAbsent_ok_iff.mp absent, rfl⟩

theorem stageConflict_ok {conflict : ConflictSet} (success : stageConflict tables conflict =
    .ok next) :
    tables.objectKind[conflict.id.uuid]? = none ∧ tables.conflicts.identity[conflict.id.uuid]? =
      none ∧
      next = { tables.register conflict.id.uuid .conflictSet with
        conflicts := tables.conflicts.addIdentity conflict.id.uuid conflict } := by
  obtain ⟨vacant, rest⟩ := registerObjectId_ok success
  have rest := rest_ok rest
  have rest := rest_ok rest
  obtain ⟨absent, written⟩ := unit_ok rest
  cases written
  exact ⟨vacant, ensureAbsent_ok_iff.mp absent, rfl⟩

variable {revision : Nat} {Identity Revision : Type}
  {space written : RevisionSpace Identity Revision} {visibleFrom : Nat}

def RevisionSpace.append (space : RevisionSpace Identity Revision) (id : Uuid) (revision : Nat)
    (value : Revision) (visibleFrom : Nat) : RevisionSpace Identity Revision :=
  { space with
    revision := BTreeMap.updateEntry space.revision id ∅
      (·.insert revision ⟨visibleFrom, none, value⟩)
    head := space.head.insert id revision }

variable {persisted : PersistedRevision Revision}

theorem RevisionSpace.mem_history : persisted ∈ space.history id ↔ ∃ number :
    Nat, (space.numbered id)[number]? = some persisted := by
  simp only [history, List.mem_map, Prod.exists, ExtTreeMap.mem_toList_iff_getElem?_eq_some,
    exists_eq_right]

variable {value : Revision}

theorem RevisionSpace.mem_history_append {id other : Uuid}
    (member : persisted ∈ (space.append id revision value visibleFrom).history other) :
    persisted ∈ space.history other ∨ (other = id ∧ persisted = ⟨visibleFrom, none, value⟩) := by
  obtain ⟨number, found⟩ := RevisionSpace.mem_history.mp member
  rw [RevisionSpace.mem_history]
  by_cases same : id = other
  · subst same
    simp only [numbered, append, BTreeMap.getElem?_updateEntry, if_true, Option.getD_some,
      ExtTreeMap.getElem?_insert] at found
    split at found
    · exact .inr ⟨rfl, (Option.some.inj found).symm⟩
    · exact .inl ⟨number, found⟩
  · simp only [numbered, append, BTreeMap.getElem?_updateEntry_of_ne same] at found
    exact .inl ⟨number, found⟩

theorem writeRevision_ok {onwards : RevisionSpace Identity Revision → Result Value} {result : Value}
    (success : (space.writeRevision id revision value visibleFrom >>= onwards) = .ok result) :
    onwards (space.append id revision value visibleFrom) = .ok result := by
  obtain ⟨written, appended, rest⟩ := bind_ok success
  have appended := rest_ok appended
  have appended := rest_ok appended
  have appended := rest_ok appended
  cases appended
  exact rest

theorem stageNodeRevision_ok {revision : NodeRevision}
    (success : stageNodeRevision visibleFrom tables revision = .ok next) :
    ∃ node, tables.nodes.identity[revision.nodeId.uuid]? = some node ∧
      validateEnvelopeReferences tables revision.envelope node.workspaceId = .ok () ∧
        next = Tables.recordPolicy { tables with
          nodes := tables.nodes.append revision.nodeId.uuid revision.revision.value revision visibleFrom }
        revision.nodeId.uuid visibleFrom (buildPolicy node.workspaceId revision.envelope) := by
  obtain ⟨node, stored, rest⟩ := bind_ok success
  obtain ⟨envelope, rest⟩ := unit_ok rest
  have rest := writeRevision_ok rest
  cases rest
  exact ⟨node, getIdentity_ok_iff.mp stored, envelope, rfl⟩

theorem stageClaimRevision_ok {revision : ClaimRevision}
    (success : stageClaimRevision visibleFrom tables revision = .ok next) :
    ∃ claim, tables.claims.identity[revision.claimId.uuid]? = some claim ∧
      validateEnvelopeReferences tables revision.envelope claim.workspaceId = .ok () ∧
        next = Tables.recordPolicy { tables with
          claims := tables.claims.append revision.claimId.uuid revision.revision.value revision visibleFrom }
        revision.claimId.uuid visibleFrom (buildPolicy claim.workspaceId revision.envelope) := by
  obtain ⟨claim, stored, rest⟩ := bind_ok success
  obtain ⟨envelope, rest⟩ := unit_ok rest
  have rest := writeRevision_ok rest
  cases rest
  exact ⟨claim, getIdentity_ok_iff.mp stored, envelope, rfl⟩

theorem stageConflictRevision_ok {revision : ConflictSetRevision}
    (success : stageConflictRevision visibleFrom tables revision = .ok next) :
    ∃ conflict, tables.conflicts.identity[revision.conflictSetId.uuid]? = some conflict ∧
      validateEnvelopeReferences tables revision.envelope conflict.workspaceId = .ok () ∧
        next = Tables.recordPolicy { tables with
          conflicts := tables.conflicts.append revision.conflictSetId.uuid revision.revision.value revision visibleFrom }
        revision.conflictSetId.uuid visibleFrom
        (buildPolicy conflict.workspaceId revision.envelope) := by
  obtain ⟨conflict, stored, rest⟩ := bind_ok success
  obtain ⟨envelope, rest⟩ := unit_ok rest
  have rest := writeRevision_ok rest
  cases rest
  exact ⟨conflict, getIdentity_ok_iff.mp stored, envelope, rfl⟩

def SegmentEdge.orientations (edge : SegmentEdge) : List SegmentEdge :=
  if edge.directionality = .undirected then [edge, edge.reverse] else [edge]

def DeltaTable.put (side : SegmentDirection) (visibleFrom : Nat) (table : DeltaTable)
    (edge : SegmentEdge) : DeltaTable :=
  BTreeMap.updateEntry table (side.rowNode edge).value ∅ (·.insert ⟨visibleFrom, edge.edgeId⟩ edge)

/-- The adjacency records of a revised edge: every orientation under both of its ends. -/
def Tables.putDeltas (tables : Tables) (visibleFrom : Nat) (edge : SegmentEdge) : Tables :=
  { tables with
    edgeOutDelta := edge.orientations.foldl (DeltaTable.put .outgoing visibleFrom)
      tables.edgeOutDelta, edgeInDelta := edge.orientations.foldl
        (DeltaTable.put .incoming visibleFrom)
      tables.edgeInDelta }

theorem Tables.putDeltas_eq (tables : Tables) (visibleFrom : Nat) (edge : SegmentEdge) :
    (if edge.directionality = .undirected then
        (tables.putDelta visibleFrom edge).putDelta visibleFrom edge.reverse
      else tables.putDelta visibleFrom edge) = tables.putDeltas visibleFrom edge := by
  unfold putDeltas SegmentEdge.orientations
  split <;> rfl

/-- An edge's revision is also put into the adjacency deltas, twice when the edge is undirected. -/
theorem stageEdgeRevision_ok {revision : EdgeRevision}
    (success : stageEdgeRevision visibleFrom tables revision = .ok next) :
    ∃ edge source target, tables.edges.identity[revision.edgeId.uuid]? = some edge ∧
      validateEnvelopeReferences tables revision.envelope edge.workspaceId = .ok () ∧
        next = (Tables.recordPolicy { tables with
          edges := tables.edges.append revision.edgeId.uuid revision.revision.value revision visibleFrom }
        revision.edgeId.uuid visibleFrom
          (buildPolicy edge.workspaceId revision.envelope)).putDeltas visibleFrom
          (Edge.segmentEdge edge source target) := by
  obtain ⟨edge, stored, rest⟩ := bind_ok success
  obtain ⟨envelope, rest⟩ := unit_ok rest
  have rest := writeRevision_ok rest
  obtain ⟨source, _, rest⟩ := bind_ok rest
  obtain ⟨target, _, rest⟩ := bind_ok rest
  cases rest
  exact ⟨edge, source, target, getIdentity_ok_iff.mp stored, envelope,
    Tables.putDeltas_eq _ visibleFrom (Edge.segmentEdge edge source target)⟩

theorem stageArtifact_ok {artifact : Artifact}
    (success : stageArtifact visibleFrom tables artifact = .ok next) :
    ∃ workspace, tables.objectKind[artifact.id.uuid]? = none ∧
      tables.artifacts[artifact.id.uuid]? = none ∧
      validateEnvelopeReferences (tables.register artifact.id.uuid .artifact) artifact.envelope workspace = .ok () ∧
      next = { (tables.register artifact.id.uuid .artifact).putPolicy artifact.id.uuid visibleFrom
          (buildPolicy workspace artifact.envelope) with
        artifacts := tables.artifacts.insert artifact.id.uuid
          ⟨artifact, buildPolicy workspace artifact.envelope, visibleFrom⟩ } := by
  obtain ⟨vacant, rest⟩ := registerObjectId_ok success
  obtain ⟨absent, rest⟩ := unit_ok rest
  obtain ⟨workspace, _, rest⟩ := bind_ok rest
  obtain ⟨envelope, written⟩ := unit_ok rest
  cases written
  exact ⟨workspace, vacant, ensureAbsent_ok_iff.mp absent, envelope, rfl⟩

variable {mutation : GraphMutation} {visibleFrom semanticSeq counter following : Nat}

inductive StagedRecord
  | workspace (value : Workspace)
  | space (value : MemorySpace)
  | subject (value : MemorySubject)
  | node (value : Node)
  | claim (value : Claim)
  | edge (value : Edge)
  | conflict (value : ConflictSet)
  | nodeRevision (value : NodeRevision)
  | claimRevision (value : ClaimRevision)
  | edgeRevision (value : EdgeRevision)
  | conflictRevision (value : ConflictSetRevision)
  | artifact (value : Artifact)

def GraphMutation.identityRecords (mutation : GraphMutation) : List StagedRecord :=
  mutation.workspaces.map .workspace ++ (mutation.memorySpaces.map .space ++
    (mutation.memorySubjects.map .subject ++ (mutation.nodes.map .node ++
      (mutation.claims.map .claim ++ (mutation.edges.map .edge ++
        mutation.conflicts.map .conflict)))))

def GraphMutation.revisionRecords (mutation : GraphMutation) : List StagedRecord :=
  mutation.nodeRevisions.map .nodeRevision ++ (mutation.claimRevisions.map .claimRevision ++
    (mutation.edgeRevisions.map .edgeRevision ++
      (mutation.conflictRevisions.map .conflictRevision ++ mutation.artifacts.map .artifact)))

inductive StageStep (visibleFrom : Nat) : Tables × Nat → StagedRecord → Tables × Nat → Prop
  | workspace {tables next : Tables} {counter : Nat} {value : Workspace}
      (staged : stageWorkspace tables value = .ok next) :
      StageStep visibleFrom (tables, counter) (.workspace value) (next, counter)
  | space {tables next : Tables} {counter : Nat} {value : MemorySpace}
    (staged : stageSpace tables value = .ok next) :
      StageStep visibleFrom (tables, counter) (.space value) (next, counter)
  | subject {tables next : Tables} {counter : Nat} {value : MemorySubject}
      (staged : stageSubject tables value = .ok next) :
      StageStep visibleFrom (tables, counter) (.subject value) (next, counter)
  | node {tables next : Tables} {counter following : Nat} {value : Node}
      (staged : stageNode visibleFrom (tables, counter) value = .ok (next, following)) :
      StageStep visibleFrom (tables, counter) (.node value) (next, following)
  | claim {tables next : Tables} {counter : Nat} {value : Claim}
    (staged : stageClaim tables value = .ok next) :
      StageStep visibleFrom (tables, counter) (.claim value) (next, counter)
  | edge {tables next : Tables} {counter : Nat} {value : Edge}
    (staged : stageEdge tables value = .ok next) :
      StageStep visibleFrom (tables, counter) (.edge value) (next, counter)
  | conflict {tables next : Tables} {counter : Nat} {value : ConflictSet}
      (staged : stageConflict tables value = .ok next) :
      StageStep visibleFrom (tables, counter) (.conflict value) (next, counter)
  | nodeRevision {tables next : Tables} {counter : Nat} {value : NodeRevision}
      (staged : stageNodeRevision visibleFrom tables value = .ok next) :
      StageStep visibleFrom (tables, counter) (.nodeRevision value) (next, counter)
  | claimRevision {tables next : Tables} {counter : Nat} {value : ClaimRevision}
      (staged : stageClaimRevision visibleFrom tables value = .ok next) :
      StageStep visibleFrom (tables, counter) (.claimRevision value) (next, counter)
  | edgeRevision {tables next : Tables} {counter : Nat} {value : EdgeRevision}
      (staged : stageEdgeRevision visibleFrom tables value = .ok next) :
      StageStep visibleFrom (tables, counter) (.edgeRevision value) (next, counter)
  | conflictRevision {tables next : Tables} {counter : Nat} {value : ConflictSetRevision}
      (staged : stageConflictRevision visibleFrom tables value = .ok next) :
      StageStep visibleFrom (tables, counter) (.conflictRevision value) (next, counter)
  | artifact {tables next : Tables} {counter : Nat} {value : Artifact}
      (staged : stageArtifact visibleFrom tables value = .ok next) :
      StageStep visibleFrom (tables, counter) (.artifact value) (next, counter)

abbrev Staging (visibleFrom : Nat) := Runs (StageStep visibleFrom)

/-- A loop of the source over one kind of record is a run of staging steps. -/
theorem Staging.of_foldlM {Record : Type} {stage : Tables → Record → Result Tables}
    {records : List Record} {first last : Tables} (label : Record → StagedRecord) (counter : Nat)
    (steps : ∀ tables record next, stage tables record = .ok next →
      StageStep visibleFrom (tables, counter) (label record) (next, counter))
        (success : records.foldlM stage first = .ok last) :
    Staging visibleFrom (first, counter) (records.map label) (last, counter) :=
  (Runs.of_foldlM success).map (·, counter) label steps

/-- The first phase of a commit stages every identity before any revision. -/
theorem stageIdentities_runs (success : stageIdentities visibleFrom tables mutation = .ok
    (next, following)) :
    Staging visibleFrom (tables, tables.dense.next.getD 1) mutation.identityRecords
      (next, following) := by
  obtain ⟨workspaces, stagedWorkspaces, rest⟩ := bind_ok success
  obtain ⟨spaces, stagedSpaces, rest⟩ := bind_ok rest
  obtain ⟨subjects, stagedSubjects, rest⟩ := bind_ok rest
  obtain ⟨⟨nodes, allocated⟩, stagedNodes, rest⟩ := bind_ok rest
  obtain ⟨claims, stagedClaims, rest⟩ := bind_ok rest
  obtain ⟨edges, stagedEdges, rest⟩ := bind_ok rest
  obtain ⟨conflicts, stagedConflicts, rest⟩ := bind_ok rest
  cases rest
  -- Administrative records leave the dense index alone, so its counter is the initial one.
  have untouched : subjects.dense = tables.dense := by
    have workspacesDense : workspaces.dense = tables.dense :=
      foldlM_preserves stagedWorkspaces
        (·.dense = tables.dense) rfl fun value workspace next _ held staged => by
          obtain ⟨_, _, rfl⟩ := stageWorkspace_ok staged
          exact held
    have spacesDense : spaces.dense = tables.dense :=
      foldlM_preserves stagedSpaces (·.dense =
        tables.dense) workspacesDense fun value space next _ held staged => by
          obtain ⟨_, _, rfl⟩ := stageSpace_ok staged
          exact held
    exact foldlM_preserves stagedSubjects
      (·.dense = tables.dense) spacesDense fun value subject next _ held staged => by
        obtain ⟨_, _, rfl⟩ := stageSubject_ok staged
        exact held
  rw [untouched] at stagedNodes
  have nodeRun : Staging visibleFrom (subjects, tables.dense.next.getD 1) (mutation.nodes.map .node)
    (nodes, following) :=
    (Runs.of_foldlM stagedNodes).map id StagedRecord.node fun state node next staged => StageStep.node staged
  exact (Staging.of_foldlM .workspace _
    (fun _ _ _ staged => .workspace staged) stagedWorkspaces).append <|
    (Staging.of_foldlM .space _ (fun _ _ _ staged => .space staged) stagedSpaces).append <|
    (Staging.of_foldlM .subject _ (fun _ _ _ staged => .subject staged) stagedSubjects).append <| nodeRun.append <|
    (Staging.of_foldlM .claim _ (fun _ _ _ staged => .claim staged) stagedClaims).append <|
    (Staging.of_foldlM .edge _ (fun _ _ _ staged => .edge staged) stagedEdges).append <|
    Staging.of_foldlM .conflict _ (fun _ _ _ staged => .conflict staged) stagedConflicts

theorem stageRevisions_runs {written : Tables} (counter : Nat)
    (revisions : writeRevisions visibleFrom tables mutation = .ok written)
    (artifacts : mutation.artifacts.foldlM (stageArtifact visibleFrom) written = .ok next) :
    Staging visibleFrom (tables, counter) mutation.revisionRecords (next, counter) := by
  obtain ⟨nodes, stagedNodes, rest⟩ := bind_ok revisions
  obtain ⟨claims, stagedClaims, rest⟩ := bind_ok rest
  obtain ⟨edges, stagedEdges, stagedConflicts⟩ := bind_ok rest
  exact (Staging.of_foldlM .nodeRevision _
    (fun _ _ _ staged => .nodeRevision staged) stagedNodes).append <|
    (Staging.of_foldlM .claimRevision _
      (fun _ _ _ staged => .claimRevision staged) stagedClaims).append <|
    (Staging.of_foldlM .edgeRevision _
      (fun _ _ _ staged => .edgeRevision staged) stagedEdges).append <|
    (Staging.of_foldlM .conflictRevision _
      (fun _ _ _ staged => .conflictRevision staged) stagedConflicts).append <|
    Staging.of_foldlM .artifact _ (fun _ _ _ staged => .artifact staged) artifacts

/-- A staged mutation: its identities, the reference checks between them, its revisions and
artifacts, and the metadata of the commit. -/
structure Staged (visibleFrom semanticSeq : Nat) (publication : Option GraphPublication)
    (mutation : GraphMutation) (tables final : Tables) where
  (identified revised : Tables)
  counter : Nat
  identities : Staging visibleFrom (tables, tables.dense.next.getD 1) mutation.identityRecords
    (identified, counter)
  references : validateStagedReferences identified mutation = .ok ()
  revisions : Staging visibleFrom (identified, counter) mutation.revisionRecords (revised, counter)
  committed : final = stageCommit visibleFrom semanticSeq counter publication revised

theorem stageMutation_ok {publication : Option GraphPublication} {final : Tables}
    (success : stageMutation visibleFrom semanticSeq publication tables mutation = .ok final) :
    Nonempty (Staged visibleFrom semanticSeq publication mutation tables final) := by
  obtain ⟨⟨identified, counter⟩, identities, rest⟩ := bind_ok success
  obtain ⟨references, rest⟩ := unit_ok rest
  obtain ⟨written, revisions, rest⟩ := bind_ok rest
  obtain ⟨revised, artifacts, rest⟩ := bind_ok rest
  cases rest
  exact ⟨⟨identified, revised, counter, stageIdentities_runs identities, references,
    stageRevisions_runs counter revisions artifacts, rfl⟩⟩

/-- Staging leaves the semantic snapshots and the publications to the last phase. -/
theorem Staging.frame {first last : Tables × Nat} {records : List StagedRecord}
    (run : Staging visibleFrom first records last) :
    last.1.semantic = first.1.semantic ∧ last.1.publications = first.1.publications := by
  refine run.preserves (fun state => state.1.semantic = first.1.semantic ∧
    state.1.publications = first.1.publications) ⟨rfl, rfl⟩ ?_
  intro state record next _ held step
  cases step with
  | workspace staged =>
    obtain ⟨_, _, rfl⟩ := stageWorkspace_ok staged
    exact held
  | space staged =>
    obtain ⟨_, _, rfl⟩ := stageSpace_ok staged
    exact held
  | subject staged =>
    obtain ⟨_, _, rfl⟩ := stageSubject_ok staged
    exact held
  | node staged =>
    obtain ⟨_, _, _, _, _, _, rfl⟩ := stageNode_ok staged
    exact held
  | claim staged =>
    obtain ⟨_, _, rfl⟩ := stageClaim_ok staged
    exact held
  | edge staged =>
    obtain ⟨_, _, rfl⟩ := stageEdge_ok staged
    exact held
  | conflict staged =>
    obtain ⟨_, _, rfl⟩ := stageConflict_ok staged
    exact held
  | nodeRevision staged =>
    obtain ⟨_, _, _, rfl⟩ := stageNodeRevision_ok staged
    exact held
  | claimRevision staged =>
    obtain ⟨_, _, _, rfl⟩ := stageClaimRevision_ok staged
    exact held
  | edgeRevision staged =>
    obtain ⟨_, _, _, _, _, rfl⟩ := stageEdgeRevision_ok staged
    exact held
  | conflictRevision staged =>
    obtain ⟨_, _, _, rfl⟩ := stageConflictRevision_ok staged
    exact held
  | artifact staged =>
    obtain ⟨_, _, _, _, rfl⟩ := stageArtifact_ok staged
    exact held

variable {engine : Engine} {store next : Store} {publication : Option GraphPublication}

def Store.advance (engine : Engine) (store : Store) (tables : Tables) : Store where
  head := store.head + 1
  latest := tables
  earlier := (store.earlier.insert store.head store.latest).filter fun kept _ =>
    engine.retains (store.head + 1) kept

theorem Store.commit_ok {tables : Tables} (success : store.commit engine tables = .ok next) :
    next = store.advance engine tables := by
  obtain ⟨sequence, counted, written⟩ := bind_ok success
  cases checkedNext_ok counted
  cases written
  rfl

structure Published (engine : Engine) (store : Store) (mutation : GraphMutation)
    (publication : Option GraphPublication) (next : Store) where
  semanticSeq : Nat
  tables : Tables
  fresh : ∀ published, publication = some published →
    store.latest.publications[published.mutationId.uuid]? = none
  batch : validateBatch mutation = .ok ()
  semantic : semanticCommit (readSemanticWatermark store.latest) publication = .ok semanticSeq
  times : timesMatch mutation semanticSeq = true
  staged : Staged (store.head + 1) semanticSeq publication mutation store.latest tables
  published : next = store.advance engine tables

/-- A mutation that succeeds was published before under the same id and content, or is published
now. -/
theorem applyMutation_ok {enforceBase : Bool} {outcome : ApplyOutcome}
    (success : applyMutation engine store mutation publication enforceBase = .ok (outcome, next)) :
    (∃ published existing, publication = some published ∧
      store.latest.publications[published.mutationId.uuid]? = some existing ∧
      existing.publication = published ∧ outcome = ⟨existing.storageSeq, true⟩ ∧ next = store) ∨
    (outcome = ⟨store.head + 1, false⟩ ∧
      Nonempty (Published engine store mutation publication next)) := by
  obtain ⟨replayed, known, rest⟩ := bind_ok success
  cases replayed with
  | some earlier =>
    left
    cases rest
    unfold replayedOutcome at known
    split at known
    · cases known
    · rename_i published
      split at known
      · cases known
      · rename_i existing found
        obtain ⟨same, returned⟩ := unit_ok known
        cases returned
        exact ⟨published, existing, rfl, found, of_decide_eq_true (ensure_ok_iff.mp same), rfl, rfl⟩
  | none =>
    right
    have rest := rest_ok rest
    obtain ⟨batch, rest⟩ := unit_ok rest
    obtain ⟨visibleFrom, counted, rest⟩ := bind_ok rest
    cases checkedNext_ok counted
    obtain ⟨semanticSeq, semantic, rest⟩ := bind_ok rest
    obtain ⟨times, rest⟩ := unit_ok rest
    obtain ⟨tables, staging, rest⟩ := bind_ok rest
    obtain ⟨committed, commits, rest⟩ := bind_ok rest
    have rest := rest_ok rest
    cases rest
    obtain ⟨staged⟩ := stageMutation_ok staging
    cases Store.commit_ok commits
    refine ⟨rfl, ⟨semanticSeq, tables, ?_, batch, semantic, ensure_ok_iff.mp times, staged, rfl⟩⟩
    rintro published rfl
    unfold replayedOutcome at known
    simp only at known
    split at known
    · rename_i vacant
      exact vacant
    · have returned := rest_ok known
      cases returned

namespace Published

/-- A publication makes its own commit the snapshot of its semantic sequence. -/
theorem metadata (published : Published engine store mutation publication next) :
    next.latest.semantic = ⟨some published.semanticSeq,
        store.latest.semantic.snapshots.insert published.semanticSeq (store.head + 1)⟩ := by
  obtain ⟨semanticSeq, tables, _, _, _, _, staged, rfl⟩ := published
  obtain ⟨identified, revised, counter, identities, _, revisions, rfl⟩ := staged
  have identifiedSemantic := identities.frame.1
  have revisedSemantic := revisions.frame.1
  simp only at identifiedSemantic revisedSemantic
  simp [Store.advance, stageCommit, revisedSemantic, identifiedSemantic]

/-- The receipt of a projected publication is kept under its mutation id. -/
theorem receipt {projected : GraphPublication} (published : Published engine store mutation
    (some projected) next) :
    next.latest.publications = store.latest.publications.insert projected.mutationId.uuid
      ⟨projected, store.head + 1, false⟩ := by
  obtain ⟨semanticSeq, tables, _, _, _, _, staged, rfl⟩ := published
  obtain ⟨identified, revised, counter, identities, _, revisions, rfl⟩ := staged
  have identifiedReceipts := identities.frame.2
  have revisedReceipts := revisions.frame.2
  simp only at identifiedReceipts revisedReceipts
  simp [Store.advance, stageCommit, revisedReceipts, identifiedReceipts]

end Published

end ContextDb.Graph
