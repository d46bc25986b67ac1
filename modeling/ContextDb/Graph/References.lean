import ContextDb.Graph.Identities

/-! Referential integrity of the graph. Identities are immutable and only accumulate, so a
reference that was checked when its record was staged stays good; a record of the batch is
checked against the batch and the stored records together. -/

set_option autoImplicit false

namespace ContextDb.Graph

open Lib Std ContextDb.Core List GraphMutation

variable {workspace : WorkspaceId} {id : MemorySpaceId}

namespace Tables

variable (tables : Tables)

def NodeIn (id : NodeId) (workspace : WorkspaceId) : Prop :=
  ∃ node, tables.nodes.identity[id.uuid]? = some node ∧ node.workspaceId = workspace

def ClaimIn (id : ClaimId) (workspace : WorkspaceId) : Prop :=
  ∃ claim, tables.claims.identity[id.uuid]? = some claim ∧ claim.workspaceId = workspace

def SpaceIn (id : MemorySpaceId) (workspace : WorkspaceId) : Prop :=
  ∃ space, tables.spaces[id.uuid]? = some space ∧ space.workspaceId = workspace

def SubjectIn (id : MemorySubjectId) (workspace : WorkspaceId) : Prop :=
  ∃ subject, tables.subjects[id.uuid]? = some subject ∧ subject.workspaceId = workspace

variable {older newer : Tables}

theorem NodeIn.grow {id : NodeId} (found : older.NodeIn id workspace) (grown : older.Grows newer) :
    newer.NodeIn id workspace :=
  found.imp fun _ stored => ⟨grown.nodes _ _ stored.1, stored.2⟩

theorem ClaimIn.grow {id : ClaimId} (found : older.ClaimIn id workspace)
    (grown : older.Grows newer) : newer.ClaimIn id workspace :=
  found.imp fun _ stored => ⟨grown.claims _ _ stored.1, stored.2⟩

theorem SpaceIn.grow (found : older.SpaceIn id workspace) (grown : older.Grows newer) :
    newer.SpaceIn id workspace :=
  found.imp fun _ stored => ⟨grown.spaces _ _ stored.1, stored.2⟩

theorem SubjectIn.grow {id : MemorySubjectId} (found : older.SubjectIn id workspace)
    (grown : older.Grows newer) : newer.SubjectIn id workspace :=
  found.imp fun _ stored => ⟨grown.subjects _ _ stored.1, stored.2⟩

end Tables

variable {envelope : SemanticEnvelope} {tables : Tables}

def audienceSubjects : Audience → List MemorySubjectId
  | .subject id => [id]
  | .group id => [id]
  | _ => []

def envelopeSubjects (envelope : SemanticEnvelope) : List MemorySubjectId :=
  envelope.perspective.knower :: (envelope.perspective.experiencer.toList ++
    (envelope.ownership.owners.toList ++
      (envelope.ownership.audienceGrants.flatMap (audienceSubjects ·.audience) ++
        envelope.consent.decisions.map (·.subject))))

namespace Tables

structure EnvelopeIn (tables : Tables) (envelope : SemanticEnvelope) (workspace : WorkspaceId) :
    Prop where
  subjects : ∀ subject ∈ envelopeSubjects envelope, tables.SubjectIn subject workspace
  spaces : ∀ space ∈ itemSpaces envelope, tables.SpaceIn space workspace

def ConsentIn (tables : Tables) (envelope : SemanticEnvelope) (workspace : WorkspaceId) : Prop :=
  ∀ decision ∈ envelope.consent.decisions, tables.SubjectIn decision.subject workspace

variable {older newer : Tables}

theorem EnvelopeIn.grow (found : older.EnvelopeIn envelope workspace) (grown : older.Grows newer) :
    newer.EnvelopeIn envelope workspace where
  subjects subject named := (found.subjects subject named).grow grown
  spaces space named := (found.spaces space named).grow grown

theorem ConsentIn.grow (found : older.ConsentIn envelope workspace) (grown : older.Grows newer) :
    newer.ConsentIn envelope workspace :=
  fun decision listed => (found decision listed).grow grown

end Tables

variable {done : Unit}

theorem located {Identity : Type} {identities : BTreeMap Uuid Identity} {id : Uuid}
    {kind relation : String} {identity : Identity} {workspaceOf : Identity → WorkspaceId}
    (stored : getIdentity identities id kind = .ok identity)
    (same : ensureWorkspace relation workspace (workspaceOf identity) = .ok done) :
    ∃ found, identities[id]? = some found ∧ workspaceOf found = workspace :=
  ⟨identity, getIdentity_ok_iff.mp stored, (ensureWorkspace_ok_iff.mp same).symm⟩

theorem requireSubjectWorkspace_ok {id : MemorySubjectId}
    (success : requireSubjectWorkspace tables id workspace = .ok done) :
    tables.SubjectIn id workspace := by
  obtain ⟨subject, stored, same⟩ := bind_ok success
  exact located stored same

theorem requireSpaceWorkspace_ok (success : requireSpaceWorkspace tables id workspace = .ok done) :
    tables.SpaceIn id workspace := by
  obtain ⟨space, stored, same⟩ := bind_ok success
  exact located stored same

/-- The check covers every named subject and space except the subjects of the consent
decisions. -/
theorem validateEnvelopeReferences_ok
    (success : validateEnvelopeReferences tables envelope workspace = .ok ())
    (consent : tables.ConsentIn envelope workspace) : tables.EnvelopeIn envelope workspace := by
  obtain ⟨actual, _, rest⟩ := bind_ok success
  have rest := rest_ok rest
  obtain ⟨scopes, rest⟩ := unit_ok rest
  obtain ⟨knower, rest⟩ := unit_ok rest
  obtain ⟨experiencer, rest⟩ := unit_ok rest
  obtain ⟨owners, grants⟩ := unit_ok rest
  rw [forM_ok_iff] at scopes experiencer owners grants
  constructor
  · intro subject named
    simp only [envelopeSubjects, mem_cons, mem_append, mem_flatMap, mem_map] at named
    rcases named with rfl | named | named | ⟨grant, listed, named⟩ | ⟨decision, listed, rfl⟩
    · exact requireSubjectWorkspace_ok knower
    · exact requireSubjectWorkspace_ok (experiencer subject named)
    · exact requireSubjectWorkspace_ok (owners subject named)
    · have checked := grants grant listed
      cases audience : grant.audience with
      | subject id =>
        rw [audience] at named checked
        rw [mem_singleton.mp named]
        exact requireSubjectWorkspace_ok checked
      | group id =>
        rw [audience] at named checked
        rw [mem_singleton.mp named]
        exact requireSubjectWorkspace_ok checked
      | _ => simp [audience, audienceSubjects] at named
    · exact consent decision listed
  · intro space named
    simp only [itemSpaces, scopeMemorySpaces, grantMemorySpaces, mem_append, mem_map, mem_filter,
      mem_filterMap] at named
    rcases named with ⟨scope, ⟨listed, kind⟩, rfl⟩ | ⟨grant, listed, named⟩
    · have checked := scopes scope listed
      rw [if_pos (of_decide_eq_true kind)] at checked
      exact requireSpaceWorkspace_ok checked
    · have checked := grants grant listed
      cases audience : grant.audience with
      | memorySpace id =>
        rw [audience] at named checked
        cases named
        exact requireSpaceWorkspace_ok checked
      | _ => simp [audience] at named

theorem validateEnvelopeReferences_workspace
    (success : validateEnvelopeReferences tables envelope workspace = .ok ()) :
    workspaceFromEnvelope envelope = .ok workspace := by
  obtain ⟨actual, named, rest⟩ := bind_ok success
  obtain ⟨same, _⟩ := unit_ok rest
  rw [named, ensureWorkspace_ok_iff.mp same]

def RevisionSpace.EnvelopesIn {Identity Revision : Type} (space : RevisionSpace Identity Revision)
    (tables : Tables) (workspace : Identity → WorkspaceId)
    (envelope : Revision → SemanticEnvelope) : Prop :=
  ∀ id, ∀ persisted ∈ space.history id, ∃ identity, space.identity[id]? = some identity ∧
    tables.EnvelopeIn (envelope persisted.value) (workspace identity)

def Tables.MembersIn (tables : Tables) : Prop :=
  ∀ id, ∀ persisted ∈ tables.conflicts.history id, ∃ conflict, tables.conflicts.identity[id]? =
    some conflict ∧
      ∀ member ∈ persisted.value.members.toList, tables.ClaimIn member conflict.workspaceId

def Tables.ArtifactsIn (tables : Tables) : Prop :=
  ∀ (id : Uuid) (metadata : ArtifactMetadata), tables.artifacts[id]? = some metadata →
    workspaceFromEnvelope metadata.artifact.envelope = .ok metadata.policy.workspaceId ∧
      tables.EnvelopeIn metadata.artifact.envelope metadata.policy.workspaceId

structure Tables.RevisionReferences (tables : Tables) : Prop where
  nodes : tables.nodes.EnvelopesIn tables (·.workspaceId) (·.envelope)
  claims : tables.claims.EnvelopesIn tables (·.workspaceId) (·.envelope)
  edges : tables.edges.EnvelopesIn tables (·.workspaceId) (·.envelope)
  conflicts : tables.conflicts.EnvelopesIn tables (·.workspaceId) (·.envelope)
  members : tables.MembersIn
  artifacts : tables.ArtifactsIn

structure Tables.IdentityReferences (tables : Tables) : Prop where
  claimSubject : ∀ (id : Uuid) (claim : Claim), tables.claims.identity[id]? = some claim →
    tables.NodeIn claim.subject claim.workspaceId
  edgeSource : ∀ (id : Uuid) (edge : Edge), tables.edges.identity[id]? = some edge →
    tables.NodeIn edge.source edge.workspaceId
  edgeTarget : ∀ (id : Uuid) (edge : Edge), tables.edges.identity[id]? = some edge →
    tables.NodeIn edge.target edge.workspaceId
  materialized : ∀ (id : Uuid) (edge : Edge), tables.edges.identity[id]? = some edge →
    ∀ claim, edge.materializedFromClaim = some claim → tables.ClaimIn claim edge.workspaceId
  conflictSubject : ∀ (id : Uuid) (conflict : ConflictSet), tables.conflicts.identity[id]? =
    some conflict →
      tables.NodeIn conflict.subject conflict.workspaceId
  spaceParent : ∀ (id : Uuid) (space : MemorySpace), tables.spaces[id]? = some space →
    ∀ parent, space.parent = some parent → tables.SpaceIn parent space.workspaceId
  spaceOwners : ∀ (id : Uuid) (space : MemorySpace), tables.spaces[id]? = some space →
    ∀ owner ∈ space.owners.toList, tables.SubjectIn owner space.workspaceId
  primarySpaces : ∀ (id : Uuid) (subject : MemorySubject), tables.subjects[id]? = some subject →
    ∀ space ∈ subject.primarySpaces.toList, tables.SpaceIn space subject.workspaceId

def Tables.Parent (tables : Tables) (child parent : Uuid) : Prop :=
  ∃ space parentId, tables.spaces[child]? = some space ∧ space.parent = some parentId ∧
    parentId.uuid = parent

structure Tables.Consistent (tables : Tables) : Prop where
  identities : tables.IdentityReferences
  revisions : tables.RevisionReferences
  acyclic : ∀ id, ¬ Relation.TransGen tables.Parent id id
  registered : tables.Registered
  numbered : tables.Numbered (tables.dense.next.getD 1)

/-- Referential integrity of one version: every reference names a record of the required
kind in the same workspace, parent chains have no cycle, an identifier names records of one
kind, and the dense identifiers are `1` to `count` without repetition. -/
structure Tables.Integrity (tables : Tables) : Prop where
  identities : tables.IdentityReferences
  revisions : tables.RevisionReferences
  acyclic : ∀ id, ¬ Relation.TransGen tables.Parent id id
  oneKind : ∀ (id : Uuid) (left right : ObjectKind), tables.holds id left = true →
    tables.holds id right = true → left = right
  dense : ∃ count, ∀ number, (∃ (id : Uuid) (mapping : IdMapping),
    tables.dense.external[id]? = some mapping ∧
      mapping.denseId.value = number) ↔ 1 ≤ number ∧ number ≤ count
  denseUnique : ∀ (left right : Uuid) (leftMapping rightMapping : IdMapping),
    tables.dense.external[left]? = some leftMapping → tables.dense.external[right]? =
      some rightMapping →
    leftMapping.denseId = rightMapping.denseId → left = right

theorem Tables.Consistent.integrity (held : tables.Consistent) : tables.Integrity where
  identities := held.identities
  revisions := held.revisions
  acyclic := held.acyclic
  oneKind _ _ _ := held.registered.kind_unique
  dense := by
    refine ⟨tables.dense.next.getD 1 - 1, fun number => ⟨?_, ?_⟩⟩
    · rintro ⟨id, mapping, stored, rfl⟩
      have below := (held.numbered.mapped id mapping stored).2.1
      have positive := mapping.denseId.oneBased
      omega
    · rintro ⟨low, high⟩
      obtain ⟨id, found⟩ := held.numbered.taken number low (by omega)
      obtain ⟨mapping, stored, value⟩ := held.numbered.inverse number id found
      exact ⟨id, mapping, stored, value⟩
  denseUnique := by
    intro left right leftMapping rightMapping leftStored rightStored same
    have leftIndexed := (held.numbered.mapped left leftMapping leftStored).2.2
    have rightIndexed := (held.numbered.mapped right rightMapping rightStored).2.2
    rw [same, rightIndexed] at leftIndexed
    exact (Option.some.inj leftIndexed).symm

variable {subject : MemorySubject}

/-- What the reference checks of a batch established on the staged identities. -/
structure CheckedReferences (tables : Tables) (mutation : GraphMutation) : Prop where
  spaces : ∀ space ∈ mutation.memorySpaces, checkSpaceReferences tables space = .ok ()
  subjects : ∀ subject ∈ mutation.memorySubjects, checkSubjectReferences tables subject = .ok ()
  claims : ∀ claim ∈ mutation.claims, checkClaimReferences tables claim = .ok ()
  edges : ∀ edge ∈ mutation.edges, checkEdgeReferences tables edge = .ok ()
  conflicts : ∀ conflict ∈ mutation.conflicts, checkConflictReferences tables conflict = .ok ()
  members : ∀ revision ∈ mutation.conflictRevisions, checkConflictRevisionReferences tables revision = .ok ()

theorem validateStagedReferences_ok {mutation : GraphMutation}
    (success : validateStagedReferences tables mutation = .ok ()) :
    CheckedReferences tables mutation := by
  obtain ⟨spaces, rest⟩ := unit_ok success
  obtain ⟨subjects, rest⟩ := unit_ok rest
  have rest := rest_ok rest
  obtain ⟨claims, rest⟩ := unit_ok rest
  obtain ⟨edges, rest⟩ := unit_ok rest
  obtain ⟨conflicts, rest⟩ := unit_ok rest
  have members := rest_ok rest
  exact ⟨forM_ok_iff.mp spaces, forM_ok_iff.mp subjects, forM_ok_iff.mp claims,
    forM_ok_iff.mp edges, forM_ok_iff.mp conflicts, forM_ok_iff.mp members⟩

theorem checkClaimReferences_ok {claim : Claim} (success : checkClaimReferences tables claim = .ok
    ()) :
    tables.NodeIn claim.subject claim.workspaceId := by
  obtain ⟨node, stored, same⟩ := bind_ok success
  exact located stored same

theorem checkEdgeReferences_ok {edge : Edge} (success : checkEdgeReferences tables edge = .ok ()) :
    tables.NodeIn edge.source edge.workspaceId ∧ tables.NodeIn edge.target edge.workspaceId ∧
      ∀ claim, edge.materializedFromClaim = some claim → tables.ClaimIn claim edge.workspaceId := by
  obtain ⟨source, sourceStored, rest⟩ := bind_ok success
  obtain ⟨target, targetStored, rest⟩ := bind_ok rest
  obtain ⟨sourceSame, rest⟩ := unit_ok rest
  obtain ⟨targetSame, rest⟩ := unit_ok rest
  refine ⟨located sourceStored sourceSame, located targetStored targetSame, ?_⟩
  intro claimId materialized
  rw [materialized] at rest
  obtain ⟨claim, stored, same⟩ := bind_ok rest
  exact located stored same

theorem checkConflictReferences_ok {conflict : ConflictSet}
    (success : checkConflictReferences tables conflict = .ok ()) :
    tables.NodeIn conflict.subject conflict.workspaceId := by
  obtain ⟨node, stored, same⟩ := bind_ok success
  exact located stored same

theorem checkSubjectReferences_ok (success : checkSubjectReferences tables subject = .ok ()) :
    ∀ space ∈ subject.primarySpaces.toList, tables.SpaceIn space subject.workspaceId := by
  obtain ⟨_, _, rest⟩ := bind_ok success
  have spaces := rest_ok rest
  intro spaceId listed
  obtain ⟨space, stored, rest⟩ := bind_ok (forM_ok_iff.mp spaces spaceId listed)
  obtain ⟨same, _⟩ := unit_ok rest
  exact located stored same

theorem checkConflictRevisionReferences_ok {revision : ConflictSetRevision}
    (success : checkConflictRevisionReferences tables revision = .ok ()) :
    ∃ conflict, tables.conflicts.identity[revision.conflictSetId.uuid]? = some conflict ∧
      ∀ member ∈ revision.members.toList, tables.ClaimIn member conflict.workspaceId := by
  obtain ⟨conflict, stored, members⟩ := bind_ok success
  refine ⟨conflict, getIdentity_ok_iff.mp stored, fun member listed => ?_⟩
  obtain ⟨claim, found, signature⟩ := bind_ok (forM_ok_iff.mp members member listed)
  have same := ensure_ok_iff.mp signature
  simp only [Bool.and_eq_true, decide_eq_true_eq] at same
  exact ⟨claim, getIdentity_ok_iff.mp found, same.1.1⟩

/-- The walk over the ancestors meets none of the spaces it has passed, and the first
parent is in the workspace. -/
theorem checkParents_ok {rounds : Nat} {passed : BTreeSet MemorySpaceId} {start : MemorySpaceId}
    (success : checkParents tables workspace rounds passed (some start) = .ok ()) :
    tables.SpaceIn start workspace ∧
      ∀ id : MemorySpaceId, Relation.ReflTransGen tables.Parent start.uuid id.uuid →
        passed.contains id = false := by
  induction rounds generalizing passed start with
  | zero => cases success
  | succ rounds ih =>
    obtain ⟨unmet, rest⟩ := unit_ok success
    obtain ⟨parent, stored, rest⟩ := bind_ok rest
    obtain ⟨same, rest⟩ := unit_ok rest
    have found := getIdentity_ok_iff.mp stored
    have absent : passed.contains start = false := by simpa using ensure_ok_iff.mp unmet
    refine ⟨⟨parent, found, (ensureWorkspace_ok_iff.mp same).symm⟩, fun id reached => ?_⟩
    rcases reached.cases_head with here | ⟨next, ⟨space, parentId, stored, above, rfl⟩, further⟩
    · have equal : start = id := StableId.uuid_injective here
      rw [← equal, absent]
    · rw [found] at stored
      cases stored
      rw [above] at rest
      have unpassed := (ih rest).2 id further
      rw [ExtTreeSet.contains_insert, Bool.or_eq_false_iff] at unpassed
      exact unpassed.2

theorem checkSpaceReferences_ok {space : MemorySpace} (success : checkSpaceReferences tables space =
    .ok ()) :
    (∀ parent, space.parent = some parent → tables.SpaceIn parent space.workspaceId ∧
      ¬ Relation.ReflTransGen tables.Parent parent.uuid space.id.uuid) ∧
    ∀ owner ∈ space.owners.toList, tables.SubjectIn owner space.workspaceId := by
  obtain ⟨parents, owners⟩ := unit_ok success
  constructor
  · intro parent above
    rw [above] at parents
    obtain ⟨located, unmet⟩ := checkParents_ok parents
    refine ⟨located, fun reached => ?_⟩
    have absent := unmet space.id reached
    simp at absent
  · intro owner listed
    obtain ⟨subject, stored, same⟩ := bind_ok (forM_ok_iff.mp owners owner listed)
    exact located stored same

variable {visibleFrom semanticSeq : Nat} {publication : Option GraphPublication}
  {mutation : GraphMutation} {older final : Tables}

section

section

variable (staged : Staged visibleFrom semanticSeq publication mutation older final)
include staged

theorem Staged.identityReferences (held : older.IdentityReferences) : final.IdentityReferences := by
  have checked := validateStagedReferences_ok staged.references
  have grown := staged.grows
  have identified := staged.identified_grows
  have supplied := staged.suppliedBy
  constructor
  case claimSubject =>
    intro id claim stored
    rcases supplied.claims id claim stored with known | ⟨listed, _⟩
    · exact (held.claimSubject id claim known).grow grown
    · exact (checkClaimReferences_ok (checked.claims claim listed)).grow identified
  case edgeSource =>
    intro id edge stored
    rcases supplied.edges id edge stored with known | ⟨listed, _⟩
    · exact (held.edgeSource id edge known).grow grown
    · exact (checkEdgeReferences_ok (checked.edges edge listed)).1.grow identified
  case edgeTarget =>
    intro id edge stored
    rcases supplied.edges id edge stored with known | ⟨listed, _⟩
    · exact (held.edgeTarget id edge known).grow grown
    · exact (checkEdgeReferences_ok (checked.edges edge listed)).2.1.grow identified
  case materialized =>
    intro id edge stored claim source
    rcases supplied.edges id edge stored with known | ⟨listed, _⟩
    · exact (held.materialized id edge known claim source).grow grown
    · exact ((checkEdgeReferences_ok (checked.edges edge listed)).2.2 claim source).grow identified
  case conflictSubject =>
    intro id conflict stored
    rcases supplied.conflicts id conflict stored with known | ⟨listed, _⟩
    · exact (held.conflictSubject id conflict known).grow grown
    · exact (checkConflictReferences_ok (checked.conflicts conflict listed)).grow identified
  case spaceParent =>
    intro id space stored parent above
    rcases supplied.spaces id space stored with known | ⟨listed, _⟩
    · exact (held.spaceParent id space known parent above).grow grown
    · exact ((checkSpaceReferences_ok
        (checked.spaces space listed)).1 parent above).1.grow identified
  case spaceOwners =>
    intro id space stored owner owns
    rcases supplied.spaces id space stored with known | ⟨listed, _⟩
    · exact (held.spaceOwners id space known owner owns).grow grown
    · exact ((checkSpaceReferences_ok (checked.spaces space listed)).2 owner owns).grow identified
  case primarySpaces =>
    intro id subject stored space primary
    rcases supplied.subjects id subject stored with known | ⟨listed, _⟩
    · exact (held.primarySpaces id subject known space primary).grow grown
    · exact (checkSubjectReferences_ok
        (checked.subjects subject listed) space primary).grow identified

theorem Staged.old_ancestors (held : older.IdentityReferences) {child ancestor : Uuid}
    (chain : Relation.TransGen final.Parent child ancestor)
    (known : older.spaces.contains child = true) :
    Relation.TransGen older.Parent child ancestor ∧ older.spaces.contains ancestor = true := by
  have step : ∀ {lower upper : Uuid}, final.Parent lower upper →
    older.spaces.contains lower = true →
      older.Parent lower upper ∧ older.spaces.contains upper = true := by
    rintro lower upper ⟨space, parentId, stored, above, rfl⟩ present
    rw [ExtTreeMap.contains_eq_isSome_getElem?, Option.isSome_iff_exists] at present
    obtain ⟨original, found⟩ := present
    have same := staged.grows.spaces _ _ found
    rw [stored] at same
    cases same
    obtain ⟨parent, parentFound, _⟩ := held.spaceParent _ _ found parentId above
    refine ⟨⟨space, parentId, found, above, rfl⟩, ?_⟩
    rw [ExtTreeMap.contains_eq_isSome_getElem?, parentFound]
    rfl
  induction chain with
  | single parent =>
    obtain ⟨original, present⟩ := step parent known
    exact ⟨.single original, present⟩
  | tail _ parent ih =>
    obtain ⟨original, present⟩ := step parent ih.2
    exact ⟨ih.1.tail original, present⟩

theorem Staged.acyclic (held : older.IdentityReferences)
    (acyclic : ∀ id, ¬ Relation.TransGen older.Parent id id) :
    ∀ id, ¬ Relation.TransGen final.Parent id id := by
  intro id cycle
  -- The spaces of the batch were walked in the staged tables, which hold the same spaces.
  have same : ∀ lower upper, final.Parent lower upper → staged.identified.Parent lower upper := by
    rintro lower upper ⟨space, parentId, stored, above, rfl⟩
    rcases staged.identified_suppliedBy.spaces _ _ stored with found | ⟨listed, _⟩
    · exact ⟨space, parentId, found, above, rfl⟩
    · cases listed
  obtain ⟨upper, parent, back⟩ := Relation.TransGen.head'_iff.mp cycle
  obtain ⟨space, parentId, stored, above, rfl⟩ := parent
  rcases staged.suppliedBy.spaces id space stored with known | ⟨listed, rfl⟩
  · refine acyclic id (staged.old_ancestors held cycle ?_).1
    rw [ExtTreeMap.contains_eq_isSome_getElem?, known]
    rfl
  · have checked := (validateStagedReferences_ok staged.references).spaces space listed
    exact ((checkSpaceReferences_ok checked).1 parentId above).2
      (Relation.ReflTransGen.mono same _ _ back)

end

end

variable {Identity Revision : Type} {space grown : RevisionSpace Identity Revision}
  {tables next : Tables} {workspace : Identity → WorkspaceId}
  {envelope : Revision → SemanticEnvelope} {visibleFrom : Nat}

theorem RevisionSpace.EnvelopesIn.grow (held : space.EnvelopesIn tables workspace envelope)
    (tablesGrow : tables.Grows next) (identities : BTreeMap.Extends space.identity grown.identity)
    (revisions : grown.revision = space.revision) : grown.EnvelopesIn next workspace envelope := by
  intro id persisted member
  have known : persisted ∈ space.history id := by
    simpa only [history, numbered, revisions] using member
  obtain ⟨identity, stored, located⟩ := held id persisted known
  exact ⟨identity, identities _ _ stored, located.grow tablesGrow⟩

theorem RevisionSpace.EnvelopesIn.append {id : Uuid} {revision : Nat} {value : Revision}
    {identity : Identity} (held : space.EnvelopesIn tables workspace envelope)
    (tablesGrow : tables.Grows next) (stored : space.identity[id]? = some identity)
    (located : tables.EnvelopeIn (envelope value) (workspace identity)) :
    (space.append id revision value visibleFrom).EnvelopesIn next workspace envelope := by
  intro other persisted member
  rcases RevisionSpace.mem_history_append member with known | ⟨rfl, rfl⟩
  · obtain ⟨owner, found, good⟩ := held other persisted known
    exact ⟨owner, found, good.grow tablesGrow⟩
  · exact ⟨identity, stored, located.grow tablesGrow⟩

theorem Tables.MembersIn.grow (held : tables.MembersIn) (grown : tables.Grows next)
    (conflicts : next.conflicts.revision = tables.conflicts.revision) : next.MembersIn := by
  intro id persisted member
  have known : persisted ∈ tables.conflicts.history id := by
    simpa only [RevisionSpace.history, RevisionSpace.numbered, conflicts] using member
  obtain ⟨conflict, stored, located⟩ := held id persisted known
  exact ⟨conflict, grown.conflicts _ _ stored, fun member listed =>
    (located member listed).grow grown⟩

theorem Tables.ArtifactsIn.grow (held : tables.ArtifactsIn) (grown : tables.Grows next)
    (artifacts : next.artifacts = tables.artifacts) : next.ArtifactsIn := by
  intro id metadata stored
  rw [artifacts] at stored
  obtain ⟨named, located⟩ := held id metadata stored
  exact ⟨named, located.grow grown⟩

theorem Tables.RevisionReferences.grow (held : tables.RevisionReferences)
    (grown : tables.Grows next) (nodes : next.nodes.revision = tables.nodes.revision)
    (claims : next.claims.revision = tables.claims.revision)
    (edges : next.edges.revision = tables.edges.revision)
    (conflicts : next.conflicts.revision = tables.conflicts.revision)
    (artifacts : next.artifacts = tables.artifacts) : next.RevisionReferences where
  nodes := held.nodes.grow grown grown.nodes nodes
  claims := held.claims.grow grown grown.claims claims
  edges := held.edges.grow grown grown.edges edges
  conflicts := held.conflicts.grow grown grown.conflicts conflicts
  members := held.members.grow grown conflicts
  artifacts := held.artifacts.grow grown artifacts

def GraphMutation.envelopes (mutation : GraphMutation) : List SemanticEnvelope :=
  mutation.nodeRevisions.map (·.envelope) ++ (mutation.claimRevisions.map (·.envelope) ++
    (mutation.edgeRevisions.map (·.envelope) ++ (mutation.conflictRevisions.map (·.envelope) ++
      mutation.artifacts.map (·.envelope))))

/-- What the revisions of a batch may rely on in the staged identities. -/
structure Tables.Supports (tables : Tables) (mutation : GraphMutation) : Prop where
  consent : ∀ envelope ∈ mutation.envelopes, ∀ workspace,
    workspaceFromEnvelope envelope = .ok workspace → tables.ConsentIn envelope workspace
  members : ∀ revision ∈ mutation.conflictRevisions, ∃ conflict,
    tables.conflicts.identity[revision.conflictSetId.uuid]? = some conflict ∧
      ∀ member ∈ revision.members.toList, tables.ClaimIn member conflict.workspaceId

variable {first last : Tables × Nat} {record : StagedRecord}

theorem Tables.Supports.grow (held : tables.Supports mutation) (grown : tables.Grows next) :
    next.Supports mutation where
  consent envelope written workspace named :=
    (held.consent envelope written workspace named).grow grown
  members revision listed := by
    obtain ⟨conflict, stored, located⟩ := held.members revision listed
    exact ⟨conflict, grown.conflicts _ _ stored, fun member named =>
      (located member named).grow grown⟩

theorem Tables.Supports.envelopeIn {written : SemanticEnvelope} {expected : WorkspaceId}
    (held : tables.Supports mutation) (listed : written ∈ mutation.envelopes)
    (checked : validateEnvelopeReferences tables written expected = .ok ()) :
    tables.EnvelopeIn written expected :=
  validateEnvelopeReferences_ok checked (held.consent written listed expected
    (validateEnvelopeReferences_workspace checked))

theorem StageStep.identity_revisionReferences (belongs : record ∈ mutation.identityRecords)
    (step : StageStep visibleFrom first record last) (held : first.1.RevisionReferences) :
    last.1.RevisionReferences := by
  have grown := step.grows
  cases step with
  | workspace staged =>
    obtain ⟨_, _, rfl⟩ := stageWorkspace_ok staged
    exact held.grow grown rfl rfl rfl rfl rfl
  | space staged =>
    obtain ⟨_, _, rfl⟩ := stageSpace_ok staged
    exact held.grow grown rfl rfl rfl rfl rfl
  | subject staged =>
    obtain ⟨_, _, rfl⟩ := stageSubject_ok staged
    exact held.grow grown rfl rfl rfl rfl rfl
  | node staged =>
    obtain ⟨_, _, _, _, _, _, rfl⟩ := stageNode_ok staged
    exact held.grow grown rfl rfl rfl rfl rfl
  | claim staged =>
    obtain ⟨_, _, rfl⟩ := stageClaim_ok staged
    exact held.grow grown rfl rfl rfl rfl rfl
  | edge staged =>
    obtain ⟨_, _, rfl⟩ := stageEdge_ok staged
    exact held.grow grown rfl rfl rfl rfl rfl
  | conflict staged =>
    obtain ⟨_, _, rfl⟩ := stageConflict_ok staged
    exact held.grow grown rfl rfl rfl rfl rfl
  | _ => simp [identityRecords] at belongs

theorem StageStep.revision_revisionReferences (belongs : record ∈ mutation.revisionRecords)
    (step : StageStep visibleFrom first record last) (support : first.1.Supports mutation)
    (held : first.1.RevisionReferences) : last.1.RevisionReferences := by
  have grown := step.grows
  have listed := revisionRecords_of belongs
  cases step with
  | @nodeRevision _ _ _ value staged =>
    obtain ⟨node, stored, checked, rfl⟩ := stageNodeRevision_ok staged
    have written : value.envelope ∈ mutation.envelopes := by
      simp only [envelopes, mem_append, mem_map]
      exact .inl ⟨value, listed, rfl⟩
    exact ⟨held.nodes.append grown stored (support.envelopeIn written checked),
      held.claims.grow grown grown.claims rfl, held.edges.grow grown grown.edges rfl,
      held.conflicts.grow grown grown.conflicts rfl, held.members.grow grown rfl, held.artifacts.grow grown rfl⟩
  | @claimRevision _ _ _ value staged =>
    obtain ⟨claim, stored, checked, rfl⟩ := stageClaimRevision_ok staged
    have written : value.envelope ∈ mutation.envelopes := by
      simp only [envelopes, mem_append, mem_map]
      exact .inr (.inl ⟨value, listed, rfl⟩)
    exact ⟨held.nodes.grow grown grown.nodes rfl, held.claims.append grown stored
      (support.envelopeIn written checked),
      held.edges.grow grown grown.edges rfl, held.conflicts.grow grown grown.conflicts rfl,
      held.members.grow grown rfl, held.artifacts.grow grown rfl⟩
  | @edgeRevision _ _ _ value staged =>
    obtain ⟨edge, source, target, stored, checked, rfl⟩ := stageEdgeRevision_ok staged
    have written : value.envelope ∈ mutation.envelopes := by
      simp only [envelopes, mem_append, mem_map]
      exact .inr (.inr (.inl ⟨value, listed, rfl⟩))
    exact ⟨held.nodes.grow grown grown.nodes rfl, held.claims.grow grown grown.claims rfl,
      held.edges.append grown stored (support.envelopeIn written checked),
      held.conflicts.grow grown grown.conflicts rfl, held.members.grow grown rfl, held.artifacts.grow grown rfl⟩
  | @conflictRevision _ _ _ value staged =>
    obtain ⟨conflict, stored, checked, rfl⟩ := stageConflictRevision_ok staged
    have written : value.envelope ∈ mutation.envelopes := by
      simp only [envelopes, mem_append, mem_map]
      exact .inr (.inr (.inr (.inl ⟨value, listed, rfl⟩)))
    refine ⟨held.nodes.grow grown grown.nodes rfl, held.claims.grow grown grown.claims rfl,
      held.edges.grow grown grown.edges rfl,
      held.conflicts.append grown stored
        (support.envelopeIn written checked), ?_, held.artifacts.grow grown rfl⟩
    intro id persisted member
    rcases RevisionSpace.mem_history_append member with known | ⟨rfl, rfl⟩
    · obtain ⟨owner, found, located⟩ := held.members id persisted known
      exact ⟨owner, found, fun member named => (located member named).grow grown⟩
    · obtain ⟨owner, found, located⟩ := support.members value listed
      exact ⟨owner, found, fun member named => (located member named).grow grown⟩
  | @artifact tables _ _ value staged =>
    obtain ⟨workspace, vacant, absent, checked, rfl⟩ := stageArtifact_ok staged
    have written : value.envelope ∈ mutation.envelopes := by
      simp only [envelopes, mem_append, mem_map]
      exact .inr (.inr (.inr (.inr ⟨value, listed, rfl⟩)))
    -- The check reads subjects and spaces, which registering the artifact leaves alone.
    have located : tables.EnvelopeIn value.envelope workspace :=
      support.envelopeIn written checked
    refine ⟨held.nodes.grow grown grown.nodes rfl, held.claims.grow grown grown.claims rfl,
      held.edges.grow grown grown.edges rfl, held.conflicts.grow grown grown.conflicts rfl, held.members.grow grown rfl, ?_⟩
    intro id metadata found
    rcases BTreeMap.getElem?_insert_cases found with ⟨rfl, rfl⟩ | ⟨_, earlier⟩
    · exact ⟨validateEnvelopeReferences_workspace checked, located.grow grown⟩
    · obtain ⟨named, good⟩ := held.artifacts id metadata earlier
      exact ⟨named, good.grow grown⟩
  | _ => simp [revisionRecords] at belongs

variable {semanticSeq : Nat}

theorem Staged.revisionReferences
    (staged : Staged visibleFrom semanticSeq publication mutation older final)
    (support : staged.identified.Supports mutation) (held : older.RevisionReferences) :
    final.RevisionReferences := by
  have identified : staged.identified.RevisionReferences :=
    staged.identities.preserves (·.1.RevisionReferences) held fun _ _ _ member good step => step.identity_revisionReferences member good
  have revised : staged.revised.Supports mutation ∧ staged.revised.RevisionReferences := by
    refine staged.revisions.preserves (fun state => state.1.Supports mutation ∧
      state.1.RevisionReferences)
      ⟨support, identified⟩ ?_
    rintro state record next member ⟨supports, good⟩ step
    exact ⟨supports.grow step.grows, step.revision_revisionReferences member supports good⟩
  have grown := staged.commits_grows
  obtain ⟨_, _, _, _, _, _, rfl⟩ := staged
  exact revised.2.grow grown rfl rfl rfl rfl rfl

/-- Every consent decision of the batch names a subject of the workspace of its envelope,
stored before or written by the batch. -/
def ConsentNamed (tables : Tables) (mutation : GraphMutation) : Prop :=
  ∀ envelope ∈ mutation.envelopes, ∀ decision ∈ envelope.consent.decisions, ∃ subject :
    MemorySubject,
      (tables.subjects[decision.subject.uuid]? = some subject ∨
        (subject ∈ mutation.memorySubjects ∧ subject.id = decision.subject)) ∧
      workspaceFromEnvelope envelope = .ok subject.workspaceId

variable {engine : Engine} {store next : Store}

theorem Staging.stores_subject {records : List StagedRecord}
    (run : Staging visibleFrom first records last) (listed : .subject subject ∈ records) :
    last.1.subjects[subject.id.uuid]? = some subject := by
  obtain ⟨_, _, before, after, _, _, step, rest⟩ := run.split listed
  cases step with
  | subject staged =>
    obtain ⟨_, _, rfl⟩ := stageSubject_ok staged
    exact (Staging.grows rest).subjects _ _ ExtTreeMap.getElem?_insert_self

variable {older : Tables} {final : Tables}

theorem Staged.supports (staged : Staged visibleFrom semanticSeq publication mutation older final)
    (named : ConsentNamed older mutation) : staged.identified.Supports mutation where
  consent := by
    intro envelope written workspace located decision listed
    obtain ⟨subject, known, same⟩ := named envelope written decision listed
    rw [located] at same
    refine ⟨subject, ?_, (Except.ok.inj same).symm⟩
    rcases known with stored | ⟨batch, identified⟩
    · exact staged.identities.grows.subjects _ _ stored
    · rw [← identified]
      refine staged.identities.stores_subject ?_
      simp only [identityRecords, mem_append, mem_map]
      exact .inr (.inr (.inl ⟨subject, batch, rfl⟩))
  members revision listed := checkConflictRevisionReferences_ok
    ((validateStagedReferences_ok staged.references).members revision listed)

/-- The dense numbers stay consecutive and both indexes agree, whatever the batch refers to. -/
theorem Staged.numbered (staged : Staged visibleFrom semanticSeq publication mutation older final)
    (held : older.Numbered (older.dense.next.getD 1)) : final.Numbered
    (final.dense.next.getD 1) := by
  have identified := staged.identities.preserves (fun state => state.1.Numbered state.2)
    held fun _ _ _ _ good step => step.numbered good
  have revised := staged.revisions.preserves (fun state => state.1.Numbered state.2)
    identified fun _ _ _ _ good step => step.numbered good
  obtain ⟨_, _, _, _, _, _, rfl⟩ := staged
  exact { revised with }

theorem Staged.consistent (staged : Staged visibleFrom semanticSeq publication mutation older final)
    (named : ConsentNamed older mutation) (held : older.Consistent) : final.Consistent where
  identities := staged.identityReferences held.identities
  revisions := staged.revisionReferences (staged.supports named) held.revisions
  acyclic := staged.acyclic held.identities held.acyclic
  registered := by
    have identified := staged.identities.preserves
      (·.1.Registered) held.registered fun _ _ _ _ good step => step.registered good
    have revised := staged.revisions.preserves
      (·.1.Registered) identified fun _ _ _ _ good step => step.registered good
    obtain ⟨_, _, _, _, _, _, rfl⟩ := staged
    exact revised
  numbered := staged.numbered held.numbered

theorem RevisionSpace.history_empty (id : Uuid) :
    (RevisionSpace.empty : RevisionSpace Identity Revision).history id = [] := by
  simp [history, numbered, empty]

theorem Tables.empty_consistent : Tables.empty.Consistent where
  identities := by
    constructor <;> intro id record stored <;> simp [Tables.empty, RevisionSpace.empty] at stored
  revisions := by
    refine ⟨?_, ?_, ?_, ?_, ?_, ?_⟩
    case refine_6 =>
      intro id metadata stored
      simp [Tables.empty] at stored
    all_goals
      intro id persisted member
      simp [Tables.empty, RevisionSpace.history_empty] at member
  acyclic := by
    intro id cycle
    obtain ⟨_, ⟨_, _, stored, _⟩, _⟩ := Relation.TransGen.head'_iff.mp cycle
    simp [Tables.empty] at stored
  registered := by
    intro id kind held
    cases kind <;> simp [Tables.holds, Tables.empty, RevisionSpace.empty] at held
  numbered := by
    constructor
    case positive => decide
    case taken =>
      intro number low high
      simp [Tables.empty] at high
      omega
    all_goals simp [Tables.empty, RevisionSpace.empty]

theorem commit_ok {sequence : Nat} (success : commit engine store mutation = .ok (sequence, next)) :
    Nonempty (Published engine store mutation none next) := by
  obtain ⟨⟨outcome, committed⟩, applied, returned⟩ := bind_ok success
  cases returned
  rcases applyMutation_ok applied with ⟨_, _, absurd, _⟩ | ⟨_, published⟩
  · cases absurd
  · exact published

def CommitStep (engine : Engine) (store : Store) (mutation : GraphMutation) (next : Store) : Prop :=
  ∃ sequence, commit engine store mutation = .ok (sequence, next)

def NamedCommit (engine : Engine) (store : Store) (mutation : GraphMutation) (next : Store) :
    Prop :=
  ConsentNamed store.latest mutation ∧ CommitStep engine store mutation next

theorem NamedCommit.consistent (step : NamedCommit engine store mutation next)
    (held : store.latest.Consistent) :
    next.latest.Consistent ∧ store.latest.Grows next.latest := by
  obtain ⟨named, sequence, success⟩ := step
  obtain ⟨published⟩ := commit_ok success
  obtain ⟨_, tables, _, _, _, _, staged, rfl⟩ := published
  exact ⟨staged.consistent named held, staged.grows⟩

/-- In every run of commits whose consent decisions name known subjects the graph keeps its
referential integrity, and no dense identifier is ever reassigned. -/
theorem commits_keep_referential_integrity (engine : Engine) {earlier later : List GraphMutation}
    {store final : Store} (reached : Runs (NamedCommit engine) .new earlier store)
    (continued : Runs (NamedCommit engine) store later final) : final.latest.Integrity ∧
      BTreeMap.Extends store.latest.dense.external final.latest.dense.external := by
  have start : store.latest.Consistent :=
    reached.preserves (·.latest.Consistent) Tables.empty_consistent fun _ _ _ _ held step =>
      (step.consistent held).1
  have kept : final.latest.Consistent ∧ store.latest.Grows final.latest := by
    refine continued.preserves (fun state => state.latest.Consistent ∧
      store.latest.Grows state.latest)
      ⟨start, .refl _⟩ ?_
    rintro state mutation next _ ⟨held, grown⟩ step
    obtain ⟨consistent, grows⟩ := step.consistent held
    exact ⟨consistent, grown.trans grows⟩
  exact ⟨kept.1.integrity, kept.2.external⟩

theorem CommitStep.numbered (step : CommitStep engine store mutation next)
    (held : store.latest.Numbered (store.latest.dense.next.getD 1)) :
    next.latest.Numbered (next.latest.dense.next.getD 1) ∧ store.latest.Grows next.latest := by
  obtain ⟨sequence, success⟩ := step
  obtain ⟨published⟩ := commit_ok success
  obtain ⟨_, tables, _, _, _, _, staged, rfl⟩ := published
  exact ⟨staged.numbered held, staged.grows⟩

/-- A number keeps its external id: the inverse index is determined by the mappings, which only
grow. The commit itself writes it without a check. -/
theorem Tables.Numbered.dense_extends {older newer : Tables} {early late : Nat}
    (before : older.Numbered early)
    (after : newer.Numbered late) (grows : older.Grows newer) :
    BTreeMap.Extends older.dense.dense newer.dense.dense := by
  intro number id stored
  obtain ⟨mapping, mapped, rfl⟩ := before.inverse number id stored
  exact (after.mapped id mapping (grows.external id mapping mapped)).2.2

/-- From any store a run of commits has reached, no further run rewrites or removes an identity,
an artifact or a dense number, in either direction of the dense index. -/
theorem commits_only_add {engine : Engine} {earlier later : List GraphMutation}
    {store final : Store}
    (reached : Runs (CommitStep engine) .new earlier store)
    (continued : Runs (CommitStep engine) store later final) :
    store.latest.Grows final.latest ∧
      BTreeMap.Extends store.latest.dense.dense final.latest.dense.dense := by
  have start : store.latest.Numbered (store.latest.dense.next.getD 1) :=
    reached.preserves (fun state => state.latest.Numbered (state.latest.dense.next.getD 1))
      Tables.empty_consistent.numbered fun _ _ _ _ held step => (step.numbered held).1
  have kept : final.latest.Numbered (final.latest.dense.next.getD 1) ∧
    store.latest.Grows final.latest := by
    refine continued.preserves (fun state => state.latest.Numbered
      (state.latest.dense.next.getD 1) ∧
      store.latest.Grows state.latest) ⟨start, .refl _⟩ ?_
    rintro state mutation next _ ⟨held, grown⟩ step
    obtain ⟨numbered, grows⟩ := step.numbered held
    exact ⟨numbered, grown.trans grows⟩
  exact ⟨kept.2, start.dense_extends kept.1 kept.2⟩

private def board : WorkspaceId := .numbered 1
private def boardSpace : MemorySpaceId := .numbered 2
private def member : MemorySubjectId := .numbered 3
private def memberNode : NodeId := .numbered 4

private def memberOwnership : OwnershipPolicy where
  owners := ⟨[member], by simp⟩
  audienceGrants := [⟨.owner, {Purpose.audit}, {AccessCapability.retrieve}⟩]
  allowedPurposes := {Purpose.audit}
  modification := ⟨true, false, true⟩

variable (consenting : List MemorySubjectId)

/-- The envelope of a board photo with the consent of the given subjects. -/
private def photoEnvelope : SemanticEnvelope where
  scopes := ⟨[⟨.workspace, .numbered 1, .exact⟩], by simp⟩
  perspective := ⟨member, none, .numbered 5, .asserter⟩
  ownership := memberOwnership
  consent := ⟨false, consenting.map fun subject => ⟨subject, .artifact, .granted, ⟨0, none⟩⟩⟩
  usePolicy := ⟨.allow, .allow, .deny, .deny, .session⟩
  security := ⟨.internal, ∅, ∅, false⟩
  derivation := ⟨.numbered 6, .deterministicProjector, none, none, ⟨"p", "1", "1"⟩, []⟩

/-- A board with one member, its space and its node, and a photo. -/
private def boardMutation : GraphMutation :=
  { empty with
    workspaces := [⟨board, "board", .numbered 7, "default", .active⟩]
    memorySpaces := [⟨boardSpace, board, .group,
      ⟨[member], by simp⟩, memberOwnership, .session, none⟩]
    memorySubjects := [⟨member, board, .user, memberNode, ⟨[boardSpace], by simp⟩, .numbered 8⟩]
    nodes := [⟨memberNode, board, .entity, 1, none, .canonical, ⟨.workspace, .numbered 1, .exact⟩⟩]
    artifacts := [⟨.numbered 9, .image, "image/png", none, photoEnvelope consenting⟩] }

private def keepsAll : Engine := ⟨fun _ _ => true⟩

private def outsider : MemorySubjectId := .numbered 10

/-- Whether a commit stored a photo with the consent of a subject that is not stored. -/
private def storesUnknownConsent (outcome : Result (Nat × Store)) : Bool :=
  match outcome with
  | .ok (_, store) =>
    store.latest.artifacts[(⟨9⟩ : Uuid)]?.any (·.artifact.envelope.consent.decisions.any
      (·.subject = outsider)) &&
      !store.latest.subjects.contains outsider.uuid
  | .error _ => false

/-- The consent of a subject that does not exist is stored. -/
theorem unknown_consent_subject_is_stored : ¬ ∀ (engine : Engine) (mutations : List GraphMutation)
    (store : Store),
      Runs (CommitStep engine) .new mutations store → store.latest.Integrity := by
  intro integrity
  have accepted : storesUnknownConsent (commit keepsAll .new
    (boardMutation [outsider])) = true := by
    decide +kernel
  unfold storesUnknownConsent at accepted
  split at accepted
  · rename_i sequence store committed
    rw [Bool.and_eq_true, Option.any_eq_true] at accepted
    obtain ⟨⟨metadata, stored, consents⟩, missing⟩ := accepted
    obtain ⟨decision, listed, names⟩ := any_eq_true.mp consents
    have sound := integrity keepsAll [boardMutation [outsider]] store
      (.single ⟨sequence, committed⟩)
    have named : outsider ∈ envelopeSubjects metadata.artifact.envelope := by
      simp only [envelopeSubjects, mem_cons, mem_append, mem_map]
      exact .inr (.inr (.inr (.inr ⟨decision, listed, of_decide_eq_true names⟩)))
    obtain ⟨subject, found, _⟩ := (sound.revisions.artifacts _ _ stored).2.subjects outsider named
    rw [ExtTreeMap.contains_eq_isSome_getElem?, found] at missing
    cases missing
  · cases accepted

/-- A second node for the board. -/
private def guestMutation : GraphMutation :=
  { empty with
    baseStorageSeq := 1
    nodes := [⟨.numbered 11, board, .entity, 2, none, .canonical,
      ⟨.workspace, .numbered 1, .exact⟩⟩] }

/-- Both commits are accepted, and the first has given the member's node the number one. -/
private theorem guest_accepted (consenting : List MemorySubjectId)
    (evaluated : yields (commit keepsAll .new (boardMutation consenting)) (fun (_, store) =>
      decide (store.latest.dense.dense[1]? = some memberNode.uuid) &&
        yields (commit keepsAll store guestMutation) fun (_, final) =>
          decide (final.latest.dense.dense[2]? = some ⟨11⟩)) = true) :
    ∃ store final, CommitStep keepsAll .new (boardMutation consenting) store ∧
      CommitStep keepsAll store guestMutation final ∧ store.latest.dense.dense[1]? =
        some memberNode.uuid ∧
        final.latest.dense.dense[2]? = some ⟨11⟩ := by
  obtain ⟨⟨sequence, store⟩, committed, rest⟩ := yields_iff.mp evaluated
  simp only [Bool.and_eq_true, decide_eq_true_eq] at rest
  obtain ⟨⟨later, final⟩, continued, second⟩ := yields_iff.mp rest.2
  exact ⟨store, final, ⟨sequence, committed⟩, ⟨later, continued⟩, rest.1, of_decide_eq_true second⟩

/-- The second commit leaves the member's node under its number. -/
theorem guest_board_only_adds : ∃ store final, Runs (CommitStep keepsAll) .new
    [boardMutation [outsider]] store ∧
      Runs (CommitStep keepsAll) store [guestMutation] final ∧ store.latest.Grows final.latest ∧
        final.latest.dense.dense[1]? = some memberNode.uuid ∧
          final.latest.dense.dense[2]? = some ⟨11⟩ := by
  obtain ⟨store, final, first, second, one, two⟩ := guest_accepted [outsider] (by decide +kernel)
  obtain ⟨grows, dense⟩ := commits_only_add (.single first) (.single second)
  exact ⟨store, final, .single first, .single second, grows, dense _ _ one, two⟩

/-- The board committed with the consent of its member, then a second node. -/
theorem board_keeps_referential_integrity :
    ∃ store final, Runs (NamedCommit keepsAll) .new [boardMutation [member]] store ∧
      Runs (NamedCommit keepsAll) store [guestMutation] final ∧ final.latest.Integrity ∧
      BTreeMap.Extends store.latest.dense.external final.latest.dense.external := by
  obtain ⟨store, final, first, second, _, _⟩ := guest_accepted [member] (by decide +kernel)
  have named : ConsentNamed Tables.empty (boardMutation [member]) := by
    intro envelope written decision listed
    simp only [envelopes, boardMutation, empty, map_nil, nil_append, map_cons,
      mem_singleton] at written
    subst written
    simp only [photoEnvelope, map_cons, map_nil, mem_singleton] at listed
    subst listed
    exact ⟨_, .inr ⟨.head _, rfl⟩, rfl⟩
  have unnamed : ConsentNamed store.latest guestMutation := by
    intro envelope written
    simp [envelopes, guestMutation, empty] at written
  have reached : Runs (NamedCommit keepsAll) .new [boardMutation [member]] store := .single
    ⟨named, first⟩
  have continued : Runs (NamedCommit keepsAll) store [guestMutation] final := .single
    ⟨unnamed, second⟩
  exact ⟨store, final, reached, continued,
    commits_keep_referential_integrity keepsAll reached continued⟩

end ContextDb.Graph
