import ContextDb.Graph.CommitSteps

/-! Identities over staging runs: they only accumulate, every new one comes from the staged
mutation, every identifier is registered under the kind of its record, and the dense
identifiers are the numbers below the counter. -/

set_option autoImplicit false

namespace ContextDb.Graph

open Lib Std ContextDb.Core ExtTreeMap

variable {visibleFrom : Nat} {first last : Tables × Nat} {record : StagedRecord}

/-- Every stable record and mapping of the older tables is one of the newer. -/
structure Tables.Grows (older newer : Tables) : Prop where
  objectKind : BTreeMap.Extends older.objectKind newer.objectKind
  workspaces : BTreeMap.Extends older.workspaces newer.workspaces
  spaces : BTreeMap.Extends older.spaces newer.spaces
  subjects : BTreeMap.Extends older.subjects newer.subjects
  nodes : BTreeMap.Extends older.nodes.identity newer.nodes.identity
  claims : BTreeMap.Extends older.claims.identity newer.claims.identity
  edges : BTreeMap.Extends older.edges.identity newer.edges.identity
  conflicts : BTreeMap.Extends older.conflicts.identity newer.conflicts.identity
  artifacts : BTreeMap.Extends older.artifacts newer.artifacts
  external : BTreeMap.Extends older.dense.external newer.dense.external

namespace Tables.Grows

variable {first second third : Tables}

theorem refl (tables : Tables) : Tables.Grows tables tables :=
  ⟨.refl _, .refl _, .refl _, .refl _, .refl _, .refl _, .refl _, .refl _, .refl _, .refl _⟩

theorem trans (early : Tables.Grows first second) (late : Tables.Grows second third) :
    Tables.Grows first third where
  objectKind := early.objectKind.trans late.objectKind
  workspaces := early.workspaces.trans late.workspaces
  spaces := early.spaces.trans late.spaces
  subjects := early.subjects.trans late.subjects
  nodes := early.nodes.trans late.nodes
  claims := early.claims.trans late.claims
  edges := early.edges.trans late.edges
  conflicts := early.conflicts.trans late.conflicts
  artifacts := early.artifacts.trans late.artifacts
  external := early.external.trans late.external

end Tables.Grows

variable {records : List StagedRecord}

/-- No staging step changes or removes an identity. -/
theorem StageStep.grows (step : StageStep visibleFrom first record last) :
    Tables.Grows first.1 last.1 := by
  cases step with
  | @workspace tables _ _ _ staged =>
    obtain ⟨vacant, absent, rfl⟩ := stageWorkspace_ok staged
    exact { Tables.Grows.refl tables with
      objectKind := .insert vacant _, workspaces := .insert absent _ }
  | @space tables _ _ _ staged =>
    obtain ⟨vacant, absent, rfl⟩ := stageSpace_ok staged
    exact { Tables.Grows.refl tables with
      objectKind := .insert vacant _, spaces := .insert absent _ }
  | @subject tables _ _ _ staged =>
    obtain ⟨vacant, absent, rfl⟩ := stageSubject_ok staged
    exact { Tables.Grows.refl tables with
      objectKind := .insert vacant _, subjects := .insert absent _ }
  | @node tables _ _ _ _ staged =>
    obtain ⟨vacant, absent, unmapped, _, denseId, _, rfl⟩ := stageNode_ok staged
    exact { Tables.Grows.refl tables with
      objectKind := .insert vacant _, nodes := .insert absent _, external := .insert unmapped _ }
  | @claim tables _ _ _ staged =>
    obtain ⟨vacant, absent, rfl⟩ := stageClaim_ok staged
    exact { Tables.Grows.refl tables with
      objectKind := .insert vacant _, claims := .insert absent _ }
  | @edge tables _ _ _ staged =>
    obtain ⟨vacant, absent, rfl⟩ := stageEdge_ok staged
    exact { Tables.Grows.refl tables with
      objectKind := .insert vacant _, edges := .insert absent _ }
  | @conflict tables _ _ _ staged =>
    obtain ⟨vacant, absent, rfl⟩ := stageConflict_ok staged
    exact { Tables.Grows.refl tables with
      objectKind := .insert vacant _, conflicts := .insert absent _ }
  | @nodeRevision tables _ _ _ staged =>
    obtain ⟨_, _, _, rfl⟩ := stageNodeRevision_ok staged
    exact { Tables.Grows.refl tables with }
  | @claimRevision tables _ _ _ staged =>
    obtain ⟨_, _, _, rfl⟩ := stageClaimRevision_ok staged
    exact { Tables.Grows.refl tables with }
  | @edgeRevision tables _ _ _ staged =>
    obtain ⟨_, _, _, _, _, rfl⟩ := stageEdgeRevision_ok staged
    exact { Tables.Grows.refl tables with }
  | @conflictRevision tables _ _ _ staged =>
    obtain ⟨_, _, _, rfl⟩ := stageConflictRevision_ok staged
    exact { Tables.Grows.refl tables with }
  | @artifact tables _ _ _ staged =>
    obtain ⟨_, vacant, absent, _, rfl⟩ := stageArtifact_ok staged
    exact { Tables.Grows.refl tables with
      objectKind := .insert vacant _, artifacts := .insert absent _ }

theorem Staging.grows (run : Staging visibleFrom first records last) :
    Tables.Grows first.1 last.1 :=
  run.preserves (fun state => Tables.Grows first.1 state.1) (.refl _)
    fun _ _ _ _ held step => held.trans step.grows

section

/-- Every record of the newer map is an older one or one of `records` under its own key. -/
def Supplied {Record : Type} (key : Record → Uuid) (records : List Record)
    (older newer : BTreeMap Uuid Record) : Prop :=
  ∀ (id : Uuid) (record : Record), newer[id]? = some record →
    older[id]? = some record ∨ (record ∈ records ∧ key record = id)

namespace Supplied

variable {Record : Type} {key : Record → Uuid} {records : List Record}
    {older newer : BTreeMap Uuid Record}

theorem refl : Supplied key records older older :=
  fun _ _ found => .inl found

theorem trans {latest : BTreeMap Uuid Record} (early : Supplied key records older newer)
    (late : Supplied key records newer latest) : Supplied key records older latest := by
  intro id record found
  rcases late id record found with known | listed
  · exact early id record known
  · exact .inr listed

theorem insert {record : Record} (supplied : Supplied key records older newer)
    (member : record ∈ records) : Supplied key records older
    (newer.insert (key record) record) := by
  intro id other found
  rcases BTreeMap.getElem?_insert_cases found with ⟨rfl, rfl⟩ | ⟨_, earlier⟩
  · exact .inr ⟨member, rfl⟩
  · exact supplied id other earlier

end Supplied

/-- The identities of the newer tables come from the older ones or from the mutation. -/
structure Tables.SuppliedBy (mutation : GraphMutation) (older newer : Tables) : Prop where
  spaces : Supplied (·.id.uuid) mutation.memorySpaces older.spaces newer.spaces
  subjects : Supplied (·.id.uuid) mutation.memorySubjects older.subjects newer.subjects
  nodes : Supplied (·.id.uuid) mutation.nodes older.nodes.identity newer.nodes.identity
  claims : Supplied (·.id.uuid) mutation.claims older.claims.identity newer.claims.identity
  edges : Supplied (·.id.uuid) mutation.edges older.edges.identity newer.edges.identity
  conflicts : Supplied (·.id.uuid) mutation.conflicts older.conflicts.identity newer.conflicts.identity

theorem Tables.SuppliedBy.trans {mutation : GraphMutation} {first second third : Tables}
    (early : Tables.SuppliedBy mutation first second)
    (late : Tables.SuppliedBy mutation second third) : Tables.SuppliedBy mutation first third where
  spaces := early.spaces.trans late.spaces
  subjects := early.subjects.trans late.subjects
  nodes := early.nodes.trans late.nodes
  claims := early.claims.trans late.claims
  edges := early.edges.trans late.edges
  conflicts := early.conflicts.trans late.conflicts

theorem Tables.SuppliedBy.refl (mutation : GraphMutation) (tables : Tables) :
    Tables.SuppliedBy mutation tables tables :=
  ⟨.refl, .refl, .refl, .refl, .refl, .refl⟩

variable {mutation : GraphMutation}

def StagedRecord.Of (mutation : GraphMutation) : StagedRecord → Prop
  | .workspace value => value ∈ mutation.workspaces
  | .space value => value ∈ mutation.memorySpaces
  | .subject value => value ∈ mutation.memorySubjects
  | .node value => value ∈ mutation.nodes
  | .claim value => value ∈ mutation.claims
  | .edge value => value ∈ mutation.edges
  | .conflict value => value ∈ mutation.conflicts
  | .nodeRevision value => value ∈ mutation.nodeRevisions
  | .claimRevision value => value ∈ mutation.claimRevisions
  | .edgeRevision value => value ∈ mutation.edgeRevisions
  | .conflictRevision value => value ∈ mutation.conflictRevisions
  | .artifact value => value ∈ mutation.artifacts

theorem identityRecords_of (member : record ∈ mutation.identityRecords) : record.Of mutation := by
  simp only [GraphMutation.identityRecords, List.mem_append, List.mem_map] at member
  rcases member with ⟨_, listed, rfl⟩ | ⟨_, listed, rfl⟩ | ⟨_, listed, rfl⟩ | ⟨_, listed, rfl⟩ |
    ⟨_, listed, rfl⟩ | ⟨_, listed, rfl⟩ | ⟨_, listed, rfl⟩ <;> exact listed

theorem revisionRecords_of (member : record ∈ mutation.revisionRecords) : record.Of mutation := by
  simp only [GraphMutation.revisionRecords, List.mem_append, List.mem_map] at member
  rcases member with ⟨_, listed, rfl⟩ | ⟨_, listed, rfl⟩ | ⟨_, listed, rfl⟩ | ⟨_, listed, rfl⟩ | ⟨_, listed, rfl⟩ <;> exact listed

/-- A step adds only records of the mutation it is staged for. -/
theorem StageStep.suppliedBy {older : Tables} (held : Tables.SuppliedBy mutation older first.1)
    (belongs : record.Of mutation) (step : StageStep visibleFrom first record last) :
    Tables.SuppliedBy mutation older last.1 := by
  cases step with
  | workspace staged =>
    obtain ⟨_, _, rfl⟩ := stageWorkspace_ok staged
    exact { held with }
  | space staged =>
    obtain ⟨_, _, rfl⟩ := stageSpace_ok staged
    exact { held with spaces := held.spaces.insert belongs }
  | subject staged =>
    obtain ⟨_, _, rfl⟩ := stageSubject_ok staged
    exact { held with subjects := held.subjects.insert belongs }
  | node staged =>
    obtain ⟨_, _, _, _, _, _, rfl⟩ := stageNode_ok staged
    exact { held with nodes := held.nodes.insert belongs }
  | claim staged =>
    obtain ⟨_, _, rfl⟩ := stageClaim_ok staged
    exact { held with claims := held.claims.insert belongs }
  | edge staged =>
    obtain ⟨_, _, rfl⟩ := stageEdge_ok staged
    exact { held with edges := held.edges.insert belongs }
  | conflict staged =>
    obtain ⟨_, _, rfl⟩ := stageConflict_ok staged
    exact { held with conflicts := held.conflicts.insert belongs }
  | nodeRevision staged =>
    obtain ⟨_, _, _, rfl⟩ := stageNodeRevision_ok staged
    exact { held with }
  | claimRevision staged =>
    obtain ⟨_, _, _, rfl⟩ := stageClaimRevision_ok staged
    exact { held with }
  | edgeRevision staged =>
    obtain ⟨_, _, _, _, _, rfl⟩ := stageEdgeRevision_ok staged
    exact { held with }
  | conflictRevision staged =>
    obtain ⟨_, _, _, rfl⟩ := stageConflictRevision_ok staged
    exact { held with }
  | artifact staged =>
    obtain ⟨_, _, _, _, rfl⟩ := stageArtifact_ok staged
    exact { held with }

theorem Staging.suppliedBy (run : Staging visibleFrom first records last)
    (belong : ∀ record ∈ records, record.Of mutation) : Tables.SuppliedBy mutation first.1 last.1 :=
  run.preserves (fun state => Tables.SuppliedBy mutation first.1 state.1) (.refl _ _)
    fun _ _ _ member held step => step.suppliedBy held (belong _ member)

def GraphMutation.revisionsOnly (mutation : GraphMutation) : GraphMutation :=
  { GraphMutation.empty with
    nodeRevisions := mutation.nodeRevisions, claimRevisions := mutation.claimRevisions
    edgeRevisions := mutation.edgeRevisions, conflictRevisions := mutation.conflictRevisions
    artifacts := mutation.artifacts }

variable {semanticSeq : Nat} {publication : Option GraphPublication} {older final : Tables}

namespace Staged

section

variable (staged : Staged visibleFrom semanticSeq publication mutation older final)
include staged

theorem commits_grows : Tables.Grows staged.revised final := by
  obtain ⟨_, revised, _, _, _, _, rfl⟩ := staged
  exact { Tables.Grows.refl revised with }

theorem identified_grows : Tables.Grows staged.identified final :=
  staged.revisions.grows.trans staged.commits_grows

theorem grows : Tables.Grows older final :=
  staged.identities.grows.trans staged.identified_grows

theorem commits_suppliedBy {batch : GraphMutation} :
    Tables.SuppliedBy batch staged.revised final := by
  obtain ⟨_, revised, _, _, _, _, rfl⟩ := staged
  exact { Tables.SuppliedBy.refl batch revised with }

theorem identified_suppliedBy : Tables.SuppliedBy mutation.revisionsOnly staged.identified final :=
  (staged.revisions.suppliedBy fun record member => revisionRecords_of
    (show record ∈ mutation.revisionsOnly.revisionRecords from member)).trans
    staged.commits_suppliedBy

theorem suppliedBy : Tables.SuppliedBy mutation older final :=
  (staged.identities.suppliedBy fun _ member => identityRecords_of member).trans
    ((staged.revisions.suppliedBy fun _ member => revisionRecords_of member).trans staged.commits_suppliedBy)

end

end Staged

end

def Tables.holds (tables : Tables) (id : Uuid) : ObjectKind → Bool
  | .workspace => tables.workspaces.contains id
  | .memorySpace => tables.spaces.contains id
  | .memorySubject => tables.subjects.contains id
  | .node => tables.nodes.identity.contains id
  | .claim => tables.claims.identity.contains id
  | .edge => tables.edges.identity.contains id
  | .conflictSet => tables.conflicts.identity.contains id
  | .artifact => tables.artifacts.contains id

def Tables.Registered (tables : Tables) : Prop :=
  ∀ (id : Uuid) (kind : ObjectKind), tables.holds id kind = true →
    tables.objectKind[id]? = some kind

/-- One id never names objects of two kinds. -/
theorem Tables.Registered.kind_unique {tables : Tables} (registered : tables.Registered)
    {id : Uuid} {left right : ObjectKind} (holdsLeft : tables.holds id left = true)
    (holdsRight : tables.holds id right = true) : left = right :=
  Option.some.inj ((registered id left holdsLeft).symm.trans (registered id right holdsRight))

theorem Tables.Registered.insert {tables next : Tables} {added : Uuid} {kind : ObjectKind}
    (registered : tables.Registered) (vacant : tables.objectKind[added]? = none)
    (kinds : next.objectKind = tables.objectKind.insert added kind)
    (holds : ∀ id other, next.holds id other = true →
      (id = added ∧ other = kind) ∨ tables.holds id other = true) : next.Registered := by
  intro id other held
  rw [kinds]
  rcases holds id other held with ⟨rfl, rfl⟩ | known
  · exact getElem?_insert_self
  · have stored := registered id other known
    exact BTreeMap.Extends.insert vacant kind id other stored

theorem contains_insert_cases {Record : Type} {map : BTreeMap Uuid Record} {added id : Uuid}
    {record : Record} (held : (map.insert added record).contains id = true) : id = added ∨
      map.contains id = true := by
  rw [contains_insert, Bool.or_eq_true, beq_iff_eq] at held
  exact held.imp_left fun same => (LawfulEqCmp.eq_of_compare same).symm

theorem StageStep.registered (held : first.1.Registered)
    (step : StageStep visibleFrom first record last) : last.1.Registered := by
  cases step with
  | workspace staged =>
    obtain ⟨vacant, _, rfl⟩ := stageWorkspace_ok staged
    refine held.insert vacant rfl fun id kind holds => ?_
    cases kind with
    | workspace => exact (contains_insert_cases holds).imp_left fun same => ⟨same, rfl⟩
    | _ => exact .inr holds
  | space staged =>
    obtain ⟨vacant, _, rfl⟩ := stageSpace_ok staged
    refine held.insert vacant rfl fun id kind holds => ?_
    cases kind with
    | memorySpace => exact (contains_insert_cases holds).imp_left fun same => ⟨same, rfl⟩
    | _ => exact .inr holds
  | subject staged =>
    obtain ⟨vacant, _, rfl⟩ := stageSubject_ok staged
    refine held.insert vacant rfl fun id kind holds => ?_
    cases kind with
    | memorySubject => exact (contains_insert_cases holds).imp_left fun same => ⟨same, rfl⟩
    | _ => exact .inr holds
  | node staged =>
    obtain ⟨vacant, _, _, _, _, _, rfl⟩ := stageNode_ok staged
    refine held.insert vacant rfl fun id kind holds => ?_
    cases kind with
    | node => exact (contains_insert_cases holds).imp_left fun same => ⟨same, rfl⟩
    | _ => exact .inr holds
  | claim staged =>
    obtain ⟨vacant, _, rfl⟩ := stageClaim_ok staged
    refine held.insert vacant rfl fun id kind holds => ?_
    cases kind with
    | claim => exact (contains_insert_cases holds).imp_left fun same => ⟨same, rfl⟩
    | _ => exact .inr holds
  | edge staged =>
    obtain ⟨vacant, _, rfl⟩ := stageEdge_ok staged
    refine held.insert vacant rfl fun id kind holds => ?_
    cases kind with
    | edge => exact (contains_insert_cases holds).imp_left fun same => ⟨same, rfl⟩
    | _ => exact .inr holds
  | conflict staged =>
    obtain ⟨vacant, _, rfl⟩ := stageConflict_ok staged
    refine held.insert vacant rfl fun id kind holds => ?_
    cases kind with
    | conflictSet => exact (contains_insert_cases holds).imp_left fun same => ⟨same, rfl⟩
    | _ => exact .inr holds
  | nodeRevision staged =>
    obtain ⟨_, _, _, rfl⟩ := stageNodeRevision_ok staged
    exact held
  | claimRevision staged =>
    obtain ⟨_, _, _, rfl⟩ := stageClaimRevision_ok staged
    exact held
  | edgeRevision staged =>
    obtain ⟨_, _, _, _, _, rfl⟩ := stageEdgeRevision_ok staged
    exact held
  | conflictRevision staged =>
    obtain ⟨_, _, _, rfl⟩ := stageConflictRevision_ok staged
    exact held
  | artifact staged =>
    obtain ⟨_, vacant, _, _, rfl⟩ := stageArtifact_ok staged
    refine held.insert vacant rfl fun id kind holds => ?_
    cases kind with
    | artifact => exact (contains_insert_cases holds).imp_left fun same => ⟨same, rfl⟩
    | _ => exact .inr holds

/-- The dense identifiers are the numbers from one below the counter: every mapping has one,
every number is taken, and the inverse index agrees. Exactly the nodes are mapped. -/
structure Tables.Numbered (tables : Tables) (counter : Nat) : Prop where
  positive : 0 < counter
  mapped : ∀ (id : Uuid) (mapping : IdMapping), tables.dense.external[id]? = some mapping →
    mapping.externalId = id ∧ mapping.denseId.value < counter ∧
      tables.dense.dense[mapping.denseId.value]? = some id
  inverse : ∀ (number : Nat) (id : Uuid), tables.dense.dense[number]? = some id →
    ∃ mapping, tables.dense.external[id]? = some mapping ∧ mapping.denseId.value = number
  taken : ∀ (number : Nat), 0 < number → number < counter →
    ∃ id, tables.dense.dense[number]? = some id
  nodes : ∀ id, tables.dense.external.contains id = tables.nodes.identity.contains id

/-- The next dense id is larger than all those given out, so it is new. -/
theorem Tables.Numbered.map {tables : Tables} {counter : Nat} {id : Uuid} {denseId : DenseId}
    (numbered : tables.Numbered counter) (unmapped : tables.dense.external[id]? = none)
    (next : denseId.value = counter) (node : Node) : Tables.Numbered { tables.register id .node with
        nodes := tables.nodes.addIdentity id node, dense := tables.dense.map id denseId visibleFrom } (counter + 1) where
  positive := Nat.succ_pos counter
  mapped := by
    intro other mapping found
    by_cases same : id = other
    · subst same
      simp only [DenseIndex.map, ExtTreeMap.getElem?_insert_self, Option.some.injEq] at found ⊢
      subst found
      simp [next]
    · simp only [DenseIndex.map, BTreeMap.getElem?_insert_of_ne same] at found ⊢
      obtain ⟨named, below, indexed⟩ := numbered.mapped other mapping found
      refine ⟨named, by omega, ?_⟩
      rw [BTreeMap.getElem?_insert_of_ne (by omega), indexed]
  inverse := by
    intro number other found
    by_cases same : denseId.value = number
    · subst same
      simp only [DenseIndex.map, ExtTreeMap.getElem?_insert_self, Option.some.injEq] at found ⊢
      subst found
      simp
    · simp only [DenseIndex.map, BTreeMap.getElem?_insert_of_ne same] at found ⊢
      obtain ⟨mapping, stored, value⟩ := numbered.inverse number other found
      exact ⟨mapping, BTreeMap.Extends.insert unmapped _ _ _ stored, value⟩
  taken := by
    intro number low high
    by_cases same : denseId.value = number
    · subst same
      exact ⟨id, by simp [DenseIndex.map]⟩
    · obtain ⟨other, found⟩ := numbered.taken number low (by omega)
      exact ⟨other, by simp only [DenseIndex.map, BTreeMap.getElem?_insert_of_ne same, found]⟩
  nodes := by
    intro other
    simp only [DenseIndex.map, RevisionSpace.addIdentity, contains_insert, numbered.nodes other]

theorem StageStep.numbered (held : first.1.Numbered first.2)
    (step : StageStep visibleFrom first record last) : last.1.Numbered last.2 := by
  cases step with
  | workspace staged =>
    obtain ⟨_, _, rfl⟩ := stageWorkspace_ok staged
    exact { held with }
  | space staged =>
    obtain ⟨_, _, rfl⟩ := stageSpace_ok staged
    exact { held with }
  | subject staged =>
    obtain ⟨_, _, rfl⟩ := stageSubject_ok staged
    exact { held with }
  | node staged =>
    obtain ⟨_, _, unmapped, rfl, denseId, next, rfl⟩ := stageNode_ok staged
    exact held.map unmapped next _
  | claim staged =>
    obtain ⟨_, _, rfl⟩ := stageClaim_ok staged
    exact { held with }
  | edge staged =>
    obtain ⟨_, _, rfl⟩ := stageEdge_ok staged
    exact { held with }
  | conflict staged =>
    obtain ⟨_, _, rfl⟩ := stageConflict_ok staged
    exact { held with }
  | nodeRevision staged =>
    obtain ⟨_, _, _, rfl⟩ := stageNodeRevision_ok staged
    exact { held with }
  | claimRevision staged =>
    obtain ⟨_, _, _, rfl⟩ := stageClaimRevision_ok staged
    exact { held with }
  | edgeRevision staged =>
    obtain ⟨_, _, _, _, _, rfl⟩ := stageEdgeRevision_ok staged
    exact { held with }
  | conflictRevision staged =>
    obtain ⟨_, _, _, rfl⟩ := stageConflictRevision_ok staged
    exact { held with }
  | artifact staged =>
    obtain ⟨_, _, _, _, rfl⟩ := stageArtifact_ok staged
    exact { held with }

end ContextDb.Graph
