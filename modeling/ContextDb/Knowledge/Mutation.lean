import Mathlib.Data.List.Perm.Subperm
import ContextDb.Knowledge.Adapter

/-! The semantic mutation set built by one publication and its validation: unique creations,
one transaction interval per revision, acyclic lineage, and policies that no derived revision
of the batch broadens. The families the ledger never writes are left out. -/

set_option autoImplicit false

namespace ContextDb.Knowledge

open Std Lib ContextDb.Core List

inductive DerivedWorkItem
  | lexicalIndex (nodeIds : List NodeId) (claimIds : List ClaimId)
  | vectorize (nodes : List NodeId)
  | dirtyHierarchyRegion (roots : List NodeId)
  | invalidateSummaries (nodes : List NodeId)
  | consolidate (roots : List NodeId)
deriving DecidableEq

structure SemanticMutationSet where
  id : MutationId
  baseCommitSeq : Nat
  journalRefs : NonEmptyVec ObservationId
  observationAppends : List ObservationUnit
  nodeCreates : List Node
  nodeRevisions : List NodeRevision
  claimCreates : List Claim
  claimRevisions : List ClaimRevision
  conflictCreates : List ConflictSet
  conflictRevisions : List ConflictSetRevision
  derivedWork : List DerivedWorkItem

/-! ### Lineage -/

structure LineageEdge where
  (derived source : LineageNode)
deriving DecidableEq

structure LineageWalk where
  (visiting visited : List LineageNode)

/-- Depth-first search. A path longer than the number of nodes repeats one, so the fuel of
`validateLineage` is never what reports the cycle. -/
def visitLineage (edges : List LineageEdge) : Nat → LineageWalk → LineageNode →
    Except ValidationError LineageWalk
  | 0, _, _ => .error .lineageCycle
  | fuel + 1, walk, node =>
    if walk.visited.contains node then .ok walk
    else if walk.visiting.contains node then .error .lineageCycle
    else do
      let sources := (edges.filter (·.derived == node)).map (·.source)
      let walk ← sources.foldlM (visitLineage edges fuel)
        { walk with visiting := node :: walk.visiting }
      .ok ⟨walk.visiting.erase node, node :: walk.visited⟩

variable (edges : List LineageEdge)

def validateLineage : ValidationResult := do
  forM edges fun edge => do
    edge.derived.validate
    edge.source.validate
    ensure (edge.derived != edge.source) .selfSupportingLineage
  let nodes := edges.flatMap fun edge => [edge.derived, edge.source]
  let _ ← nodes.foldlM (visitLineage edges (nodes.length + 1)) ⟨[], []⟩
  .ok ()

/-! ### Validation of the batch -/

def CommitRange.overlaps (range other : CommitRange) : Bool :=
  other.finish.all (range.start < ·) && range.finish.all (other.start < ·)

/-- No two revisions of one item share their number or their transaction time. -/
def validateRevisionBatch {Item Key : Type} [Ord Key] [TransOrd Key] [DecidableEq Key]
    (revisions : List Item)
    (key : Item → Key) (revision : Item → RevisionNumber) (transactionTime : Item → CommitRange) :
    ValidationResult :=
  forM (.ofList (revisions.map key) : BTreeSet Key).toList fun group => do
    let items := revisions.filter (key · == group)
    ensure (decide (items.map revision).Nodup) .invalidRevisionSequence
    ensure (decide (items.Pairwise fun left right =>
        CommitRange.overlaps (transactionTime left) (transactionTime right) = false))
      .overlappingTransactionIntervals

def requireFirstRevisionForCreates {Item Key : Type} [DecidableEq Key] (creates : List Key)
    (revisions : List Item) (key : Item → Key) (revision : Item → RevisionNumber) :
    ValidationResult :=
  forM creates fun created =>
    ensure ((revisions.countP fun item => key item == created && revision item == .first) == 1)
      .invalidRevisionSequence

namespace SemanticMutationSet

variable (mutation : SemanticMutationSet)

def envelopedTargets : List (LineageNode × SemanticEnvelope) :=
  mutation.nodeRevisions.map (fun revision =>
      (.nodeRevision revision.nodeId revision.revision, revision.envelope)) ++
    mutation.claimRevisions.map (fun revision =>
      (.claimRevision revision.claimId revision.revision, revision.envelope)) ++
    mutation.conflictRevisions.map (fun revision =>
      (.conflictRevision revision.conflictSetId revision.revision, revision.envelope))

def lineageGraph : List LineageEdge :=
  mutation.envelopedTargets.flatMap fun (target, envelope) =>
    envelope.derivation.inputs.map fun source => ⟨target, source⟩

/-- An input revised in the same batch bounds what is derived from it; of two envelopes for
one target the later counts. -/
def validateInBatchPolicyPropagation : ValidationResult :=
  let targets := mutation.envelopedTargets
  forM targets fun (_, derived) =>
    forM derived.derivation.inputs fun input =>
      match targets.reverse.find? (·.1 == input) with
      | some (_, source) => derived.validateDerivedFrom source
      | none => .ok ()

def validate (mutation : SemanticMutationSet) : ValidationResult := do
  ensureDistinct mutation.journalRefs.toList "mutation.journal_refs"
  ensureDistinct (mutation.observationAppends.map (·.id)) "mutation.observation_appends"
  ensureDistinct (mutation.nodeCreates.map (·.id)) "mutation.node_creates"
  ensureDistinct (mutation.claimCreates.map (·.id)) "mutation.claim_creates"
  ensureDistinct (mutation.conflictCreates.map (·.id)) "mutation.conflict_creates"
  forM mutation.observationAppends ObservationUnit.validate
  forM mutation.nodeCreates Node.validate
  forM mutation.nodeRevisions NodeRevision.validate
  forM mutation.claimRevisions ClaimRevision.validate
  forM mutation.conflictCreates ConflictSet.validate
  forM mutation.conflictRevisions ConflictSetRevision.validate
  validateRevisionBatch mutation.nodeRevisions (·.nodeId) (·.revision) (·.transactionTime)
  validateRevisionBatch mutation.claimRevisions (·.claimId) (·.revision) (·.transactionTime)
  validateRevisionBatch mutation.conflictRevisions (·.conflictSetId) (·.revision)
    (·.transactionTime)
  requireFirstRevisionForCreates (mutation.nodeCreates.map (·.id)) mutation.nodeRevisions (·.nodeId)
    (·.revision)
  requireFirstRevisionForCreates (mutation.claimCreates.map (·.id)) mutation.claimRevisions
    (·.claimId) (·.revision)
  requireFirstRevisionForCreates (mutation.conflictCreates.map (·.id)) mutation.conflictRevisions
    (·.conflictSetId) (·.revision)
  validateLineage mutation.lineageGraph
  mutation.validateInBatchPolicyPropagation

end SemanticMutationSet

structure MutationBuilder where
  transaction : SemanticMutationSet
  workspace : WorkspaceId
  dirtyNodes : BTreeSet NodeId
  dirtyClaims : BTreeSet ClaimId

def MutationBuilder.new (library : Library) (workspace : WorkspaceId) (baseCommitSeq : Nat)
    (observation : ObservationId) : MutationBuilder :=
  { transaction :=
      { id := mutationIdOf library observation
        baseCommitSeq, journalRefs := ⟨[observation],
          cons_ne_nil _ _⟩, observationAppends := [], nodeCreates := []
        nodeRevisions := [], claimCreates := [], claimRevisions := [], conflictCreates := [], conflictRevisions := [], derivedWork := [] }
    workspace, dirtyNodes := ∅, dirtyClaims := ∅ }

def MutationBuilder.addWork (builder : MutationBuilder) : MutationBuilder :=
  if builder.dirtyNodes.isEmpty && builder.dirtyClaims.isEmpty then builder
  else
    let nodes := builder.dirtyNodes.toList
    { builder with
      transaction := { builder.transaction with
        derivedWork := [.lexicalIndex nodes builder.dirtyClaims.toList, .vectorize nodes,
          .dirtyHierarchyRegion nodes, .invalidateSummaries nodes, .consolidate nodes] } }

/-! ### Exactness of the lineage check

A visited node is grounded. The nodes being visited are distinct and lead to the current one,
so without a cycle the search neither meets one of them again nor runs out. -/

def Derives (derived source : LineageNode) : Prop :=
  ⟨derived, source⟩ ∈ edges

def Acyclic : Prop :=
  ∀ node, ¬ Relation.TransGen (Derives edges) node node

/-- Every chain of derivations from the node ends. -/
def Grounded : LineageNode → Prop :=
  Acc fun source derived => Derives edges derived source

variable {edges : List LineageEdge} {fuel : Nat} {walk next : LineageWalk}
  {node source : LineageNode} {nodes : List LineageNode}

theorem mem_sources : source ∈ (edges.filter (·.derived == node)).map (·.source) ↔
    Derives edges node source := by
  simp only [mem_map, mem_filter, beq_iff_eq, Derives]
  constructor
  · rintro ⟨edge, ⟨listed, rfl⟩, rfl⟩
    exact listed
  · intro listed
    exact ⟨_, ⟨listed, rfl⟩, rfl⟩

theorem Grounded.not_cyclic (grounded : Grounded edges node) :
    ¬ Relation.TransGen (Derives edges) node node := by
  induction grounded with
  | intro node _ ih =>
    intro cycle
    obtain ⟨source, step, back⟩ := Relation.TransGen.head'_iff.mp cycle
    exact ih source step (.tail' back step)

structure Visits (edges : List LineageEdge) (walk : LineageWalk) (nodes : List LineageNode)
    (next : LineageWalk) : Prop where
  kept : walk.visited ⊆ next.visited
  visited : nodes ⊆ next.visited
  grounded : (∀ node ∈ walk.visited, Grounded edges node) →
    ∀ node ∈ next.visited, Grounded edges node

theorem visits_foldlM {visit : LineageWalk → LineageNode → Except ValidationError LineageWalk}
    (visits : ∀ {walk next node}, visit walk node = .ok next → Visits edges walk [node] next)
    (success : nodes.foldlM visit walk = .ok next) : Visits edges walk nodes next where
  kept := foldlM_preserves success (walk.visited ⊆ ·.visited) (fun _ => id)
    fun _ _ _ _ held visit _ seen => (visits visit).kept (held seen)
  visited node listed := foldlM_reaches success listed (node ∈ ·.visited)
    (fun _ _ visit => (visits visit).visited mem_cons_self)
    fun _ _ _ seen visit => (visits visit).kept seen
  grounded held := foldlM_preserves success (∀ node ∈ ·.visited, Grounded edges node) held
    fun _ _ _ _ held visit => (visits visit).grounded held

theorem visitLineage_visits (success : visitLineage edges fuel walk node = .ok next) :
    Visits edges walk [node] next := by
  induction fuel generalizing walk node next with
  | zero => cases success
  | succ fuel ih =>
    rw [visitLineage] at success
    split at success
    · next seen =>
      cases success
      exact ⟨fun _ => id, by simpa using seen, id⟩
    · split at success
      · cases success
      · obtain ⟨below, sources, success⟩ := bind_ok success
        cases success
        have visits := visits_foldlM ih sources
        refine ⟨fun _ seen => mem_cons_of_mem _ (visits.kept seen), by simp, ?_⟩
        intro held seen listed
        rcases mem_cons.mp listed with rfl | earlier
        · exact .intro _ fun source step => visits.grounded held source
            (visits.visited (mem_sources.mpr step))
        · exact visits.grounded held seen earlier

structure LineageWalk.LeadsTo (walk : LineageWalk) (edges : List LineageEdge)
    (nodes : List LineageNode) (node : LineageNode) : Prop where
  listed : node ∈ nodes
  distinct : walk.visiting.Nodup
  known : walk.visiting ⊆ nodes
  above : ∀ outer ∈ walk.visiting, Relation.TransGen (Derives edges) outer node

theorem visitLineage_ok (acyclic : Acyclic edges) (closed : ∀ edge ∈ edges, edge.source ∈ nodes)
    (leads : walk.LeadsTo edges nodes node) (enough : nodes.length < fuel + walk.visiting.length) :
    ∃ next, visitLineage edges fuel walk node = .ok next ∧ next.visiting = walk.visiting := by
  induction fuel generalizing walk node with
  | zero =>
    have few := (subperm_of_subset leads.distinct leads.known).length_le
    omega
  | succ fuel ih =>
    have fresh : node ∉ walk.visiting := fun outer => acyclic node (leads.above node outer)
    rw [visitLineage]
    split
    · exact ⟨walk, rfl, rfl⟩
    · rw [if_neg (by simpa using fresh)]
      have visits : ∃ below, ((edges.filter (·.derived == node)).map (·.source)).foldlM
          (visitLineage edges fuel) { walk with visiting := node :: walk.visiting } = .ok below ∧
          below.visiting = node :: walk.visiting := by
        refine foldlM_ok (LineageWalk.visiting · = _) rfl fun inner same source listed => ?_
        have step := mem_sources.mp listed
        rw [← same]
        refine ih ⟨closed _ step, ?_, ?_, ?_⟩ ?_
        · exact same ▸ nodup_cons.mpr ⟨fresh, leads.distinct⟩
        · exact same ▸ cons_subset.mpr ⟨leads.listed, leads.known⟩
        · rw [same]
          intro outer member
          rcases mem_cons.mp member with rfl | earlier
          · exact .single step
          · exact (leads.above outer earlier).tail step
        · rw [same, length_cons]
          omega
      obtain ⟨below, visits, kept⟩ := visits
      refine ⟨⟨below.visiting.erase node, node :: below.visited⟩, ?_, by simp [kept]⟩
      simp only [visits, ok_bind]

theorem validateLineage_ok_iff (valid : ∀ edge ∈ edges, edge.derived.validate = .ok () ∧
    edge.source.validate = .ok ()) :
    validateLineage edges = .ok () ↔ Acyclic edges := by
  have listed : ∀ edge ∈ edges, ∀ node ∈
    [edge.derived, edge.source], node ∈ edges.flatMap fun edge => [edge.derived, edge.source] :=
    fun edge member node named => mem_flatMap.mpr ⟨edge, member, named⟩
  constructor
  · intro success node cycle
    have success := rest_ok success
    obtain ⟨final, visited, _⟩ := bind_ok success
    have visits := visits_foldlM visitLineage_visits visited
    obtain ⟨source, step, _⟩ := Relation.TransGen.head'_iff.mp cycle
    exact (visits.grounded (by simp) node (visits.visited
      (listed _ step node (by simp)))).not_cyclic cycle
  · intro acyclic
    refine bind_ok_iff.mpr ⟨(), forM_ok_iff.mpr fun edge member => ?_, bind_ok_iff.mpr ?_⟩
    · have apart : edge.derived ≠ edge.source := by
        intro same
        have loop : Derives edges edge.derived edge.source := member
        exact acyclic edge.derived (.single (same ▸ loop))
      rw [(valid edge member).1, (valid edge member).2, ok_bind, ok_bind, ensure_ok_iff]
      simpa using apart
    · refine Exists.imp (fun _ visited => ⟨visited.1, rfl⟩)
        (foldlM_ok (fun walk : LineageWalk => walk.visiting = [])
          (by rfl) fun walk idle node member => ?_)
      rw [← idle]
      exact visitLineage_ok acyclic (fun edge member => listed edge member _ (by simp))
        ⟨member, by simp [idle], by simp [idle], by simp [idle]⟩ (by simp [idle])

/-- On valid nodes the check accepts exactly the graphs without a cycle, so the order of the
edges and their repetitions do not matter. -/
theorem lineage_check_exact (edges : List LineageEdge)
    (valid : ∀ edge ∈ edges, edge.derived.validate = .ok () ∧ edge.source.validate = .ok ()) :
    (validateLineage edges = .ok () ↔ Acyclic edges) ∧
    ∀ other : List LineageEdge, (∀ edge, edge ∈ other ↔ edge ∈ edges) →
      (validateLineage other = .ok () ↔ validateLineage edges = .ok ()) := by
  refine ⟨validateLineage_ok_iff valid, fun other same => ?_⟩
  have relation : Derives other = Derives edges := by
    funext derived source
    exact propext (same _)
  rw [validateLineage_ok_iff valid,
    validateLineage_ok_iff fun edge member => valid edge
      ((same edge).mp member), Acyclic, Acyclic, relation]

/-- A summary of two artifacts that rest on one piece of evidence, with one edge repeated. -/
def sharedEvidence : List LineageEdge :=
  let summary := LineageNode.summary (.numbered 1)
  let evidence := LineageNode.evidence (.numbered 2)
  let first := LineageNode.artifact (.numbered 3)
  let second := LineageNode.artifact (.numbered 4)
  [⟨summary, first⟩, ⟨first, evidence⟩, ⟨summary, second⟩, ⟨second, evidence⟩, ⟨first, evidence⟩]

/-- Evidence that is reached on two paths is no cycle, in whatever order the edges come. -/
theorem lineage_check_exact_shared : Acyclic sharedEvidence ∧
    validateLineage sharedEvidence.reverse = .ok () := by
  have exact := lineage_check_exact sharedEvidence (by simp [sharedEvidence, LineageNode.validate])
  have accepted : validateLineage sharedEvidence = .ok () := by decide +kernel
  exact ⟨exact.1.mp accepted, (exact.2 _ fun edge => mem_reverse).mpr accepted⟩

end ContextDb.Knowledge
