import ContextDb.Reference.Traverse
import ContextDb.Reference.WorkspaceView

/-! Reads of a workspace at the latest snapshot depend only on its view, so operations
of other workspaces that leave the view alone cannot be noticed by them. -/

set_option autoImplicit false

namespace ContextDb.Reference

open Lib Std ContextDb.Core List Option State ExtTreeSet

variable {codec : Codec} {state later : State} {workspace id : LogicalId} {principal : Principal}

structure IndexFacts (state : State) (indexes : SecurityIndexes) : Prop where
  candidates : ∀ (workspace : LogicalId) (ids : BTreeSet LogicalId),
    indexes.historiesByWorkspace[workspace]? = some ids →
      ∀ id ∈ ids, (state.histories[id]?).isSome = true
  positions : ∀ (workspace : LogicalId) (positions : List Nat),
    indexes.journalByWorkspace[workspace]? = some positions →
      ∀ position ∈ positions, position < state.journal.length
  events : ∀ (workspace : LogicalId) (entries : List WorkspaceEventIndexEntry),
    indexes.eventsByWorkspace[workspace]? = some entries →
      ∀ entry ∈ entries, entry.journalIndex < state.journal.length

theorem indexFacts_start : IndexFacts state { SecurityIndexes.default with
        historiesByWorkspace := state.histories.toList.foldl (indexHistory state) ∅
        observationsByWorkspace := state.observations.toList.foldl
          (indexObservation state) ∅ } := by
  refine ⟨?_, by simp [SecurityIndexes.default], by simp [SecurityIndexes.default]⟩
  let known (index : BTreeMap LogicalId (BTreeSet LogicalId)) : Prop :=
    ∀ (workspace : LogicalId) (ids : BTreeSet LogicalId), index[workspace]? = some ids →
      ∀ id ∈ ids, (state.histories[id]?).isSome = true
  have fold : ∀ (entries : List (LogicalId × List StoredRevision))
    (index : BTreeMap LogicalId (BTreeSet LogicalId)),
      (∀ entry ∈ entries, state.histories[entry.1]? = some entry.2) → known index →
        known (entries.foldl (indexHistory state) index) := by
    intro entries
    induction entries with
    | nil => exact fun index _ held => held
    | cons entry rest ih =>
      intro index stored held
      rw [foldl_cons]
      refine ih _ (fun entry member => stored entry (mem_cons_of_mem _ member)) ?_
      rw [indexHistory]
      split
      · exact held
      · split
        · exact held
        · intro workspace ids found id member
          rw [BTreeMap.getElem?_updateEntry] at found
          split at found
          · cases found
            rw [ExtTreeSet.mem_insert] at member
            rcases member with same | earlier
            · rw [← Std.compare_eq_iff_eq.mp same, stored entry mem_cons_self]
              rfl
            · rename_i owner
              cases present : index[workspace]? with
              | none => rw [owner, present] at earlier; simp at earlier
              | some ids => rw [owner, present] at earlier; exact held workspace ids present id earlier
          · exact held workspace ids found id member
  exact fold _ ∅ (fun entry member => ExtTreeMap.mem_toList_iff_getElem?_eq_some.mp member)
    (by simp [known])

theorem IndexFacts.addPublication {indexes : SecurityIndexes} {position : Nat}
    {entry : LogicalId × List (Nat × WorkspaceEventCandidateKind)}
    (facts : IndexFacts state indexes)
    (bounded : position < state.journal.length) : IndexFacts state
    (indexes.addPublication position entry) where
  candidates := facts.candidates
  positions := by
    intro workspace positions found listed member
    change (indexes.journalByWorkspace.insert entry.1 _)[workspace]? = some positions at found
    rw [ExtTreeMap.getElem?_insert] at found
    split at found
    · cases found
      rcases mem_append.mp member with earlier | new
      · cases present : indexes.journalByWorkspace[entry.1]? with
        | none => rw [present] at earlier; cases earlier
        | some positions =>
          rw [present] at earlier
          exact facts.positions entry.1 positions present listed earlier
      · rwa [mem_singleton.mp new]
    · exact facts.positions workspace positions found listed member
  events := by
    intro workspace entries found listed member
    change (indexes.eventsByWorkspace.insert entry.1 _)[workspace]? = some entries at found
    rw [ExtTreeMap.getElem?_insert] at found
    split at found
    · cases found
      rcases mem_append.mp member with earlier | new
      · cases present : indexes.eventsByWorkspace[entry.1]? with
        | none => rw [present] at earlier; cases earlier
        | some entries =>
          rw [present] at earlier
          exact facts.events entry.1 entries present listed earlier
      · obtain ⟨candidate, _, rfl⟩ := mem_map.mp new
        exact bounded
    · exact facts.events workspace entries found listed member

/-- The indexes of a sound state list only stored records and positions of its journal. -/
theorem Sound.indexFacts (sound : Sound codec state) : IndexFacts state state.securityIndexes := by
  refine foldlM_preserves sound.indexes (IndexFacts state) indexFacts_start ?_
  intro indexes entry next listed facts step
  obtain ⟨workspaces, _, step⟩ := bind_ok step
  cases step
  have bounded : entry.2 < state.journal.length := by
    obtain ⟨_, bound, _⟩ := mem_zipIdx listed
    omega
  have fold : ∀ (entries : List (LogicalId × List (Nat × WorkspaceEventCandidateKind)))
      (indexes : SecurityIndexes), IndexFacts state indexes →
        IndexFacts state (entries.foldl (·.addPublication entry.2) indexes) := by
    intro entries
    induction entries with
    | nil => exact fun _ facts => facts
    | cons first rest ih => exact fun indexes facts => ih _ (facts.addPublication bounded)
  exact fold _ indexes facts

section

def State.authorizedView (state : State) (principal : Principal) (id : LogicalId) :
    Option StoredRevision :=
  ((state.visibleIn state.head principal.workspace id).map (·.1)).filter fun revision =>
    revision.record.lifecycle = .active && principal.allows revision.record.access

theorem authorizedView_eq : state.authorizedView principal id = if state.deleted id then none
      else (state.lookup id state.head).filter fun revision =>
        revision.record.lifecycle = .active && principal.allows revision.record.access := by
  rw [authorizedView, visibleIn]
  split
  · rfl
  · cases state.lookup id state.head with
    | none => rfl
    | some revision =>
      cases allowed : principal.allows revision.record.access with
      | true => simp [filter_some, allowed, Principal.allows_workspace allowed]
      | false =>
        simp only [filter_some, allowed, Bool.and_false, Bool.false_eq_true, ↓reduceIte]
        split <;> simp [allowed]

theorem currentAuthorizedMetadata_eq : currentAuthorizedMetadata state id state.head principal =
    state.authorizedView principal id := by
  rw [authorizedView_eq, currentAuthorizedMetadata, currentUsePolicyAllows]
  cases state.deleted id with
  | true => rfl
  | false =>
    cases state.lookup id state.head with
    | none => simp
    | some revision =>
      cases principal.allows revision.record.access <;>
        cases lifecycle : revision.record.lifecycle <;> simp [filter_some, lifecycle]

theorem authorizedCandidate_eq (stored : (state.histories[id]?).isSome = true) :
    authorizedCandidate state state.head principal id = .ok
      (state.authorizedView principal id) := by
  obtain ⟨history, found⟩ := isSome_iff_exists.mp stored
  rw [authorizedView_eq, State.lookup, found, Option.bind_some]
  simp only [authorizedCandidate, found, required, currentUsePolicyAllows, State.lookup, bind_some,
    bind, Except.bind, pure, Except.pure]
  cases state.deleted id with
  | true => rfl
  | false =>
    cases current : revisionAt history state.head with
    | none => rfl
    | some revision =>
      cases principal.allows revision.record.access <;>
        cases lifecycle : revision.record.lifecycle <;> simp [filter_some, lifecycle]

variable (same : SameWorkspace principal.workspace state later)
include same

theorem SameWorkspace.authorizedView_eq : later.authorizedView principal id =
    state.authorizedView principal id := by
  rw [authorizedView, authorizedView, same.view]

theorem SameWorkspace.contentForRevision_eq {revision : StoredRevision}
    (found : state.authorizedView principal id = some revision) :
    contentForRevision codec later revision = contentForRevision codec state revision := by
  obtain ⟨shown, _⟩ := filter_eq_some_iff.mp found
  obtain ⟨⟨shownRevision, value⟩, seen, sameRevision⟩ := map_eq_some_iff.mp shown
  obtain rfl : shownRevision = revision := sameRevision
  have stored : ∀ state : State, state.visibleIn state.head principal.workspace id =
      some (shownRevision, value) → state.contents[shownRevision.content.id]? = value := by
    intro state seen
    rw [visibleIn] at seen
    split at seen
    · cases seen
    · obtain ⟨_, _, pair⟩ := map_eq_some_iff.mp seen
      cases pair
      rfl
  have before := stored state seen
  have after := stored later (by rw [same.view, seen])
  simp only [contentForRevision, before, after]

end

section

variable (sound : Sound codec state) (soundLater : Sound codec later)
    (same : SameWorkspace workspace state later)
include sound soundLater same

theorem SameWorkspace.head_le : state.head ≤ later.head := by
  obtain ⟨added, journal⟩ := same.journal
  rw [← sound.length, ← soundLater.length, journal, length_append]
  omega

/-- The counts of publications ignore what other workspaces have published since. -/
theorem SameWorkspace.countPublications_eq {positions : List Nat}
    (bounded : ∀ position ∈ positions, position < state.journal.length) (watermarks : Watermarks) :
    countPublications later.journal later.head watermarks positions =
      countPublications state.journal state.head watermarks positions := by
  induction positions generalizing watermarks with
  | nil => rfl
  | cons position rest ih =>
    have ordered := same.head_le sound soundLater
    obtain ⟨added, journal⟩ := same.journal
    have within := bounded position mem_cons_self
    have entry : later.journal[position]? = state.journal[position]? := by
      rw [journal, getElem?_append_left within]
    rw [countPublications, countPublications, entry]
    cases found : state.journal[position]? with
    | none => rfl
    | some record =>
      have settled := (sound.requests record (mem_of_getElem? found)).1
      simp only [Nat.not_lt.mpr settled, Nat.not_lt.mpr (settled.trans ordered), ↓reduceIte]
      rw [ih fun position member => bounded position (mem_cons_of_mem _ member),
        ih fun position member => bounded position (mem_cons_of_mem _ member)]

theorem SameWorkspace.trace_eq (operation : String) (authorized : Nat) (selected : List LogicalId) :
    trace later later.head workspace operation authorized selected =
      trace state state.head workspace operation authorized selected := by
  have watermarks : workspaceWatermarksAt later workspace later.head =
    workspaceWatermarksAt state workspace state.head := by
    rw [workspaceWatermarksAt, workspaceWatermarksAt, same.journalIndex]
    cases present : state.securityIndexes.journalByWorkspace[workspace]? with
    | none => rfl
    | some positions =>
      exact same.countPublications_eq sound soundLater
        (sound.indexFacts.positions workspace positions present) _
  rw [trace, trace, watermarks]

omit soundLater in
theorem SameWorkspace.workspaceEventPage_eq (afterWorkspaceSeq afterOrdinal limit : Nat) :
    workspaceEventPage later workspace afterWorkspaceSeq afterOrdinal limit =
      workspaceEventPage state workspace afterWorkspaceSeq afterOrdinal limit := by
  have length : workspaceJournalLen later workspace = workspaceJournalLen state workspace := by
    rw [workspaceJournalLen, workspaceJournalLen, same.journalIndex]
  have indexed : ∀ entry ∈ state.securityIndexes.eventsByWorkspace[workspace]?.getD [],
      eventCandidate later entry = eventCandidate state entry := by
    intro entry listed
    have within : entry.journalIndex < state.journal.length := by
      cases present : state.securityIndexes.eventsByWorkspace[workspace]? with
      | none => rw [present] at listed; cases listed
      | some entries =>
        rw [present] at listed
        exact sound.indexFacts.events workspace entries present entry listed
    obtain ⟨added, journal⟩ := same.journal
    rw [eventCandidate, eventCandidate, journal, getElem?_append_left within]
  have page : ∀ start finish : Nat,
      (((state.securityIndexes.eventsByWorkspace[workspace]?.getD []).take finish).drop start).mapM
      (eventCandidate later) =
        (((state.securityIndexes.eventsByWorkspace[workspace]?.getD
          []).take finish).drop start).mapM (eventCandidate state) := by
    intro start finish
    refine mapM_congr fun entry member => indexed entry ?_
    exact mem_of_mem_take (mem_of_mem_drop member)
  simp only [workspaceEventPage, length, same.eventIndex, page]

end

section

variable (sound : Sound codec state) (soundLater : Sound codec later)
  (same : SameWorkspace principal.workspace state later)
include sound soundLater same

theorem SameWorkspace.candidate_eq
    (listed : id ∈ (workspaceCandidates state principal.workspace).elim [] (·.toList)) :
    authorizedCandidate state state.head principal id = .ok (state.authorizedView principal id) ∧
      authorizedCandidate later later.head principal id = .ok
        (state.authorizedView principal id) := by
  cases present : workspaceCandidates state principal.workspace with
  | none => rw [present] at listed; cases listed
  | some ids =>
    rw [present] at listed
    have member : id ∈ ids := mem_toList.mp listed
    rw [← same.authorizedView_eq]
    constructor
    · rw [authorizedCandidate_eq (sound.indexFacts.candidates _ ids present id member),
        same.authorizedView_eq]
    · exact authorizedCandidate_eq (soundLater.indexFacts.candidates _ ids
        (same.candidates.trans present) id member)

omit sound soundLater same in
theorem validateSnapshotHandle_snapshot : validateSnapshotHandle state (snapshot state) = .ok
    () := by
  simp [validateSnapshotHandle, validateSnapshot, snapshot, snapshotFor, ensure, ok_bind]

theorem SameWorkspace.scanKind_eq (kind : RecordKind) : scanKind codec later kind
    (snapshot later) principal =
      scanKind codec state kind (snapshot state) principal := by
  have scans : ∀ id ∈ (workspaceCandidates state principal.workspace).elim [] (·.toList), ∀ records,
      scanCandidate codec later kind later.head principal records id =
        scanCandidate codec state kind state.head principal records id := by
    intro id listed records
    obtain ⟨before, after⟩ := same.candidate_eq sound soundLater listed
    rw [scanCandidate, scanCandidate, before, after]
    cases found : state.authorizedView principal id with
    | none => rfl
    | some revision =>
      simp only [ok_bind, materializeRevision, same.contentForRevision_eq found]
  have candidates : workspaceCandidates later principal.workspace =
    workspaceCandidates state principal.workspace := same.candidates
  simp only [scanKind, validateSnapshotHandle_snapshot, ok_bind, candidates]
  simp only [snapshot, snapshotFor, foldlM_congr scans, same.trace_eq sound soundLater]

/-- Both searches of the source are this one with their own score. -/
theorem SameWorkspace.exactSearch_eq (operation : String) (score : RecordContent → Option F32)
    (limit : Nat) :
    exactSearch codec later operation score limit (snapshot later) principal =
      exactSearch codec state operation score limit (snapshot state) principal := by
  have scores : ∀ id ∈ (workspaceCandidates state principal.workspace).elim [] (·.toList),
      ∀ progress, scoreCandidate codec later later.head principal score progress id =
        scoreCandidate codec state state.head principal score progress id := by
    intro id listed progress
    obtain ⟨before, after⟩ := same.candidate_eq sound soundLater listed
    rw [scoreCandidate, scoreCandidate, before, after]
    cases found : state.authorizedView principal id with
    | none => rfl
    | some revision => simp only [ok_bind, same.contentForRevision_eq found]
  have candidates : workspaceCandidates later principal.workspace =
    workspaceCandidates state principal.workspace := same.candidates
  simp only [exactSearch, candidates, snapshot, snapshotFor, foldlM_congr scores,
    same.trace_eq sound soundLater]

theorem SameWorkspace.lexicalSearch_eq (scoring : Scoring) (query : String) (limit : Nat) :
    lexicalSearch codec scoring later query limit (snapshot later) principal =
      lexicalSearch codec scoring state query limit (snapshot state) principal := by
  have empty : emptySearch later "exact_lexical" (snapshot later) principal =
      emptySearch state "exact_lexical" (snapshot state) principal := by
    simp only [emptySearch, snapshot, snapshotFor, same.trace_eq sound soundLater]
  simp only [lexicalSearch, validateSnapshotHandle_snapshot, ok_bind, empty,
    same.exactSearch_eq sound soundLater]

theorem SameWorkspace.vectorSearch_eq (scoring : Scoring) (query : List F32) (limit : Nat) :
    vectorSearch codec scoring later query limit (snapshot later) principal =
      vectorSearch codec scoring state query limit (snapshot state) principal := by
  have empty : emptySearch later "exact_vector" (snapshot later) principal =
      emptySearch state "exact_vector" (snapshot state) principal := by
    simp only [emptySearch, snapshot, snapshotFor, same.trace_eq sound soundLater]
  simp only [vectorSearch, validateSnapshotHandle_snapshot, ok_bind, empty,
    same.exactSearch_eq sound soundLater]

variable {before after : Traversal}

theorem SameWorkspace.scanEdge_eq (caller : before.principal = principal)
    (atHead : before.commitSeq = state.head)
    (moved : after = { before with commitSeq := later.head })
    (node : LogicalId) (listed : id ∈ (workspaceCandidates state principal.workspace).elim []
      (·.toList))
    (progress : ScanCounters × BTreeSet LogicalId) : scanEdge later after node progress id =
      scanEdge state before node progress id := by
  subst moved
  subst caller
  obtain ⟨first, second⟩ := same.candidate_eq sound soundLater listed
  have metadata : ∀ neighbour, currentAuthorizedMetadata later neighbour later.head before.principal =
        currentAuthorizedMetadata state neighbour state.head before.principal := by
    intro neighbour
    rw [currentAuthorizedMetadata_eq, currentAuthorizedMetadata_eq, same.authorizedView_eq]
  simp only [scanEdge, edgeNeighbour, atHead, first, second, ok_bind, metadata]

/-- The traversal meets the same edges in the same order; the induction is on its fuel. -/
theorem SameWorkspace.traverseLoop_eq (caller : before.principal = principal)
    (atHead : before.commitSeq = state.head)
    (moved : after = { before with commitSeq := later.head }) (fuel : Nat) (counters : ScanCounters)
    (frontier : Frontier) :
    traverseLoop later after ((workspaceCandidates state principal.workspace).elim []
      (·.toList)) fuel counters frontier =
      traverseLoop state before ((workspaceCandidates state principal.workspace).elim []
        (·.toList)) fuel counters frontier := by
  have hops : after.maxHops = before.maxHops := by rw [moved]
  have nodes : after.maxNodes = before.maxNodes := by rw [moved]
  induction fuel generalizing counters frontier with
  | zero => rfl
  | succ fuel ih =>
    have scans : ∀ node initial, ((workspaceCandidates state principal.workspace).elim []
      (·.toList)).foldlM
            (scanEdge later after node) initial =
            ((workspaceCandidates state principal.workspace).elim [] (·.toList)).foldlM
            (scanEdge state before node) initial :=
      fun node => foldlM_congr fun id listed progress =>
        same.scanEdge_eq sound soundLater caller atHead moved node listed progress
    simp only [traverseLoop, hops, nodes, ih, scans]

theorem SameWorkspace.traverse_eq (start : List LogicalId) (direction : Direction)
    (predicates : BTreeSet LogicalId) (maxHops maxNodes : Nat) :
    traverse later start direction predicates maxHops maxNodes (snapshot later) principal =
      traverse state start direction predicates maxHops maxNodes (snapshot state) principal := by
  have candidates : workspaceCandidates later principal.workspace =
    workspaceCandidates state principal.workspace := same.candidates
  have starts : checkStart later ⟨direction, predicates, maxHops, maxNodes, later.head, principal⟩ =
      checkStart state ⟨direction, predicates, maxHops, maxNodes, state.head, principal⟩ := by
    funext id
    simp only [checkStart, currentAuthorizedMetadata_eq, same.authorizedView_eq]
  have loops : ∀ fuel counters frontier, traverseLoop later
    ⟨direction, predicates, maxHops, maxNodes, later.head, principal⟩
          ((workspaceCandidates state principal.workspace).elim []
            (·.toList)) fuel counters frontier =
        traverseLoop state ⟨direction, predicates, maxHops, maxNodes, state.head, principal⟩
          ((workspaceCandidates state principal.workspace).elim []
            (·.toList)) fuel counters frontier :=
    same.traverseLoop_eq sound soundLater rfl rfl rfl
  simp only [traverse, validateSnapshotHandle_snapshot, ok_bind, candidates]
  simp only [snapshot, snapshotFor, starts, loops, traverseTrace, same.trace_eq sound soundLater]

end

/-- Operations of other workspaces whose deletions stay outside cannot be noticed by any
read of the workspace at the latest snapshot. -/
theorem workspace_reads_unaffected (reachable : ReachableBy codec anyOperation state)
    {operations : List Operation}
    (run : Runs (Operation.Executes codec fun state operation =>
      operation.Avoids principal.workspace state ∧
        operation.CascadesOutside principal.workspace state) state operations later)
          (scoring : Scoring) :
    (∀ kind, scanKind codec later kind (snapshot later) principal =
      scanKind codec state kind (snapshot state) principal) ∧
    (∀ query limit, lexicalSearch codec scoring later query limit (snapshot later) principal =
      lexicalSearch codec scoring state query limit (snapshot state) principal) ∧
    (∀ query limit, vectorSearch codec scoring later query limit (snapshot later) principal =
      vectorSearch codec scoring state query limit (snapshot state) principal) ∧
    (∀ start direction predicates maxHops maxNodes,
      traverse later start direction predicates maxHops maxNodes (snapshot later) principal =
        traverse state start direction predicates maxHops maxNodes (snapshot state) principal) ∧
    (∀ afterWorkspaceSeq afterOrdinal limit,
      workspaceEventPage later principal.workspace afterWorkspaceSeq afterOrdinal limit =
        workspaceEventPage state principal.workspace afterWorkspaceSeq afterOrdinal limit) := by
  have sound := reachable_sound reachable
  have same := runs_sameWorkspace sound run
  have soundLater : Sound codec later := by
    refine run.preserves (Sound codec) sound ?_
    rintro before operation after _ held ⟨_, rfl⟩
    rcases execute_cases held.histories operation with unchanged | published
    · rwa [unchanged]
    · exact published.sound held
  exact ⟨same.scanKind_eq sound soundLater, same.lexicalSearch_eq sound soundLater scoring,
    same.vectorSearch_eq sound soundLater scoring, same.traverse_eq sound soundLater, same.workspaceEventPage_eq sound⟩

def sharedSubject : State :=
  (empty "db").commits plainCodec [[plainNode "n" "v"], [.put (plainClaim "a" "w" "n" none) none]]

def deletesNode (id : LogicalId) (state : State) : Operation :=
  .commit ⟨state.head, toString (state.head + 1), [.delete id "owner" "request"]⟩ .none

theorem foreign_deletion_erases_claim : ReachableBy plainCodec anyOperation sharedSubject ∧
      (deletesNode "n" sharedSubject).Avoids "w" sharedSubject ∧
      scanKind plainCodec ((deletesNode "n" sharedSubject).execute plainCodec sharedSubject).2 .claim
          (snapshot ((deletesNode "n" sharedSubject).execute plainCodec sharedSubject).2)
          (plainPrincipal "w") ≠
        scanKind plainCodec sharedSubject .claim (snapshot sharedSubject) (plainPrincipal "w") := by
  have view : (sharedSubject.lookup "n" sharedSubject.head).map (·.record.access.workspace) =
        some "v" ∧ (sharedSubject.observations["n"]?).isNone = true ∧
      (scanKind plainCodec ((deletesNode "n" sharedSubject).execute plainCodec sharedSubject).2 .claim
        (snapshot ((deletesNode "n" sharedSubject).execute plainCodec sharedSubject).2)
        (plainPrincipal "w")).map (·.value.length) = .ok 0 ∧
      (scanKind plainCodec sharedSubject .claim (snapshot sharedSubject)
        (plainPrincipal "w")).map (·.value.length) = .ok 1 := by decide +kernel
  obtain ⟨owner, notObserved, after, before⟩ := view
  refine ⟨(ReachableBy.empty (by decide)).commits fun _ _ _ _ => trivial, ?_, ?_⟩
  · intro mutation listed
    cases mem_singleton.mp listed
    rintro (record | observation)
    · rw [owner] at record
      exact absurd record (by decide)
    · rw [isNone_iff_eq_none.mp notObserved] at observation
      cases observation
  · intro same
    rw [same, before] at after
    cases after

def twoNodes : State :=
  (empty "db").commits plainCodec [[plainNode "n" "w"], [plainNode "m" "v"]]

theorem foreign_node_deletion_unnoticed :
    ∃ later, Runs (Operation.Executes plainCodec fun state operation =>
        operation.Avoids "w" state ∧ operation.CascadesOutside "w" state)
        twoNodes [deletesNode "m" twoNodes] later ∧ later.head = 3 ∧
      scanKind plainCodec later .node (snapshot later) (plainPrincipal "w") =
        scanKind plainCodec twoNodes .node (snapshot twoNodes) (plainPrincipal "w") := by
  have view : (twoNodes.lookup "m" twoNodes.head).map (·.record.access.workspace) = some "v" ∧
      (twoNodes.observations["m"]?).isNone = true ∧ (twoNodes.deletionClosure "m").toList = ["m"] ∧
      ((deletesNode "m" twoNodes).execute plainCodec twoNodes).2.head = 3 := by decide +kernel
  obtain ⟨owner, notObserved, closure, head⟩ := view
  have foreign : (twoNodes.lookup "m" twoNodes.head).map
    (·.record.access.workspace) ≠ some "w" := by
    rw [owner]
    decide
  have run : Runs (Operation.Executes plainCodec fun state operation =>
      operation.Avoids "w" state ∧ operation.CascadesOutside "w" state)
      twoNodes [deletesNode "m" twoNodes]
      ((deletesNode "m" twoNodes).execute plainCodec twoNodes).2 := by
    refine .single ⟨⟨?_, ?_⟩, rfl⟩
    · intro mutation listed
      cases mem_singleton.mp listed
      rintro (record | observation)
      · exact foreign record
      · rw [isNone_iff_eq_none.mp notObserved] at observation
        cases observation
    · intro transaction carries target listed id chain
      cases carries
      cases mem_singleton.mp listed
      have member : id ∈ (twoNodes.deletionClosure "m").toList :=
        mem_toList.mpr (mem_deletionClosure_iff.mpr chain)
      rw [closure, mem_singleton] at member
      rwa [member]
  have reachable : ReachableBy plainCodec anyOperation twoNodes :=
    (ReachableBy.empty (by decide)).commits fun _ _ _ _ => trivial
  let scoring : Scoring := ⟨fun _ => ∅, fun _ _ => ⟨0⟩, fun _ _ => ⟨0⟩⟩
  have unaffected : scanKind plainCodec ((deletesNode "m" twoNodes).execute plainCodec twoNodes).2
      .node (snapshot ((deletesNode "m" twoNodes).execute plainCodec twoNodes).2)
      (plainPrincipal "w") = scanKind plainCodec twoNodes .node (snapshot twoNodes)
      (plainPrincipal "w") :=
    (workspace_reads_unaffected reachable run scoring).1 .node
  exact ⟨_, run, head, unaffected⟩

end ContextDb.Reference
