import ContextDb.Reference.Read
import ContextDb.Reference.Effects

/-! Breadth-first traversal over authorized edges, and the workspace event page. -/

set_option autoImplicit false

namespace ContextDb.Reference

open Lib Std ContextDb.Core List ExtTreeSet

section

structure Traversal where
  direction : Direction
  predicates : BTreeSet LogicalId
  (maxHops maxNodes commitSeq : Nat)
  principal : Principal

structure ScanCounters where
  (scannedCandidates authorizedEdges : Nat)

variable (state : State) (traversal : Traversal)

/-- The far end of an edge as seen from a node; an edge that leads out is not also
tried backwards. -/
def SemanticLinks.neighbour (direction : Direction) (node : LogicalId) (links : SemanticLinks) :
    Option LogicalId :=
  if direction ≠ .incoming ∧ links.source = some node then links.target
  else if direction ≠ .outgoing ∧ links.target = some node then links.source
  else none

def predicateAdmitted (predicates : BTreeSet LogicalId) (links : SemanticLinks) : Bool :=
  predicates.isEmpty || links.predicate.any predicates.contains

def edgeNeighbour (node edgeId : LogicalId) : Result (Option LogicalId) := do
  match ← authorizedCandidate state traversal.commitSeq traversal.principal edgeId with
  | none => pure none
  | some edge =>
    if edge.record.kind = .edge ∧ predicateAdmitted traversal.predicates edge.record.links then
      pure ((edge.record.links.neighbour traversal.direction node).filter fun neighbour =>
        (currentAuthorizedMetadata state neighbour traversal.commitSeq traversal.principal).any
        (·.record.kind = .node))
    else
      pure none

def scanEdge (node : LogicalId) (progress : ScanCounters × BTreeSet LogicalId)
    (edgeId : LogicalId) : Result (ScanCounters × BTreeSet LogicalId) := do
  let scanned := progress.1.scannedCandidates + 1
  ensure (scanned ≤ maxWorkspaceCandidates) .resourceExhausted
  match ← edgeNeighbour state traversal node edgeId with
  | none => pure ({ progress.1 with scannedCandidates := scanned }, progress.2)
  | some neighbour =>
    pure (⟨scanned, progress.1.authorizedEdges + 1⟩, progress.2.insert neighbour)

structure Frontier where
  queue : List (LogicalId × Nat)
  visited : BTreeSet LogicalId
  result : List LogicalId

def visitNeighbours (maxNodes hops : Nat) : List LogicalId → Frontier → Frontier
  | [], frontier => frontier
  | neighbour :: rest, frontier =>
    if frontier.visited.contains neighbour then
      visitNeighbours maxNodes hops rest frontier
    else
      let visited := frontier.visited.insert neighbour
      let result := frontier.result ++ [neighbour]
      if maxNodes ≤ result.length then
        { frontier with visited, result }
      else
        visitNeighbours maxNodes hops rest ⟨frontier.queue ++ [(neighbour, hops + 1)], visited,
          result⟩

/-- The loop over the queue. Each round takes one entry; an entry is queued only when
its node is first visited, so the endpoints of the candidates bound the rounds. -/
def traverseLoop (candidates : List LogicalId) : Nat → ScanCounters → Frontier →
    Result (ScanCounters × Frontier)
  | 0, counters, frontier => .ok (counters, frontier)
  | fuel + 1, counters, frontier =>
    match frontier.queue with
    | [] => .ok (counters, frontier)
    | (node, hops) :: queue =>
      if traversal.maxHops ≤ hops then
        traverseLoop candidates fuel counters { frontier with queue } else do
        let (counters, neighbours) ← candidates.foldlM (scanEdge state traversal node) (counters, ∅)
        let frontier := visitNeighbours traversal.maxNodes hops neighbours.toList
          { frontier with queue }
        if traversal.maxNodes ≤ frontier.result.length then
          pure (counters, frontier)
        else
          traverseLoop candidates fuel counters frontier

def checkStart (id : LogicalId) : Result Unit := do
  let revision ← required (currentAuthorizedMetadata state id traversal.commitSeq traversal.principal) .unauthorized
  ensure (revision.record.kind = .node) (.invariant ("traversal start " ++ id ++ " is not a node"))

def traverseTrace (authorizedEdges : Nat) (result : List LogicalId) : Traced (List LogicalId) where
  value := result
  trace := trace state traversal.commitSeq traversal.principal.workspace "exact_traverse" authorizedEdges result

def traverse (start : List LogicalId) (direction : Direction) (predicates : BTreeSet LogicalId)
    (maxHops maxNodes : Nat) (snapshot : Snapshot) (principal : Principal) :
    Result (Traced (List LogicalId)) := do
  validateSnapshotHandle state snapshot
  let traversal : Traversal :=
    { direction, predicates, maxHops, maxNodes, commitSeq := snapshot.commitSeq, principal }
  forM start (checkStart state traversal)
  if maxHops = 0 ∨ maxNodes = 0 then
    pure (traverseTrace state traversal 0 [])
  else do
    let candidateIds := workspaceCandidates state principal.workspace
    ensureWorkspaceCandidateBudget candidateIds
    let candidates := candidateIds.elim [] (·.toList)
    let (counters, frontier) ← traverseLoop state traversal candidates
      (start.length + 2 * candidates.length + 1) ⟨0, 0⟩
      ⟨start.map (·, 0), .ofList start, []⟩
    pure (traverseTrace state traversal counters.authorizedEdges frontier.result)

end

def eventAtOrBefore (cursor : Nat × Nat) (entry : WorkspaceEventIndexEntry) : Bool :=
  entry.workspaceSeq < cursor.1 || (entry.workspaceSeq = cursor.1 && entry.ordinal ≤ cursor.2)

def eventCandidate (state : State) (entry : WorkspaceEventIndexEntry) :
    Result WorkspaceEventCandidate := do
  let record ← required state.journal[entry.journalIndex]?
    (.invariant "workspace event index refers outside the journal")
  pure
    { workspaceSeq := entry.workspaceSeq
      ordinal := entry.ordinal
      commitSeq := record.commitSeq
      recordDigest := record.recordDigest
      kind := entry.kind }

/-- Entries are kept in cursor order, so the partition point is the length of the
prefix at or before the cursor. -/
def workspaceEventPage (state : State) (workspace : LogicalId) (afterWorkspaceSeq : Nat)
    (afterOrdinal limit : Nat) : Result WorkspaceEventPage := do
  ensure (!(limit = 0 || maxWorkspaceJournalPage < limit)) .resourceExhausted
  ensure (afterWorkspaceSeq ≤ workspaceJournalLen state workspace)
    (.snapshotNotFound afterWorkspaceSeq (workspaceJournalLen state workspace))
  let entries := state.securityIndexes.eventsByWorkspace[workspace]?.getD []
  let start := (entries.takeWhile (eventAtOrBefore (afterWorkspaceSeq, afterOrdinal))).length
  let finish := min (start + limit) entries.length
  let candidates ← ((entries.take finish).drop start).mapM (eventCandidate state)
  pure
    { candidates
      scannedThrough := candidates.getLast?.elim (afterWorkspaceSeq, afterOrdinal)
        fun candidate => (candidate.workspaceSeq, candidate.ordinal)
      hasMore := finish < entries.length }

/-! The traversal loop drains its queue: every queued node is the end of a candidate
edge and is queued once, so the rounds it is given suffice. -/

variable {state : State} {traversal : Traversal} {candidates : List LogicalId}

def endpoints (state : State) (commitSeq : Nat) (candidates : List LogicalId) : List LogicalId :=
  candidates.flatMap fun id => (state.lookup id commitSeq).toList.flatMap fun edge =>
    edge.record.links.source.toList ++ edge.record.links.target.toList

variable {commitSeq : Nat}

theorem length_endpoints : (endpoints state commitSeq candidates).length ≤
    2 * candidates.length := by
  induction candidates with
  | nil => simp [endpoints]
  | cons id rest ih =>
    have own : ((state.lookup id commitSeq).toList.flatMap fun edge =>
        edge.record.links.source.toList ++ edge.record.links.target.toList).length ≤ 2 := by
      cases state.lookup id commitSeq with
      | none => simp
      | some edge =>
        rw [Option.toList_some, flatMap_singleton, length_append]
        exact Nat.add_le_add Option.length_toList_le Option.length_toList_le
    rw [endpoints, flatMap_cons, length_append, length_cons]
    rw [endpoints] at ih
    omega

theorem edgeNeighbour_mem {node edgeId neighbour : LogicalId} (listed : edgeId ∈ candidates)
    (found : edgeNeighbour state traversal node edgeId = .ok (some neighbour)) :
    neighbour ∈ endpoints state traversal.commitSeq candidates := by
  obtain ⟨authorized, candidate, found⟩ := bind_ok found
  cases authorized with
  | none => cases found
  | some edge =>
    have current : state.lookup edgeId traversal.commitSeq = some edge := by
      obtain ⟨history, stored, candidate⟩ := bind_ok candidate
      rw [State.lookup, required_ok stored, Option.bind_some]
      split at candidate
      · cases candidate
      · exact (Option.filter_eq_some_iff.mp (Except.ok.inj candidate)).1
    have ends : neighbour ∈ edge.record.links.source.toList ++ edge.record.links.target.toList := by
      dsimp only at found
      split at found
      · obtain ⟨reached, _⟩ := Option.filter_eq_some_iff.mp (Except.ok.inj found)
        rw [SemanticLinks.neighbour] at reached
        split at reached
        · simp [reached]
        · split at reached
          · simp [reached]
          · cases reached
      · cases found
    exact mem_flatMap.mpr ⟨edgeId, listed, mem_flatMap.mpr ⟨edge, by simp [current], ends⟩⟩

variable {counters scanned : ScanCounters} {node : LogicalId}

theorem scanEdges_mem {neighbours : BTreeSet LogicalId}
    (success : candidates.foldlM (scanEdge state traversal node) (counters, ∅) = .ok
      (scanned, neighbours)) :
    ∀ neighbour ∈ neighbours, neighbour ∈ endpoints state traversal.commitSeq candidates := by
  refine foldlM_preserves success (fun progress => ∀ neighbour ∈ progress.2,
    neighbour ∈ endpoints state traversal.commitSeq candidates) (by simp) ?_
  intro progress edgeId next listed held step
  have step := rest_ok step
  obtain ⟨found, scanned, step⟩ := bind_ok step
  cases found with
  | none =>
    cases step
    exact held
  | some reached =>
    cases step
    intro neighbour member
    rcases mem_insert.mp member with same | earlier
    · obtain rfl : reached = neighbour := Std.compare_eq_iff_eq.mp same
      exact edgeNeighbour_mem listed scanned
    · exact held neighbour earlier

def Frontier.remaining (ends : List LogicalId) (frontier : Frontier) : Nat :=
  frontier.queue.length + ends.countP fun node => !frontier.visited.contains node

variable {ends : List LogicalId}

theorem countP_visit {visited : BTreeSet LogicalId} (listed : node ∈ ends)
    (fresh : visited.contains node = false) :
    (ends.countP fun other => !(visited.insert node).contains other) + 1 ≤
      ends.countP fun other => !visited.contains other := by
  have fewer : (ends.countP fun other => !(visited.insert node).contains other) =
      (ends.filter fun other => !visited.contains other).countP fun other => !compare node other == .eq := by
    simp only [countP_filter, ExtTreeSet.contains_insert, Bool.not_or]
  rw [fewer, countP_eq_length_filter, countP_eq_length_filter, Nat.add_one_le_iff,
    length_filter_lt_length_iff_exists]
  exact ⟨node, mem_filter.mpr ⟨listed, by simp [fresh]⟩, by simp⟩

theorem remaining_visitNeighbours {maxNodes hops : Nat}
    {neighbours : List LogicalId} (inside : ∀ neighbour ∈ neighbours, neighbour ∈ ends)
    (frontier : Frontier) :
    (visitNeighbours maxNodes hops neighbours frontier).remaining ends ≤
      frontier.remaining ends := by
  induction neighbours generalizing frontier with
  | nil => exact Nat.le_refl _
  | cons neighbour rest ih =>
    have others := fun other member => inside other (mem_cons_of_mem _ member)
    rw [visitNeighbours]
    split
    · exact ih others frontier
    · rename_i fresh
      have fewer := countP_visit (inside neighbour mem_cons_self) (Bool.eq_false_iff.mpr fresh)
      dsimp only
      split
      · simp only [Frontier.remaining]
        omega
      · refine (ih others _).trans ?_
        simp only [Frontier.remaining, List.length_append, List.length_singleton]
        omega

theorem traverseLoop_drains {fuel : Nat} {frontier final : Frontier}
    (enough : frontier.remaining (endpoints state traversal.commitSeq candidates) ≤ fuel)
    (success : traverseLoop state traversal candidates fuel counters frontier = .ok
      (scanned, final)) :
    final.queue = [] ∨ traversal.maxNodes ≤ final.result.length := by
  induction fuel generalizing counters frontier with
  | zero =>
    cases success
    left
    rw [Frontier.remaining] at enough
    exact List.length_eq_zero_iff.mp (by omega)
  | succ fuel ih =>
    rw [traverseLoop] at success
    split at success
    · rename_i empty
      cases success
      exact .inl empty
    · rename_i node hops queue waiting
      have popped : Frontier.remaining (endpoints state traversal.commitSeq candidates)
        { frontier with queue } ≤ fuel := by
        simp only [Frontier.remaining, waiting, List.length_cons] at enough ⊢
        omega
      split at success
      · exact ih popped success
      · obtain ⟨⟨following, neighbours⟩, scan, success⟩ := bind_ok success
        have inside : ∀ neighbour ∈ neighbours.toList, neighbour ∈ endpoints state traversal.commitSeq candidates :=
          fun neighbour member => scanEdges_mem scan neighbour (mem_toList.mp member)
        dsimp only at success
        split at success
        · rename_i full
          cases success
          exact .inr full
        · exact ih ((remaining_visitNeighbours inside _).trans popped) success

variable {start : List LogicalId}

theorem traverse_drains {final : Frontier}
    (success : traverseLoop state traversal candidates (start.length + 2 * candidates.length + 1)
      counters ⟨start.map (·, 0), .ofList start, []⟩ = .ok (scanned, final)) :
    final.queue = [] ∨ traversal.maxNodes ≤ final.result.length := by
  refine traverseLoop_drains ?_ success
  rw [Frontier.remaining, List.length_map]
  exact Nat.le_succ_of_le (Nat.add_le_add_left (List.countP_le_length.trans length_endpoints) _)

end ContextDb.Reference
