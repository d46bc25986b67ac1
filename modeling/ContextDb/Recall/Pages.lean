import ContextDb.Recall.Selection

/-! What a page reports and the token it issues. A page offers a continuation only where the
token limit stopped its selection: ranking stops for the graph, the hops or the clock, never
for the token budget. -/

set_option autoImplicit false

namespace ContextDb.Recall

open Std Lib ContextDb.Core RecallEngine List ExtTreeSet

/-- The limits a caller may set anew with each page. -/
structure PageLimits where
  (maxNodesExamined maxEvidenceUnits maxContextTokens maxTokens maxCandidates : UInt32)
  (maxGraphVisits maxEvidenceItems : UInt32)

/-- The request of a page: new limits and the token it presents. -/
def DeterministicRecallRequest.page (request : DeterministicRecallRequest) (limits : PageLimits)
    (continuation : Option RecallContinuationToken) : DeterministicRecallRequest :=
  { request with
    request := { request.request with
      budgets := { request.request.budgets with
        maxTokens := limits.maxTokens, maxCandidates := limits.maxCandidates, maxGraphVisits := limits.maxGraphVisits
        maxEvidenceItems := limits.maxEvidenceItems } }, limits := { request.limits with
      maxNodesExamined := limits.maxNodesExamined, maxEvidenceUnits := limits.maxEvidenceUnits
      maxContextTokens := limits.maxContextTokens }, continuation }

/-! ### Why ranking stops -/

section Spread

variable {hop : Nat} {visited : BTreeSet DocumentId} {edges : DocumentId → List RecallRelation}
  {source : DocumentId} {strength : Nat} {scan : EdgeScan} {relations : List RecallRelation}
  {frontier : List (DocumentId × Nat)}

theorem spreadEdges_stop_ne_tokenBudget {request : DeterministicRecallRequest}
    (running : scan.stop ≠ some .tokenBudget) :
    (spreadEdges request hop visited source strength relations scan).stop ≠ some .tokenBudget := by
  induction relations generalizing scan with
  | nil => exact running
  | cons relation rest ih =>
    rw [spreadEdges]
    split
    · simp
    · split
      · simp
      · exact ih running

theorem spreadFrontier_stop_ne_tokenBudget {request : DeterministicRecallRequest}
    (running : scan.stop ≠ some .tokenBudget) :
    (spreadFrontier request edges hop visited frontier scan).stop ≠ some .tokenBudget := by
  induction frontier generalizing scan with
  | nil => exact running
  | cons entry rest ih =>
    obtain ⟨source, strength⟩ := entry
    simp only [spreadFrontier]
    split
    · exact spreadEdges_stop_ne_tokenBudget running
    · exact ih (spreadEdges_stop_ne_tokenBudget running)

theorem spreadHops_stop_ne_tokenBudget {request : DeterministicRecallRequest} {remaining : Nat}
    {spread : Spread} (running : spread.stop ≠ some .tokenBudget) :
    (spreadHops request edges remaining hop spread).stop ≠ some .tokenBudget := by
  induction remaining generalizing hop spread with
  | zero => exact running
  | succ remaining ih =>
    have reached : (spreadHop request edges hop spread).stop ≠ some .tokenBudget :=
      spreadFrontier_stop_ne_tokenBudget (by simp)
    simp only [spreadHops]
    split
    · exact running
    · split
      · simp
      · split
        · exact reached
        · split
          · simp
          · exact ih reached

end Spread

/-! ### The ranked list -/

theorem rankedCandidates_nodup (visible : List RecallDocument) (scores : Scores) :
    ((rankedCandidates visible scores).map (·.document.id)).Nodup := by
  have keyed : ∀ (entry : DocumentId × CandidateScore) (candidate : RankedCandidate), (visible.find?
    (·.id = entry.1)).map (fun document =>
        ({ document, score := entry.2 } : RankedCandidate)) = some candidate →
          candidate.document.id = entry.1 := by
    intro entry candidate found
    obtain ⟨document, located, rfl⟩ := Option.map_eq_some_iff.mp found
    simpa using find?_some located
  have distinct : (scores.toList.filterMap fun entry =>
      (visible.find? (·.id = entry.1)).map fun document =>
        ({ document, score := entry.2 } : RankedCandidate)).Pairwise fun left right => left.document.id ≠ right.document.id := by
    refine List.Pairwise.filterMap _ ?_ ExtTreeMap.distinct_keys_toList
    intro entry other different left leftFound right rightFound
    rw [keyed entry left leftFound, keyed other right rightFound]
    exact fun same => different (Std.compare_eq_iff_eq.mpr same)
  refine ((sortBy_perm _ _).map _).nodup_iff.mpr ?_
  exact pairwise_map.mpr distinct

variable {engine : RecallEngine} {request : DeterministicRecallRequest} {admission : Admission}
  {ranking : Ranking} {hitNodeBudget : Bool} {result : DeterministicRecallResult}

/-- What a result says about the selection it was made from. -/
structure Reports (engine : RecallEngine) (request : DeterministicRecallRequest)
    (admission : Admission) (ranking : Ranking) (hitNodeBudget : Bool)
    (result : DeterministicRecallResult) : Prop where
  items : result.items = (engine.select request admission ranking).selection.items
  evidence : result.evidence = (engine.select request admission ranking).selection.evidence
  sufficiency : result.sufficiency = assessSufficiency request admission.gate
    (engine.select request admission ranking).selection
  status : result.status = recallStatus result.sufficiency
    (engine.select request admission ranking).selection
  stopReason : result.stopReason = stopReason result.sufficiency
    (engine.select request admission ranking).selection ranking.graphStop hitNodeBudget

theorem conclude_reports (concluded : engine.conclude request admission hitNodeBudget ranking =
    .ok result) :
    Reports engine request admission ranking hitNodeBudget result := by
  simp only [conclude, bind_ok_iff] at concluded
  obtain ⟨_, _, _, _, continuation, _, finished⟩ := concluded
  obtain rfl := Except.ok.inj finished
  exact ⟨rfl, rfl, rfl, rfl, rfl⟩

theorem stopReason_ne_tokenBudget {sufficiency : SufficiencyReport} {selection : Selection}
    {graphStop : Option StopReason} (unlimited : selection.tokenLimited = false)
    (graph : graphStop ≠ some .tokenBudget) :
    stopReason sufficiency selection graphStop hitNodeBudget ≠ .tokenBudget := by
  unfold stopReason
  rw [unlimited]
  cases graphStop with
  | none => grind
  | some reason => grind

/-- What the token of a page says about the selection that ran out of tokens. -/
structure Issued (engine : RecallEngine) (request : DeterministicRecallRequest)
    (admission : Admission) (ranking : Ranking) (token : RecallContinuationToken) : Prop where
  limited : (engine.select request admission ranking).selection.tokenLimited = true
  nextOffset : token.nextOffset.toNat = request.offset +
    (engine.select request admission ranking).selection.processed
  within : token.nextOffset.toNat < ranking.ranked.length
  snapshot : token.snapshot = admission.snapshot
  planVersion : token.planVersion = Recall.planVersion
  filterDigest : token.filterDigest = admission.filterDigest
  visited : token.visitedDigest = engine.visitedDigest (visitedIds
    (ranking.ranked.take token.nextOffset.toNat))
  covered : token.coveredFacetDigests = (∅ : BTreeSet String).insertMany
    ((engine.select request admission ranking).selection.coveredFacets.toList.map
      (engine.sensitiveDigest "facet"))
  evidence : token.selectedEvidenceDigests = request.evidenceDigests.insertMany
    ((engine.select request admission ranking).selection.evidence.map fun item =>
      engine.evidenceDigest item.evidence)
  consumed : token.consumed = (engine.select request admission ranking).usage
  authentic : token.bindingDigest = engine.bindingDigest token.binding

theorem conclude_issued (graph : ranking.graphStop ≠ some .tokenBudget)
    (concluded : engine.conclude request admission hitNodeBudget ranking = .ok result)
    {token : RecallContinuationToken} (continued : result.continuation = some token) :
    Issued engine request admission ranking token := by
  simp only [conclude, bind_ok_iff] at concluded
  obtain ⟨_, _, _, _, continuation, offered, finished⟩ := concluded
  obtain rfl := Except.ok.inj finished
  obtain rfl : continuation = some token := continued
  simp only [continuation] at offered
  split at offered
  · rename_i stopped
    obtain ⟨within, stop⟩ := Bool.and_eq_true_iff.mp stopped
    have limited : (engine.select request admission ranking).selection.tokenLimited = true := by
      by_contra unlimited
      exact stopReason_ne_tokenBudget (by simpa using unlimited) graph (of_decide_eq_true stop)
    cases made : engine.makeContinuation request admission ranking.ranked
        (request.offset + (engine.select request admission ranking).selection.processed)
        (engine.select request admission ranking) with
    | error error => simp [made, Functor.map, Except.map] at offered
    | ok produced =>
      obtain rfl : produced = token := by simpa [made, Functor.map, Except.map] using offered
      simp only [makeContinuation, bind_ok_iff] at made
      obtain ⟨_, small, built⟩ := made
      have offset : (UInt32.ofNat (request.offset +
          (engine.select request admission ranking).selection.processed)).toNat =
            request.offset + (engine.select request admission ranking).selection.processed :=
        UInt32.toNat_ofNat_of_lt' (by simpa using small)
      obtain rfl := Except.ok.inj built
      exact
        { limited
          nextOffset := offset
          within := by
            rw [offset]
            exact of_decide_eq_true within
          snapshot := rfl
          planVersion := rfl
          filterDigest := rfl
          visited := by rw [offset]
          covered := rfl
          evidence := rfl
          consumed := rfl
          authentic := rfl }
  · cases offered

end ContextDb.Recall
