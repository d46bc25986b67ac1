import ContextDb.Recall.Engine

/-! Recall budgets. Each counter is advanced by a loop of its own, and each loop gets its
own bound over the consumption it starts from. Graph edges, hops and tokens always stay
within their limits; documents and evidence do so exactly when the node scan drops
nothing before its limit and no item is kept whose evidence was dropped. -/

set_option autoImplicit false

namespace ContextDb.Recall

open Std Lib ContextDb.Core RecallEngine Clock

@[simp] theorem toNat_saturatingAdd32 (left right : UInt32) :
    (saturatingAdd32 left right).toNat = min (left.toNat + right.toNat) 0xffffffff := by
  rw [saturatingAdd32, UInt32.toNat_ofNat_of_lt']
  exact Nat.lt_of_le_of_lt (Nat.min_le_right _ _) (by decide)

variable {request : DeterministicRecallRequest}

/-- The check of a continuation's counters, as the comparisons it makes. -/
theorem verifyBudgetIntegrity_ok_iff {consumed : BudgetUsage} {done : Unit} :
    verifyBudgetIntegrity consumed request = .ok done ↔ consumed.nodesExamined ≤
      request.maxNodesExamined ∧
      consumed.graphEdgesExamined ≤ request.request.budgets.maxGraphVisits ∧
      consumed.maxHopReached ≤ request.limits.maxGraphHops ∧
        consumed.evidenceUnits ≤ request.maxEvidenceUnits ∧
      consumed.contextTokens ≤ request.maxContextTokens := by
  simp [verifyBudgetIntegrity, and_assoc]

/-! ### Node scan -/

def Clock.allowance (clock : Clock) (documents : List RecallDocument) : List RecallDocument :=
  match clock.checksLeft with
  | some checks => documents.take checks
  | none => documents

/-- How many documents are read until `remaining` of them were kept, `kept` before. -/
def readCount (keep : RecallDocument → Bool) (remaining : Nat) : List RecallDocument → Nat → Nat
  | [], _ => 0
  | document :: rest, kept =>
    if remaining ≤ kept then 0 else readCount keep remaining rest
      (if keep document then kept + 1 else kept) + 1

variable {clock : Clock}

theorem Clock.allowance_of_expired (expired : clock.expired = true)
    (documents : List RecallDocument) : clock.allowance documents = [] := by
  have spent : clock.checksLeft = some 0 := by simpa [Clock.expired] using expired
  simp [Clock.allowance, spent]

theorem Clock.allowance_cons (running : clock.expired = false) (document : RecallDocument)
    (rest : List RecallDocument) : clock.allowance (document :: rest) =
      document :: clock.tick.allowance rest := by
  cases left : clock.checksLeft with
  | none => simp [allowance, tick, left]
  | some checks =>
    cases checks with
    | zero => simp [expired, left] at running
    | succ checks => simp [allowance, tick, left]

section

variable (keep : RecallDocument → Bool) (remaining : Nat) (documents : List RecallDocument)

/-- The counter of examined nodes saturates; below that it counts the documents that were read. -/
theorem examineNodes_nodesExamined (scan : NodeScan) :
    (examineNodes keep remaining documents scan).nodesExamined.toNat = min
    (scan.nodesExamined.toNat +
        readCount keep remaining (scan.clock.allowance documents) scan.visible.length) 0xffffffff := by
  have bounded := scan.nodesExamined.toNat_lt
  induction documents generalizing scan with
  | nil =>
    have nothing : scan.clock.allowance [] = [] := by
      unfold allowance
      split <;> simp
    simp only [examineNodes, nothing, readCount]
    omega
  | cons document rest ih =>
    rw [examineNodes]
    cases running : scan.clock.expired with
    | true =>
      simp only [if_true, allowance_of_expired running, readCount]
      omega
    | false =>
      rw [allowance_cons running, readCount]
      simp only [Bool.false_eq_true, if_false]
      split
      · simp only
        omega
      · rw [ih _ (UInt32.toNat_lt _)]
        simp only [toNat_saturatingAdd32]
        cases keep document with
        | true =>
          simp only [if_true, List.length_append, List.length_singleton]
          have one : (1 : UInt32).toNat = 1 := rfl
          omega
        | false =>
          simp only [Bool.false_eq_true, if_false]
          have one : (1 : UInt32).toNat = 1 := rfl
          omega

theorem readCount_le (kept : Nat) : readCount keep remaining documents kept ≤ documents.length := by
  induction documents generalizing kept with
  | nil => simp [readCount]
  | cons document rest ih =>
    rw [readCount, List.length_cons]
    split
    · omega
    · exact Nat.succ_le_succ (ih _)

/-- The scan ends with the documents or with the budget. -/
theorem readCount_stops (kept : Nat) : readCount keep remaining documents kept = documents.length ∨
      remaining ≤ readCount keep remaining documents kept + kept := by
  induction documents generalizing kept with
  | nil => exact .inl rfl
  | cons document rest ih =>
    rw [readCount, List.length_cons]
    split
    · exact .inr (by omega)
    · rcases ih (if keep document then kept + 1 else kept) with all | reached
      · exact .inl (by rw [all])
      · refine .inr ?_
        have counted : (if keep document then kept + 1 else kept) ≤ kept + 1 := by
          split <;> omega
        omega

/-- The scan reads no more than it may keep exactly when the documents run out, or none of
those it reads is dropped. -/
theorem readCount_fits_iff (kept : Nat) (within : kept ≤ remaining) :
    readCount keep remaining documents kept + kept ≤ remaining ↔
      documents.length + kept ≤ remaining ∨
        (documents.take (remaining - kept)).all keep = true := by
  induction documents generalizing kept with
  | nil => simp [readCount, within]
  | cons document rest ih =>
    rw [readCount]
    split
    · have exhausted : remaining - kept = 0 := by omega
      simp [exhausted, within]
    · obtain ⟨room, split⟩ : ∃ room, remaining - kept = room + 1 :=
        ⟨remaining - kept - 1, by omega⟩
      rw [split, List.take_succ_cons, List.all_cons, List.length_cons]
      cases keep document with
      | true =>
        have shifted := ih (kept + 1) (by omega)
        have roomAfter : remaining - (kept + 1) = room := by omega
        have same : rest.length + 1 + kept = rest.length + (kept + 1) := by omega
        simp only [if_true, Bool.true_and]
        rw [same, ← roomAfter, ← shifted]
        omega
      | false =>
        simp only [Bool.false_eq_true, if_false, Bool.false_and, or_false]
        rcases readCount_stops keep remaining rest kept with all | reached
        · rw [all]
        · have short := readCount_le keep remaining rest kept
          omega

end

/-! ### Spreading activation -/

variable {hop : Nat} {visited : BTreeSet DocumentId} {scan : EdgeScan}

theorem spreadEdges_edges {source : DocumentId} {strength : Nat} {relations : List RecallRelation}
    (within : scan.edgesExamined ≤ request.request.budgets.maxGraphVisits) :
    (spreadEdges request hop visited source strength relations scan).edgesExamined ≤
      request.request.budgets.maxGraphVisits := by
  induction relations generalizing scan with
  | nil => exact within
  | cons relation rest ih =>
    rw [spreadEdges]
    split
    · exact within
    · split
      · exact within
      · rename_i below _
        refine ih ?_
        rw [UInt32.le_iff_toNat_le] at below ⊢
        have one : (1 : UInt32).toNat = 1 := rfl
        simp only [toNat_saturatingAdd32]
        omega

variable {edges : DocumentId → List RecallRelation}

theorem spreadFrontier_edges {frontier : List (DocumentId × Nat)}
    (within : scan.edgesExamined ≤ request.request.budgets.maxGraphVisits) :
    (spreadFrontier request edges hop visited frontier scan).edgesExamined ≤
      request.request.budgets.maxGraphVisits := by
  induction frontier generalizing scan with
  | nil => exact within
  | cons entry rest ih =>
    obtain ⟨source, strength⟩ := entry
    rw [spreadFrontier]
    split
    · exact spreadEdges_edges within
    · exact ih (spreadEdges_edges within)

/-- What ranking may consume: it never touches evidence or tokens. -/
structure GraphBounded (request : DeterministicRecallRequest) (before after : BudgetUsage) :
    Prop where
  edges : after.graphEdgesExamined ≤ request.request.budgets.maxGraphVisits
  hops : after.maxHopReached ≤ request.limits.maxGraphHops
  nodes : after.nodesExamined = before.nodesExamined
  evidence : after.evidenceUnits = before.evidenceUnits
  tokens : after.contextTokens = before.contextTokens

/-- The hops counted so far and those that remain make up the limit. -/
theorem spreadHops_bounded {remaining : Nat} {spread : Spread}
    {before : BudgetUsage} (counted : hop + remaining = request.limits.maxGraphHops.toNat + 1)
    (bounded : GraphBounded request before spread.usage) :
    GraphBounded request before (spreadHops request edges remaining hop spread).usage := by
  induction remaining generalizing hop spread with
  | zero => exact bounded
  | succ remaining ih =>
    have advanced : GraphBounded request before (spreadHop request edges hop spread).usage := by
      refine { bounded with edges := spreadFrontier_edges bounded.edges, hops := ?_ }
      have reached : UInt8.ofNat hop ≤ request.limits.maxGraphHops := by
        rw [UInt8.le_iff_toNat_le, UInt8.toNat_ofNat']
        exact Nat.le_trans (Nat.mod_le _ _) (by omega)
      change (if spread.usage.maxHopReached ≤ UInt8.ofNat hop then UInt8.ofNat hop
        else spread.usage.maxHopReached) ≤ request.limits.maxGraphHops
      split
      · exact reached
      · exact bounded.hops
    rw [spreadHops]
    split
    · exact bounded
    · split
      · exact bounded
      · simp only
        split
        · exact advanced
        · split
          · exact advanced
          · exact ih (by omega) advanced

theorem rank_bounded {engine : RecallEngine} {admission : Admission} {scan : NodeScan}
    (accepted : verifyBudgetIntegrity admission.prior request = .ok ()) :
    GraphBounded request { admission.prior with nodesExamined := scan.nodesExamined }
      (engine.rank request admission scan).usage := by
  obtain ⟨_, edges, hops, _, _⟩ := verifyBudgetIntegrity_ok_iff.mp accepted
  have start : GraphBounded request { admission.prior with nodesExamined := scan.nodesExamined }
      { admission.prior with nodesExamined := scan.nodesExamined } :=
    ⟨edges, hops, rfl, rfl, rfl⟩
  unfold rank
  simp only
  split
  · exact start
  · rw [spreadActivation]
    split
    · exact start
    · exact spreadHops_bounded (by omega) start

/-! ### Selection -/

/-- Whether a candidate is withheld or its fresh evidence fits what is left. -/
def RecallEngine.hasEvidenceRoom (engine : RecallEngine) (request : DeterministicRecallRequest)
    (state : SelectionState) (candidate : RankedCandidate) : Bool :=
  let choice := engine.choiceAt request state candidate
  !choice.decision.isIncluded || state.usage.evidenceUnits.toNat + choice.newEvidenceCount.toNat ≤
      request.maxEvidenceUnits.toNat

/-- Whether every item the loop includes finds room for its fresh evidence. Candidates the
loop does not reach, and the one the token budget stops at, do not matter. -/
def RecallEngine.evidenceFits (engine : RecallEngine) (request : DeterministicRecallRequest)
    (gate : MemoryGateDecision) : List RankedCandidate → SelectionState → Bool
  | [], _ => true
  | candidate :: rest, state =>
    let taken := engine.afterTaking request state candidate
    state.clock.expired || engine.tokensExceeded request state candidate ||
      (engine.hasEvidenceRoom request state candidate &&
        (taken.selection.suffices gate || engine.evidenceFits request gate rest taken))

/-- How a stretch of the loop advances the evidence counter against the evidence it
returns. A stretch that does not fit exceeds the limit, or, at the largest limit, counts
less than it returns. -/
structure EvidenceCount (request : DeterministicRecallRequest) (before after : SelectionState)
    (fits : Bool) : Prop where
  grows : before.usage.evidenceUnits ≤ after.usage.evidenceUnits
  atMost : request.maxEvidenceUnits.toNat = 0xffffffff →
    after.usage.evidenceUnits.toNat + before.selection.evidence.length ≤
      before.usage.evidenceUnits.toNat + after.selection.evidence.length
  balanced : fits = true → before.usage.evidenceUnits ≤ request.maxEvidenceUnits →
    after.usage.evidenceUnits ≤ request.maxEvidenceUnits ∧
      after.usage.evidenceUnits.toNat + before.selection.evidence.length =
        before.usage.evidenceUnits.toNat + after.selection.evidence.length
  broken : fits = false → request.maxEvidenceUnits < after.usage.evidenceUnits ∨
    (request.maxEvidenceUnits.toNat = 0xffffffff ∧
      after.usage.evidenceUnits.toNat + before.selection.evidence.length <
        before.usage.evidenceUnits.toNat + after.selection.evidence.length)

variable {before after : SelectionState}

theorem EvidenceCount.same (usage : after.usage = before.usage)
    (evidence : after.selection.evidence = before.selection.evidence) :
    EvidenceCount request before after true := by
  constructor
  · rw [usage]
    exact UInt32.le_refl _
  · intro _
    rw [usage, evidence]
  · intro _ within
    rw [usage, evidence]
    exact ⟨within, rfl⟩
  · exact fun absurdity => nomatch absurdity

theorem EvidenceCount.trans {middle : SelectionState} {first second : Bool}
    (left : EvidenceCount request before middle first)
    (right : EvidenceCount request middle after second) :
    EvidenceCount request before after (first && second) := by
  have leftGrows := UInt32.le_iff_toNat_le.mp left.grows
  have rightGrows := UInt32.le_iff_toNat_le.mp right.grows
  constructor
  · exact UInt32.le_trans left.grows right.grows
  · intro largest
    have leftAtMost := left.atMost largest
    have rightAtMost := right.atMost largest
    omega
  · intro fits within
    obtain ⟨firstFits, secondFits⟩ := Bool.and_eq_true_iff.mp fits
    obtain ⟨middleWithin, leftExact⟩ := left.balanced firstFits within
    obtain ⟨afterWithin, rightExact⟩ := right.balanced secondFits middleWithin
    exact ⟨afterWithin, by omega⟩
  · intro breaks
    rw [UInt32.lt_iff_toNat_lt]
    cases firstFits : first with
    | false =>
      rcases left.broken firstFits with exceeded | ⟨largest, lost⟩
      · rw [UInt32.lt_iff_toNat_lt] at exceeded
        exact .inl (by omega)
      · have rightAtMost := right.atMost largest
        exact .inr ⟨largest, by omega⟩
    | true =>
      have secondFits : second = false := by simpa [firstFits] using breaks
      rcases right.broken secondFits with exceeded | ⟨largest, lost⟩
      · rw [UInt32.lt_iff_toNat_lt] at exceeded
        exact .inl exceeded
      · have leftAtMost := left.atMost largest
        exact .inr ⟨largest, by omega⟩

variable {engine : RecallEngine} {gate : MemoryGateDecision} {candidate : RankedCandidate}
  {candidates : List RankedCandidate} {state : SelectionState}

theorem evidenceOverflows_iff {consumed count : UInt32} :
    evidenceOverflows request consumed count = true ↔
      request.maxEvidenceUnits.toNat < min (consumed.toNat + count.toNat) 0xffffffff := by
  simp [evidenceOverflows, UInt32.lt_iff_toNat_lt]

theorem freshEvidence_length_le (used : BTreeSet String) (document : RecallDocument) :
    (engine.freshEvidence request used document).length ≤ 1 := by
  unfold freshEvidence
  split
  · refine Nat.le_trans (List.length_filter_le _ _) ?_
    simp only [chooseEvidence, List.length_take]
    exact Nat.min_le_left _ _
  · exact Nat.zero_le _

theorem newEvidenceCount_toNat (consumed : UInt32) (used : BTreeSet String)
    (document : RecallDocument) :
    (engine.choose request consumed used document).newEvidenceCount.toNat =
    (engine.freshEvidence request used document).length := by
  have short : (engine.freshEvidence request used document).length ≤ 1 :=
    freshEvidence_length_le used document
  have size : UInt32.size = 4294967296 := rfl
  simp only [choose]
  rw [UInt32.toNat_ofNat_of_lt'] <;> omega

theorem choose_evidence_length (consumed : UInt32) (used : BTreeSet String)
    (document : RecallDocument) {choice : Choice} (chosen : choice =
      engine.choose request consumed used document) :
    choice.evidence.length = if evidenceOverflows request consumed choice.newEvidenceCount then 0 else choice.newEvidenceCount.toNat := by
  subst chosen
  rw [newEvidenceCount_toNat]
  cases overflow : evidenceOverflows request consumed
    (engine.choose request consumed used document).newEvidenceCount with
  | true =>
    simp only [choose] at overflow
    simp [choose, overflow]
  | false =>
    simp only [choose] at overflow
    simp [choose, overflow]

/-- Taking one candidate keeps the evidence counter in step exactly when there is room for its
evidence. -/
theorem afterTaking_evidence : EvidenceCount request state
    (engine.afterTaking request state candidate)
      (engine.hasEvidenceRoom request state candidate) := by
  rw [afterTaking, hasEvidenceRoom]
  generalize chosen : engine.choiceAt request state candidate = choice
  have returned := choose_evidence_length _ _ _ chosen.symm
  have overflows := @evidenceOverflows_iff request state.usage.evidenceUnits choice.newEvidenceCount
  have limit := request.maxEvidenceUnits.toNat_lt
  have counter := state.usage.evidenceUnits.toNat_lt
  cases included : choice.decision.isIncluded with
  | false =>
    exact .same (by simp [accept, record, included])
      (by simp [accept, record, included])
  | true =>
    have usage : (engine.accept request candidate choice
      (engine.record candidate.document choice state)).usage.evidenceUnits =
          saturatingAdd32 state.usage.evidenceUnits choice.newEvidenceCount := by
      simp [accept, record, included]
    have evidence : (engine.accept request candidate choice
      (engine.record candidate.document choice state)).selection.evidence.length =
          state.selection.evidence.length + choice.evidence.length := by
      simp [accept, record, included, selectedEvidence]
    cases overflow : evidenceOverflows request state.usage.evidenceUnits choice.newEvidenceCount with
    | true =>
      simp only [overflow, if_true, true_iff] at returned overflows
      constructor <;>
        simp only [usage, evidence, returned, UInt32.le_iff_toNat_le, UInt32.lt_iff_toNat_lt,
          toNat_saturatingAdd32, Bool.not_true, Bool.false_or, decide_eq_true_eq, decide_eq_false_iff_not] <;>
        omega
    | false =>
      simp only [overflow, Bool.false_eq_true, if_false, false_iff] at returned overflows
      constructor <;>
        simp only [usage, evidence, returned, UInt32.le_iff_toNat_le, UInt32.lt_iff_toNat_lt,
          toNat_saturatingAdd32, Bool.not_true, Bool.false_or, decide_eq_true_eq, decide_eq_false_iff_not] <;>
        omega

/-- The loop keeps the counter in step exactly when everything it includes finds room. -/
theorem selectContext_evidence : EvidenceCount request state
    (engine.selectContext request gate candidates state)
      (engine.evidenceFits request gate candidates state) := by
  induction candidates generalizing state with
  | nil => exact .same rfl rfl
  | cons candidate rest ih =>
    rw [selectContext, evidenceFits]
    cases state.clock.expired with
    | true => exact .same rfl rfl
    | false =>
      cases engine.tokensExceeded request state candidate with
      | true => exact .same rfl rfl
      | false =>
        cases sufficient : (engine.afterTaking request state candidate).selection.suffices gate with
        | true => simpa [sufficient] using afterTaking_evidence
        | false => simpa [sufficient] using afterTaking_evidence.trans ih

/-- The loop never charges more than the token limit. -/
theorem selectContext_tokens (within : state.usage.contextTokens ≤ request.maxContextTokens) :
    (engine.selectContext request gate candidates state).usage.contextTokens ≤
      request.maxContextTokens := by
  induction candidates generalizing state with
  | nil => exact within
  | cons candidate rest ih =>
    rw [selectContext]
    split
    · exact within
    · split
      · exact within
      · rename_i fits
        have taken : (engine.afterTaking request state candidate).usage.contextTokens ≤
          request.maxContextTokens := by
          simp only [afterTaking, accept]
          split
          · have room : saturatingAdd32 state.usage.contextTokens
                (engine.choiceAt request state candidate).contextCost ≤
                  request.maxContextTokens := by
              simpa [tokensExceeded] using fits
            exact room
          · exact within
        simp only
        split
        · exact taken
        · exact ih taken

theorem selectContext_frame : let final := engine.selectContext request gate candidates state
    final.usage.nodesExamined = state.usage.nodesExamined ∧
      final.usage.graphEdgesExamined = state.usage.graphEdgesExamined ∧
      final.usage.maxHopReached = state.usage.maxHopReached := by
  induction candidates generalizing state with
  | nil => exact ⟨rfl, rfl, rfl⟩
  | cons candidate rest ih =>
    have taken : (engine.afterTaking request state candidate).usage.nodesExamined =
      state.usage.nodesExamined ∧
        (engine.afterTaking request state candidate).usage.graphEdgesExamined =
          state.usage.graphEdgesExamined ∧
        (engine.afterTaking request state candidate).usage.maxHopReached =
          state.usage.maxHopReached := by
      simp only [afterTaking, accept]
      split <;> exact ⟨rfl, rfl, rfl⟩
    rw [selectContext]
    simp only
    split
    · exact ⟨rfl, rfl, rfl⟩
    · split
      · exact ⟨rfl, rfl, rfl⟩
      · split
        · exact taken
        · obtain ⟨nodes, edges, hops⟩ := taken
          rw [← nodes, ← edges, ← hops]
          exact ih

theorem select_frame (engine : RecallEngine) (request : DeterministicRecallRequest)
    (admission : Admission) (ranking : Ranking) :
    (engine.select request admission ranking).usage.nodesExamined = ranking.usage.nodesExamined ∧
      (engine.select request admission ranking).usage.graphEdgesExamined =
        ranking.usage.graphEdgesExamined ∧
      (engine.select request admission ranking).usage.maxHopReached = ranking.usage.maxHopReached :=
  selectContext_frame

/-! ### Whole runs -/

def RecallEngine.startUsage (engine : RecallEngine) (request : DeterministicRecallRequest) :
    BudgetUsage :=
  if (engine.memoryGate request).runRecall then
    request.continuation.elim .initial (·.consumed)
  else .initial

/-- Every counter is within its limit, the evidence counter advanced by the evidence
returned, and the token handed out would be accepted back. -/
structure WithinBudgets (request : DeterministicRecallRequest) (start : BudgetUsage)
    (result : DeterministicRecallResult) : Prop where
  nodes : result.usage.nodesExamined ≤ request.maxNodesExamined
  edges : result.usage.graphEdgesExamined ≤ request.request.budgets.maxGraphVisits
  hops : result.usage.maxHopReached ≤ request.limits.maxGraphHops
  evidence : result.usage.evidenceUnits ≤ request.maxEvidenceUnits
  tokens : result.usage.contextTokens ≤ request.maxContextTokens
  increase : result.usage.evidenceUnits.toNat = start.evidenceUnits.toNat + result.evidence.length
  accepted : ∀ token, result.continuation = some token →
    verifyBudgetIntegrity token.consumed request = .ok ()

variable {clock : Clock} {provider : RecallProvider} {admission : Admission}
    {result : DeterministicRecallResult}

theorem admitted_prior (admitted : engine.admitted provider request = .ok admission) :
    verifyBudgetIntegrity admission.prior request = .ok () ∧
      admission.prior = request.continuation.elim .initial (·.consumed) := by
  simp only [RecallEngine.admitted, prepare, bind_ok_iff] at admitted
  obtain ⟨_, _, snapshot, _, _, _, prior, started, _, intact, _, _, _, _, finished⟩ := admitted
  obtain rfl := Except.ok.inj finished
  refine ⟨intact, ?_⟩
  cases continued : request.continuation with
  | none => simpa [priorUsage, continued, pure, Except.pure, eq_comm] using started
  | some token =>
    simp only [priorUsage, continued, verifyContinuation, bind_ok_iff] at started
    obtain ⟨_, _, _, _, returned⟩ := started
    exact (Except.ok.inj returned).symm

/-- The scan respects the node limit exactly when the documents it gets to read leave it room. -/
theorem scanNodes_within_iff (engine : RecallEngine) (clock : Clock)
    (within : admission.prior.nodesExamined ≤ request.maxNodesExamined) :
    (engine.scanNodes clock request admission).nodesExamined ≤ request.maxNodesExamined ↔
      (request.maxNodesExamined.toNat = 0xffffffff ∨
        (clock.allowance admission.corpus.documents).length ≤
          remainingNodes request admission.prior ∨
            ((clock.allowance admission.corpus.documents).take
          (remainingNodes request admission.prior)).all
            (engine.documentVisible request admission.snapshot) = true) := by
  have limit := request.maxNodesExamined.toNat_lt
  have fits := readCount_fits_iff (engine.documentVisible request admission.snapshot)
    (remainingNodes request admission.prior) (clock.allowance admission.corpus.documents) 0
    (Nat.zero_le _)
  rw [UInt32.le_iff_toNat_le] at within ⊢
  rw [scanNodes, examineNodes_nodesExamined]
  simp only [Nat.add_zero, Nat.sub_zero, List.length_nil] at fits ⊢
  rw [← fits]
  unfold remainingNodes
  omega

variable {hitNodeBudget : Bool} {ranking : Ranking}

theorem conclude_ok (concluded : engine.conclude request admission hitNodeBudget ranking =
    .ok result) :
    result.usage = (engine.select request admission ranking).usage ∧
      result.evidence = (engine.select request admission ranking).selection.evidence ∧
      ∀ token, result.continuation = some token → token.consumed = result.usage := by
  simp only [conclude, bind_ok_iff] at concluded
  obtain ⟨_, _, _, _, continuation, continued, finished⟩ := concluded
  obtain rfl := Except.ok.inj finished
  refine ⟨rfl, rfl, ?_⟩
  rintro token rfl
  unfold continuation at continued
  simp only at continued
  split at continued
  · cases made : engine.makeContinuation request admission ranking.ranked
        (request.offset + (engine.select request admission ranking).selection.processed)
        (engine.select request admission ranking) with
    | error error => simp [made, Functor.map, Except.map] at continued
    | ok produced =>
      have same : produced = token := by
        simpa [made, Functor.map, Except.map] using continued
      subst same
      simp only [makeContinuation, bind_ok_iff] at made
      obtain ⟨_, _, built⟩ := made
      exact (Except.ok.inj built) ▸ rfl
  · cases continued

/-- From a ranking within its bounds, selection respects the budgets exactly when the node
scan did and every included item finds room for its evidence. -/
theorem conclude_within_iff {nodesExamined : UInt32}
    (accepted : verifyBudgetIntegrity admission.prior request = .ok ())
    (bounded : GraphBounded request { admission.prior with nodesExamined } ranking.usage)
    (concluded : engine.conclude request admission hitNodeBudget ranking = .ok result) :
    WithinBudgets request admission.prior result ↔
      nodesExamined ≤ request.maxNodesExamined ∧
        engine.evidenceFits request admission.gate (ranking.ranked.drop request.offset)
          (engine.selectionStart request admission ranking) = true := by
  obtain ⟨_, _, _, evidence, tokens⟩ := verifyBudgetIntegrity_ok_iff.mp accepted
  obtain ⟨usage, returned, consumed⟩ := conclude_ok concluded
  -- Selection starts from the prior evidence and tokens: ranking left both alone.
  have counted : EvidenceCount request (engine.selectionStart request admission ranking)
      (engine.select request admission ranking)
      (engine.evidenceFits request admission.gate (ranking.ranked.drop request.offset)
        (engine.selectionStart request admission ranking)) :=
    selectContext_evidence
  have tokenBound : result.usage.contextTokens ≤ request.maxContextTokens := by
    rw [usage]
    exact selectContext_tokens (bounded.tokens ▸ tokens)
  obtain ⟨sameNodes, sameEdges, sameHops⟩ := select_frame engine request admission ranking
  have finalNodes : result.usage.nodesExamined = nodesExamined :=
    (congrArg BudgetUsage.nodesExamined usage).trans (sameNodes.trans bounded.nodes)
  have finalEdges : result.usage.graphEdgesExamined = ranking.usage.graphEdgesExamined :=
    (congrArg BudgetUsage.graphEdgesExamined usage).trans sameEdges
  have finalHops : result.usage.maxHopReached = ranking.usage.maxHopReached :=
    (congrArg BudgetUsage.maxHopReached usage).trans sameHops
  have startEvidence : (engine.selectionStart request admission ranking).usage.evidenceUnits =
      admission.prior.evidenceUnits := bounded.evidence
  have noEvidence : (engine.selectionStart request admission ranking).selection.evidence.length =
      0 := rfl
  constructor
  · intro within
    refine ⟨finalNodes ▸ within.nodes, ?_⟩
    by_contra breaks
    have increase := within.increase
    have bound := within.evidence
    rw [usage] at increase bound
    rw [returned] at increase
    rcases counted.broken (by simpa using breaks) with exceeded | ⟨_, lost⟩
    · exact absurd bound (UInt32.not_le.mpr exceeded)
    · rw [startEvidence, noEvidence] at lost
      exact absurd increase (Nat.ne_of_lt lost)
  · rintro ⟨nodes, fits⟩
    obtain ⟨within, balanced⟩ := counted.balanced fits (startEvidence ▸ evidence)
    rw [startEvidence, noEvidence] at balanced
    have evidenceBound : result.usage.evidenceUnits ≤ request.maxEvidenceUnits := by
      rw [usage]
      exact within
    refine
      { nodes := finalNodes ▸ nodes
        edges := finalEdges ▸ bounded.edges
        hops := finalHops ▸ bounded.hops
        evidence := evidenceBound
        tokens := tokenBound
        increase := ?_
        accepted := ?_ }
    · rw [usage, returned]
      exact balanced
    · intro token present
      rw [consumed token present]
      exact verifyBudgetIntegrity_ok_iff.mpr ⟨finalNodes ▸ nodes, finalEdges ▸ bounded.edges,
        finalHops ▸ bounded.hops, evidenceBound, tokenBound⟩

end ContextDb.Recall
