import ContextDb.Recall.Budgets

/-! The selection loop in terms of the documents it takes. A stretch of candidates whose
evidence fits records exactly the open conflicts, the unsupported documents and the facets
of its documents, and the digests of the evidence it returns. -/

set_option autoImplicit false

namespace ContextDb.Recall

open Std Lib ContextDb.Core RecallEngine ExtTreeSet BTreeSet

/-- The state after a stretch of candidates is taken. -/
def RecallEngine.takeAll (engine : RecallEngine) (request : DeterministicRecallRequest)
    (candidates : List RankedCandidate) (state : SelectionState) : SelectionState :=
  candidates.foldl (engine.afterTaking request) state

/-- No candidate of the stretch overflows the evidence limit. -/
def RecallEngine.RoomAlong (engine : RecallEngine) (request : DeterministicRecallRequest) :
    List RankedCandidate → SelectionState → Prop
  | [], _ => True
  | candidate :: rest, state =>
    evidenceOverflows request state.usage.evidenceUnits
        (engine.choiceAt request state candidate).newEvidenceCount = false ∧
      engine.RoomAlong request rest (engine.afterTaking request state candidate)

variable {engine : RecallEngine} {request : DeterministicRecallRequest} {gate : MemoryGateDecision}
  {candidate : RankedCandidate} {candidates : List RankedCandidate} {state : SelectionState}
  {set : String} {id : DocumentId} {facet : String}

@[simp] theorem takeAll_cons : engine.takeAll request (candidate :: candidates) state =
    engine.takeAll request candidates (engine.afterTaking request state candidate) :=
  rfl

@[simp] theorem afterTaking_clock : (engine.afterTaking request state candidate).clock =
    state.clock.tick :=
  rfl

@[simp] theorem afterTaking_items : (engine.afterTaking request state candidate).selection.items =
    state.selection.items ++
      [engine.recallItem candidate (engine.choiceAt request state candidate)] :=
  rfl

/-- Without overflow the choice is the qualified decision with all its fresh evidence. -/
theorem choiceAt_free (room : evidenceOverflows request state.usage.evidenceUnits
      (engine.choiceAt request state candidate).newEvidenceCount = false) :
    (engine.choiceAt request state candidate).decision =
      qualifiedDecision request candidate.document ∧
      (engine.choiceAt request state candidate).evidence =
        engine.freshEvidence request state.usedEvidence candidate.document ∧
      (engine.choiceAt request state candidate).unsupported =
        lacksEvidence request candidate.document := by
  simp only [choiceAt, choose] at room ⊢
  simp [room]

theorem choiceAt_evidence_of_withheld
    (withheld : (engine.choiceAt request state candidate).decision.isIncluded = false) :
    (engine.choiceAt request state candidate).evidence = [] := by
  cases overflow : evidenceOverflows request state.usage.evidenceUnits
    (engine.choiceAt request state candidate).newEvidenceCount with
  | true =>
    simp only [choiceAt, choose] at overflow ⊢
    simp [overflow]
  | false =>
    obtain ⟨decision, evidence, _⟩ := choiceAt_free overflow
    rw [decision] at withheld
    rw [evidence, freshEvidence, withheld]
    rfl

theorem mem_unresolved_afterTaking :
    set ∈ (engine.afterTaking request state candidate).selection.unresolvedConflicts ↔
      set ∈ state.selection.unresolvedConflicts ∨ unresolvedSet candidate.document = some set := by
  change set ∈ state.selection.unresolvedConflicts.insertMany
    (unresolvedSet candidate.document).toList ↔ _
  rw [mem_insertMany, Option.mem_toList]

theorem mem_unsupported_afterTaking :
    id ∈ (engine.afterTaking request state candidate).selection.unsupportedDocuments ↔
      id ∈ state.selection.unsupportedDocuments ∨
        ((engine.choiceAt request state candidate).unsupported = true ∧
          candidate.document.id = id) := by
  change id ∈ (if (engine.choiceAt request state candidate).unsupported then
    state.selection.unsupportedDocuments.insert candidate.document.id else state.selection.unsupportedDocuments) ↔ _
  split
  · rename_i unsupported
    rw [mem_insert, Std.compare_eq_iff_eq]
    simp [unsupported, or_comm]
  · rename_i supported
    simp [supported]

theorem mem_covered_afterTaking :
    facet ∈ (engine.afterTaking request state candidate).selection.coveredFacets ↔
      facet ∈ state.selection.coveredFacets ∨
        ((engine.choiceAt request state candidate).decision.isIncluded = true ∧
          facet ∈ engine.coveredBy candidate.document request) := by
  change facet ∈ (if (engine.choiceAt request state candidate).decision.isIncluded then
    state.selection.coveredFacets.insertMany
      (engine.coveredBy candidate.document request) else state.selection.coveredFacets) ↔ _
  split
  · rename_i included
    rw [mem_insertMany]
    simp [included]
  · rename_i withheld
    simp [withheld]

/-! What a stretch without overflow records, in terms of its documents. -/

theorem mem_unresolved_takeAll :
    set ∈ (engine.takeAll request candidates state).selection.unresolvedConflicts ↔
      set ∈ state.selection.unresolvedConflicts ∨
        ∃ candidate ∈ candidates, unresolvedSet candidate.document = some set := by
  induction candidates generalizing state with
  | nil => simp [takeAll]
  | cons candidate rest ih =>
    rw [takeAll_cons, ih, mem_unresolved_afterTaking, or_assoc, List.exists_mem_cons_iff]

theorem mem_unsupported_takeAll (room : engine.RoomAlong request candidates state) :
    id ∈ (engine.takeAll request candidates state).selection.unsupportedDocuments ↔
      id ∈ state.selection.unsupportedDocuments ∨
        ∃ candidate ∈ candidates, lacksEvidence request candidate.document = true ∧
          candidate.document.id = id := by
  induction candidates generalizing state with
  | nil => simp [takeAll]
  | cons candidate rest ih =>
    rw [takeAll_cons, ih room.2, mem_unsupported_afterTaking, or_assoc, List.exists_mem_cons_iff,
      (choiceAt_free room.1).2.2]

theorem mem_covered_takeAll (room : engine.RoomAlong request candidates state) :
    facet ∈ (engine.takeAll request candidates state).selection.coveredFacets ↔
      facet ∈ state.selection.coveredFacets ∨ ∃ candidate ∈ candidates,
          (qualifiedDecision request candidate.document).isIncluded = true ∧
            facet ∈ engine.coveredBy candidate.document request := by
  induction candidates generalizing state with
  | nil => simp [takeAll]
  | cons candidate rest ih =>
    rw [takeAll_cons, ih room.2, mem_covered_afterTaking, or_assoc, List.exists_mem_cons_iff,
      (choiceAt_free room.1).1]

/-- The digests in use are those restored and those of the evidence returned. -/
def EvidenceRecorded (engine : RecallEngine) (base : BTreeSet String) (state : SelectionState) :
    Prop :=
  ∀ digest, digest ∈ state.usedEvidence ↔ digest ∈ base ∨
    digest ∈ state.selection.evidence.map fun item => engine.evidenceDigest item.evidence

variable {base : BTreeSet String}

theorem EvidenceRecorded.afterTaking (recorded : EvidenceRecorded engine base state) :
    EvidenceRecorded engine base (engine.afterTaking request state candidate) := by
  intro digest
  have used : digest ∈ (engine.afterTaking request state candidate).usedEvidence ↔
    digest ∈ state.usedEvidence ∨
        digest ∈ (engine.choiceAt request state candidate).evidence.map engine.evidenceDigest :=
    mem_insertMany
  rw [used, recorded digest, or_assoc]
  refine or_congr_right ?_
  cases included : (engine.choiceAt request state candidate).decision.isIncluded with
  | true =>
    have returned : (engine.afterTaking request state candidate).selection.evidence =
        state.selection.evidence ++ selectedEvidence request candidate.document
          (engine.choiceAt request state candidate).evidence := by
      simp [RecallEngine.afterTaking, accept, record, included]
    rw [returned, List.map_append, List.mem_append]
    refine or_congr_right ?_
    simp only [selectedEvidence, List.map_map]
    rfl
  | false =>
    have returned : (engine.afterTaking request state candidate).selection.evidence =
      state.selection.evidence := by
      simp [RecallEngine.afterTaking, accept, record, included]
    rw [returned, choiceAt_evidence_of_withheld included]
    simp

theorem suffices_eq_true_iff {selection : Selection} : selection.suffices gate = true ↔
      (∀ facet ∈ gate.mandatoryFacets, facet ∈ selection.coveredFacets) ∧
      (∀ set, set ∉ selection.unresolvedConflicts) ∧
        (∀ id, id ∉ selection.unsupportedDocuments) ∧ selection.hasIncluded = true := by
  simp only [Selection.suffices, mandatoryCovered, Bool.and_eq_true, isSubset_iff,
    ExtTreeSet.isEmpty_iff, ExtTreeSet.eq_empty_iff_forall_not_mem, and_assoc]

end ContextDb.Recall
