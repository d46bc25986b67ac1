import ContextDb.Reference.Soundness
import ContextDb.Reference.PlainCodec

/-! The current view of a state: the revision of every id at the head, and which ids
are deleted. Observations leave it alone; a transaction replaces it by the view its
draft has at the new commit. -/

set_option autoImplicit false

namespace ContextDb.Reference

open Lib Std ContextDb.Core State

variable {codec : Codec} {state middle next : State} {id : LogicalId}

abbrev CurrentView := (LogicalId → Option StoredRevision) → (LogicalId → Bool) → Prop

variable {event : JournalEvent} {request : Value} {workspaces : WorkspaceCandidates} {atSeq : Nat}

theorem Publishes.lookup (publishes : Publishes codec middle event request workspaces next)
    : next.lookup id atSeq = middle.lookup id atSeq := by
  rw [State.lookup, State.lookup, publishes.histories]

theorem Publishes.deleted (publishes : Publishes codec middle event request workspaces next) :
    next.deleted = middle.deleted := by
  funext id
  rw [State.deleted, State.deleted, publishes.tombstones]

variable {input : ObservationInput}

theorem Captures.lookup (captures : Captures state input middle) :
    middle.lookup id atSeq = state.lookup id atSeq := by
  rw [State.lookup, State.lookup, captures.histories]

theorem Captures.deleted (captures : Captures state input middle) :
    middle.deleted = state.deleted := by
  funext id
  rw [State.deleted, State.deleted, captures.tombstones]

theorem Sound.lookup_head (sound : Sound codec state) : state.lookup id
    (state.head + 1) = state.lookup id state.head := by
  rw [sound.histories.lookup_of_le (Nat.le_succ _), sound.histories.lookup_of_le (Nat.le_refl _)]

variable {admits : State → Operation → Prop}

/-- A property of the current view that transactions preserve holds in every state
reached. -/
theorem ReachableBy.current (reachable : ReachableBy codec admits state) (holds : CurrentView)
    (begins : holds (fun _ => none) (fun _ => false))
    (committed : ∀ (base : State) (operation : Operation) (transaction : SemanticTransaction)
      (draft : Draft), Sound codec base → admits base operation →
      operation.transaction = some transaction → holds (base.lookup · base.head) base.deleted →
      Runs (Performs (base.head + 1)) { state := base, affectedIds := ∅ }
        (transaction.effects base) draft →
      validateCompleteState draft.state (base.head + 1) = .ok () →
      holds (draft.state.lookup · (base.head + 1)) draft.state.deleted) : holds
        (state.lookup · state.head) state.deleted := by
  refine reachable.invariant (fun state => holds (state.lookup · state.head) state.deleted) ?_ ?_
  · rintro initial ⟨databaseId, created⟩
    have created := rest_ok created
    cases created
    simp only [lookup, ExtTreeMap.getElem?_empty, Option.bind_none]
    exact begins
  · rintro base operation after reached held ⟨admitted, rfl⟩
    have sound := reachable_sound reached
    rcases execute_cases sound.histories operation with unchanged | published
    · rw [unchanged]
      exact held
    · cases published with
      | observation captures reference publishes =>
        simp only [publishes.lookup, captures.lookup, publishes.deleted, captures.deleted,
          publishes.head, captures.head, sound.lookup_head]
        exact held
      | transaction carries run complete kind reference publishes =>
        have head := ((Drafting.start sound.histories).runs run).head
        have view := committed base operation _ _ sound admitted carries held run complete
        simp only [publishes.lookup, publishes.deleted, publishes.head, head]
        exact view

/-- The links of claims and conflict sets that every commit checks. The looked-up ends
may be deleted. -/
structure CompleteLinks (current : LogicalId → Option StoredRevision) (deleted : LogicalId → Bool) :
    Prop where
  claims : ∀ id revision conflictId, deleted id = false → current id = some revision →
    revision.record.kind = .claim → revision.record.links.conflictSet = some conflictId →
    ∃ conflict, current conflictId = some conflict ∧ conflict.record.kind = .conflict ∧
      conflict.record.lifecycle = .active ∧ id ∈ conflict.record.links.conflictMembers
  conflicts : ∀ id revision, deleted id = false → current id = some revision →
    revision.record.kind = .conflict → ∀ member ∈ revision.record.links.conflictMembers,
    ∃ claim, current member = some claim ∧ claim.record.links.conflictSet = some id

theorem completeLinks_of_validate {atSeq : Nat} (complete : validateCompleteState state atSeq = .ok
    ()) :
    CompleteLinks (state.lookup · atSeq) state.deleted where
  claims _ _ conflictId live found claim named :=
    (validateCompleteState_ok complete live found).1 claim conflictId named
  conflicts _ _ live found conflict := (validateCompleteState_ok complete live found).2 conflict

theorem reachable_completeLinks (reachable : ReachableBy codec admits state) :
    CompleteLinks (state.lookup · state.head) state.deleted := by
  refine reachable.current CompleteLinks ⟨?_, ?_⟩ ?_
  · intro id revision conflictId _ found
    cases found
  · intro id revision _ found
    cases found
  · intro base operation transaction draft _ _ _ _ _ complete
    exact completeLinks_of_validate complete

/-! Single-valued claims. Cardinality is checked for the record being written against
the draft's own view at the commit, so the later write of a contending pair checks the
pair, in whatever order the mutations come. -/

variable {state : State}

def CardinalityHolds (current : LogicalId → Option StoredRevision) (deleted : LogicalId → Bool) :
    Prop :=
  ∀ left right leftRevision rightRevision, left ≠ right → deleted left = false →
    deleted right = false → current left = some leftRevision → current right = some rightRevision →
    Contends leftRevision.record rightRevision.record →
      leftRevision.record.links.conflictSet.isSome = true ∧
      leftRevision.record.links.conflictSet = rightRevision.record.links.conflictSet

variable {draft : Draft} {commitSeq : Nat}

theorem CardinalityHolds.write {record : LogicalRecord} {revision : StoredRevision} {value : Value}
    (holds : CardinalityHolds (draft.state.lookup · commitSeq) draft.state.deleted)
    (facts : WriteFacts commitSeq draft record revision) :
    CardinalityHolds ((draft.write revision value).state.lookup · commitSeq)
      (draft.write revision value).state.deleted := by
  have links := (validateRecord_ok facts.valid).links
  have sameLinks : revision.record.links = record.links := by
    rw [facts.metadata]
    rfl
  intro left right leftRevision rightRevision different leftLive rightLive leftFound rightFound contends
  simp only [Draft.lookup_write facts] at leftFound rightFound
  by_cases leftWritten : record.id = left
  · have rightOther : record.id ≠ right := fun same => different (leftWritten.symm.trans same)
    rw [if_pos leftWritten] at leftFound
    rw [if_neg rightOther] at rightFound
    cases leftFound
    rw [facts.metadata] at contends
    rw [sameLinks]
    exact validateCardinality_ok links rightOther.symm rightLive rightFound contends
  · rw [if_neg leftWritten] at leftFound
    by_cases rightWritten : record.id = right
    · rw [if_pos rightWritten] at rightFound
      cases rightFound
      rw [facts.metadata] at contends
      rw [sameLinks]
      obtain ⟨present, same⟩ := validateCardinality_ok links
        (Ne.symm leftWritten) leftLive leftFound contends.symm
      exact ⟨by rw [← same]; exact present, same.symm⟩
    · rw [if_neg rightWritten] at rightFound
      exact holds left right leftRevision rightRevision different leftLive rightLive leftFound rightFound contends

theorem CardinalityHolds.erase {target requestedBy : LogicalId} {reason : String}
    (holds : CardinalityHolds (draft.state.lookup · commitSeq) draft.state.deleted) :
    CardinalityHolds ((draft.erase target requestedBy reason commitSeq).state.lookup · commitSeq)
      (draft.erase target requestedBy reason commitSeq).state.deleted := by
  intro left right leftRevision rightRevision different leftLive rightLive leftFound rightFound
  simp only [Draft.sameRecords_erase.lookup] at leftFound rightFound
  exact holds left right leftRevision rightRevision different (Draft.live_of_erase leftLive).2
    (Draft.live_of_erase rightLive).2 leftFound rightFound

theorem reachable_cardinalityHolds (reachable : ReachableBy codec admits state) :
    CardinalityHolds (state.lookup · state.head) state.deleted := by
  refine reachable.current CardinalityHolds ?_ ?_
  · intro left right leftRevision rightRevision _ _ _ found
    cases found
  · intro base operation transaction draft sound _ _ held run _
    refine run.preserves (fun draft => CardinalityHolds
      (draft.state.lookup · (base.head + 1)) draft.state.deleted) ?_ ?_
    · simp only [sound.lookup_head]
      exact held
    · intro before effect after _ holds performed
      cases performed with
      | write value facts => exact holds.write facts
      | delete requestedBy reason live known => exact holds.erase

/-- In every reachable state, two live active single-valued claims of one slot carry
one common conflict set. -/
theorem reachable_single_valued_claims_share_conflict_set
    (reachable : ReachableBy codec anyOperation state) {left right : LogicalId}
    {leftRevision rightRevision : StoredRevision} (different : left ≠ right)
    (leftLive : state.deleted left = false) (rightLive : state.deleted right = false)
    (leftFound : state.lookup left state.head = some leftRevision)
    (rightFound : state.lookup right state.head = some rightRevision)
    (contends : Contends leftRevision.record rightRevision.record) :
    ∃ conflictSet, conflictSet ≠ "" ∧
      leftRevision.record.links.conflictSet = some conflictSet ∧
      rightRevision.record.links.conflictSet = some conflictSet := by
  obtain ⟨present, same⟩ := reachable_cardinalityHolds reachable left right leftRevision
    rightRevision different leftLive rightLive leftFound rightFound contends
  obtain ⟨conflictSet, named⟩ := Option.isSome_iff_exists.mp present
  refine ⟨conflictSet, ?_, named, same.symm.trans named⟩
  obtain ⟨conflict, known, _⟩ := (reachable_completeLinks reachable).claims left leftRevision
    conflictSet leftLive leftFound contends.1 named
  obtain ⟨history, stored, member⟩ := lookup_mem known
  have facts := (reachable_sound reachable).histories.revisions conflictSet history stored conflict member
  rintro rfl
  exact absurd facts.named (by decide)

/-- Two disputing claims written in one transaction share the set written after them. -/
theorem disputing_claims_share_conflict_set :
    ∃ left right, ((empty "db").commits plainCodec [plainDispute]).lookup "a" 1 = some left ∧
      ((empty "db").commits plainCodec [plainDispute]).lookup "b" 1 = some right ∧
      ∃ conflictSet, conflictSet ≠ "" ∧ left.record.links.conflictSet = some conflictSet ∧
        right.record.links.conflictSet = some conflictSet := by
  have reachable : ReachableBy plainCodec anyOperation ((empty "db").commits plainCodec
    [plainDispute]) :=
    (ReachableBy.empty (by decide)).commits fun _ _ _ _ => trivial
  have head : ((empty "db").commits plainCodec [plainDispute]).head = 1 := by decide +kernel
  have leftStored : (((empty "db").commits plainCodec [plainDispute]).lookup "a" 1).map
      (·.record) = some (plainClaim "a" "w" "n" (some "c")).metadata := by decide +kernel
  have rightStored : (((empty "db").commits plainCodec [plainDispute]).lookup "b" 1).map
      (·.record) = some (plainClaim "b" "w" "n" (some "c")).metadata := by decide +kernel
  obtain ⟨left, leftFound, leftRecord⟩ := Option.map_eq_some_iff.mp leftStored
  obtain ⟨right, rightFound, rightRecord⟩ := Option.map_eq_some_iff.mp rightStored
  refine ⟨left, right, leftFound, rightFound, ?_⟩
  refine reachable_single_valued_claims_share_conflict_set reachable (by decide : "a" ≠ "b")
    (by decide +kernel) (by decide +kernel) (by rw [head]; exact leftFound)
    (by rw [head]; exact rightFound) ?_
  rw [leftRecord, rightRecord]
  exact ⟨rfl, rfl, rfl, rfl, rfl, rfl, rfl, rfl, rfl, rfl⟩

end ContextDb.Reference
