import ContextDb.Reference.CurrentView

/-! Deletion and dependency. Deleting an id also deletes what depended on it at the old
head, and erases what the journal held of it by then. What the deleting transaction itself
writes is reached by neither. -/

set_option autoImplicit false

namespace ContextDb.Reference

open Lib Std ContextDb.Core

variable {codec : Codec} {state base : State} {draft : Draft} {id : LogicalId}
  {revision : StoredRevision}

/-! ### Records written beside a deletion

A deletion takes what depended on its target at the old head. A record that the same
transaction writes is checked against the draft instead, so it may name an id that a later
deletion takes, and it stays. -/

def LinksLive : CurrentView := fun lookup deleted =>
  ∀ (id dependency : LogicalId) (revision : StoredRevision), deleted id = false →
    lookup id = some revision →
    dependency ∈ revision.record.links.dependencies → deleted dependency = false

/-- What a transaction leaves written, and does not delete, names no id that is deleted
before it or by it. -/
def WritesApart (base : State) (effects : List Effect) : Prop :=
  ∀ (id dependency : LogicalId) (metadata : LogicalRecordMetadata), writtenLast id effects =
    some metadata →
    dependency ∈ metadata.links.dependencies →
      base.DeletedBy effects id ∨ (base.deleted dependency = false ∧
        ¬ base.DeletedBy effects dependency)

def writesApart (state : State) (operation : Operation) : Prop :=
  ∀ transaction, operation.transaction = some transaction →
    WritesApart state (transaction.effects state)

theorem linksLive_of_writesApart {effects : List Effect} (outcome : Outcome base effects draft)
    (links : LinksLive (base.lookup · base.head) base.deleted) (apart : WritesApart base effects) :
    LinksLive (draft.state.lookup · (base.head + 1)) draft.state.deleted := by
  intro id dependency revision live found named
  obtain ⟨liveBefore, kept⟩ := outcome.live_iff.mp live
  rw [outcome.live_iff]
  rcases outcome.record_cases found with last | ⟨_, current, stored, same⟩
  · exact (apart id dependency _ last named).resolve_left kept
  · -- An unwritten record would have been deleted with what it names.
    rw [← same] at named
    refine ⟨links id dependency current liveBefore stored named, ?_⟩
    rintro ⟨target, listed, chain⟩
    exact kept ⟨target, listed, chain.tail ⟨liveBefore, current, stored, named⟩⟩

/-! ### The request of the last deletion -/

def State.ContentsErased (state : State) : Prop :=
  ∀ id, state.deleted id = true → ∀ key ∈ state.erasedContentRefs id, state.contents.contains key =
    false

/-- Either nothing is deleted or some deleted id still has content. -/
def State.LeavesContent (state : State) : Prop :=
  (∀ id, state.deleted id = false) ∨ ∃ id key, state.deleted id = true ∧
    key ∈ state.erasedContentRefs id ∧
    state.contents.contains key = true

theorem State.contentsErased_iff (leaves : state.LeavesContent) :
    state.ContentsErased ↔ ∀ id, state.deleted id = false := by
  constructor
  · intro erased
    rcases leaves with none | ⟨id, key, deleted, listed, present⟩
    · exact none
    · rw [erased id deleted key listed] at present
      cases present
  · intro none id deleted
    rw [none id] at deleted
    cases deleted

theorem State.LeavesContent.write {record : LogicalRecord} {commitSeq : Nat}
    (facts : WriteFacts commitSeq draft record revision) (value : Value)
    (leaves : draft.state.LeavesContent) :
    (draft.write revision value).state.LeavesContent := by
  rcases leaves with none | ⟨id, key, deleted, listed, present⟩
  · exact .inl none
  · refine .inr ⟨id, key, deleted, ?_, ?_⟩
    · -- The written record is live, so the histories of the deleted id are as before.
      have apart : revision.id ≠ id := by
        rintro rfl
        rw [facts.id, facts.live] at deleted
        cases deleted
      change key ∈ (draft.state.storeRevision revision value).erasedContentRefs id
      rw [State.erasedContentRefs, State.histories_storeRevision, if_neg apart]
      exact listed
    · change (draft.state.contents.insert _ value).contains key = true
      simp [present]

/-- Along a transaction: either it has deleted an id that its own request will name, or the
content that was left is still there. -/
theorem leavesContent_runs {effects : List Effect} {commitSeq : Nat} {start : Draft}
    (leaves : start.state.LeavesContent)
    (run : Runs (Performs commitSeq) start effects draft) :
    (∃ id ∈ draft.affectedIds, draft.state.deleted id = true) ∨ draft.state.LeavesContent := by
  refine run.preserves (fun draft => (∃ id ∈ draft.affectedIds, draft.state.deleted id = true) ∨
    draft.state.LeavesContent) (.inr leaves) ?_
  intro before effect after _ held performed
  cases performed with
  | write value facts =>
    rcases held with ⟨id, affected, deleted⟩ | left
    · exact .inl ⟨id, ExtTreeSet.mem_insert.mpr (.inr affected), deleted⟩
    · exact .inr (left.write facts value)
  | @delete target requestedBy reason live known =>
    refine .inl ⟨target, ?_, Draft.deleted_erase.mpr (.inl .refl)⟩
    have taken : target ∈ (before.state.deletionClosure target).toList :=
      ExtTreeSet.mem_toList.mpr (mem_deletionClosure_iff.mpr .refl)
    simp [Draft.erase, taken]

theorem State.LeavesContent.publish {middle next : State} {event : JournalEvent} {request : Value}
    {workspaces : WorkspaceCandidates}
    (publishes : Publishes codec middle event request workspaces next)
    (leaves : (∃ id, middle.deleted id = true ∧ event.requestFor id =
      some event.requestContent.id) ∨
      middle.LeavesContent) : next.LeavesContent := by
  obtain ⟨digest, _, journal⟩ := publishes.journal
  have refs : ∀ id key, key ∈ middle.erasedContentRefs id ∨ event.requestFor id = some key →
      key ∈ next.erasedContentRefs id := by
    intro id key listed
    rw [State.erasedContentRefs, publishes.histories, publishes.observations, journal,
      List.filterMap_append,
      ← List.append_assoc]
    rcases listed with earlier | requested
    · exact List.mem_append_left _ earlier
    · exact List.mem_append_right _ (by simp [requested])
  have contents : ∀ key, middle.contents.contains key = true →
    next.contents.contains key = true := by
    intro key present
    rw [publishes.contents]
    simp [present]
  rw [State.LeavesContent, publishes.deleted]
  rcases leaves with ⟨id, deleted, requested⟩ | none | ⟨id, key, deleted, listed, present⟩
  · refine .inr ⟨id, _, deleted, refs id _ (.inr requested), ?_⟩
    rw [publishes.contents]
    simp
  · exact .inl none
  · exact .inr ⟨id, key, deleted, refs id key (.inl listed), contents key present⟩

theorem State.LeavesContent.capture {input : ObservationInput} {captured : State}
    (captures : Captures state input captured)
    (leaves : state.LeavesContent) : captured.LeavesContent := by
  obtain ⟨record, _, _, _, observations, value, contents⟩ := captures.observation
  rw [State.LeavesContent, captures.deleted]
  rcases leaves with none | ⟨id, key, deleted, listed, present⟩
  · exact .inl none
  · refine .inr ⟨id, key, deleted, ?_, ?_⟩
    · have apart : input.observationId ≠ id := by
        rintro rfl
        rw [captures.unusedDeleted] at deleted
        cases deleted
      rw [State.erasedContentRefs, captures.histories, captures.journal, observations,
        BTreeMap.getElem?_insert_of_ne apart]
      exact listed
    · rw [contents]
      simp [present]

theorem reachable_leavesContent {admits : State → Operation → Prop}
    (reachable : ReachableBy codec admits state) :
    state.LeavesContent := by
  refine reachable.invariant (fun state => state.LeavesContent) ?_ ?_
  · rintro initial ⟨databaseId, created⟩
    have created := rest_ok created
    cases created
    exact .inl fun id => by simp [State.deleted]
  · rintro base operation after reached held ⟨_, rfl⟩
    have sound := reachable_sound reached
    rcases execute_cases sound.histories operation with unchanged | published
    · rw [unchanged]
      exact held
    · cases published with
      | observation captures reference publishes => exact .publish publishes (.inr (held.capture captures))
      | transaction carries run complete kind reference publishes =>
        refine .publish publishes ?_
        rcases leavesContent_runs held run with ⟨id, affected, deleted⟩ | left
        · exact .inl ⟨id, deleted, by simp [JournalEvent.requestFor, JournalEvent.requestContent, affected]⟩
        · exact .inr left

/-- Along transactions that write apart from their deletions no live record names a deleted
id. What a deletion leaves of its own request makes the second half hold exactly as long as
nothing is deleted. -/
theorem deletion_closed_when_apart (codec : Codec) (state : State) :
    (ReachableBy codec writesApart state → LinksLive (state.lookup · state.head) state.deleted) ∧
      (ReachableBy codec anyOperation state → (state.ContentsErased ↔ ∀ id,
        state.deleted id = false)) := by
  refine ⟨fun reachable => ?_, fun reachable => State.contentsErased_iff
    (reachable_leavesContent reachable)⟩
  refine reachable.current LinksLive (fun id dependency revision _ found => by cases found) ?_
  intro base operation transaction draft sound admitted carries links run complete
  exact linksLive_of_writesApart ⟨sound.histories, run, complete⟩ links
    (admitted transaction carries)

def claimOfDeleted : State :=
  (State.empty "db").commits plainCodec
    [[plainNode "n" "w"], [.put (plainClaim "a" "w" "n" none) none, .delete "n" "owner" "request"]]

private theorem claimOfDeleted_view : claimOfDeleted.deleted "a" = false ∧
    (claimOfDeleted.tombstones["n"]?).isSome = true ∧
      (claimOfDeleted.lookup "a" claimOfDeleted.head).map
      (·.record.links.dependencies.contains "n") = some true ∧
      (claimOfDeleted.erasedContentRefs "n").any claimOfDeleted.contents.contains = true := by
  decide +kernel

private theorem claimOfDeleted_reachable : ReachableBy plainCodec anyOperation claimOfDeleted :=
  (ReachableBy.empty (by decide)).commits fun _ _ _ _ => trivial

theorem claim_outlives_deleted_subject : ReachableBy plainCodec anyOperation claimOfDeleted ∧
      ∃ tombstone revision key, claimOfDeleted.tombstones["n"]? = some tombstone ∧
        claimOfDeleted.deleted "a" = false ∧ claimOfDeleted.lookup "a" claimOfDeleted.head =
          some revision ∧
        "n" ∈ revision.record.links.dependencies ∧
        key ∈ claimOfDeleted.erasedContentRefs "n" ∧ claimOfDeleted.contents.contains key =
          true := by
  obtain ⟨live, stored, written, kept⟩ := claimOfDeleted_view
  obtain ⟨tombstone, deleted⟩ := Option.isSome_iff_exists.mp stored
  obtain ⟨revision, found, named⟩ := Option.map_eq_some_iff.mp written
  obtain ⟨key, listed, present⟩ := List.any_eq_true.mp kept
  exact ⟨claimOfDeleted_reachable, tombstone, revision, key, deleted, live, found,
    List.contains_iff_mem.mp named, listed, present⟩

def retiredSubject : State :=
  (State.empty "db").commits plainCodec
    [[plainNode "n" "w", .put (plainClaim "a" "w" "n" none) none],
      [plainNode "m" "w", .delete "n" "owner" "request"]]

private theorem retiredSubject_reachable : ReachableBy plainCodec writesApart retiredSubject := by
  refine ReachableBy.execute (ReachableBy.execute (ReachableBy.empty (by decide)) ?_) ?_
  · intro transaction carries
    cases carries
    intro id dependency metadata _ _
    refine .inr ⟨by simp [State.deleted, State.empty], ?_⟩
    rintro ⟨target, listed, _⟩
    simp [SemanticTransaction.effects, plainNode, Mutation.effects] at listed
  · intro transaction carries
    cases carries
    intro id dependency metadata last named
    have writes := mem_of_writtenLast last
    simp only [SemanticTransaction.effects, plainNode, Mutation.effects, List.flatMap_cons,
      List.flatMap_nil,
      List.cons_append, List.nil_append, List.mem_cons, List.not_mem_nil, or_false, Effect.write.injEq,
      reduceCtorEq] at writes
    -- The only record it leaves written is a node without links.
    obtain ⟨_, rfl⟩ := writes
    simp [plainRecord, LogicalRecord.metadata, noLinks, SemanticLinks.dependencies] at named

/-- Deleting a subject takes its claim along; the deleting request stays. -/
theorem retired_subject_closed :
    LinksLive (retiredSubject.lookup · retiredSubject.head) retiredSubject.deleted ∧
    retiredSubject.deleted "a" = true ∧ ¬ retiredSubject.ContentsErased := by
  have any : ReachableBy plainCodec anyOperation retiredSubject :=
    (ReachableBy.empty (by decide)).commits fun _ _ _ _ => trivial
  have deleted : retiredSubject.deleted "a" = true := by decide +kernel
  obtain ⟨links, contents⟩ := deletion_closed_when_apart plainCodec retiredSubject
  refine ⟨links retiredSubject_reachable, deleted, fun erased => ?_⟩
  rw [(contents any).mp erased "a"] at deleted
  cases deleted

/-- No deletion takes content away from a record that is not deleted. -/
theorem reachable_contents_present (reachable : ReachableBy codec anyOperation state)
    {id : LogicalId}
    {history : List StoredRevision} (live : state.deleted id = false)
    (stored : state.histories[id]? = some history) :
    ∀ revision ∈ history, state.contents.contains revision.content.id = true :=
  (reachable_sound reachable).present id history live stored

theorem surviving_claim_content_present : ∃ history, claimOfDeleted.histories["a"]? = some history ∧
      ∀ revision ∈ history, claimOfDeleted.contents.contains revision.content.id = true := by
  have known : (claimOfDeleted.histories["a"]?).isSome = true := by decide +kernel
  obtain ⟨history, stored⟩ := Option.isSome_iff_exists.mp known
  exact ⟨history, stored, reachable_contents_present claimOfDeleted_reachable claimOfDeleted_view.1 stored⟩

end ContextDb.Reference
