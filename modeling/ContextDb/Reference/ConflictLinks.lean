import ContextDb.Reference.CurrentView

/-! Liveness of the links between claims and conflict sets. The validator of a commit
resolves both ends in the histories, where deleted records still are. The links stay
live exactly along transactions that never delete or reuse one end without the other. -/

set_option autoImplicit false

namespace ContextDb.Reference

open Lib Std ContextDb.Core State SemanticTransaction

variable {codec : Codec} {state base : State} {draft : Draft} {id : LogicalId}

structure ConflictLinks (current : LogicalId → Option StoredRevision) (deleted : LogicalId → Bool) :
    Prop where
  claims : ∀ id revision conflictId, deleted id = false → current id = some revision →
    revision.record.kind = .claim → revision.record.links.conflictSet = some conflictId →
    deleted conflictId = false ∧ ∃ conflict, current conflictId = some conflict ∧
      conflict.record.kind = .conflict ∧ conflict.record.lifecycle = .active ∧
      id ∈ conflict.record.links.conflictMembers
  conflicts : ∀ id revision member, deleted id = false → current id = some revision →
    revision.record.kind = .conflict → member ∈ revision.record.links.conflictMembers →
    deleted member = false ∧ ∃ claim, current member = some claim ∧ claim.record.kind = .claim ∧
      claim.record.links.conflictSet = some id

structure KeepsConflictLinks (base : State) (effects : List Effect) : Prop where
  /-- A conflict set goes together with the claims in it that are left unwritten. -/
  cascade : ∀ conflictId id current, base.DeletedBy effects conflictId →
    base.deleted id = false → base.lookup id base.head = some current →
    current.record.kind = .claim → current.record.links.conflictSet = some conflictId →
    writtenLast id effects = none → base.DeletedBy effects id
  /-- A claim left written names no set that is deleted, before or now. -/
  claims : ∀ id metadata conflictId, writtenLast id effects = some metadata →
    metadata.kind = .claim → metadata.links.conflictSet = some conflictId →
      base.DeletedBy effects id ∨
      (base.deleted conflictId = false ∧ ¬ base.DeletedBy effects conflictId)
  /-- A conflict set left written lists no claim deleted now, and no id that a second
  write has turned into something else. -/
  conflicts : ∀ id metadata member, writtenLast id effects = some metadata →
    metadata.kind = .conflict → member ∈ metadata.links.conflictMembers →
    base.DeletedBy effects id ∨ (¬ base.DeletedBy effects member ∧
      ∀ written, writtenLast member effects = some written → written.kind = .claim)

def keepsConflictLinks (state : State) (operation : Operation) : Prop :=
  ∀ transaction, operation.transaction = some transaction →
    KeepsConflictLinks state (transaction.effects state)

variable {revision : StoredRevision} {member : LogicalId}

section

variable {effects : List Effect}

theorem KeepsConflictLinks.claim_set_live {conflictId : LogicalId}
    (keeps : KeepsConflictLinks base effects) (outcome : Outcome base effects draft)
    (links : ConflictLinks (base.lookup · base.head) base.deleted)
    (live : draft.state.deleted id = false)
    (found : draft.state.lookup id (base.head + 1) = some revision)
    (claim : revision.record.kind = .claim)
    (named : revision.record.links.conflictSet = some conflictId) :
    draft.state.deleted conflictId = false := by
  obtain ⟨liveBefore, notDeleted⟩ := outcome.live_iff.mp live
  rw [outcome.live_iff]
  rcases outcome.record_cases found with written | ⟨unwritten, current, stored, same⟩
  · exact (keeps.claims id _ conflictId written claim named).resolve_left notDeleted
  · rw [← same] at claim named
    refine ⟨(links.claims id current conflictId liveBefore stored claim named).1, ?_⟩
    intro deleted
    exact notDeleted (keeps.cascade conflictId id current deleted liveBefore stored claim named unwritten)

theorem Outcome.member_checked {metadata : LogicalRecordMetadata}
    (outcome : Outcome base effects draft) (last : writtenLast id effects = some metadata)
    (conflict : metadata.kind = .conflict) (listed : member ∈ metadata.links.conflictMembers) :
    base.deleted member = false ∧ (writtenLast member effects = none →
      ∀ current, base.lookup member base.head = some current → current.record.kind = .claim) := by
  obtain ⟨early, late, before, record, revision, split, earlyRun, drafting, _, rfl, facts⟩ :=
    outcome.written (mem_of_writtenLast last)
  have checks : record.metadata.Checks member := .inr (.inr (.inr ⟨conflict, listed⟩))
  have valid := validateRecord_ok facts.valid
  have active : before.state.ActiveKind (base.head + 1) .claim member := by
    have links := valid.links
    have kind : record.kind = .conflict := conflict
    simp only [validateLinks, kind] at links
    exact validateConflict_ok links member listed
  obtain ⟨live, claim, found, kind, _⟩ := active
  refine ⟨drafting.live_base live, ?_⟩
  intro unwritten current stored
  have unwrittenEarly : writtenLast member early = none := by
    rw [split] at unwritten
    exact writtenLast_append unwritten
  have same := record_runs outcome.sound earlyRun member
  rw [found, stored, unwrittenEarly, Option.none_or, Option.map_some, Option.map_some,
    Option.some.injEq] at same
  rw [← same, kind]

theorem KeepsConflictLinks.member_live (keeps : KeepsConflictLinks base effects)
    (outcome : Outcome base effects draft) (links : ConflictLinks
      (base.lookup · base.head) base.deleted)
    (live : draft.state.deleted id = false) (found : draft.state.lookup id
      (base.head + 1) = some revision)
    (conflict : revision.record.kind = .conflict)
    (listed : member ∈ revision.record.links.conflictMembers) :
    draft.state.deleted member = false ∧ ∀ claim, draft.state.lookup member
      (base.head + 1) = some claim → claim.record.kind = .claim := by
  obtain ⟨liveBefore, notDeleted⟩ := outcome.live_iff.mp live
  rw [outcome.live_iff]
  rcases outcome.record_cases found with written | ⟨_, current, stored, same⟩
  · obtain ⟨memberLive, unwrittenKind⟩ := outcome.member_checked written conflict listed
    obtain ⟨memberKept, writtenKind⟩ :=
      (keeps.conflicts id _ member written conflict listed).resolve_left notDeleted
    refine ⟨⟨memberLive, memberKept⟩, ?_⟩
    intro claim memberFound
    rcases outcome.record_cases memberFound with last | ⟨unwritten, before, memberStored, same⟩
    · exact writtenKind _ last
    · rw [← same]
      exact unwrittenKind unwritten before memberStored
  · rw [← same] at conflict listed
    obtain ⟨memberLive, claim, memberStored, claimKind, _⟩ :=
      links.conflicts id current member liveBefore stored conflict listed
    refine ⟨⟨memberLive, ?_⟩, ?_⟩
    · -- The conflict set depends on its members and would be deleted with one.
      rintro ⟨target, deletes, chain⟩
      have dependency : member ∈ current.record.links.dependencies := by
        simp [SemanticLinks.dependencies, listed]
      exact notDeleted ⟨target, deletes, chain.tail ⟨liveBefore, current, stored, dependency⟩⟩
    · intro after memberFound
      rcases outcome.record_cases memberFound with last | ⟨_, before, storedBefore, sameRecord⟩
      · rw [outcome.kind_kept last memberStored, claimKind]
      · rw [memberStored, Option.some.injEq] at storedBefore
        rw [← sameRecord, ← storedBefore, claimKind]

theorem conflictLinks_iff_keeps (outcome : Outcome base effects draft)
    (links : ConflictLinks (base.lookup · base.head) base.deleted) :
    ConflictLinks (draft.state.lookup · (base.head + 1)) draft.state.deleted ↔
      KeepsConflictLinks base effects := by
  have complete := completeLinks_of_validate outcome.complete
  constructor
  · intro after
    refine ⟨?_, ?_, ?_⟩
    · intro conflictId id current deleted live stored claim named unwritten
      by_contra kept
      have same := record_runs outcome.sound outcome.run id
      rw [unwritten, stored, Option.none_or, Option.map_some] at same
      obtain ⟨revision, found, sameRecord⟩ := Option.map_eq_some_iff.mp same
      rw [← sameRecord] at claim named
      have setLive := (after.claims id revision conflictId
        (outcome.live_iff.mpr ⟨live, kept⟩) found claim named).1
      exact (outcome.live_iff.mp setLive).2 deleted
    · intro id metadata conflictId last claim named
      by_cases deleted : base.DeletedBy effects id
      · exact .inl deleted
      · obtain ⟨revision, found, rfl⟩ := outcome.lookup_of_written last
        have live := outcome.live_iff.mpr ⟨outcome.live_of_written last, deleted⟩
        exact .inr (outcome.live_iff.mp
          (after.claims id revision conflictId live found claim named).1)
    · intro id metadata member last conflict listed
      by_cases deleted : base.DeletedBy effects id
      · exact .inl deleted
      · obtain ⟨revision, found, rfl⟩ := outcome.lookup_of_written last
        have live := outcome.live_iff.mpr ⟨outcome.live_of_written last, deleted⟩
        obtain ⟨memberLive, claim, memberFound, kind, _⟩ :=
          after.conflicts id revision member live found conflict listed
        refine .inr ⟨(outcome.live_iff.mp memberLive).2, ?_⟩
        intro written memberLast
        obtain ⟨memberRevision, memberWritten, rfl⟩ := outcome.lookup_of_written memberLast
        rw [memberFound, Option.some.injEq] at memberWritten
        rw [← memberWritten, kind]
  · intro keeps
    refine ⟨?_, ?_⟩
    · intro id revision conflictId live found claim named
      exact ⟨keeps.claim_set_live outcome links live found claim named,
        complete.claims id revision conflictId live found claim named⟩
    · intro id revision member live found conflict listed
      obtain ⟨memberLive, memberKind⟩ := keeps.member_live outcome links live found conflict listed
      obtain ⟨claim, memberFound, backLink⟩ :=
        complete.conflicts id revision live found conflict member listed
      exact ⟨memberLive, claim, memberFound, memberKind claim memberFound, backLink⟩

end

/-- Along transactions that meet the condition the links between claims and conflict
sets are mutual and live in every state reached. -/
theorem reachable_conflict_links_live (reachable : ReachableBy codec keepsConflictLinks state) :
    ConflictLinks (state.lookup · state.head) state.deleted := by
  refine reachable.current ConflictLinks ⟨?_, ?_⟩ ?_
  · intro id revision conflictId _ found
    cases found
  · intro id revision member _ found
    cases found
  · intro base operation transaction draft sound admitted carries links run complete
    exact (conflictLinks_iff_keeps ⟨sound.histories, run, complete⟩ links).mpr
      (admitted transaction carries)

def settledDispute : State :=
  (empty "db").commits plainCodec [plainDispute, [.delete "b" "owner" "request"]]

theorem surviving_claim_names_deleted_conflict_set :
    ReachableBy plainCodec anyOperation settledDispute ∧
      ¬ ConflictLinks (settledDispute.lookup · settledDispute.head) settledDispute.deleted := by
  refine ⟨(ReachableBy.empty (by decide)).commits fun _ _ _ _ => trivial, ?_⟩
  have view : settledDispute.deleted "a" = false ∧ settledDispute.deleted "c" = true ∧
      (settledDispute.lookup "a" settledDispute.head).map (·.record) =
        some (plainClaim "a" "w" "n" (some "c")).metadata := by decide +kernel
  obtain ⟨live, deleted, written⟩ := view
  obtain ⟨revision, found, record⟩ := Option.map_eq_some_iff.mp written
  intro links
  have setLive := (links.claims "a" revision "c" live found (by rw [record]; rfl)
    (by rw [record]; rfl)).1
  rw [deleted] at setLive
  cases setLive

private theorem plainDispute_keeps {key : String} : KeepsConflictLinks (empty "db")
    (effects (empty "db") ⟨0, key, plainDispute⟩) := by
  have noneDeleted : ∀ id, ¬ (empty "db").DeletedBy (effects (empty "db")
    ⟨0, key, plainDispute⟩) id := by
    rintro id ⟨target, listed, _⟩
    simp [effects, plainDispute, plainNode, Mutation.effects] at listed
  refine ⟨?_, ?_, ?_⟩
  · intro conflictId id current deleted
    exact absurd deleted (noneDeleted conflictId)
  · intro id metadata conflictId _ _ _
    exact .inr ⟨by simp [deleted, empty], noneDeleted conflictId⟩
  · intro id metadata member last conflict listed
    refine .inr ⟨noneDeleted member, ?_⟩
    intro written memberLast
    have members : member = "a" ∨ member = "b" := by
      have writes := mem_of_writtenLast last
      simp only [effects, plainDispute, plainNode, Mutation.effects,
        List.flatMap_cons, List.flatMap_nil, List.cons_append, List.nil_append, List.mem_cons,
        List.not_mem_nil, or_false, Effect.write.injEq] at writes
      rcases writes with ⟨_, rfl⟩ | ⟨_, rfl⟩ | ⟨_, rfl⟩ | ⟨_, rfl⟩
      · cases conflict
      · cases conflict
      · cases conflict
      · simpa [plainConflict, plainRecord, LogicalRecord.metadata] using listed
    rcases members with rfl | rfl <;> cases memberLast <;> rfl

/-- The dispute itself meets the condition: both claims are live members of the set. -/
theorem dispute_links_live :
    ReachableBy plainCodec keepsConflictLinks ((empty "db").commits plainCodec [plainDispute]) ∧
      ((empty "db").commits plainCodec [plainDispute]).head = 1 ∧ ConflictLinks
        (((empty "db").commits plainCodec [plainDispute]).lookup ·
          ((empty "db").commits plainCodec [plainDispute]).head)
        ((empty "db").commits plainCodec [plainDispute]).deleted := by
  have reachable : ReachableBy plainCodec keepsConflictLinks
    ((empty "db").commits plainCodec [plainDispute]) := by
    refine (ReachableBy.empty (by decide)).execute ?_
    intro transaction carries
    cases carries
    exact plainDispute_keeps
  exact ⟨reachable, by decide +kernel, reachable_conflict_links_live reachable⟩

end ContextDb.Reference
