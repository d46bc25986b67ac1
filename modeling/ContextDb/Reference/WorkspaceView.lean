import ContextDb.Reference.CurrentView

/-! What a workspace can see of a state, and the operations that leave it alone. -/

set_option autoImplicit false

namespace ContextDb.Reference

open Lib Std ContextDb.Core State List ExtTreeMap ExtTreeSet BTreeMap

variable {codec : Codec} {state base middle next later : State} {draft : Draft} {workspace id : LogicalId}

def State.visibleIn (state : State) (atSeq : Nat) (workspace id : LogicalId) : Option (StoredRevision × Option Value) :=
  if state.deleted id then none
  else ((state.lookup id atSeq).filter (·.record.access.workspace = workspace)).map fun revision =>
    (revision, state.contents[revision.content.id]?)

structure SameWorkspace (workspace : LogicalId) (state later : State) : Prop where
  databaseId : later.databaseId = state.databaseId
  candidates : later.securityIndexes.historiesByWorkspace[workspace]? =
    state.securityIndexes.historiesByWorkspace[workspace]?
  journalIndex : later.securityIndexes.journalByWorkspace[workspace]? =
    state.securityIndexes.journalByWorkspace[workspace]?
  eventIndex : later.securityIndexes.eventsByWorkspace[workspace]? = state.securityIndexes.eventsByWorkspace[workspace]?
  journal : ∃ added, later.journal = state.journal ++ added
  view : ∀ id, later.visibleIn later.head workspace id = state.visibleIn state.head workspace id

theorem SameWorkspace.refl (workspace : LogicalId) (state : State) : SameWorkspace workspace state state :=
  ⟨rfl, rfl, rfl, rfl, ⟨[], (append_nil _).symm⟩, fun _ => rfl⟩

theorem SameWorkspace.trans (first : SameWorkspace workspace state middle)
    (second : SameWorkspace workspace middle later) : SameWorkspace workspace state later where
  databaseId := second.databaseId.trans first.databaseId
  candidates := second.candidates.trans first.candidates
  journalIndex := second.journalIndex.trans first.journalIndex
  eventIndex := second.eventIndex.trans first.eventIndex
  journal := by
    obtain ⟨early, firstJournal⟩ := first.journal
    obtain ⟨late, secondJournal⟩ := second.journal
    exact ⟨early ++ late, by rw [secondJournal, firstJournal, append_assoc]⟩
  view id := (second.view id).trans (first.view id)

variable {operation : Operation}

def State.BelongsTo (state : State) (workspace id : LogicalId) : Prop :=
  (state.lookup id state.head).map (·.record.access.workspace) = some workspace ∨
    state.observations[id]?.map (·.access.workspace) = some workspace

def Mutation.Avoids (workspace : LogicalId) (state : State) : Mutation → Prop
  | .put record _ => record.access.workspace ≠ workspace
  | .correct target replacement =>
    ¬ state.BelongsTo workspace target ∧ replacement.access.workspace ≠ workspace
  | .retract target => ¬ state.BelongsTo workspace target
  | .delete target _ _ => ¬ state.BelongsTo workspace target

def Operation.Avoids (workspace : LogicalId) (state : State) : Operation → Prop
  | .observe input _ => input.access.workspace ≠ workspace
  | .commit transaction _ => ∀ mutation ∈ transaction.mutations, mutation.Avoids workspace state
  | .commitCanonical transaction _ =>
    ∀ mutation ∈ transaction.mutations, mutation.Avoids workspace state

/-- No deletion reaches a record of the workspace through its dependents. -/
def Operation.CascadesOutside (workspace : LogicalId) (state : State) (operation : Operation) : Prop :=
  ∀ transaction, operation.transaction = some transaction →
    ∀ target, .delete target ∈ transaction.effects state → ∀ id, state.DeletedWith target id →
      (state.lookup id state.head).map (·.record.access.workspace) ≠ some workspace

structure ForeignEffects (workspace : LogicalId) (base : State) (effects : List Effect) : Prop where
  writes : ∀ id metadata, .write id metadata ∈ effects → metadata.access.workspace ≠ workspace
  observations : ∀ target (record : ObservationRecord), .delete target ∈ effects →
    base.observations[target]? = some record → record.access.workspace ≠ workspace
  cascades : ∀ target id current, .delete target ∈ effects → base.DeletedWith target id →
    base.lookup id base.head = some current → current.record.access.workspace ≠ workspace

variable {target : LogicalId} {lifecycle : Lifecycle}

private theorem mem_lifecycleWrite {effect : Effect} (listed : effect ∈ base.lifecycleWrite target lifecycle) :
    ∃ current, base.lookup target base.head = some current ∧ effect = .write target { current.record with lifecycle } := by
  rw [lifecycleWrite, Option.mem_toList] at listed
  obtain ⟨current, found, rfl⟩ := Option.map_eq_some_iff.mp listed
  exact ⟨current, found, rfl⟩

variable {metadata : LogicalRecordMetadata}

/-- A lifecycle change stays in the workspace of the record that it changes. -/
private theorem lifecycleWrite_foreign (avoids : ¬ base.BelongsTo workspace target)
    (listed : .write id metadata ∈ base.lifecycleWrite target lifecycle) : metadata.access.workspace ≠ workspace := by
  obtain ⟨current, found, same⟩ := mem_lifecycleWrite listed
  cases same
  rintro rfl
  exact avoids (.inl (by rw [found]; rfl))

variable {mutation : Mutation}

theorem Mutation.Avoids.writes (avoids : mutation.Avoids workspace base) (listed : .write id metadata ∈ mutation.effects base) :
    metadata.access.workspace ≠ workspace := by
  cases mutation with
  | put record expected =>
    cases mem_singleton.mp listed
    exact avoids
  | correct target replacement =>
    rcases mem_append.mp listed with lifecycle | written
    · exact lifecycleWrite_foreign avoids.1 lifecycle
    · cases mem_singleton.mp written
      exact avoids.2
  | retract target => exact lifecycleWrite_foreign avoids listed
  | delete target requestedBy reason => cases mem_singleton.mp listed

theorem Mutation.Avoids.deletes (avoids : mutation.Avoids workspace base) (listed : .delete target ∈ mutation.effects base) :
    ¬ base.BelongsTo workspace target := by
  cases mutation with
  | put record expected => cases mem_singleton.mp listed
  | correct revised replacement =>
    rcases mem_append.mp listed with lifecycle | written
    · obtain ⟨_, _, same⟩ := mem_lifecycleWrite lifecycle
      cases same
    · cases mem_singleton.mp written
  | retract revised =>
    obtain ⟨_, _, same⟩ := mem_lifecycleWrite listed
    cases same
  | delete deleted requestedBy reason =>
    cases mem_singleton.mp listed
    exact avoids

/-- An operation that avoids a workspace and whose cascades stay outside has foreign effects
only. -/
theorem foreignEffects_of_avoids {transaction : SemanticTransaction}
    (carries : operation.transaction = some transaction) (avoids : operation.Avoids workspace state)
    (outside : operation.CascadesOutside workspace state) : ForeignEffects workspace state (transaction.effects state) := by
  have each : ∀ mutation ∈ transaction.mutations, mutation.Avoids workspace state := by
    cases operation with
    | observe input failpoint => cases carries
    | commit committed failpoint => cases carries; exact avoids
    | commitCanonical committed request => cases carries; exact avoids
  refine ⟨?_, ?_, ?_⟩
  · intro id metadata listed
    obtain ⟨mutation, member, effect⟩ := mem_flatMap.mp listed
    exact (each mutation member).writes effect
  · rintro target record listed stored rfl
    obtain ⟨mutation, member, effect⟩ := mem_flatMap.mp listed
    exact (each mutation member).deletes effect (.inr (by rw [stored]; rfl))
  · rintro target id current listed chain found rfl
    exact outside transaction carries target listed id chain (by rw [found]; rfl)

variable {effects : List Effect} {atSeq : Nat}

theorem State.visibleIn_eq_none (foreign : ∀ revision, state.lookup id atSeq = some revision →
      revision.record.access.workspace ≠ workspace) : state.visibleIn atSeq workspace id = none := by
  rw [visibleIn]
  split
  · rfl
  · rw [Option.map_eq_none_iff, Option.filter_eq_none_iff]
    intro revision found
    simpa using foreign revision found

theorem State.visibleIn_congr {laterSeq : Nat} (deleted : later.deleted id = state.deleted id)
    (lookup : later.lookup id laterSeq = state.lookup id atSeq)
    (contents : ∀ revision, state.lookup id atSeq = some revision → state.deleted id = false →
      later.contents[revision.content.id]? = state.contents[revision.content.id]?) :
    later.visibleIn laterSeq workspace id = state.visibleIn atSeq workspace id := by
  rw [visibleIn, visibleIn, deleted, lookup]
  cases live : state.deleted id with
  | true => rfl
  | false =>
    cases found : state.lookup id atSeq with
    | none => rfl
    | some revision => simp only [Option.filter_some]; split <;> simp [contents revision found live]

structure ForeignDraft (workspace : LogicalId) (base : State) (draft : Draft) : Prop where
  held : DraftSound base draft
  candidates : draft.state.securityIndexes.historiesByWorkspace[workspace]? =
    base.securityIndexes.historiesByWorkspace[workspace]?
  view : ∀ id, draft.state.visibleIn (base.head + 1) workspace id = base.visibleIn base.head workspace id
  foreign : ∀ id revision, draft.state.lookup id (base.head + 1) = some revision →
    revision.record.access.workspace = workspace →
    ∃ current, base.lookup id base.head = some current ∧ current.record.access.workspace = workspace
  affected : ∀ id ∈ draft.affectedIds, affectedWorkspace draft.state (base.head + 1) id ≠ .ok workspace

theorem ForeignDraft.start (sound : Sound codec base) : ForeignDraft workspace base { state := base, affectedIds := ∅ } where
  held := .start sound
  candidates := rfl
  view id := visibleIn_congr rfl sound.lookup_head fun _ _ _ => rfl
  foreign id revision found inside := ⟨revision, by rw [← sound.lookup_head, found], inside⟩
  affected id member := by simp at member

variable {revision : StoredRevision}

theorem DraftSound.recordKey (held : DraftSound base draft) (found : draft.state.lookup id atSeq = some revision) :
    ContentKey "record" id revision.transactionFrom revision.content.id := by
  obtain ⟨history, stored, member⟩ := lookup_mem found
  exact (held.drafting.sound.revisions id history stored revision member).content.key

theorem ForeignDraft.write {record : LogicalRecord} {value : Value}
    (sound : Sound codec base) (draftView : ForeignDraft workspace base draft)
    (facts : WriteFacts (base.head + 1) draft record revision) (outside : record.metadata.access.workspace ≠ workspace) :
    ForeignDraft workspace base (draft.write revision value) := by
  have written : revision.record.access.workspace ≠ workspace := by rwa [facts.metadata]
  refine ⟨draftView.held.write sound facts, ?_, ?_, ?_, ?_⟩
  · rw [← draftView.candidates]
    exact getElem?_updateEntry_of_ne written
  · intro id
    by_cases same : record.id = id
    · -- A record of the workspace could not have been written from outside.
      have baseForeign : base.visibleIn base.head workspace id = none := by
        refine visibleIn_eq_none ?_
        rintro current found inside
        have past := draftView.held.drafting.past id base.head (Nat.le_refl _)
        rw [found, Option.map_some] at past
        obtain ⟨seen, seenFound, settled⟩ := Option.map_eq_some_iff.mp past
        rw [← draftView.held.drafting.head, ← same] at seenFound
        have kept := facts.sameWorkspace seen seenFound
        rw [StoredRevision.settled_record settled, inside] at kept
        exact outside kept.symm
      rw [baseForeign]
      refine visibleIn_eq_none ?_
      intro found lookup
      rw [Draft.lookup_write facts, if_pos same] at lookup
      cases lookup
      exact written
    · rw [← draftView.view id]
      refine visibleIn_congr rfl ?_ ?_
      · rw [Draft.lookup_write facts, if_neg same]
      · intro current found _
        refine getElem?_insert_of_ne ?_
        intro sameKey
        have owner := draftView.held.recordKey found
        rw [← sameKey] at owner
        exact same (facts.content.key.inj owner (by decide) (by decide)).2.1
  · intro id current found inside
    rw [Draft.lookup_write facts] at found
    split at found
    · cases found
      exact absurd inside written
    · exact draftView.foreign id current found inside
  · intro id member
    change id ∈ draft.affectedIds.insert revision.id at member
    rw [affectedWorkspace, Draft.lookup_write facts]
    by_cases same : record.id = id
    · simpa [same] using written
    · rw [ExtTreeSet.mem_insert, facts.id] at member
      rw [if_neg same]
      exact draftView.affected id (member.resolve_left fun equal =>
        same (Std.compare_eq_iff_eq.mp equal))

theorem ForeignDraft.erase {target requestedBy : LogicalId} {reason : String}
    (sound : Sound codec base) (draftView : ForeignDraft workspace base draft) (live : draft.state.deleted target = false)
    (observations : ∀ record : ObservationRecord, base.observations[target]? = some record → record.access.workspace ≠ workspace)
    (cascades : ∀ id current, base.DeletedWith target id → base.lookup id base.head = some current →
      current.record.access.workspace ≠ workspace) :
    ForeignDraft workspace base (draft.erase target requestedBy reason (base.head + 1)) := by
  have same : SameRecords draft.state (draft.erase target requestedBy reason (base.head + 1)).state := Draft.sameRecords_erase
  have closed : ∀ id, id ∈ draft.state.deletionClosure target → base.DeletedWith target id :=
    fun id member => draftView.held.drafting.deletedWith_base (mem_deletionClosure_iff.mp member)
  refine ⟨draftView.held.erase sound live, ?_, ?_, ?_, ?_⟩
  · rw [← draftView.candidates, Draft.erase]
    refine historyIndex_eraseAll (SameRecords.refl draft.state) ?_
    intro id member inside
    obtain ⟨seen, found, owner⟩ := Option.map_eq_some_iff.mp inside
    obtain ⟨original, stored, record, _⟩ := draftView.held.drafting.base_lookup found
    refine cascades id original (closed id (mem_toList.mp member)) stored ?_
    rw [record, owner]
  · intro id
    by_cases member : id ∈ draft.state.deletionClosure target
    · have baseForeign : base.visibleIn base.head workspace id = none :=
        visibleIn_eq_none fun current found => cascades id current (closed id member) found
      rw [baseForeign, visibleIn, if_pos]
      exact Draft.deleted_erase.mpr (.inl (mem_deletionClosure_iff.mp member))
    · rw [← draftView.view id]
      refine visibleIn_congr (Draft.deleted_erase_of_notMem member) same.lookup ?_
      intro current found _
      rw [Draft.erase, contents_eraseAll (SameRecords.refl draft.state), if_neg]
      rintro ⟨erased, listed, key⟩
      have different : id ≠ erased := by
        rintro rfl
        exact member (mem_toList.mp listed)
      exact (draftView.held.ownedKey sound key).ne_record (draftView.held.recordKey found) different rfl
  · intro id current found inside
    rw [same.lookup] at found
    exact draftView.foreign id current found inside
  · intro id member
    rw [affectedWorkspace, same.lookup, same.observations]
    rcases BTreeSet.mem_insertMany.mp member with earlier | added
    · exact draftView.affected id earlier
    · have chain := closed id (mem_toList.mp added)
      cases found : draft.state.lookup id (base.head + 1) with
      | some revision =>
        intro inside
        obtain ⟨current, stored, owner⟩ :=
          draftView.foreign id revision found (Except.ok.inj inside)
        exact cascades id current chain stored owner
      | none =>
        -- Only the target itself can be an observation.
        have atTarget : id = target := by
          rcases Relation.ReflTransGen.cases_tail chain with same | ⟨_, _, step⟩
          · exact same
          · obtain ⟨_, current, stored, _⟩ := step
            obtain ⟨revision, present⟩ := draftView.held.drafting.lookup_of_base stored
            rw [found] at present
            cases present
        subst atTarget
        rw [draftView.held.drafting.observations]
        cases stored : base.observations[id]? with
        | none => simp
        | some record => simpa using observations record stored

theorem ForeignDraft.runs (sound : Sound codec base) (outside : ForeignEffects workspace base effects)
    (run : Runs (Performs (base.head + 1)) { state := base, affectedIds := ∅ } effects draft) : ForeignDraft workspace base draft := by
  refine run.preserves (ForeignDraft workspace base) (.start sound) ?_
  intro before effect after listed draftView performed
  cases performed with
  | write value facts => exact draftView.write sound facts (outside.writes _ _ listed)
  | delete requestedBy reason live known =>
    exact draftView.erase sound live (fun record => outside.observations _ record listed)
      (fun id current => outside.cascades _ id current listed)

variable {workspaces : WorkspaceCandidates} {commitSeq position : Nat}

theorem workspaces_of_affected {requestDigest : String} {requestContent : ContentRef}
    {affectedIds : BTreeSet LogicalId} (candidates : journalEventWorkspaceCandidates state commitSeq
      (.semanticPublished requestDigest requestContent affectedIds) = .ok workspaces)
    (inside : workspace ∈ workspaces) : ∃ id ∈ affectedIds, affectedWorkspace state commitSeq id = .ok workspace := by
  obtain ⟨collected, added, marked⟩ := bind_ok candidates
  let named (workspaces : WorkspaceCandidates) : Prop := ∀ workspace ∈ workspaces,
    ∃ id ∈ affectedIds, affectedWorkspace state commitSeq id = .ok workspace
  have collectedNamed : named collected := by
    refine foldlM_preserves added named (by simp [named]) ?_
    intro workspaces id next listed held step
    obtain ⟨owner, owned, step⟩ := bind_ok step
    have step := rest_ok step
    obtain ⟨position, _, step⟩ := bind_ok step
    cases step
    intro workspace member
    rcases mem_insert.mp member with same | earlier
    · obtain rfl : owner = workspace := Std.compare_eq_iff_eq.mp same
      exact ⟨id, mem_toList.mp listed, owned⟩
    · exact held workspace earlier
  refine foldlM_preserves marked named collectedNamed ?_ workspace inside
  intro workspaces entry next listed held step
  obtain ⟨position, _, step⟩ := bind_ok step
  cases step
  intro workspace member
  rcases mem_insert.mp member with same | earlier
  · obtain rfl : entry.1 = workspace := Std.compare_eq_iff_eq.mp same
    refine collectedNamed entry.1 (mem_iff_isSome_getElem?.mpr ?_)
    rw [mem_toList_iff_getElem?_eq_some.mp listed]
    rfl
  · exact held workspace earlier

variable {indexes : SecurityIndexes} {entries : List (LogicalId × List (Nat × WorkspaceEventCandidateKind))}

theorem addPublications_foreign (outside : ∀ entry ∈ entries, entry.1 ≠ workspace) :
    (entries.foldl (·.addPublication position) indexes).journalByWorkspace[workspace]? = indexes.journalByWorkspace[workspace]? ∧
      (entries.foldl (·.addPublication position) indexes).eventsByWorkspace[workspace]? = indexes.eventsByWorkspace[workspace]? := by
  induction entries generalizing indexes with
  | nil => exact ⟨rfl, rfl⟩
  | cons entry rest ih =>
    have different := outside entry mem_cons_self
    obtain ⟨journals, events⟩ := @ih (indexes.addPublication position entry) fun entry member => outside entry (mem_cons_of_mem _ member)
    rw [foldl_cons, journals, events]
    exact ⟨getElem?_insert_of_ne different, getElem?_insert_of_ne different⟩

theorem historyIndex_addPublications : (entries.foldl (·.addPublication position) indexes).historiesByWorkspace =
      indexes.historiesByWorkspace := by
  induction entries generalizing indexes with
  | nil => rfl
  | cons entry rest ih => rw [foldl_cons, ih]; rfl

/-- The publication itself touches only the indexes of the workspaces that it names. -/
theorem Publishes.sameWorkspace {event : JournalEvent} {request : Value} {kind owner : String}
    (publishes : Publishes codec middle event request workspaces next)
    (journal : JournalClass kind) (reference : ContentKey kind owner commitSeq event.requestContent.id)
    (outside : workspace ∉ workspaces) (histories : SoundHistories (middle.head + 1) middle)
    (databaseId : middle.databaseId = base.databaseId) (same : middle.journal = base.journal)
    (candidates : middle.securityIndexes.historiesByWorkspace[workspace]? = base.securityIndexes.historiesByWorkspace[workspace]?)
    (journalIndex : middle.securityIndexes.journalByWorkspace = base.securityIndexes.journalByWorkspace)
    (eventIndex : middle.securityIndexes.eventsByWorkspace = base.securityIndexes.eventsByWorkspace)
    (view : ∀ id, middle.visibleIn (middle.head + 1) workspace id =
      base.visibleIn base.head workspace id) : SameWorkspace workspace base next := by
  have foreign : ∀ entry ∈ workspaces.toList, entry.1 ≠ workspace := by
    rintro entry listed rfl
    refine outside (mem_iff_isSome_getElem?.mpr ?_)
    rw [mem_toList_iff_getElem?_eq_some.mp listed]
    rfl
  refine ⟨?_, ?_, ?_, ?_, ?_, ?_⟩
  · rw [publishes.databaseId, databaseId]
  · rw [publishes.indexes, historyIndex_addPublications, candidates]
  · rw [publishes.indexes, (addPublications_foreign foreign).1, journalIndex]
  · rw [publishes.indexes, (addPublications_foreign foreign).2, eventIndex]
  · obtain ⟨digest, _, appended⟩ := publishes.journal
    exact ⟨_, by rw [appended, same]⟩
  · intro id
    rw [← view id, publishes.head]
    refine visibleIn_congr (by rw [publishes.deleted]) publishes.lookup ?_
    intro revision found _
    obtain ⟨history, stored, member⟩ := lookup_mem found
    exact publishes.keeps_record journal reference (histories.revisions id history stored revision member).content.key

/-- The step lemma of noninterference: one operation that avoids the workspace. -/
theorem Published.sameWorkspace (sound : Sound codec state)
    (published : Published codec state operation next) (avoids : operation.Avoids workspace state)
    (outside : operation.CascadesOutside workspace state) : SameWorkspace workspace state next := by
  cases published with
  | @observation input failpoint captured _ _ _ _ workspaces captures reference publishes =>
    obtain ⟨record, _, access, content, stored, value, contents⟩ := captures.observation
    have foreign : workspace ∉ workspaces := by
      have candidates := publishes.candidates
      rw [journalEventWorkspaceCandidates, stored] at candidates
      simp only [getElem?_insert_self] at candidates
      have success := rest_ok candidates
      cases success
      have different : input.access.workspace ≠ workspace := avoids
      simpa [access] using different
    refine publishes.sameWorkspace (.inl rfl) reference.key foreign ?_ captures.databaseId
      captures.journal (by rw [captures.historyIndex]) captures.journalIndex captures.eventIndex ?_
    · rw [captures.head]
      have histories := sound.histories.mono (Nat.le_succ _)
      exact ⟨by rw [captures.histories]; exact histories.settled,
        fun id history found => histories.revisions id history (by rwa [captures.histories] at found)⟩
    · intro id
      refine visibleIn_congr (by rw [captures.deleted]) ?_ ?_
      · rw [captures.lookup, captures.head, sound.lookup_head]
      · intro revision found _
        rw [contents]
        refine getElem?_insert_of_ne ?_
        intro sameKey
        obtain ⟨history, present, member⟩ := lookup_mem found
        have owner : ContentKey "record" id revision.transactionFrom revision.content.id :=
          (sound.histories.revisions id history present revision member).content.key
        rw [← sameKey] at owner
        exact absurd (content.key.inj owner (by decide) (by decide)).1 (by decide)
  | transaction carries run complete kind reference publishes =>
    have drafted := ForeignDraft.runs sound (foreignEffects_of_avoids carries avoids outside) run
    have head := drafted.held.drafting.head
    refine publishes.sameWorkspace (.inr kind) reference.key ?_ ?_
      drafted.held.drafting.databaseId drafted.held.drafting.journal drafted.candidates
      drafted.held.drafting.journalIndex drafted.held.drafting.eventIndex ?_
    · intro inside
      obtain ⟨id, affected, owned⟩ := workspaces_of_affected publishes.candidates inside
      rw [head] at owned
      exact drafted.affected id affected owned
    · rw [head]
      exact drafted.held.drafting.sound
    · rw [head]
      exact drafted.view

/-- The run lemma of noninterference. -/
theorem runs_sameWorkspace {operations : List Operation} (sound : Sound codec state)
    (run : Runs (Operation.Executes codec fun state operation =>
      operation.Avoids workspace state ∧ operation.CascadesOutside workspace state)
      state operations later) : SameWorkspace workspace state later := by
  have both : Sound codec later ∧ SameWorkspace workspace state later := by
    refine run.preserves (fun later => Sound codec later ∧ SameWorkspace workspace state later)
      ⟨sound, .refl workspace state⟩ ?_
    rintro before operation after _ ⟨held, same⟩ ⟨⟨avoids, outside⟩, rfl⟩
    rcases execute_cases held.histories operation with unchanged | published
    · rw [unchanged]
      exact ⟨held, same⟩
    · exact ⟨published.sound held, same.trans (published.sameWorkspace held avoids outside)⟩
  exact both.2

end ContextDb.Reference
