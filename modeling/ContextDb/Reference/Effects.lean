import ContextDb.Reference.Write
import ContextDb.Lib.Execution

/-! Lookup in revision histories. Storing a revision closes its predecessor at the
same commit, so a lookup at an earlier commit still finds the revision it found
before, changed in its closing bound at most. -/

set_option autoImplicit false

namespace ContextDb.Reference

open Lib Std ContextDb.Core State List ExtTreeMap StoredRevision

def StoredRevision.settled (revision : StoredRevision) : StoredRevision :=
  { revision with transactionTo := none }

theorem StoredRevision.settled_record {left right : StoredRevision}
    (same : left.settled = right.settled) : left.record = right.record := by
  change left.settled.record = right.settled.record
  rw [same]

def Settled (commitSeq : Nat) (history : List StoredRevision) : Prop :=
  ∃ last, history.getLast? = some last ∧ last.transactionFrom ≤ commitSeq ∧
    last.transactionTo = none

variable {revision : StoredRevision} {commitSeq atSeq : Nat} {history : List StoredRevision}

theorem revisionAt_append : revisionAt (history ++ [revision]) atSeq =
      if revision.visibleAt atSeq then some revision else revisionAt history atSeq := by
  simp only [revisionAt, reverse_append, reverse_singleton, singleton_append, find?_cons]
  cases revision.visibleAt atSeq <;> simp

theorem closeLast_append : closeLast commitSeq (history ++ [revision]) =
      history ++ [{ revision with transactionTo := some commitSeq }] := by
  simp [closeLast]

theorem Settled.split (settled : Settled commitSeq history) :
    ∃ earlier last, history = earlier ++ [last] ∧ last.transactionFrom ≤ commitSeq ∧
      last.transactionTo = none := by
  obtain ⟨last, found, started, opened⟩ := settled
  exact ⟨history.dropLast, last, (dropLast_append_getLast? last found).symm, started, opened⟩

theorem Settled.mono (settled : Settled commitSeq history) (later : commitSeq ≤ atSeq) :
    Settled atSeq history := by
  obtain ⟨last, found, started, opened⟩ := settled
  exact ⟨last, found, started.trans later, opened⟩

theorem Settled.revisionAt (settled : Settled commitSeq history) (later : commitSeq ≤ atSeq) :
    revisionAt history atSeq = history.getLast? := by
  obtain ⟨earlier, last, rfl, started, opened⟩ := settled.split
  have visible : last.visibleAt atSeq = true := by
    simp [visibleAt, opened, started.trans later]
  rw [revisionAt_append, if_pos visible, getLast?_concat]

/-- Closing the last revision does not change what earlier snapshots see, but for the revision's
end. -/
theorem revisionAt_closeLast (opened : ∀ last, history.getLast? = some last →
    last.transactionTo = none)
    (earlier : atSeq < commitSeq) : (revisionAt (closeLast commitSeq history) atSeq).map
    (·.settled) =
      (revisionAt history atSeq).map (·.settled) := by
  rcases eq_nil_or_concat history with rfl | ⟨front, last, rfl⟩
  · rfl
  · rw [concat_eq_append] at opened ⊢
    have lastOpen : last.transactionTo = none := opened last getLast?_concat
    rw [closeLast_append, revisionAt_append, revisionAt_append]
    have sameView : visibleAt { last with transactionTo := some commitSeq } atSeq =
      last.visibleAt atSeq := by
      simp [visibleAt, lastOpen, earlier]
    rw [sameView]
    cases last.visibleAt atSeq <;> rfl

namespace State

variable {state : State} {value : Value} {id : LogicalId}

theorem histories_storeRevision : (state.storeRevision revision value).histories[id]? =
    if revision.id = id then
        some (closeLast revision.transactionFrom (state.histories[id]?.getD []) ++
          [revision]) else state.histories[id]? := by
  rw [storeRevision]
  simp only [BTreeMap.getElem?_updateEntry]
  by_cases same : revision.id = id
  · simp [same]
  · simp [same]

theorem lookup_storeRevision (visible : revision.visibleAt atSeq = true) :
    (state.storeRevision revision value).lookup id atSeq =
      if revision.id = id then some revision else state.lookup id atSeq := by
  rw [lookup, histories_storeRevision]
  by_cases same : revision.id = id
  · simp [same, revisionAt_append, visible]
  · simp [same, lookup]

theorem lookup_storeRevision_earlier (earlier : atSeq < revision.transactionFrom)
    (opened : ∀ history last, state.histories[revision.id]? = some history →
      history.getLast? = some last → last.transactionTo = none) :
    ((state.storeRevision revision value).lookup id atSeq).map
    (·.settled) = (state.lookup id atSeq).map (·.settled) := by
  rw [lookup, lookup, histories_storeRevision]
  by_cases same : revision.id = id
  · subst id
    have hidden : revision.visibleAt atSeq = false := by
      simp [visibleAt, Nat.not_le.mpr earlier]
    simp only [↓reduceIte, Option.bind_some, revisionAt_append, hidden, Bool.false_eq_true]
    cases found : state.histories[revision.id]? with
    | none => rfl
    | some history => exact revisionAt_closeLast (opened history · found) earlier
  · simp [same]

end State

/-! What a mutation can do to a draft. Every mutation is a sequence of writes and
deletions; the facts below are all that later proofs use of `putRecord` and
`hardDelete`. -/

variable {codec : Codec}

theorem required_ok {Item : Type} {item : Option Item} {error : ReferenceError} {value : Item}
    (success : required item error = .ok value) : item = some value := by
  cases item with
  | none => cases success
  | some found => cases success; rfl

structure WriteFacts (commitSeq : Nat) (draft : Draft) (record : LogicalRecord)
    (revision : StoredRevision) : Prop where
  valid : validateRecord draft.state record commitSeq = .ok ()
  live : draft.state.deleted record.id = false
  notObservation : draft.state.observations.contains record.id = false
  sameKind : ∀ current, draft.state.lookup record.id draft.state.head = some current →
    current.record.kind = record.kind
  sameWorkspace : ∀ current, draft.state.lookup record.id draft.state.head = some current →
    current.record.access.workspace = record.access.workspace
  number : revision.revision = nextRevision (draft.state.lookup record.id draft.state.head)
  notExhausted : revision.revision ≠ 2 ^ 32 - 1
  id : revision.id = record.id
  start : revision.transactionFrom = commitSeq
  opened : revision.transactionTo = none
  metadata : revision.record = record.metadata
  content : RefersTo "record" record.id commitSeq revision.content

def Draft.write (draft : Draft) (revision : StoredRevision) (value : Value) : Draft where
  state := draft.state.storeRevision revision value
  affectedIds := draft.affectedIds.insert revision.id

variable {draft next : Draft} {record : LogicalRecord} {commitSeq : Nat}

theorem putRecord_ok {expected : Option Nat}
    (success : putRecord codec draft record expected commitSeq = .ok next) :
    ∃ revision value, WriteFacts commitSeq draft record revision ∧
      next = draft.write revision value := by
  obtain ⟨valid, success⟩ := unit_ok success
  obtain ⟨unused, success⟩ := unit_ok success
  have success := rest_ok success
  obtain ⟨kind, success⟩ := unit_ok success
  obtain ⟨workspace, success⟩ := unit_ok success
  obtain ⟨exhausted, success⟩ := unit_ok success
  obtain ⟨⟨reference, value⟩, made, success⟩ := bind_ok success
  cases success
  simp only [ensure_ok_iff, Bool.not_eq_true', Bool.or_eq_false_iff] at unused
  simp only [ensure_ok_iff, Option.all_eq_true, decide_eq_true_eq] at kind workspace
  simp only [ensure_ok_iff, bne_iff_ne] at exhausted
  refine ⟨_, value, ?_, rfl⟩
  constructor
  · exact valid
  · exact unused.1
  · exact unused.2
  · exact kind
  · exact workspace
  · rfl
  · exact exhausted
  · rfl
  · rfl
  · rfl
  · rfl
  · exact codec.refersTo_makeContentRef made

theorem WriteFacts.visible (facts : WriteFacts commitSeq draft record revision) :
    revision.visibleAt commitSeq = true := by
  simp [visibleAt, facts.start, facts.opened]

theorem reviseLifecycle_ok {target : LogicalId} {lifecycle : Lifecycle}
    (success : reviseLifecycle codec draft target lifecycle commitSeq = .ok next) :
    ∃ current content revision value, draft.state.lookup target draft.state.head = some current ∧
      WriteFacts commitSeq draft (current.withLifecycle lifecycle content) revision ∧
        next = draft.write revision value := by
  have success := rest_ok success
  obtain ⟨current, found, success⟩ := bind_ok success
  obtain ⟨content, _, success⟩ := bind_ok success
  obtain ⟨revision, value, facts, written⟩ := putRecord_ok success
  exact ⟨current, content, revision, value, required_ok found, facts, written⟩

structure SameRecords (before after : State) : Prop where
  databaseId : after.databaseId = before.databaseId
  head : after.head = before.head
  watermarks : after.watermarks = before.watermarks
  histories : after.histories = before.histories
  observations : after.observations = before.observations
  journal : after.journal = before.journal
  idempotency : after.idempotency = before.idempotency
  journalIndex : after.securityIndexes.journalByWorkspace =
    before.securityIndexes.journalByWorkspace
  eventIndex : after.securityIndexes.eventsByWorkspace = before.securityIndexes.eventsByWorkspace

theorem SameRecords.refl (state : State) : SameRecords state state := by
  constructor <;> rfl

variable {state before after : State} {target requestedBy id : LogicalId} {reason : String}
    {ids : List LogicalId}

theorem SameRecords.lookup (same : SameRecords before after) :
    after.lookup id atSeq = before.lookup id atSeq := by
  rw [State.lookup, State.lookup, same.histories]

theorem SameRecords.erasedContentRefs (same : SameRecords before after) :
    after.erasedContentRefs id = before.erasedContentRefs id := by
  rw [State.erasedContentRefs, State.erasedContentRefs, same.histories, same.observations,
    same.journal]

theorem sameRecords_eraseRecord (same : SameRecords before state) :
    SameRecords before (state.eraseRecord target requestedBy reason commitSeq id) := by
  obtain ⟨databaseId, head, watermarks, histories, observations, journal, idempotency, journals,
    events⟩ := same
  exact ⟨databaseId, head, watermarks, histories, observations, journal, idempotency, journals,
    events⟩

theorem sameRecords_eraseAll (same : SameRecords before state) :
    SameRecords before (ids.foldl (eraseRecord target requestedBy reason commitSeq) state) := by
  induction ids generalizing state with
  | nil => exact same
  | cons id rest ih => exact ih (sameRecords_eraseRecord same)

def State.tombstoneFor (state : State) (target requestedBy : LogicalId) (reason : String)
    (commitSeq : Nat) (id : LogicalId) : DeletionTombstone where
  target := id
  requestedBy
  reason := if id = target then reason else "dependency_of:" ++ target
  effectiveSeq := commitSeq
  erasedContentRefs := .ofList (state.erasedContentRefs id)

/-- The tombstones are those the state before the loop gives: erasing one record does not change
the fields that another's tombstone reads. -/
theorem tombstones_eraseAll (same : SameRecords before state) :
    (ids.foldl (eraseRecord target requestedBy reason commitSeq) state).tombstones[id]? =
      if id ∈ ids then some (before.tombstoneFor target requestedBy reason commitSeq id) else state.tombstones[id]? := by
  induction ids generalizing state with
  | nil => simp
  | cons first rest ih =>
    rw [foldl_cons, ih (sameRecords_eraseRecord same)]
    by_cases later : id ∈ rest
    · simp [later]
    · by_cases first_eq : first = id
      · subst first
        simp [later, eraseRecord, tombstoneFor, same.erasedContentRefs]
      · simp [later, first_eq, Ne.symm first_eq, State.eraseRecord, ExtTreeMap.getElem?_insert]

theorem deleted_eraseAll : (ids.foldl
    (eraseRecord target requestedBy reason commitSeq) state).deleted id = true ↔
      id ∈ ids ∨ state.deleted id = true := by
  simp only [deleted, ← isSome_getElem?_eq_contains, tombstones_eraseAll (SameRecords.refl state)]
  by_cases member : id ∈ ids <;> simp [member]

variable {ref : String}

private theorem getElem?_eraseRefs {refs : List String} {contents : BTreeMap String Value} :
    (refs.foldl (·.erase ·) contents)[ref]? = if ref ∈ refs then none else contents[ref]? := by
  induction refs generalizing contents with
  | nil => simp
  | cons first rest ih =>
    rw [foldl_cons, ih]
    by_cases later : ref ∈ rest
    · simp [later]
    · by_cases first_eq : first = ref
      · simp [later, first_eq]
      · simp [later, first_eq, Ne.symm first_eq, getElem?_erase]

/-- The loop erases the contents of the listed records and no others. -/
theorem contents_eraseAll (same : SameRecords before state) :
    (ids.foldl (eraseRecord target requestedBy reason commitSeq) state).contents[ref]? =
      if ∃ id ∈ ids, ref ∈ before.erasedContentRefs id then none else state.contents[ref]? := by
  classical
  induction ids generalizing state with
  | nil => simp
  | cons first rest ih =>
    rw [foldl_cons, ih (sameRecords_eraseRecord same)]
    by_cases later : ∃ id ∈ rest, ref ∈ before.erasedContentRefs id
    · simp [later]
    · simp only [later, ↓reduceIte, exists_mem_cons_iff, or_false]
      change ((state.erasedContentRefs first).foldl (·.erase ·) state.contents)[ref]? = _
      rw [getElem?_eraseRefs, same.erasedContentRefs]

variable {workspace : LogicalId}

private theorem getElem?_removeFromWorkspace {index : BTreeMap LogicalId (BTreeSet LogicalId)}
    {owner : Option LogicalId} (foreign : owner ≠ some workspace) :
    (removeFromWorkspace index owner id)[workspace]? = index[workspace]? := by
  cases owner with
  | none => rfl
  | some other =>
    have different : other ≠ workspace := fun same => foreign (by rw [same])
    simp only [removeFromWorkspace]
    cases index[other]? with
    | none => rfl
    | some ids =>
      dsimp only
      split
      · simp [getElem?_erase, different]
      · simp [ExtTreeMap.getElem?_insert, different]

/-- Deleting records of other workspaces leaves a workspace's index as it is. -/
theorem historyIndex_eraseAll (same : SameRecords before state)
    (foreign : ∀ id ∈ ids, (before.lookup id before.head).map
      (·.record.access.workspace) ≠ some workspace) :
    (ids.foldl (eraseRecord target requestedBy reason commitSeq) state).securityIndexes.historiesByWorkspace[workspace]? =
      state.securityIndexes.historiesByWorkspace[workspace]? := by
  induction ids generalizing state with
  | nil => rfl
  | cons first rest ih =>
    rw [foldl_cons, ih (sameRecords_eraseRecord same) (fun id member => foreign id
      (mem_cons_of_mem _ member))]
    have other := foreign first mem_cons_self
    rw [← same.lookup, ← same.head] at other
    exact getElem?_removeFromWorkspace other

/-- The dependency that deletion follows: a live record whose head revision names
another id. -/
def State.DependsOn (state : State) (dependent dependency : LogicalId) : Prop :=
  state.deleted dependent = false ∧ ∃ current, state.lookup dependent state.head = some current ∧
    dependency ∈ current.record.links.dependencies

def State.DeletedWith (state : State) (target id : LogicalId) : Prop :=
  Relation.ReflTransGen (fun earlier later => state.DependsOn later earlier) target id

private theorem dependsOn_iff {closure : BTreeSet LogicalId} :
    state.dependsOn id closure = true ↔ ∃ named ∈ closure, state.DependsOn id named := by
  simp only [dependsOn, State.DependsOn, Bool.and_eq_true, Bool.not_eq_true', Option.any_eq_true,
    any_eq_true]
  constructor
  · rintro ⟨live, current, found, named, listed, member⟩
    exact ⟨named, ExtTreeSet.contains_iff_mem.mp member, live, current, found, listed⟩
  · rintro ⟨named, member, live, current, found, listed⟩
    exact ⟨live, current, found, named, listed, ExtTreeSet.contains_iff_mem.mpr member⟩

theorem State.DependsOn.mem_keys {dependency : LogicalId}
    (depends : state.DependsOn id dependency) : id ∈ state.histories.keys := by
  obtain ⟨_, current, found, _⟩ := depends
  obtain ⟨history, stored, _⟩ := Option.bind_eq_some_iff.mp found
  rw [ExtTreeMap.mem_keys]
  exact ExtTreeMap.mem_iff_isSome_getElem?.mpr (by simp [stored])

/-- The closure the source computes in rounds is reachability along live dependencies. -/
theorem mem_deletionClosure_iff : id ∈ state.deletionClosure target ↔
    state.DeletedWith target id := by
  have spec : ∀ (id : LogicalId) (closure : BTreeSet LogicalId),
      state.dependsOn id closure = true ↔ ∃ named ∈ closure, state.DependsOn id named :=
    fun _ _ => dependsOn_iff
  rw [deletionClosure, mem_saturate_iff spec (Nat.le_refl _)]
  constructor
  · rintro ⟨root, rootMember, chain⟩
    obtain rfl : target = root := by simpa using rootMember
    exact Relation.ReflTransGen.mono (fun _ _ step => step.2) _ _ chain
  · intro chain
    exact ⟨target, by simp,
      Relation.ReflTransGen.mono (fun _ _ step => ⟨step.mem_keys, step⟩) _ _ chain⟩

def Draft.erase (draft : Draft) (target requestedBy : LogicalId) (reason : String)
    (commitSeq : Nat) : Draft where
  state := (draft.state.deletionClosure target).toList.foldl
    (eraseRecord target requestedBy reason commitSeq) draft.state
  affectedIds := draft.affectedIds.insertMany (draft.state.deletionClosure target).toList

theorem hardDelete_ok (success : hardDelete draft target requestedBy reason commitSeq = .ok next) :
    draft.state.deleted target = false ∧ (draft.state.histories.contains target = true ∨
        draft.state.observations.contains target = true) ∧
          next = draft.erase target requestedBy reason commitSeq := by
  have success := rest_ok success
  obtain ⟨known, success⟩ := unit_ok success
  cases success
  simp only [ensure_ok_iff, Bool.not_eq_true', Bool.or_eq_false_iff, Bool.and_eq_false_iff,
    Bool.not_eq_false'] at known
  exact ⟨known.1, known.2, rfl⟩

inductive Effect
  | write (id : LogicalId) (metadata : LogicalRecordMetadata)
  | delete (target : LogicalId)

inductive Performs (commitSeq : Nat) : Draft → Effect → Draft → Prop
  | write {draft : Draft} {record : LogicalRecord} {revision : StoredRevision} (value : Value)
      (facts : WriteFacts commitSeq draft record revision) :
      Performs commitSeq draft (.write record.id record.metadata) (draft.write revision value)
  | delete {draft : Draft} {target : LogicalId} (requestedBy : LogicalId) (reason : String)
      (live : draft.state.deleted target = false)
      (known : draft.state.histories.contains target = true ∨
        draft.state.observations.contains target = true) :
      Performs commitSeq draft (.delete target) (draft.erase target requestedBy reason commitSeq)

def State.lifecycleWrite (base : State) (target : LogicalId) (lifecycle : Lifecycle) :
    List Effect :=
  ((base.lookup target base.head).map fun current =>
    Effect.write target { current.record with lifecycle }).toList

def Mutation.effects (base : State) : Mutation → List Effect
  | .put record _ => [.write record.id record.metadata]
  | .correct target replacement =>
    base.lifecycleWrite target .superseded ++ [.write replacement.id replacement.metadata]
  | .retract target => base.lifecycleWrite target .retracted
  | .delete target _ _ => [.delete target]

def SemanticTransaction.effects (base : State) (transaction : SemanticTransaction) : List Effect :=
  transaction.mutations.flatMap (·.effects base)

end ContextDb.Reference
