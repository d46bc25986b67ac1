import ContextDb.Reference.Drafts

/-! Operations and reachable states. A published operation prepares a middle state,
a captured observation or a completed draft, and then journals one event over it. -/

set_option autoImplicit false

namespace ContextDb.Reference

open Lib Std ContextDb.Core ExtTreeMap List JournalEvent State ExtTreeSet

variable {codec : Codec} {state middle next : State}

inductive Operation
  | observe (input : ObservationInput) (failpoint : Failpoint)
  | commit (transaction : SemanticTransaction) (failpoint : Failpoint)
  | commitCanonical (transaction : SemanticTransaction) (request : Except String Value)

namespace Operation

def execute (codec : Codec) (state : State) : Operation → Result CommitReceipt × State
  | .observe input failpoint => observeWithFailpoint codec state input failpoint
  | .commit transaction failpoint => commitWithFailpoint codec state transaction failpoint
  | .commitCanonical transaction request =>
    commitWithCanonicalRequest codec state transaction request

def transaction : Operation → Option SemanticTransaction
  | .observe _ _ => none
  | .commit transaction _ => some transaction
  | .commitCanonical transaction _ => some transaction

/-- One operation that the condition admits; a failed one leaves the state as it is. -/
def Executes (codec : Codec) (admits : State → Operation → Prop) (state : State)
    (operation : Operation) (next : State) : Prop :=
  admits state operation ∧ (operation.execute codec state).2 = next

end Operation

def Initial (state : State) : Prop :=
  ∃ databaseId, State.new databaseId = .ok state

abbrev ReachableBy (codec : Codec) (admits : State → Operation → Prop) : State → Prop :=
  Reachable Initial (Operation.Executes codec admits)

def anyOperation (_ : State) (_ : Operation) : Prop := True

variable {admits : State → Operation → Prop} {operation : Operation}

theorem ReachableBy.execute (reachable : ReachableBy codec admits state)
    (admitted : admits state operation) :
    ReachableBy codec admits (operation.execute codec state).2 :=
  reachable.extend (.single ⟨admitted, rfl⟩)

def State.empty (databaseId : String) : State where
  databaseId
  head := 0
  watermarks := .default
  histories := ∅
  observations := ∅
  tombstones := ∅
  journal := []
  idempotency := ∅
  contents := ∅
  securityIndexes := .default

variable {databaseId : String}

theorem State.new_eq (named : isBlank databaseId = false) :
    State.new databaseId = .ok (.empty databaseId) := by
  rw [State.new, named]
  rfl

theorem ReachableBy.empty (named : isBlank databaseId = false) :
    ReachableBy codec admits (.empty databaseId) :=
  .start ⟨databaseId, State.new_eq named⟩

def State.commits (codec : Codec) (state : State) : List (List Mutation) → State
  | [] => state
  | mutations :: rest =>
    let transaction : SemanticTransaction :=
      { baseSeq := state.head, idempotencyKey := toString (state.head + 1), mutations }
    State.commits codec ((Operation.commit transaction .none).execute codec state).2 rest

variable {transactions : List (List Mutation)}

theorem State.runs_commits (admitted : ∀ (state : State) (mutations : List Mutation) (key : String),
      mutations ∈ transactions → admits state (.commit ⟨state.head, key, mutations⟩ .none)) :
    ∃ operations, Runs (Operation.Executes codec admits) state operations
      (state.commits codec transactions) := by
  induction transactions generalizing state with
  | nil => exact ⟨[], .nil state⟩
  | cons mutations rest ih =>
    obtain ⟨operations, run⟩ := ih fun state mutations key member =>
      admitted state mutations key (List.mem_cons_of_mem _ member)
    exact ⟨_ :: operations, .cons ⟨admitted state mutations _ List.mem_cons_self, rfl⟩ run⟩

theorem ReachableBy.commits (reachable : ReachableBy codec admits state)
    (admitted : ∀ (state : State) (mutations : List Mutation) (key : String),
      mutations ∈ transactions → admits state (.commit ⟨state.head, key, mutations⟩ .none)) :
    ReachableBy codec admits (state.commits codec transactions) := by
  obtain ⟨operations, run⟩ := State.runs_commits admitted
  exact reachable.extend run

def JournalEvent.requestContent : JournalEvent → ContentRef
  | .observationAccepted _ _ requestContent => requestContent
  | .semanticPublished _ requestContent _ => requestContent

variable {receipt : CommitReceipt}

structure Publishes (codec : Codec) (middle : State) (event : JournalEvent) (request : Value)
    (workspaces : WorkspaceCandidates) (next : State) : Prop where
  bounded : middle.head + 1 < 2 ^ 64
  databaseId : next.databaseId = middle.databaseId
  head : next.head = middle.head + 1
  histories : next.histories = middle.histories
  observations : next.observations = middle.observations
  tombstones : next.tombstones = middle.tombstones
  contents : next.contents = middle.contents.insert event.requestContent.id request
  journal : ∃ digest, codec.journalDigest (middle.head + 1)
    (middle.journal.getLast?.map (·.recordDigest)) event =
      .ok digest ∧ next.journal = middle.journal ++
      [⟨middle.head + 1, middle.journal.getLast?.map (·.recordDigest), digest, event⟩]
  candidates : journalEventWorkspaceCandidates middle (middle.head + 1) event = .ok workspaces
  indexes : next.securityIndexes =
    workspaces.toList.foldl (·.addPublication middle.journal.length) middle.securityIndexes
  verified : rebuildSecurityIndexes next = .ok next.securityIndexes

theorem verifySecurityIndexes_ok (success : verifySecurityIndexes state = .ok ()) :
    rebuildSecurityIndexes state = .ok state.securityIndexes := by
  obtain ⟨expected, rebuilt, same⟩ := bind_ok success
  simp only [ensure_ok_iff, decide_eq_true_eq] at same
  rw [rebuilt, same]

variable {journaled : State} {requestDigest : String} {commitSeq : Nat} {keyDigest : String}
    {watermarks : Watermarks}

/-- The last stage of a publication moves the head and the watermarks and checks the indexes of
the result. -/
theorem finishPublication_ok {prepared : Prepared}
    (success : finishPublication journaled commitSeq keyDigest requestDigest watermarks =
      .ok prepared) :
    ∃ idempotency receipt, prepared = .publish
      { journaled with head := commitSeq, watermarks, idempotency } receipt ∧
      verifySecurityIndexes { journaled with head := commitSeq, watermarks, idempotency } = .ok
        () := by
  obtain ⟨verified, success⟩ := unit_ok success
  cases success
  exact ⟨_, _, rfl, verified⟩

theorem nextCommit_ok {head : Nat} (success : nextCommit head = .ok commitSeq) :
    commitSeq = head + 1 ∧ head + 1 < 2 ^ 64 := by
  obtain ⟨bounded, success⟩ := unit_ok success
  cases success
  simp only [ensure_ok_iff, decide_eq_true_eq] at bounded
  exact ⟨rfl, bounded⟩

variable {event : JournalEvent}

theorem publishes_of_append (middle : State) {request : Value} (bounded : middle.head + 1 < 2 ^ 64)
    (appended : appendJournal codec (middle.keepRequest event.requestContent request)
      (middle.head + 1) event = .ok journaled)
    (finished : finishPublication journaled (middle.head + 1) keyDigest requestDigest watermarks =
      .ok (.publish next receipt)) : ∃ workspaces, Publishes codec middle event request workspaces next := by
  obtain ⟨digest, computed, appended⟩ := bind_ok appended
  obtain ⟨workspaces, candidates, appended⟩ := bind_ok appended
  cases appended
  obtain ⟨idempotency, _, published, verified⟩ := finishPublication_ok finished
  cases published
  exact ⟨workspaces, bounded, rfl, rfl, rfl, rfl, rfl, rfl, ⟨digest, computed, rfl⟩, candidates,
    rfl, verifySecurityIndexes_ok verified⟩

structure Captures (state : State) (input : ObservationInput) (captured : State) : Prop where
  unusedObservation : state.observations.contains input.observationId = false
  unusedRecord : state.histories.contains input.observationId = false
  unusedDeleted : state.deleted input.observationId = false
  databaseId : captured.databaseId = state.databaseId
  head : captured.head = state.head
  histories : captured.histories = state.histories
  tombstones : captured.tombstones = state.tombstones
  journal : captured.journal = state.journal
  historyIndex : captured.securityIndexes.historiesByWorkspace =
    state.securityIndexes.historiesByWorkspace
  journalIndex : captured.securityIndexes.journalByWorkspace =
    state.securityIndexes.journalByWorkspace
  eventIndex : captured.securityIndexes.eventsByWorkspace = state.securityIndexes.eventsByWorkspace
  observation : ∃ record : ObservationRecord, record.acceptedSeq = state.head + 1 ∧
    record.access = input.access ∧
    RefersTo "observation" input.observationId (state.head + 1) record.content ∧
    captured.observations = state.observations.insert input.observationId record ∧
    ∃ value, captured.contents = state.contents.insert record.content.id value

variable {input : ObservationInput}

/-- The two changes of an accepted observation: it is captured, then the journal publishes it. -/
theorem prepareObservation_ok (success : prepareObservation codec state input = .ok
    (.publish next receipt)) :
    ∃ captured requestDigest requestContent request workspaces, Captures state input captured ∧
      RefersTo "journal-observation" input.observationId (state.head + 1) requestContent ∧
        Publishes codec captured
        (.observationAccepted input.observationId requestDigest requestContent) request workspaces next := by
  have success := rest_ok success
  obtain ⟨requestDigest, _, success⟩ := bind_ok success
  obtain ⟨replayed, _, success⟩ := bind_ok success
  cases replayed with
  | some receipt => cases success
  | none =>
    obtain ⟨unused, success⟩ := unit_ok success
    obtain ⟨commitSeq, following, success⟩ := bind_ok success
    obtain ⟨⟨content, value⟩, made, success⟩ := bind_ok success
    obtain ⟨⟨requestContent, request⟩, requested, success⟩ := bind_ok success
    obtain ⟨journaled, appended, finished⟩ := bind_ok success
    obtain ⟨rfl, bounded⟩ := nextCommit_ok following
    simp only [ensure_ok_iff, Bool.not_eq_true', Bool.or_eq_false_iff] at unused
    obtain ⟨workspaces, published⟩ := publishes_of_append
      (state.capture input (state.head + 1) content value) bounded appended finished
    refine ⟨_, requestDigest, requestContent, request, workspaces, ?_,
      codec.refersTo_makeContentRef requested, published⟩
    refine ⟨unused.1.1, unused.1.2, unused.2, rfl, rfl, rfl, rfl, rfl, rfl, rfl, rfl, ?_⟩
    exact ⟨_, rfl, rfl, codec.refersTo_makeContentRef made, rfl, value, rfl⟩

/-- A transaction that is to be published has run its effects on a draft of the state. -/
theorem prepareTransaction_ok {operation contentClass : String} {encoded : Except String Value}
    {transaction : SemanticTransaction}
    (success : prepareTransaction codec operation contentClass encoded state transaction =
      .ok (.publish next receipt)) (sound :
        SoundHistories state.head state) : ∃ draft requestDigest requestContent request workspaces,
      Runs (Performs (state.head + 1)) { state, affectedIds := ∅ }
        (transaction.effects state) draft ∧
      validateCompleteState draft.state (state.head + 1) = .ok () ∧
      RefersTo contentClass requestDigest (state.head + 1) requestContent ∧
        Publishes codec draft.state
        (.semanticPublished requestDigest requestContent draft.affectedIds) request workspaces next := by
  obtain ⟨requestDigest, _, success⟩ := bind_ok success
  obtain ⟨replayed, _, success⟩ := bind_ok success
  cases replayed with
  | some receipt => cases success
  | none =>
    have success := rest_ok success
    obtain ⟨commitSeq, following, success⟩ := bind_ok success
    obtain ⟨draft, applied, success⟩ := bind_ok success
    obtain ⟨complete, success⟩ := unit_ok success
    obtain ⟨⟨requestContent, request⟩, requested, success⟩ := bind_ok success
    obtain ⟨journaled, appended, finished⟩ := bind_ok success
    obtain ⟨rfl, bounded⟩ := nextCommit_ok following
    have run := applyMutations_runs sound applied
    have head : draft.state.head = state.head := ((Drafting.start sound).runs run).head
    rw [← head] at bounded appended finished
    obtain ⟨workspaces, published⟩ := publishes_of_append draft.state bounded appended finished
    exact ⟨draft, requestDigest, requestContent, request, workspaces, run, complete,
      codec.refersTo_makeContentRef requested, published⟩

inductive Published (codec : Codec) (state : State) : Operation → State → Prop
  | observation {input : ObservationInput} {failpoint : Failpoint} {captured next : State}
      {requestDigest : String} {requestContent : ContentRef} {request : Value}
      {workspaces : WorkspaceCandidates}
      (captures : Captures state input captured)
      (reference : RefersTo "journal-observation" input.observationId
        (state.head + 1) requestContent)
      (publishes : Publishes codec captured
        (.observationAccepted input.observationId requestDigest requestContent) request workspaces next) :
      Published codec state (.observe input failpoint) next
  | transaction {operation : Operation} {transaction : SemanticTransaction} {draft : Draft}
      {contentClass requestDigest : String} {requestContent : ContentRef} {request : Value}
      {workspaces : WorkspaceCandidates} {next : State}
      (carries : operation.transaction = some transaction)
      (run : Runs (Performs (state.head + 1)) { state, affectedIds := ∅ }
        (transaction.effects state) draft)
      (complete : validateCompleteState draft.state (state.head + 1) = .ok ())
      (kind : contentClass = "journal-semantic" ∨ contentClass = "journal-semantic-core")
      (reference : RefersTo contentClass requestDigest (state.head + 1) requestContent)
      (publishes : Publishes codec draft.state
        (.semanticPublished requestDigest requestContent draft.affectedIds) request workspaces next) :
      Published codec state operation next

/-- A publication that fails, at a failpoint or before, leaves the state unchanged. -/
private theorem publish_cases (state : State) (failpoint : Failpoint) (prepared : Result Prepared) :
    (publish state failpoint prepared).2 = state ∨ ∃ receipt, prepared = .ok
    (.publish (publish state failpoint prepared).2 receipt) := by
  cases prepared with
  | error error => exact .inl rfl
  | ok prepared =>
    cases prepared with
    | replay receipt => exact .inl rfl
    | publish next receipt =>
      cases failpoint with
      | none => exact .inr ⟨receipt, rfl⟩
      | beforePublish => exact .inl rfl
      | afterPublish => exact .inr ⟨receipt, rfl⟩

/-- Every operation either leaves the state as it is or is one publication. -/
theorem execute_cases (sound : SoundHistories state.head state) (operation : Operation) :
    (operation.execute codec state).2 = state ∨ Published codec state operation
    (operation.execute codec state).2 := by
  cases operation with
  | observe input failpoint =>
    rcases publish_cases state failpoint (prepareObservation codec state input) with
      unchanged | ⟨receipt, prepared⟩
    · exact .inl unchanged
    · obtain ⟨captured, requestDigest, requestContent, request, workspaces, captures, reference,
        publishes⟩ := prepareObservation_ok prepared
      exact .inr (.observation captures reference publishes)
  | commit transaction failpoint =>
    rcases publish_cases state failpoint _ with unchanged | ⟨receipt, prepared⟩
    · exact .inl unchanged
    · have prepared := rest_ok prepared
      have prepared := rest_ok prepared
      obtain ⟨draft, requestDigest, requestContent, request, workspaces, run, complete, reference,
        publishes⟩ := prepareTransaction_ok prepared sound
      exact .inr (.transaction rfl run complete (.inl rfl) reference publishes)
  | commitCanonical transaction request =>
    rcases publish_cases state .none _ with unchanged | ⟨receipt, prepared⟩
    · exact .inl unchanged
    · have prepared := rest_ok prepared
      obtain ⟨draft, requestDigest, requestContent, request, workspaces, run, complete, reference,
        publishes⟩ := prepareTransaction_ok prepared sound
      exact .inr (.transaction rfl run complete (.inr rfl) reference publishes)

/-! Invariants of every reachable state: sound histories, content identifiers of
known shape, a contiguous digest chain, verified indexes, content present for every
live record and erased for every deleted one. -/

variable {state base middle next : State} {draft : Draft} {id : LogicalId} {key : String}
    {kind owner : String}

def JournalClass (kind : String) : Prop :=
  kind = "journal-observation" ∨ kind = "journal-semantic" ∨ kind = "journal-semantic-core"

theorem JournalClass.plain {kind : String} (journal : JournalClass kind) : ':' ∉ kind.toList ∧
    kind ≠ "record" ∧ kind ≠ "observation" := by
  rcases journal with rfl | rfl | rfl <;> decide

def OwnedKey (bound : Nat) (id : LogicalId) (key : String) : Prop :=
  (∃ commitSeq, ContentKey "record" id commitSeq key) ∨ (∃ commitSeq,
    ContentKey "observation" id commitSeq key) ∨
    ∃ kind owner commitSeq, JournalClass kind ∧ ContentKey kind owner commitSeq key ∧
      commitSeq ≤ bound

variable {bound : Nat} {other : String} {owner : LogicalId}

/-- Content keys name their owner, so no key of another record is erased along with this one's. -/
theorem OwnedKey.ne_record (owned : OwnedKey bound id key)
    (shape : ContentKey "record" owner commitSeq other)
    (different : owner ≠ id) : other ≠ key := by
  rintro rfl
  rcases owned with ⟨_, record⟩ | ⟨_, observation⟩ | ⟨kind, _, _, journal, request, _⟩
  · exact different (shape.inj record (by decide) (by decide)).2.1
  · exact absurd (shape.inj observation (by decide) (by decide)).1 (by decide)
  · exact journal.plain.2.1 (shape.inj request (by decide) journal.plain.1).1.symm

theorem OwnedKey.ne_observation (owned : OwnedKey bound id key)
    (shape : ContentKey "observation" owner commitSeq other)
    (different : owner ≠ id) : other ≠ key := by
  rintro rfl
  rcases owned with ⟨_, record⟩ | ⟨_, observation⟩ | ⟨kind, _, _, journal, request, _⟩
  · exact absurd (shape.inj record (by decide) (by decide)).1 (by decide)
  · exact different (shape.inj observation (by decide) (by decide)).2.1
  · exact journal.plain.2.2 (shape.inj request (by decide) journal.plain.1).1.symm

/-- A request of a later commit has a key that nothing stored so far has. -/
theorem OwnedKey.ne_request (owned : OwnedKey bound id key) (journal : JournalClass kind)
    (shape : ContentKey kind owner commitSeq other) (later : bound < commitSeq) : other ≠ key := by
  rintro rfl
  rcases owned with ⟨_, record⟩ | ⟨_, observation⟩ | ⟨_, _, _, other, request, bounded⟩
  · exact journal.plain.2.1 (shape.inj record journal.plain.1 (by decide)).1
  · exact journal.plain.2.2 (shape.inj observation journal.plain.1 (by decide)).1
  · have same := (shape.inj request journal.plain.1 other.plain.1).2.2
    omega

/-- The journal is contiguous from one, and each record carries the digest of its
event chained to the record before it. -/
inductive DigestChain (codec : Codec) : List JournalRecord → Prop
  | nil : DigestChain codec []
  | snoc {journal : List JournalRecord} {digest : String} {event : JournalEvent}
    (chain : DigestChain codec journal)
      (computed : codec.journalDigest (journal.length + 1)
        (journal.getLast?.map (·.recordDigest)) event = .ok digest) : DigestChain codec (journal ++
        [⟨journal.length + 1, journal.getLast?.map (·.recordDigest), digest, event⟩])

structure JournalFacts (record : JournalRecord) : Prop where
  request : ∃ kind owner, JournalClass kind ∧
    ContentKey kind owner record.commitSeq record.event.requestContent.id

def State.KeptRequest (state : State) (tombstone : DeletionTombstone) (key : String) : Prop :=
  ∃ record ∈ state.journal, record.commitSeq = tombstone.effectiveSeq ∧
    record.event.requestContent.id = key

structure Sound (codec : Codec) (state : State) : Prop where
  named : isBlank state.databaseId = false
  bounded : state.head < 2 ^ 64
  histories : SoundHistories state.head state
  observations : ∀ (id : LogicalId) (record : ObservationRecord), state.observations[id]? =
    some record →
      ContentKey "observation" id record.acceptedSeq record.content.id
  disjoint : ∀ id, state.histories.contains id = true → state.observations.contains id = false
  length : state.journal.length = state.head
  chain : DigestChain codec state.journal
  requests : ∀ record ∈ state.journal, record.commitSeq ≤ state.head ∧ JournalFacts record
  indexes : rebuildSecurityIndexes state = .ok state.securityIndexes
  present : ∀ (id : LogicalId) (history : List StoredRevision), state.deleted id = false →
    state.histories[id]? = some history →
      ∀ revision ∈ history, state.contents.contains revision.content.id = true
  erased : ∀ (id : LogicalId) (tombstone : DeletionTombstone), state.tombstones[id]? =
    some tombstone →
    tombstone.effectiveSeq ≤ state.head ∧ ∀ key ∈ state.erasedContentRefs id,
      state.contents[key]? = none ∨ state.KeptRequest tombstone key

theorem JournalEvent.requestFor_eq (affected : event.requestFor id = some key) :
    event.requestContent.id = key := by
  cases event with
  | observationAccepted observationId requestDigest requestContent =>
    simp only [requestFor] at affected
    split at affected
    · exact Option.some.inj affected
    · cases affected
  | semanticPublished requestDigest requestContent affectedIds =>
    simp only [requestFor] at affected
    split at affected
    · exact Option.some.inj affected
    · cases affected

/-- The content keys that a deletion erases are the record's own and those of requests up to the
bound. -/
theorem ownedKey_of_mem {bound later : Nat} (histories : SoundHistories later state)
    (observations : ∀ (id : LogicalId) (record : ObservationRecord),
      state.observations[id]? = some record →
        ContentKey "observation" id record.acceptedSeq record.content.id)
    (requests : ∀ record ∈ state.journal, record.commitSeq ≤ bound ∧ JournalFacts record)
    (member : key ∈ state.erasedContentRefs id) : OwnedKey bound id key := by
  rw [erasedContentRefs, mem_append, mem_append] at member
  rcases member with (record | observation) | request
  · obtain ⟨revision, listed, rfl⟩ := mem_map.mp record
    cases stored : state.histories[id]? with
    | none => simp [stored] at listed
    | some history =>
      rw [stored, Option.getD_some] at listed
      exact .inl ⟨_, (histories.revisions id history stored revision listed).content.key⟩
  · rw [Option.mem_toList] at observation
    obtain ⟨record, stored, rfl⟩ := Option.map_eq_some_iff.mp observation
    exact .inr (.inl ⟨_, observations id record stored⟩)
  · obtain ⟨record, listed, affected⟩ := mem_filterMap.mp request
    obtain ⟨bounded, ⟨kind, owner, journal, shape⟩⟩ := requests record listed
    rw [requestFor_eq affected] at shape
    exact .inr (.inr ⟨kind, owner, record.commitSeq, journal, shape, bounded⟩)

theorem Sound.ownedKey (sound : Sound codec state) (member : key ∈ state.erasedContentRefs id) :
    OwnedKey state.head id key :=
  ownedKey_of_mem sound.histories sound.observations sound.requests member

structure DraftSound (base : State) (draft : Draft) : Prop where
  drafting : Drafting base draft
  disjoint : ∀ id, draft.state.histories.contains id = true → base.observations.contains id = false
  present : ∀ (id : LogicalId) (history : List StoredRevision), draft.state.deleted id = false →
    draft.state.histories[id]? = some history → ∀ revision ∈ history,
      draft.state.contents.contains revision.content.id = true
  erased : ∀ (id : LogicalId) (tombstone : DeletionTombstone),
    draft.state.tombstones[id]? = some tombstone → ∀ key ∈ draft.state.erasedContentRefs id,
      draft.state.contents[key]? = none ∨ base.KeptRequest tombstone key
  affected : ∀ id ∈ draft.affectedIds, ∀ tombstone : DeletionTombstone,
    draft.state.tombstones[id]? = some tombstone → tombstone.effectiveSeq = base.head + 1

theorem DraftSound.start (sound : Sound codec base) : DraftSound base
    { state := base, affectedIds := ∅ } where
  drafting := .start sound.histories
  disjoint := sound.disjoint
  present := sound.present
  erased id tombstone found := (sound.erased id tombstone found).2
  affected id member := by simp at member

theorem DraftSound.ownedKey (sound : Sound codec base) (held : DraftSound base draft)
    (member : key ∈ draft.state.erasedContentRefs id) : OwnedKey base.head id key := by
  refine ownedKey_of_mem held.drafting.sound ?_ ?_ member
  · rw [held.drafting.observations]
    exact sound.observations
  · rw [held.drafting.journal]
    exact sound.requests

variable {tombstone : DeletionTombstone}

theorem deleted_of_tombstone (found : state.tombstones[id]? = some tombstone) :
    state.deleted id = true := by
  rw [deleted, ← isSome_getElem?_eq_contains, found]
  rfl

theorem DraftSound.write {record : LogicalRecord} {revision : StoredRevision} {value : Value}
    (sound : Sound codec base) (held : DraftSound base draft)
    (facts : WriteFacts (base.head + 1) draft record revision) :
    DraftSound base (draft.write revision value) := by
  have live : draft.state.deleted revision.id = false := facts.id ▸ facts.live
  refine ⟨held.drafting.write facts, ?_, ?_, ?_, ?_⟩
  · intro id known
    by_cases same : revision.id = id
    · rw [← same, facts.id, ← held.drafting.observations]
      exact facts.notObservation
    · refine held.disjoint id ?_
      change (draft.state.storeRevision revision value).histories.contains id = true at known
      rwa [← isSome_getElem?_eq_contains, histories_storeRevision, if_neg same,
        isSome_getElem?_eq_contains] at known
  · intro id history alive stored listed member
    change (draft.state.contents.insert revision.content.id value).contains listed.content.id = true
    rw [ExtTreeMap.contains_insert]
    obtain ⟨-, rfl⟩ | ⟨earlier, found, original, known, same⟩ :=
      mem_storeRevision stored member
    · simp
    · have sameContent : original.content = listed.content := congrArg (·.content) same
      simp [← sameContent, held.present id earlier alive found original known]
  · intro id tombstone found key member
    change draft.state.tombstones[id]? = some tombstone at found
    have different : revision.id ≠ id := by
      rintro rfl
      rw [deleted_of_tombstone found] at live
      cases live
    have sameRefs : (draft.write revision value).state.erasedContentRefs id =
      draft.state.erasedContentRefs id := by
      change ((draft.state.storeRevision revision value).histories[id]?.getD []).map _ ++ _ ++ _ = _
      rw [histories_storeRevision, if_neg different]
      rfl
    rw [sameRefs] at member
    have other : revision.content.id ≠ key :=
      (held.ownedKey sound member).ne_record facts.content.key (facts.id ▸ different)
    change (draft.state.contents.insert revision.content.id value)[key]? = none ∨ _
    rw [ExtTreeMap.getElem?_insert]
    simp only [Std.compare_eq_iff_eq, other, ↓reduceIte]
    exact held.erased id tombstone found key member
  · intro id member tombstone found
    change draft.state.tombstones[id]? = some tombstone at found
    change id ∈ draft.affectedIds.insert revision.id at member
    rw [ExtTreeSet.mem_insert] at member
    rcases member with same | earlier
    · obtain rfl : revision.id = id := Std.compare_eq_iff_eq.mp same
      rw [deleted_of_tombstone found] at live
      cases live
    · exact held.affected id earlier tombstone found

theorem DraftSound.erase {target requestedBy : LogicalId} {reason : String}
    (sound : Sound codec base) (held : DraftSound base draft)
    (live : draft.state.deleted target = false) :
    DraftSound base (draft.erase target requestedBy reason (base.head + 1)) := by
  have same : SameRecords draft.state (draft.erase target requestedBy reason
    (base.head + 1)).state := Draft.sameRecords_erase
  have contents : ∀ key : String, (draft.erase target requestedBy reason
    (base.head + 1)).state.contents[key]? =
        if ∃ id ∈ (draft.state.deletionClosure target).toList, key ∈ draft.state.erasedContentRefs id
        then none else draft.state.contents[key]? :=
    fun key => contents_eraseAll (SameRecords.refl draft.state)
  refine ⟨held.drafting.erase live, ?_, ?_, ?_, ?_⟩
  · intro id known
    rw [same.histories] at known
    exact held.disjoint id known
  · intro id history alive stored revision member
    rw [same.histories] at stored
    have outside : ¬ (draft.state.DeletedWith target id ∨ draft.state.deleted id = true) := by
      rw [← Draft.deleted_erase, alive]
      simp
    have earlier : draft.state.deleted id = false := by
      simpa using fun deleted => outside (.inr deleted)
    have kept := held.present id history earlier stored revision member
    rw [← isSome_getElem?_eq_contains, contents, if_neg]
    · rwa [isSome_getElem?_eq_contains]
    · rintro ⟨other, closed, key⟩
      have different : id ≠ other := by
        rintro rfl
        exact outside (.inl (mem_deletionClosure_iff.mp (mem_toList.mp closed)))
      have shape := (held.drafting.sound.revisions id history stored revision member).content.key
      exact (held.ownedKey sound key).ne_record shape different rfl
  · intro id tombstone found key member
    rw [same.erasedContentRefs] at member
    rw [contents]
    rw [Draft.tombstones_erase] at found
    by_cases closed : id ∈ draft.state.deletionClosure target
    · exact .inl (if_pos ⟨id, mem_toList.mpr closed, member⟩)
    · rw [if_neg closed] at found
      rcases held.erased id tombstone found key member with absent | request
      · left
        split
        · rfl
        · exact absent
      · exact .inr request
  · intro id member tombstone found
    rw [Draft.tombstones_erase] at found
    by_cases closed : id ∈ draft.state.deletionClosure target
    · rw [if_pos closed] at found
      cases found
      rfl
    · rw [if_neg closed] at found
      refine held.affected id ?_ tombstone found
      rcases BTreeSet.mem_insertMany.mp member with earlier | added
      · exact earlier
      · exact absurd (mem_toList.mp added) closed

theorem DraftSound.runs {effects : List Effect} {start : Draft} (sound : Sound codec base)
    (held : DraftSound base start) (run : Runs (Performs (base.head + 1)) start effects draft) :
    DraftSound base draft := by
  refine run.preserves (DraftSound base) held ?_
  intro before effect after _ invariant performed
  cases performed with
  | write value facts => exact invariant.write sound facts
  | delete requestedBy reason live known => exact invariant.erase sound live

variable {request : Value} {workspaces : WorkspaceCandidates}

section

variable {event : JournalEvent}

section

variable (publishes : Publishes codec middle event request workspaces next)
include publishes

theorem Publishes.erasedContentRefs : next.erasedContentRefs id = middle.erasedContentRefs id ++
    (event.requestFor id).toList := by
  obtain ⟨digest, _, journal⟩ := publishes.journal
  rw [State.erasedContentRefs, State.erasedContentRefs, publishes.histories, publishes.observations,
    journal, List.filterMap_append, List.append_assoc, List.append_assoc, List.append_assoc]
  congr 3

/-- A published record is linked to the digest of the one before it. -/
theorem Publishes.chain (length : middle.journal.length = middle.head)
    (chain : DigestChain codec middle.journal) :
    DigestChain codec next.journal := by
  obtain ⟨digest, computed, journal⟩ := publishes.journal
  rw [← length] at computed journal
  rw [journal]
  exact .snoc chain computed

theorem Publishes.requests (requests : ∀ record ∈ middle.journal, record.commitSeq ≤ middle.head ∧
    JournalFacts record)
    (journal : JournalClass kind) (shape : ContentKey kind owner
      (middle.head + 1) event.requestContent.id) :
    ∀ record ∈ next.journal, record.commitSeq ≤ next.head ∧ JournalFacts record := by
  obtain ⟨digest, _, appended⟩ := publishes.journal
  intro record member
  rw [publishes.head]
  rw [appended, mem_append, mem_singleton] at member
  rcases member with earlier | rfl
  · obtain ⟨bounded, facts⟩ := requests record earlier
    exact ⟨Nat.le_succ_of_le bounded, facts⟩
  · exact ⟨Nat.le_refl _, ⟨kind, owner, journal, shape⟩⟩

/-- A request key is new, so journaling keeps erased content erased, except for the
deleting transaction's own request. -/
theorem Publishes.erased (owned : ∀ key ∈ middle.erasedContentRefs id, OwnedKey middle.head id key)
    (journal : JournalClass kind) (shape : ContentKey kind owner
      (middle.head + 1) event.requestContent.id)
    (absent : ∀ key ∈ middle.erasedContentRefs id, middle.contents[key]? = none ∨
      middle.KeptRequest tombstone key)
    (affects : ∀ key, event.requestFor id = some key → tombstone.effectiveSeq = middle.head + 1) :
    ∀ key ∈ next.erasedContentRefs id, next.contents[key]? = none ∨
      next.KeptRequest tombstone key := by
  obtain ⟨digest, _, appended⟩ := publishes.journal
  intro key member
  rw [publishes.erasedContentRefs, mem_append, Option.mem_toList] at member
  rcases member with earlier | own
  · have other : event.requestContent.id ≠ key :=
      (owned key earlier).ne_request journal shape (Nat.lt_succ_self _)
    rcases absent key earlier with missing | ⟨record, listed, kept⟩
    · left
      rw [publishes.contents, ExtTreeMap.getElem?_insert]
      simp only [Std.compare_eq_iff_eq, other, ↓reduceIte, missing]
    · exact .inr ⟨record, by rw [appended]; exact mem_append_left _ listed, kept⟩
  · right
    refine ⟨_, by rw [appended]; exact mem_append_right _ (mem_singleton.mpr rfl), ?_, ?_⟩
    · exact (affects key own).symm
    · exact requestFor_eq own

/-- The content of a request is stored under a key that no record uses. -/
theorem Publishes.keeps_record {commitSeq recordSeq : Nat} (journal : JournalClass kind)
    (reference : ContentKey kind owner commitSeq event.requestContent.id)
    (shape : ContentKey "record" id recordSeq key) : next.contents[key]? =
      middle.contents[key]? := by
  rw [publishes.contents]
  refine BTreeMap.getElem?_insert_of_ne ?_
  rintro rfl
  exact journal.plain.2.1 (reference.inj shape journal.plain.1 (by decide)).1

theorem Publishes.present (present : ∀ (id : LogicalId) (history : List StoredRevision),
    middle.deleted id = false →
      middle.histories[id]? = some history →
        ∀ revision ∈ history, middle.contents.contains revision.content.id = true) :
    ∀ (id : LogicalId) (history : List StoredRevision), next.deleted id = false →
      next.histories[id]? = some history →
        ∀ revision ∈ history, next.contents.contains revision.content.id = true := by
  intro id history live stored revision member
  rw [deleted, publishes.tombstones] at live
  rw [publishes.histories] at stored
  rw [publishes.contents, ExtTreeMap.contains_insert,
    present id history live stored revision member, Bool.or_true]

theorem Publishes.sameHistories (sound : SoundHistories (middle.head + 1) middle) :
    SoundHistories next.head next where
  settled := by
    rw [publishes.histories, publishes.head]
    exact sound.settled
  revisions := by
    intro id history stored
    rw [publishes.histories] at stored
    rw [publishes.head]
    exact sound.revisions id history stored

end

end

variable {requestContent : ContentRef}

theorem Sound.observation (sound : Sound codec state) (captures : Captures state input middle)
    (reference : RefersTo "journal-observation" input.observationId (state.head + 1) requestContent)
    (publishes : Publishes codec middle
      (.observationAccepted input.observationId requestDigest requestContent) request workspaces next) : Sound codec next := by
  obtain ⟨record, accepted, _, content, stored, value, contents⟩ := captures.observation
  have shape := reference.key
  rw [← captures.head] at shape
  have requests : ∀ record ∈ middle.journal, record.commitSeq ≤ middle.head ∧
    JournalFacts record := by
    rw [captures.journal, captures.head]
    exact sound.requests
  have foreign : ∀ id (tombstone : DeletionTombstone), state.tombstones[id]? = some tombstone →
    input.observationId ≠ id := by
    rintro id tombstone found rfl
    have fresh := captures.unusedDeleted
    rw [deleted_of_tombstone found] at fresh
    cases fresh
  constructor
  · rw [publishes.databaseId, captures.databaseId]
    exact sound.named
  · rw [publishes.head]
    exact publishes.bounded
  · refine publishes.sameHistories ?_
    have kept := sound.histories.mono (Nat.le_succ _)
    refine ⟨?_, ?_⟩
    · rw [captures.histories, captures.head]
      exact kept.settled
    · intro id history found
      rw [captures.histories] at found
      rw [captures.head]
      exact kept.revisions id history found
  · intro id observation found
    rw [publishes.observations, stored] at found
    rcases BTreeMap.getElem?_insert_cases found with ⟨rfl, rfl⟩ | ⟨_, found⟩
    · rw [accepted]
      exact content.key
    · exact sound.observations id observation found
  · intro id known
    rw [publishes.histories, captures.histories] at known
    rw [publishes.observations, stored, ExtTreeMap.contains_insert, sound.disjoint id known,
      Bool.or_false]
    have fresh := captures.unusedRecord
    by_contra same
    have equal : input.observationId = id := by simpa using same
    rw [equal, known] at fresh
    cases fresh
  · obtain ⟨digest, _, appended⟩ := publishes.journal
    rw [appended, publishes.head, length_append, captures.journal, captures.head, sound.length]
    rfl
  · refine publishes.chain ?_ ?_
    · rw [captures.journal, captures.head, sound.length]
    · rw [captures.journal]
      exact sound.chain
  · exact publishes.requests requests (.inl rfl) shape
  · exact publishes.verified
  · refine publishes.present ?_
    intro id history live found revision member
    rw [deleted, captures.tombstones] at live
    rw [captures.histories] at found
    rw [contents, ExtTreeMap.contains_insert, sound.present id history live found revision member,
      Bool.or_true]
  · intro id tombstone found
    rw [publishes.tombstones, captures.tombstones] at found
    obtain ⟨effective, absent⟩ := sound.erased id tombstone found
    have sameRefs : middle.erasedContentRefs id = state.erasedContentRefs id := by
      rw [erasedContentRefs, erasedContentRefs, captures.histories, captures.journal, stored,
        ExtTreeMap.getElem?_insert]
      simp only [Std.compare_eq_iff_eq, foreign id tombstone found, ↓reduceIte]
    refine ⟨by rw [publishes.head, captures.head]; omega, ?_⟩
    refine publishes.erased ?_ (.inl rfl) shape ?_ ?_
    · rw [sameRefs, captures.head]
      intro key member
      exact sound.ownedKey member
    · rw [sameRefs]
      intro key member
      have other : record.content.id ≠ key :=
        (sound.ownedKey member).ne_observation content.key (foreign id tombstone found)
      rw [contents, ExtTreeMap.getElem?_insert, State.KeptRequest, captures.journal]
      simp only [Std.compare_eq_iff_eq, other, ↓reduceIte]
      exact absent key member
    · intro key affected
      simp [requestFor, foreign id tombstone found] at affected

theorem Sound.transaction (sound : Sound codec state) (held : DraftSound state draft)
    (journal : JournalClass kind) (reference : RefersTo kind owner (state.head + 1) requestContent)
    (publishes : Publishes codec draft.state
      (.semanticPublished requestDigest requestContent draft.affectedIds) request workspaces next) : Sound codec next := by
  have drafting := held.drafting
  have shape := reference.key
  rw [← drafting.head] at shape
  constructor
  · rw [publishes.databaseId, drafting.databaseId]
    exact sound.named
  · rw [publishes.head]
    exact publishes.bounded
  · refine publishes.sameHistories ?_
    rw [drafting.head]
    exact drafting.sound
  · rw [publishes.observations, drafting.observations]
    exact sound.observations
  · intro id known
    rw [publishes.histories] at known
    rw [publishes.observations, drafting.observations]
    exact held.disjoint id known
  · obtain ⟨digest, _, appended⟩ := publishes.journal
    rw [appended, publishes.head, length_append, drafting.journal, drafting.head, sound.length]
    rfl
  · refine publishes.chain ?_ ?_
    · rw [drafting.journal, drafting.head, sound.length]
    · rw [drafting.journal]
      exact sound.chain
  · refine publishes.requests ?_ journal shape
    rw [drafting.journal, drafting.head]
    exact sound.requests
  · exact publishes.verified
  · exact publishes.present held.present
  · intro id tombstone found
    rw [publishes.tombstones] at found
    refine ⟨?_, publishes.erased ?_ journal shape ?_ ?_⟩
    · rw [publishes.head, drafting.head]
      rcases drafting.added id tombstone found with earlier | fresh
      · exact Nat.le_succ_of_le (sound.erased id tombstone earlier).1
      · exact Nat.le_of_eq fresh
    · intro key member
      rw [drafting.head]
      exact held.ownedKey sound member
    · intro key member
      rw [State.KeptRequest, drafting.journal]
      exact held.erased id tombstone found key member
    · intro key affected
      rw [drafting.head]
      refine held.affected id ?_ tombstone found
      by_contra unaffected
      simp [requestFor, unaffected] at affected

/-- The step lemma: whatever an operation publishes, the state stays sound. -/
theorem Published.sound (published : Published codec state operation next)
    (sound : Sound codec state) : Sound codec next := by
  cases published with
  | observation captures reference publishes => exact sound.observation captures reference publishes
  | transaction carries run complete kind reference publishes =>
    exact sound.transaction ((DraftSound.start sound).runs sound run)
      (.inr kind) reference publishes

theorem Initial.sound (initial : Initial state) : Sound codec state := by
  obtain ⟨databaseId, created⟩ := initial
  obtain ⟨named, created⟩ := unit_ok created
  cases created
  simp only [ensure_ok_iff, Bool.not_eq_true'] at named
  refine ⟨named, Nat.two_pow_pos 64, ⟨?_, ?_⟩, ?_, ?_, rfl, .nil, ?_, rfl, ?_, ?_⟩
  · intro id history stored
    simp at stored
  · intro id history stored
    simp at stored
  · intro id record stored
    simp at stored
  · intro id known
    simp at known
  · intro record member
    cases member
  · intro id history _ stored
    simp at stored
  · intro id tombstone found
    simp at found

/-- The run lemma: every state the reference service can reach is sound. -/
theorem reachable_sound (reachable : ReachableBy codec admits state) : Sound codec state := by
  refine reachable.invariant (Sound codec) (fun _ => Initial.sound) ?_
  rintro before operation after _ sound ⟨_, rfl⟩
  rcases execute_cases sound.histories operation with unchanged | published
  · rw [unchanged]
    exact sound
  · exact published.sound sound

end ContextDb.Reference
