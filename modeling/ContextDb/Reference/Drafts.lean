import ContextDb.Reference.Effects

/-! What the validators establish. -/

set_option autoImplicit false

namespace ContextDb.Reference

open Lib Std ContextDb.Core State List Option ExtTreeMap Draft Nat

variable {state : State} {record : LogicalRecord} {atSeq : Nat} {id : LogicalId}

def State.ActiveKind (state : State) (atSeq : Nat) (kind : RecordKind) (id : LogicalId) : Prop :=
  state.deleted id = false ∧ ∃ revision, state.lookup id atSeq = some revision ∧
    revision.record.kind = kind ∧ revision.record.lifecycle = .active

theorem requireKind_ok {kind : RecordKind} (success : requireKind state kind atSeq id = .ok ()) :
    state.ActiveKind atSeq kind id := by
  obtain ⟨live, success⟩ := unit_ok success
  obtain ⟨revision, found, active⟩ := bind_ok success
  simp only [ensure_ok_iff, Bool.not_eq_true'] at live
  simp only [ensure_ok_iff, Bool.and_eq_true, decide_eq_true_eq] at active
  exact ⟨live, revision, required_ok found, active⟩

def LogicalRecordMetadata.Checks (record : LogicalRecordMetadata) (id : LogicalId) : Prop :=
  id ∈ record.links.evidence ∨ (record.kind = .claim ∧ record.links.subject = some id) ∨
    (record.kind = .edge ∧ (record.links.source = some id ∨ record.links.target = some id)) ∨
    (record.kind = .conflict ∧ id ∈ record.links.conflictMembers)

private theorem checkMembers_ok {members : List LogicalId}
    {signature final : Option ConflictSignature}
    (success : members.foldlM (checkMember state atSeq) signature = .ok final) :
    ∀ member ∈ members, state.ActiveKind atSeq .claim member := by
  induction members generalizing signature with
  | nil => simp
  | cons first rest ih =>
    rw [List.foldlM_cons] at success
    obtain ⟨next, checked, remaining⟩ := bind_ok success
    obtain ⟨kind, _⟩ := unit_ok checked
    intro member listed
    rcases List.mem_cons.mp listed with rfl | later
    · exact requireKind_ok kind
    · exact ih remaining member later

theorem validateConflict_ok (success : validateConflict state record atSeq = .ok ()) :
    ∀ member ∈ record.links.conflictMembers, state.ActiveKind atSeq .claim member := by
  have success := rest_ok success
  obtain ⟨_, checked, _⟩ := bind_ok success
  intro member listed
  exact checkMembers_ok checked member (by simpa using listed)

theorem validateLinks_ok (success : validateLinks state record atSeq = .ok ())
    (checked : record.metadata.Checks id) (notEvidence : id ∉ record.links.evidence) :
    ∃ kind, state.ActiveKind atSeq kind id := by
  rcases checked with evidence | ⟨kind, subject⟩ | ⟨kind, ends⟩ | ⟨kind, member⟩
  · exact absurd evidence notEvidence
  · have claim : record.kind = .claim := kind
    simp only [validateLinks, claim] at success
    obtain ⟨named, given, success⟩ := bind_ok success
    obtain ⟨node, _⟩ := unit_ok success
    obtain rfl : named = id := some.inj ((required_ok given).symm.trans subject)
    exact ⟨.node, requireKind_ok node⟩
  · have edge : record.kind = .edge := kind
    simp only [validateLinks, edge] at success
    obtain ⟨source, sourceGiven, success⟩ := bind_ok success
    obtain ⟨target, targetGiven, success⟩ := bind_ok success
    obtain ⟨sourceNode, success⟩ := unit_ok success
    obtain ⟨targetNode, _⟩ := unit_ok success
    rcases ends with isSource | isTarget
    · obtain rfl : source = id := some.inj ((required_ok sourceGiven).symm.trans isSource)
      exact ⟨.node, requireKind_ok sourceNode⟩
    · obtain rfl : target = id := some.inj ((required_ok targetGiven).symm.trans isTarget)
      exact ⟨.node, requireKind_ok targetNode⟩
  · have conflict : record.kind = .conflict := kind
    simp only [validateLinks, conflict] at success
    exact ⟨.claim, validateConflict_ok success id member⟩

structure RecordFacts (state : State) (record : LogicalRecord) (atSeq : Nat) : Prop where
  named : isBlank record.id = false
  validTime : record.validTime.isValid = true
  links : validateLinks state record atSeq = .ok ()
  checked : ∀ id, record.metadata.Checks id → ∃ kind, state.ActiveKind atSeq kind id

/-- All that the validation of a single record leaves behind for the proofs. -/
theorem validateRecord_ok (success : validateRecord state record atSeq = .ok ()) :
    RecordFacts state record atSeq := by
  obtain ⟨identity, success⟩ := unit_ok success
  have success := rest_ok success
  have success := rest_ok success
  obtain ⟨evidence, links⟩ := unit_ok success
  simp only [ensure_ok_iff, Bool.and_eq_true, Bool.not_eq_true'] at identity
  refine ⟨identity.1, identity.2, links, ?_⟩
  intro id checked
  by_cases listed : id ∈ record.links.evidence
  · exact ⟨.evidence, requireKind_ok (forM_ok_iff.mp evidence id (by simpa using listed))⟩
  · exact validateLinks_ok links checked listed

def Contends (left right : LogicalRecordMetadata) : Prop :=
  left.kind = .claim ∧ right.kind = .claim ∧ left.lifecycle = .active ∧ right.lifecycle = .active ∧
    left.links.singleValued = true ∧ right.links.singleValued = true ∧
    left.links.subject = right.links.subject ∧ left.links.predicate = right.links.predicate ∧
    left.access.workspace = right.access.workspace ∧ left.access.scopes = right.access.scopes

theorem Contends.symm {left right : LogicalRecordMetadata} (contends : Contends left right) :
    Contends right left := by
  obtain ⟨leftKind, rightKind, leftActive, rightActive, leftSingle, rightSingle, subject, predicate,
    workspace, scopes⟩ := contends
  exact ⟨rightKind, leftKind, rightActive, leftActive, rightSingle, leftSingle, subject.symm,
    predicate.symm, workspace.symm, scopes.symm⟩

/-- The scan of `validateLinks` over the other records: a claim that contends with a live one
carries the same conflict set. -/
theorem validateCardinality_ok (success : validateLinks state record atSeq = .ok ())
    {other : StoredRevision} (different : id ≠ record.id) (live : state.deleted id = false)
    (found : state.lookup id atSeq = some other)
    (contends : Contends record.metadata other.record) :
    record.links.conflictSet.isSome = true ∧ record.links.conflictSet =
      other.record.links.conflictSet := by
  obtain ⟨kind, otherKind, active, otherActive, single, otherSingle, subject, predicate, workspace,
    scopes⟩ := contends
  have claim : record.kind = .claim := kind
  have lifecycle : record.lifecycle = .active := active
  have singleValued : record.links.singleValued = true := single
  simp only [validateLinks, claim] at success
  obtain ⟨_, _, success⟩ := bind_ok success
  have success := rest_ok success
  have cardinality := rest_ok success
  simp only [validateCardinality, singleValued, lifecycle, Bool.not_true, bne_self_eq_false,
    Bool.or_self, Bool.false_eq_true, ↓reduceIte] at cardinality
  obtain ⟨history, stored, current⟩ := bind_eq_some_iff.mp found
  have checked := forM_ok_iff.mp cardinality (id, history)
    (mem_toList_iff_getElem?_eq_some.mpr stored)
  simp only [different, live, decide_false, Bool.or_self, Bool.false_eq_true, ↓reduceIte, current,
    ensure_ok_iff] at checked
  have slot : sameSlot record.metadata other.record = true := by
    simp [sameSlot, otherKind, otherActive, otherSingle, subject, predicate, workspace, scopes]
  simp only [slot, Bool.true_and, Bool.not_not, sameConflict, Bool.and_eq_true,
    decide_eq_true_eq] at checked
  exact checked

variable {revision : StoredRevision}

theorem validateCompleteState_ok (success : validateCompleteState state atSeq = .ok ())
    (live : state.deleted id = false) (found : state.lookup id atSeq = some revision) :
    (revision.record.kind = .claim → ∀ conflictId, revision.record.links.conflictSet =
      some conflictId →
      ∃ conflict, state.lookup conflictId atSeq = some conflict ∧ conflict.record.kind = .conflict ∧
        conflict.record.lifecycle = .active ∧ id ∈ conflict.record.links.conflictMembers) ∧
    (revision.record.kind = .conflict → ∀ member ∈ revision.record.links.conflictMembers,
      ∃ claim, state.lookup member atSeq = some claim ∧ claim.record.links.conflictSet =
        some id) := by
  obtain ⟨history, stored, current⟩ := bind_eq_some_iff.mp found
  have checked := forM_ok_iff.mp success (id, history) (mem_toList_iff_getElem?_eq_some.mpr stored)
  simp only [validateCompleteEntry, live, Bool.false_eq_true, ↓reduceIte, current] at checked
  constructor
  · intro claim conflictId named
    simp only [claim, validateConflictSetLink, named] at checked
    obtain ⟨conflict, resolved, member⟩ := bind_ok checked
    obtain ⟨present, accepted⟩ := filter_eq_some_iff.mp (required_ok resolved)
    simp only [Bool.and_eq_true, decide_eq_true_eq] at accepted
    simp only [ensure_ok_iff, ExtTreeSet.contains_iff_mem] at member
    exact ⟨conflict, present, accepted.1, accepted.2, member⟩
  · intro conflict member listed
    simp only [conflict] at checked
    have passed := forM_ok_iff.mp checked member (by simpa using listed)
    obtain ⟨claim, resolved, backLink⟩ := bind_ok passed
    simp only [ensure_ok_iff, decide_eq_true_eq] at backLink
    exact ⟨claim, required_ok resolved, backLink⟩

/-! Transactions in progress. A draft keeps the base state's past: lookups up to the
base head find the same revisions, tombstones only grow, and nothing but the drafted
records changes. From this, a successful transaction is a run of its effects. -/

variable {codec : Codec} {state base : State} {draft next : Draft} {value : Value}
    {bound atSeq : Nat} {commitSeq : Nat}

section

def State.AllRevisions (state : State) (holds : LogicalId → StoredRevision → Prop) : Prop :=
  ∀ id history, state.histories[id]? = some history →
    ∀ revision ∈ history, holds id revision.settled

variable {history : List StoredRevision}

theorem mem_closeLast (member : revision ∈ closeLast commitSeq history) :
    ∃ earlier ∈ history, earlier.settled = revision.settled := by
  rcases eq_nil_or_concat history with rfl | ⟨front, last, rfl⟩
  · simp [closeLast] at member
  · rw [concat_eq_append] at member ⊢
    rw [closeLast_append, mem_append, mem_singleton] at member
    rcases member with kept | rfl
    · exact ⟨revision, by simp [kept], rfl⟩
    · exact ⟨last, by simp, rfl⟩

/-- A revision listed after a write is the written one or, its end apart, one listed before. -/
theorem State.mem_storeRevision {listed : StoredRevision}
    (stored : (state.storeRevision revision value).histories[id]? = some history)
    (member : listed ∈ history) : (revision.id = id ∧ listed = revision) ∨
      ∃ earlier, state.histories[id]? = some earlier ∧ ∃ original ∈ earlier, original.settled =
        listed.settled := by
  rw [histories_storeRevision] at stored
  by_cases same : revision.id = id
  · simp only [same, ↓reduceIte, some.injEq] at stored
    subst history
    rcases mem_append.mp member with earlier | new
    · obtain ⟨original, originalMember, sameSettled⟩ := mem_closeLast earlier
      cases found : state.histories[id]? with
      | none => simp [found] at originalMember
      | some history =>
        rw [found, getD_some] at originalMember
        exact .inr ⟨history, rfl, original, originalMember, sameSettled⟩
    · exact .inl ⟨same, mem_singleton.mp new⟩
  · simp only [same, ↓reduceIte] at stored
    exact .inr ⟨history, stored, listed, member, rfl⟩

variable {holds : LogicalId → StoredRevision → Prop}

/-- A property that ignores where a revision ends survives the storing of one more that has it. -/
theorem State.AllRevisions.storeRevision (all : state.AllRevisions holds)
    (added : holds revision.id revision.settled) :
    (state.storeRevision revision value).AllRevisions holds := by
  intro id history stored listed member
  obtain ⟨rfl, rfl⟩ | ⟨earlier, found, original, known, same⟩ := mem_storeRevision stored member
  · exact added
  · rw [← same]
    exact all id earlier found original known

theorem State.AllRevisions.mono {weaker : LogicalId → StoredRevision → Prop}
    (all : state.AllRevisions holds) (weaken : ∀ id revision, holds id revision →
      weaker id revision) : state.AllRevisions weaker :=
  fun id history stored revision member => weaken id _ (all id history stored revision member)

theorem State.lookup_mem (found : state.lookup id atSeq = some revision) :
    ∃ history, state.histories[id]? = some history ∧ revision ∈ history := by
  obtain ⟨history, stored, selected⟩ := bind_eq_some_iff.mp found
  exact ⟨history, stored, mem_reverse.mp (mem_of_find?_eq_some selected)⟩

structure RevisionFacts (bound : Nat) (id : LogicalId) (revision : StoredRevision) : Prop where
  owner : revision.id = id
  positive : 0 < revision.transactionFrom
  bounded : revision.transactionFrom ≤ bound
  validTime : revision.record.validTime.isValid = true
  named : isBlank id = false
  number : revision.revision < 2 ^ 32 - 1
  content : RefersTo "record" id revision.transactionFrom revision.content

structure SoundHistories (bound : Nat) (state : State) : Prop where
  settled : ∀ (id : LogicalId) (history : List StoredRevision),
    state.histories[id]? = some history → Settled bound history
  revisions : state.AllRevisions (RevisionFacts bound)

section

variable (sound : SoundHistories bound state)
include sound

theorem SoundHistories.mono {later : Nat} (ordered : bound ≤ later) :
    SoundHistories later state where
  settled id history stored := (sound.settled id history stored).mono ordered
  revisions := sound.revisions.mono fun _ _ facts =>
    { facts with bounded := facts.bounded.trans ordered }

/-- From the bound on, a lookup finds the last revision of the history. -/
theorem SoundHistories.lookup_of_le (later : bound ≤ atSeq) :
    state.lookup id atSeq = state.histories[id]?.bind (·.getLast?) := by
  rw [State.lookup]
  cases stored : state.histories[id]? with
  | none => rfl
  | some history => exact (sound.settled id history stored).revisionAt later

theorem SoundHistories.lookup_id (found : state.lookup id atSeq = some revision) :
    revision.id = id := by
  obtain ⟨history, stored, member⟩ := lookup_mem found
  exact (sound.revisions id history stored revision member).owner

theorem SoundHistories.open_end {history : List StoredRevision} {last : StoredRevision}
    (stored : state.histories[id]? = some history)
    (found : history.getLast? = some last) : last.transactionTo = none := by
  obtain ⟨final, same, _, opened⟩ := sound.settled id history stored
  rw [same] at found
  cases found
  exact opened

end

theorem WriteFacts.revisionFacts (facts : WriteFacts commitSeq draft record revision)
    (positive : 0 < commitSeq) :
    RevisionFacts commitSeq revision.id revision.settled := by
  have checked := validateRecord_ok facts.valid
  have number : revision.revision < 2 ^ 32 - 1 := by
    have exhausted := facts.notExhausted
    have bounded : revision.revision ≤ 2 ^ 32 - 1 := by
      rw [facts.number]
      cases draft.state.lookup record.id draft.state.head with
      | none => decide
      | some current => exact min_le_right _ _
    omega
  constructor
  · rfl
  · exact facts.start ▸ positive
  · exact Nat.le_of_eq facts.start
  · change revision.record.validTime.isValid = true
    rw [facts.metadata]
    exact checked.validTime
  · rw [facts.id]
    exact checked.named
  · exact number
  · change RefersTo "record" revision.id revision.transactionFrom revision.content
    rw [facts.id, facts.start]
    exact facts.content

/-- One write keeps the histories sound: the only revision that was open is the one it closes. -/
theorem SoundHistories.write (sound : SoundHistories commitSeq draft.state)
    (facts : WriteFacts commitSeq draft record revision) (positive : 0 < commitSeq) :
    SoundHistories commitSeq (draft.write revision value).state where
  settled := by
    intro id history stored
    change (draft.state.storeRevision revision value).histories[id]? = some history at stored
    rw [histories_storeRevision] at stored
    by_cases same : revision.id = id
    · simp only [same, ↓reduceIte, some.injEq] at stored
      subst history
      exact ⟨revision, getLast?_concat, Nat.le_of_eq facts.start, facts.opened⟩
    · simp only [same, ↓reduceIte] at stored
      exact sound.settled id history stored
  revisions := sound.revisions.storeRevision (facts.revisionFacts positive)

theorem SoundHistories.sameRecords {after : State} (sound : SoundHistories bound state)
    (same : SameRecords state after) : SoundHistories bound after where
  settled := by rw [same.histories]; exact sound.settled
  revisions := by
    intro id history stored
    rw [same.histories] at stored
    exact sound.revisions id history stored

end

variable {target requestedBy : LogicalId} {reason : String}

/-- A deletion cascades only through records that are still live. -/
theorem State.DeletedWith.live (chain : state.DeletedWith target id)
    (live : state.deleted target = false) : state.deleted id = false := by
  cases chain with
  | refl => exact live
  | tail _ step => exact step.1

theorem Draft.sameRecords_erase : SameRecords draft.state
    (draft.erase target requestedBy reason commitSeq).state :=
  sameRecords_eraseAll (SameRecords.refl draft.state)

theorem Draft.tombstones_erase :
    (draft.erase target requestedBy reason commitSeq).state.tombstones[id]? =
      if id ∈ draft.state.deletionClosure target then
        some (draft.state.tombstoneFor target requestedBy reason commitSeq id) else draft.state.tombstones[id]? := by
  rw [erase, tombstones_eraseAll (SameRecords.refl draft.state)]
  simp

/-- After a deletion exactly the records it reaches and those deleted earlier are gone. -/
theorem Draft.deleted_erase : (draft.erase target requestedBy reason commitSeq).state.deleted id =
    true ↔
      draft.state.DeletedWith target id ∨ draft.state.deleted id = true := by
  rw [erase, deleted_eraseAll, ExtTreeSet.mem_toList, mem_deletionClosure_iff]

theorem Draft.deleted_erase_of_notMem (outside : id ∉ draft.state.deletionClosure target) :
    (draft.erase target requestedBy reason commitSeq).state.deleted id =
      draft.state.deleted id := by
  rw [deleted, deleted, ← isSome_getElem?_eq_contains, tombstones_erase, if_neg outside,
    isSome_getElem?_eq_contains]

theorem Draft.live_of_erase (live :
    (draft.erase target requestedBy reason commitSeq).state.deleted id = false) :
    ¬ draft.state.DeletedWith target id ∧ draft.state.deleted id = false := by
  have outside := mt deleted_erase.mpr (Bool.eq_false_iff.mp live)
  rw [not_or, Bool.not_eq_true] at outside
  exact outside

/-- A write is seen at its own sequence and hides no other record. -/
theorem Draft.lookup_write (facts : WriteFacts commitSeq draft record revision) (value : Value)
    (id : LogicalId) :
    (draft.write revision value).state.lookup id commitSeq = if record.id =
      id then some revision else draft.state.lookup id commitSeq := by
  rw [← facts.id]
  exact lookup_storeRevision facts.visible

section

structure Drafting (base : State) (draft : Draft) : Prop where
  databaseId : draft.state.databaseId = base.databaseId
  head : draft.state.head = base.head
  observations : draft.state.observations = base.observations
  journal : draft.state.journal = base.journal
  idempotency : draft.state.idempotency = base.idempotency
  journalIndex : draft.state.securityIndexes.journalByWorkspace =
    base.securityIndexes.journalByWorkspace
  eventIndex : draft.state.securityIndexes.eventsByWorkspace =
    base.securityIndexes.eventsByWorkspace
  sound : SoundHistories (base.head + 1) draft.state
  past : ∀ id atSeq, atSeq ≤ base.head →
    (draft.state.lookup id atSeq).map (·.settled) = (base.lookup id atSeq).map (·.settled)
  kept : ∀ (id : LogicalId) (tombstone : DeletionTombstone),
    base.tombstones[id]? = some tombstone → draft.state.tombstones[id]? = some tombstone
  added : ∀ (id : LogicalId) (tombstone : DeletionTombstone), draft.state.tombstones[id]? =
    some tombstone →
      base.tombstones[id]? = some tombstone ∨ tombstone.effectiveSeq = base.head + 1

theorem Drafting.start (sound : SoundHistories base.head base) :
    Drafting base { state := base, affectedIds := ∅ } where
  databaseId := rfl
  head := rfl
  observations := rfl
  journal := rfl
  idempotency := rfl
  journalIndex := rfl
  eventIndex := rfl
  sound := sound.mono (le_succ _)
  past _ _ _ := rfl
  kept _ _ present := present
  added _ _ present := .inl present

theorem Drafting.write (drafting : Drafting base draft) (facts : WriteFacts
    (base.head + 1) draft record revision) :
    Drafting base (draft.write revision value) where
  databaseId := drafting.databaseId
  head := drafting.head
  observations := drafting.observations
  journal := drafting.journal
  idempotency := drafting.idempotency
  journalIndex := drafting.journalIndex
  eventIndex := drafting.eventIndex
  sound := drafting.sound.write facts (succ_pos _)
  past := by
    intro id atSeq earlier
    rw [← drafting.past id atSeq earlier]
    refine lookup_storeRevision_earlier ?_ ?_
    · rw [facts.start]
      omega
    · intro history last stored found
      exact drafting.sound.open_end stored found
  kept := drafting.kept
  added := drafting.added

theorem Drafting.erase (drafting : Drafting base draft) (live : draft.state.deleted target =
    false) :
    Drafting base (draft.erase target requestedBy reason (base.head + 1)) := by
  have same : SameRecords draft.state (draft.erase target requestedBy reason
    (base.head + 1)).state := sameRecords_erase
  constructor
  · rw [same.databaseId, drafting.databaseId]
  · rw [same.head, drafting.head]
  · rw [same.observations, drafting.observations]
  · rw [same.journal, drafting.journal]
  · rw [same.idempotency, drafting.idempotency]
  · rw [same.journalIndex, drafting.journalIndex]
  · rw [same.eventIndex, drafting.eventIndex]
  · exact drafting.sound.sameRecords same
  · intro id atSeq earlier
    rw [same.lookup, drafting.past id atSeq earlier]
  · intro id tombstone present
    have earlier := drafting.kept id tombstone present
    have outside : id ∉ draft.state.deletionClosure target := by
      rw [mem_deletionClosure_iff]
      intro chain
      have deleted : draft.state.deleted id = true := by
        rw [deleted, ← isSome_getElem?_eq_contains, earlier]
        rfl
      rw [chain.live live] at deleted
      cases deleted
    rw [tombstones_erase, if_neg outside, earlier]
  · intro id tombstone present
    rw [tombstones_erase] at present
    split at present
    · cases present
      exact .inr rfl
    · exact drafting.added id tombstone present

/-- The step lemma of a draft: neither effect leaves what `Drafting` says. -/
theorem Performs.drafting {effect : Effect} (performed : Performs (base.head + 1) draft effect next)
    (drafting : Drafting base draft) : Drafting base next := by
  cases performed with
  | write value facts => exact drafting.write facts
  | delete requestedBy reason live known => exact drafting.erase live

section

variable (drafting : Drafting base draft)
include drafting

theorem Drafting.runs {effects : List Effect} (run : Runs
    (Performs (base.head + 1)) draft effects next) : Drafting base next :=
  run.preserves (Drafting base) drafting fun _ _ _ _ held performed => performed.drafting held

variable {current : StoredRevision}

/-- At the base's head the draft holds what the base holds, so that a lifecycle change reads the
base's record even after other writes. -/
theorem Drafting.base_lookup (found : draft.state.lookup id draft.state.head = some current) :
    ∃ original, base.lookup id base.head = some original ∧ original.record = current.record ∧
      current.id = id := by
  have past := drafting.past id base.head (Nat.le_refl _)
  rw [← drafting.head, found, drafting.head] at past
  obtain ⟨original, stored, same⟩ := map_eq_some_iff.mp past.symm
  exact ⟨original, stored, StoredRevision.settled_record same, drafting.sound.lookup_id found⟩

theorem Drafting.lookup_of_base (stored : base.lookup id base.head = some current) :
    ∃ revision, draft.state.lookup id (base.head + 1) = some revision := by
  have past := drafting.past id base.head (Nat.le_refl _)
  rw [stored, map_some] at past
  obtain ⟨seen, found, _⟩ := map_eq_some_iff.mp past
  obtain ⟨history, present, _⟩ := lookup_mem found
  obtain ⟨last, isLast, _⟩ := drafting.sound.settled id history present
  exact ⟨last, by rw [drafting.sound.lookup_of_le (Nat.le_refl _), present]; exact isLast⟩

/-- A lifecycle change of the source is one write of the record the base has. -/
private theorem reviseLifecycle_runs {target : LogicalId} {lifecycle : Lifecycle}
    (success : reviseLifecycle codec draft target lifecycle (base.head + 1) = .ok next) :
    Runs (Performs (base.head + 1)) draft (base.lifecycleWrite target lifecycle) next := by
  obtain ⟨current, content, revision, value, found, facts, rfl⟩ := reviseLifecycle_ok success
  obtain ⟨original, stored, sameRecord, owner⟩ := drafting.base_lookup found
  have effect : base.lifecycleWrite target lifecycle = [.write
    (current.withLifecycle lifecycle content).id
        (current.withLifecycle lifecycle content).metadata] := by
    rw [lifecycleWrite, stored]
    simp only [map_some, toList_some, sameRecord]
    rw [← owner]
    rfl
  rw [effect]
  exact .single (.write value facts)

/-- Each mutation of the source performs the effects that can be read off the base. -/
theorem applyMutation_runs {mutation : Mutation} (success : applyMutation codec
    (base.head + 1) draft mutation = .ok next) :
    Runs (Performs (base.head + 1)) draft (mutation.effects base) next := by
  cases mutation with
  | put record expected =>
    obtain ⟨revision, value, facts, rfl⟩ := putRecord_ok success
    exact .single (.write value facts)
  | correct target replacement =>
    have success := rest_ok success
    obtain ⟨revised, lifecycle, replaced⟩ := bind_ok success
    obtain ⟨revision, value, facts, rfl⟩ := putRecord_ok replaced
    exact (reviseLifecycle_runs drafting lifecycle).append (.single (.write value facts))
  | retract target => exact reviseLifecycle_runs drafting success
  | delete target requestedBy reason =>
    obtain ⟨live, known, rfl⟩ := hardDelete_ok success
    exact .single (.delete requestedBy reason live known)

end

/-- A whole transaction is a run of the effects of its mutations, in their order. -/
theorem applyMutations_runs {mutations : List Mutation} (sound : SoundHistories base.head base)
    (success : applyMutations codec base (base.head + 1) mutations = .ok next) :
    Runs (Performs (base.head + 1)) { state := base, affectedIds := ∅ }
      (mutations.flatMap (·.effects base)) next := by
  have fold : ∀ (mutations : List Mutation) (draft : Draft), Drafting base draft →
      mutations.foldlM (applyMutation codec (base.head + 1)) draft = .ok next →
      Runs (Performs (base.head + 1)) draft (mutations.flatMap (·.effects base)) next := by
    intro mutations
    induction mutations with
    | nil =>
      intro draft _ success
      cases success
      exact .nil _
    | cons mutation rest ih =>
      intro draft drafting success
      rw [foldlM_cons] at success
      obtain ⟨middle, applied, remaining⟩ := bind_ok success
      have run := applyMutation_runs drafting applied
      rw [flatMap_cons]
      exact run.append (ih middle (drafting.runs run) remaining)
  exact fold mutations _ (Drafting.start sound) success

end

/-! The outcome of a transaction in terms of the state it starts from: the record each
id is left with, and the ids that are deleted. -/

variable {base : State} {effects : List Effect}

def Effect.writes (id : LogicalId) : Effect → Option LogicalRecordMetadata
  | .write written metadata => if written = id then some metadata else none
  | .delete _ => none

def writtenLast (id : LogicalId) : List Effect → Option LogicalRecordMetadata
  | [] => none
  | effect :: rest => (writtenLast id rest).or (effect.writes id)

variable {effect : Effect}

/-- What one effect leaves in the records: a write its own metadata, a deletion everything. -/
theorem Performs.lookup_record (performed : Performs commitSeq draft effect next) :
    (next.state.lookup id commitSeq).map (·.record) =
      (effect.writes id).or ((draft.state.lookup id commitSeq).map (·.record)) := by
  cases performed with
  | write value facts =>
    rw [Draft.lookup_write facts, Effect.writes]
    split
    · simp [facts.metadata]
    · simp
  | delete requestedBy reason live known =>
    rw [Draft.sameRecords_erase.lookup, Effect.writes, Option.none_or]

/-- After a run a record is what was written to it last, or what it was before the run. -/
theorem lookup_record_runs (run : Runs (Performs commitSeq) draft effects next) (id : LogicalId) :
    (next.state.lookup id commitSeq).map (·.record) = (writtenLast id effects).or
    ((draft.state.lookup id commitSeq).map (·.record)) := by
  induction run with
  | nil draft => rw [writtenLast, Option.none_or]
  | cons head tail ih => rw [ih, head.lookup_record, writtenLast, Option.or_assoc]

theorem record_runs (sound : SoundHistories base.head base)
    (run : Runs (Performs (base.head + 1)) { state := base, affectedIds := ∅ } effects draft)
    (id : LogicalId) :
    (draft.state.lookup id (base.head + 1)).map (·.record) = (writtenLast id effects).or
    ((base.lookup id base.head).map (·.record)) := by
  rw [lookup_record_runs run, sound.lookup_of_le (Nat.le_succ _),
    sound.lookup_of_le (Nat.le_refl _)]

theorem mem_of_writtenLast {metadata : LogicalRecordMetadata}
    (last : writtenLast id effects = some metadata) : .write id metadata ∈ effects := by
  induction effects with
  | nil => cases last
  | cons effect rest ih =>
    rw [writtenLast, Option.or_eq_some_iff] at last
    rcases last with later | ⟨_, first⟩
    · exact List.mem_cons_of_mem _ (ih later)
    · cases effect with
      | write written found =>
        rw [Effect.writes] at first
        split at first
        · rename_i same
          cases first
          exact same ▸ List.mem_cons_self
        · cases first
      | delete target => cases first

variable {early late done : List Effect}

theorem writtenLast_append (unwritten : writtenLast id (early ++ late) = none) :
    writtenLast id early = none := by
  induction early with
  | nil => rfl
  | cons effect rest ih =>
    rw [List.cons_append, writtenLast, Option.or_eq_none_iff] at unwritten
    rw [writtenLast, ih unwritten.1, unwritten.2, Option.none_or]

def State.DeletedBy (base : State) (effects : List Effect) (id : LogicalId) : Prop :=
  ∃ target, .delete target ∈ effects ∧ base.DeletedWith target id

theorem Drafting.live_base (drafting : Drafting base draft)
    (live : draft.state.deleted id = false) : base.deleted id = false := by
  by_contra deleted
  rw [Bool.not_eq_false, State.deleted, ← ExtTreeMap.isSome_getElem?_eq_contains] at deleted
  obtain ⟨tombstone, found⟩ := Option.isSome_iff_exists.mp deleted
  have kept := drafting.kept id tombstone found
  rw [State.deleted, ← ExtTreeMap.isSome_getElem?_eq_contains, kept] at live
  cases live

/-- A draft never changes what a record depends on, it only deletes records. -/
theorem Drafting.dependsOn_iff {dependency : LogicalId} (drafting : Drafting base draft) :
    draft.state.DependsOn id dependency ↔ draft.state.deleted id = false ∧
      base.DependsOn id dependency := by
  have past := drafting.past id base.head (Nat.le_refl _)
  rw [State.DependsOn, State.DependsOn, drafting.head]
  constructor
  · rintro ⟨live, current, found, named⟩
    rw [found, Option.map_some] at past
    obtain ⟨original, stored, same⟩ := Option.map_eq_some_iff.mp past.symm
    rw [← StoredRevision.settled_record same] at named
    exact ⟨live, drafting.live_base live, original, stored, named⟩
  · rintro ⟨live, _, original, stored, named⟩
    rw [stored, Option.map_some] at past
    obtain ⟨current, found, same⟩ := Option.map_eq_some_iff.mp past
    rw [← StoredRevision.settled_record same] at named
    exact ⟨live, current, found, named⟩

variable {target : LogicalId}

theorem Drafting.deletedWith_base (drafting : Drafting base draft)
    (chain : draft.state.DeletedWith target id) : base.DeletedWith target id :=
  Relation.ReflTransGen.mono (fun _ _ step => (drafting.dependsOn_iff.mp step).2) _ _ chain

/-- A chain of the base is followed by the draft up to the first id that an earlier
deletion has taken, and that deletion has then taken the rest. -/
theorem Drafting.deletedWith_or (drafting : Drafting base draft)
    (deleted : ∀ id, draft.state.deleted id = true ↔ base.deleted id = true ∨
      base.DeletedBy done id)
    (chain : base.DeletedWith target id) : draft.state.DeletedWith target id ∨
      base.DeletedBy done id := by
  induction chain with
  | refl => exact .inl .refl
  | @tail middle last _ step ih =>
    rcases ih with reached | ⟨earlier, listed, taken⟩
    · cases live : draft.state.deleted last with
      | false => exact .inl (reached.tail (drafting.dependsOn_iff.mpr ⟨live, step⟩))
      | true =>
        rcases (deleted last).mp live with before | taken
        · rw [step.1] at before
          cases before
        · exact .inr taken
    · exact .inr ⟨earlier, listed, taken.tail step⟩

private theorem deletedBy_append : base.DeletedBy (early ++ late) id ↔ base.DeletedBy early id ∨
    base.DeletedBy late id := by
  simp only [State.DeletedBy, List.mem_append, or_and_right, exists_or]

/-- One more effect adds what it deletes in the base: a cascade in the draft stops only at
records that are deleted already. -/
theorem Performs.deleted_iff (drafting : Drafting base draft)
    (deleted : ∀ id, draft.state.deleted id = true ↔ base.deleted id = true ∨
      base.DeletedBy done id)
    (performed : Performs (base.head + 1) draft effect next) (id : LogicalId) :
    next.state.deleted id = true ↔ base.deleted id = true ∨
      base.DeletedBy (done ++ [effect]) id := by
  rw [deletedBy_append]
  cases performed with
  | @write record revision value facts =>
    have none : ¬ base.DeletedBy [.write record.id record.metadata] id := by
      rintro ⟨target, listed, _⟩
      simp at listed
    rw [or_iff_left none]
    exact deleted id
  | @delete target requestedBy reason live known =>
    rw [Draft.deleted_erase, deleted id]
    have only : base.DeletedBy [.delete target] id ↔ base.DeletedWith target id := by
      simp [State.DeletedBy]
    rw [only]
    constructor
    · rintro (chain | before | taken)
      · exact .inr (.inr (drafting.deletedWith_base chain))
      · exact .inl before
      · exact .inr (.inl taken)
    · rintro (before | taken | chain)
      · exact .inr (.inl before)
      · exact .inr (.inr taken)
      · rcases drafting.deletedWith_or deleted chain with reached | taken
        · exact .inl reached
        · exact .inr (.inr taken)

/-- A transaction deletes what its deletions take with them at the base, whatever it
writes in between. -/
theorem deleted_runs (sound : SoundHistories base.head base)
    (run : Runs (Performs (base.head + 1)) { state := base, affectedIds := ∅ } effects draft)
    (id : LogicalId) :
    draft.state.deleted id = true ↔ base.deleted id = true ∨ base.DeletedBy effects id := by
  have fold : ∀ (effects done : List Effect) (draft next : Draft), Drafting base draft →
      (∀ id, draft.state.deleted id = true ↔ base.deleted id = true ∨ base.DeletedBy done id) →
      Runs (Performs (base.head + 1)) draft effects next → ∀ id, next.state.deleted id = true ↔
        base.deleted id = true ∨ base.DeletedBy (done ++ effects) id := by
    intro effects
    induction effects with
    | nil =>
      intro done draft next _ deleted run id
      cases run
      rw [List.append_nil]
      exact deleted id
    | cons effect rest ih =>
      intro done draft next drafting deleted run id
      cases run with
      | cons head tail =>
        rw [List.append_cons]
        exact ih _ _ _ (head.drafting drafting) (head.deleted_iff drafting deleted) tail id
  refine fold effects [] _ draft (Drafting.start sound) ?_ run id
  intro id
  simp [State.DeletedBy]

structure Outcome (base : State) (effects : List Effect) (draft : Draft) : Prop where
  sound : SoundHistories base.head base
  run : Runs (Performs (base.head + 1)) { state := base, affectedIds := ∅ } effects draft
  complete : validateCompleteState draft.state (base.head + 1) = .ok ()

namespace Outcome

section

variable (outcome : Outcome base effects draft)
include outcome

/-- A record of the draft is live exactly when the base has it live and no effect deletes it. -/
theorem live_iff : draft.state.deleted id = false ↔ base.deleted id = false ∧
    ¬ base.DeletedBy effects id := by
  have deleted := deleted_runs outcome.sound outcome.run id
  rw [← Bool.not_eq_true, deleted, not_or, Bool.not_eq_true]

/-- A record of the draft is either the last one written under its id or the base's own. -/
theorem record_cases (found : draft.state.lookup id (base.head + 1) = some revision) :
    writtenLast id effects = some revision.record ∨ (writtenLast id effects = none ∧
        ∃ current, base.lookup id base.head = some current ∧ current.record = revision.record) := by
  have same := record_runs outcome.sound outcome.run id
  rw [found, Option.map_some] at same
  rcases Option.or_eq_some_iff.mp same.symm with last | ⟨unwritten, before⟩
  · exact .inl last
  · exact .inr ⟨unwritten, Option.map_eq_some_iff.mp before⟩

variable {metadata : LogicalRecordMetadata}

theorem lookup_of_written (last : writtenLast id effects = some metadata) :
    ∃ revision, draft.state.lookup id (base.head + 1) = some revision ∧
      revision.record = metadata := by
  have same := record_runs outcome.sound outcome.run id
  rw [last, Option.some_or] at same
  exact Option.map_eq_some_iff.mp same

/-- Cuts a run at a listed write, so that the write's own checks can be read in the draft it met. -/
theorem written (listed : .write id metadata ∈ effects) :
    ∃ early late before record revision, effects = early ++ .write id metadata :: late ∧
      Runs (Performs (base.head + 1)) { state := base, affectedIds := ∅ } early before ∧
      Drafting base before ∧ record.id = id ∧ record.metadata = metadata ∧
        WriteFacts (base.head + 1) before record revision := by
  obtain ⟨early, late, before, after, split, earlyRun, performed, _⟩ := outcome.run.split listed
  have drafting := (Drafting.start outcome.sound).runs earlyRun
  cases performed with
  | write value facts =>
    exact ⟨early, late, before, _, _, split, earlyRun, drafting, rfl, rfl, facts⟩

theorem kind_kept {current : StoredRevision} (last : writtenLast id effects = some metadata)
    (stored : base.lookup id base.head = some current) : metadata.kind = current.record.kind := by
  obtain ⟨_, _, before, record, revision, _, _, drafting, rfl, rfl, facts⟩ :=
    outcome.written (mem_of_writtenLast last)
  have past := drafting.past record.id base.head (Nat.le_refl _)
  rw [stored, Option.map_some] at past
  obtain ⟨seen, found, same⟩ := Option.map_eq_some_iff.mp past
  rw [← drafting.head] at found
  rw [← StoredRevision.settled_record same]
  exact (facts.sameKind seen found).symm

theorem live_of_written (last : writtenLast id effects = some metadata) :
    base.deleted id = false := by
  obtain ⟨_, _, before, record, revision, _, _, drafting, rfl, rfl, facts⟩ :=
    outcome.written (mem_of_writtenLast last)
  exact drafting.live_base facts.live

end

end Outcome

end ContextDb.Reference
