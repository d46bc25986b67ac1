import ContextDb.Graph.JournalReplay

/-! Verification of a journal, and what it says about the retry table. A row is held as the frame its
bytes decode to, under what its key is made of: a key of another shape ends its scan with an error. -/

set_option autoImplicit false

namespace ContextDb.Journal

open Std Lib ContextDb.Core List
open ContextDb.Graph (Digest Bytes DerivedWorkItem JournalEvent PublicationReceipt)

/-! ### Frames -/

inductive JournalError
  | missingObservation (id : ObservationId)
  | corruption (reason : String)
  | undecodable (reason : String)

abbrev Result := Except JournalError

inductive RecordKind
  | observation | semanticMutation | semanticPublication | policyMutation | outbox | snapshot
  | deletionProof | maintenanceMutation | maintenancePublication

def RecordKind.code (kind : RecordKind) : Nat := kind.ctorIdx + 1

/-- Bytes without a payload of the expected type have none. -/
structure Frame (Payload : Type) where
  (recordKind schemaVersion flags commitSeq : Nat)
  payload : Option Payload

/-- An observation or a mutation as it was accepted. -/
structure ExactFramePayload (Id : Type) where
  id : Id
  digest : Digest
  exactBytes : Bytes

structure PublicationFramePayload where
  mutationId : MutationId
  publicationId : PublicationId
  mutationDigest : Digest
  outboxCount : Nat

inductive EventPayload
  | observation (payload : ExactFramePayload ObservationId)
  | publication (payload : PublicationFramePayload)

structure OutboxFramePayload where
  mutationId : MutationId
  index : Nat
  work : DerivedWorkItem

inductive StoredReceipt
  | observation (observationId : ObservationId) (commitSeq : Nat) (requestDigest : Digest)
  | publication (receipt : PublicationReceipt)
  | maintenance (receipt : PublicationReceipt)

def StoredReceipt.commitSeq : StoredReceipt → Nat
  | .observation _ commitSeq _ => commitSeq
  | .publication receipt | .maintenance receipt => receipt.commitSeq

structure IdempotencyPayload where
  (keyDigest requestDigest : Digest)
  receipt : StoredReceipt

structure IdentityIndexPayload where
  commitSeq : Nat
  requestDigest : Digest

structure JournalStore where
  head : Option (Frame Nat) := none
  events : BTreeMap Nat (Frame EventPayload) := ∅
  outbox : BTreeMap Nat (BTreeMap Nat (Frame OutboxFramePayload)) := ∅
  idempotency : BTreeMap Digest (Frame IdempotencyPayload) := ∅
  observations : BTreeMap ObservationId (Frame IdentityIndexPayload) := ∅
  mutations : BTreeMap MutationId (Frame (ExactFramePayload MutationId)) := ∅

/-- A decoded mutation. Maintenance refers to no observation. -/
structure ValidatedBytes where
  mutationId : MutationId
  digest : Digest
  baseCommitSeq : Nat
  journalRefs : List ObservationId
  derivedWork : List DerivedWorkItem

/-- The `from_json` decoders, with the error text of a rejected payload. -/
structure Validation where
  observation : Bytes → Except String (ObservationId × Digest)
  (mutation maintenance : Bytes → Except String ValidatedBytes)

def check (valid : Bool) (reason : String) : Result Unit := ensure valid (.corruption reason)

def unparsed : JournalError := .undecodable "payload is not of its type"

def decoded {Value : Type} (outcome : Except String Value) : Result Value :=
  outcome.mapError .undecodable

section

variable {Payload : Type} (kind : RecordKind) (frame : Frame Payload)

def decodeAny : Result (Nat × Payload) := do
  check (frame.recordKind == kind.code && frame.schemaVersion == 1 && frame.flags == 0)
    "record envelope kind, schema, or flags are invalid"
  let payload ← frame.payload.elim (.error unparsed) .ok
  .ok (frame.commitSeq, payload)

def decode (sequence : Nat) : Result Payload := do
  let (found, payload) ← decodeAny kind frame
  check (found == sequence) s!"frame sequence {found} differs from expected {sequence}"
  .ok payload

end

/-! ### Materialized events -/

/-- How the errors of a publication name its parts. -/
structure PublicationTexts where
  (subject publication base frame : String)

def semanticTexts : PublicationTexts := ⟨"publication", "publication", "semantic",
    "exact mutation frame"⟩

def maintenanceTexts : PublicationTexts :=
  ⟨"maintenance", "maintenance publication", "maintenance", "exact frame"⟩

variable (validation : Validation) (store : JournalStore)

def logicalHead : Result Nat :=
  match store.head with
  | none => .ok 0
  | some frame => do
      let (sequence, commitSeq) ← decodeAny .snapshot frame
      check (commitSeq == sequence) "head payload and envelope sequence differ"
      .ok sequence

def observationIndex (id : ObservationId) (head : Nat) : Result (Nat × IdentityIndexPayload) :=
  match store.observations[id]? with
  | none => .error (.missingObservation id)
  | some frame => do
      let (sequence, index) ← decodeAny .snapshot frame
      check (sequence == index.commitSeq &&
        sequence ≤ head) "observation index points outside the published prefix"
      .ok (sequence, index)

def materializePublication (texts : PublicationTexts) (kind : RecordKind)
    (validate : Bytes → Except String ValidatedBytes)
    (published : MutationId → PublicationId → Bytes → Digest → List DerivedWorkItem → JournalEvent)
    (sequence : Nat) (publication : PublicationFramePayload) : Result JournalEvent := do
  let frame ← store.mutations[publication.mutationId]?.elim
    (.error (.corruption s!"{texts.publication} at sequence {sequence} has no {texts.frame}")) .ok
  let mutation ← decode kind frame sequence
  let validated ← decoded (validate mutation.exactBytes)
  check (mutation.id == publication.mutationId && mutation.digest == publication.mutationDigest &&
      validated.mutationId == publication.mutationId &&
        validated.digest == publication.mutationDigest)
    s!"{texts.subject} mutation bytes or digest mismatch at sequence {sequence}"
  check (validated.baseCommitSeq + 1 == sequence) s!"{texts.base} publication base mismatch at sequence {sequence}"
  validated.journalRefs.forM fun id => do
    let _ ← observationIndex store id validated.baseCommitSeq
  let entries := (store.outbox[sequence]?.getD ∅).toList
  check (entries.length == publication.outboxCount) s!"{texts.publication} outbox is incomplete at sequence {sequence}"
  let outbox ← entries.zipIdx.mapM fun ((key, frame), expected) => do
    let payload ← decode .outbox frame sequence
    check (payload.mutationId == publication.mutationId && payload.index == expected &&
      key == payload.index)
      s!"{texts.subject} outbox ordering mismatch at sequence {sequence}"
    .ok payload.work
  check (outbox == validated.derivedWork) s!"{texts.subject} outbox content mismatch at sequence {sequence}"
  .ok (published publication.mutationId publication.publicationId mutation.exactBytes publication.mutationDigest outbox)

def materializeEvent (sequence : Nat) (frame : Frame EventPayload) : Result JournalEvent := do
  check (frame.schemaVersion == 1 && frame.flags == 0 && frame.commitSeq == sequence)
    s!"event envelope metadata is invalid at sequence {sequence}"
  match frame.recordKind, frame.payload with
  | 1, some (.observation payload) => do
      let (id, digest) ← decoded (validation.observation payload.exactBytes)
      check (id == payload.id && digest == payload.digest)
        s!"observation exact bytes or digest mismatch at sequence {sequence}"
      let (indexed, index) ← observationIndex store payload.id sequence
      check (indexed == sequence && index.requestDigest == payload.digest)
        s!"observation index mismatch at sequence {sequence}"
      .ok (.observationAccepted sequence payload.id payload.exactBytes payload.digest)
  | 3, some (.publication publication) =>
      materializePublication store semanticTexts .semanticMutation validation.mutation
        (.semanticPublished sequence) sequence publication
  | 9, some (.publication publication) =>
      materializePublication store maintenanceTexts .maintenanceMutation validation.maintenance
        (.maintenancePublished sequence) sequence publication
  | 1, _ | 3, _ | 9, _ => .error unparsed
  | kind, _ => .error (.corruption s!"unsupported logical event kind {kind} at sequence {sequence}")

/-- The latest snapshot. Events beyond the head are passed over. -/
def snapshot : Result (Nat × List JournalEvent) := do
  let head ← logicalHead store
  let entries := store.events.toList.filter (·.1 ≤ head)
  let events ← (entries.zipIdx 1).mapM fun ((sequence, frame), expected) => do
    check (sequence == expected) s!"logical journal is not contiguous: expected {expected}, found {sequence}"
    materializeEvent validation store sequence frame
  check (events.length == head) s!"logical head {head} names {head} events but {events.length} were materialized"
  .ok (head, events)

/-! ### Verification -/

def outboxLength : JournalEvent → Nat
  | .observationAccepted .. => 0
  | .semanticPublished _ _ _ _ _ outbox | .maintenancePublished _ _ _ _ _ outbox => outbox.length

structure JournalVerifyReport where
  (commitSeq events outboxRecords idempotencyRecords : Nat)

/-- The journal's part of verification, after that of the storage engine. -/
def verify : Result JournalVerifyReport := do
  let (head, events) ← snapshot validation store
  store.idempotency.toList.forM fun (key, frame) => do
    let (sequence, record) ← decodeAny .snapshot frame
    check (sequence ≤ head) "idempotency record exists beyond logical head"
    check (record.keyDigest == key) "idempotency record key digest mismatch"
  let outbox := store.outbox.toList.flatMap fun (sequence, rows) => rows.inOrder.map (sequence, ·)
  outbox.forM fun (sequence, frame) => do
    let _ ← decode .outbox frame sequence
  check ((events.map outboxLength).sum == outbox.length) "materialized outbox count does not match durable frames"
  check (events.length == store.idempotency.size) "logical event and idempotency receipt counts differ"
  .ok ⟨head, events.length, outbox.length, store.idempotency.size⟩

variable {validation store} {report : JournalVerifyReport}

/-- There are as many retry records as events. Each stands under its own key digest, in a frame at
or before the head. -/
theorem verified_counts (verified : verify validation store = .ok report) :
    ∃ events, snapshot validation store = .ok (report.commitSeq, events) ∧
      events.length = report.commitSeq ∧
      store.idempotency.size = events.length ∧
        ∀ key frame, store.idempotency[key]? = some frame → ∃ record : IdempotencyPayload,
          decodeAny .snapshot frame = .ok (frame.commitSeq, record) ∧
            frame.commitSeq ≤ report.commitSeq ∧ record.keyDigest = key := by
  obtain ⟨⟨head, events⟩, taken, verified⟩ := bind_ok verified
  obtain ⟨retries, verified⟩ := unit_ok verified
  obtain ⟨counted, finished⟩ := unit_ok (rest_ok (rest_ok verified))
  cases finished
  have length : events.length = head := by
    obtain ⟨_, _, rest⟩ := bind_ok taken
    obtain ⟨_, _, rest⟩ := bind_ok rest
    obtain ⟨length, rest⟩ := unit_ok rest
    cases rest
    exact beq_iff_eq.mp (ensure_ok_iff.mp length)
  refine ⟨events, taken, length, (beq_iff_eq.mp (ensure_ok_iff.mp counted)).symm,
    fun key frame stored => ?_⟩
  have passed := forM_ok_iff.mp retries (key, frame)
    (ExtTreeMap.mem_toList_iff_getElem?_eq_some.mpr stored)
  obtain ⟨⟨sequence, record⟩, read, passed⟩ := bind_ok passed
  obtain ⟨within, named⟩ := unit_ok passed
  obtain ⟨_, _, found⟩ := bind_ok (rest_ok read)
  cases found
  exact ⟨record, read, of_decide_eq_true (ensure_ok_iff.mp within),
    beq_iff_eq.mp (ensure_ok_iff.mp named)⟩

/-! ### Retry records and events -/

/-- What a retry is answered for: the kind of the operation, its number, identity and digest. -/
inductive Operation
  | observation (commitSeq : Nat) (id : ObservationId) (digest : Digest)
  | publication (commitSeq : Nat) (mutation : MutationId) (publication : PublicationId)
    (digest : Digest)
  | maintenance (commitSeq : Nat) (mutation : MutationId) (publication : PublicationId)
    (digest : Digest)

namespace Operation

def commitSeq : Operation → Nat
  | .observation commitSeq _ _ => commitSeq
  | .publication commitSeq _ _ _ | .maintenance commitSeq _ _ _ => commitSeq

def digest : Operation → Digest
  | .observation _ _ digest => digest
  | .publication _ _ _ digest | .maintenance _ _ _ digest => digest

def ofReceipt : StoredReceipt → Operation
  | .observation id commitSeq digest => .observation commitSeq id digest
  | .publication receipt =>
    .publication receipt.commitSeq receipt.mutationId receipt.publicationId receipt.mutationDigest
  | .maintenance receipt =>
    .maintenance receipt.commitSeq receipt.mutationId receipt.publicationId receipt.mutationDigest

def ofEvent : JournalEvent → Operation
  | .observationAccepted commitSeq id _ digest => .observation commitSeq id digest
  | .semanticPublished commitSeq mutationId publicationId _ digest _ =>
    .publication commitSeq mutationId publicationId digest
  | .maintenancePublished commitSeq mutationId publicationId _ digest _ =>
    .maintenance commitSeq mutationId publicationId digest

/-- The operation a stored event row says it is. -/
def ofRow (sequence : Nat) (frame : Frame EventPayload) : Option Operation :=
  match frame.recordKind, frame.payload with
  | 1, some (.observation payload) => some (.observation sequence payload.id payload.digest)
  | 3, some (.publication payload) =>
    some (.publication sequence payload.mutationId payload.publicationId payload.mutationDigest)
  | 9, some (.publication payload) =>
    some (.maintenance sequence payload.mutationId payload.publicationId payload.mutationDigest)
  | _, _ => none

end Operation

def JournalStore.Retry (store : JournalStore) (key : Digest) (record : IdempotencyPayload) : Prop :=
  ∃ frame, store.idempotency[key]? = some frame ∧ frame.payload = some record

def IdempotencyPayload.Answers (record : IdempotencyPayload) (operation : Operation) : Prop :=
  Operation.ofReceipt record.receipt = operation ∧ record.requestDigest = operation.digest

/-- The retry records are in one-to-one correspondence with the events. -/
structure Corresponds (store : JournalStore) (events : List JournalEvent) : Prop where
  named : ∀ key record, store.Retry key record → ∃ event ∈ events, record.Answers (.ofEvent event)
  single : ∀ key other record second, store.Retry key record → store.Retry other second →
    ∀ event ∈ events, record.Answers (.ofEvent event) → second.Answers (.ofEvent event) →
      key = other
  answered : ∀ event ∈ events, ∃ key record, store.Retry key record ∧
    record.Answers (.ofEvent event)

/-- Every event row up to the stored head has a retry record whose receipt is for its operation. -/
def RowsAnswered (store : JournalStore) : Prop :=
  ∀ head, logicalHead store = .ok head → ∀ sequence frame operation, store.events[sequence]? =
    some frame →
    sequence ≤ head → Operation.ofRow sequence frame = some operation →
      ∃ key record, store.Retry key record ∧ record.Answers operation

theorem ofEvent_commitSeq (event : JournalEvent) : (Operation.ofEvent event).commitSeq =
    event.commitSeq := by
  cases event <;> rfl

section

variable {texts : PublicationTexts} {kind : RecordKind} {validate : Bytes →
    Except String ValidatedBytes}
  {published : MutationId → PublicationId → Bytes → Digest → List DerivedWorkItem → JournalEvent}
  {sequence : Nat} {publication : PublicationFramePayload} {event : JournalEvent}
    {frame : Frame EventPayload}

theorem materializePublication_event
    (success : materializePublication store texts kind validate published sequence publication =
      .ok event) :
    ∃ bytes outbox, event = published publication.mutationId publication.publicationId bytes
      publication.mutationDigest outbox := by
  obtain ⟨_, _, success⟩ := bind_ok success
  obtain ⟨mutation, _, success⟩ := bind_ok success
  obtain ⟨_, _, success⟩ := bind_ok success
  obtain ⟨outbox, _, success⟩ := bind_ok (rest_ok (rest_ok (rest_ok (rest_ok success))))
  cases rest_ok success
  exact ⟨mutation.exactBytes, outbox, rfl⟩

/-- A materialized event is the operation its row says. -/
theorem materializeEvent_operation (success : materializeEvent validation store sequence frame =
    .ok event) :
    Operation.ofRow sequence frame = some (.ofEvent event) := by
  have success := rest_ok success
  unfold Operation.ofRow
  split at success
  case h_1 kind payload =>
    obtain ⟨_, _, success⟩ := bind_ok success
    obtain ⟨_, _, success⟩ := bind_ok (rest_ok success)
    cases rest_ok success
    simp [kind, payload, Operation.ofEvent]
  case h_2 kind payload =>
    obtain ⟨_, _, rfl⟩ := materializePublication_event success
    simp [kind, payload, Operation.ofEvent]
  case h_3 kind payload =>
    obtain ⟨_, _, rfl⟩ := materializePublication_event success
    simp [kind, payload, Operation.ofEvent]
  all_goals cases success

end

section

variable {head : Nat} {events : List JournalEvent}

theorem ofRow_commitSeq {sequence : Nat} {frame : Frame EventPayload} {operation : Operation}
    (read : Operation.ofRow sequence frame = some operation) : operation.commitSeq = sequence := by
  unfold Operation.ofRow at read
  split at read <;> cases read <;> rfl

/-- An entry that passes the contiguity check has the expected number. -/
theorem contiguous_event {entry : (Nat × Frame EventPayload) × Nat} {event : JournalEvent}
    (success : (do
      check (entry.1.1 == entry.2) s!"logical journal is not contiguous: expected {entry.2}, found {entry.1.1}"
      materializeEvent validation store entry.1.1 entry.1.2) = .ok event) :
    entry.1.1 = entry.2 ∧ event.commitSeq = entry.1.1 ∧
      Operation.ofRow entry.1.1 entry.1.2 = some (.ofEvent event) := by
  obtain ⟨expected, success⟩ := unit_ok success
  have operation := materializeEvent_operation success
  refine ⟨beq_iff_eq.mp (ensure_ok_iff.mp expected), ?_, operation⟩
  rw [← ofEvent_commitSeq]
  exact ofRow_commitSeq operation

theorem contiguous_numbers {entries : List (Nat × Frame EventPayload)} {start : Nat}
    (rows : Forall₂ (fun entry event => (do
      check (entry.1.1 == entry.2) s!"logical journal is not contiguous: expected {entry.2}, found {entry.1.1}"
      materializeEvent validation store entry.1.1 entry.1.2) = .ok event)
        (entries.zipIdx start) events) :
    events.map (·.commitSeq) = range' start events.length := by
  induction entries generalizing start events with
  | nil =>
    cases rows
    rfl
  | cons entry rest ih =>
    cases rows with
    | cons first later =>
      obtain ⟨expected, numbered, _⟩ := contiguous_event first
      rw [map_cons, length_cons, range'_succ, ih later, numbered, expected]

/-- The events of a snapshot are numbered from one, and each is the operation of its row. -/
structure ReadFrom (store : JournalStore) (head : Nat) (events : List JournalEvent) : Prop where
  located : logicalHead store = .ok head
  numbers : events.map (·.commitSeq) = range' 1 head
  row : ∀ event ∈ events, ∃ frame, store.events[event.commitSeq]? = some frame ∧
    Operation.ofRow event.commitSeq frame = some (.ofEvent event)
  event : ∀ sequence frame, store.events[sequence]? = some frame → sequence ≤ head →
    ∃ event ∈ events, Operation.ofRow sequence frame = some (.ofEvent event)

theorem snapshot_events (taken : snapshot validation store = .ok (head, events)) :
    ReadFrom store head events := by
  obtain ⟨_, named, rest⟩ := bind_ok taken
  obtain ⟨_, passed, rest⟩ := bind_ok rest
  obtain ⟨length, rest⟩ := unit_ok rest
  cases rest
  have length : events.length = head := beq_iff_eq.mp (ensure_ok_iff.mp length)
  refine ⟨named, ?_, fun event member => ?_, fun sequence frame stored within => ?_⟩
  · rw [← length]
    exact contiguous_numbers (mapM_ok_iff_forall₂.mp passed)
  · obtain ⟨entry, listed, read⟩ := exists_item_of_mapM_ok passed member
    obtain ⟨_, numbered, operation⟩ := contiguous_event read
    have stored := (mem_filter.mp (fst_mem_of_mem_zipIdx listed)).1
    rw [numbered]
    exact ⟨entry.1.2, ExtTreeMap.mem_toList_iff_getElem?_eq_some.mp stored, operation⟩
  · have listed : (sequence, frame) ∈ store.events.toList.filter (·.1 ≤ head) :=
      mem_filter.mpr ⟨ExtTreeMap.mem_toList_iff_getElem?_eq_some.mpr stored, by simpa using within⟩
    rw [← zipIdx_map_fst 1 (store.events.toList.filter (·.1 ≤ head))] at listed
    obtain ⟨entry, placed, same⟩ := mem_map.mp listed
    obtain ⟨event, member, read⟩ := exists_value_of_mapM_ok passed placed
    obtain ⟨_, _, operation⟩ := contiguous_event read
    rw [same] at operation
    exact ⟨event, member, operation⟩

/-- The number a retry record answers for. -/
def retryNumber (entry : Digest × Frame IdempotencyPayload) : Nat :=
  entry.2.payload.elim 0 fun record => (Operation.ofReceipt record.receipt).commitSeq

theorem retryNumber_of_answers (key : Digest) {frame : Frame IdempotencyPayload}
    {record : IdempotencyPayload}
    {event : JournalEvent} (held : frame.payload = some record)
    (answers : record.Answers (.ofEvent event)) :
    retryNumber (key, frame) = event.commitSeq := by
  simp only [retryNumber, held, Option.elim_some, answers.1, ofEvent_commitSeq]

/-- With as many records as events, records that answer every event are numbered like them. -/
theorem retry_numbers_perm (read : ReadFrom store head events)
    (size : store.idempotency.size = head)
    (answered : ∀ event ∈ events, ∃ key record, store.Retry key record ∧
      record.Answers (.ofEvent event)) :
    (range' 1 head).Perm (store.idempotency.toList.map retryNumber) := by
  have covered : range' 1 head ⊆ store.idempotency.toList.map retryNumber := by
    intro sequence listed
    rw [← read.numbers] at listed
    obtain ⟨event, member, rfl⟩ := mem_map.mp listed
    obtain ⟨key, record, ⟨frame, stored, held⟩, answers⟩ := answered event member
    exact mem_map.mpr ⟨(key, frame), ExtTreeMap.mem_toList_iff_getElem?_eq_some.mpr stored,
      retryNumber_of_answers key held answers⟩
  refine (subperm_of_subset nodup_range' covered).perm_of_length_le ?_
  rw [length_map, ExtTreeMap.length_toList, size, length_range']

theorem corresponds_of_answered (read : ReadFrom store head events)
    (size : store.idempotency.size = head)
    (answered : ∀ event ∈ events, ∃ key record, store.Retry key record ∧
      record.Answers (.ofEvent event)) :
    Corresponds store events := by
  have numbers := retry_numbers_perm read size answered
  have distinct := inj_on_of_nodup_map (numbers.nodup_iff.mp nodup_range')
  have same : ∀ {key other frame second}, store.idempotency[key]? = some frame →
      store.idempotency[other]? = some second → retryNumber (key, frame) = retryNumber
        (other, second) →
        (key, frame) = (other, second) := fun stored other equal =>
    distinct (ExtTreeMap.mem_toList_iff_getElem?_eq_some.mpr stored)
      (ExtTreeMap.mem_toList_iff_getElem?_eq_some.mpr other) equal
  refine ⟨?_, ?_, answered⟩
  · rintro key record ⟨frame, stored, held⟩
    have listed : retryNumber (key, frame) ∈ store.idempotency.toList.map retryNumber :=
      mem_map_of_mem (ExtTreeMap.mem_toList_iff_getElem?_eq_some.mpr stored)
    rw [← numbers.mem_iff, ← read.numbers] at listed
    obtain ⟨event, member, number⟩ := mem_map.mp listed
    obtain ⟨other, second, ⟨frame', stored', held'⟩, answers⟩ := answered event member
    cases same stored stored' (number.symm.trans (retryNumber_of_answers other held' answers).symm)
    cases held.symm.trans held'
    exact ⟨event, member, answers⟩
  · rintro key other record second ⟨frame, stored, held⟩
      ⟨frame', stored', held'⟩ event _ answers answers'
    have equal := (retryNumber_of_answers key held answers).trans
      (retryNumber_of_answers other held' answers').symm
    exact congrArg Prod.fst (same stored stored' equal)

end

/-- Verification counts the retry records and never reads their receipts: a verified table
corresponds to the events exactly when every event row is answered by some record. -/
theorem verified_retries_correspond_iff (verified : verify validation store = .ok report) :
    (∃ events, snapshot validation store = .ok (report.commitSeq, events) ∧
      Corresponds store events) ↔
      RowsAnswered store := by
  obtain ⟨events, taken, length, size, _⟩ := verified_counts verified
  have read := snapshot_events taken
  constructor
  · rintro ⟨listed, again, corresponds⟩
    cases again.symm.trans taken
    intro head named sequence frame operation stored within row
    cases named.symm.trans read.located
    obtain ⟨event, member, same⟩ := read.event sequence frame stored within
    cases row.symm.trans same
    exact corresponds.answered event member
  · intro answered
    refine ⟨events, taken, corresponds_of_answered read (size.trans length) fun event member => ?_⟩
    obtain ⟨frame, stored, row⟩ := read.row event member
    have within : event.commitSeq ∈ range' 1 report.commitSeq := by
      rw [← read.numbers]
      exact mem_map_of_mem member
    have within := (mem_range'_1.mp within).2
    exact answered _ read.located _ frame _ stored (by omega) row

def strayJson : String :=
  "\x7b\"id\":\"00000000-0000-0000-0000-000000000001\",\"base_snapshot\":\x7b\"commit_seq\":0\x7d," ++
    "\"operation\":\x7b\"kind\":\"deletion_propagation\",\"job_id\":" ++
    "\"00000000-0000-0000-0000-000000000002\",\"targets\":[\x7b\"kind\":\"observation\",\"id\":" ++
    "\"00000000-0000-0000-0000-000000000003\"\x7d]\x7d,\"derived_work\":[]\x7d"

def strayDigest : Digest := 0x7d1498616ebcf6c420ecaaccaa4e7510e2a2176d615e5528262d0790e317bc9c

def strayValidation : Validation :=
  let rejected := "EOF while parsing a value at line 1 column 0"
  ⟨fun _ => .error rejected, fun _ => .error rejected, fun bytes =>
    if bytes = Graph.textBytes strayJson then .ok ⟨.numbered 1, strayDigest, 0, [],
      []⟩ else .error rejected⟩

def strayRetry : IdempotencyPayload := ⟨0, 0, .observation (.numbered 5) 9 0⟩

/-- One maintenance publication, and a retry record for an observation at commit 9. -/
def strayStore : JournalStore where
  head := some ⟨6, 1, 0, 1, some 1⟩
  events := .insert ∅ 1 ⟨9, 1, 0, 1, some (.publication ⟨.numbered 1, .numbered 4, strayDigest, 0⟩)⟩
  idempotency := .insert ∅ 0 ⟨6, 1, 0, 1, some strayRetry⟩
  mutations := .insert ∅ (.numbered 1) ⟨8, 1, 0, 1, some
    ⟨.numbered 1, strayDigest, Graph.textBytes strayJson⟩⟩

theorem stray_verified : yields (verify strayValidation strayStore) (fun _ => true) = true := by
  decide +kernel

theorem verify_accepts_stray_receipt : ∃ report head events,
    verify strayValidation strayStore = .ok report ∧ snapshot strayValidation strayStore = .ok
      (head, events) ∧
      (∃ frame, strayStore.idempotency[(0 : Digest)]? = some frame ∧
        frame.payload = some strayRetry) ∧
        ∀ event ∈ events, event.commitSeq ≠ strayRetry.receipt.commitSeq := by
  obtain ⟨report, verified, _⟩ := yields_iff.mp stray_verified
  have apart : yields (snapshot strayValidation strayStore) (fun (_, events) =>
      events.all (·.commitSeq != strayRetry.receipt.commitSeq)) = true := by
    decide +kernel
  obtain ⟨⟨head, events⟩, taken, apart⟩ := yields_iff.mp apart
  refine ⟨report, head, events, verified, taken, ⟨⟨6, 1, 0, 1, some strayRetry⟩, rfl, rfl⟩, ?_⟩
  simpa using apart

/-- The same journal with the record that the coordinator writes for its publication. -/
def answeredStore : JournalStore :=
  { strayStore with
    idempotency := .insert ∅ 0
      ⟨6, 1, 0, 1, some ⟨0, strayDigest, .maintenance ⟨.numbered 1, .numbered 4, 1, 0,
        strayDigest⟩⟩⟩ }

theorem answered_rows : RowsAnswered answeredStore := by
  intro head _ sequence frame operation stored _ row
  by_cases first : 1 = sequence
  · subst first
    have published : answeredStore.events[1]? =
        some ⟨9, 1, 0, 1, some (.publication ⟨.numbered 1, .numbered 4, strayDigest, 0⟩)⟩ := rfl
    cases published.symm.trans stored
    cases row
    exact ⟨0, _, ⟨_, rfl, rfl⟩, rfl, rfl⟩
  · have absent : answeredStore.events[sequence]? = none := by
      simp [answeredStore, strayStore, BTreeMap.getElem?_insert_of_ne first]
    rw [absent] at stored
    cases stored

theorem answered_retries_correspond : ∃ report events, verify strayValidation answeredStore =
    .ok report ∧
    snapshot strayValidation answeredStore = .ok (report.commitSeq, events) ∧
      Corresponds answeredStore events := by
  have accepted : yields (verify strayValidation answeredStore) (fun _ => true) = true := by
    decide +kernel
  obtain ⟨report, verified, _⟩ := yields_iff.mp accepted
  obtain ⟨events, taken, corresponds⟩ := (verified_retries_correspond_iff verified).mpr answered_rows
  exact ⟨report, events, verified, taken, corresponds⟩

end ContextDb.Journal
