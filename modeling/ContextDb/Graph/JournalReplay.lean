import ContextDb.Graph.CommitSteps

/-! Projection of the logical journal. Decoding and validating the exact mutation bytes
belongs to the journal and enters as a parameter. -/

set_option autoImplicit false

namespace ContextDb.Graph

open Lib Std ContextDb.Core List

/-- Kinds of journal maintenance; their payloads are never projected. -/
inductive MaintenanceOperation
  | policyRevision | hierarchyPublication | summaryRevision | mergeSplitDecision
  | deletionPropagation | compactionMetadata | indexGenerationSwitch
deriving DecidableEq

def maintenanceKind : MaintenanceOperation → String
  | .policyRevision => "policy_revision"
  | .hierarchyPublication => "hierarchy_publication"
  | .summaryRevision => "summary_revision"
  | .mergeSplitDecision => "merge_split_decision"
  | .deletionPropagation => "deletion_propagation"
  | .compactionMetadata => "compaction_metadata"
  | .indexGenerationSwitch => "index_generation_switch"

structure ValidatedMaintenance where
  mutationId : MutationId
  operation : MaintenanceOperation
  derivedWork : List DerivedWorkItem
  digest : Digest

/-- The journal's `from_json` decoders, with the error text of a rejected payload. -/
structure JournalDecoder where
  mutation : Bytes → Except String ValidatedMutation
  maintenance : Bytes → Except String ValidatedMaintenance

inductive JournalEvent
  | observationAccepted (commitSeq : Nat) (observationId : ObservationId) (exactBytes : Bytes)
    (requestDigest : Digest)
  | semanticPublished (commitSeq : Nat) (mutationId : MutationId) (publicationId : PublicationId)
      (exactMutationBytes : Bytes) (mutationDigest : Digest) (outbox : List DerivedWorkItem)
  | maintenancePublished (commitSeq : Nat) (mutationId : MutationId)
      (publicationId : PublicationId) (exactMutationBytes : Bytes) (mutationDigest : Digest)
      (outbox : List DerivedWorkItem)

def JournalEvent.commitSeq : JournalEvent → Nat
  | .observationAccepted commitSeq _ _ _ => commitSeq
  | .semanticPublished commitSeq _ _ _ _ _ => commitSeq
  | .maintenancePublished commitSeq _ _ _ _ _ => commitSeq

/-- A journal: the coordinator numbers its events in the order it accepts them. -/
structure Journal where
  events : List JournalEvent
  numbered : events.Pairwise fun earlier later => earlier.commitSeq < later.commitSeq

def decoded {Value : Type} (outcome : Except String Value) : Result Value :=
  outcome.mapError .corrupt

variable (engine : Engine) (decoder : JournalDecoder) (store : Store)

def projectJournalEvent : JournalEvent → Result (Option GraphProjectionReceipt × Store)
  | .observationAccepted _ _ _ _ => .ok (none, store)
  | .semanticPublished commitSeq mutationId publicationId exactMutationBytes mutationDigest
      outbox => do
        let validated ← decoded (decoder.mutation exactMutationBytes)
        ensure (validated.mutation.derivedWork = outbox)
          (.corrupt "semantic event outbox disagrees with exact mutation bytes")
        ensure (outbox.length < 0x100000000) (.corrupt "semantic outbox exceeds u32")
        let (receipt, projected) ← projectPublication engine store validated
          ⟨mutationId, publicationId, commitSeq, outbox.length, mutationDigest⟩
        pure (some receipt, projected)
  | .maintenancePublished _ mutationId _ exactMutationBytes mutationDigest outbox => do
        let validated ← decoded (decoder.maintenance exactMutationBytes)
        ensure (validated.mutationId = mutationId && validated.digest = mutationDigest &&
            validated.derivedWork = outbox)
          (.corrupt "maintenance event disagrees with exact mutation bytes")
        .error (.unsupportedMaintenance (maintenanceKind validated.operation))

/-- The store after one delivery; a rejected event changes nothing. -/
def deliver (event : JournalEvent) : Store :=
  match projectJournalEvent engine decoder store event with
  | .ok (_, projected) => projected
  | .error _ => store

def acknowledgement (event : JournalEvent) : Option GraphProjectionReceipt :=
  match projectJournalEvent engine decoder store event with
  | .ok (receipt, _) => receipt
  | .error _ => none

def deliverAll (events : List JournalEvent) : Store :=
  events.foldl (deliver engine decoder) store

/-- The receipts of a sequence of deliveries, whether or not they reach the caller. -/
def acknowledgements (store : Store) : List JournalEvent → List GraphProjectionReceipt
  | [] => []
  | event :: rest =>
    (acknowledgement engine decoder store event).toList ++
      acknowledgements (deliver engine decoder store event) rest

/-! Delivering journal events again. A delivery that publishes moves the semantic watermark
to the commit of its event, and an event at or below the watermark changes nothing: so every
event already delivered is inert, whatever was delivered after it. -/

section

variable {engine : Engine} {decoder : JournalDecoder} {store next : Store} {event : JournalEvent}

/-- What one delivery did: nothing, a replay of a known receipt, or a publication. -/
inductive Delivery (engine : Engine) (store : Store) (event : JournalEvent) :
    Option GraphProjectionReceipt → Store → Prop
  | inert : Delivery engine store event none store
  | replay {existing : GraphProjectionReceipt}
      (known : store.latest.publications[existing.publication.mutationId.uuid]? = some existing) :
      Delivery engine store event (some { existing with replayed := true }) store
  | publish {mutation : GraphMutation} {publication : GraphPublication} {next : Store}
      (commits : publication.commitSeq = event.commitSeq)
      (published : Nonempty (Published engine store mutation (some publication) next)) :
      Delivery engine store event (some ⟨publication, store.head + 1, false⟩) next

theorem projectPublication_delivery {validated : ValidatedMutation} {receipt : PublicationReceipt}
    {projection : GraphProjectionReceipt} (commits : receipt.commitSeq = event.commitSeq)
    (success : projectPublication engine store validated receipt = .ok (projection, next)) :
    Delivery engine store event (some projection) next := by
  have rest := rest_ok success
  have rest := rest_ok rest
  have rest := rest_ok rest
  have rest := rest_ok rest
  obtain ⟨⟨outcome, committed⟩, applies, rest⟩ := bind_ok rest
  cases rest
  rcases applyMutation_ok applies with ⟨published, existing, named, known, same, rfl, rfl⟩ |
    ⟨rfl, published⟩
  · cases named
    rw [← same] at known ⊢
    exact .replay known
  · exact .publish commits published

theorem projectJournalEvent_delivery {receipt : Option GraphProjectionReceipt}
    (success : projectJournalEvent engine decoder store event = .ok (receipt, next)) :
    Delivery engine store event receipt next := by
  cases event with
  | observationAccepted commitSeq observationId exactBytes requestDigest =>
    cases success
    exact .inert
  | semanticPublished commitSeq mutationId publicationId exactMutationBytes mutationDigest outbox =>
    obtain ⟨validated, _, rest⟩ := bind_ok success
    have rest := rest_ok rest
    have rest := rest_ok rest
    obtain ⟨⟨projection, projected⟩, projects, rest⟩ := bind_ok rest
    cases rest
    exact projectPublication_delivery rfl projects
  | maintenancePublished commitSeq mutationId publicationId exactMutationBytes mutationDigest outbox =>
      obtain ⟨validated, _, rest⟩ := bind_ok success
      have rest := rest_ok rest
      cases rest

variable (engine decoder store event)

theorem delivery : Delivery engine store event (acknowledgement engine decoder store event)
    (deliver engine decoder store event) := by
  unfold acknowledgement deliver
  cases outcome : projectJournalEvent engine decoder store event with
  | error error => exact .inert
  | ok projection =>
    obtain ⟨receipt, projected⟩ := projection
    exact projectJournalEvent_delivery outcome

/-- A delivery leaves the store alone, or publishes a commit above the watermark and moves
the watermark to it. -/
theorem deliver_cases : deliver engine decoder store event = store ∨
    (readSemanticWatermark store.latest < event.commitSeq ∧
        readSemanticWatermark (deliver engine decoder store event).latest = event.commitSeq) := by
  have happened := delivery engine decoder store event
  generalize acknowledgement engine decoder store event = receipt at happened
  generalize deliver engine decoder store event = next at happened ⊢
  cases happened with
  | inert => exact .inl rfl
  | replay known => exact .inl rfl
  | publish commits published =>
    obtain ⟨published⟩ := published
    obtain ⟨advances, commit⟩ := unit_ok published.semantic
    have above := of_decide_eq_true (ensure_ok_iff.mp advances)
    have watermark : readSemanticWatermark next.latest = published.semanticSeq := by
      rw [readSemanticWatermark, published.metadata]
      rfl
    right
    rw [watermark, ← commits]
    exact ⟨above, (Except.ok.inj commit).symm⟩

theorem deliver_extends_receipts : BTreeMap.Extends store.latest.publications
    (deliver engine decoder store event).latest.publications := by
  have happened := delivery engine decoder store event
  generalize acknowledgement engine decoder store event = receipt at happened
  generalize deliver engine decoder store event = next at happened ⊢
  cases happened with
  | inert => exact .refl _
  | replay known => exact .refl _
  | publish commits published =>
    obtain ⟨published⟩ := published
    rw [published.receipt]
    exact .insert (published.fresh _ rfl) _

variable {store event}

theorem deliver_of_le (below : event.commitSeq ≤ readSemanticWatermark store.latest) :
    deliver engine decoder store event = store :=
  (deliver_cases engine decoder store event).resolve_right fun published => by omega

/-- The store keeps `receipt` under its mutation, up to the replay flag. -/
def Store.Keeps (store : Store) (receipt : GraphProjectionReceipt) : Prop :=
  ∃ stored, store.latest.publications[receipt.publication.mutationId.uuid]? = some stored ∧
    stored.publication = receipt.publication ∧ stored.storageSeq = receipt.storageSeq

theorem acknowledgement_kept {receipt : GraphProjectionReceipt}
    (returned : acknowledgement engine decoder store event = some receipt) :
    (deliver engine decoder store event).Keeps receipt := by
  have happened := delivery engine decoder store event
  rw [returned] at happened
  generalize deliver engine decoder store event = next at happened ⊢
  cases happened with
  | replay known => exact ⟨_, known, rfl, rfl⟩
  | publish commits published =>
    obtain ⟨published⟩ := published
    exact ⟨_, by rw [published.receipt, ExtTreeMap.getElem?_insert_self], rfl, rfl⟩

end

section

variable (engine : Engine) (decoder : JournalDecoder)

/-- A delivery schedule of the events: it presents them in order and may present any event
again after its first delivery. A lost acknowledgement only makes the sender repeat. -/
inductive Schedule : List JournalEvent → List JournalEvent → Prop
  | start : Schedule [] []
  | next {presented delivered : List JournalEvent} (event : JournalEvent)
      (before : Schedule presented delivered) :
      Schedule (presented ++ [event]) (delivered ++ [event])
  | again {presented delivered : List JournalEvent} {event : JournalEvent}
      (before : Schedule presented delivered) (known : event ∈ presented) :
      Schedule presented (delivered ++ [event])

theorem deliverAll_append (store : Store) (events : List JournalEvent) (event : JournalEvent) :
    deliverAll engine decoder store (events ++ [event]) = deliver engine decoder
      (deliverAll engine decoder store events) event := by
  simp [deliverAll]

theorem delivered_inert {events : List JournalEvent}
    (numbered : events.Pairwise fun earlier later => earlier.commitSeq < later.commitSeq)
    (store : Store) : ∀ event ∈ events,
      deliver engine decoder (deliverAll engine decoder store events) event =
        deliverAll engine decoder store events := by
  induction events using reverseRecOn with
  | nil => simp
  | append_singleton earlier last ih =>
    obtain ⟨ordered, _, before⟩ := pairwise_append.mp numbered
    have inert := ih ordered
    rw [deliverAll_append]
    intro event member
    rcases deliver_cases engine decoder (deliverAll engine decoder store earlier) last with
      unchanged | ⟨_, watermark⟩
    · -- The store is the one of the earlier events, so their verdicts stand.
      rw [unchanged]
      rcases mem_append.mp member with known | same
      · exact inert event known
      · rw [mem_singleton.mp same]
        exact unchanged
    · refine deliver_of_le engine decoder ?_
      rw [watermark]
      rcases mem_append.mp member with known | same
      · exact Nat.le_of_lt (before event known last mem_cons_self)
      · rw [mem_singleton.mp same]

theorem Schedule.deliverAll_eq {presented delivered : List JournalEvent}
    (schedule : Schedule presented delivered)
    (numbered : presented.Pairwise fun earlier later => earlier.commitSeq < later.commitSeq)
    (store : Store) :
    deliverAll engine decoder store delivered = deliverAll engine decoder store presented := by
  induction schedule with
  | start => rfl
  | next event before ih =>
    rw [deliverAll_append, deliverAll_append, ih (pairwise_append.mp numbered).1]
  | again before known ih =>
    rw [deliverAll_append, ih numbered]
    exact delivered_inert engine decoder numbered store _ known

theorem deliverAll_extends_receipts (store : Store) (events : List JournalEvent) :
    BTreeMap.Extends store.latest.publications
      (deliverAll engine decoder store events).latest.publications := by
  induction events generalizing store with
  | nil => exact .refl _
  | cons event rest ih =>
    exact (deliver_extends_receipts engine decoder store event).trans
      (ih (deliver engine decoder store event))

theorem acknowledgements_kept (store : Store) (events : List JournalEvent) :
    ∀ receipt ∈ acknowledgements engine decoder store events, (deliverAll engine decoder store events).Keeps receipt := by
  induction events generalizing store with
  | nil => simp [acknowledgements]
  | cons event rest ih =>
    intro receipt member
    rcases mem_append.mp member with now | later
    · obtain ⟨stored, found, same⟩ :=
        acknowledgement_kept engine decoder (Option.mem_toList.mp now)
      exact ⟨stored, deliverAll_extends_receipts engine decoder _ rest _ _ found, same⟩
    · exact ih _ receipt later

/-- Receipts for one mutation agree on the commit and the storage sequence. -/
def ReceiptsAgree (receipts : List GraphProjectionReceipt) : Prop :=
  ∀ first ∈ receipts, ∀ second ∈ receipts,
    first.publication.mutationId = second.publication.mutationId →
      first.publication.commitSeq = second.publication.commitSeq ∧
        first.storageSeq = second.storageSeq

theorem acknowledgements_agree (store : Store) (events : List JournalEvent) :
    ReceiptsAgree (acknowledgements engine decoder store events) := by
  intro first firstMember second secondMember same
  obtain ⟨stored, found, publication, sequence⟩ :=
    acknowledgements_kept engine decoder store events first firstMember
  obtain ⟨other, otherFound, otherPublication, otherSequence⟩ :=
    acknowledgements_kept engine decoder store events second secondMember
  rw [← same, found] at otherFound
  cases otherFound
  rw [← publication, ← otherPublication, ← sequence, ← otherSequence]
  exact ⟨rfl, rfl⟩

/-- Projection of a journal is exactly once: every schedule that repeats delivered events
reaches the store of one ordered delivery, and its receipts agree. -/
theorem journal_projection_exactly_once (journal : Journal) (store : Store)
    (delivered : List JournalEvent) (schedule : Schedule journal.events delivered) :
    deliverAll engine decoder store delivered = deliverAll engine decoder store journal.events ∧
      ReceiptsAgree (acknowledgements engine decoder store delivered) :=
  ⟨schedule.deliverAll_eq engine decoder journal.numbered store,
    acknowledgements_agree engine decoder store delivered⟩

/-- A semantic event whose bytes decode is the projection of what they decode to. -/
theorem projectJournalEvent_published {validated : ValidatedMutation} {bytes : Bytes}
    {commitSeq : Nat}
    {mutationId : MutationId} {publicationId : PublicationId} {digest : Digest}
    (decodes : decoder.mutation bytes = .ok validated) (quiet : validated.mutation.derivedWork =
      []) :
    projectJournalEvent engine decoder store
      (.semanticPublished commitSeq mutationId publicationId bytes digest []) =
      (projectPublication engine store validated ⟨mutationId, publicationId, commitSeq, 0,
        digest⟩).map
        fun (receipt, projected) => (some receipt, projected) := by
  rw [projectJournalEvent, decodes]
  change (ensure (decide (validated.mutation.derivedWork = [])) _ >>= fun _ => _) = _
  rw [quiet]
  cases projectPublication engine store validated ⟨mutationId, publicationId, commitSeq, 0,
    digest⟩ with
  | error => rfl
  | ok => rfl

/-! ### A guest joins the board

The store holds a board with one member. The journal accepts an observation and publishes a
node for a guest. -/

private def boardScope : ScopeRef := ⟨.workspace, .numbered 1, .exact⟩

private def boardOwner : MemorySubjectId := .numbered 3

private def boardOwnership : OwnershipPolicy where
  owners := ⟨[boardOwner], by simp⟩
  audienceGrants := [⟨.owner, {Purpose.audit}, {AccessCapability.retrieve}⟩]
  allowedPurposes := {Purpose.audit}
  modification := ⟨true, false, true⟩

private def boardSeed : GraphMutation :=
  { GraphMutation.empty with
    workspaces := [⟨.numbered 1, "board", .numbered 7, "default", .active⟩]
    memorySpaces := [⟨.numbered 2, .numbered 1, .group,
      ⟨[boardOwner], by simp⟩, boardOwnership, .session, none⟩]
    memorySubjects := [⟨boardOwner, .numbered 1, .user, .numbered 4,
      ⟨[.numbered 2], by simp⟩, .numbered 8⟩]
    nodes := [⟨.numbered 4, .numbered 1, .entity, 1, none, .canonical, boardScope⟩] }

private def boardStore : Store :=
  match commit ⟨fun _ _ => true⟩ .new boardSeed with
  | .ok (_, store) => store
  | .error _ => .new

def guestMutationJson : String :=
  "\x7b\"id\":\"00000000-0000-0000-0000-000000000001\"," ++
    "\"base_snapshot\":\x7b\"commit_seq\":1\x7d," ++
    "\"journal_refs\":[\"00000000-0000-0000-0000-000000000002\"],\"observation_appends\":[]," ++
    "\"episode_view_writes\":[]," ++
    "\"node_creates\":[\x7b\"id\":\"00000000-0000-0000-0000-00000000000b\"," ++
    "\"workspace_id\":\"00000000-0000-0000-0000-000000000001\",\"node_type\":\"entity\"," ++
    "\"created_seq\":2,\"retired_seq\":null,\"identity_state\":\"canonical\"," ++
    "\"primary_scope\":\x7b\"kind\":\"workspace\"," ++
    "\"id\":\"00000000-0000-0000-0000-000000000001\",\"inheritance\":\"exact\"\x7d\x7d]," ++
    "\"node_revisions\":[\x7b\"node_id\":\"00000000-0000-0000-0000-00000000000b\"," ++
    "\"revision\":1,\"temporal\":\x7b\"valid_time\":\x7b\"start\":0,\"end\":null\x7d," ++
    "\"transaction_time\":\x7b\"start\":2,\"end\":null\x7d\x7d,\"canonical_name\":\"guest\"," ++
    "\"attributes\":\x7b\x7d,\"epistemic\":\x7b\"basis\":\"hypothesis\"," ++
    "\"acceptance\":\"proposed\",\"conflict\":\x7b\"state\":\"none\"\x7d," ++
    "\"lifecycle\":\"active\"\x7d,\"confidence\":\x7b\"overall\":0.0,\"source_trust\":0.0," ++
    "\"extraction_quality\":0.0,\"corroboration\":0.0\x7d,\"evidence\":[]," ++
    "\"envelope\":\x7b\"scopes\":[\x7b\"kind\":\"workspace\"," ++
    "\"id\":\"00000000-0000-0000-0000-000000000001\",\"inheritance\":\"exact\"\x7d]," ++
    "\"perspective\":\x7b\"knower\":\"00000000-0000-0000-0000-000000000003\"," ++
    "\"experiencer\":null,\"narrator\":\"00000000-0000-0000-0000-000000000005\"," ++
    "\"role\":\"asserter\"\x7d," ++
    "\"ownership\":\x7b\"owners\":[\"00000000-0000-0000-0000-000000000003\"]," ++
    "\"audience_grants\":[\x7b\"audience\":\x7b\"kind\":\"owner\"\x7d," ++
    "\"purposes\":[\"audit\"],\"capabilities\":[\"retrieve\"]\x7d]," ++
    "\"allowed_purposes\":[\"audit\"],\"modification\":\x7b\"owners_may_modify\":true," ++
    "\"delegates_may_modify\":false,\"system_may_derive\":true\x7d\x7d," ++
    "\"consent\":\x7b\"required\":false,\"decisions\":[]\x7d," ++
    "\"use_policy\":\x7b\"retrieve\":\"allow\",\"influence_response\":\"allow\"," ++
    "\"mention_explicitly\":\"deny\",\"external_model_use\":\"deny\"," ++
    "\"retention\":\x7b\"kind\":\"session\"\x7d\x7d," ++
    "\"security\":\x7b\"classification\":\"internal\",\"labels\":[]," ++
    "\"required_compartments\":[],\"allow_external_processing\":false\x7d," ++
    "\"derivation\":\x7b\"id\":\"00000000-0000-0000-0000-000000000006\"," ++
    "\"kind\":\"deterministic_projector\",\"actor\":null,\"model_call\":null," ++
    "\"pipeline\":\x7b\"name\":\"p\",\"version\":\"1\",\"schema_version\":\"1\"\x7d," ++
    "\"inputs\":[]\x7d\x7d\x7d],\"claim_creates\":[],\"claim_revisions\":[]," ++
    "\"edge_creates\":[],\"edge_revisions\":[],\"conflict_creates\":[]," ++
    "\"conflict_revisions\":[],\"candidate_writes\":[],\"typed_memory_writes\":[]," ++
    "\"derived_work\":[]\x7d"

def guestMutationDigest : Digest :=
  0x4a743aa322236d81012228b138b9b28c4eaebefc3bd238bb3ee4c95f302cc59c

private def guestEnvelope : SemanticEnvelope where
  scopes := ⟨[boardScope], by simp⟩
  perspective := ⟨boardOwner, none, .numbered 5, .asserter⟩
  ownership := boardOwnership
  consent := ⟨false, []⟩
  usePolicy := ⟨.allow, .allow, .deny, .deny, .session⟩
  security := ⟨.internal, ∅, ∅, false⟩
  derivation := ⟨.numbered 6, .deterministicProjector, none, none, ⟨"p", "1", "1"⟩, []⟩

def guestValidated : ValidatedMutation where
  mutation :=
    { id := .numbered 1, baseCommitSeq := 1
      nodeCreates := [⟨.numbered 11, .numbered 1, .entity, 2, none, .canonical, boardScope⟩]
      nodeRevisions := [{
        nodeId := .numbered 11, revision := .first, temporal := ⟨⟨0, none⟩,
          ⟨2, none⟩⟩, canonicalName := "guest"
        attributes := ∅, epistemic := ⟨.hypothesis, .proposed, .none, .active⟩
        confidence := ⟨⟨0⟩, ⟨0⟩, ⟨0⟩, ⟨0⟩⟩, evidence := [], envelope := guestEnvelope }]
      claimCreates := [], claimRevisions := [], edgeCreates := [], edgeRevisions := []
      conflictCreates := [], conflictRevisions := [], derivedWork := [] }
  digest := guestMutationDigest

def guestDecoder : JournalDecoder where
  mutation bytes :=
    if bytes = textBytes guestMutationJson then .ok guestValidated
    else .error "EOF while parsing a value at line 1 column 0"
  maintenance _ := .error "EOF while parsing a value at line 1 column 0"

def acceptedObservation : JournalEvent :=
  .observationAccepted 1 (.numbered 2) (textBytes "opaque-observation")
    0x532977b4df48c2d2b9907082ca224831940c001734a77fbb06c11e581585df87

def guestPublication : JournalEvent :=
  .semanticPublished 2 (.numbered 1) (.numbered 3) (textBytes guestMutationJson) guestMutationDigest
    []

def guestJournal : Journal where
  events := [acceptedObservation, guestPublication]
  numbered := by decide

/-- The guest's node, the receipt of its publication and the watermark of its commit. -/
structure HoldsGuest (tables : Tables) : Prop where
  node : tables.nodes.identity.contains (⟨11⟩ : Uuid) = true
  receipt : tables.publications[(⟨1⟩ : Uuid)]?.any (·.storageSeq = 2) = true
  watermark : readSemanticWatermark tables = 2

/-- Both events delivered again after the whole journal: the guest is stored once, with the
receipt of its publication and the watermark at its commit. -/
theorem guest_journal_delivered_twice :
    let delivered := [acceptedObservation, guestPublication, acceptedObservation, guestPublication]
    Schedule guestJournal.events delivered ∧
      deliverAll ⟨fun _ _ => true⟩ guestDecoder boardStore delivered =
        deliverAll ⟨fun _ _ => true⟩ guestDecoder boardStore guestJournal.events ∧
      ReceiptsAgree (acknowledgements ⟨fun _ _ => true⟩ guestDecoder boardStore delivered) ∧
      HoldsGuest (deliverAll ⟨fun _ _ => true⟩ guestDecoder boardStore delivered).latest := by
  intro delivered
  have schedule : Schedule guestJournal.events delivered :=
    .again (.again (.next guestPublication (.next acceptedObservation .start)) (.head _))
      (.tail _ (.head _))
  obtain ⟨same, agree⟩ := journal_projection_exactly_once
    ⟨fun _ _ => true⟩ guestDecoder guestJournal boardStore _ schedule
  refine ⟨schedule, same, agree, ?_⟩
  -- The bytes of the publication are compared once, by the decoder; what they decode to is
  -- evaluated.
  have stored : yields (projectPublication ⟨fun _ _ => true⟩ boardStore guestValidated
      ⟨.numbered 1, .numbered 3, 2, 0, guestMutationDigest⟩) (fun (_, projected) =>
        projected.latest.nodes.identity.contains (⟨11⟩ : Uuid) &&
          projected.latest.publications[(⟨1⟩ : Uuid)]?.any (·.storageSeq = 2) &&
          readSemanticWatermark projected.latest == 2) = true := by
    decide +kernel
  obtain ⟨⟨receipt, projected⟩, published, facts⟩ := yields_iff.mp stored
  have event := @projectJournalEvent_published boardStore
    ⟨fun _ _ => true⟩ guestDecoder guestValidated
    (textBytes guestMutationJson) 2 (.numbered 1) (.numbered 3) guestMutationDigest (if_pos rfl) rfl
  rw [published] at event
  have first : deliver ⟨fun _ _ => true⟩ guestDecoder boardStore acceptedObservation =
    boardStore := rfl
  have second : deliver ⟨fun _ _ => true⟩ guestDecoder boardStore guestPublication = projected := by
    rw [deliver, guestPublication, event]
    rfl
  have reached : deliverAll ⟨fun _ _ => true⟩ guestDecoder boardStore guestJournal.events =
    projected := by
    rw [deliverAll, guestJournal, foldl_cons, foldl_cons, foldl_nil, first, second]
  rw [same, reached]
  simp only [Bool.and_eq_true, beq_iff_eq] at facts
  exact ⟨facts.1.1, facts.1.2, facts.2⟩

end

end ContextDb.Graph
