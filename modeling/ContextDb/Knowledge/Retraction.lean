import ContextDb.Knowledge.Chains

/-! Retracted knowledge. A retraction covers the valid time of the claim's head and is seen by
the readers of the retracting document; the claim keeps supporting answers at instants that
only earlier revisions cover, and for readers of earlier revisions alone. -/

set_option autoImplicit false

namespace ContextDb.Knowledge

open Std Lib ContextDb.Core Recall List ClaimRevision BTreeMap ExtTreeMap

variable (library : Library)

/-- Calls of `publish` in order; a rejected document leaves the ledger as it was. -/
def publishAll (ledger : KnowledgeLedger) (documents : List AdaptedDocument) : KnowledgeLedger :=
  documents.foldl (fun ledger document => match publish library ledger document with
    | .ok (_, next) => next
    | .error _ => ledger) ledger

def AdaptedDocument.assertsKey (document : AdaptedDocument) (key : String) : Prop :=
  ∃ proposal ∈ document.proposals, proposal.action.isAssertion = true ∧ proposal.statementKey = key

def AdaptedDocument.asserts (document : AdaptedDocument) (statement : SourceStatementRef) : Prop :=
  document.sourceRevision.sourceKey = statement.sourceKey ∧
    document.assertsKey statement.statementKey

/-- Distinct statements of the documents have distinct claim identifiers, which are truncated
hashes. -/
def ClaimIdsApart (documents : List AdaptedDocument) : Prop :=
  ∀ left ∈ documents, ∀ right ∈ documents, ∀ first ∈ left.proposals, ∀ second ∈ right.proposals,
    claimIdOf library left.sourceRevision.source.id first.statementKey =
      claimIdOf library right.sourceRevision.source.id second.statementKey →
    left.sourceRevision.sourceKey = right.sourceRevision.sourceKey ∧
      first.statementKey = second.statementKey

/-! ### The claim index -/

/-- The claims of a ledger built from the documents: filed under their own statement, none
newer than `limit`. -/
structure Indexed (library : Library) (documents : List AdaptedDocument) (limit : Nat)
    (ledger : KnowledgeLedger) : Prop where
  owned : Owned ledger
  listed : ∀ (id : ClaimId) record, ledger.claims[id]? = some record →
    ledger.claimKeys[record.statement]? = some id
  named : ∀ (key : SourceStatementRef) id, ledger.claimKeys[key]? = some id →
    ∃ record, ledger.claims[id]? = some record ∧ record.statement = key
  origin : ∀ (id : ClaimId) record, ledger.claims[id]? = some record →
    ∃ document ∈ documents, ∃ proposal ∈ document.proposals,
      record.statement = ⟨document.sourceRevision.sourceKey, proposal.statementKey⟩ ∧
      id = claimIdOf library document.sourceRevision.source.id proposal.statementKey
  bounded : ∀ (id : ClaimId) record, ledger.claims[id]? = some record →
    ∀ link ∈ record.chain, link.temporal.transactionTime.start ≤ limit

theorem indexed_empty (documents : List AdaptedDocument) :
    Indexed library documents KnowledgeLedger.empty.commitSeq .empty := by
  constructor <;>
  · intro id record found
    simp [KnowledgeLedger.empty] at found

variable {library : Library} {documents : List AdaptedDocument} {claim : ClaimId}
  {record : SourceClaimRecord} {document : AdaptedDocument} {id : ClaimId} {key : String}

section

variable {limit commit : Nat} {source : SourceRevision} {before after : KnowledgeLedger}

theorem Extends.refl (commit : Nat) (record : SourceClaimRecord) :
    Extends commit record record := by
  refine ⟨.refl record, [], (append_nil _).symm, ?_⟩
  intro link member
  cases member

theorem Extends.trans {first second third : SourceClaimRecord}
    (left : Extends commit first second) (right : Extends commit second third) :
    Extends commit first third := by
  obtain ⟨added, chain, starts⟩ := left.appended
  obtain ⟨further, longer, later⟩ := right.appended
  refine ⟨left.toSameClaim.trans right.toSameClaim, added ++ further, ?_, ?_⟩
  · rw [longer, chain, append_assoc]
  · intro link member
    cases mem_append.mp member with
    | inl early => exact starts link early
    | inr late => exact later link late

section

variable (indexed : Indexed library documents limit before)
include indexed

/-- Writing a claim under its own statement keeps the index, whether the claim is new or not. -/
theorem Indexed.write (alone : ∀ id : ClaimId, before.claimKeys[record.statement]? = some id →
    id = record.claim.id)
    (same : ∀ held, before.claims[record.claim.id]? = some held → held.statement = record.statement)
    (origin : ∃ document ∈ documents, ∃ proposal ∈ document.proposals,
      record.statement = ⟨document.sourceRevision.sourceKey, proposal.statementKey⟩ ∧
      record.claim.id = claimIdOf library document.sourceRevision.source.id proposal.statementKey)
    (bounded : ∀ link ∈ record.chain, link.temporal.transactionTime.start ≤ limit)
    (claims : after.claims = before.claims.insert record.claim.id record)
    (keys : after.claimKeys = before.claimKeys.insert record.statement record.claim.id) :
    Indexed library documents limit after := by
  have lookup : ∀ (other : ClaimId) held, after.claims[other]? = some held →
    (other = record.claim.id ∧ held = record) ∨
        (other ≠ record.claim.id ∧ before.claims[other]? = some held) := by
    intro other held present
    rw [claims] at present
    rcases getElem?_insert_cases present with ⟨rfl, rfl⟩ | ⟨here, earlier⟩
    · exact .inl ⟨rfl, rfl⟩
    · exact .inr ⟨Ne.symm here, earlier⟩
  constructor
  · exact indexed.owned.insert rfl claims
  · intro other held present
    rw [keys]
    rcases lookup other held present with ⟨rfl, rfl⟩ | ⟨elsewhere, earlier⟩
    · exact getElem?_insert_self
    · have filed := indexed.listed other held earlier
      rw [getElem?_insert_of_ne]
      · exact filed
      · intro equal
        exact elsewhere (alone other (equal ▸ filed))
  · intro key other known
    rw [keys] at known
    rcases getElem?_insert_cases known with ⟨rfl, rfl⟩ | ⟨here, earlier⟩
    · exact ⟨record, by rw [claims, getElem?_insert_self], rfl⟩
    · obtain ⟨held, present, filed⟩ := indexed.named key other earlier
      refine ⟨held, ?_, filed⟩
      rw [claims, getElem?_insert_of_ne]
      · exact present
      · rintro rfl
        exact here ((same held present).symm.trans filed)
  · intro other held present
    rcases lookup other held present with ⟨rfl, rfl⟩ | ⟨_, earlier⟩
    · exact origin
    · exact indexed.origin other held earlier
  · intro other held present link member
    rcases lookup other held present with ⟨rfl, rfl⟩ | ⟨_, earlier⟩
    · exact bounded link member
    · exact indexed.bounded other held earlier link member

theorem Indexed.revise {revised : SourceClaimRecord} (found : before.claims[id]? = some record)
    (extended : Extends commit record revised) (within : commit ≤ limit)
    (claims : after.claims = before.claims.insert id revised)
    (keys : after.claimKeys = before.claimKeys) : Indexed library documents limit after := by
  obtain rfl : revised.claim.id = id := by
    rw [extended.claim]
    exact indexed.owned id record found
  have filed := indexed.listed _ record found
  rw [← extended.statement] at filed
  refine indexed.write ?_ ?_ ?_ ?_ claims (keys.trans ?_)
  · intro other known
    exact Option.some.inj (known.symm.trans filed)
  · intro held present
    cases found.symm.trans present
    exact extended.statement.symm
  · rw [extended.statement]
    exact indexed.origin _ record found
  · obtain ⟨added, chain, starts⟩ := extended.appended
    intro link member
    rw [chain] at member
    cases mem_append.mp member with
    | inl old => exact indexed.bounded _ record found link old
    | inr new => exact (starts link new).trans_le within
  · refine ext_getElem? fun key => ?_
    by_cases here : revised.statement = key
    · rw [← here, getElem?_insert_self, filed]
    · rw [getElem?_insert_of_ne here]

theorem Indexed.idle (claims : after.claims = before.claims)
    (keys : after.claimKeys = before.claimKeys) :
    Indexed library documents limit after := by
  constructor
  · unfold Owned
    rw [claims]
    exact indexed.owned
  · rw [claims, keys]
    exact indexed.listed
  · rw [claims, keys]
    exact indexed.named
  · rw [claims]
    exact indexed.origin
  · rw [claims]
    exact indexed.bounded

end

/-- A write leaves a claim alone, or it is the claim written. -/
theorem claim_written {held revised : SourceClaimRecord}
    (found : before.claims[claim]? = some record) (present : before.claims[id]? = some held)
    (claims : after.claims = before.claims.insert id revised) : after.claims[claim]? = some record ∨
      id = claim ∧ held = record ∧ after.claims[claim]? = some revised := by
  rw [claims]
  by_cases same : id = claim
  · cases same
    rw [found] at present
    exact .inr ⟨rfl, (Option.some.inj present).symm, getElem?_insert_self⟩
  · rw [getElem?_insert_of_ne same]
    exact .inl found

structure Publishing (documents : List AdaptedDocument) (document : AdaptedDocument)
    (source : SourceRevision) : Prop where
  member : document ∈ documents
  sameSource : source.source = document.sourceRevision.source
  sourceKey : source.sourceKey = document.sourceRevision.sourceKey
  envelope : source.envelope = document.sourceRevision.envelope

variable (apart : ClaimIdsApart library documents)
    (publishing : Publishing documents document source)
include apart publishing

/-- A claim created for a statement that has none is none of the claims there are. -/
theorem Indexed.fresh (indexed : Indexed library documents limit before)
    (assertion : document.assertsKey key)
    (unknown : before.claimKeys[(⟨source.sourceKey, key⟩ : SourceStatementRef)]? = none)
    (found : before.claims[claim]? = some record) : claim ≠
      claimIdOf library source.source.id key := by
  intro same
  obtain ⟨proposal, proposed, _, rfl⟩ := assertion
  obtain ⟨other, listed, stated, states, statement, identifier⟩ := indexed.origin claim record found
  have equal := identifier.symm.trans same
  rw [publishing.sameSource] at equal
  obtain ⟨sources, statements⟩ := apart other listed document publishing.member stated states proposal proposed equal
  have filed := indexed.listed claim record found
  rw [statement, sources, statements, ← publishing.sourceKey, unknown] at filed
  cases filed

theorem Indexed.create (indexed : Indexed library documents limit before)
    (assertion : document.assertsKey key)
    (unknown : before.claimKeys[(⟨source.sourceKey, key⟩ : SourceStatementRef)]? = none)
    (statement : record.statement = ⟨source.sourceKey, key⟩)
    (named : record.claim.id = claimIdOf library source.source.id key)
    (starts : ∀ link ∈ record.chain, link.temporal.transactionTime.start = commit)
    (within : commit ≤ limit) (claims : after.claims = before.claims.insert record.claim.id record)
    (keys : after.claimKeys = before.claimKeys.insert ⟨source.sourceKey, key⟩ record.claim.id) :
    Indexed library documents limit after := by
  rw [← statement] at keys
  refine indexed.write ?_ ?_ ?_ (fun link member =>
    (starts link member).trans_le within) claims keys
  · intro other known
    rw [statement, unknown] at known
    cases known
  · intro held present
    exact absurd named (indexed.fresh apart publishing assertion unknown present)
  · obtain ⟨proposal, proposed, _, rfl⟩ := assertion
    rw [publishing.sourceKey] at statement
    rw [publishing.sameSource] at named
    exact ⟨document, publishing.member, proposal, proposed, statement, named⟩

variable (ready : Indexed library documents limit before)
include ready

theorem Staging.indexed (step : Staging library source commit document.assertsKey before after)
    (within : commit ≤ limit) : Indexed library documents limit after := by
  cases step with
  | idle claims keys => exact ready.idle claims keys
  | update assertion known found extended claims keys =>
    exact ready.revise found extended within claims keys
  | create assertion fresh statement named starts claims keys =>
    exact ready.create apart publishing assertion fresh statement named starts within claims keys
  | retract found retraction claims keys =>
    exact ready.revise found retraction.extends within claims keys

theorem Advance.indexed (advance : Advance library source commit document.assertsKey before after)
    (within : commit ≤ limit) : Indexed library documents limit after := by
  cases advance with
  | staging step => exact step.indexed apart publishing ready within
  | mark found active extended claims keys =>
    exact ready.revise found extended within claims keys

/-! ### One claim through a publication -/

/-- What a step does to a claim there is: it is extended, and a claim whose statement is not
asserted only by a retraction or a mark, never once its head is retracted. -/
theorem Staging.claim_cases (step : Staging library source commit document.assertsKey before after)
    (found : before.claims[claim]? = some record) : after.claims[claim]? = some record ∨
    (document.asserts record.statement ∧
        ∃ revised, after.claims[claim]? = some revised ∧ Extends commit record revised) ∨
      ∃ revised, after.claims[claim]? = some revised ∧
        Retraction source.envelope commit record revised := by
  cases step with
  | idle claims keys =>
    rw [claims]
    exact .inl found
  | @update key id held revised assertion known present extended claims keys =>
    obtain kept | ⟨rfl, rfl, written⟩ := claim_written found present claims
    · exact .inl kept
    · refine .inr (.inl ⟨?_, revised, written, extended⟩)
      obtain ⟨other, listed, statement⟩ := ready.named _ _ known
      rw [found] at listed
      cases listed
      rw [statement]
      exact ⟨publishing.sourceKey.symm, assertion⟩
  | create assertion fresh statement named starts claims keys =>
    rw [claims, getElem?_insert_of_ne]
    · exact .inl found
    · intro same
      exact ready.fresh apart publishing assertion fresh found (same.symm.trans named)
  | retract present retraction claims keys =>
    obtain kept | ⟨rfl, rfl, written⟩ := claim_written found present claims
    · exact .inl kept
    · exact .inr (.inr ⟨_, written, retraction⟩)

theorem Advance.claim_kept (advance : Advance library source commit document.assertsKey before after)
    (found : before.claims[claim]? = some record) : ∃ revised, after.claims[claim]? = some revised ∧
      Extends commit record revised ∧
      (record.head.epistemic.lifecycle = .retracted → ¬ document.asserts record.statement →
        revised = record) := by
  cases advance with
  | staging step =>
    obtain same | ⟨assertion, revised, present, extended⟩ | ⟨revised, present, retraction⟩ :=
      step.claim_cases apart publishing ready found
    · exact ⟨record, same, .refl commit record, fun _ _ => rfl⟩
    · exact ⟨revised, present, extended, fun _ silent => absurd assertion silent⟩
    · exact ⟨revised, present, retraction.extends,
        fun retracted _ => absurd retracted retraction.active⟩
  | mark present active extended claims keys =>
    obtain kept | ⟨rfl, rfl, written⟩ := claim_written found present claims
    · exact ⟨record, kept, .refl commit record, fun _ _ => rfl⟩
    · exact ⟨_, written, extended, fun retracted _ => absurd retracted active⟩

/-- A publication keeps the index and extends every claim; a retracted one it does not assert
it leaves alone. -/
theorem Advances.keeps (advances : Advances library source commit document.assertsKey before after)
    (within : commit ≤ limit) : Indexed library documents limit after ∧
      ∀ (claim : ClaimId) record, before.claims[claim]? = some record →
        ∃ revised, after.claims[claim]? = some revised ∧ Extends commit record revised ∧
          (record.head.epistemic.lifecycle = .retracted → ¬ document.asserts record.statement →
            revised = record) := by
  induction advances with
  | refl =>
    exact ⟨ready, fun claim record found => ⟨record, found, .refl _ record, fun _ _ => rfl⟩⟩
  | tail _ advance ih =>
    obtain ⟨midway, kept⟩ := ih
    refine ⟨advance.indexed apart publishing midway within, ?_⟩
    intro claim record found
    obtain ⟨revised, present, extended, rests⟩ := kept claim record found
    obtain ⟨further, listed, longer, still⟩ := advance.claim_kept apart publishing midway present
    refine ⟨further, listed, extended.trans longer, ?_⟩
    intro retracted silent
    have same := rests retracted silent
    rw [same] at still
    exact still retracted silent

end

/-! ### Publications -/

structure PublishRun (library : Library) (ledger : KnowledgeLedger) (document : AdaptedDocument)
    (publication : KnowledgePublication) (next : KnowledgeLedger) : Prop where
  commit : publication.commitSeq = ledger.commitSeq + 1
  advanced : next.commitSeq = ledger.commitSeq + 1
  stages : ∃ (source : SourceRevision) (start applied final : Staged) (rebuilt : Step),
    source.source = document.sourceRevision.source ∧ source.sourceKey =
      document.sourceRevision.sourceKey ∧
    source.envelope = document.sourceRevision.envelope ∧
    start.ledger.claims = ledger.claims ∧ start.ledger.claimKeys = ledger.claimKeys ∧
      start.retractedClaims = [] ∧
    document.proposals.foldlM (applyProposal library source
      (ledger.commitSeq + 1)) start = .ok applied ∧
    retractDocument library source (ledger.commitSeq + 1) applied = .ok final ∧
    rebuildSlots library source (ledger.commitSeq + 1) final = .ok rebuilt ∧
    next.claims = rebuilt.1.claims ∧ next.claimKeys = rebuilt.1.claimKeys ∧
    ∀ id ∈ publication.retractedClaims, id ∈ final.retractedClaims

variable {ledger next : KnowledgeLedger} {publication : KnowledgePublication}

theorem stageDocument_run (success : stageDocument library ledger document = .ok
    (publication, next)) :
    PublishRun library ledger document publication next := by
  unfold stageDocument at success
  have success := rest_ok success
  obtain ⟨source, placed, success⟩ := bind_ok success
  have success := rest_ok success
  obtain ⟨applied, proposed, success⟩ := bind_ok success
  obtain ⟨final, withdrawn, success⟩ := bind_ok success
  obtain ⟨⟨rebuilt, builder⟩, slots, success⟩ := bind_ok success
  have success := rest_ok success
  cases success
  obtain ⟨number, _, placed⟩ := bind_ok placed
  cases placed
  refine ⟨rfl, rfl, _, _, applied, final, _, rfl, rfl, rfl, ?_, ?_, ?_, proposed, withdrawn, slots,
    rfl, rfl, ?_⟩
  · rfl
  · rfl
  · rfl
  · intro id member
    simpa [dedupIds] using member

theorem publish_cases (success : publish library ledger document = .ok (publication, next)) :
    (next = ledger ∧ publication.retractedClaims = []) ∨
      PublishRun library ledger document publication next := by
  unfold publish at success
  have success := rest_ok success
  have success := rest_ok success
  have success := rest_ok success
  split at success
  · have success := rest_ok success
    cases success
    exact .inl ⟨rfl, rfl⟩
  · have success := rest_ok success
    exact .inr (stageDocument_run success)

/-- What every step of a publication keeps, the publication keeps. -/
theorem PublishRun.advances (run : PublishRun library ledger document publication next)
    (owned : Owned ledger) :
    ∃ source : SourceRevision, source.source = document.sourceRevision.source ∧
      source.sourceKey = document.sourceRevision.sourceKey ∧
        source.envelope = document.sourceRevision.envelope ∧
      Advances library source (ledger.commitSeq + 1) document.assertsKey ledger next := by
  obtain ⟨source, start, applied, final, rebuilt, same, key, envelope, claims, keys, _, proposed,
    withdrawn, slots, nextClaims, nextKeys, _⟩ := run.stages
  refine ⟨source, same, key, envelope, ?_⟩
  have staged : Advances library source
    (ledger.commitSeq + 1) document.assertsKey ledger final.ledger := by
    refine staged_induction document.assertsKey ?_ proposed withdrawn
      (fun staged => Advances library source (ledger.commitSeq + 1) document.assertsKey ledger
        staged.ledger) (.single (.staging (.idle claims keys))) ?_
    · exact fun proposal member assertion => ⟨proposal, member, assertion, rfl⟩
    · exact fun before after advanced step _ => advanced.tail (.staging step)
  exact (staged.trans (rebuildSlots_advance document.assertsKey slots (staged.owned owned))).tail
    (.staging (.idle nextClaims nextKeys))

/-- The index and, for a claim there is, its extension along a publication. -/
theorem publish_extends (indexed : Indexed library documents ledger.commitSeq ledger)
    (apart : ClaimIdsApart library documents) (member : document ∈ documents)
    (success : publish library ledger document = .ok (publication, next)) :
    Indexed library documents next.commitSeq next ∧ ledger.commitSeq ≤ next.commitSeq ∧
      ∀ (claim : ClaimId) record, ledger.claims[claim]? = some record →
        ∃ revised, next.claims[claim]? = some revised ∧
          (revised = record ∨ Extends (ledger.commitSeq + 1) record revised) ∧
          (record.head.epistemic.lifecycle = .retracted → ¬ document.asserts record.statement →
            revised = record) := by
  cases publish_cases success with
  | inl already =>
    cases already.1
    exact ⟨indexed, Nat.le_refl _, fun claim record found =>
      ⟨record, found, .inl rfl, fun _ _ => rfl⟩⟩
  | inr run =>
    obtain ⟨source, same, key, envelope, advances⟩ := run.advances indexed.owned
    have publishing : Publishing documents document source := ⟨member, same, key, envelope⟩
    rw [run.advanced]
    -- The links of this commit are above the old limit and within the new one.
    have start : Indexed library documents (ledger.commitSeq + 1) ledger :=
      { indexed with
        bounded := fun id record found link listed =>
          (indexed.bounded id record found link listed).trans (Nat.le_succ _) }
    have every := advances.keeps apart publishing start (Nat.le_refl _)
    refine ⟨every.1, Nat.le_succ _, ?_⟩
    intro claim record found
    obtain ⟨revised, present, extended, rests⟩ := every.2 claim record found
    exact ⟨revised, present, .inr extended, rests⟩

/-- A publication that reports a claim as retracted and does not assert it leaves a retracted
head: one already there, or one appended over the valid time of the old head. -/
theorem publish_retracts (indexed : Indexed library documents ledger.commitSeq ledger)
    (apart : ClaimIdsApart library documents) (member : document ∈ documents)
    (success : publish library ledger document = .ok (publication, next))
    (found : ledger.claims[claim]? = some record) (silent : ¬ document.asserts record.statement)
    (reported : claim ∈ publication.retractedClaims) :
    publication.commitSeq = ledger.commitSeq + 1 ∧ next.commitSeq = ledger.commitSeq + 1 ∧
      ∃ retracted, next.claims[claim]? = some retracted ∧
        retracted.head.epistemic.lifecycle = .retracted ∧
        (retracted = record ∨ Retraction document.sourceRevision.envelope
          (ledger.commitSeq + 1) record retracted) := by
  cases publish_cases success with
  | inl already =>
    rw [already.2] at reported
    cases reported
  | inr run =>
    refine ⟨run.commit, run.advanced, ?_⟩
    obtain ⟨source, start, applied, final, rebuilt, same, key, envelope, claims, keys, none_,
      proposed, withdrawn, slots, nextClaims, nextKeys, listed⟩ := run.stages
    have publishing : Publishing documents document source := ⟨member, same, key, envelope⟩
    have limit : Indexed library documents (ledger.commitSeq + 1) start.ledger :=
      ({ indexed with
        bounded := fun id record found link listed =>
          (indexed.bounded id record found link listed).trans (Nat.le_succ _) } :
        Indexed library documents (ledger.commitSeq + 1) ledger).idle claims keys
    have unasserted : ∀ {held}, held = record ∨ Retraction source.envelope
      (ledger.commitSeq + 1) record held →
          ¬ document.asserts held.statement := by
      intro held origin
      cases origin with
      | inl same => exact same ▸ silent
      | inr retraction => exact retraction.statement ▸ silent
    -- Until the conflict sets are rebuilt the claim is as it was or freshly retracted.
    have tracked := staged_induction document.assertsKey
      (fun proposal inside assertion => ⟨proposal, inside, assertion, rfl⟩) proposed withdrawn
      (fun staged => Indexed library documents (ledger.commitSeq + 1) staged.ledger ∧ ∃ held,
        staged.ledger.claims[claim]? = some held ∧
          (held = record ∨ Retraction source.envelope (ledger.commitSeq + 1) record held) ∧
          (claim ∈ staged.retractedClaims → held.head.epistemic.lifecycle = .retracted))
      ⟨limit, record, by rw [claims]; exact found, .inl rfl, by rw [none_]; intro inside; cases inside⟩
      ?_
    · obtain ⟨filed, held, present, origin, flagged⟩ := tracked
      have retracted := flagged (listed claim reported)
      have advances := rebuildSlots_advance document.assertsKey slots filed.owned
      obtain ⟨revised, rebuilt, _, rests⟩ :=
        (advances.keeps apart publishing filed (Nat.le_refl _)).2 claim held present
      rw [rests retracted (unasserted origin)] at rebuilt
      rw [← envelope]
      exact ⟨held, by rw [nextClaims]; exact rebuilt, retracted, origin⟩
    · intro before after kept step reports
      obtain ⟨filed, held, present, origin, flagged⟩ := kept
      refine ⟨step.indexed apart publishing filed (Nat.le_refl _), ?_⟩
      cases step.claim_cases apart publishing filed present with
      | inl same =>
        refine ⟨held, same, origin, ?_⟩
        intro inside
        cases reports with
        | inl unchanged =>
          rw [unchanged] at inside
          exact flagged inside
        | inr added =>
          obtain ⟨id, other, grown, listed, retracted⟩ := added
          rw [grown] at inside
          cases mem_append.mp inside with
          | inl early => exact flagged early
          | inr late =>
            cases mem_singleton.mp late
            rw [same] at listed
            cases listed
            exact retracted
      | inr changed =>
        cases changed with
        | inl updated => exact absurd updated.1 (unasserted origin)
        | inr again =>
          obtain ⟨revised, listed, retraction⟩ := again
          refine ⟨revised, listed, ?_, fun _ => retraction.retracted⟩
          cases origin with
          | inl same =>
            rw [same] at retraction
            exact .inr retraction
          | inr earlier => exact absurd earlier.retracted retraction.active

/-! ### Runs -/

structure Outlasts (limit : Nat) (before after : SourceClaimRecord) :
    Prop extends SameClaim before after where
  appended : ∃ added, after.chain = before.chain ++ added ∧
    ∀ link ∈ added, limit < link.temporal.transactionTime.start

variable {ledger : KnowledgeLedger}

/-- Any sequence of publications keeps the index and appends to every claim; a retracted one
that none of them asserts stays as it is. -/
theorem publishAll_keeps (apart : ClaimIdsApart library documents) (batch : List AdaptedDocument)
    (among : ∀ document ∈ batch, document ∈ documents)
    (indexed : Indexed library documents ledger.commitSeq ledger) :
    Indexed library documents (publishAll library ledger batch).commitSeq
      (publishAll library ledger batch) ∧
      ledger.commitSeq ≤ (publishAll library ledger batch).commitSeq ∧
        ∀ (claim : ClaimId) record, ledger.claims[claim]? = some record →
        ∃ revised, (publishAll library ledger batch).claims[claim]? = some revised ∧
          Outlasts ledger.commitSeq record revised ∧ (record.head.epistemic.lifecycle = .retracted →
            (∀ document ∈ batch, ¬ document.asserts record.statement) → revised = record) := by
  induction batch generalizing ledger with
  | nil =>
    refine ⟨indexed, Nat.le_refl _, fun claim record found => ⟨record, found, ?_, fun _ _ => rfl⟩⟩
    exact ⟨.refl record, [], (append_nil _).symm, fun link member => by cases member⟩
  | cons document rest ih =>
    have within : ∀ other ∈ rest, other ∈ documents := fun other member =>
      among other (mem_cons_of_mem _ member)
    have unfolded : publishAll library ledger (document :: rest) = publishAll library
      (match publish library ledger document with
          | .ok (_, next) => next
          | .error _ => ledger) rest := rfl
    rw [unfolded]
    cases published : publish library ledger document with
    | error error =>
      obtain ⟨filed, later, kept⟩ := ih within indexed
      refine ⟨filed, later, fun claim record found => ?_⟩
      obtain ⟨revised, present, outlasts, rests⟩ := kept claim record found
      exact ⟨revised, present, outlasts, fun retracted silent =>
        rests retracted fun other member => silent other (mem_cons_of_mem _ member)⟩
    | ok outcome =>
      obtain ⟨publication, next⟩ := outcome
      obtain ⟨midway, grown, first⟩ :=
        publish_extends indexed apart (among document mem_cons_self) published
      obtain ⟨filed, later, kept⟩ := ih within midway
      refine ⟨filed, grown.trans later, fun claim record found => ?_⟩
      obtain ⟨revised, present, extended, rests⟩ := first claim record found
      obtain ⟨further, listed, outlasts, holds⟩ := kept claim revised present
      refine ⟨further, listed, ?_, ?_⟩
      · obtain ⟨added, longer, after⟩ := outlasts.appended
        have after : ∀ link ∈ added, ledger.commitSeq < link.temporal.transactionTime.start :=
          fun link member => Nat.lt_of_le_of_lt grown (after link member)
        cases extended with
        | inl same =>
          cases same
          exact ⟨outlasts.toSameClaim, added, longer, after⟩
        | inr extended =>
          obtain ⟨here, chain, starts⟩ := extended.appended
          refine ⟨extended.toSameClaim.trans outlasts.toSameClaim, here ++ added, ?_, ?_⟩
          · rw [longer, chain, append_assoc]
          · intro link member
            cases mem_append.mp member with
            | inl early =>
              rw [starts link early]
              exact Nat.lt_succ_self _
            | inr late => exact after link late
      · intro retracted silent
        have same := rests retracted (silent document mem_cons_self)
        cases same
        exact holds retracted fun other member => silent other (mem_cons_of_mem _ member)

/-- Later publications keep what a claim states, its index entry and every revision it has; they
only append revisions that start after all earlier publications. -/
theorem publications_only_append {earlier later : List AdaptedDocument}
    (known : (publishAll library .empty earlier).claims[claim]? = some record)
    (apart : ClaimIdsApart library (earlier ++ later)) :
    (publishAll library .empty (earlier ++ later)).claimKeys[record.statement]? = some claim ∧
      ∃ revised, (publishAll library .empty (earlier ++ later)).claims[claim]? = some revised ∧
        Outlasts (publishAll library .empty earlier).commitSeq record revised := by
  have before := publishAll_keeps apart earlier (fun _ => mem_append_left _)
    (indexed_empty library _)
  obtain ⟨indexed, _, kept⟩ := publishAll_keeps apart later (fun _ => mem_append_right _) before.1
  obtain ⟨revised, found, outlasts, _⟩ := kept claim record known
  rw [publishAll, foldl_append]
  exact ⟨outlasts.statement ▸ indexed.listed claim revised found, revised, found, outlasts⟩

/-! ### Queries -/

def supportsAt (query : KnowledgeQuery) (workspace : WorkspaceId) (links : List ClaimRevision) :
    Bool :=
  ((links.filter fun link =>
    (link.temporal.transactionTime.start ≤ query.knownAt &&
      principalAllowsEnvelope query.principal workspace link.envelope) &&
      link.temporal.validTime.contains query.validAt).getLast?).any supports

theorem revisionAt_supports (query : KnowledgeQuery) (record : SourceClaimRecord) :
    (revisionAt query record).any supports =
      supportsAt query record.claim.workspaceId record.chain := by
  unfold revisionAt supportsAt SourceClaimRecord.chain
  rw [filter_map, getLast?_map, Option.any_map, Option.any_map]
  rfl

variable {workspace : WorkspaceId}

/-- Links that the snapshot does not know are not read. -/
theorem supportsAt_append_later {query : KnowledgeQuery} {links added : List ClaimRevision}
    (later : ∀ link ∈ added, query.knownAt < link.temporal.transactionTime.start) :
    supportsAt query workspace (links ++ added) = supportsAt query workspace links := by
  unfold supportsAt
  rw [filter_append]
  have unread : added.filter (fun link =>
      (link.temporal.transactionTime.start ≤ query.knownAt &&
        principalAllowsEnvelope query.principal workspace link.envelope) &&
        link.temporal.validTime.contains query.validAt) = [] := by
    refine filter_eq_nil_iff.mpr fun link member read => ?_
    simp only [Bool.and_eq_true, decide_eq_true_eq] at read
    exact absurd read.1.1 (Nat.not_le.mpr (later link member))
  rw [unread, append_nil]

/-- A retracted link silences the chain where it is read and changes nothing elsewhere. -/
theorem supportsAt_append_retracted {query : KnowledgeQuery} {links : List ClaimRevision}
    {link : ClaimRevision} (known : link.temporal.transactionTime.start ≤ query.knownAt)
    (retracted : link.epistemic.lifecycle = .retracted) :
    supportsAt query workspace (links ++ [link]) =
      (supportsAt query workspace links &&
        !(principalAllowsEnvelope query.principal workspace link.envelope &&
          link.temporal.validTime.contains query.validAt)) := by
  unfold supportsAt
  rw [filter_append]
  have unsupporting : supports link = false := by
    simp [supports, retracted]
  cases read : principalAllowsEnvelope query.principal workspace link.envelope &&
    link.temporal.validTime.contains query.validAt with
  | true =>
    rw [filter_cons_of_pos (by simpa [known] using read), filter_nil, getLast?_concat]
    simp [unsupporting]
  | false =>
    rw [filter_cons_of_neg (by simpa [known] using read), filter_nil, append_nil]
    simp

section

variable {query : KnowledgeQuery} {active : List Support} {support : Support}

theorem mem_supportGroups {group : List Support} (listed : group ∈ supportGroups library active)
    (member : support ∈ group) : support ∈ active := by
  obtain ⟨key, _, rfl⟩ := mem_map.mp listed
  exact (mem_filter.mp member).1

theorem exists_supportGroup (library : Library) (member : support ∈ active) :
    ∃ group ∈ supportGroups library active, support ∈ group := by
  refine ⟨_, mem_map.mpr ⟨objectKey library support.2.object, ?_, rfl⟩, ?_⟩
  · simpa using ⟨support.1, support.2, member, rfl⟩
  · exact mem_filter.mpr ⟨member, by simp⟩

/-- An alternative lists the claims of its group. -/
theorem alternative_claimIds {supports : List Support} {object : ClaimObject}
    {found : KnowledgeAlternative}
    (success : alternative ledger query supports object = .ok found) :
    claim ∈ found.claimIds ↔ ∃ support ∈ supports, support.1.claim.id = claim := by
  obtain ⟨_, _, success⟩ := bind_ok success
  obtain ⟨_, _, success⟩ := bind_ok success
  cases success
  simp

theorem alternatives_claimIds (claim : ClaimId) {found : List KnowledgeAlternative}
    (success : alternatives library ledger query active = .ok found) :
    (∃ answer ∈ found, claim ∈ answer.claimIds) ↔
      ∃ support ∈ active, support.1.claim.id = claim := by
  have each : ∀ group answer, groupAlternative ledger query group = .ok answer →
      (claim ∈ answer.claimIds ↔ ∃ support ∈ group, support.1.claim.id = claim) := by
    intro group answer built
    cases group with
    | nil => cases built
    | cons support rest => exact alternative_claimIds built
  constructor
  · rintro ⟨answer, listed, member⟩
    obtain ⟨group, inside, built⟩ := exists_item_of_mapM_ok success listed
    obtain ⟨support, held, same⟩ := (each group answer built).mp member
    exact ⟨support, mem_supportGroups inside held, same⟩
  · rintro ⟨support, held, same⟩
    obtain ⟨group, inside, grouped⟩ := exists_supportGroup library held
    obtain ⟨answer, listed, built⟩ := exists_value_of_mapM_ok success inside
    exact ⟨answer, listed, (each group answer built).mpr ⟨support, grouped, same⟩⟩

/-- A returned alternative lists active claims only, and with conflicts disclosed all of them
are listed. -/
theorem answerState_claims (claim : ClaimId) {state : KnowledgeAnswerState}
    (success : answerState library ledger query = .ok state) :
    ((∃ answer ∈ state.alternatives, claim ∈ answer.claimIds) →
      ∃ support ∈ activeSupports ledger query, support.1.claim.id = claim) ∧
        (query.discloseConflicts = true →
      (∃ support ∈ activeSupports ledger query, support.1.claim.id = claim) →
        ∃ answer ∈ state.alternatives, claim ∈ answer.claimIds) := by
  unfold answerState at success
  dsimp only at success
  split at success
  · next none_ =>
    cases success
    refine ⟨fun held => ?_, fun _ held => ?_⟩
    · obtain ⟨answer, listed, _⟩ := held
      cases listed
    · obtain ⟨support, member, _⟩ := held
      rw [isEmpty_iff.mp none_] at member
      cases member
  · obtain ⟨found, built, success⟩ := bind_ok success
    have listed := alternatives_claimIds claim built
    split at success
    · cases success
      exact ⟨listed.mp, fun _ => listed.mpr⟩
    · split at success
      · obtain ⟨canonical, _, success⟩ := bind_ok success
        cases success
        exact ⟨listed.mp, fun _ => listed.mpr⟩
      · next hidden =>
        cases success
        refine ⟨fun held => ?_, fun disclosed => absurd disclosed hidden⟩
        obtain ⟨answer, member, _⟩ := held
        cases member

theorem mem_activeSupports (query : KnowledgeQuery) (claim : ClaimId) (owned : Owned ledger) :
    (∃ support ∈ activeSupports ledger query, support.1.claim.id = claim) ↔
      ∃ record, ledger.claims[claim]? = some record ∧
        ((authorizedSources ledger query).contains record.sourceId &&
          matchesSlot query record) = true ∧
        (revisionAt query record).any supports = true := by
  constructor
  · rintro ⟨support, member, same⟩
    obtain ⟨record, kept, built⟩ := mem_filterMap.mp member
    obtain ⟨inside, matched⟩ := mem_filter.mp kept
    obtain ⟨key, found⟩ := mem_inOrder.mp inside
    obtain ⟨revision, chosen, rfl⟩ := Option.map_eq_some_iff.mp built
    obtain ⟨selected, supports⟩ := Option.filter_eq_some_iff.mp chosen
    have key_eq : key = claim := (owned key record found).symm.trans same
    rw [key_eq] at found
    refine ⟨record, found, matched, ?_⟩
    rw [selected]
    exact supports
  · rintro ⟨record, found, matched, supports⟩
    cases selected : revisionAt query record with
    | none =>
      rw [selected] at supports
      cases supports
    | some revision =>
      rw [selected] at supports
      have holds : ClaimRevision.supports revision = true := supports
      refine ⟨(record, revision), List.mem_filterMap.mpr ⟨record, ?_, ?_⟩, owned claim record found⟩
      · exact mem_filter.mpr ⟨mem_inOrder.mpr ⟨claim, found⟩, matched⟩
      · rw [selected, Option.filter_some_pos holds]
        rfl

end

/-! ### Retracted knowledge -/

/-- Whether a retraction published with the document is read by the query: it was not retracted
already, the valid time of its head contains the instant, and the principal may read what the
document publishes. -/
def retractionRead (query : KnowledgeQuery) (document : SourceRevision)
    (record : SourceClaimRecord) : Bool :=
  record.head.epistemic.lifecycle != .retracted &&
    (principalAllowsEnvelope query.principal record.claim.workspaceId document.envelope &&
      record.head.temporal.validTime.contains query.validAt)

theorem matchesSlot_of_supports {query : KnowledgeQuery}
    (supports : (revisionAt query record).any supports = true)
    (subject : record.subjectKey = query.subjectKey)
    (predicate : record.predicateKey = query.predicateKey) : matchesSlot query record = true := by
  have read : record.revisions.toList.any (fun entry => readable query record entry.1) = true := by
    cases selected : revisionAt query record with
    | none =>
      rw [selected] at supports
      cases supports
    | some revision =>
      obtain ⟨entry, last, _⟩ := Option.map_eq_some_iff.mp selected
      obtain ⟨inside, kept⟩ := mem_filter.mp (mem_of_getLast? last)
      simp only [Bool.and_eq_true] at kept
      exact any_eq_true.mpr ⟨entry, inside, kept.1⟩
  simp [matchesSlot, read, subject, predicate]

/-- The support of a retracted claim is what it had before where the retraction is not read. -/
theorem retracted_supports (query : KnowledgeQuery) {document : SourceRevision} {commit : Nat}
    {record retracted : SourceClaimRecord} (origin : retracted = record ∨
      Retraction document.envelope commit record retracted)
    (already : retracted = record → record.head.epistemic.lifecycle = .retracted)
    (known : commit ≤ query.knownAt) :
    (revisionAt query retracted).any supports = ((revisionAt query record).any supports &&
      !retractionRead query document record) := by
  cases origin with
  | inl same =>
    have inactive := already same
    cases same
    simp [retractionRead, inactive]
  | inr retraction =>
    obtain ⟨link, chain, starts, valid, lifecycle, access⟩ := retraction.appended
    rw [revisionAt_supports, revisionAt_supports, chain, retraction.claim,
      supportsAt_append_retracted (starts.trans_le known) lifecycle]
    have allowed : principalAllowsEnvelope query.principal record.claim.workspaceId
        link.envelope = principalAllowsEnvelope query.principal record.claim.workspaceId document.envelope := by
      unfold principalAllowsEnvelope
      rw [access]
    have active : (record.head.epistemic.lifecycle != .retracted) = true :=
      bne_iff_ne.mpr retraction.active
    rw [allowed, valid, retractionRead, active, Bool.true_and]

/-- After a publication retracts a claim and until a publication asserts its statement again,
an answer lists the claim only where the claim supported it before and the retraction is not
read; there every answer that discloses conflicts lists it. -/
theorem retraction_silences_claim {library : Library}
    {earlier between later : List AdaptedDocument} {document : AdaptedDocument}
    {publication : KnowledgePublication} {retracted : KnowledgeLedger} {claim : ClaimId}
    {record : SourceClaimRecord} {question : KnowledgeQuery} {result : KnowledgeQueryResult}
    (apart : ClaimIdsApart library (earlier ++ document :: (between ++ later)))
    (known : (publishAll library .empty earlier).claims[claim]? = some record)
    (published : publish library (publishAll library .empty earlier) document = .ok
      (publication, retracted))
    (reported : claim ∈ publication.retractedClaims)
    (silent : ∀ other ∈ document :: between, ¬ other.asserts record.statement)
    (since : publication.commitSeq ≤ question.knownAt)
    (bound : question.knownAt ≤ (publishAll library retracted between).commitSeq)
    (answered : query library (publishAll library (publishAll library retracted between) later)
      question = .ok result) : ((∃ answer ∈ result.state.alternatives, claim ∈ answer.claimIds) →
      (revisionAt question record).any supports = true ∧
        retractionRead question document.sourceRevision record = false) ∧
    (question.discloseConflicts = true → record.subjectKey = question.subjectKey →
      record.predicateKey = question.predicateKey →
      (authorizedSources (publishAll library (publishAll library retracted between) later)
        question).contains record.sourceId = true → (revisionAt question record).any supports =
          true →
      retractionRead question document.sourceRevision record = false →
      ∃ answer ∈ result.state.alternatives, claim ∈ answer.claimIds) := by
  have before := publishAll_keeps apart earlier (fun other member => mem_append_left _ member)
    (indexed_empty library _)
  have listed : document ∈ earlier ++ document :: (between ++ later) := by simp
  obtain ⟨indexed, _, _⟩ := publish_extends before.1 apart listed published
  obtain ⟨commit, advanced, held, present, inactive, origin⟩ := publish_retracts before.1 apart
    listed published known (silent document mem_cons_self) reported
  rw [commit] at since
  have already : held = record → record.head.epistemic.lifecycle = .retracted := fun same =>
    same ▸ inactive
  have supports := retracted_supports question origin already since
  have same : SameClaim record held := by
    cases origin with
    | inl same => exact same ▸ .refl record
    | inr retraction => exact retraction.toSameClaim
  -- Nothing asserts the statement up to the snapshot, and what comes later it does not know.
  obtain ⟨middle, _, kept⟩ := publishAll_keeps apart between (fun other member => by simp [member])
    indexed
  obtain ⟨rested, present, _, rests⟩ := kept claim held present
  have unchanged : rested = held := by
    refine rests inactive fun other member => ?_
    rw [same.statement]
    exact silent other (mem_cons_of_mem _ member)
  cases unchanged
  obtain ⟨final, _, kept⟩ := publishAll_keeps apart later (fun other member => by simp [member])
    middle
  obtain ⟨current, present, outlasts, _⟩ := kept claim _ present
  obtain ⟨added, chain, after⟩ := outlasts.appended
  have support : (revisionAt question current).any ClaimRevision.supports =
      ((revisionAt question record).any ClaimRevision.supports &&
        !retractionRead question document.sourceRevision record) := by
    rw [← supports, revisionAt_supports, revisionAt_supports, outlasts.claim, chain]
    exact supportsAt_append_later fun link member => Nat.lt_of_le_of_lt bound (after link member)
  have answered := rest_ok answered
  have answered := rest_ok answered
  obtain ⟨_, _, answered⟩ := bind_ok answered
  obtain ⟨state, stated, answered⟩ := bind_ok answered
  cases answered
  have listedClaims := answerState_claims claim stated
  have active := mem_activeSupports question claim final.owned
  constructor
  · intro answers
    obtain ⟨other, found, _, supported⟩ := active.mp (listedClaims.1 answers)
    rw [present] at found
    cases found
    rw [support] at supported
    simpa using supported
  · intro disclosed subject predicate authorized supported unread
    have holds : (revisionAt question current).any ClaimRevision.supports = true := by
      rw [support, supported, unread]
      rfl
    refine listedClaims.2 disclosed (active.mpr ⟨current, present, ?_, holds⟩)
    have source : current.sourceId = record.sourceId := outlasts.sourceId.trans same.sourceId
    rw [source, authorized, Bool.true_and]
    exact matchesSlot_of_supports holds ((outlasts.subjectKey.trans same.subjectKey).trans subject)
      ((outlasts.predicateKey.trans same.predicateKey).trans predicate)

/-! ### A withdrawn statement that still answers -/

def deskScope : ScopeRef := ⟨.project, .numbered 5, .exact⟩

/-- Everyone may retrieve the notes for knowledge recall. -/
def deskEnvelope : SemanticEnvelope where
  scopes := ⟨[deskScope], cons_ne_nil _ _⟩
  perspective := ⟨.numbered 6, none, .numbered 3, .asserter⟩
  ownership :=
    { owners := ⟨[.numbered 6], cons_ne_nil _ _⟩
      audienceGrants := [⟨.public, {Purpose.knowledgeRecall}, {AccessCapability.retrieve}⟩]
      allowedPurposes := {Purpose.knowledgeRecall}, modification := ⟨true, false, true⟩ }
  consent := ⟨false, []⟩
  usePolicy := ⟨.allow, .allow, .allow, .deny, .session⟩
  security := ⟨.internal, ∅, ∅, false⟩
  derivation := ⟨.numbered 7, .import, none, none, ⟨"desk", "1", "1"⟩, []⟩

def deskRevision (kind : DocumentRevisionKind) (native : String) (parent : Option String)
    (statementKey content : String) (action : DocumentStatementAction) : DocumentRevisionInput where
  workspaceId := .numbered 1
  memorySpaceId := .numbered 2
  actorId := .numbered 3
  corpusKey := "desk"
  sourceKey := "notes"
  sourceFamily := "notes"
  nativeLocator := "notes"
  nativeRevision := native
  supersedesNativeRevision := parent
  title := "Notes"
  format := .plainText
  revisionKind := kind
  createdAt := none
  effectiveAt := 0
  observedAt := 0
  recordedAt := 0
  trust := .verified
  ingestionPolicy := .numbered 4
  expectedContentHash := none
  envelope := deskEnvelope
  sections := [⟨["body"], content, [⟨statementKey, "gate", "Gate", "state", content, action⟩]⟩]

def deskOpen : DocumentRevisionInput :=
  deskRevision .upsert "r1" none "gate" "open" (.assert (.string "open") ⟨0, none⟩ .sourceAssertion)

def deskShut : DocumentRevisionInput :=
  deskRevision .upsert "r2" (some "r1") "gate" "shut" (.assert (.string "shut")
    ⟨100, none⟩ .sourceAssertion)

def deskWithdrawn : DocumentRevisionInput :=
  deskRevision .retractDocument "r3" (some "r2") "withdraw" "void"
    (.retract ⟨"notes", "gate"⟩ "withdrawn")

def deskPrincipal : RecallPrincipal where
  subject := "reader"
  audiences := ∅
  workspace := (.numbered 1 : WorkspaceId).display
  scopes := .ofList [(.numbered 5 : ScopeId).display]
  purpose := "knowledge_recall"
  clearance := .internal

def deskQuery : KnowledgeQuery where
  subjectKey := "gate"
  predicateKey := "state"
  validAt := 50
  knownAt := 3
  source := .anyAuthorized
  includeHistory := false
  discloseConflicts := true
  includeExcerpts := false
  principal := deskPrincipal

def revisionText (kind : String) (id : String) (revision : RevisionNumber) : String :=
  "\x7b\"kind\":\"" ++ kind ++ "\",\"id\":\"" ++ id ++ "\",\"revision\":" ++
    toString revision.value ++ "\x7d"

def deskFingerprint (bytes : List UInt8) : Nat :=
  bytes.foldl (fun sum byte => (sum * 257 + byte.toNat + 1) % 0x1fffffffffffffff) 0

/-- BLAKE3 of every input hashed while the three revisions are adapted, published and
queried. -/
def deskDigests : List (Nat × Nat) :=
  [(0x73a5, 0x5966598b377ee4e39c81bb5c2496b1b33494d9dd089b72b8c4e350f51d95995c),
    (0x811a8d2ead91fdc, 0x8b750dbf3a3f690601759b36c874f11d28e3f68317c8b8e635661249e90c2da4),
    (0x6e1f636b8b68d6f, 0x1487492a82c79dd64adda1522967fb65017c647ff2b136e03e8d7e7d158e6b27),
    (0x7d2a723b98d2d8a, 0x8f3eb455d62fb8560a9ce1510eb7e0d69b8efa71b0b384dd2fd4bc05ec36739e),
    (0x1ae7798ec2a99288, 0x9f1daafdedc2d830f432f9290e6748209f618cd2ad8a28609bb13792b5aac222),
    (0x1917dc945963ebc9, 0x95c08eda5160f374c26b28611fbad67062299ccf424bef755777eb9421719669),
    (0xcbe661dbeddf44b, 0xa7c8c98d69b08b04672bbc898f3cbae9b7ad62b234d581f77ad6bd90b321fca6),
    (0x488def4846a4442, 0x2886ef724b981786b31bc1818f7fa00f1684af31fcc58bf6e512495d615e91d0),
    (0x71c399b6, 0xa1a614136bd7aa340fee5a62b4591b257b9ae400ed8fc673456b0029e9a5d8c3),
    (0x607bab426a08124, 0x180d85a1e1e5ff93318f51c3861514a834185bf943ed901b1cc71b3ed5c50488),
    (0x4ed5ab1f54a307f, 0xb136ce0980d0a246ee12cede15da067c91291984990bc5ec6636254073596a1c),
    (0x10771e4b1216b394, 0x7ecc1846a8ccb672a994cab25dafad590b2606d7f36d0e6af1b8c5badc34500f),
    (0x1ee82830c6622682, 0xdbca86e9edfe84c1c266846b9c03a93ab534e2bbe04dd79dc8a0fbc4e58a7b62),
    (0xa23ef968654f386, 0x7f319422f5b09c0f8c19256811d815da41ff79b2c82f7231db7ef7b30565fca2),
    (0x73a6, 0x4ada45911158a94766c4c59466d11516490433c4d7501e569581fd9823524e20),
    (0x6e1f636b8b68d70, 0x956113bbce32e15e8c66bb5ee69a40dcf8ccfabb48f91bfb950ccc6d526fde4b),
    (0x1221b2f410909374, 0xc2960fd087119976dcefb63dd65b1813425b0800c087753702babdfa4c194e4c),
    (0x1ae7798ec6ad9e9a, 0x1c345d979e1ccc63aa45e19e9888400277154b43cccd932f55ca7b4a43f375a2),
    (0x488def4846a4443, 0xfbd322d8cb7cb0498545ec4695e296bd7b411a6c7b0f87a9e028bd1cdbffa16c),
    (0x75c7a5c8, 0x42f2ef729a43d8242d85d77ee7d5d088a96019dec4b34cbfc301be8f895897a7),
    (0x58df4a7af71037a, 0xcdf6b47da2478acd5e884615187b7a969c85d6b95080a04519bcb0e7166c5813),
    (0x4ed5ab1f54b3280, 0xa714b88ca5c51debcf3044a687f070beba2c41cee0db8193d18f1bd7ce662856),
    (0xffd583e9ae735ea, 0xbc0248b1cd33ec63764bb0e78386660ad9ca09aaa40c0cafa4ee63229e6daed6),
    (0x1cf0bc35c35ef2ae, 0x5219ede5c98e733b537d9d36668ead7cc1cd73e4a6f4d8fb89b28b4e36751329),
    (0x73a7, 0xa41f206342cb8267d9dfb7d55116fad968d38aa10713ad949b7d7260e1994630),
    (0x6e1f636b8b68d71, 0x63a0329c6875f8aa1563f36bdf0bbba9e35e091736998f97a4efc0e90115ba35),
    (0x1db9dfbb503c6b88, 0xfd70c85bc109ee901956ebe0ba0cde5982a399f8bb091b38986f2d996bcbe8d2),
    (0x1ae7798ec9bda988, 0xda988ab5c44f34a1f4c4a86e428bca0ca61902672cfffb5617c5994798f5de5c),
    (0x488def4846a4444, 0x923f4556b97ff479db33ea328b799ed220a780ddeeed69e196b67919c035e9f1),
    (0x78d7b0b6, 0x42e1e2638b279336d3fbae387251d867f9420b835671e84c5f5965c9087cf98c),
    (0x1918106cc2d2548, 0xbb730d10f4091f3ee3263abbcfd5f4898f8ff2187b70479fc4cc04c78ebd2575),
    (0x4ed5ab1f54c3481, 0xf0a71eb06a2bcf382c10aaf3a58bdd5709168a50f873263c587074da9b5dadbf),
    (0xab1f22eb9caffd7, 0x93d7c47f6be058419b711cc1d0e6681db444181c209b76f153ce98628a45df8a),
    (0x1f6fb9b628e25049, 0x03d446c3a1e46bb8f35804a483d282af5e3f64faa79f317685e43a373d1f894b),
    (0x304bc88f0dd795d, 0x40d1c8fc14ce32a99dd809995cbbdb88638a554f618fab84cd6b9d052117e444),
    (0x1dabfb46f05e6add, 0x039eb2a8c3c5f3e9277b308d95ddb68002e1dcc3c2959aa061ca7b77b9516f1b),
    (0x1750944076417a0f, 0x758ef792b0129de5b6f4663f81b6636cded76bdcd4046a3afedb5735faa6c21d),
    (0xb80f86d2b113a10, 0x4d8f9733866e08290838108567bc8d1fba93d8410745bce36061bd7ac7ca0681),
    (0x98961bbdb4310f2, 0xf6b20117ff9df430c86ef113c0e64157b44c0098d7c81acbe2b58cce2e88cf0f),
    (0x14cd26f57b050dc, 0x5cb1188ee0384cbf85a87f7f15d5ed91288b2e24c880d54315e1597051cf86b8),
    (0x7cfa, 0x6e46dd10defc9b56c29a6ec56b508c21f54c08192194e4df25bf36f0c9c3c279),
    (0x1ae43d6be8fa88b0, 0x87b20eccf4567accc49e0331f88bbac44bad3b9d1870bb97b603e2886ba1abba),
    (0x1afba26a9852c457, 0x7ffdd70ab5c6d2e35045ba263edea570b60b90c5a3ebb56c809aeb97e0eb4b7e),
    (0xfaf8ee13ed1acbc, 0xa8b1e2779e90c3cbfa925bcc6cb3d690510a244f3761d8335c60e68b11b9f9b4),
    (0xca7bb66e3e254ee, 0xfec48c44cd4d823262fa5da6e7961473593a621dd83fe622a81a99537811cca2)]

/-- The hash function and the serializer on the desk's inputs. Document and policy texts, which
are only hashed, are abbreviated. -/
def deskLibrary : Library where
  blake3 bytes := BitVec.ofNat 256 ((deskDigests.find? (·.1 == deskFingerprint bytes)).elim 0 (·.2))
  encodeInput input := .ok (textBytes input.nativeRevision)
  encodeLineage
    | .nodeRevision id revision => .ok (revisionText "node_revision" id.display revision)
    | .claimRevision id revision => .ok (revisionText "claim_revision" id.display revision)
    | _ => .error "no other lineage is hashed here"
  encodePolicy _ := .ok (textBytes "\x7b\x7d")
  encodeObject
    | .string value => .ok ("\x7b\"type\":\"string\",\"value\":\"" ++ value ++ "\"\x7d")
    | _ => .error "no other object is stated here"
  packageVersion := "0.2.0-alpha.3"

instance (document : AdaptedDocument) (statement : SourceStatementRef) :
    Decidable (document.asserts statement) :=
  inferInstanceAs (Decidable (_ = _ ∧ ∃ proposal ∈ document.proposals, _ = _ ∧ _ = _))

instance (library : Library) (documents : List AdaptedDocument) :
    Decidable (ClaimIdsApart library documents) :=
  inferInstanceAs (Decidable (∀ left ∈ documents, ∀ right ∈ documents, ∀ first ∈ left.proposals,
    ∀ second ∈ right.proposals, _ = _ → _ = _ ∧ _ = _))

/-- The three revisions published in order, and what is answered about the instants before and
after the second statement took effect. -/
structure DeskRun where
  (first second third : AdaptedDocument)
  publication : KnowledgePublication
  ledger : KnowledgeLedger
  (early late : KnowledgeQueryResult)

def deskLateQuery : KnowledgeQuery := { deskQuery with validAt := 150 }

def deskRun : Result DeskRun := do
  let first ← adapt deskLibrary .default deskOpen
  let second ← adapt deskLibrary .default deskShut
  let third ← adapt deskLibrary .default deskWithdrawn
  let (publication, ledger) ← publish deskLibrary (publishAll deskLibrary .empty
    [first, second]) third
  let early ← query deskLibrary ledger deskQuery
  let late ← query deskLibrary ledger deskLateQuery
  pure ⟨first, second, third, publication, ledger, early, late⟩

def DeskRun.retracted (run : DeskRun) (claim : ClaimId) (record : SourceClaimRecord) : Bool :=
  decide (ClaimIdsApart deskLibrary [run.first, run.second, run.third]) &&
    decide (¬ run.third.asserts record.statement) &&
      retractionRead deskLateQuery run.third.sourceRevision record &&
    run.early.state.alternatives.any (·.claimIds.contains claim) &&
    decide (run.publication.commitSeq = 3) && decide (run.ledger.commitSeq = 3)

theorem deskRun_yields : yields deskRun (fun run => run.publication.retractedClaims.any fun claim =>
    ((publishAll deskLibrary .empty [run.first, run.second]).claims[claim]?).any
    (run.retracted claim)) = true := by
  decide +kernel

structure DeskFacts (run : DeskRun) (claim : ClaimId) (record : SourceClaimRecord) : Prop where
  first : adapt deskLibrary .default deskOpen = .ok run.first
  second : adapt deskLibrary .default deskShut = .ok run.second
  third : adapt deskLibrary .default deskWithdrawn = .ok run.third
  published : publish deskLibrary (publishAll deskLibrary .empty
    [run.first, run.second]) run.third =
    .ok (run.publication, run.ledger)
  early : query deskLibrary run.ledger deskQuery = .ok run.early
  late : query deskLibrary run.ledger deskLateQuery = .ok run.late
  reported : claim ∈ run.publication.retractedClaims
  known : (publishAll deskLibrary .empty [run.first, run.second]).claims[claim]? = some record
  retracted : run.retracted claim record = true

theorem desk_facts : ∃ run claim record, DeskFacts run claim record := by
  obtain ⟨run, success, test⟩ := yields_iff.mp deskRun_yields
  obtain ⟨claim, reported, test⟩ := any_eq_true.mp test
  obtain ⟨record, known, retracted⟩ := (Option.any_eq_true _ _).mp test
  refine ⟨run, claim, record, ?_⟩
  obtain ⟨first, adapted, success⟩ := bind_ok success
  obtain ⟨second, revised, success⟩ := bind_ok success
  obtain ⟨third, withdrawn, success⟩ := bind_ok success
  obtain ⟨⟨publication, ledger⟩, published, success⟩ := bind_ok success
  obtain ⟨early, before, success⟩ := bind_ok success
  obtain ⟨late, after, success⟩ := bind_ok success
  cases success
  exact ⟨adapted, revised, withdrawn, published, before, after, reported, known, retracted⟩

theorem desk_publications_append : ∃ (run : DeskRun) (claim : ClaimId)
    (record revised : SourceClaimRecord),
      (publishAll deskLibrary .empty [run.first, run.second,
        run.third]).claims[claim]? = some revised ∧
      Outlasts (publishAll deskLibrary .empty [run.first,
        run.second]).commitSeq record revised := by
  obtain ⟨run, claim, record, facts⟩ := desk_facts
  have retracted := facts.retracted
  simp only [DeskRun.retracted, Bool.and_eq_true, decide_eq_true_eq] at retracted
  obtain ⟨_, revised, appended⟩ := publications_only_append facts.known retracted.1.1.1.1.1
  exact ⟨run, claim, record, revised, appended⟩

/-- The whole document is withdrawn, yet the instant that only its first revision covers is
still answered with the retracted claim. -/
theorem withdrawn_statement_answers : ∃ (first second third : AdaptedDocument)
    (publication : KnowledgePublication)
      (ledger : KnowledgeLedger) (result : KnowledgeQueryResult) (claim : ClaimId),
      adapt deskLibrary .default deskOpen = .ok first ∧ adapt deskLibrary .default deskShut =
        .ok second ∧
      adapt deskLibrary .default deskWithdrawn = .ok third ∧
      publish deskLibrary (publishAll deskLibrary .empty [first, second]) third = .ok
        (publication, ledger) ∧
      claim ∈ publication.retractedClaims ∧ publication.commitSeq = deskQuery.knownAt ∧
      query deskLibrary ledger deskQuery = .ok result ∧
      ∃ answer ∈ result.state.alternatives, claim ∈ answer.claimIds := by
  obtain ⟨run, claim, record, facts⟩ := desk_facts
  have retracted := facts.retracted
  simp only [DeskRun.retracted, Bool.and_eq_true, decide_eq_true_eq, any_eq_true] at retracted
  obtain ⟨⟨⟨_, answer, listed, member⟩, commit⟩, _⟩ := retracted
  exact ⟨run.first, run.second, run.third, run.publication, run.ledger, run.early, claim,
    facts.first, facts.second, facts.third, facts.published, facts.reported, commit, facts.early,
    answer, listed, member⟩

/-- At an instant of the last statement the same run answers without the claim. -/
theorem retraction_silences_claim_desk : ∃ (run : DeskRun)
    (claim : ClaimId), claim ∈ run.publication.retractedClaims ∧
      query deskLibrary run.ledger deskLateQuery = .ok run.late ∧
      ¬ ∃ answer ∈ run.late.state.alternatives, claim ∈ answer.claimIds := by
  obtain ⟨run, claim, record, facts⟩ := desk_facts
  have retracted := facts.retracted
  simp only [DeskRun.retracted, Bool.and_eq_true, decide_eq_true_eq] at retracted
  obtain ⟨⟨⟨⟨⟨apart, unasserted⟩, read⟩, _⟩, commit⟩, head⟩ := retracted
  refine ⟨run, claim, facts.reported, facts.late, fun answers => ?_⟩
  have silenced := @retraction_silences_claim deskLibrary [run.first, run.second] [] [] run.third
    run.publication run.ledger claim record deskLateQuery run.late apart facts.known
    facts.published facts.reported ?_ ?_ ?_ facts.late
  · rw [read] at silenced
    cases (silenced.1 answers).2
  · intro other member
    rw [mem_singleton.mp member]
    exact unasserted
  · rw [commit]
    exact Nat.le_refl _
  · exact Nat.le_of_eq head.symm

end ContextDb.Knowledge
