import ContextDb.Knowledge.Query

/-! What one publication can do to the claims of the ledger. Every operation is a sequence of
few kinds of steps: an update of an asserted statement, a new claim, a retraction, a conflict
mark, or no change. Closing a head and marking it in place alter neither what a revision says
nor when and for whom it holds, so revision chains are compared without these fields. -/

set_option autoImplicit false

namespace ContextDb.Knowledge

open Std Lib ContextDb.Core Recall SourceClaimRecord ClaimRevision NonEmptyVec List

/-! ### Revision chains -/

def ClaimRevision.core (revision : ClaimRevision) : ClaimRevision :=
  { revision with
    temporal := { revision.temporal with
      transactionTime := { revision.temporal.transactionTime with finish := none } }
    epistemic := { revision.epistemic with conflict := .none } }

variable (record : SourceClaimRecord)

def SourceClaimRecord.chain : List ClaimRevision :=
  record.revisions.toList.map fun entry => core entry.1

def SourceClaimRecord.statement : SourceStatementRef :=
  ⟨record.sourceKey, record.statementKey⟩

structure SameClaim (before after : SourceClaimRecord) : Prop where
  claim : after.claim = before.claim
  sourceId : after.sourceId = before.sourceId
  statement : after.statement = before.statement
  subjectKey : after.subjectKey = before.subjectKey
  predicateKey : after.predicateKey = before.predicateKey

structure Extends (commit : Nat) (before after : SourceClaimRecord) :
    Prop extends SameClaim before after where
  appended : ∃ added, after.chain = before.chain ++ added ∧
    ∀ revision ∈ added, revision.temporal.transactionTime.start = commit

theorem SameClaim.refl : SameClaim record record :=
  ⟨rfl, rfl, rfl, rfl, rfl⟩

theorem SameClaim.trans {first second third : SourceClaimRecord} (left : SameClaim first second)
    (right : SameClaim second third) : SameClaim first third :=
  ⟨right.claim.trans left.claim, right.sourceId.trans left.sourceId,
    right.statement.trans left.statement, right.subjectKey.trans left.subjectKey, right.predicateKey.trans left.predicateKey⟩

theorem getLast?_chain : record.chain.getLast? = some (core record.head) := by
  unfold SourceClaimRecord.chain SourceClaimRecord.head NonEmptyVec.last
  rw [List.getLast?_map, List.getLast?_eq_some_getLast record.revisions.nonEmpty]
  rfl

variable {record : SourceClaimRecord}

theorem head_lifecycle {links : List ClaimRevision} {last : ClaimRevision}
    (chain : record.chain = links ++ [last]) :
    record.head.epistemic.lifecycle = last.epistemic.lifecycle := by
  have found := getLast?_chain record
  rw [chain, getLast?_concat] at found
  rw [Option.some.inj found]
  rfl

theorem chain_append (record : SourceClaimRecord) (revision : ClaimRevision)
    (reason : SourceClaimRevisionReason) :
    (record.append revision reason).chain = record.chain ++ [core revision] := by
  simp [chain, append, push]

theorem chain_mapLast (record : SourceClaimRecord)
    (change : ClaimRevision × SourceClaimRevisionReason → ClaimRevision × SourceClaimRevisionReason)
    (kept : ∀ entry, core (change entry).1 = core entry.1) :
    ({ record with revisions := record.revisions.mapLast change } : SourceClaimRecord).chain =
      record.chain := by
  have split := dropLast_append_getLast record.revisions.nonEmpty
  unfold chain
  conv_rhs => rw [← split]
  simp [mapLast, last, kept]

variable {closed before after : SourceClaimRecord} {commit : Nat}

/-- Closing the head's transaction time leaves the chain as it is, for the chain leaves out where
a revision ends. -/
theorem closeTransactionHead_ok (success : closeTransactionHead record commit = .ok closed) :
    SameClaim record closed ∧ closed.chain = record.chain := by
  have success := rest_ok success
  cases success
  refine ⟨⟨rfl, rfl, rfl, rfl, rfl⟩, ?_⟩
  exact chain_mapLast record _ fun _ => rfl

/-- Closing a head and appending a revision of the same commit extends the claim. -/
theorem extends_append (success : closeTransactionHead record commit = .ok closed)
    (revision : ClaimRevision)
    (starts : revision.temporal.transactionTime.start = commit)
    (reason : SourceClaimRevisionReason) : Extends commit record
    (closed.append revision reason) := by
  obtain ⟨same, chain⟩ := closeTransactionHead_ok success
  refine ⟨same.trans ⟨rfl, rfl, rfl, rfl, rfl⟩, [core revision], ?_, ?_⟩
  · rw [chain_append, chain]
  · intro other member
    rw [mem_singleton.mp member]
    exact starts

/-! ### Steps -/

/-- The access rule of a claim reads the policy of its envelope and not its provenance. -/
theorem accessRule_derived {library : Library} {source envelope : SemanticEnvelope}
    {target : LineageNode} {inputs : List LineageNode} {stage : String} (workspace : WorkspaceId)
    (success : derivedEnvelope library source target inputs stage = .ok envelope) :
    accessRule workspace envelope = accessRule workspace source := by
  obtain ⟨_, _, success⟩ := bind_ok success
  have success := rest_ok success
  have success := rest_ok success
  cases success
  rfl

/-- A retraction adds one link, over the valid time of the head and under the policy of the
retracting document. -/
structure Retraction (policy : SemanticEnvelope) (commit : Nat)
    (before after : SourceClaimRecord) : Prop extends SameClaim before after where
  active : before.head.epistemic.lifecycle ≠ .retracted
  appended : ∃ link : ClaimRevision, after.chain = before.chain ++ [link] ∧
    link.temporal.transactionTime.start = commit ∧ link.temporal.validTime =
      before.head.temporal.validTime ∧
    link.epistemic.lifecycle = .retracted ∧
    ∀ workspace, accessRule workspace link.envelope = accessRule workspace policy

variable {policy : SemanticEnvelope}

theorem retraction_append (success : closeTransactionHead record commit = .ok closed)
    (active : record.head.epistemic.lifecycle ≠ .retracted) (revision : ClaimRevision)
    (starts : revision.temporal.transactionTime.start = commit)
    (valid : revision.temporal.validTime = record.head.temporal.validTime)
    (lifecycle : revision.epistemic.lifecycle = .retracted)
    (access : ∀ workspace, accessRule workspace revision.envelope = accessRule workspace policy)
    (reason : SourceClaimRevisionReason) : Retraction policy commit record
    (closed.append revision reason) := by
  obtain ⟨same, chain⟩ := closeTransactionHead_ok success
  refine ⟨same.trans ⟨rfl, rfl, rfl, rfl, rfl⟩, active, core revision, ?_, starts, valid, lifecycle,
    access⟩
  rw [chain_append, chain]

theorem Retraction.extends (retraction : Retraction policy commit before after) :
    Extends commit before after := by
  obtain ⟨link, chain, starts, _⟩ := retraction.appended
  refine ⟨retraction.toSameClaim, [link], chain, ?_⟩
  intro other member
  rw [mem_singleton.mp member]
  exact starts

theorem Retraction.retracted (retraction : Retraction policy commit before after) :
    after.head.epistemic.lifecycle = .retracted := by
  obtain ⟨link, chain, _, _, lifecycle, _⟩ := retraction.appended
  rw [head_lifecycle chain, lifecycle]

/-- What applying one proposal, or retracting one claim of a withdrawn document, does to the
claims. -/
inductive Staging (library : Library) (source : SourceRevision) (commit : Nat)
    (asserted : String → Prop) (before after : KnowledgeLedger) : Prop
  | idle (claims : after.claims = before.claims) (keys : after.claimKeys = before.claimKeys)
  | update {key : String} {id : ClaimId} {record revised : SourceClaimRecord}
    (assertion : asserted key)
      (known : before.claimKeys[(⟨source.sourceKey, key⟩ : SourceStatementRef)]? = some id)
      (found : before.claims[id]? = some record) (extended : Extends commit record revised)
      (claims : after.claims = before.claims.insert id revised)
      (keys : after.claimKeys = before.claimKeys)
  | create {key : String} {record : SourceClaimRecord} (assertion : asserted key)
      (fresh : before.claimKeys[(⟨source.sourceKey, key⟩ : SourceStatementRef)]? = none)
      (statement : record.statement = ⟨source.sourceKey, key⟩)
      (named : record.claim.id = claimIdOf library source.source.id key)
      (starts : ∀ link ∈ record.chain, link.temporal.transactionTime.start = commit)
      (claims : after.claims = before.claims.insert record.claim.id record)
      (keys : after.claimKeys = before.claimKeys.insert ⟨source.sourceKey, key⟩ record.claim.id)
  | retract {id : ClaimId} {record revised : SourceClaimRecord}
    (found : before.claims[id]? = some record)
      (retraction : Retraction source.envelope commit record revised)
      (claims : after.claims = before.claims.insert id revised)
      (keys : after.claimKeys = before.claimKeys)

/-- What a publication does to the claims: the staged proposals, then the marks of the rebuilt
conflict sets, which no retracted head receives. -/
inductive Advance (library : Library) (source : SourceRevision) (commit : Nat)
    (asserted : String → Prop) (before after : KnowledgeLedger) : Prop
  | staging (step : Staging library source commit asserted before after)
  | mark {id : ClaimId} {record revised : SourceClaimRecord}
    (found : before.claims[id]? = some record)
      (active : record.head.epistemic.lifecycle ≠ .retracted)
      (extended : Extends commit record revised)
      (claims : after.claims = before.claims.insert id revised)
      (keys : after.claimKeys = before.claimKeys)

abbrev Advances (library : Library) (source : SourceRevision) (commit : Nat)
    (asserted : String → Prop) : KnowledgeLedger → KnowledgeLedger → Prop :=
  Relation.ReflTransGen (Advance library source commit asserted)

def Owned (ledger : KnowledgeLedger) : Prop :=
  ∀ (id : ClaimId) record, ledger.claims[id]? = some record → record.claim.id = id

variable {library : Library} {source : SourceRevision} {asserted : String → Prop}

theorem requireSome_ok {Value : Type} {found : Option Value} {error : KnowledgeError}
    {value : Value} (success : requireSome found error = .ok value) : found = some value := by
  cases found with
  | none => cases success
  | some held =>
    cases success
    rfl

variable {ledger : KnowledgeLedger}
variable {id : ClaimId}

theorem findClaim_ok {field reason : String} (success : findClaim ledger id field reason =
    .ok record) : ledger.claims[id]? = some record :=
  requireSome_ok success

variable {evidenceId : EvidenceId} {step : Step} {key : String} {next : Step}

theorem ensureSubject_ok {label : String} {subject : NodeId}
    (success : ensureSubject library source key label evidenceId commit step = .ok
      (subject, next)) :
    next.1.claims = step.1.claims ∧ next.1.claimKeys = step.1.claimKeys := by
  unfold ensureSubject at success
  dsimp only at success
  split at success
  · cases success
    exact ⟨rfl, rfl⟩
  · obtain ⟨_, _, success⟩ := bind_ok success
    have success := rest_ok success
    have success := rest_ok success
    cases success
    exact ⟨rfl, rfl⟩

variable {object : ClaimObject}

theorem ensurePredicate_ok {next : KnowledgeLedger} {predicate : PredicateDefinition}
    (success : ensurePredicate library key object ledger = .ok (predicate, next)) :
    next.claims = ledger.claims ∧ next.claimKeys = ledger.claimKeys := by
  unfold ensurePredicate at success
  split at success
  · have success := rest_ok success
    cases success
    exact ⟨rfl, rfl⟩
  · have success := rest_ok success
    cases success
    exact ⟨rfl, rfl⟩

variable {validTime : TimeRange}

/-- An update extends the chain of one claim and touches no other. -/
theorem appendSourceUpdate_ok (success : appendSourceUpdate library source id object validTime evidenceId commit step = .ok next) :
    ∃ record revised, step.1.claims[id]? = some record ∧ Extends commit record revised ∧
      next.1.claims = step.1.claims.insert id revised ∧ next.1.claimKeys = step.1.claimKeys := by
  unfold appendSourceUpdate at success
  obtain ⟨record, found, success⟩ := bind_ok success
  obtain ⟨number, _, success⟩ := bind_ok success
  obtain ⟨closed, closing, success⟩ := bind_ok success
  obtain ⟨envelope, _, success⟩ := bind_ok success
  have success := rest_ok success
  cases success
  exact ⟨record, _, findClaim_ok found, extends_append closing _ rfl _, rfl, rfl⟩

theorem createSourceClaim_ok {new : NewClaim}
    (success : createSourceClaim library source new commit step = .ok next) :
    ∃ record : SourceClaimRecord, record.claim.id = new.id ∧
      record.statement = ⟨source.sourceKey, new.statementKey⟩ ∧
      (∀ link ∈ record.chain, link.temporal.transactionTime.start = commit) ∧
      next.1.claims = step.1.claims.insert new.id record ∧ next.1.claimKeys = step.1.claimKeys := by
  unfold createSourceClaim at success
  obtain ⟨envelope, _, success⟩ := bind_ok success
  have success := rest_ok success
  have success := rest_ok success
  cases success
  refine ⟨_, rfl, rfl, ?_, rfl, rfl⟩
  intro link member
  simp only [chain, singleVec, map_cons, map_nil, mem_singleton] at member
  rw [member]
  rfl

/-- A claim that is retracted already is left alone. -/
theorem retractClaim_ok (success : retractClaim library source id evidenceId commit step =
    .ok next) :
    (∃ record, step.1.claims[id]? = some record ∧ record.head.epistemic.lifecycle = .retracted ∧
      next = step) ∨
    ∃ record revised, step.1.claims[id]? = some record ∧
      Retraction source.envelope commit record revised ∧
      next.1.claims = step.1.claims.insert id revised ∧ next.1.claimKeys = step.1.claimKeys := by
  unfold retractClaim at success
  obtain ⟨record, found, success⟩ := bind_ok success
  dsimp only at success
  split at success
  · next retracted =>
    cases success
    exact .inl ⟨record, findClaim_ok found, retracted, rfl⟩
  · next active =>
    obtain ⟨number, _, success⟩ := bind_ok success
    obtain ⟨closed, closing, success⟩ := bind_ok success
    obtain ⟨envelope, derived, success⟩ := bind_ok success
    have success := rest_ok success
    cases success
    refine .inr ⟨record, _, findClaim_ok found, ?_, rfl, rfl⟩
    apply retraction_append closing active
    · rfl
    · rfl
    · rfl
    · exact fun workspace => accessRule_derived workspace derived

/-! ### Conflict marks -/

variable {conflictId : ConflictSetId} {mark : ConflictMark}

/-- Marking a claim as contested, or as contested no longer, keeps its lifecycle. -/
theorem markClaim_ok (success : markClaim library mark conflictId commit step id = .ok next) :
    next = step ∨ ∃ record revised, step.1.claims[id]? = some record ∧
      Extends commit record revised ∧
      revised.head.epistemic.lifecycle = record.head.epistemic.lifecycle ∧
      next.1.claims = step.1.claims.insert id revised ∧ next.1.claimKeys = step.1.claimKeys := by
  unfold markClaim at success
  obtain ⟨record, found, success⟩ := bind_ok success
  have present := requireSome_ok found
  dsimp only at success
  split at success
  · cases success
    exact .inl rfl
  · split at success
    · have success := rest_ok success
      have success := rest_ok success
      cases success
      have chain := chain_mapLast record (fun entry => (ClaimRevision.mark entry.1 mark.state,
        entry.2)) fun _ => rfl
      refine .inr ⟨record, _, present, ?_, ?_, rfl, rfl⟩
      · refine ⟨⟨rfl, rfl, rfl, rfl, rfl⟩, [], ?_, ?_⟩
        · rw [append_nil]
          exact chain
        · intro link member
          cases member
      · simp [SourceClaimRecord.head, NonEmptyVec.last, NonEmptyVec.mapLast, ClaimRevision.mark]
    · obtain ⟨number, _, success⟩ := bind_ok success
      obtain ⟨closed, closing, success⟩ := bind_ok success
      obtain ⟨envelope, _, success⟩ := bind_ok success
      have success := rest_ok success
      cases success
      refine .inr ⟨record, _, present, ?_, ?_, rfl, rfl⟩
      · exact extends_append closing _ rfl _
      simp [SourceClaimRecord.head, SourceClaimRecord.append, NonEmptyVec.last, NonEmptyVec.push,
        ClaimRevision.mark]

variable {before after : KnowledgeLedger}

theorem Owned.insert (owned : Owned before) (named : record.claim.id = id)
    (claims : after.claims = before.claims.insert id record) : Owned after := by
  intro other found present
  rw [claims] at present
  rcases BTreeMap.getElem?_insert_cases present with ⟨rfl, rfl⟩ | ⟨_, earlier⟩
  · exact named
  · exact owned other found earlier

theorem Advance.owned (advance : Advance library source commit asserted before after)
    (owned : Owned before) : Owned after := by
  cases advance with
  | staging step =>
    cases step with
    | idle claims keys =>
      intro id record present
      rw [claims] at present
      exact owned id record present
    | update assertion known found extended claims keys =>
      refine owned.insert ?_ claims
      rw [extended.claim]
      exact owned _ _ found
    | create assertion fresh statement named starts claims keys => exact owned.insert rfl claims
    | retract found retraction claims keys =>
      refine owned.insert ?_ claims
      rw [retraction.claim]
      exact owned _ _ found
  | mark found active extended claims keys =>
    refine owned.insert ?_ claims
    rw [extended.claim]
    exact owned _ _ found

theorem Advances.owned (advances : Advances library source commit asserted before after)
    (owned : Owned before) : Owned after := by
  induction advances with
  | refl => exact owned
  | tail _ advance ih => exact advance.owned ih

def Unretracted (ledger : KnowledgeLedger) (ids : List ClaimId) : Prop :=
  ∀ id ∈ ids, ∀ record, ledger.claims[(id : ClaimId)]? = some record →
    record.head.epistemic.lifecycle ≠ .retracted

theorem markClaims_advance {ids : List ClaimId} (success : ids.foldlM
    (markClaim library mark conflictId commit) step = .ok next)
    (unretracted : Unretracted step.1 ids) :
    Advances library source commit asserted step.1 next.1 := by
  -- A mark keeps the lifecycle of its head, so the remaining members stay unretracted.
  have kept := foldlM_preserves success
    (fun value => Advances library source commit asserted step.1 value.1 ∧ Unretracted value.1 ids)
    ⟨.refl, unretracted⟩ ?_
  · exact kept.1
  · intro value id after member held marked
    obtain ⟨advanced, open_⟩ := held
    cases markClaim_ok marked with
    | inl same =>
      cases same
      exact ⟨advanced, open_⟩
    | inr changed =>
      obtain ⟨record, revised, found, extended, lifecycle, claims, keys⟩ := changed
      have active := open_ id member record found
      refine ⟨advanced.tail (.mark found active extended claims keys), ?_⟩
      intro other listed held present
      rw [claims] at present
      rcases BTreeMap.getElem?_insert_cases present with ⟨rfl, rfl⟩ | ⟨_, earlier⟩
      · rw [lifecycle]
        exact active
      · exact open_ other listed held earlier

/-- Retracted claims are no candidates of a conflict, so marking the candidates touches none. -/
theorem conflictCandidates_unretracted (library : Library)
    (slot signature : String) {chosen : List ConflictCandidate} (owned : Owned ledger)
    (among : ∀ candidate ∈ chosen, candidate ∈ conflictCandidates library ledger slot signature) :
    Unretracted ledger (chosen.map (·.claim)) := by
  intro id member record found
  obtain ⟨candidate, listed, rfl⟩ := mem_map.mp member
  obtain ⟨held, kept, rfl⟩ := mem_map.mp (among candidate listed)
  obtain ⟨inside, active⟩ := mem_filter.mp kept
  obtain ⟨key, present⟩ := BTreeMap.mem_inOrder.mp inside
  have same : held.claim.id = key := owned key held present
  rw [same, present] at found
  cases found
  simp only [Bool.and_eq_true, beq_iff_eq] at active
  rw [active.2]
  exact LifecycleState.noConfusion

variable {conflictKey : String} {current : List ConflictCandidate}

theorem resolveConflict_advance
    (success : resolveConflict library source conflictKey current commit step = .ok next)
    (unretracted : Unretracted step.1 (current.map (·.claim))) :
    Advances library source commit asserted step.1 next.1 := by
  unfold resolveConflict at success
  dsimp only at success
  split at success
  · cases success
    exact .refl
  · split at success
    · cases success
      exact .refl
    · next winner least =>
      split at success
      · cases success
        exact .refl
      · obtain ⟨_, _, success⟩ := bind_ok success
        obtain ⟨_, _, success⟩ := bind_ok success
        obtain ⟨_, _, success⟩ := bind_ok success
        have success := rest_ok success
        obtain ⟨_, _, success⟩ := bind_ok success
        refine .trans (.single (.staging (.idle ?_ ?_))) (markClaims_advance success ?_)
        · rfl
        · rfl
        · intro id member
          apply unretracted
          unfold resolvedClaims at member
          split at member
          · exact member
          · rw [mem_singleton.mp member]
            exact mem_sortBy.mp (mem_of_mem_head? least)

theorem recordConflict_advance {signature : String}
    (success : recordConflict library source conflictKey signature current commit step = .ok next)
    (unretracted : Unretracted step.1 (current.map (·.claim))) :
    Advances library source commit asserted step.1 next.1 := by
  unfold recordConflict at success
  obtain ⟨_, _, success⟩ := bind_ok success
  obtain ⟨_, _, success⟩ := bind_ok success
  dsimp only at success
  split at success
  · obtain ⟨_, _, success⟩ := bind_ok success
    obtain ⟨_, _, success⟩ := bind_ok success
    obtain ⟨_, _, success⟩ := bind_ok success
    have success := rest_ok success
    refine .trans (.single (.staging (.idle ?_ ?_))) (markClaims_advance success ?_)
    · rfl
    · rfl
    · exact unretracted
  · obtain ⟨_, _, success⟩ := bind_ok success
    have success := rest_ok success
    have success := rest_ok success
    refine .trans (.single (.staging (.idle ?_ ?_))) (markClaims_advance success ?_)
    · rfl
    · rfl
    · exact unretracted

theorem rebuildConflict_advance {slot : String}
    (success : rebuildConflict library source commit step slot = .ok next) (owned : Owned step.1) :
    Advances library source commit asserted step.1 next.1 := by
  unfold rebuildConflict at success
  obtain ⟨signature, _, success⟩ := bind_ok success
  dsimp only at success
  split at success
  · refine resolveConflict_advance success
      (conflictCandidates_unretracted library slot signature owned ?_)
    exact fun candidate member => (mem_filter.mp member).1
  · refine recordConflict_advance success
      (conflictCandidates_unretracted library slot signature owned ?_)
    exact fun candidate member => (mem_filter.mp member).1

variable {staged : Staged}

/-- Rebuilding the conflicts of every slot touched only marks claims. -/
theorem rebuildSlots_advance (asserted : String → Prop)
    (success : rebuildSlots library source commit staged = .ok next) (owned : Owned staged.ledger) :
    Advances library source commit asserted staged.ledger next.1 := by
  refine foldlM_preserves success
    (fun value => Advances library source commit asserted staged.ledger value.1) .refl ?_
  intro value slot after _ advanced rebuilt
  obtain ⟨⟨ledger, builder⟩, built, rebuilt⟩ := bind_ok rebuilt
  cases rebuilt
  exact (advanced.trans (rebuildConflict_advance built (advanced.owned owned))).tail
    (.staging (.idle rfl rfl))

/-! ### Proposals -/

def KnowledgeProposalAction.isAssertion : KnowledgeProposalAction → Bool
  | .assert _ _ _ _ _ .sourceAssertion => true
  | _ => false

/-- The claims a publication reports as retracted are so in the ledger. -/
def Reported (before after : Staged) : Prop :=
  after.retractedClaims = before.retractedClaims ∨ ∃ id record, after.retractedClaims =
    before.retractedClaims ++ [id] ∧
      after.ledger.claims[(id : ClaimId)]? = some record ∧
        record.head.epistemic.lifecycle = .retracted

variable {proposal : KnowledgeProposal}
variable {next : Staged}

theorem assertStatement_ok {subjectKey subjectLabel predicateKey : String}
    (success : assertStatement library source commit proposal subjectKey subjectLabel predicateKey
      object validTime staged = .ok next) (assertion : asserted proposal.statementKey) :
    Staging library source commit asserted staged.ledger next.ledger ∧
      next.retractedClaims = staged.retractedClaims := by
  unfold assertStatement at success
  obtain ⟨⟨subject, ledger, builder⟩, ensured, success⟩ := bind_ok success
  obtain ⟨⟨predicate, registered⟩, defined, success⟩ := bind_ok success
  obtain ⟨claims, keys⟩ := ensureSubject_ok ensured
  obtain ⟨sameClaims, sameKeys⟩ := ensurePredicate_ok defined
  dsimp only at success claims keys sameClaims sameKeys
  rw [claims] at sameClaims
  rw [keys] at sameKeys
  split at success
  · next existing known =>
    obtain ⟨⟨updated, _⟩, appended, success⟩ := bind_ok success
    cases success
    obtain ⟨record, revised, found, extended, inserted, kept⟩ := appendSourceUpdate_ok appended
    dsimp only at found inserted kept
    rw [sameClaims] at found inserted
    rw [sameKeys] at known kept
    exact ⟨.update assertion known found extended inserted kept, rfl⟩
  · next fresh =>
    obtain ⟨⟨created, _⟩, made, success⟩ := bind_ok success
    cases success
    obtain ⟨record, named, statement, starts, inserted, kept⟩ := createSourceClaim_ok made
    dsimp only at named statement inserted kept
    rw [sameClaims] at inserted
    rw [sameKeys] at fresh kept
    rw [← named] at inserted
    refine ⟨.create assertion fresh statement named starts inserted ?_, rfl⟩
    dsimp only
    rw [kept, named]

theorem retractStaged_ok (success : retractStaged library source commit evidenceId staged record id = .ok next) :
    Staging library source commit asserted staged.ledger next.ledger ∧ Reported staged next := by
  unfold retractStaged at success
  obtain ⟨⟨ledger, builder⟩, retracting, success⟩ := bind_ok success
  cases success
  cases retractClaim_ok retracting with
  | inl already =>
    obtain ⟨held, found, retracted, same⟩ := already
    cases same
    exact ⟨.idle rfl rfl, .inr ⟨id, held, rfl, found, retracted⟩⟩
  | inr appended =>
    obtain ⟨held, revised, found, retraction, claims, keys⟩ := appended
    refine ⟨.retract found retraction claims keys, .inr ⟨id, revised, rfl, ?_,
      retraction.retracted⟩⟩
    dsimp only at claims ⊢
    rw [claims, ExtTreeMap.getElem?_insert_self]

theorem applyProposal_ok (success : applyProposal library source commit staged proposal = .ok next)
    (covered : proposal.action.isAssertion = true → asserted proposal.statementKey) :
    Staging library source commit asserted staged.ledger next.ledger ∧ Reported staged next := by
  unfold applyProposal at success
  split at success
  · next action =>
    obtain ⟨step, same⟩ := assertStatement_ok success (covered (by rw [action]; rfl))
    exact ⟨step, .inl same⟩
  · unfold retainHypothesis at success
    have success := rest_ok success
    have success := rest_ok success
    cases success
    exact ⟨.idle rfl rfl, .inl rfl⟩
  · obtain ⟨id, _, success⟩ := bind_ok success
    obtain ⟨record, _, success⟩ := bind_ok success
    have success := rest_ok success
    exact retractStaged_ok success
  · cases success
    exact ⟨.idle rfl rfl, .inl rfl⟩

/-- What holds before the proposals and is kept by every staged step holds of the ledger
whose conflict sets are then rebuilt. -/
theorem staged_induction (asserted : String → Prop) {proposals : List KnowledgeProposal}
    {start applied final : Staged} (covered : ∀ proposal ∈ proposals,
      proposal.action.isAssertion = true →
      asserted proposal.statementKey) (proposed : proposals.foldlM
        (applyProposal library source commit) start = .ok applied)
    (withdrawn : retractDocument library source commit applied = .ok final)
    (invariant : Staged → Prop) (initial : invariant start)
    (kept : ∀ before after, invariant before →
      Staging library source commit asserted before.ledger after.ledger → Reported before after →
        invariant after) : invariant final := by
  have midway : invariant applied := by
    refine foldlM_preserves proposed invariant initial ?_
    intro before proposal after member held success
    obtain ⟨step, reported⟩ := applyProposal_ok success (covered proposal member)
    exact kept before after held step reported
  unfold retractDocument at withdrawn
  split at withdrawn
  · unfold retractAll at withdrawn
    obtain ⟨span, _, withdrawn⟩ := bind_ok withdrawn
    refine foldlM_preserves withdrawn invariant midway ?_
    intro before id after _ held success
    obtain ⟨record, _, success⟩ := bind_ok success
    obtain ⟨step, reported⟩ := retractStaged_ok success
    exact kept before after held step reported
  · cases withdrawn
    exact midway

end ContextDb.Knowledge
