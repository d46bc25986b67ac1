import ContextDb.Lib.Redaction
import ContextDb.Recall.Grounding
import ContextDb.Context.CompilerProperties

/-! A pack compiled from a recall result shows what recall included, under the decision
recall made: the binding carries the decision to the block, the narrowed label and the check
of the candidate's semantics carry it to the action. -/

set_option autoImplicit false

namespace ContextDb.Context

open Std Lib ContextDb.Core Recall RecallBoundProvider List RecallContextBinding BTreeMap ExtTreeSet

variable {library : Libraries} {compiler : ContextCompiler} {tokenizer : TokenCounter}
  {request : CompileRequest} {recalled : DeterministicRecallResult}
  {binding : RecallContextBinding} {provider : ContextProvider} {result : CompiledContext}

/-! ### The recall result -/

theorem recall_items_nodup {engine : RecallEngine} {clock : Clock} {source : RecallProvider}
    {recallRequest : DeterministicRecallRequest} {run : DeterministicRecallResult}
    (success : engine.recall clock source recallRequest = .ok run) :
    (run.items.map (·.documentId)).Nodup := by
  rcases recall_page success with ⟨none, _, _⟩ | ⟨admission, done, _, of⟩
  · simp [none]
  · have apart := of.apart
    rw [map_append, nodup_append] at apart
    rw [of.ids]
    exact apart.2.1

variable {id : BlockId}

namespace RecallContextBinding

variable {decision : MemoryUseDecision}

theorem getElem?_includedDocuments {document : DocumentId}
    (found : (includedDocuments recalled)[document]? = some decision) :
    ∃ item ∈ recalled.items, item.useDecision.isIncluded = true ∧ item.documentId = document ∧
      item.useDecision = decision := by
  rcases getElem?_insertMany_cases found with listed | none
  · obtain ⟨item, member, same⟩ := mem_map.mp listed
    obtain ⟨inside, included⟩ := mem_filter.mp member
    cases same
    exact ⟨item, inside, included, rfl, rfl⟩
  · simp at none

theorem includedDocuments_of_nodup (distinct : (recalled.items.map (·.documentId)).Nodup)
    {item : RecallItem} (member : item ∈ recalled.items)
    (included : item.useDecision.isIncluded = true) :
    (includedDocuments recalled)[item.documentId]? = some item.useDecision := by
  obtain ⟨decision, found⟩ : ∃ decision, (includedDocuments recalled)[item.documentId]? =
    some decision :=
    getElem?_insertMany_isSome (.inl ⟨item.useDecision, mem_map.mpr
      ⟨item, mem_filter.mpr ⟨member, included⟩, rfl⟩⟩)
  obtain ⟨other, listed, _, same, decided⟩ := getElem?_includedDocuments found
  cases inj_on_of_nodup_map distinct listed member same
  rw [found, decided]

variable {blocks : BTreeMap BlockId MemoryUseDecision}

theorem bindDocument_ok {next : BTreeMap BlockId MemoryUseDecision}
    {document : DocumentId × MemoryUseDecision}
    (success : binding.bindDocument blocks document = .ok next) :
    ∃ block, binding.documents[document.1]? = some block ∧ blocks[block]? = none ∧
      next = blocks.insert block document.2 := by
  unfold bindDocument at success
  split at success
  · cases success
  · next block found =>
    obtain ⟨vacant, success⟩ := unit_ok success
    cases success
    refine ⟨block, found, ?_, rfl⟩
    exact ExtTreeMap.getElem?_eq_none_of_contains_eq_false (by simpa using vacant)

theorem getElem?_bound {documents : List (DocumentId × MemoryUseDecision)}
    (success : documents.foldlM binding.bindDocument ∅ = .ok blocks) : blocks[id]? = some decision ↔
      ∃ document, (document, decision) ∈ documents ∧ binding.documents[document]? = some id := by
  induction documents using reverseRecOn generalizing blocks with
  | nil =>
    cases success
    simp
  | append_singleton before last ih =>
    rw [foldlM_append] at success
    obtain ⟨middle, bound, success⟩ := bind_ok success
    rw [foldlM_cons] at success
    obtain ⟨next, stepped, success⟩ := bind_ok success
    cases success
    obtain ⟨block, found, vacant, rfl⟩ := bindDocument_ok stepped
    rw [ExtTreeMap.getElem?_insert]
    split
    · next same =>
      cases Std.compare_eq_iff_eq.mp same
      constructor
      · intro decided
        cases decided
        exact ⟨last.1, mem_append_right _ (mem_singleton_self _), found⟩
      · rintro ⟨document, member, points⟩
        rcases mem_append.mp member with earlier | added
        · rw [(ih bound).mpr ⟨document, earlier, points⟩] at vacant
          cases vacant
        · cases mem_singleton.mp added
          rfl
    · next different =>
      rw [ih bound]
      constructor
      · rintro ⟨document, member, points⟩
        exact ⟨document, mem_append_left _ member, points⟩
      · rintro ⟨document, member, points⟩
        rcases mem_append.mp member with earlier | added
        · exact ⟨document, earlier, points⟩
        · cases mem_singleton.mp added
          rw [found] at points
          exact absurd (Std.compare_eq_iff_eq.mpr (Option.some.inj points)) different

theorem mem_boundEvidence {ids : List String} {evidence : BTreeSet EvidenceHandle}
    (success : ids.foldlM binding.bindEvidence ∅ = .ok evidence) {handle : EvidenceHandle}
    (member : handle ∈ evidence) : ∃ id ∈ ids, binding.evidence[id]? = some handle := by
  refine foldlM_preserves success (fun evidence => ∀ handle ∈ evidence, ∃ id ∈ ids,
    binding.evidence[id]? = some handle)
    (by simp) ?_ handle member
  intro evidence id next listed held stepped handle member
  unfold bindEvidence at stepped
  split at stepped
  · cases stepped
  · next bound found =>
    have stepped := rest_ok stepped
    cases stepped
    rcases mem_insert.mp member with same | before
    · cases Std.compare_eq_iff_eq.mp same
      exact ⟨id, listed, found⟩
    · exact held handle before

structure Resolves (binding : RecallContextBinding) (recalled : DeterministicRecallResult)
    (resolved : ResolvedBinding) : Prop where
  blocks : ∀ (id : BlockId) (decision : MemoryUseDecision), resolved.blocks[id]? = some decision ↔
    ∃ document : DocumentId, (includedDocuments recalled)[document]? = some decision ∧
      binding.documents[document]? = some id
  evidence : ∀ handle ∈ resolved.evidence, ∃ selected ∈ recalled.evidence,
    binding.evidence[selected.evidence.id]? = some handle

theorem resolve_ok {resolved : ResolvedBinding} (success : binding.resolve recalled =
    .ok resolved) :
    binding.Resolves recalled resolved := by
  obtain ⟨blocks, bindsBlocks, success⟩ := bind_ok success
  obtain ⟨evidence, bindsEvidence, success⟩ := bind_ok success
  cases success
  constructor
  · intro id decision
    simp only [getElem?_bound bindsBlocks, ExtTreeMap.mem_toList_iff_getElem?_eq_some]
  · intro handle member
    obtain ⟨id, listed, bound⟩ := mem_boundEvidence bindsEvidence member
    rw [mem_toList, selectedEvidenceIds, BTreeSet.mem_insertMany] at listed
    rcases listed with none | chosen
    · exact absurd none not_mem_empty
    · obtain ⟨selected, member, rfl⟩ := mem_map.mp chosen
      exact ⟨selected, mem_of_mem_filter member, bound⟩

end RecallContextBinding

/-! ### Through the compiler -/

def RespectsDecision (decision : MemoryUseDecision) (action : UseAction) : Prop :=
  match decision with
  | .includeAndMention => True
  | .includeSilently => action ≠ .mentionNaturally
  | .includeOnlyAsConstraint => action = .constraintOnly
  | .includeOnlyAsStyleSignal => action = .styleOnly
  | .withholdDueToUncertainty | .withholdDueToPrivacy | .withholdAsIrrelevant => False

variable {bound : RecallBoundProvider}

theorem RecallBoundProvider.new_ok (success : new provider recalled binding = .ok bound) :
    binding.Resolves recalled bound.binding := by
  unfold new at success
  split at success
  · cases success
  · obtain ⟨_, _, success⟩ := bind_ok success
    have success := rest_ok success
    have success := rest_ok success
    obtain ⟨resolved, resolves, success⟩ := bind_ok success
    cases success
    exact resolve_ok resolves

variable {label : CandidatePolicyLabel}

theorem authorize_silent {principal : RecallPrincipal} {external explicit : Bool}
    {action : UseAction} (silent : label.usePolicy.disclosure = .useSilently)
    (authorized : label.authorize principal external explicit = some action) :
    action = .useSilently := by
  unfold CandidatePolicyLabel.authorize at authorized
  split at authorized
  · cases authorized
  · simp only [CandidateUsePolicy.action, silent] at authorized
    exact (Option.some.inj authorized).symm

theorem RecallBoundProvider.relabel_ok {label narrowed : CandidatePolicyLabel}
    (relabels : bound.relabel label = some narrowed) :
    narrowed.id = label.id ∧ ∃ decision, bound.binding.blocks[label.id]? = some decision ∧
      decision.isIncluded = true ∧
      (decision ≠ .includeAndMention → narrowed.usePolicy.disclosure = .useSilently) := by
  unfold relabel at relabels
  split at relabels
  · cases relabels
  · next decided =>
    cases relabels
    exact ⟨rfl, _, decided, rfl, fun other => absurd rfl other⟩
  all_goals next decided =>
      cases relabels
      try exact ⟨rfl, _, decided, rfl, fun _ => rfl⟩

theorem RecallBoundProvider.materializeCandidate_ok {candidate : PackCandidate}
    {decision : MemoryUseDecision} (success : bound.materializeCandidate id = .ok candidate)
    (decided : bound.binding.blocks[id]? = some decision) :
    (decision = .includeOnlyAsConstraint → candidate.interpretation = .constraintData) ∧
      (decision = .includeOnlyAsStyleSignal → candidate.interpretation = .styleSignal) := by
  unfold materializeCandidate at success
  rw [decided] at success
  obtain ⟨loaded, _, success⟩ := bind_ok success
  constructor
  · rintro rfl
    dsimp only at success
    split at success
    · cases success
      assumption
    · cases success
  · rintro rfl
    dsimp only at success
    split at success
    · cases success
      assumption
    · cases success

theorem bound_prospect {labels : List CandidatePolicyLabel} {prospect : Prospect}
    (lists : bound.toProvider.candidateLabels = .ok labels) (listed : label ∈ labels)
    (authorized : label.authorize request.principal request.modelProfile.externalProcessing
      request.explicitMemoryRequest = some prospect.useAction)
    (loads : bound.toProvider.materializeCandidate label.id = .ok prospect.candidate) :
    ∃ decision, bound.binding.blocks[label.id]? = some decision ∧
      RespectsDecision decision (interpretedUse prospect.candidate.interpretation prospect.useAction prospect.directiveReason).1 := by
  obtain ⟨inner, _, lists⟩ := bind_ok lists
  cases lists
  obtain ⟨original, _, relabels⟩ := mem_filterMap.mp listed
  obtain ⟨same, decision, decided, included, narrowed⟩ := relabel_ok relabels
  rw [← same] at decided
  refine ⟨decision, decided, ?_⟩
  obtain ⟨constraint, style⟩ := materializeCandidate_ok loads decided
  cases decision with
  | includeAndMention => trivial
  | includeSilently =>
    have silent := authorize_silent (narrowed (by decide)) authorized
    change (interpretedUse _ _ _).1 ≠ _
    rw [silent]
    unfold interpretedUse
    split <;> exact UseAction.noConfusion
  | includeOnlyAsConstraint =>
    rw [constraint rfl]
    rfl
  | includeOnlyAsStyleSignal =>
    rw [style rfl]
    rfl
  | withholdDueToUncertainty => cases included
  | withholdDueToPrivacy => cases included
  | withholdAsIrrelevant => cases included

/-- The unknown the compiler writes for a required facet nothing establishes. -/
def IsMissingUnknown (library : Libraries) (tokenizer : TokenCounter) (request : CompileRequest)
    (block : ContextBlock) : Prop :=
  ∃ requirement ∈ request.requiredFacets, ∃ item,
    prepareMissingUnknown library tokenizer request requirement.name = .ok item ∧ item.block = block

/-- What a bound compilation shows of one block: a generated unknown, or a block with a
recall decision its action respects and evidence recall selected. -/
theorem PageRun.Of.decided {run : PageRun}
    (of : run.Of library compiler request bound.toProvider tokenizer result)
    {item : PreparedCandidate} (member : item ∈ run.mandatory.prepared) :
    (IsMissingUnknown library tokenizer request item.block ∧ item.evidence = []) ∨
      (∃ decision, bound.binding.blocks[item.block.id]? = some decision ∧
        RespectsDecision decision item.useAction) ∧
      ∀ record ∈ item.evidence, record.id ∈ bound.binding.evidence := by
  obtain ⟨selectedIds, generated, mandatoryOf⟩ := selectMandatory_ok of.mandatory
  rcases mandatoryOf.mem_prepared.mp member with prepared | fresh
  · right
    obtain ⟨prospect, materialized, from'⟩ := (candidatesFor_ok of.prepared).1 item prepared
    obtain ⟨intake, takes, same, loads⟩ := materializePolicyFirst_ok of.materialized
    constructor
    · obtain ⟨labels, label, lists, listed, authorized, payload, identified⟩ :=
        mem_takeCandidates takes (same ▸ materialized)
      obtain ⟨decision, decided, respects⟩ := bound_prospect lists listed authorized payload
      obtain ⟨handles, content⟩ := from'.content
      have id : item.block.id = label.id := by
        rw [show item.block.id = item.block.toMemoryContent.id from rfl, content]
        exact identified
      rw [id, from'.useAction]
      exact ⟨decision, decided, respects⟩
    · intro record listed
      obtain ⟨handle, found⟩ := from'.evidence record listed
      have payload := getElem?_takeAllEvidence loads found
      simp only [toProvider] at payload
      split at payload
      · next selected => exact contains_iff_mem.mp selected
      · cases payload
  · left
    obtain ⟨requirement, missing, creates⟩ := exists_item_of_mapM_ok mandatoryOf.generates fresh
    refine ⟨⟨requirement, mem_of_mem_filter missing, item, creates, rfl⟩, ?_⟩
    obtain ⟨_, _, creates⟩ := bind_ok creates
    have creates := rest_ok creates
    obtain ⟨_, _, creates⟩ := bind_ok creates
    obtain ⟨_, _, creates⟩ := bind_ok creates
    cases creates
    rfl

/-- A pack compiled from a recall result shows nothing but what the result included, generated
unknowns apart, with evidence it selected. Where the result lists each document once, no block
is used beyond the decision about it. -/
theorem recall_bound_pack
    (success : compiler.compileRecall library request recalled binding provider tokenizer =
      .ok result) :
    (∀ block ∈ result.pack.sections.iter, IsMissingUnknown library tokenizer request block ∨
      ((∃ item ∈ recalled.items, item.useDecision.isIncluded = true ∧
          binding.documents[item.documentId]? = some block.id) ∧
        ((recalled.items.map (·.documentId)).Nodup → ∀ item ∈ recalled.items,
          item.useDecision.isIncluded = true → binding.documents[item.documentId]? = some block.id →
            ∀ directive ∈ result.pack.useDirectives, directive.blockId = block.id →
              RespectsDecision item.useDecision directive.action))) ∧
    ∀ record ∈ result.pack.evidence, ∃ selected ∈ recalled.evidence,
      binding.evidence[selected.evidence.id]? = some record.id := by
  have success := rest_ok success
  obtain ⟨bound, binds, success⟩ := bind_ok success
  have resolves := new_ok binds
  obtain ⟨page, of⟩ := compile_ok success
  obtain ⟨continuation, shows⟩ := of.shows
  constructor
  · intro block inside
    obtain ⟨item, selected, rfl⟩ := shows.mem_sections.mp inside
    obtain ⟨id, present⟩ := mem_inOrder.mp selected
    obtain ⟨prepared, identified⟩ := of.drawn id item present
    rcases of.decided prepared with ⟨unknown, _⟩ | ⟨⟨decision, decided, respects⟩, _⟩
    · exact .inl unknown
    · right
      constructor
      · obtain ⟨document, included, points⟩ := (resolves.blocks _ _).mp decided
        obtain ⟨recallItem, listed, isIncluded, same, _⟩ :=
          getElem?_includedDocuments included
        exact ⟨recallItem, listed, isIncluded, same ▸ points⟩
      · intro distinct recallItem listed included points directive shown same
        -- Documents are distinct, so this item's decision is the one bound to the block.
        have bindsItem := (resolves.blocks item.block.id recallItem.useDecision).mpr
          ⟨recallItem.documentId,
            includedDocuments_of_nodup distinct listed included, points⟩
        cases Option.some.inj (bindsItem.symm.trans decided)
        obtain ⟨other, chosen, rfl⟩ := shows.mem_useDirectives.mp shown
        obtain ⟨otherId, otherPresent⟩ := mem_inOrder.mp chosen
        have otherIdentified := (of.drawn otherId other otherPresent).2
        have keys : otherId = id := by
          rw [← otherIdentified, ← identified]
          exact same
        rw [keys, present] at otherPresent
        cases otherPresent
        exact respects
  · intro record shown
    obtain ⟨owner, selected, own⟩ := shows.mem_evidence shown
    obtain ⟨id, present⟩ := mem_inOrder.mp selected
    rcases of.decided (of.drawn id owner present).1 with ⟨_, none⟩ | ⟨_, within⟩
    · rw [none] at own
      cases own
    · exact resolves.evidence record.id (within record own)

/-- The desk's request at the snapshot and under the filter of the sample recall. -/
private def recalledRequest : CompileRequest :=
  { deskRequest [] with
    snapshot := sampleSnapshot, filterDigest := sampleEngine.filterDigest
      (sampleRequest 4 10).filter }

private def recalledProvider : ContextProvider :=
  { deskProvider [deskCandidate "a" .situation [] 1000000 1,
    deskCandidate "b" .participant [] 1000000 1000000] with
    snapshot := .ok sampleSnapshot }

/-- The recall with every item listed twice, first to be used silently. -/
def listedTwice (recalled : DeterministicRecallResult) : DeterministicRecallResult :=
  { recalled with items := recalled.items.flatMap fun item =>
      [{ item with useDecision := .includeSilently },
        { item with useDecision := .includeAndMention }] }

theorem silent_item_mentioned : ∃ recalled binding result,
    deskCompiler.compileRecall deskLibraries recalledRequest
      (listedTwice recalled) binding recalledProvider
      deskTokenizer = .ok result ∧
    ∃ item ∈ (listedTwice recalled).items, item.useDecision = .includeSilently ∧
      ∃ block ∈ result.pack.sections.iter, binding.documents[item.documentId]? = some block.id ∧
        ∃ directive ∈ result.pack.useDirectives, directive.blockId = block.id ∧
          directive.action = .mentionNaturally := by
  have evaluated : yields (sampleEngine.recall .never (sampleProvider sampleEntity)
    (sampleRequest 4 10))
      (fun recalled => yields (identity (listedTwice recalled)) fun binding =>
        yields (deskCompiler.compileRecall deskLibraries recalledRequest
          (listedTwice recalled) binding
          recalledProvider deskTokenizer) fun result =>
            (listedTwice recalled).items.any fun item => item.useDecision = .includeSilently &&
              result.pack.sections.iter.any fun block => binding.documents[item.documentId]? =
                some block.id &&
                result.pack.useDirectives.any fun directive =>
                  directive.blockId = block.id && directive.action = .mentionNaturally) = true := by
    decide +kernel
  obtain ⟨recalled, _, bound⟩ := yields_iff.mp evaluated
  obtain ⟨binding, _, compiled⟩ := yields_iff.mp bound
  obtain ⟨result, success, found⟩ := yields_iff.mp compiled
  refine ⟨recalled, binding, result, success, ?_⟩
  simpa only [List.any_eq_true, Bool.and_eq_true, decide_eq_true_eq] using found

/-- The sample recall stops at the entity, and the pack shows that entity only. -/
theorem recall_bound_pack_sample : ∃ recalled binding result,
      (recalled.items.map (·.documentId)).Nodup ∧
        deskCompiler.compileRecall deskLibraries recalledRequest recalled binding recalledProvider
        deskTokenizer = .ok result ∧ result.pack.sections.iter.length = 1 ∧
          ∀ block ∈ result.pack.sections.iter,
        IsMissingUnknown deskLibraries deskTokenizer recalledRequest block ∨
          ∀ item ∈ recalled.items, item.useDecision.isIncluded = true →
            binding.documents[item.documentId]? = some block.id →
              ∀ directive ∈ result.pack.useDirectives, directive.blockId = block.id →
                RespectsDecision item.useDecision directive.action := by
  have evaluated : yields (sampleEngine.recall .never (sampleProvider sampleEntity)
      (sampleRequest 4 10)) (fun recalled =>
        yields (identity recalled) fun binding =>
          yields (deskCompiler.compileRecall deskLibraries recalledRequest recalled binding
            recalledProvider deskTokenizer) fun result =>
              result.pack.sections.iter.length == 1) = true := by
    decide +kernel
  obtain ⟨recalled, recalls, bound⟩ := yields_iff.mp evaluated
  obtain ⟨binding, _, compiled⟩ := yields_iff.mp bound
  obtain ⟨result, success, single⟩ := yields_iff.mp compiled
  have distinct := recall_items_nodup recalls
  refine ⟨recalled, binding, result, distinct, success, by simpa using single, ?_⟩
  intro block inside
  exact ((recall_bound_pack success).1 block inside).imp_right fun shown => shown.2 distinct

end ContextDb.Context
