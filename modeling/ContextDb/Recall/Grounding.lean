import ContextDb.Recall.Pages

/-! What a page may include: nothing contested, nothing outside the temporal constraint, and
nothing factual whose evidence this page or an earlier one did not return. Evidence is told
apart by keyed digests, so the last part rests on digests of different identifiers that
differ. -/

set_option autoImplicit false

namespace ContextDb.Recall

open List hiding choose any_eq_true
open Std Lib ContextDb.Core RecallEngine DeterministicRecallRequest Option Except

variable {engine : RecallEngine} {request : DeterministicRecallRequest}
  {candidate : RankedCandidate} {document : RecallDocument} {done : List RankedCandidate}
  {gate : MemoryGateDecision} {state : SelectionState}

def RecallEngine.Supports (engine : RecallEngine) (request : DeterministicRecallRequest)
    (known : String → Prop) (document : RecallDocument) : Prop :=
  ∃ evidence ∈ document.evidence,
    (request.request.evidencePolicy.requirePrimaryEvidence = true → evidence.primary = true) ∧
      known (engine.evidenceDigest evidence)

theorem mem_chooseEvidence {evidence : RecallEvidence}
    (member : evidence ∈ chooseEvidence document request) : evidence ∈ document.evidence ∧
      (request.request.evidencePolicy.requirePrimaryEvidence = true → evidence.primary = true) := by
  have admissible := mem_of_mem_take member
  split at admissible
  · obtain ⟨listed, primary⟩ := mem_filter.mp admissible
    exact ⟨mem_sortBy.mp listed, fun _ => primary⟩
  · next derived => exact ⟨mem_sortBy.mp admissible, fun required => absurd required derived⟩

/-- A policy that demands evidence finds some in every document that satisfies it. -/
theorem exists_chooseEvidence (demands : keepsWithoutEvidence request.request.evidencePolicy =
    false)
    (satisfied : evidenceSatisfies request.request.evidencePolicy document.evidence = true) :
    ∃ evidence, evidence ∈ chooseEvidence document request := by
  have nonempty : ∀ units : List RecallEvidence, (∃ unit, unit ∈ units) →
    ∃ unit, unit ∈ units.take 1 := by
    rintro units ⟨unit, member⟩
    cases units with
    | nil => cases member
    | cons first rest => exact ⟨first, by simp⟩
  unfold chooseEvidence
  refine nonempty _ ?_
  unfold evidenceSatisfies at satisfied
  split
  · next required =>
    rw [if_pos required, List.any_eq_true] at satisfied
    obtain ⟨unit, member, primary⟩ := satisfied
    exact ⟨unit, mem_filter.mpr ⟨mem_sortBy.mpr member, primary⟩⟩
  · next derived =>
    rw [if_neg derived] at satisfied
    have listed : document.evidence ≠ [] := by
      rintro none
      simp only [keepsWithoutEvidence, derived, Bool.not_false, Bool.true_and] at demands
      simp [demands, none] at satisfied
    obtain ⟨unit, member⟩ := exists_mem_of_ne_nil _ listed
    exact ⟨unit, mem_sortBy.mpr member⟩

/-- An included candidate is in no open conflict, and a demanding policy finds a unit of its
evidence among those already used or those it now returns. -/
theorem choiceAt_included (included :
    (engine.choiceAt request state candidate).decision.isIncluded = true) :
    unresolvedSet candidate.document = none ∧ (keepsWithoutEvidence request.request.evidencePolicy =
      false →
        requiresEvidence candidate.document.kind = true →
          engine.Supports request (fun digest => digest ∈ state.usedEvidence ∨
            digest ∈ (engine.choiceAt request state candidate).evidence.map engine.evidenceDigest) candidate.document) := by
  have qualified : (qualifiedDecision request candidate.document).isIncluded = true := by
    simp only [choiceAt, choose] at included
    split at included
    · cases included
    · exact included
  have decided := qualified
  unfold qualifiedDecision at decided
  split at decided
  · cases decided
  · next settled =>
    simp only [Bool.or_eq_true, not_or, Bool.not_eq_true, isSome_eq_false_iff,
      isNone_iff_eq_none] at settled
    refine ⟨settled.1, ?_⟩
    intro demands requires
    have satisfied : evidenceSatisfies request.request.evidencePolicy candidate.document.evidence =
      true := by
      simpa [lacksEvidence, requires] using settled.2
    obtain ⟨unit, chosen⟩ := exists_chooseEvidence demands satisfied
    obtain ⟨listed, primary⟩ := mem_chooseEvidence chosen
    refine ⟨unit, listed, primary, ?_⟩
    by_cases used : engine.evidenceDigest unit ∈ state.usedEvidence
    · exact .inl used
    · right
      -- A demanding policy withholds the item when its evidence overflows.
      have room : evidenceOverflows request state.usage.evidenceUnits
          (engine.choiceAt request state candidate).newEvidenceCount = false := by
        by_contra overflow
        rw [Bool.not_eq_false] at overflow
        simp only [choiceAt, choose] at included overflow
        simp [overflow, demands, MemoryUseDecision.isIncluded] at included
      rw [(choiceAt_free room).2.1, freshEvidence, if_pos qualified]
      refine mem_map.mpr ⟨unit, mem_filter.mpr ⟨chosen, ?_⟩, rfl⟩
      simpa [BTreeSet.contains_eq_false_iff] using used

/-- What the items and the evidence of a page say about the candidates it processed. -/
structure PageFacts (engine : RecallEngine) (request : DeterministicRecallRequest)
    (done : List RankedCandidate) (selection : Selection) : Prop where
  ids : selection.items.map (·.documentId) = done.map (·.document.id)
  processed : selection.processed = done.length
  grounded : ∀ item ∈ selection.items, item.useDecision.isIncluded = true →
    ∃ candidate ∈ done, candidate.document.id = item.documentId ∧
      candidate.document.kind = item.kind ∧ item.content = some candidate.document.text ∧
        unresolvedSet candidate.document = none ∧
          (keepsWithoutEvidence request.request.evidencePolicy = false →
          requiresEvidence candidate.document.kind = true →
            engine.Supports request (fun digest => digest ∈ request.evidenceDigests ∨
              digest ∈ selection.evidence.map fun record => engine.evidenceDigest record.evidence) candidate.document)
  withheld : ∀ item ∈ selection.items, item.useDecision.isIncluded = false → item.content = none
  named : ∀ record ∈ selection.evidence, ∃ item ∈ selection.items,
    item.useDecision.isIncluded = true ∧ item.documentId = record.documentId

theorem RecallEngine.Supports.mono {known wider : String → Prop}
    (supports : engine.Supports request known document)
    (widens : ∀ digest, known digest → wider digest) : engine.Supports request wider document := by
  obtain ⟨evidence, listed, primary, held⟩ := supports
  exact ⟨evidence, listed, primary, widens _ held⟩

theorem afterTaking_returned : (engine.afterTaking request state candidate).selection.evidence =
    state.selection.evidence ++
      selectedEvidence request candidate.document
        (engine.choiceAt request state candidate).evidence := by
  cases included : (engine.choiceAt request state candidate).decision.isIncluded with
  | true => simp [afterTaking, accept, record, included]
  | false =>
    rw [choiceAt_evidence_of_withheld included]
    simp [afterTaking, accept, record, included, selectedEvidence]

theorem PageFacts.afterTaking (facts : PageFacts engine request done state.selection)
    (recorded : EvidenceRecorded engine request.evidenceDigests state) :
    PageFacts engine request (done ++ [candidate])
      (engine.afterTaking request state candidate).selection := by
  have kept : ∀ digest, digest ∈ state.selection.evidence.map
    (fun record => engine.evidenceDigest record.evidence) →
        digest ∈ (engine.afterTaking request state candidate).selection.evidence.map
          fun record => engine.evidenceDigest record.evidence := by
    intro digest member
    rw [afterTaking_returned, map_append]
    exact mem_append_left _ member
  constructor
  · rw [afterTaking_items, map_append, map_append, facts.ids]
    rfl
  · rw [length_append, ← facts.processed]
    rfl
  · intro item member included
    rw [afterTaking_items] at member
    rcases mem_append.mp member with before | fresh
    · obtain ⟨source, listed, same, kind, content, settled, supports⟩ :=
        facts.grounded item before included
      refine ⟨source, mem_append_left _ listed, same, kind, content, settled, ?_⟩
      intro demands requires
      exact (supports demands requires).mono fun digest => Or.imp_right (kept digest)
    · cases mem_singleton.mp fresh
      obtain ⟨settled, supports⟩ := choiceAt_included included
      refine ⟨candidate, by simp, rfl, rfl, if_pos included, settled, ?_⟩
      intro demands requires
      refine (supports demands requires).mono fun digest => ?_
      rintro (used | returned)
      · exact ((recorded digest).mp used).imp_right (kept digest)
      · right
        rw [afterTaking_returned, map_append, mem_append]
        right
        simpa [selectedEvidence, evidenceDigest] using returned
  · intro item member excluded
    rw [afterTaking_items] at member
    rcases mem_append.mp member with before | fresh
    · exact facts.withheld item before excluded
    · cases mem_singleton.mp fresh
      exact if_neg (by simpa [recallItem] using excluded)
  · intro record member
    rw [afterTaking_returned] at member
    rw [afterTaking_items]
    rcases mem_append.mp member with before | fresh
    · obtain ⟨item, listed, included, named⟩ := facts.named record before
      exact ⟨item, mem_append_left _ listed, included, named⟩
    · obtain ⟨evidence, returned, rfl⟩ := mem_map.mp fresh
      refine ⟨_, mem_append_right _ (mem_singleton_self _), ?_, rfl⟩
      by_contra excluded
      rw [Bool.not_eq_true] at excluded
      rw [choiceAt_evidence_of_withheld excluded] at returned
      cases returned

theorem PageFacts.same {before after : Selection}
    (facts : PageFacts engine request done before) (items : after.items = before.items)
    (evidence : after.evidence = before.evidence) (processed : after.processed = before.processed) :
    PageFacts engine request done after := by
  constructor
  · rw [items]
    exact facts.ids
  · rw [processed]
    exact facts.processed
  · rw [items, evidence]
    exact facts.grounded
  · rw [items]
    exact facts.withheld
  · rw [items, evidence]
    exact facts.named

/-- The selection loop takes a prefix of the candidates, and the page accounts for each of them. -/
theorem selectContext_facts {candidates : List RankedCandidate}
    (facts : PageFacts engine request done state.selection)
    (recorded : EvidenceRecorded engine request.evidenceDigests state) :
    ∃ taken rest, candidates = taken ++ rest ∧ PageFacts engine request (done ++ taken)
      (engine.selectContext request gate candidates state).selection := by
  have stays : PageFacts engine request (done ++ []) state.selection := by
    rw [append_nil]
    exact facts
  induction candidates generalizing state done with
  | nil => exact ⟨[], [], rfl, stays⟩
  | cons candidate rest ih =>
    rw [selectContext]
    split
    · exact ⟨[], _, rfl, stays.same rfl rfl rfl⟩
    · split
      · exact ⟨[], _, rfl, stays.same rfl rfl rfl⟩
      · have taken : PageFacts engine request (done ++ [candidate])
            (engine.afterTaking request state candidate).selection := facts.afterTaking recorded
        simp only
        split
        · exact ⟨[candidate], rest, rfl, taken⟩
        · obtain ⟨later, left, split, held⟩ :=
            ih taken recorded.afterTaking (by rw [append_nil]; exact taken)
          refine ⟨candidate :: later, left, by rw [split]; rfl, ?_⟩
          rw [append_assoc] at held
          exact held

/-! ### One page -/

section

variable {clock : Clock} {provider : RecallProvider} {admission : Admission}
    {result : DeterministicRecallResult}

theorem mem_examineNodes {keep : RecallDocument → Bool} {remaining : Nat}
    {documents : List RecallDocument} {scan : NodeScan}
    (member : document ∈ (examineNodes keep remaining documents scan).visible) :
    document ∈ scan.visible ∨ (document ∈ documents ∧ keep document = true) := by
  induction documents generalizing scan with
  | nil => exact .inl member
  | cons first rest ih =>
    rw [examineNodes] at member
    split at member
    · exact .inl member
    · split at member
      · exact .inl member
      · rcases ih member with before | ⟨later, kept⟩
        · dsimp only at before
          split at before
          · next kept =>
            rcases mem_append.mp before with earlier | last
            · exact .inl earlier
            · cases mem_singleton.mp last
              exact .inr ⟨mem_cons_self, kept⟩
          · exact .inl before
        · exact .inr ⟨mem_cons_of_mem _ later, kept⟩

theorem mem_scanNodes (member : document ∈ (engine.scanNodes clock request admission).visible) :
    document ∈ admission.corpus.documents ∧
      engine.documentVisible request admission.snapshot document = true := by
  rcases mem_examineNodes member with none | kept
  · cases none
  · exact kept

theorem mem_rankedCandidates {visible : List RecallDocument} {scores : Scores}
    (member : candidate ∈ rankedCandidates visible scores) : candidate.document ∈ visible := by
  obtain ⟨entry, _, found⟩ := mem_filterMap.mp (mem_sortBy.mp member)
  obtain ⟨document, located, rfl⟩ := map_eq_some_iff.mp found
  exact mem_of_find?_eq_some located

def RecallEngine.rankedOf (engine : RecallEngine) (clock : Clock)
    (request : DeterministicRecallRequest) (admission : Admission) : List RankedCandidate :=
  (engine.rank request admission (engine.scanNodes clock request admission)).ranked

/-- Only documents the caller may see are ranked. -/
theorem mem_rankedOf (member : candidate ∈ engine.rankedOf clock request admission) :
    candidate.document ∈ admission.corpus.documents ∧
      engine.documentVisible request admission.snapshot candidate.document = true :=
  mem_scanNodes (mem_rankedCandidates member)

theorem rankedOf_nodup : ((engine.rankedOf clock request admission).map (·.document.id)).Nodup :=
  rankedCandidates_nodup _ _

theorem rank_stop_ne_tokenBudget :
    (engine.rank request admission (engine.scanNodes clock request admission)).graphStop ≠
      some .tokenBudget := by
  simp only [rank]
  split
  · simp
  · simp only [spreadActivation]
    split
    · simp
    · exact spreadHops_stop_ne_tokenBudget (by simp)

/-- A page that returned items: what it processed, the token it answered and the one it
issued. -/
structure PageOf (engine : RecallEngine) (clock : Clock) (request : DeterministicRecallRequest)
    (admission : Admission) (result : DeterministicRecallResult) (done : List RankedCandidate) :
    Prop where
  processed : done <+: (engine.rankedOf clock request admission).drop request.offset
  facts : PageFacts engine request done (engine.select request admission
      (engine.rank request admission (engine.scanNodes clock request admission))).selection
  items : result.items = (engine.select request admission
    (engine.rank request admission (engine.scanNodes clock request admission))).selection.items
  evidence : result.evidence = (engine.select request admission
    (engine.rank request admission (engine.scanNodes clock request admission))).selection.evidence
  reached : request.offset ≤ (engine.rankedOf clock request admission).length
  visited : ∀ token, request.continuation = some token →
    engine.visitedDigest (visitedIds ((engine.rankedOf clock request admission).take
      request.offset)) = token.visitedDigest
  issued : ∀ token, result.continuation = some token → Issued engine request admission
    (engine.rank request admission (engine.scanNodes clock request admission)) token

/-- A successful recall is either a run that the gate skips or a page over the admitted corpus. -/
theorem recall_page (success : engine.recall clock provider request = .ok result) :
    (result.items = [] ∧ result.evidence = [] ∧ result.continuation = none) ∨
      ∃ admission done, engine.admitted provider request = .ok admission ∧
        PageOf engine clock request admission result done := by
  obtain ⟨_, ⟨_, admission, admitted, ran⟩ | ⟨_, rfl⟩⟩ := recall_ok_iff.mp success
  · rw [execute] at ran
    dsimp only at ran
    split at ran
    · cases ran
      exact .inl ⟨rfl, rfl, rfl⟩
    · right
      have reports := conclude_reports ran
      have empty : PageFacts engine request [] (engine.selectionStart request admission
          (engine.rank request admission
            (engine.scanNodes clock request admission))).selection := by
        constructor <;> simp [selectionStart, initialSelection]
      have unused : EvidenceRecorded engine request.evidenceDigests
        (engine.selectionStart request admission
            (engine.rank request admission (engine.scanNodes clock request admission))) := by
        intro digest
        simp [selectionStart, initialSelection]
      obtain ⟨done, rest, split, facts⟩ := selectContext_facts empty unused
      refine ⟨admission, done, admitted, ⟨rest, split.symm⟩, facts, reports.items, reports.evidence,
        ?_, ?_, fun token continued => conclude_issued rank_stop_ne_tokenBudget ran continued⟩
      · simp only [conclude, bind_ok_iff] at ran
        obtain ⟨_, located, _⟩ := ran
        exact of_decide_eq_true (ensure_ok_iff.mp located)
      · intro token presented
        simp only [conclude, bind_ok_iff] at ran
        obtain ⟨_, _, _, visited, _⟩ := ran
        have matched := forM_ok_iff.mp visited token (mem_toList.mpr presented)
        exact eq_of_beq (ensure_ok_iff.mp matched)
  · exact .inl ⟨rfl, rfl, rfl⟩

section

variable (page : PageOf engine clock request admission result done)
include page

theorem PageOf.ids : result.items.map (·.documentId) = done.map (·.document.id) := by
  rw [page.items]
  exact page.facts.ids

/-- A page repeats no document that was passed before its offset. -/
theorem PageOf.apart : (((engine.rankedOf clock request admission).take request.offset ++ done).map
    (·.document.id)).Nodup := by
  obtain ⟨rest, split⟩ := page.processed
  have whole : (((engine.rankedOf clock request admission).take request.offset ++
    (done ++ rest)).map (·.document.id)).Nodup := by
    rw [split, take_append_drop]
    exact rankedOf_nodup
  rw [← append_assoc, map_append] at whole
  exact (nodup_append.mp whole).1

theorem PageOf.handsOn {token : RecallContinuationToken}
    (continued : result.continuation = some token) :
    (engine.rankedOf clock request admission).take token.nextOffset.toNat =
      (engine.rankedOf clock request admission).take request.offset ++ done := by
  obtain ⟨rest, split⟩ := page.processed
  have next : token.nextOffset.toNat = request.offset + done.length := by
    rw [(page.issued token continued).nextOffset, ← page.facts.processed]
  rw [next, take_add, ← split, take_left']
  rfl

end

end

/-! ### Chains of pages -/

structure RecallPage where
  clock : Clock
  provider : RecallProvider
  request : DeterministicRecallRequest
  result : DeterministicRecallResult

/-- Pages, latest first: the first presents no token, each later one that of the page before. -/
inductive PageChain (engine : RecallEngine) : List RecallPage → Prop where
  | first {page : RecallPage} (fresh : page.request.continuation = none)
      (ran : engine.recall page.clock page.provider page.request = .ok page.result) :
      PageChain engine [page]
  | next {page previous : RecallPage} {earlier : List RecallPage} {token : RecallContinuationToken}
      (chain : PageChain engine (previous :: earlier))
      (issued : previous.result.continuation = some token)
      (presented : page.request.continuation = some token)
      (ran : engine.recall page.clock page.provider page.request = .ok page.result) :
      PageChain engine (page :: previous :: earlier)

def RecallPage.Admits (engine : RecallEngine) (page : RecallPage) (admission : Admission) : Prop :=
  engine.admitted page.provider page.request = .ok admission

def RecallPage.ranked (engine : RecallEngine) (page : RecallPage) (admission : Admission) :
    List RankedCandidate :=
  engine.rankedOf page.clock page.request admission

def RecallPage.itemIds (page : RecallPage) : List DocumentId :=
  page.result.items.map (·.documentId)

/-- No two evidence identifiers and no two visited lists that meet in the chain share a
digest. -/
structure DigestsApart (engine : RecallEngine) (pages : List RecallPage) : Prop where
  evidence : ∀ page ∈ pages, ∀ admission, page.Admits engine admission →
    ∀ document ∈ admission.corpus.documents, ∀ unit ∈ document.evidence, ∀ source ∈ pages,
      ∀ record ∈ source.result.evidence, engine.evidenceDigest unit =
        engine.evidenceDigest record.evidence →
          unit.id = record.evidence.id
  visited : ∀ first ∈ pages, ∀ firstAdmission, first.Admits engine firstAdmission →
    ∀ second ∈ pages, ∀ secondAdmission, second.Admits engine secondAdmission → ∀ count,
      engine.visitedDigest (visitedIds ((first.ranked engine firstAdmission).take count)) =
          engine.visitedDigest (visitedIds ((second.ranked engine secondAdmission).take count)) →
        visitedIds ((first.ranked engine firstAdmission).take count) =
          visitedIds ((second.ranked engine secondAdmission).take count)

variable {page : RecallPage} {pages later earlier : List RecallPage}

theorem DigestsApart.of_subset {fewer : List RecallPage} (apart : DigestsApart engine pages)
    (subset : ∀ page ∈ fewer, page ∈ pages) : DigestsApart engine fewer where
  evidence page member admission admits document listed unit own source other :=
    apart.evidence page (subset _ member) admission admits document listed unit own source
      (subset _ other)
  visited first member admission admits second other :=
    apart.visited first (subset _ member) admission admits second (subset _ other)

theorem PageChain.ran (chain : PageChain engine (page :: earlier)) :
    engine.recall page.clock page.provider page.request = .ok page.result := by
  cases chain with
  | first _ ran => exact ran
  | next _ _ _ ran => exact ran

theorem PageChain.upTo (chain : PageChain engine (later ++ page :: earlier)) :
    PageChain engine (page :: earlier) := by
  induction later with
  | nil => exact chain
  | cons last rest ih =>
    refine ih ?_
    cases split : rest ++ page :: earlier with
    | nil => simp at split
    | cons previous others =>
      rw [cons_append, split] at chain
      cases chain with
      | next chain _ _ _ => exact chain

/-- The digests a continuation carries stand for evidence that an earlier page has returned. -/
theorem PageChain.carried (chain : PageChain engine pages) :
    ∀ page earlier, pages = page :: earlier → ∀ digest ∈ page.request.evidenceDigests,
      ∃ source ∈ earlier, ∃ record ∈ source.result.evidence, engine.evidenceDigest record.evidence =
        digest := by
  induction chain with
  | first fresh ran =>
    rintro page earlier ⟨⟩ digest carried
    simp [evidenceDigests, fresh] at carried
  | @next current previous earlier token chain issued presented ran ih =>
    rintro page others ⟨⟩ digest carried
    rcases recall_page chain.ran with ⟨_, _, none⟩ | ⟨admission, done, _, of⟩
    · rw [none] at issued
      cases issued
    · rw [evidenceDigests, presented] at carried
      change digest ∈ token.selectedEvidenceDigests at carried
      rw [(of.issued token issued).evidence, BTreeSet.mem_insertMany] at carried
      rcases carried with before | returned
      · obtain ⟨source, member, found⟩ := ih previous earlier rfl digest before
        exact ⟨source, mem_cons_of_mem _ member, found⟩
      · obtain ⟨record, member, same⟩ := mem_map.mp returned
        exact ⟨previous, mem_cons_self, record, of.evidence ▸ member, same⟩

/-- The documents of all items up to now lie before the offset the last page hands on. -/
def HandedOn (engine : RecallEngine) (page : RecallPage) (pages : List RecallPage) : Prop :=
  ∀ token admission, page.result.continuation = some token → page.Admits engine admission →
    ∀ id ∈ pages.flatMap RecallPage.itemIds,
      id ∈ ((page.ranked engine admission).take token.nextOffset.toNat).map (·.document.id)

theorem step_distinct {admission : Admission} (admits : page.Admits engine admission)
    (of : PageOf engine page.clock page.request admission page.result done)
    (distinct : (earlier.flatMap RecallPage.itemIds).Nodup)
    (before : ∀ id ∈ earlier.flatMap RecallPage.itemIds,
      id ∈ ((page.ranked engine admission).take page.request.offset).map (·.document.id)) :
    ((page :: earlier).flatMap RecallPage.itemIds).Nodup ∧
      HandedOn engine page (page :: earlier) := by
  have own : page.itemIds = done.map (·.document.id) := of.ids
  have apart := of.apart
  rw [map_append, nodup_append] at apart
  constructor
  · rw [flatMap_cons, own, nodup_append]
    refine ⟨apart.2.1, distinct, ?_⟩
    intro id mine other theirs same
    exact apart.2.2 other (before other theirs) id mine same.symm
  · intro token other continued admitted id member
    cases ok.inj (admits.symm.trans admitted)
    rw [RecallPage.ranked, of.handsOn continued, map_append, mem_append]
    rw [flatMap_cons, own, mem_append] at member
    exact member.symm.imp_left (before id)

/-- No document is listed on two pages. The induction is on the chain, and carries along where
the last page hands on. -/
theorem PageChain.distinct (chain : PageChain engine pages) (apart : DigestsApart engine pages) :
    ∀ page earlier, pages = page :: earlier → (pages.flatMap RecallPage.itemIds).Nodup ∧
      HandedOn engine page pages := by
  induction chain with
  | @first only fresh ran =>
    rintro page earlier ⟨⟩
    rcases recall_page ran with ⟨none, _, ends⟩ | ⟨admission, done, admits, of⟩
    · refine ⟨by simp [RecallPage.itemIds, none], fun token _ continued => ?_⟩
      rw [ends] at continued
      cases continued
    · exact step_distinct admits of nodup_nil (by simp)
  | @next current previous earlier token chain issued presented ran ih =>
    rintro page others ⟨⟩
    obtain ⟨distinct, handed⟩ := ih (apart.of_subset fun _ => mem_cons_of_mem _)
      previous earlier rfl
    rcases recall_page ran with ⟨none, _, ends⟩ | ⟨admission, done, admits, of⟩
    · refine ⟨?_, fun token _ continued => ?_⟩
      · rw [flatMap_cons, RecallPage.itemIds, none]
        exact distinct
      · rw [ends] at continued
        cases continued
    · refine step_distinct admits of distinct ?_
      rcases recall_page chain.ran with ⟨_, _, ends⟩ | ⟨priorAdmission, _, priorAdmits, prior⟩
      · rw [ends] at issued
        cases issued
      -- The token binds the visited documents, so both rankings begin with the same ones.
      have offset : current.request.offset = token.nextOffset.toNat := by
        rw [offset, presented]
        rfl
      have visited := of.visited token presented
      rw [(prior.issued token issued).visited, offset] at visited
      have same := apart.visited current mem_cons_self admission admits previous
        (mem_cons_of_mem _ mem_cons_self) priorAdmission priorAdmits
        token.nextOffset.toNat visited
      intro id member
      have inside := handed token priorAdmission issued priorAdmits id member
      obtain ⟨candidate, listed, rfl⟩ := mem_map.mp inside
      have named : candidate.document.id.text ∈ visitedIds
        ((current.ranked engine admission).take token.nextOffset.toNat) := by
        rw [same]
        exact mem_map.mpr ⟨candidate, listed, rfl⟩
      obtain ⟨twin, found, text⟩ := mem_map.mp named
      rw [offset, ← DocumentId.text_injective _ _ text]
      exact mem_map.mpr ⟨twin, found, rfl⟩

variable {item : RecallItem}

theorem PageChain.item_unique (chain : PageChain engine pages) (apart : DigestsApart engine pages)
    {source : RecallPage} (ours : page ∈ pages) (theirs : source ∈ pages) {other : RecallItem}
    (listed : item ∈ page.result.items) (found : other ∈ source.result.items)
    (same : other.documentId = item.documentId) : other = item := by
  obtain ⟨last, before, first⟩ : ∃ last before, pages = last :: before := by
    cases chain with
    | first _ _ => exact ⟨_, _, rfl⟩
    | next _ _ _ _ => exact ⟨_, _, rfl⟩
  have distinct : ((pages.flatMap (·.result.items)).map (·.documentId)).Nodup := by
    rw [map_flatMap]
    exact (chain.distinct apart last before first).1
  exact inj_on_of_nodup_map distinct (mem_flatMap.mpr ⟨source, theirs, found⟩)
    (mem_flatMap.mpr ⟨page, ours, listed⟩) same

theorem PageChain.pageOf (chain : PageChain engine (page :: earlier))
    (listed : item ∈ page.result.items) :
    ∃ admission done, page.Admits engine admission ∧
      PageOf engine page.clock page.request admission page.result done := by
  rcases recall_page chain.ran with ⟨none, _, _⟩ | found
  · rw [none] at listed
    cases listed
  · exact found

/-- Returned evidence always belongs to an included item of the same page. -/
theorem PageChain.named (chain : PageChain engine (page :: earlier)) {record : SelectedEvidence}
    (member : record ∈ page.result.evidence) :
    ∃ item ∈ page.result.items, item.useDecision.isIncluded = true ∧
      item.documentId = record.documentId := by
  rcases recall_page chain.ran with ⟨_, none, _⟩ | ⟨_, _, _, of⟩
  · rw [none] at member
    cases member
  · rw [of.evidence] at member
    rw [of.items]
    exact of.facts.named record member

theorem unresolvedSet_eq_none_iff : unresolvedSet document = none ↔
    ∀ set, document.conflict ≠ .unresolved set := by
  unfold unresolvedSet
  cases document.conflict <;> simp

/-- In a chain of recall pages, whatever is included is uncontested, visible under the
temporal constraint and, where the policy demands it, supported by evidence returned up to
then. Whatever is not included has no content, and no evidence of the chain names it. -/
theorem recall_chain_grounded (chain : PageChain engine pages) (apart : DigestsApart engine pages)
    (split : pages = later ++ page :: earlier) {item : RecallItem}
    (listed : item ∈ page.result.items) :
    (item.useDecision.isIncluded = true →
      ∃ admission document, page.Admits engine admission ∧ document ∈ admission.corpus.documents ∧
        document.id = item.documentId ∧ document.kind = item.kind ∧
        item.content = some document.text ∧ (∀ set, document.conflict ≠ .unresolved set) ∧
        temporalVisible document page.request admission.snapshot.commitSeq = true ∧
        (requiresEvidence document.kind = true →
          page.request.request.evidencePolicy.requirePrimaryEvidence = true ∨
              page.request.request.evidencePolicy.permitDerivedOnly = false →
                ∃ unit ∈ document.evidence,
              (page.request.request.evidencePolicy.requirePrimaryEvidence = true →
                unit.primary = true) ∧
              ∃ source ∈ page :: earlier, ∃ record ∈ source.result.evidence, record.evidence.id =
                unit.id)) ∧
    (item.useDecision.isIncluded = false → item.content = none ∧
      ∀ source ∈ pages, ∀ record ∈ source.result.evidence, record.documentId ≠
        item.documentId) := by
  subst split
  have own := chain.upTo
  constructor
  · intro included
    obtain ⟨admission, done, admits, of⟩ := own.pageOf listed
    obtain ⟨candidate, processed, same, kind, content, settled, supports⟩ :=
      of.facts.grounded item (of.items ▸ listed) included
    obtain ⟨stored, visible⟩ := mem_rankedOf (mem_of_mem_drop (of.processed.subset processed))
    refine ⟨admission, candidate.document, admits, stored, same, kind, content,
      unresolvedSet_eq_none_iff.mp settled, (Bool.and_eq_true_iff.mp visible).1, ?_⟩
    intro requires strict
    have demands : keepsWithoutEvidence page.request.request.evidencePolicy = false := by
      rcases strict with primary | derived <;> simp [keepsWithoutEvidence, *]
    obtain ⟨unit, mine, primary, known⟩ := supports demands requires
    -- A known digest is that of a record returned here or before.
    have returned : ∃ source ∈ page :: earlier, ∃ record ∈ source.result.evidence,
        engine.evidenceDigest record.evidence = engine.evidenceDigest unit := by
      rcases known with carried | fresh
      · obtain ⟨source, member, found⟩ := own.carried page earlier rfl _ carried
        exact ⟨source, mem_cons_of_mem _ member, found⟩
      · obtain ⟨record, member, digest⟩ := mem_map.mp fresh
        exact ⟨page, mem_cons_self, record, of.evidence ▸ member, digest⟩
    obtain ⟨source, member, record, found, digest⟩ := returned
    refine ⟨unit, mine, primary, source, member, record, found, ?_⟩
    exact (apart.evidence page (by simp) admission admits candidate.document stored unit mine
      source (mem_append_right _ member) record found digest.symm).symm
  · intro excluded
    obtain ⟨admission, done, admits, of⟩ := own.pageOf listed
    refine ⟨of.facts.withheld item (of.items ▸ listed) excluded, ?_⟩
    intro source member record returned names
    obtain ⟨newer, older, placed⟩ := append_of_mem member
    obtain ⟨other, inside, included, named⟩ :=
      (PageChain.upTo (placed ▸ chain)).named returned
    have same : other = item := chain.item_unique apart (by simp) member listed inside
      (named.trans names)
    subst same
    rw [excluded] at included
    cases included

/-! The sample corpus in two pages: the entity is withheld on the first, the claim is included
on the second with its note. -/

private def withheldEntity : RecallDocument :=
  { sampleEntity with useProfile := { sampleEntity.useProfile with influence := .deny } }

private def samplePageOf (request : DeterministicRecallRequest)
    (result : DeterministicRecallResult) : RecallPage :=
  ⟨.never, sampleProvider withheldEntity, request, result⟩

/-- The only evidence in sight is the note, and the ranking is the given one. -/
private def onlyNote (ids : List String) (page : RecallPage) : Bool :=
  yields (sampleEngine.admitted page.provider page.request) fun admission =>
    admission.corpus.documents.all (·.evidence.all (·.id == "note")) &&
      page.result.evidence.all (·.evidence.id == "note") &&
        visitedIds (page.ranked sampleEngine admission) == ids

private theorem onlyNote_iff {ids : List String} : onlyNote ids page = true ↔
    ∃ admission, page.Admits sampleEngine admission ∧
      (∀ document ∈ admission.corpus.documents, ∀ unit ∈ document.evidence, unit.id = "note") ∧
      (∀ record ∈ page.result.evidence, record.evidence.id = "note") ∧
        visitedIds (page.ranked sampleEngine admission) = ids := by
  simp [onlyNote, yields_iff, RecallPage.Admits, and_assoc]

private theorem digestsApart_of_onlyNote (ids : List String) {pages : List RecallPage}
    (note : ∀ page ∈ pages, onlyNote ids page = true) : DigestsApart sampleEngine pages := by
  constructor
  · intro page member admission admits document stored unit own source other record returned _
    obtain ⟨_, admitted, units, _⟩ := onlyNote_iff.mp (note page member)
    cases ok.inj (admits.symm.trans admitted)
    obtain ⟨_, _, _, records, _⟩ := onlyNote_iff.mp (note source other)
    rw [units document stored unit own, records record returned]
  · intro first member firstAdmission firstAdmits second other secondAdmission secondAdmits count _
    obtain ⟨_, firstAdmitted, _, _, firstIds⟩ := onlyNote_iff.mp (note first member)
    obtain ⟨_, secondAdmitted, _, _, secondIds⟩ := onlyNote_iff.mp (note second other)
    cases ok.inj (firstAdmits.symm.trans firstAdmitted)
    cases ok.inj (secondAdmits.symm.trans secondAdmitted)
    simp only [visitedIds, map_take] at firstIds secondIds ⊢
    rw [firstIds, secondIds]

def sampleLimits : PageLimits where
  maxNodesExamined := 10
  maxEvidenceUnits := 4
  maxContextTokens := 10
  maxTokens := 10
  maxCandidates := 10
  maxGraphVisits := 10
  maxEvidenceItems := 10

/-- The claim is included with its note, and nothing of either page names the entity. -/
theorem recall_chain_grounded_note : ∃ first second claim entity, PageChain sampleEngine
    [second, first] ∧
      claim ∈ second.result.items ∧ entity ∈ first.result.items ∧
      (∃ source ∈ [second, first], ∃ record ∈ source.result.evidence, record.evidence.id = "note") ∧
      ∀ source ∈ [second, first], ∀ record ∈ source.result.evidence, record.documentId ≠
        entity.documentId := by
  have evaluated : yields (sampleEngine.recall .never (sampleProvider withheldEntity)
      (sampleRequest 4 2)) (fun first => first.continuation.any fun token =>
        yields (sampleEngine.recall .never (sampleProvider withheldEntity)
          ((sampleRequest 4 2).page sampleLimits (some token))) fun second =>
            onlyNote ["a", "b"] (samplePageOf (sampleRequest 4 2) first) &&
            onlyNote ["a", "b"] (samplePageOf ((sampleRequest 4 2).page sampleLimits
              (some token)) second) &&
            first.items.any (fun item => !item.useDecision.isIncluded) &&
            second.items.any fun item => item.useDecision.isIncluded &&
              item.kind == .claim) = true := by
    decide +kernel
  obtain ⟨first, firstRan, opened⟩ := yields_iff.mp evaluated
  obtain ⟨token, issued, resumed⟩ := (any_eq_true _ _).mp opened
  obtain ⟨second, secondRan, held⟩ := yields_iff.mp resumed
  simp only [Bool.and_eq_true, List.any_eq_true, Bool.not_eq_eq_eq_not, Bool.not_true,
    beq_iff_eq] at held
  obtain ⟨⟨⟨firstNote, secondNote⟩, entity, withheld, excluded⟩, claim, listed, included,
    kind⟩ := held
  let opening := samplePageOf (sampleRequest 4 2) first
  let closing := samplePageOf ((sampleRequest 4 2).page sampleLimits (some token)) second
  have chain : PageChain sampleEngine [closing, opening] :=
    .next (.first rfl firstRan) issued rfl secondRan
  have apart : DigestsApart sampleEngine [closing, opening] := by
    refine digestsApart_of_onlyNote ["a", "b"] fun page member => ?_
    rcases mem_cons.mp member with rfl | earlier
    · exact secondNote
    · rw [mem_singleton.mp earlier]
      exact firstNote
  obtain ⟨admission, document, admits, stored, _, sameKind, _, _, _, supported⟩ :=
    (recall_chain_grounded chain apart (show _ = [] ++ closing ::
      [opening] from rfl) listed).1 included
  obtain ⟨unit, own, _, source, member, record, returned, same⟩ :=
    supported (by rw [sameKind, kind]; rfl) (.inl rfl)
  refine ⟨opening, closing, claim, entity, chain, listed, withheld,
    ⟨source, member, record, returned, ?_⟩, ?_⟩
  · obtain ⟨_, admitted, units, _⟩ := onlyNote_iff.mp secondNote
    cases ok.inj (admits.symm.trans admitted)
    rw [same, units document stored unit own]
  · exact ((recall_chain_grounded chain apart (show _ = [closing] ++
      opening :: [] from rfl) withheld).2 excluded).2

end ContextDb.Recall
