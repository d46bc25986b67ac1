import ContextDb.Recall.Selection

/-! The evidence budget of a recall in terms of its ranked documents. As long as the evidence
of the documents so far fits, the selection loop shows exactly the qualified ones and counts
each item of their evidence once. A document whose evidence no longer fits does harm where it
is kept all the same: under a policy that permits derived answers the evidence is dropped and
still counted, and at the largest limit the counter saturates. -/

set_option autoImplicit false

namespace ContextDb.Recall

open Std Lib ContextDb.Core RecallEngine Clock

def shows (request : DeterministicRecallRequest) (candidate : RankedCandidate) : Bool :=
  (qualifiedDecision request candidate.document).isIncluded

variable (engine : RecallEngine) (request : DeterministicRecallRequest) (gate : MemoryGateDecision)

namespace RecallEngine

/-- The digests known after the qualified documents of a list are shown. -/
def usedAlong (used : BTreeSet String) (candidates : List RankedCandidate) : BTreeSet String :=
  candidates.foldl (fun used candidate =>
    used.insertMany ((engine.freshEvidence request used candidate.document).map engine.evidenceDigest)) used

/-- The evidence of the qualified documents of a list, each digest once and none known before. -/
def freshAlong (used : BTreeSet String) : List RankedCandidate → List RecallEvidence
  | [] => []
  | candidate :: rest => engine.freshEvidence request used candidate.document ++
      freshAlong (engine.usedAlong request used [candidate]) rest

/-- The tokens of the qualified documents of a list and of their evidence. -/
def tokensAlong (used : BTreeSet String) (candidates : List RankedCandidate) : Nat :=
  ((candidates.filter (shows request)).map (·.document.estimatedTokens.toNat)).sum +
    ((engine.freshAlong request used candidates).map (·.estimatedTokens.toNat)).sum

/-- The tokens that have to fit for a candidate to be shown after `earlier`. Its own evidence
counts only at the largest evidence limit: below it, evidence that does not fit is dropped. -/
def entryTokens (used : BTreeSet String) (earlier : List RankedCandidate)
    (candidate : RankedCandidate) : Nat :=
  if request.maxEvidenceUnits.toNat = 0xffffffff then
    engine.tokensAlong request used (earlier ++ [candidate])
  else engine.tokensAlong request used earlier +
    if shows request candidate then candidate.document.estimatedTokens.toNat else 0

/-- The documents give a sufficient answer: no open conflict, no missing evidence, something
to show, and every mandatory facet covered. -/
structure Settles (covered : BTreeSet String) (candidates : List RankedCandidate) : Prop where
  facets : ∀ facet ∈ gate.mandatoryFacets, facet ∈ covered ∨ ∃ candidate ∈ candidates,
    shows request candidate = true ∧ facet ∈ engine.coveredBy candidate.document request
  resolved : ∀ candidate ∈ candidates, unresolvedSet candidate.document = none
  supported : ∀ candidate ∈ candidates, lacksEvidence request candidate.document = false
  shown : ∃ candidate ∈ candidates, shows request candidate = true

/-- The candidate comes up after `earlier`: before the deadline, with no sufficient answer
before it, and within the token limit. -/
structure Reaches (start : SelectionState) (earlier : List RankedCandidate)
    (candidate : RankedCandidate) : Prop where
  inTime : ∀ checks ∈ start.clock.checksLeft, earlier.length < checks
  unsettled : ∀ taken, taken ≠ [] → taken <+: earlier →
    ¬ engine.Settles request gate start.selection.coveredFacets taken
  affordable : request.maxContextTokens.toNat = 0xffffffff ∨
    start.usage.contextTokens.toNat + engine.entryTokens request start.usedEvidence earlier candidate ≤
      request.maxContextTokens.toNat

/-- A document whose evidence exceeds the limit is withheld by the policy, or none comes up. -/
def EvidenceRoom (candidates : List RankedCandidate) (start : SelectionState) : Prop :=
  (keepsWithoutEvidence request.request.evidencePolicy = false ∧
    request.maxEvidenceUnits.toNat ≠ 0xffffffff) ∨
    ∀ earlier candidate later, candidates = earlier ++ candidate :: later →
      engine.Reaches request gate start earlier candidate →
      start.usage.evidenceUnits.toNat +
        (engine.freshAlong request start.usedEvidence (earlier ++
          [candidate])).length ≤ request.maxEvidenceUnits.toNat

end RecallEngine

variable {engine : RecallEngine} {request : DeterministicRecallRequest} {gate : MemoryGateDecision}
  {candidate : RankedCandidate} {candidates earlier later : List RankedCandidate}
  {state start : SelectionState} {used : BTreeSet String}

theorem freshAlong_append : engine.freshAlong request used (earlier ++ later) =
    engine.freshAlong request used earlier ++ engine.freshAlong request
      (engine.usedAlong request used earlier) later := by
  induction earlier generalizing used with
  | nil => rfl
  | cons candidate rest ih =>
    rw [List.cons_append, freshAlong, freshAlong, ih, List.append_assoc]
    rfl

theorem freshAlong_singleton : engine.freshAlong request used [candidate] =
    engine.freshEvidence request used candidate.document :=
  List.append_nil _

theorem tokensAlong_append : engine.tokensAlong request used (earlier ++ later) =
    engine.tokensAlong request used earlier +
      engine.tokensAlong request (engine.usedAlong request used earlier) later := by
  simp only [tokensAlong, freshAlong_append, List.filter_append, List.map_append, List.sum_append]
  omega

theorem tokensAlong_singleton : engine.tokensAlong request used [candidate] =
    (if shows request candidate then candidate.document.estimatedTokens.toNat else 0) +
      ((engine.freshEvidence request used candidate.document).map
        (·.estimatedTokens.toNat)).sum := by
  rw [tokensAlong, freshAlong_singleton]
  cases shown : shows request candidate with
  | false => simp [shown]
  | true => simp [shown]

theorem tokensAlong_le_entryTokens : engine.tokensAlong request used earlier ≤
    engine.entryTokens request used earlier candidate := by
  rw [entryTokens]
  split
  · rw [tokensAlong_append]
    exact Nat.le_add_right _ _
  · exact Nat.le_add_right _ _

/-- One item of evidence at most, so the sum of its tokens does not wrap around. -/
theorem fresh_tokens : ((engine.freshEvidence request used candidate.document).foldl
      (fun total item => total + item.estimatedTokens) (0 : UInt32)).toNat =
    ((engine.freshEvidence request used candidate.document).map (·.estimatedTokens.toNat)).sum := by
  have short := @freshEvidence_length_le request engine used candidate.document
  match engine.freshEvidence request used candidate.document, short with
  | [], _ => rfl
  | [item], _ => simp

theorem fresh_of_withheld (withheld : shows request candidate = false) :
    engine.freshEvidence request used candidate.document = [] := by
  rw [freshEvidence, if_neg (by simpa [shows] using withheld)]

/-- What a candidate whose evidence fits adds. -/
structure Taken (engine : RecallEngine) (request : DeterministicRecallRequest)
    (before after : SelectionState)
    (candidates : List RankedCandidate) : Prop where
  units : after.usage.evidenceUnits.toNat =
    before.usage.evidenceUnits.toNat +
      (engine.freshAlong request before.usedEvidence candidates).length
  tokens : after.usage.contextTokens.toNat =
    min (before.usage.contextTokens.toNat + engine.tokensAlong request before.usedEvidence candidates) 0xffffffff
  used : after.usedEvidence = engine.usedAlong request before.usedEvidence candidates

section Step

variable (room : state.usage.evidenceUnits.toNat +
  (engine.freshEvidence request state.usedEvidence candidate.document).length ≤
    request.maxEvidenceUnits.toNat)

include room

theorem not_overflows : evidenceOverflows request state.usage.evidenceUnits
    (engine.choiceAt request state candidate).newEvidenceCount = false := by
  rw [Bool.eq_false_iff, Ne, evidenceOverflows_iff, choiceAt, newEvidenceCount_toNat]
  omega

theorem choiceAt_cost : (engine.choiceAt request state candidate).contextCost.toNat =
    min (engine.tokensAlong request state.usedEvidence [candidate]) 0xffffffff := by
  have free := not_overflows room
  rw [tokensAlong_singleton]
  cases shown : shows request candidate with
  | false =>
    have withheld : (qualifiedDecision request candidate.document).isIncluded = false := shown
    change (if (engine.choiceAt request state candidate).decision.isIncluded then _ else (0 : UInt32)).toNat = _
    rw [(choiceAt_free free).1, withheld, fresh_of_withheld shown]
    rfl
  | true =>
    have included : (qualifiedDecision request candidate.document).isIncluded = true := shown
    simp only [choiceAt, choose] at free
    simp [choiceAt, choose, free, included, fresh_tokens]

theorem afterTaking_taken : Taken engine request state (engine.afterTaking request state candidate)
    [candidate] := by
  obtain ⟨decision, evidence, _⟩ := choiceAt_free (not_overflows room)
  have cost := choiceAt_cost room
  have count : (engine.choiceAt request state candidate).newEvidenceCount.toNat = _ :=
    newEvidenceCount_toNat _ _ _
  have counter := request.maxEvidenceUnits.toNat_lt
  have spent := state.usage.contextTokens.toNat_lt
  have recorded : (engine.afterTaking request state candidate).usedEvidence =
      engine.usedAlong request state.usedEvidence [candidate] := by
    change state.usedEvidence.insertMany
      ((engine.choiceAt request state candidate).evidence.map engine.evidenceDigest) = _
    rw [evidence]
    rfl
  cases shown : shows request candidate with
  | false =>
    have same : (engine.afterTaking request state candidate).usage = state.usage := by
      have withheld : (engine.choiceAt request state candidate).decision.isIncluded = false := by
        rw [decision]
        exact shown
      simp [afterTaking, accept, record, withheld]
    refine ⟨?_, ?_, recorded⟩
    · rw [same, freshAlong_singleton, fresh_of_withheld shown]
      rfl
    · rw [same, tokensAlong_singleton, fresh_of_withheld shown]
      simp [shown]
      omega
  | true =>
    have included : (engine.choiceAt request state candidate).decision.isIncluded = true := by
      rw [decision]
      exact shown
    refine ⟨?_, ?_, recorded⟩
    · simp only [afterTaking, accept, record, included, if_true, toNat_saturatingAdd32, count,
        freshAlong_singleton]
      omega
    · simp only [afterTaking, accept, record, included, if_true, toNat_saturatingAdd32, cost]
      omega

end Step

/-- What a stretch whose evidence fits adds. -/
theorem takeAll_taken (fits : state.usage.evidenceUnits.toNat +
      (engine.freshAlong request state.usedEvidence candidates).length ≤
        request.maxEvidenceUnits.toNat) :
    engine.RoomAlong request candidates state ∧
      Taken engine request state (engine.takeAll request candidates state) candidates := by
  induction candidates generalizing state with
  | nil =>
    have spent := state.usage.contextTokens.toNat_lt
    refine ⟨trivial, rfl, ?_, rfl⟩
    simp only [takeAll, List.foldl_nil, tokensAlong, freshAlong, List.filter_nil, List.map_nil,
      List.sum_nil]
    omega
  | cons candidate rest ih =>
    rw [freshAlong, List.length_append] at fits
    have room : state.usage.evidenceUnits.toNat +
        (engine.freshEvidence request state.usedEvidence candidate.document).length ≤
          request.maxEvidenceUnits.toNat := by
      omega
    obtain ⟨units, tokens, known⟩ := afterTaking_taken room
    rw [freshAlong_singleton] at units
    obtain ⟨along, final⟩ := @ih (engine.afterTaking request state candidate)
      (by rw [units, known]; omega)
    refine ⟨⟨not_overflows room, along⟩, ?_, ?_, ?_⟩
    · rw [takeAll_cons, final.units, units, known, freshAlong, List.length_append]
      omega
    · have split := @tokensAlong_append engine request [candidate] rest state.usedEvidence
      rw [List.singleton_append] at split
      rw [takeAll_cons, final.tokens, tokens, known, split]
      omega
    · rw [takeAll_cons, final.used, known]
      rfl

theorem takeAll_checksLeft : (engine.takeAll request candidates state).clock.checksLeft =
    state.clock.checksLeft.map (· - candidates.length) := by
  induction candidates generalizing state with
  | nil => simp [takeAll]
  | cons candidate rest ih =>
    rw [takeAll_cons, ih, afterTaking_clock, tick, Option.map_map]
    congr 1
    funext checks
    simp only [Function.comp_apply, List.length_cons]
    omega

theorem hasIncluded_takeAll_iff (along : engine.RoomAlong request candidates state) :
    (engine.takeAll request candidates state).selection.hasIncluded = true ↔
      state.selection.hasIncluded = true ∨ ∃ candidate ∈ candidates, shows request candidate =
        true := by
  induction candidates generalizing state with
  | nil => simp [takeAll]
  | cons candidate rest ih =>
    have stepped : (engine.afterTaking request state candidate).selection.hasIncluded =
        (state.selection.hasIncluded || shows request candidate) := by
      simp [Selection.hasIncluded, recallItem, (choiceAt_free along.1).1, shows]
    rw [takeAll_cons, ih along.2, stepped, Bool.or_eq_true, or_assoc, List.exists_mem_cons_iff]

/-- A selection before its first candidate. -/
structure Blank (selection : Selection) : Prop where
  unresolved : selection.unresolvedConflicts = ∅
  unsupported : selection.unsupportedDocuments = ∅
  items : selection.items = []

theorem suffices_takeAll_iff (blank : Blank start.selection)
    (along : engine.RoomAlong request candidates start) :
    (engine.takeAll request candidates start).selection.suffices gate = true ↔
      engine.Settles request gate start.selection.coveredFacets candidates := by
  have none : start.selection.hasIncluded = false := by simp [Selection.hasIncluded, blank.items]
  rw [suffices_eq_true_iff]
  simp only [mem_covered_takeAll along, mem_unresolved_takeAll, mem_unsupported_takeAll along,
    hasIncluded_takeAll_iff along, blank.unresolved, blank.unsupported, none, ExtTreeSet.not_mem_empty,
    false_or, Bool.false_eq_true]
  constructor
  · rintro ⟨facets, resolved, supported, shown⟩
    refine ⟨facets, fun candidate member => ?_, fun candidate member => ?_, shown⟩
    · exact Option.eq_none_iff_forall_ne_some.mpr fun set found => resolved set
        ⟨candidate, member, found⟩
    · exact Bool.eq_false_iff.mpr fun lacks => supported _ ⟨candidate, member, lacks, rfl⟩
  · rintro ⟨facets, resolved, supported, shown⟩
    refine ⟨facets, ?_, ?_, shown⟩
    · rintro set ⟨candidate, member, found⟩
      rw [resolved candidate member] at found
      cases found
    · rintro id ⟨candidate, member, lacks, _⟩
      rw [supported candidate member] at lacks
      cases lacks

/-! ### The loop and the documents -/

/-- A policy that withholds what does not fit keeps the counter in step by itself. -/
theorem evidenceFits_of_withheld (policy : keepsWithoutEvidence request.request.evidencePolicy =
    false)
    (smaller : request.maxEvidenceUnits.toNat ≠ 0xffffffff) :
    engine.evidenceFits request gate candidates state = true := by
  induction candidates generalizing state with
  | nil => rfl
  | cons candidate rest ih =>
    have room : engine.hasEvidenceRoom request state candidate = true := by
      have bound := request.maxEvidenceUnits.toNat_lt
      have overflows := @evidenceOverflows_iff request state.usage.evidenceUnits
        (engine.choiceAt request state candidate).newEvidenceCount
      cases overflow : evidenceOverflows request state.usage.evidenceUnits
          (engine.choiceAt request state candidate).newEvidenceCount with
      | true =>
        have withheld : (engine.choiceAt request state candidate).decision =
          .withholdDueToUncertainty := by
          simp only [choiceAt, choose] at overflow ⊢
          simp [overflow, policy]
        rw [hasEvidenceRoom, withheld]
        rfl
      | false =>
        rw [overflow] at overflows
        simp only [hasEvidenceRoom, Bool.or_eq_true, decide_eq_true_eq]
        right
        by_contra excess
        exact absurd (overflows.mpr (by omega)) (by decide)
    simp only [evidenceFits, room, ih, Bool.or_true, Bool.true_and]

section Kept

variable (kept : keepsWithoutEvidence request.request.evidencePolicy = true ∨
    request.maxEvidenceUnits.toNat = 0xffffffff)

include kept

theorem choiceAt_kept : (engine.choiceAt request state candidate).decision =
    qualifiedDecision request candidate.document := by
  cases overflow : evidenceOverflows request state.usage.evidenceUnits
      (engine.choiceAt request state candidate).newEvidenceCount with
  | false => exact (choiceAt_free overflow).1
  | true =>
    have policy : keepsWithoutEvidence request.request.evidencePolicy = true := by
      refine kept.resolve_right fun largest => ?_
      rw [evidenceOverflows_iff, largest] at overflow
      omega
    simp only [choiceAt, choose, policy, Bool.not_true, Bool.and_false, Bool.false_eq_true,
      if_false]

theorem hasEvidenceRoom_iff (within : state.usage.evidenceUnits.toNat ≤
    request.maxEvidenceUnits.toNat) :
    engine.hasEvidenceRoom request state candidate = true ↔ state.usage.evidenceUnits.toNat +
      (engine.freshEvidence request state.usedEvidence candidate.document).length ≤
        request.maxEvidenceUnits.toNat := by
  have count : (engine.choiceAt request state candidate).newEvidenceCount.toNat =
    _ := newEvidenceCount_toNat _ _ _
  rw [hasEvidenceRoom, choiceAt_kept kept, count]
  cases shown : (qualifiedDecision request candidate.document).isIncluded with
  | false =>
    rw [fresh_of_withheld shown]
    simpa using within
  | true => simp

/-- Evidence that does not fit is dropped, so that only the document's own tokens are charged;
at the largest limit nothing is dropped. -/
theorem choiceAt_cost_over (excess : request.maxEvidenceUnits.toNat <
    state.usage.evidenceUnits.toNat +
      (engine.freshEvidence request state.usedEvidence candidate.document).length) :
    (engine.choiceAt request state candidate).contextCost.toNat =
      if request.maxEvidenceUnits.toNat = 0xffffffff then
        min (engine.tokensAlong request state.usedEvidence [candidate]) 0xffffffff
      else if shows request candidate then candidate.document.estimatedTokens.toNat else 0 := by
  have count : (engine.choiceAt request state candidate).newEvidenceCount.toNat =
    _ := newEvidenceCount_toNat _ _ _
  have decision := @choiceAt_kept engine request candidate state kept
  have overflows := @evidenceOverflows_iff request state.usage.evidenceUnits
    (engine.choiceAt request state candidate).newEvidenceCount
  rw [count] at overflows
  have bound := request.maxEvidenceUnits.toNat_lt
  have short := @freshEvidence_length_le request engine state.usedEvidence candidate.document
  cases shown : shows request candidate with
  | false =>
    change (if (engine.choiceAt request state candidate).decision.isIncluded then _ else (0 : UInt32)).toNat = _
    have withheld : (qualifiedDecision request candidate.document).isIncluded = false := shown
    rw [decision, withheld, tokensAlong_singleton, fresh_of_withheld shown, shown]
    simp
  | true =>
    have included : (qualifiedDecision request candidate.document).isIncluded = true := shown
    change (if (engine.choiceAt request state candidate).decision.isIncluded then saturatingAdd32 candidate.document.estimatedTokens
      ((engine.choiceAt request state candidate).evidence.foldl
        (fun total item => total + item.estimatedTokens) 0)
      else (0 : UInt32)).toNat = _
    rw [decision, included, if_pos rfl, toNat_saturatingAdd32]
    split
    · next largest =>
      have free : evidenceOverflows request state.usage.evidenceUnits
          (engine.choiceAt request state candidate).newEvidenceCount = false := by
        rw [Bool.eq_false_iff, Ne, overflows]
        omega
      rw [(choiceAt_free free).2.1, fresh_tokens, tokensAlong_singleton, shown, if_pos rfl]
    · next smaller =>
      have dropped : (engine.choiceAt request state candidate).evidence = [] := by
        have overflow := overflows.mpr (by omega)
        simp only [choiceAt, choose] at overflow ⊢
        simp [overflow]
      have own := candidate.document.estimatedTokens.toNat_lt
      rw [dropped]
      simp only [List.foldl_nil, UInt32.toNat_zero, Nat.add_zero, if_true]
      omega

theorem choiceAt_cost_le : (engine.choiceAt request state candidate).contextCost.toNat ≤
    engine.tokensAlong request state.usedEvidence [candidate] := by
  by_cases room : state.usage.evidenceUnits.toNat +
      (engine.freshEvidence request state.usedEvidence candidate.document).length ≤
        request.maxEvidenceUnits.toNat
  · rw [choiceAt_cost room]
    exact Nat.min_le_left _ _
  · rw [choiceAt_cost_over kept (Nat.lt_of_not_le room)]
    split
    · exact Nat.min_le_left _ _
    · rw [tokensAlong_singleton]
      exact Nat.le_add_right _ _

variable (fits : start.usage.evidenceUnits.toNat +
  (engine.freshAlong request start.usedEvidence earlier).length ≤ request.maxEvidenceUnits.toNat)

include fits

/-- A candidate the token limit stops at keeps every later one from coming up. -/
theorem tokensAlong_of_exceeded
    (exceeded : engine.tokensExceeded request (engine.takeAll request earlier start) candidate =
      true) :
    request.maxContextTokens.toNat ≠ 0xffffffff ∧ request.maxContextTokens.toNat <
      start.usage.contextTokens.toNat +
      engine.tokensAlong request start.usedEvidence (earlier ++ [candidate]) := by
  have taken := (takeAll_taken fits).2
  have cost := @choiceAt_cost_le engine request candidate
    (engine.takeAll request earlier start) kept
  rw [taken.used] at cost
  simp only [tokensExceeded, decide_eq_true_eq, UInt32.lt_iff_toNat_lt, toNat_saturatingAdd32,
    taken.tokens] at exceeded
  rw [tokensAlong_append]
  omega

theorem tokensExceeded_over (excess : request.maxEvidenceUnits.toNat <
    start.usage.evidenceUnits.toNat +
      (engine.freshAlong request start.usedEvidence (earlier ++ [candidate])).length) :
    engine.tokensExceeded request (engine.takeAll request earlier start) candidate = false ↔
      request.maxContextTokens.toNat = 0xffffffff ∨ start.usage.contextTokens.toNat +
        engine.entryTokens request start.usedEvidence earlier candidate ≤
          request.maxContextTokens.toNat := by
  have taken := (takeAll_taken fits).2
  have bound := request.maxContextTokens.toNat_lt
  rw [freshAlong_append, List.length_append, freshAlong_singleton, ← taken.used, ← Nat.add_assoc,
    ← taken.units] at excess
  have cost := choiceAt_cost_over kept excess
  rw [taken.used] at cost
  rw [entryTokens, tokensAlong_append, Bool.eq_false_iff, Ne, tokensExceeded, decide_eq_true_eq,
    UInt32.lt_iff_toNat_lt,
    toNat_saturatingAdd32, taken.tokens, cost]
  split
  · omega
  · have own := candidate.document.estimatedTokens.toNat_lt
    split <;> omega

/-- From a prefix on, the loop finds room for the evidence of everything it shows exactly when
the evidence of every candidate that comes up fits. -/
theorem evidenceFits_iff_reaches (blank : Blank start.selection)
    (unsettled : ∀ taken, taken ≠ [] → taken <+: earlier →
      ¬ engine.Settles request gate start.selection.coveredFacets taken) :
    engine.evidenceFits request gate candidates (engine.takeAll request earlier start) = true ↔
      ∀ between candidate later, candidates = between ++ candidate :: later →
        engine.Reaches request gate start (earlier ++ between) candidate →
        start.usage.evidenceUnits.toNat + (engine.freshAlong request start.usedEvidence
          (earlier ++ between ++ [candidate])).length ≤ request.maxEvidenceUnits.toNat := by
  induction candidates generalizing earlier with
  | nil =>
    refine ⟨fun _ between candidate later split => ?_, fun _ => rfl⟩
    exact absurd split (by simp)
  | cons first rest ih =>
    obtain ⟨_, taken⟩ := takeAll_taken fits
    have expired : (engine.takeAll request earlier start).clock.expired = true ↔
        ∃ checks ∈ start.clock.checksLeft, checks ≤ earlier.length := by
      rw [Clock.expired, takeAll_checksLeft]
      cases start.clock.checksLeft with
      | none => simp
      | some checks => simp [Nat.sub_eq_zero_iff_le]
    have fresh : (engine.takeAll request earlier start).usage.evidenceUnits.toNat +
      (engine.freshEvidence request
        (engine.takeAll request earlier start).usedEvidence first.document).length =
          start.usage.evidenceUnits.toNat +
          (engine.freshAlong request start.usedEvidence (earlier ++ [first])).length := by
      rw [freshAlong_append, List.length_append, freshAlong_singleton, taken.units, taken.used,
        Nat.add_assoc]
    have room := @hasEvidenceRoom_iff engine request first
      (engine.takeAll request earlier start) kept (taken.units ▸ fits)
    rw [fresh] at room
    have next : engine.afterTaking request (engine.takeAll request earlier start) first =
        engine.takeAll request (earlier ++ [first]) start := by
      simp [takeAll]
    rw [evidenceFits, next]
    simp only [Bool.or_eq_true, Bool.and_eq_true, room]
    constructor
    · intro passes between candidate later split reaches
      have early : ¬ ∃ checks ∈ start.clock.checksLeft, checks ≤ earlier.length := by
        rintro ⟨checks, left, late⟩
        have before := reaches.inTime checks left
        rw [List.length_append] at before
        omega
      cases between with
      | nil =>
        rw [List.nil_append, List.cons.injEq] at split
        obtain ⟨rfl, rfl⟩ := split
        rw [List.append_nil] at reaches ⊢
        rcases passes with (late | exceeded) | ⟨within, _⟩
        · exact absurd (expired.mp late) early
        · by_contra excess
          rw [(tokensExceeded_over kept fits
            (Nat.lt_of_not_le excess)).mpr reaches.affordable] at exceeded
          cases exceeded
        · exact within
      | cons second between =>
        rw [List.cons_append, List.cons.injEq] at split
        obtain ⟨rfl, split⟩ := split
        rw [List.append_cons earlier first between] at reaches ⊢
        rcases passes with (late | exceeded) | ⟨within, settled | goes⟩
        · exact absurd (expired.mp late) early
        · obtain ⟨small, beyond⟩ := tokensAlong_of_exceeded kept fits exceeded
          have affordable := reaches.affordable.resolve_left small
          have entry := @tokensAlong_le_entryTokens engine request candidate
            (earlier ++ [first] ++ between) start.usedEvidence
          rw [tokensAlong_append] at entry
          omega
        · have settles := (suffices_takeAll_iff blank (takeAll_taken within).1).mp settled
          exact absurd settles (reaches.unsettled _ (by simp) (List.prefix_append _ _))
        · refine (ih within fun taken nonempty begins => ?_).mp goes between candidate later split reaches
          exact reaches.unsettled taken nonempty (begins.trans (List.prefix_append _ _))
    · intro bound
      by_cases late : (engine.takeAll request earlier start).clock.expired = true
      · exact .inl (.inl late)
      by_cases exceeded : engine.tokensExceeded request
        (engine.takeAll request earlier start) first = true
      · exact .inl (.inr exceeded)
      have inTime : ∀ checks ∈ start.clock.checksLeft, earlier.length < checks := by
        intro checks left
        by_contra later
        exact late (expired.mpr ⟨checks, left, Nat.le_of_not_lt later⟩)
      have within : start.usage.evidenceUnits.toNat + (engine.freshAlong request start.usedEvidence
          (earlier ++ [first])).length ≤ request.maxEvidenceUnits.toNat := by
        by_contra excess
        have affordable := (tokensExceeded_over kept fits (Nat.lt_of_not_le excess)).mp
          (by simpa using exceeded)
        have reaches : engine.Reaches request gate start (earlier ++ []) first := by
          rw [List.append_nil]
          exact ⟨inTime, unsettled, affordable⟩
        have held := bound [] first rest rfl reaches
        rw [List.append_nil] at held
        exact excess held
      refine .inr ⟨within, ?_⟩
      by_cases settled : (engine.takeAll request (earlier ++
        [first]) start).selection.suffices gate = true
      · exact .inl settled
      refine .inr ((ih within ?_).mpr ?_)
      · intro taken nonempty begins
        rcases List.prefix_concat_iff.mp begins with rfl | before
        · exact mt (suffices_takeAll_iff blank (takeAll_taken within).1).mpr settled
        · exact unsettled taken nonempty before
      · intro between candidate later split reaches
        have held := bound (first :: between) candidate later (by rw [split, List.cons_append])
        rw [List.append_cons earlier first between] at held
        exact held reaches

end Kept

/-- The selection loop keeps its evidence counter in step with what it returns exactly when
the documents leave room for their evidence. -/
theorem evidenceFits_iff (blank : Blank start.selection)
    (within : start.usage.evidenceUnits.toNat ≤ request.maxEvidenceUnits.toNat) :
    engine.evidenceFits request gate candidates start = true ↔
      engine.EvidenceRoom request gate candidates start := by
  by_cases kept : keepsWithoutEvidence request.request.evidencePolicy = true ∨
    request.maxEvidenceUnits.toNat = 0xffffffff
  · have whole := @evidenceFits_iff_reaches engine request gate candidates
      [] start kept within blank
      (fun taken nonempty begins => absurd (List.prefix_nil.mp begins) nonempty)
    simp only [List.nil_append] at whole
    refine whole.trans ⟨.inr, fun room => room.resolve_left ?_⟩
    rintro ⟨policy, smaller⟩
    exact kept.elim (fun keeps => absurd (policy.symm.trans keeps) (by decide)) smaller
  · rw [not_or] at kept
    obtain ⟨policy, smaller⟩ := kept
    refine iff_of_true (evidenceFits_of_withheld ?_ smaller) (.inl ⟨?_, smaller⟩)
    · simpa using policy
    · simpa using policy

/-! ### Whole runs -/

/-- What keeps an admitted run within its budgets. The corpus runs out before the node
limit, or no document is dropped before it (at the largest limit the counter saturates);
and the ranked documents leave room for their evidence. -/
structure BudgetsFit (engine : RecallEngine) (clock : Clock) (request : DeterministicRecallRequest)
    (admission : Admission) : Prop where
  nodes : request.maxNodesExamined.toNat = 0xffffffff ∨
    (clock.allowance admission.corpus.documents).length ≤ remainingNodes request admission.prior ∨
    ((clock.allowance admission.corpus.documents).take (remainingNodes request admission.prior)).all
        (engine.documentVisible request admission.snapshot) = true
  evidence : (engine.scanNodes clock request admission).deadline = false →
    let ranking := engine.rank request admission (engine.scanNodes clock request admission)
    engine.EvidenceRoom request admission.gate (ranking.ranked.drop request.offset)
      (engine.selectionStart request admission ranking)

variable {clock : Clock} {provider : RecallProvider} {admission : Admission}
    {result : DeterministicRecallResult}

theorem selectionStart_blank (ranking : Ranking) : Blank
    (engine.selectionStart request admission ranking).selection :=
  ⟨rfl, rfl, rfl⟩

theorem execute_within_iff (accepted : verifyBudgetIntegrity admission.prior request = .ok ())
    (executed : engine.execute clock request admission = .ok result) :
    WithinBudgets request admission.prior result ↔ BudgetsFit engine clock request admission := by
  obtain ⟨nodes, edges, hops, evidence, tokens⟩ := verifyBudgetIntegrity_ok_iff.mp accepted
  have scanned := scanNodes_within_iff engine clock nodes
  unfold execute at executed
  simp only at executed
  split at executed
  · rename_i late
    obtain rfl := Except.ok.inj executed
    constructor
    · intro within
      exact ⟨scanned.mp within.nodes, fun early => absurd late (by simp [early])⟩
    · intro fits
      exact ⟨scanned.mpr fits.nodes, edges, hops, evidence, tokens, rfl,
        fun token absent => nomatch absent⟩
  · rename_i early
    have bounded := @rank_bounded request engine admission
      (engine.scanNodes clock request admission) accepted
    rw [conclude_within_iff accepted bounded executed, scanned,
      evidenceFits_iff (selectionStart_blank _) (UInt32.le_iff_toNat_le.mp
        (bounded.evidence ▸ evidence))]
    constructor
    · rintro ⟨nodesFit, evidenceFit⟩
      exact ⟨nodesFit, fun _ => evidenceFit⟩
    · intro fits
      exact ⟨fits.nodes, fits.evidence (by simpa using early)⟩

/-- A successful recall respects its budgets exactly when the run it admits meets the node
and the evidence condition. A run the gate skips consumes nothing. -/
theorem recall_within_budgets_iff (engine : RecallEngine) (clock : Clock)
    (provider : RecallProvider) (request : DeterministicRecallRequest)
    (result : DeterministicRecallResult)
    (recalled : engine.recall clock provider request = .ok result) :
    WithinBudgets request (engine.startUsage request) result ↔
      ((engine.memoryGate request).runRecall = true → ∀ admission,
        engine.admitted provider request = .ok admission →
          BudgetsFit engine clock request admission) := by
  obtain ⟨_, ⟨running, admission, admitted, executed⟩ | ⟨skipped, rfl⟩⟩ :=
    recall_ok_iff.mp recalled
  · obtain ⟨accepted, prior⟩ := admitted_prior admitted
    have start : engine.startUsage request = admission.prior := by
      simp [startUsage, running, prior]
    rw [start, execute_within_iff accepted executed]
    constructor
    · intro fits _ other same
      exact Except.ok.inj (admitted.symm.trans same) ▸ fits
    · exact fun fits => fits running admission admitted
  · constructor
    · exact fun _ running => absurd running (by simp [skipped])
    · intro _
      have start : engine.startUsage request = .initial := by
        simp [startUsage, skipped]
      rw [start]
      exact ⟨UInt32.zero_le, UInt32.zero_le, UInt8.zero_le, UInt32.zero_le,
        UInt32.zero_le, rfl, fun token absent => nomatch absent⟩

/-- An entity recorded after the snapshot: it is examined but not kept, so one node too many
is examined under a limit of one. -/
theorem unseen_document_exceeds_node_limit : ∃ result, sampleEngine.recall .never
        (sampleProvider (sampleDocument
          ⟨"a", by decide⟩ .entity 9)) (sampleRequest 1 10) = .ok result ∧
      ¬ result.usage.nodesExamined ≤ (sampleRequest 1 10).maxNodesExamined := by
  have evaluated : yields (sampleEngine.recall .never
      (sampleProvider (sampleDocument ⟨"a", by decide⟩ .entity 9)) (sampleRequest 1 10))
        (fun result => !(result.usage.nodesExamined ≤ (sampleRequest 1 10).maxNodesExamined)) =
          true := by
    decide +kernel
  obtain ⟨result, ran, exceeded⟩ := yields_iff.mp evaluated
  exact ⟨result, ran, by simpa using exceeded⟩

/-- Under a limit of two the same corpus stays within its budgets. -/
theorem recall_within_budgets_iff_two_nodes : ∃ result, sampleEngine.recall .never
        (sampleProvider (sampleDocument
          ⟨"a", by decide⟩ .entity 9)) (sampleRequest 2 10) = .ok result ∧
      WithinBudgets (sampleRequest 2 10) (sampleEngine.startUsage (sampleRequest 2 10)) result := by
  have evaluated : yields (sampleEngine.recall .never
      (sampleProvider (sampleDocument ⟨"a", by decide⟩ .entity 9)) (sampleRequest 2 10))
        (fun _ => true) = true := by
    decide +kernel
  obtain ⟨result, ran, _⟩ := yields_iff.mp evaluated
  refine ⟨result, ran, (recall_within_budgets_iff sampleEngine .never _ _ result ran).mpr ?_⟩
  intro _ admission admitted
  have fits : yields (sampleEngine.admitted
      (sampleProvider (sampleDocument ⟨"a", by decide⟩ .entity 9)) (sampleRequest 2 10))
        (fun admission =>
          decide ((never.allowance admission.corpus.documents).length ≤
            remainingNodes (sampleRequest 2 10) admission.prior) &&
          let ranking := sampleEngine.rank (sampleRequest 2 10) admission
            (sampleEngine.scanNodes .never (sampleRequest 2 10) admission)
          let start := sampleEngine.selectionStart (sampleRequest 2 10) admission ranking
          decide (start.usage.evidenceUnits.toNat ≤ (sampleRequest 2 10).maxEvidenceUnits.toNat) &&
            sampleEngine.evidenceFits (sampleRequest 2 10) admission.gate
              (ranking.ranked.drop (sampleRequest 2 10).offset) start) = true := by
    decide +kernel
  obtain ⟨other, same, held⟩ := yields_iff.mp fits
  obtain rfl : admission = other := Except.ok.inj (admitted.symm.trans same)
  obtain ⟨nodes, held⟩ := Bool.and_eq_true_iff.mp held
  obtain ⟨within, evidence⟩ := Bool.and_eq_true_iff.mp held
  refine ⟨.inr (.inl (of_decide_eq_true nodes)), fun _ => ?_⟩
  exact (evidenceFits_iff (selectionStart_blank _) (of_decide_eq_true within)).mp evidence

end ContextDb.Recall
