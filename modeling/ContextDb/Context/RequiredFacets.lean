import ContextDb.Lib.Redaction
import ContextDb.Context.CompilerProperties

/-! Required facets and the mandatory selection. A block is demanded when it is intrinsic,
when it is the best block for a required facet not covered at its turn, or when it describes
the conflict of a demanded block. The mandatory selection is exactly what is demanded, and a
required facet is established exactly when a demanded block meets it. In terms of the
candidates alone: the facet leads, or a candidate that meets it is preferred for a leading
facet, is intrinsic, or is a manifest that an intrinsic one leads to. -/

set_option autoImplicit false

namespace ContextDb.Context

open Std Lib ContextDb.Core Recall List BTreeSet ContextCompiler

variable {library : Libraries} {compiler : ContextCompiler} {tokenizer : TokenCounter}
  {request : CompileRequest} {provider : ContextProvider} {result : CompiledContext}
  {prepared : List PreparedCandidate} {requirement : PackFacetRequirement}

/-- The selection when the turn of the facet after `earlier` comes. -/
def progressAfter (prepared : List PreparedCandidate) (earlier : List PackFacetRequirement) :
    FacetProgress :=
  earlier.foldl (selectFacet prepared)
    ⟨intrinsicMandatoryIds prepared, coveredFacets prepared (intrinsicMandatoryIds prepared)⟩

inductive Demanded (requirements : List PackFacetRequirement) (prepared : List PreparedCandidate) :
    BlockId → Prop
  | intrinsic {item : PreparedCandidate} : item ∈ prepared → item.isIntrinsic = true →
      Demanded requirements prepared item.block.id
  | facet {earlier later : List PackFacetRequirement} {requirement : PackFacetRequirement}
      {best : PreparedCandidate} : requirements = earlier ++ requirement :: later →
      requirement.name ∉ (progressAfter prepared earlier).covered →
      maxBy facetOrder (prepared.filter (·.meets requirement)) = some best →
      Demanded requirements prepared best.block.id
  | conflict {item described : PreparedCandidate} {set : ConflictSetId} : item ∈ prepared →
      Demanded requirements prepared item.block.id → item.block.epistemic.conflict =
        .inConflict set →
      prepared.find? (describes set) = some described →
        Demanded requirements prepared described.block.id

variable {id : BlockId} {progress : FacetProgress}

theorem selectFacet_keeps (member : id ∈ progress.selected) :
    id ∈ (selectFacet prepared progress requirement).selected := by
  unfold selectFacet
  split
  · exact member
  · split
    · exact member
    · simp [member]

variable {requirements : List PackFacetRequirement}

theorem foldl_selectFacet_keeps (member : id ∈ progress.selected) :
    id ∈ (requirements.foldl (selectFacet prepared) progress).selected := by
  induction requirements generalizing progress with
  | nil => exact member
  | cons first rest ih => exact ih (selectFacet_keeps member)

theorem mem_progressAfter : id ∈ (progressAfter prepared requirements).selected ↔
      (∃ item ∈ prepared, item.isIntrinsic = true ∧ item.block.id = id) ∨
      ∃ earlier requirement later best, requirements = earlier ++ requirement :: later ∧
        requirement.name ∉ (progressAfter prepared earlier).covered ∧
        maxBy facetOrder (prepared.filter (·.meets requirement)) = some best ∧
          best.block.id = id := by
  induction requirements using reverseRecOn with
  | nil =>
    simp [progressAfter, intrinsicMandatoryIds, and_assoc]
  | append_singleton requirements last ih =>
    have stepped : progressAfter prepared (requirements ++ [last]) = selectFacet prepared
      (progressAfter prepared requirements) last := by
      simp [progressAfter]
    constructor
    · intro member
      rw [stepped] at member
      have earlierPick : id ∈ (progressAfter prepared requirements).selected →
          (∃ item ∈ prepared, item.isIntrinsic = true ∧ item.block.id = id) ∨
          ∃ earlier requirement later best, requirements ++ [last] = earlier ++
            requirement :: later ∧
            requirement.name ∉ (progressAfter prepared earlier).covered ∧
            maxBy facetOrder (prepared.filter (·.meets requirement)) = some best ∧
              best.block.id = id := by
        intro member
        rcases ih.mp member with intrinsic | ⟨earlier, requirement, later, best, split, rest⟩
        · exact .inl intrinsic
        · exact .inr ⟨earlier, requirement, later ++ [last], best, by simp [split], rest⟩
      unfold selectFacet at member
      split at member
      · exact earlierPick member
      · next notCovered =>
        split at member
        · exact earlierPick member
        · next best picked =>
          rcases ExtTreeSet.mem_insert.mp member with same | member
          · refine .inr ⟨requirements, last, [], best, rfl, ?_, picked,
              Std.compare_eq_iff_eq.mp same⟩
            simpa using notCovered
          · exact earlierPick member
    · rintro (intrinsic | ⟨earlier, requirement, later, best, split, notCovered, picked, rfl⟩)
      · rw [stepped]
        exact selectFacet_keeps (ih.mpr (.inl intrinsic))
      · have turned : best.block.id ∈ (progressAfter prepared
          (earlier ++ [requirement])).selected := by
          have open' : (progressAfter prepared earlier).covered.contains requirement.name = false :=
            contains_eq_false_iff.mpr notCovered
          simp only [progressAfter, foldl_append, foldl_cons, foldl_nil] at open' ⊢
          simp [selectFacet, open', picked]
        rw [split, progressAfter, foldl_append, foldl_cons]
        rw [progressAfter, foldl_append, foldl_cons, foldl_nil] at turned
        exact foldl_selectFacet_keeps turned

variable {item : PreparedCandidate} {selected closed : BTreeSet BlockId}

def NeedsConflict (prepared : List PreparedCandidate) (selected : BTreeSet BlockId) (id : BlockId) :
    Prop :=
  ∃ item ∈ prepared, item.block.id ∈ selected ∧ ∃ set, item.block.epistemic.conflict =
    .inConflict set ∧ ∃ described, prepared.find? (describes set) = some described ∧
      described.block.id = id

variable {missing : List BlockId}

theorem missingConflict_ok (success : missingConflict prepared selected item = .ok missing) :
    id ∈ missing ↔ id ∉ selected ∧ ∃ set, item.block.epistemic.conflict = .inConflict set ∧
      ∃ described, prepared.find? (describes set) = some described ∧ described.block.id = id := by
  unfold missingConflict at success
  split at success
  · next set contested =>
    split at success
    · cases success
    · next described found =>
      cases success
      constructor
      · intro member
        split at member
        · cases member
        · next absent =>
          cases mem_singleton.mp member
          exact ⟨by simpa using absent, set, contested, described, found, rfl⟩
      · rintro ⟨absent, other, same, second, again, rfl⟩
        rw [contested] at same
        cases same
        rw [found] at again
        cases again
        have outside : selected.contains described.block.id = false :=
          contains_eq_false_iff.mpr absent
        simp [outside]
  · next notContested =>
    cases success
    constructor
    · intro member
      cases member
    · rintro ⟨_, set, same, _⟩
      exact absurd same (notContested set)

theorem mem_conflictAdditions (success : conflictAdditions prepared selected = .ok missing) :
    id ∈ missing ↔ id ∉ selected ∧ NeedsConflict prepared selected id := by
  obtain ⟨additions, passed, flattened⟩ := bind_ok success
  cases flattened
  constructor
  · intro member
    obtain ⟨missing, listed, member⟩ := mem_flatten.mp member
    obtain ⟨item, chosen, found⟩ := exists_item_of_mapM_ok passed listed
    obtain ⟨absent, needs⟩ := (missingConflict_ok found).mp member
    obtain ⟨member, inside⟩ := mem_filter.mp chosen
    exact ⟨absent, item, member, ExtTreeSet.contains_iff_mem.mp inside, needs⟩
  · rintro ⟨absent, item, member, inside, needs⟩
    have chosen : item ∈ prepared.filter fun item => selected.contains item.block.id :=
      mem_filter.mpr ⟨member, ExtTreeSet.contains_iff_mem.mpr inside⟩
    obtain ⟨missing, listed, found⟩ := exists_value_of_mapM_ok passed chosen
    exact mem_flatten.mpr ⟨missing, listed, (missingConflict_ok found).mpr ⟨absent, needs⟩⟩

def leftOut (prepared : List PreparedCandidate) (selected : BTreeSet BlockId) :
    List PreparedCandidate :=
  prepared.filter fun item => !selected.contains item.block.id

theorem leftOut_insertMany_lt (member : item ∈ prepared) (absent : item.block.id ∉ selected)
    (added : item.block.id ∈ missing) :
    (leftOut prepared (selected.insertMany missing)).length <
    (leftOut prepared selected).length := by
  have narrowed : leftOut prepared (selected.insertMany missing) =
      (leftOut prepared selected).filter fun other => !missing.contains other.block.id := by
    rw [leftOut, leftOut, filter_filter]
    refine filter_congr fun other _ => ?_
    rw [Bool.eq_iff_iff]
    simp only [Bool.not_eq_true', contains_eq_false_iff, mem_insertMany, Bool.and_eq_true,
      contains_eq_mem, decide_eq_false_iff_not, not_or]
    exact and_comm
  rw [narrowed]
  refine length_filter_lt_length_iff_exists.mpr ⟨item, ?_, ?_⟩
  · rw [leftOut, mem_filter]
    exact ⟨member, by simpa [contains_eq_false_iff] using absent⟩
  · simp [added]

theorem closeConflicts_ok {rounds : Nat} (success : closeConflicts prepared rounds selected =
    .ok closed)
    (enough : (leftOut prepared selected).length ≤ rounds) : (∀ id ∈ selected, id ∈ closed) ∧
      (∀ invariant : BlockId → Prop, (∀ id ∈ selected, invariant id) →
        (∀ held : BTreeSet BlockId, (∀ id ∈ held, invariant id) → ∀ id,
          NeedsConflict prepared held id → invariant id) → ∀ id ∈ closed, invariant id) ∧
      ∀ id, NeedsConflict prepared closed id → id ∈ closed := by
  -- A selection nothing is missing from is its own closure.
  have settled : ∀ {selected : BTreeSet BlockId} {missing : List BlockId},
      conflictAdditions prepared selected = .ok missing → missing = [] →
        (∀ id ∈ selected, id ∈ selected) ∧
        (∀ invariant : BlockId → Prop, (∀ id ∈ selected, invariant id) →
          (∀ held : BTreeSet BlockId, (∀ id ∈ held, invariant id) → ∀ id,
            NeedsConflict prepared held id → invariant id) → ∀ id ∈ selected, invariant id) ∧
        ∀ id, NeedsConflict prepared selected id → id ∈ selected := by
    intro selected missing added none
    refine ⟨fun _ member => member, fun invariant start _ => start, fun id needs => ?_⟩
    by_contra absent
    have listed := (mem_conflictAdditions added).mpr ⟨absent, needs⟩
    rw [none] at listed
    cases listed
  induction rounds generalizing selected with
  | zero =>
    obtain ⟨missing, added, success⟩ := bind_ok success
    have same : selected = closed := Except.ok.inj success
    subst same
    refine settled added ?_
    cases missing with
    | nil => rfl
    | cons first rest =>
      have needed := (mem_conflictAdditions added).mp mem_cons_self
      obtain ⟨absent, _, _, _, set, _, described, found, rfl⟩ := needed
      have inside : described ∈ leftOut prepared selected :=
        mem_filter.mpr ⟨mem_of_find?_eq_some found, by simpa [contains_eq_false_iff] using absent⟩
      rw [Nat.le_zero, length_eq_zero_iff] at enough
      rw [enough] at inside
      cases inside
  | succ rounds ih =>
    obtain ⟨missing, added, success⟩ := bind_ok success
    split at success
    · next none =>
      cases success
      exact settled added (isEmpty_iff.mp none)
    · next some =>
      obtain ⟨first, listed⟩ := exists_mem_of_ne_nil missing fun none => some (isEmpty_iff.mpr none)
      obtain ⟨absent, _, _, _, set, _, described, found, same⟩ :=
        (mem_conflictAdditions added).mp listed
      have fewer : (leftOut prepared (selected.insertMany missing)).length ≤ rounds := by
        have dropped := leftOut_insertMany_lt (mem_of_find?_eq_some found) (same ▸ absent)
          (same ▸ listed)
        omega
      obtain ⟨grown, sound, complete⟩ := ih success fewer
      refine ⟨fun id member => grown id (mem_insertMany.mpr (.inl member)), ?_, complete⟩
      intro invariant start step
      refine sound invariant ?_ step
      intro id member
      rcases mem_insertMany.mp member with before | fresh
      · exact start id before
      · exact step selected start id ((mem_conflictAdditions added).mp fresh).2

variable {selectedIds : BTreeSet BlockId}

theorem mem_mandatoryIds (selects : mandatoryIds request prepared = .ok selectedIds) :
    id ∈ selectedIds ↔ Demanded request.requiredFacets prepared id := by
  have enough : (leftOut prepared (selectRequiredFacets request.requiredFacets prepared
      (intrinsicMandatoryIds prepared))).length ≤ prepared.length :=
    length_filter_le _ _
  obtain ⟨grown, sound, complete⟩ := closeConflicts_ok selects enough
  constructor
  · refine sound (Demanded request.requiredFacets prepared) ?_ ?_ id
    · intro id member
      rcases mem_progressAfter.mp member with
        ⟨item, listed, intrinsic, rfl⟩ | ⟨earlier, requirement, later, best, split, fresh, picked,
          rfl⟩
      · exact .intrinsic listed intrinsic
      · exact .facet split fresh picked
    · rintro held demanded id ⟨item, listed, inside, set, contested, described, found, rfl⟩
      exact .conflict listed (demanded _ inside) contested found
  · intro demanded
    induction demanded with
    | intrinsic listed intrinsic =>
      exact grown _ (mem_progressAfter.mpr (.inl ⟨_, listed, intrinsic, rfl⟩))
    | facet split fresh picked =>
      exact grown _ (mem_progressAfter.mpr (.inr ⟨_, _, _, _, split, fresh, picked, rfl⟩))
    | conflict listed _ contested found ih =>
      exact complete _ ⟨_, listed, ih, _, contested, _, found, rfl⟩

/-- The authorized candidates that preparation and the conflict filter leave. -/
def ContextCompiler.preparedFor (library : Libraries) (tokenizer : TokenCounter)
    (request : CompileRequest) (provider : ContextProvider) : Result Prepared := do
  let materialized ← materializePolicyFirst library.blake3 request provider
  candidatesFor library tokenizer request materialized

/-- The identifiers reserved for generated unknowns, sixteen digits of a digest, collide
neither with a candidate's nor with each other. -/
structure UnknownIdsFree (library : Libraries) (request : CompileRequest)
    (prepared : List PreparedCandidate) : Prop where
  unclaimed : ∀ item ∈ prepared, ∀ requirement ∈ request.requiredFacets,
    item.block.id.text ≠ unknownIdText library.blake3 requirement.name
  distinct : ∀ first ∈ request.requiredFacets, ∀ second ∈ request.requiredFacets,
    unknownIdText library.blake3 first.name = unknownIdText library.blake3 second.name →
      first = second

theorem prepareMissingUnknown_id {facet : String}
    (success : prepareMissingUnknown library tokenizer request facet = .ok item) :
    item.block.id.text = unknownIdText library.blake3 facet := by
  obtain ⟨id, created, success⟩ := bind_ok success
  have success := rest_ok success
  obtain ⟨_, _, success⟩ := bind_ok success
  obtain ⟨_, _, success⟩ := bind_ok success
  cases success
  exact Handle.new_text created

variable {run : PageRun}

theorem PageRun.Of.demanded_mem (of : run.Of library compiler request provider tokenizer result)
    (free : UnknownIdsFree library request run.prepared.candidates)
    (member : item ∈ run.prepared.candidates)
    (demanded : Demanded request.requiredFacets run.prepared.candidates item.block.id) :
    item.block ∈ result.pack.sections.iter := by
  obtain ⟨selectedIds, generated, mandatoryOf⟩ := selectMandatory_ok of.mandatory
  obtain ⟨found, present⟩ :=
    mandatoryOf.selects (mandatoryOf.mem_prepared.mpr (.inl member))
      (.inl ((mem_mandatoryIds mandatoryOf.closed).mpr demanded))
  obtain ⟨listed, identified⟩ := mandatoryOf.drawn _ found present
  -- The entry is a prepared candidate, and identifiers are distinct among those.
  have same : found = item := by
    rcases mandatoryOf.mem_prepared.mp listed with before | fresh
    · obtain ⟨intake, takes, materialized, _⟩ := materializePolicyFirst_ok of.materialized
      have distinct := (candidatesFor_ok of.prepared).2.1
        (materialized ▸ takeCandidates_nodup takes)
      exact inj_on_of_nodup_map distinct before member identified
    · obtain ⟨requirement, missing, creates⟩ := exists_item_of_mapM_ok mandatoryOf.generates fresh
      have reserved := prepareMissingUnknown_id creates
      rw [identified] at reserved
      exact absurd reserved (free.unclaimed item member requirement (mem_of_mem_filter missing))
  subst same
  obtain ⟨continuation, shows⟩ := of.shows
  refine shows.mem_sections.mpr ⟨found, ?_, rfl⟩
  exact BTreeMap.mem_inOrder.mpr ⟨_, of.keepsMandatory present⟩

/-- The pack holds a block under the identifier reserved for a facet exactly when the facet
was left unestablished. -/
theorem PageRun.Of.unknown_mem_iff (of : run.Of library compiler request provider tokenizer result)
    (free : UnknownIdsFree library request run.prepared.candidates)
    (selects : mandatoryIds request run.prepared.candidates = .ok selectedIds)
    (required : requirement ∈ request.requiredFacets) : (∃ block ∈ result.pack.sections.iter,
        block.id.text = unknownIdText library.blake3 requirement.name) ↔
      requirementSatisfied requirement run.prepared.candidates selectedIds = false := by
  obtain ⟨chosenIds, generated, mandatoryOf⟩ := selectMandatory_ok of.mandatory
  cases Except.ok.inj (selects.symm.trans mandatoryOf.closed)
  obtain ⟨continuation, shows⟩ := of.shows
  constructor
  · rintro ⟨block, inside, reserved⟩
    obtain ⟨item, selected, rfl⟩ := shows.mem_sections.mp inside
    obtain ⟨id, present⟩ := BTreeMap.mem_inOrder.mp selected
    rcases mandatoryOf.mem_prepared.mp (of.drawn id item present).1 with before | fresh
    · exact absurd reserved (free.unclaimed item before requirement required)
    · obtain ⟨other, missing, creates⟩ := exists_item_of_mapM_ok mandatoryOf.generates fresh
      obtain ⟨listed, unsatisfied⟩ := mem_filter.mp missing
      have same := free.distinct other listed requirement required
        ((prepareMissingUnknown_id creates).symm.trans reserved)
      subst same
      simpa using unsatisfied
  · intro unsatisfied
    have missing : requirement ∈ missingRequirements request run.prepared.candidates selectedIds :=
      mem_filter.mpr ⟨required, by simpa using unsatisfied⟩
    obtain ⟨item, fresh, creates⟩ := exists_value_of_mapM_ok mandatoryOf.generates missing
    obtain ⟨found, present⟩ :=
      mandatoryOf.selects (mandatoryOf.mem_prepared.mpr (.inr fresh)) (.inr fresh)
    have identified := (mandatoryOf.drawn _ found present).2
    refine ⟨found.block, shows.mem_sections.mpr ⟨found, ?_, rfl⟩, ?_⟩
    · exact BTreeMap.mem_inOrder.mpr ⟨_, of.keepsMandatory present⟩
    · rw [identified]
      exact prepareMissingUnknown_id creates

theorem PreparedCandidate.meets_block : item.meets requirement = item.block.meets requirement := by
  rw [Bool.eq_iff_iff]
  simp [PreparedCandidate.meets, ContextBlock.meets, PreparedCandidate.effectiveFacets,
    ContextBlock.effectiveFacets, contains_eq_false_iff, and_assoc]

theorem requirementSatisfied_iff (selects : mandatoryIds request prepared = .ok selectedIds) :
    requirementSatisfied requirement prepared selectedIds = true ↔
      ∃ item ∈ prepared, Demanded request.requiredFacets prepared item.block.id ∧
        item.meets requirement = true := by
  simp [requirementSatisfied, any_eq_true, mem_mandatoryIds selects]

/-- The candidate a requirement prefers: of those that meet it, the one of the greatest
confidence, then of the greatest utility, then of the least identifier. -/
def preferred (prepared : List PreparedCandidate) (requirement : PackFacetRequirement) :
    Option PreparedCandidate :=
  maxBy facetOrder (prepared.filter (·.meets requirement))

/-- Whether a facet is still open after the requirements `before`, nearest first: no intrinsic
candidate covers it, nor does the one preferred for an earlier facet that was open itself. -/
def Leads (prepared : List PreparedCandidate) : List PackFacetRequirement → String → Prop
  | [], facet => ∀ item ∈ prepared, item.isIntrinsic = true → facet ∉ item.effectiveFacets
  | last :: before, facet => Leads prepared before facet ∧ (Leads prepared before last.name →
      ∀ best, preferred prepared last = some best → facet ∉ best.effectiveFacets)

/-- A required facet that no candidate taken before its place in the list covers. -/
def LeadsIn (requirements : List PackFacetRequirement) (prepared : List PreparedCandidate)
    (requirement : PackFacetRequirement) : Prop :=
  ∃ earlier later, requirements = earlier ++ requirement :: later ∧
    Leads prepared earlier.reverse requirement.name

/-- The manifest of the conflict a candidate is in. -/
def Manifest (prepared : List PreparedCandidate) (item described : PreparedCandidate) : Prop :=
  ∃ set, item.block.epistemic.conflict = .inConflict set ∧
    prepared.find? (describes set) = some described

/-- An intrinsic candidate, or a manifest that a chain of conflicts leads to from one. -/
def FollowsIntrinsic (prepared : List PreparedCandidate) (item : PreparedCandidate) : Prop :=
  ∃ start ∈ prepared, start.isIntrinsic = true ∧ Relation.ReflTransGen
    (Manifest prepared) start item

theorem FollowsIntrinsic.demanded (follows : FollowsIntrinsic prepared item) :
    Demanded requirements prepared item.block.id := by
  obtain ⟨start, inside, intrinsic, chain⟩ := follows
  have held : item ∈ prepared ∧ Demanded requirements prepared item.block.id := by
    induction chain with
    | refl => exact ⟨inside, .intrinsic inside intrinsic⟩
    | tail _ last ih =>
      obtain ⟨set, contested, found⟩ := last
      exact ⟨mem_of_find?_eq_some found, .conflict ih.1 ih.2 contested found⟩
  exact held.2

section Distinct

variable (distinct : (prepared.map (·.block.id)).Nodup)

include distinct

theorem mem_intrinsicMandatoryIds (member : item ∈ prepared) :
    item.block.id ∈ intrinsicMandatoryIds prepared ↔ item.isIntrinsic = true := by
  rw [intrinsicMandatoryIds, mem_insertMany]
  constructor
  · rintro (none | listed)
    · exact absurd none ExtTreeSet.not_mem_empty
    · obtain ⟨other, chosen, same⟩ := mem_map.mp listed
      obtain ⟨inside, intrinsic⟩ := mem_filter.mp chosen
      rwa [← inj_on_of_nodup_map distinct inside member same]
  · intro intrinsic
    exact .inr (mem_map.mpr ⟨item, mem_filter.mpr ⟨member, intrinsic⟩, rfl⟩)

theorem not_mem_covered_iff_leads {facet : String} :
    facet ∉ (progressAfter prepared requirements).covered ↔
      Leads prepared requirements.reverse facet := by
  induction requirements using reverseRecOn generalizing facet with
  | nil =>
    simp only [progressAfter, foldl_nil, coveredFacets, mem_insertMany, mem_flatMap, mem_filter,
      ExtTreeSet.contains_iff_mem, reverse_nil, Leads, ExtTreeSet.mem_toList, not_or, not_exists,
      not_and]
    constructor
    · rintro ⟨_, uncovered⟩ item member intrinsic
      exact uncovered item ⟨member, (mem_intrinsicMandatoryIds distinct member).mpr intrinsic⟩
    · intro leads
      refine ⟨ExtTreeSet.not_mem_empty, fun item ⟨member, inside⟩ => ?_⟩
      exact leads item member ((mem_intrinsicMandatoryIds distinct member).mp inside)
  | append_singleton requirements last ih =>
    have stepped : progressAfter prepared (requirements ++ [last]) =
        selectFacet prepared (progressAfter prepared requirements) last := by
      simp [progressAfter]
    rw [stepped, reverse_append, reverse_singleton, singleton_append, Leads, ← ih, ← ih,
      selectFacet]
    by_cases covered : last.name ∈ (progressAfter prepared requirements).covered
    · rw [if_pos (ExtTreeSet.contains_iff_mem.mpr covered)]
      exact ⟨fun uncovered => ⟨uncovered, fun opens => absurd covered opens⟩, And.left⟩
    · rw [if_neg (mt ExtTreeSet.contains_iff_mem.mp covered)]
      cases picked : maxBy facetOrder (prepared.filter (·.meets last)) with
      | none =>
        refine ⟨fun uncovered => ⟨uncovered, fun _ best found => ?_⟩, And.left⟩
        rw [preferred, picked] at found
        cases found
      | some best =>
        simp only [mem_insertMany, ExtTreeSet.mem_toList, not_or, covered, not_false_eq_true,
          forall_const, preferred, picked, Option.some.injEq, forall_eq']

theorem demanded_cases (demanded : Demanded requirements prepared id) (member : item ∈ prepared)
    (identified : item.block.id = id) : FollowsIntrinsic prepared item ∨
      ∃ other, LeadsIn requirements prepared other ∧ preferred prepared other = some item := by
  induction demanded generalizing item with
  | intrinsic listed intrinsic =>
    cases inj_on_of_nodup_map distinct member listed identified
    exact .inl ⟨_, listed, intrinsic, .refl⟩
  | facet split fresh picked =>
    cases inj_on_of_nodup_map distinct member (mem_filter.mp (mem_maxBy picked)).1 identified
    exact .inr ⟨_, ⟨_, _, split, (not_mem_covered_iff_leads distinct).mp fresh⟩, picked⟩
  | conflict listed _ contested found ih =>
    cases inj_on_of_nodup_map distinct member (mem_of_find?_eq_some found) identified
    rcases ih listed rfl with ⟨start, inside, intrinsic, chain⟩ | ⟨other, _, picked⟩
    · exact .inl ⟨start, inside, intrinsic, chain.tail ⟨_, contested, found⟩⟩
    · -- A candidate in an open conflict meets no requirement, so none prefers it.
      have meets := (mem_filter.mp (mem_maxBy picked)).2
      simp [PreparedCandidate.meets, blockSatisfiesRequirement, contested] at meets

theorem LeadsIn.demanded {other : PackFacetRequirement}
    (leads : LeadsIn requirements prepared other)
    (picked : preferred prepared other = some item) :
    Demanded requirements prepared item.block.id := by
  obtain ⟨earlier, later, split, opens⟩ := leads
  exact .facet split ((not_mem_covered_iff_leads distinct).mpr opens) picked

end Distinct

/-- Where some candidate meets the requirement, one is preferred for it. -/
theorem exists_preferred (member : item ∈ prepared) (meets : item.meets requirement = true) :
    ∃ best ∈ prepared, preferred prepared requirement = some best ∧
      best.meets requirement = true := by
  have listed : item ∈ prepared.filter (·.meets requirement) := mem_filter.mpr ⟨member, meets⟩
  cases picked : maxBy facetOrder (prepared.filter (·.meets requirement)) with
  | none =>
    cases offers : prepared.filter (·.meets requirement) with
    | nil =>
      rw [offers] at listed
      cases listed
    | cons first rest =>
      rw [offers] at picked
      cases picked
  | some best =>
    obtain ⟨inside, satisfied⟩ := mem_filter.mp (mem_maxBy picked)
    exact ⟨best, inside, picked, satisfied⟩

/-- A required facet some candidate meets is established in the returned pack exactly when it
leads, or a candidate that meets it follows an intrinsic one or is preferred for a facet that
leads. The facet loop skips a facet already covered, and coverage says nothing about
confidence, evidence or acceptance, so a weak mandatory block can keep the good one out. -/
theorem required_facet_met_iff {prepared : Prepared}
    (success : compiler.compile library request provider tokenizer = .ok result)
    (prepares : preparedFor library tokenizer request provider = .ok prepared)
    (free : UnknownIdsFree library request prepared.candidates)
    (required : requirement ∈ request.requiredFacets)
    (met : ∃ item ∈ prepared.candidates, item.meets requirement = true) :
    (requirement.name ∉ result.pack.compilation.sufficiency.missingFacets ∧
      ∀ block ∈ result.pack.sections.iter,
          block.id.text ≠ unknownIdText library.blake3 requirement.name) ↔
      LeadsIn request.requiredFacets prepared.candidates requirement ∨
        ∃ item ∈ prepared.candidates, item.meets requirement = true ∧
          (FollowsIntrinsic prepared.candidates item ∨ ∃ other,
            LeadsIn request.requiredFacets prepared.candidates other ∧
              preferred prepared.candidates other = some item) := by
  obtain ⟨run, of⟩ := compile_ok success
  obtain ⟨materialized, materializes, prepares⟩ := bind_ok prepares
  cases Except.ok.inj (materializes.symm.trans of.materialized)
  cases Except.ok.inj (prepares.symm.trans of.prepared)
  obtain ⟨selectedIds, generated, mandatoryOf⟩ := selectMandatory_ok of.mandatory
  have unknown_iff := of.unknown_mem_iff free mandatoryOf.closed required
  obtain ⟨intake, takes, drawn, _⟩ := materializePolicyFirst_ok of.materialized
  have distinct := (candidatesFor_ok of.prepared).2.1 (drawn ▸ takeCandidates_nodup takes)
  constructor
  · rintro ⟨_, generatedNone⟩
    have satisfied : requirementSatisfied requirement run.prepared.candidates selectedIds =
      true := by
      by_contra unsatisfied
      obtain ⟨block, inside, reserved⟩ := unknown_iff.mpr (by simpa using unsatisfied)
      exact generatedNone block inside reserved
    obtain ⟨item, member, demanded,
      meets⟩ := (requirementSatisfied_iff mandatoryOf.closed).mp satisfied
    exact .inr ⟨item, member, meets, demanded_cases distinct demanded member rfl⟩
  · intro condition
    obtain ⟨item, member, demanded, meets⟩ : ∃ item ∈ run.prepared.candidates,
        Demanded request.requiredFacets run.prepared.candidates item.block.id ∧
          item.meets requirement = true := by
      rcases condition with leads | ⟨item, member, meets, follows | ⟨other, leads, picked⟩⟩
      · obtain ⟨item, member, meets⟩ := met
        obtain ⟨best, inside, picked, satisfied⟩ := exists_preferred member meets
        exact ⟨best, inside, leads.demanded distinct picked, satisfied⟩
      · exact ⟨item, member, follows.demanded, meets⟩
      · exact ⟨item, member, leads.demanded distinct picked, meets⟩
    constructor
    · obtain ⟨continuation, shows⟩ := of.shows
      have inside := of.demanded_mem free member demanded
      have pack : result.pack.sections = sectionsOf
        (sortBy packOrder run.reached.selected.inOrder) := shows.sections
      rw [shows.sufficiency, ← pack]
      intro missing
      have unmet : ∃ other ∈ request.requiredFacets,
          (∀ block ∈ result.pack.sections.iter, block.meets other = false) ∧
            other.name = requirement.name := by
        simpa [assessSufficiency, and_assoc] using missing
      obtain ⟨other, listed, none, named⟩ := unmet
      -- Required facets have distinct names, so the missing one is this one.
      have same : other = requirement :=
        inj_on_of_nodup_map (requiredFacets_nodup of.bound) listed required named
      subst same
      rw [PreparedCandidate.meets_block, none _ inside] at meets
      cases meets
    · intro block inside reserved
      have unsatisfied := unknown_iff.mp ⟨block, inside, reserved⟩
      rw [(requirementSatisfied_iff mandatoryOf.closed).mpr
        ⟨item, member, demanded, meets⟩] at unsatisfied
      cases unsatisfied

/-! ### The colour of the wall -/

private def colour : PackFacetRequirement := ⟨"color", 500000, false⟩

private def wall : PackCandidate := deskCandidate "wall" .participant ["color"] 1000000 1

/-- A block that establishes the facet is picked when nothing covers it before. -/
theorem required_facet_met_iff_wall : ∃ result prepared, deskCompiler.compile deskLibraries
    (deskRequest [colour])
        (deskProvider [deskCandidate "situation" .situation [] 0 1,
          wall]) deskTokenizer = .ok result ∧
      preparedFor deskLibraries deskTokenizer (deskRequest [colour])
        (deskProvider [deskCandidate "situation" .situation [] 0 1, wall]) = .ok prepared ∧
      ((colour.name ∉ result.pack.compilation.sufficiency.missingFacets ∧
        ∀ block ∈ result.pack.sections.iter,
            block.id.text ≠ unknownIdText deskLibraries.blake3 colour.name) ↔
        LeadsIn [colour] prepared.candidates colour ∨
          ∃ item ∈ prepared.candidates, item.meets colour = true ∧
            (FollowsIntrinsic prepared.candidates item ∨ ∃ other,
              LeadsIn [colour] prepared.candidates other ∧
                preferred prepared.candidates other = some item)) := by
  have compiled : yields (deskCompiler.compile deskLibraries (deskRequest [colour])
      (deskProvider [deskCandidate "situation" .situation [] 0 1, wall]) deskTokenizer)
      (fun _ => true) = true := by decide +kernel
  have prepared : yields (preparedFor deskLibraries deskTokenizer
      (deskRequest [colour]) (deskProvider [deskCandidate "situation" .situation [] 0 1, wall]))
      (fun prepared => prepared.candidates.any (·.meets colour) &&
        prepared.candidates.all fun item => [colour].all fun requirement =>
          item.block.id.text != unknownIdText deskLibraries.blake3 requirement.name) = true := by
    decide +kernel
  obtain ⟨result, success, _⟩ := yields_iff.mp compiled
  obtain ⟨prepared, prepares, facts⟩ := yields_iff.mp prepared
  rw [Bool.and_eq_true, any_eq_true, all_eq_true] at facts
  refine ⟨result, prepared, success, prepares,
    required_facet_met_iff success prepares ?_ mem_cons_self facts.1⟩
  constructor
  · intro item member requirement listed
    have free := all_eq_true.mp (facts.2 item member) requirement listed
    simpa using free
  · intro first listed second other _
    rw [mem_singleton.mp listed, mem_singleton.mp other]

/-- A situation that merely covers the facet, with no confidence at all, keeps the wall out:
the facet is reported missing and a blocking unknown stands for it. -/
theorem weak_situation_hides_wall : yields (preparedFor deskLibraries deskTokenizer
    (deskRequest [colour])
      (deskProvider [deskCandidate "situation" .situation ["color"] 0 1, wall]))
      (fun prepared => prepared.candidates.any (·.meets colour)) = true ∧
    yields (deskCompiler.compile deskLibraries (deskRequest [colour])
      (deskProvider [deskCandidate "situation" .situation ["color"] 0 1, wall]) deskTokenizer)
      (fun result => result.pack.compilation.sufficiency.missingFacets.contains "color" &&
        (result.pack.sections.blocksOf .unknown).any fun block =>
          block.id.text == "unknown:ca864f5fe8f008d0" &&
            block.unknown.any (·.blocking)) = true := by
  constructor <;> decide +kernel

end ContextDb.Context
