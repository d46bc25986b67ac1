import ContextDb.Lib.Collections
import ContextDb.Lib.Fallible

/-! Transitive closure by rounds. Each round adds the candidates that depend on a
member; the loop stops at the first round without a discovery. Every productive
round removes a candidate, so as many rounds as candidates reach the closure. -/

set_option autoImplicit false

namespace ContextDb.Lib

open Std BTreeSet List

variable {Item : Type} [Ord Item] [TransOrd Item]

/-- One round: the candidates outside the closure that depend on a member. -/
def discover (dependsOn : Item → BTreeSet Item → Bool) (candidates : List Item)
    (closure : BTreeSet Item) : List Item :=
  candidates.filter fun item => !closure.contains item && dependsOn item closure

def saturate (dependsOn : Item → BTreeSet Item → Bool) (candidates : List Item) : Nat →
    BTreeSet Item → BTreeSet Item
  | 0, closure => closure
  | fuel + 1, closure =>
    match discover dependsOn candidates closure with
    | [] => closure
    | item :: rest =>
      saturate dependsOn candidates fuel (closure.insertMany (item :: rest))

variable {dependsOn : Item → BTreeSet Item → Bool} {names : Item → Item → Prop}
  {candidates : List Item} {closure roots : BTreeSet Item} {item : Item}

/-- The declarative closure: chains of candidates, each naming the one before. -/
def Reaches (names : Item → Item → Prop) (candidates : List Item) (roots : BTreeSet Item)
    (item : Item) : Prop :=
  ∃ root ∈ roots, Relation.ReflTransGen (fun earlier later => later ∈ candidates ∧
    names later earlier) root item

private def outside (candidates : List Item) (closure : BTreeSet Item) : List Item :=
  candidates.filter fun item => !closure.contains item

variable [LawfulEqOrd Item]

private theorem outside_insertMany_lt {discovered : List Item} (member : item ∈ discovered)
    (candidate : item ∈ candidates) (fresh : item ∉ closure) :
    (outside candidates (closure.insertMany discovered)).length <
    (outside candidates closure).length := by
  have narrowed : outside candidates (closure.insertMany discovered) =
    (outside candidates closure).filter fun item =>
        !(closure.insertMany discovered).contains item := by
    simp only [outside, filter_filter]
    refine filter_congr fun candidate _ => ?_
    cases later : (closure.insertMany discovered).contains candidate with
    | true => simp
    | false =>
      have absent := contains_eq_false_iff.mp later
      have earlier : candidate ∉ closure := fun held => absent (mem_insertMany.mpr (.inl held))
      simp [contains_eq_false_iff.mpr earlier]
  rw [narrowed, length_filter_lt_length_iff_exists]
  refine ⟨item, mem_filter.mpr ⟨candidate, ?_⟩, ?_⟩
  · simp [contains_eq_false_iff.mpr fresh]
  · simp [mem_insertMany, member]

variable {fuel : Nat}

private theorem saturate_extends (member : item ∈ closure) :
    item ∈ saturate dependsOn candidates fuel closure := by
  induction fuel generalizing closure with
  | zero => exact member
  | succ fuel ih =>
    simp only [saturate]
    cases discover dependsOn candidates closure with
    | nil => exact member
    | cons first rest =>
      refine ih ?_
      exact mem_insertMany.mpr (.inl member)

section

variable (spec : ∀ item closure, dependsOn item closure = true ↔ ∃ named ∈ closure,
    names item named)
include spec

omit [LawfulEqOrd Item] in
theorem mem_discover_iff : item ∈ discover dependsOn candidates closure ↔
      item ∈ candidates ∧ item ∉ closure ∧ ∃ named ∈ closure, names item named := by
  simp [discover, spec, contains_eq_false_iff]

private theorem saturate_sound (sound : ∀ item ∈ closure, Reaches names candidates roots item)
    (member : item ∈ saturate dependsOn candidates fuel closure) :
    Reaches names candidates roots item := by
  induction fuel generalizing closure with
  | zero => exact sound item member
  | succ fuel ih =>
    simp only [saturate] at member
    cases discovered : discover dependsOn candidates closure with
    | nil =>
      rw [discovered] at member
      exact sound item member
    | cons first rest =>
      rw [discovered] at member
      refine ih ?_ member
      intro added addedMember
      rcases mem_insertMany.mp addedMember with earlier | found
      · exact sound added earlier
      · have fresh : added ∈ discover dependsOn candidates closure := by
          rw [discovered]
          exact found
        obtain ⟨candidate, _, named, namedMember, naming⟩ := (mem_discover_iff spec).mp fresh
        obtain ⟨root, rootMember, chain⟩ := sound named namedMember
        exact ⟨root, rootMember, chain.tail ⟨candidate, naming⟩⟩

private theorem saturate_closed (enough : (outside candidates closure).length ≤ fuel) {named : Item}
    (candidate : item ∈ candidates)
    (namedMember : named ∈ saturate dependsOn candidates fuel closure)
    (naming : names item named) : item ∈ saturate dependsOn candidates fuel closure := by
  induction fuel generalizing closure with
  | zero =>
    have empty : outside candidates closure = [] := eq_nil_of_length_eq_zero (by omega)
    by_contra fresh
    have present : item ∈ outside candidates closure :=
      mem_filter.mpr ⟨candidate, by simpa [saturate, contains_eq_false_iff] using fresh⟩
    simp [empty] at present
  | succ fuel ih =>
    simp only [saturate] at namedMember ⊢
    cases discovered : discover dependsOn candidates closure with
    | nil =>
      rw [discovered] at namedMember
      by_contra fresh
      have found : item ∈ discover dependsOn candidates closure :=
        (mem_discover_iff spec).mpr ⟨candidate, fresh, named, namedMember, naming⟩
      simp [discovered] at found
    | cons first rest =>
      rw [discovered] at namedMember
      have firstFound : first ∈ discover dependsOn candidates closure := by simp [discovered]
      obtain ⟨firstCandidate, firstFresh, _⟩ := (mem_discover_iff spec).mp firstFound
      have fewer := outside_insertMany_lt (mem_cons_self (l := rest)) firstCandidate firstFresh
      exact ih (by omega) namedMember

theorem mem_saturate_iff (enough : candidates.length ≤ fuel) :
    item ∈ saturate dependsOn candidates fuel roots ↔ Reaches names candidates roots item := by
  constructor
  · exact saturate_sound spec fun root member => ⟨root, member, .refl⟩
  · rintro ⟨root, rootMember, chain⟩
    have rounds : (outside candidates roots).length ≤ fuel :=
      Nat.le_trans (length_filter_le _ _) enough
    induction chain with
    | refl => exact saturate_extends rootMember
    | tail _ step ih => exact saturate_closed spec rounds step.1 ih step.2

end

end ContextDb.Lib
