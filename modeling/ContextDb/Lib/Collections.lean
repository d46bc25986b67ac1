import Std.Data.ExtTreeMap
import Std.Data.ExtTreeSet
import Mathlib.Data.List.Sort

/-! Ordered maps and sets with extensional equality. Iteration follows the key
order, so a fallible loop over a map reports the failure of its least key. -/

set_option autoImplicit false

namespace ContextDb.Lib

open Std ExtTreeMap

abbrev BTreeMap (Key Value : Type) [Ord Key] := ExtTreeMap Key Value compare

abbrev BTreeSet (Key : Type) [Ord Key] := ExtTreeSet Key compare

section

variable {Key Rank : Type} [Ord Rank]

theorem lawfulEqCmp_compareOn [LawfulEqOrd Rank] (rank : Key → Rank)
    (injective : ∀ left right, rank left = rank right → left = right) : LawfulEqCmp (compareOn rank) where
  compare_self := by
    intro key
    exact (Std.compare_eq_iff_eq (a := rank key) (b := rank key)).mpr rfl
  eq_of_compare := by
    intro left right equal
    exact injective left right ((Std.compare_eq_iff_eq (a := rank left) (b := rank right)).mp equal)

end

namespace BTreeSet

variable {Key : Type} [Ord Key] [TransOrd Key] (left right : BTreeSet Key)

def isSubset : Bool :=
  left.toList.all right.contains

def anyElement (set : BTreeSet Key) (test : Key → Bool) : Bool :=
  set.toList.any test

def isDisjoint : Bool :=
  !left.toList.any right.contains

def difference : BTreeSet Key :=
  (∅ : BTreeSet Key).insertMany (left.toList.filter fun key => !right.contains key)

def intersection : BTreeSet Key :=
  (∅ : BTreeSet Key).insertMany (left.toList.filter right.contains)

variable {set : BTreeSet Key}

theorem isEmpty_eq_false_iff_exists_mem : set.isEmpty = false ↔ ∃ key, key ∈ set := by
  rw [ExtTreeSet.isEmpty_eq_false_iff, ExtTreeSet.eq_empty_iff_forall_not_mem]
  simp

variable {key : Key}

theorem contains_eq_false_iff : set.contains key = false ↔ key ∉ set := by
  rw [← ExtTreeSet.contains_iff_mem, Bool.not_eq_true]

variable [LawfulEqOrd Key] {left right : BTreeSet Key}

theorem isSubset_iff : isSubset left right = true ↔ ∀ key ∈ left, key ∈ right := by
  simp [isSubset, List.all_eq_true]

theorem anyElement_iff {test : Key → Bool} : anyElement set test = true ↔ ∃ key ∈ set, test key = true := by
  simp [anyElement, List.any_eq_true]

theorem mem_insertMany {keys : List Key} : key ∈ set.insertMany keys ↔ key ∈ set ∨ key ∈ keys := by
  classical
  rw [ExtTreeSet.mem_insertMany_list, List.contains_iff_mem]

@[simp] theorem mem_difference : key ∈ difference left right ↔ key ∈ left ∧ key ∉ right := by
  simp [difference, mem_insertMany, contains_eq_false_iff]

end BTreeSet

namespace BTreeMap

variable {Key Value : Type} [Ord Key] [TransOrd Key]

/-- Update the entry of `key`, starting from `fallback` when it is vacant. -/
def updateEntry (map : BTreeMap Key Value) (key : Key) (fallback : Value)
    (update : Value → Value) : BTreeMap Key Value :=
  map.insert key (update (map[key]?.getD fallback))

def inOrder (map : BTreeMap Key Value) : List Value :=
  map.toList.map (·.2)

variable [LawfulEqOrd Key] {value fallback : Value}
variable {map : BTreeMap Key Value}

theorem mem_inOrder : value ∈ map.inOrder ↔ ∃ key : Key, map[key]? = some value := by
  simp [inOrder, mem_toList_iff_getElem?_eq_some]

variable {entries : List (Key × Value)} {key : Key}

theorem getElem?_insert_cases {other : Key} {stored : Value} (found : (map.insert key value)[other]? = some stored) :
    (key = other ∧ value = stored) ∨ (key ≠ other ∧ map[other]? = some stored) := by
  rw [getElem?_insert] at found
  split at found
  · next same => exact .inl ⟨Std.compare_eq_iff_eq.mp same, Option.some.inj found⟩
  · next apart => exact .inr ⟨fun same => apart (Std.compare_eq_iff_eq.mpr same), found⟩

theorem getElem?_insertMany_cases (found : (map.insertMany entries)[key]? = some value) :
    (key, value) ∈ entries ∨ map[key]? = some value := by
  induction entries generalizing map with
  | nil => exact .inr (by simpa using found)
  | cons entry rest ih =>
    rw [ExtTreeMap.insertMany_cons] at found
    rcases ih found with listed | before
    · exact .inl (List.mem_cons_of_mem _ listed)
    · rcases getElem?_insert_cases before with ⟨rfl, rfl⟩ | ⟨_, before⟩
      · exact .inl List.mem_cons_self
      · exact .inr before

theorem getElem?_insertMany_isSome (present : (∃ value, (key, value) ∈ entries) ∨ ∃ value, map[key]? = some value) :
    ∃ value, (map.insertMany entries)[key]? = some value := by
  induction entries generalizing map with
  | nil => simpa using present
  | cons entry rest ih =>
    rw [ExtTreeMap.insertMany_cons]
    refine ih ?_
    by_cases same : entry.1 = key
    · exact .inr ⟨entry.2, by simp [same]⟩
    · rcases present with ⟨value, listed⟩ | before
      · rcases List.mem_cons.mp listed with rfl | listed
        · exact absurd rfl same
        · exact .inl ⟨value, listed⟩
      · exact .inr (by simpa [getElem?_insert, same] using before)

variable {other : Key}

theorem getElem?_insert_of_ne (different : key ≠ other) : (map.insert key value)[other]? = map[other]? := by
  simp [getElem?_insert, different]

variable {update : Value → Value}

theorem getElem?_updateEntry [DecidableEq Key] : (updateEntry map key fallback update)[other]? =
      if key = other then some (update (map[key]?.getD fallback)) else map[other]? := by
  simp [updateEntry, getElem?_insert]

theorem getElem?_updateEntry_of_ne (different : key ≠ other) :
    (updateEntry map key fallback update)[other]? = map[other]? := by
  simp [updateEntry, getElem?_insert, different]

end BTreeMap

/-! Stable sorting under a comparison and the check for neighbours that share a key. A
sorted list without such neighbours is determined by the members alone, whatever order
they arrived in. -/

open List

variable {Item Key : Type} (order : Item → Item → Ordering)

def sortBy (items : List Item) : List Item :=
  items.insertionSort fun left right => (order left right).isLE = true

def adjacentRepeat [BEq Key] (key : Item → Key) : List Item → Bool
  | first :: second :: rest => key first == key second || adjacentRepeat key (second :: rest)
  | _ => false

/-- Largest first, ties by ascending key: the order of every ranking. -/
def descending [Ord Key] (ranked other : Key × Nat) : Ordering :=
  (compare other.2 ranked.2).then (compare ranked.1 other.1)

theorem sortBy_perm (items : List Item) : (sortBy order items).Perm items :=
  perm_insertionSort _ items

variable {items : List Item}

@[simp] theorem mem_sortBy {order : Item → Item → Ordering} {item : Item} : item ∈ sortBy order items ↔ item ∈ items :=
  (sortBy_perm order items).mem_iff

theorem sortBy_pairwise [TransCmp order] (items : List Item) :
    (sortBy order items).Pairwise fun left right => (order left right).isLE = true := by
  have total : Std.Total fun left right => (order left right).isLE = true := by
    refine ⟨fun left right => ?_⟩
    rw [@OrientedCmp.eq_swap _ order _ right]
    cases order left right <;> simp
  have trans : IsTrans Item fun left right => (order left right).isLE = true :=
    ⟨fun _ _ _ => TransCmp.isLE_trans⟩
  exact pairwise_insertionSort _ items

variable {key : Item → Key}

theorem sortBy_ordered [Ord Key] [TransOrd Key]
    (ordered : items.Pairwise fun first second => compare (key first) (key second) = .lt) :
    sortBy (compareOn key) items = items := by
  refine List.Pairwise.insertionSort_eq (ordered.imp ?_)
  intro first second before
  simp [compareOn, before]

/-- A sort does not depend on the order of its input where the order tells the items apart. -/
theorem sortBy_eq_of_perm {order : Item → Item → Ordering} [TransCmp order]
    {left right : List Item} (permuted : left.Perm right)
    (separated : ∀ first ∈ left, ∀ second ∈ left, order first second = .eq → first = second) :
    sortBy order left = sortBy order right := by
  refine List.Perm.eq_of_pairwise ?_ (sortBy_pairwise order left) (sortBy_pairwise order right)
    ((sortBy_perm order left).trans (permuted.trans (sortBy_perm order right).symm))
  intro first second firstMember secondMember forward backward
  refine separated first (mem_sortBy.mp firstMember) second (permuted.mem_iff.mpr (mem_sortBy.mp secondMember)) ?_
  exact OrientedCmp.isLE_antisymm forward backward

section

variable [Ord Key] [TransOrd Key] [LawfulEqOrd Key] [BEq Key] [LawfulBEq Key]

private theorem adjacentRepeat_eq_false_iff
    (sorted : items.Pairwise fun left right => (compareOn key left right).isLE = true) :
    adjacentRepeat key items = false ↔ (items.map key).Nodup := by
  induction items with
  | nil => simp [adjacentRepeat]
  | cons first rest ih =>
    obtain ⟨below, ordered⟩ := pairwise_cons.mp sorted
    cases rest with
    | nil => simp [adjacentRepeat]
    | cons second rest =>
      rw [adjacentRepeat, Bool.or_eq_false_iff, ih ordered, map_cons (a := first), nodup_cons (a := key first)]
      refine and_congr_left fun _ => ?_
      -- A later equal key would lie between its neighbour and itself.
      rw [beq_eq_false_iff_ne]
      constructor
      · intro different member
        obtain ⟨later, laterMember, same⟩ := mem_map.mp member
        rcases mem_cons.mp laterMember with rfl | laterMember
        · exact different same.symm
        · have upper := (pairwise_cons.mp ordered).1 later laterMember
          have lower := below second mem_cons_self
          simp only [compareOn, same] at upper lower
          have equal : compare (key first) (key second) = .eq :=
            OrientedCmp.isLE_antisymm lower upper
          exact different (Std.compare_eq_iff_eq.mp equal)
      · intro absent same
        exact absent (same ▸ by simp)

/-- Looking for equal neighbours after a sort finds every repeated key. -/
theorem adjacentRepeat_sortBy_eq_false_iff :
    adjacentRepeat key (sortBy (compareOn key) items) = false ↔ (items.map key).Nodup := by
  have sorted : TransCmp (compareOn key) := inferInstance
  rw [adjacentRepeat_eq_false_iff (sortBy_pairwise _ items)]
  exact ((sortBy_perm _ items).map key).nodup_iff

end

end ContextDb.Lib
