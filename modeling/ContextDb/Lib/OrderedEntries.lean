import ContextDb.Lib.Collections
import ContextDb.Lib.Fallible

/-! Entry lists of ordered maps. A list of entries with strictly increasing keys is
determined by its members, so an insertion above every key appends and maps that agree on
the selected entries have the same selection. -/

set_option autoImplicit false

namespace ContextDb.Lib

open Std

variable {Key Value : Type} [Ord Key]

def Ordered (entries : List (Key × Value)) : Prop :=
  entries.Pairwise fun left right => compare left.1 right.1 = .lt

namespace Ordered

variable {entries : List (Key × Value)}

theorem filter (ordered : Ordered entries) (test : Key × Value → Bool) :
    Ordered (entries.filter test) :=
  List.Pairwise.filter test ordered

end Ordered

variable [TransOrd Key]

theorem ordered_toList (map : BTreeMap Key Value) : Ordered map.toList :=
  map.ordered_keys_toList

namespace Ordered

variable {left right entries : List (Key × Value)}

theorem nodup (ordered : Ordered entries) : entries.Nodup := by
  refine List.Pairwise.imp ?_ ordered
  intro left right less same
  subst same
  simp [compare_self] at less

theorem eq_of_mem_iff (orderedLeft : Ordered left) (orderedRight : Ordered right)
    (same : ∀ entry, entry ∈ left ↔ entry ∈ right) : left = right := by
  have permuted : left.Perm right :=
    (List.perm_ext_iff_of_nodup orderedLeft.nodup orderedRight.nodup).mpr same
  refine List.Perm.eq_of_pairwise ?_ orderedLeft orderedRight permuted
  intro first second _ _ less greater
  have impossible := TransCmp.lt_trans less greater
  simp [compare_self] at impossible

end Ordered

namespace BTreeMap

variable [LawfulEqOrd Key] {left right map : BTreeMap Key Value} {key : Key} {value : Value}

theorem toList_filter_congr (test : Key × Value → Bool) (agree : ∀ key value,
    test (key, value) = true →
      (left[key]? = some value ↔ right[key]? = some value)) : left.toList.filter test =
        right.toList.filter test := by
  refine ((ordered_toList left).filter test).eq_of_mem_iff ((ordered_toList right).filter test) ?_
  rintro ⟨key, value⟩
  simp only [List.mem_filter, ExtTreeMap.mem_toList_iff_getElem?_eq_some]
  exact and_congr_left fun passes => agree key value passes

def Extends (smaller larger : BTreeMap Key Value) : Prop :=
  ∀ (key : Key) (value : Value), smaller[key]? = some value → larger[key]? = some value

namespace Extends

variable {smaller larger largest : BTreeMap Key Value}

omit [LawfulEqOrd Key] in
theorem refl (map : BTreeMap Key Value) : Extends map map :=
  fun _ _ found => found

omit [LawfulEqOrd Key] in
theorem trans (first : Extends smaller larger) (second : Extends larger largest) :
    Extends smaller largest :=
  fun key value found => second key value (first key value found)

theorem insert (vacant : map[key]? = none) (value : Value) :
    Extends map (map.insert key value) := by
  intro other stored found
  have different : key ≠ other := by
    intro same
    rw [same, found] at vacant
    cases vacant
  rw [getElem?_insert_of_ne different, found]

end Extends

end BTreeMap

end ContextDb.Lib
