import Mathlib.Data.List.Perm.Basic
import ContextDb.Lib.Fallible

/-! Edits of a list that an observer must not notice: reordering, and inserting, removing
or replacing hidden items. A checked pass over the visible items succeeds before such an
edit exactly when it does after it, with the same results up to order. -/

set_option autoImplicit false

namespace ContextDb.Lib

variable {Error Item Value : Type}

inductive HiddenEdit (visible : Item → Bool) : List Item → List Item → Prop
  | permute {left right : List Item} : left.Perm right → HiddenEdit visible left right
  | insert (before after : List Item) (item : Item) : visible item = false →
      HiddenEdit visible (before ++ after) (before ++ item :: after)
  | remove (before after : List Item) (item : Item) : visible item = false →
      HiddenEdit visible (before ++ item :: after) (before ++ after)
  | change (before after : List Item) (item other : Item) : visible item = false →
    visible other = false →
      HiddenEdit visible (before ++ item :: after) (before ++ other :: after)

abbrev HiddenEdits (visible : Item → Bool) : List Item → List Item → Prop :=
  Relation.ReflTransGen (HiddenEdit visible)

variable {visible : Item → Bool} {left right : List Item}

theorem HiddenEdit.symm (edit : HiddenEdit visible left right) : HiddenEdit visible right left := by
  cases edit with
  | permute permuted => exact .permute permuted.symm
  | insert before after item hidden => exact .remove before after item hidden
  | remove before after item hidden => exact .insert before after item hidden
  | change before after item other hidden otherHidden =>
    exact .change before after other item otherHidden hidden

theorem HiddenEdits.symm (edits : HiddenEdits visible left right) :
    HiddenEdits visible right left := by
  induction edits with
  | refl => exact .refl
  | tail _ edit ih => exact .head edit.symm ih

theorem HiddenEdits.filter_perm (edits : HiddenEdits visible left right) :
    (left.filter visible).Perm (right.filter visible) := by
  induction edits with
  | refl => exact .refl _
  | tail _ edit ih =>
    refine ih.trans ?_
    cases edit with
    | permute permuted => exact permuted.filter visible
    | insert before after item hidden => simp [hidden]
    | remove before after item hidden => simp [hidden]
    | change before after item other hidden otherHidden => simp [hidden, otherHidden]

variable {values : List Value} {check : Item → Except Error Value}

theorem mapM_perm (permuted : left.Perm right) (passed : left.mapM check = .ok values) :
    ∃ others, right.mapM check = .ok others ∧ values.Perm others := by
  have related := mapM_ok_iff_forall₂.mp passed
  have composed : Relation.Comp List.Perm (List.Forall₂ fun item value => check item =
    .ok value) right values :=
    ⟨left, permuted.symm, related⟩
  rw [← List.forall₂_comp_perm_eq_perm_comp_forall₂] at composed
  obtain ⟨others, results, reordered⟩ := composed
  exact ⟨others, mapM_ok_iff_forall₂.mpr results, reordered.symm⟩

theorem HiddenEdits.mapM_perm (edits : HiddenEdits visible left right)
    (passed : (left.filter visible).mapM check = .ok values) :
    ∃ others, (right.filter visible).mapM check = .ok others ∧ values.Perm others :=
  Lib.mapM_perm edits.filter_perm passed

end ContextDb.Lib
