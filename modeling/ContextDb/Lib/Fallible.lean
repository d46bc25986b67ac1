import Mathlib.Data.List.Forall2

/-! Peeling successful computations apart. Every fallible function of the model
is a chain of binds, guards and checked loops; these rules turn its success into
the facts each step established. -/

set_option autoImplicit false

namespace ContextDb.Lib

open List

variable {Error Value Result Item : Type}

def ensure (condition : Bool) (error : Error) : Except Error Unit :=
  if condition then .ok () else .error error

variable {done : Unit}

@[simp] theorem ensure_ok_iff {condition : Bool} {error : Error} :
    ensure condition error = .ok done ↔ condition = true := by
  cases condition <;> simp [ensure]

variable {continuation : Value → Except Error Result} {value : Value}

theorem ok_bind : ((.ok value : Except Error Value) >>= continuation) = continuation value :=
  rfl

variable {source : Except Error Value} {result : Result}

theorem bind_ok_iff : (source >>= continuation) = .ok result ↔
      ∃ value, source = .ok value ∧ continuation value = .ok result := by
  cases source with
  | error error => simp [bind, Except.bind]
  | ok value => simp [bind, Except.bind]

theorem bind_ok (success : (source >>= continuation) = .ok result) :
    ∃ value, source = .ok value ∧ continuation value = .ok result :=
  bind_ok_iff.mp success

section

variable {check : Except Error Unit} {rest : Unit → Except Error Result}

theorem unit_ok (success : (check >>= rest) = .ok result) : check = .ok () ∧
    rest () = .ok result := by
  obtain ⟨_, passed, success⟩ := bind_ok success
  exact ⟨passed, success⟩

/-- After a check that passed comes the rest. -/
theorem rest_ok (success : (check >>= rest) = .ok result) : rest () = .ok result :=
  (unit_ok success).2

end

def yields (outcome : Except Error Value) (test : Value → Bool) : Bool :=
  match outcome with
  | .ok value => test value
  | .error _ => false

theorem yields_iff {outcome : Except Error Value} {test : Value → Bool} :
    yields outcome test = true ↔ ∃ value, outcome = .ok value ∧ test value = true := by
  cases outcome with
  | error error => simp [yields]
  | ok value => simp [yields]

variable {items : List Item}

theorem forM_ok_iff {check : Item → Except Error Unit} :
    forM items check = .ok done ↔ ∀ item ∈ items, check item = .ok () := by
  induction items with
  | nil => simp [pure, Except.pure]
  | cons item rest ih =>
    rw [forM_cons, bind_ok_iff]
    simp only [forall_mem_cons]
    constructor
    · rintro ⟨value, passed, remaining⟩
      exact ⟨passed, ih.mp remaining⟩
    · rintro ⟨passed, remaining⟩
      exact ⟨(), passed, ih.mpr remaining⟩

variable {step : Value → Item → Except Error Value} {initial final : Value}

/-- The invariant rule for fallible loops. -/
theorem foldlM_preserves (success : items.foldlM step initial = .ok final)
    (invariant : Value → Prop) (start : invariant initial)
    (preserved : ∀ value item next, item ∈ items → invariant value → step value item = .ok next →
      invariant next) : invariant final := by
  induction items generalizing initial with
  | nil =>
    cases success
    exact start
  | cons item rest ih =>
    rw [foldlM_cons] at success
    obtain ⟨next, stepped, remaining⟩ := bind_ok success
    refine ih remaining (preserved initial item next mem_cons_self start stepped) ?_
    intro value item next member
    exact preserved value item next (mem_cons_of_mem _ member)

variable {item : Item}

theorem foldlM_step_ok (success : items.foldlM step initial = .ok final)
    (member : item ∈ items) : ∃ value next, step value item = .ok next := by
  induction items generalizing initial with
  | nil => cases member
  | cons first rest ih =>
    rw [foldlM_cons] at success
    obtain ⟨next, stepped, remaining⟩ := bind_ok success
    rcases mem_cons.mp member with rfl | later
    · exact ⟨initial, next, stepped⟩
    · exact ih remaining later

/-- A loop whose every step succeeds from where it may stand succeeds. -/
theorem foldlM_ok (kept : Value → Prop) (start : kept initial)
    (passes : ∀ value, kept value → ∀ item ∈ items, ∃ next, step value item = .ok next ∧
      kept next) :
    ∃ final, items.foldlM step initial = .ok final ∧ kept final := by
  induction items generalizing initial with
  | nil => exact ⟨initial, rfl, start⟩
  | cons item rest ih =>
    obtain ⟨next, stepped, held⟩ := passes initial start item mem_cons_self
    rw [foldlM_cons, stepped]
    exact ih held fun value held item member => passes value held item (mem_cons_of_mem _ member)

theorem foldlM_congr {left right : Value → Item → Except Error Value}
    (agree : ∀ item ∈ items, ∀ value, left value item = right value item) (initial : Value) :
    items.foldlM left initial = items.foldlM right initial := by
  induction items generalizing initial with
  | nil => rfl
  | cons item rest ih =>
    rw [foldlM_cons, foldlM_cons, agree item mem_cons_self]
    refine congrArg _ (funext fun next => ih ?_ next)
    exact fun item member => agree item (mem_cons_of_mem _ member)

theorem mapM_congr {left right : Item → Except Error Value}
    (agree : ∀ item ∈ items, left item = right item) : items.mapM left = items.mapM right := by
  induction items with
  | nil => rfl
  | cons item rest ih =>
    rw [mapM_cons, mapM_cons, agree item mem_cons_self, ih fun item member => agree item
      (mem_cons_of_mem _ member)]

/-- An indexed loop succeeds when every item passes from any value the loop can have
reached before it. -/
theorem foldlM_zipIdx_ok {step : Value → Item × Nat → Except Error Value}
    (reached : Nat → Value → Prop) (start : reached 0 initial)
    (passes : ∀ index item value, items[index]? = some item → reached index value →
      ∃ following, step value (item, index) = .ok following ∧ reached (index + 1) following) :
    ∃ final, items.zipIdx.foldlM step initial = .ok final := by
  have shifted : ∀ (items : List Item) (offset : Nat) (initial : Value), reached offset initial →
      (∀ index item value, items[index]? = some item → reached (offset + index) value →
        ∃ following, step value (item, offset + index) = .ok following ∧
          reached (offset + index + 1) following) →
      ∃ final, (items.zipIdx offset).foldlM step initial = .ok final := by
    intro items
    induction items with
    | nil => exact fun _ initial _ _ => ⟨initial, rfl⟩
    | cons item rest ih =>
      intro offset initial start passes
      obtain ⟨following, passed, next⟩ := passes 0 item initial rfl start
      obtain ⟨final, finished⟩ := ih
        (offset + 1) following next fun index item value found held => by
        have shift : offset + 1 + index = offset + (index + 1) := by omega
        rw [shift] at held ⊢
        exact passes (index + 1) item value found held
      refine ⟨final, ?_⟩
      rw [zipIdx_cons, foldlM_cons]
      simp only [Nat.add_zero] at passed
      rw [passed]
      exact finished
  refine shifted items 0 initial start fun index item value found held => ?_
  simp only [Nat.zero_add] at held ⊢
  exact passes index item value found held

theorem foldlM_reaches {start : Value} (success : items.foldlM step start = .ok final)
    (listed : item ∈ items)
    (reached : Value → Prop) (establishes : ∀ value next, step value item = .ok next → reached next)
    (preserves : ∀ value other next, reached value → step value other = .ok next → reached next) :
    reached final := by
  induction items generalizing start with
  | nil => cases listed
  | cons first rest ih =>
    rw [foldlM_cons] at success
    obtain ⟨next, here, later⟩ := bind_ok success
    rcases mem_cons.mp listed with rfl | listed
    · exact foldlM_preserves later reached
        (establishes start next here) fun value other next _ => preserves value other next
    · exact ih later listed

/-- Items that change nothing may be left out of the loop. -/
theorem foldlM_filter {test : Item → Bool} (idle : ∀ item ∈ items, test item = false → ∀ value,
    step value item = .ok value)
    (initial : Value) : items.foldlM step initial = (items.filter test).foldlM step initial := by
  induction items generalizing initial with
  | nil => rfl
  | cons item rest ih =>
    have later := ih fun other member => idle other (mem_cons_of_mem _ member)
    cases tested : test item with
    | false =>
      rw [foldlM_cons, idle item mem_cons_self tested, ok_bind,
        filter_cons_of_neg (by simp [tested])]
      exact later initial
    | true =>
      rw [filter_cons_of_pos tested, foldlM_cons, foldlM_cons]
      exact congrArg _ (funext fun next => later next)

variable {values : List Value} {check run : Item → Except Error Value}

theorem mapM_ok_iff_forall₂ : items.mapM check = .ok values ↔
      List.Forall₂ (fun item value => check item = .ok value) items values := by
  induction items generalizing values with
  | nil =>
    rw [mapM_nil, forall₂_nil_left_iff]
    exact ⟨fun same => (Except.ok.inj same).symm, fun same => same ▸ rfl⟩
  | cons item rest ih =>
    simp only [mapM_cons, bind_ok_iff, forall₂_cons_left_iff, ih]
    constructor
    · rintro ⟨value, passed, remaining, others, same⟩
      exact ⟨value, remaining, passed, others, (Except.ok.inj same).symm⟩
    · rintro ⟨value, remaining, passed, others, rfl⟩
      exact ⟨value, passed, remaining, others, rfl⟩

theorem exists_item_of_mapM_ok (passed : items.mapM check = .ok values) (member : value ∈ values) :
    ∃ item ∈ items, check item = .ok value := by
  induction mapM_ok_iff_forall₂.mp passed with
  | nil => cases member
  | cons first _ ih =>
    rcases mem_cons.mp member with rfl | later
    · exact ⟨_, mem_cons_self, first⟩
    · obtain ⟨item, listed, checked⟩ := ih (mapM_ok_iff_forall₂.mpr ‹_›) later
      exact ⟨item, mem_cons_of_mem _ listed, checked⟩

theorem exists_value_of_mapM_ok (passed : items.mapM check = .ok values)
    (member : item ∈ items) : ∃ value ∈ values, check item = .ok value := by
  induction mapM_ok_iff_forall₂.mp passed with
  | nil => cases member
  | cons first _ ih =>
    rcases mem_cons.mp member with rfl | later
    · exact ⟨_, mem_cons_self, first⟩
    · obtain ⟨value, listed, checked⟩ := ih (mapM_ok_iff_forall₂.mpr ‹_›) later
      exact ⟨value, mem_cons_of_mem _ listed, checked⟩

theorem exists_mapM_ok (each : ∀ item ∈ items, ∃ value, run item = .ok value) :
    ∃ values, items.mapM run = .ok values := by
  induction items with
  | nil => exact ⟨[], rfl⟩
  | cons item rest ih =>
    obtain ⟨value, ran⟩ := each item mem_cons_self
    obtain ⟨values, later⟩ := ih fun item member => each item (mem_cons_of_mem _ member)
    refine ⟨value :: values, ?_⟩
    rw [mapM_cons, ran, ok_bind, later, ok_bind]
    rfl

/-- An order of the items carries over to the values they are mapped to. -/
theorem pairwise_of_mapM_ok {Before : Item → Item → Prop} {After : Value → Value → Prop}
    (ran : items.mapM run = .ok values) (ordered : items.Pairwise Before)
    (transfer : ∀ first ∈ items, ∀ second ∈ items, ∀ value other, run first = .ok value →
      run second = .ok other → Before first second →
        After value other) : values.Pairwise After := by
  induction items generalizing values with
  | nil =>
    cases ran
    exact .nil
  | cons item rest ih =>
    rw [mapM_cons] at ran
    obtain ⟨value, here, ran⟩ := bind_ok ran
    obtain ⟨later, passed, ran⟩ := bind_ok ran
    cases ran
    obtain ⟨first, ordered⟩ := pairwise_cons.mp ordered
    refine pairwise_cons.mpr ⟨fun other member => ?_, ih passed ordered ?_⟩
    · obtain ⟨second, listed, also⟩ := exists_item_of_mapM_ok passed member
      exact transfer item mem_cons_self second (mem_cons_of_mem _ listed) value other here also
        (first second listed)
    · intro first firstListed second secondListed
      exact transfer first (mem_cons_of_mem _ firstListed) second (mem_cons_of_mem _ secondListed)

end ContextDb.Lib
