import ContextDb.Native.Store

/-! Bounded first-in first-out admission of publishers. The lock is never poisoned here, since
no call panics while it holds it. -/

set_option autoImplicit false

namespace ContextDb.Native

open Lib List

structure PublicationState where
  next : Nat := 0
  waiting : List Nat := []
  active : Option Nat := none
  poisoned : Bool := false

def publicationCapacity : Nat := 64

def poisoned : ServiceError := integrity "native publication queue is poisoned"

def pressure (message : String) : ServiceError :=
  { code := .resourceExhausted, message, retryable := true }

namespace PublicationState

variable (state : PublicationState) (ticket : Nat)

/-- What `enter` does under the lock before its loop. -/
def enqueue : ServiceResult (Nat × PublicationState) := do
  ensure (!state.poisoned) Native.poisoned
  ensure (state.waiting.length + state.active.toList.length < publicationCapacity)
    (pressure "native publication queue is full; retry the same identity")
  ensure (state.next < maxCounter) (pressure "publication ticket exhausted")
  .ok (state.next, { state with next := state.next + 1, waiting := state.waiting ++ [state.next] })

def valid (check : ServiceResult Unit) (expired : Bool) : ServiceResult Unit := do
  ensure (!state.poisoned) Native.poisoned
  check
  ensure (!expired) (pressure "native publication wait exceeded 30 seconds")

/-- One turn of the loop of `enter`, which grants the ticket or waits for another turn. -/
def turn (check : ServiceResult Unit) (expired : Bool) : ServiceResult Bool × PublicationState :=
  match state.valid check expired with
  | .error error => (.error error, { state with waiting := state.waiting.filter (· != ticket) })
  | .ok () =>
    if state.active.isNone && state.waiting.head? = some ticket then
      (.ok true, { state with waiting := state.waiting.tail, active := some ticket })
    else (.ok false, state)

def drop (panicking : Bool) : PublicationState :=
  { state with
    poisoned := state.poisoned || panicking || state.active ≠ some ticket, active := none }

end PublicationState

/-- The state with the tickets of the calls in the loop, of the live guards and of the calls that
ended. Tickets are numbered as they are queued. -/
structure Publishers where
  state : PublicationState
  (callers guards cancelled granted : List Nat)

/-- What a thread does next. It may run between the two parts of another call's `enter` as well,
and its checks and its clock are arbitrary. -/
inductive PublicationCall
  | enter (check : ServiceResult Unit)
  | turn (ticket : Nat) (check : ServiceResult Unit) (expired : Bool)
  | drop (ticket : Nat) (panicking : Bool)

namespace Publishers

variable (system : Publishers)

def perform : PublicationCall → Publishers
  | .enter check =>
    match check >>= fun _ => system.state.enqueue with
    | .error _ => system
    | .ok (ticket, next) => { system with state := next, callers := ticket :: system.callers }
  | .turn ticket check expired =>
    if ticket ∈ system.callers then
      match system.state.turn ticket check expired with
      | (.error _, next) =>
        { system with
          state := next, callers := system.callers.erase ticket, cancelled := ticket :: system.cancelled }
      | (.ok true, next) =>
        { system with
          state := next, callers := system.callers.erase ticket
          guards := ticket :: system.guards, granted := system.granted ++ [ticket] }
      | (.ok false, next) => { system with state := next }
    else system
  | .drop ticket panicking =>
    if ticket ∈ system.guards then
      { system with
        state := system.state.drop ticket panicking, guards := system.guards.erase ticket }
    else system

structure Orderly : Prop where
  guards : system.guards = system.state.active.toList
  bounded : system.state.waiting.length + system.guards.length ≤ publicationCapacity
  cancelled : ∀ ticket ∈ system.cancelled, ticket < system.state.next
  order : (range system.state.next).filter (· ∉ system.cancelled) = system.granted ++
    system.state.waiting
  callers : system.state.waiting.Perm system.callers

variable {system : Publishers} {ticket : Nat} {next : PublicationState}

theorem Orderly.enqueue (orderly : system.Orderly) (placed : system.state.enqueue = .ok
    (ticket, next)) :
    Orderly { system with state := next, callers := ticket :: system.callers } := by
  have placed := rest_ok placed
  obtain ⟨_, room, placed⟩ := bind_ok placed
  have placed := rest_ok placed
  cases placed
  simp only [ensure_ok_iff, decide_eq_true_eq, ← orderly.guards] at room
  refine ⟨orderly.guards, ?_, ?_, ?_, ?_⟩
  · simp only [length_append, length_singleton]
    omega
  · exact fun ticket member => Nat.lt_succ_of_lt (orderly.cancelled ticket member)
  · have fresh : system.state.next ∉ system.cancelled := fun member =>
      Nat.lt_irrefl _ (orderly.cancelled _ member)
    rw [range_succ, filter_append, orderly.order, append_assoc]
    simp [fresh]
  · exact (perm_append_singleton _ _).trans (orderly.callers.cons _)

theorem Orderly.cancel (orderly : system.Orderly) (member : ticket ∈ system.callers) :
    Orderly { system with
      state := { system.state with waiting := system.state.waiting.filter (· != ticket) }
      callers := system.callers.erase ticket, cancelled := ticket :: system.cancelled } := by
  have waits := orderly.callers.mem_iff.mpr member
  have distinct : (system.granted ++ system.state.waiting).Nodup :=
    orderly.order ▸ nodup_range.filter _
  obtain ⟨_, waiting, apart⟩ := nodup_append.mp distinct
  refine ⟨orderly.guards, ?_, ?_, ?_, ?_⟩
  · exact Nat.le_trans (Nat.add_le_add_right (length_filter_le _ _) _) orderly.bounded
  · have queued := mem_append_right system.granted waits
    rw [← orderly.order] at queued
    exact forall_mem_cons.mpr ⟨mem_range.mp (mem_of_mem_filter queued), orderly.cancelled⟩
  · have ungranted : system.granted.filter (· != ticket) = system.granted :=
      filter_eq_self.mpr fun other granted => by
        simpa using apart other granted ticket waits
    have split : (range system.state.next).filter (· ∉ ticket :: system.cancelled) =
        ((range system.state.next).filter (· ∉ system.cancelled)).filter (· != ticket) := by
      rw [filter_filter]
      refine filter_congr fun other _ => ?_
      by_cases same : other = ticket <;> simp [same]
    rw [split, orderly.order, filter_append, ungranted]
  · have erased := orderly.callers.erase ticket
    rw [waiting.erase_eq_filter] at erased
    exact erased

theorem Orderly.grant (orderly : system.Orderly) (free : system.state.active = none)
    (first : system.state.waiting.head? = some ticket) : Orderly { system with
      state := { system.state with waiting := system.state.waiting.tail, active := some ticket }
      callers := system.callers.erase ticket, guards := ticket :: system.guards, granted := system.granted ++ [ticket] } := by
  obtain ⟨rest, waiting⟩ := head?_eq_some_iff.mp first
  have idle : system.guards = [] := by
    rw [orderly.guards, free]
    rfl
  obtain ⟨_, bounded, cancelled, order, callers⟩ := orderly
  have left := callers.erase ticket
  refine ⟨by simp [idle], ?_, cancelled, ?_, ?_⟩
  · simpa [waiting, idle] using bounded
  · simpa [waiting] using order
  · simpa [waiting] using left

theorem Orderly.drop (orderly : system.Orderly) (live : ticket ∈ system.guards) (panicking : Bool) :
    Orderly { system with
      state := system.state.drop ticket panicking, guards := system.guards.erase ticket } := by
  have held : system.guards = [ticket] := by
    rw [orderly.guards, Option.mem_toList] at live
    rw [orderly.guards, live]
    rfl
  refine { orderly with guards := by simp [held, PublicationState.drop], bounded := ?_ }
  exact Nat.le_trans (Nat.add_le_add_left (length_erase_le ..) _) orderly.bounded

theorem Orderly.perform (orderly : system.Orderly) (call : PublicationCall) :
    (system.perform call).Orderly := by
  cases call with
  | enter check =>
    rw [Publishers.perform]
    cases placed : check >>= fun _ => system.state.enqueue with
    | error => exact orderly
    | ok entry => exact orderly.enqueue (rest_ok placed)
  | turn ticket check expired =>
    simp only [Publishers.perform, PublicationState.turn]
    split
    · rename_i member
      cases system.state.valid check expired with
      | error => exact orderly.cancel member
      | ok =>
        by_cases ready : system.state.active = none ∧ system.state.waiting.head? = some ticket
        · simpa [ready] using orderly.grant ready.1 ready.2
        · simpa [ready] using orderly
    · exact orderly
  | drop ticket panicking =>
    rw [Publishers.perform]
    split
    · rename_i live
      exact orderly.drop live panicking
    · exact orderly

/-- Once the flag is set, every check fails and nothing is granted. -/
theorem perform_poisoned (failed : system.state.poisoned = true) (call : PublicationCall) :
    (system.perform call).state.poisoned = true ∧ (system.perform call).granted =
      system.granted := by
  cases call with
  | enter check =>
    cases check <;>
      simp [Publishers.perform, PublicationState.enqueue, ensure, failed, bind, Except.bind]
  | turn ticket check expired =>
    have invalid : system.state.valid check expired = .error poisoned := by
      simp [PublicationState.valid, ensure, failed, bind, Except.bind]
    simp only [Publishers.perform, PublicationState.turn, invalid]
    split <;> simp [failed]
  | drop ticket panicking =>
    rw [Publishers.perform]
    split <;> simp [PublicationState.drop, failed]

/-- The order in which the calls interleave is that of the list. -/
theorem publication_exclusive_fifo (calls : List PublicationCall) :
    let system := calls.foldl perform ⟨{}, [], [], [], []⟩
    system.guards.length ≤ 1 ∧ system.state.waiting.length + system.state.active.toList.length ≤
      64 ∧
      (range system.state.next).filter (· ∉ system.cancelled) = system.granted ++
        system.state.waiting ∧
      system.state.waiting.Perm system.callers ∧ ∀ ticket ∈ system.guards, ∀ later :
        List PublicationCall,
        (later.foldl perform (system.perform (.drop ticket true))).granted = system.granted := by
  intro system
  have orderly : system.Orderly :=
    List.foldlRecOn calls perform (motive := Orderly) ⟨rfl, by decide, by simp, rfl, .nil⟩
      fun _ held call _ => held.perform call
  refine ⟨?_, ?_, orderly.order, orderly.callers, ?_⟩
  · rw [orderly.guards]
    exact Option.length_toList_le
  · rw [← orderly.guards]
    exact orderly.bounded
  · intro ticket live later
    have failed : (system.perform (.drop ticket true)).state.poisoned = true := by
      simp [perform, live, PublicationState.drop]
    have kept := List.foldlRecOn later perform
      (motive := fun after => after.state.poisoned = true ∧ after.granted = system.granted)
      ⟨failed, by simp [perform, live]⟩ fun after held call _ =>
        ⟨(perform_poisoned held.1 call).1, (perform_poisoned held.1 call).2.trans held.2⟩
    exact kept.2

end Publishers

end ContextDb.Native
