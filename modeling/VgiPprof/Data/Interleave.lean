namespace VgiPprof.Data

/-! Components that any caller may open, and drive in any order.  A component starts
from the environment as it is at that moment; afterwards the environment may change,
and the same or other components may be opened and driven.  An event is one such
call, or one such change. -/

structure Component (Env Request Failure State Op Output : Type) where
  start : Env → Request → Except Failure State
  step : State → Op → Output × State

inductive Event (Env Request Op : Type) where
  | change (env : Env)
  | start (request : Request)
  | drive (index : Nat) (op : Op)

inductive Reply (Failure Output : Type) where
  | changed
  | started (index : Nat)
  | refused (failure : Failure)
  | output (index : Nat) (out : Output)
  | unknown (index : Nat)

structure System (Env State : Type) where
  env : Env
  components : List State

namespace Event

variable {Env Request Op : Type}

def opOn (index : Nat) : Event Env Request Op → Option Op
  | drive other op => if other = index then some op else none
  | _ => none

/-- The operations meant for one component, in their order. -/
def drives (index : Nat) (events : List (Event Env Request Op)) : List Op :=
  events.filterMap (opOn index)

end Event

namespace Reply

variable {Failure Output : Type}

def outputOf (index : Nat) : Reply Failure Output → Option Output
  | output other out => if other = index then some out else none
  | _ => none

def outputs (index : Nat) (replies : List (Reply Failure Output)) : List Output :=
  replies.filterMap (outputOf index)

end Reply

namespace Component

variable {Env Request Failure State Op Output : Type}
  (component : Component Env Request Failure State Op Output)

/-- One component driven alone. -/
def driveAll (state : State) : List Op → List Output × State
  | [] => ([], state)
  | op :: ops =>
      let (out, next) := component.step state op
      let (outs, final) := driveAll next ops
      (out :: outs, final)

def stepSystem (system : System Env State) :
    Event Env Request Op → Reply Failure Output × System Env State
  | .change env => (.changed, { system with env := env })
  | .start request =>
      match component.start system.env request with
      | .ok state =>
          (.started system.components.length,
            { system with components := system.components ++ [state] })
      | .error failure => (.refused failure, system)
  | .drive index op =>
      match system.components[index]? with
      | some state =>
          let (out, next) := component.step state op
          (.output index out, { system with components := system.components.set index next })
      | none => (.unknown index, system)

def run (system : System Env State) :
    List (Event Env Request Op) → List (Reply Failure Output) × System Env State
  | [] => ([], system)
  | event :: events =>
      let (reply, next) := component.stepSystem system event
      let (replies, final) := run next events
      (reply :: replies, final)

theorem driveAll_cons (state : State) (op : Op) (ops : List Op) :
    component.driveAll state (op :: ops) =
      ((component.step state op).1 :: (component.driveAll (component.step state op).2 ops).1,
        (component.driveAll (component.step state op).2 ops).2) := rfl

theorem driveAll_append (state : State) (ops more : List Op) :
    component.driveAll state (ops ++ more) =
      ((component.driveAll state ops).1 ++
          (component.driveAll (component.driveAll state ops).2 more).1,
        (component.driveAll (component.driveAll state ops).2 more).2) := by
  induction ops generalizing state with
  | nil => rfl
  | cons op ops induction =>
      rw [List.cons_append, driveAll_cons, driveAll_cons, induction, List.cons_append]

theorem run_cons (system : System Env State) (event : Event Env Request Op)
    (events : List (Event Env Request Op)) :
    component.run system (event :: events) =
      ((component.stepSystem system event).1 ::
          (component.run (component.stepSystem system event).2 events).1,
        (component.run (component.stepSystem system event).2 events).2) := rfl

theorem run_append (system : System Env State) (events more : List (Event Env Request Op)) :
    component.run system (events ++ more) =
      ((component.run system events).1 ++
          (component.run (component.run system events).2 more).1,
        (component.run (component.run system events).2 more).2) := by
  induction events generalizing system with
  | nil => rfl
  | cons event events induction =>
      rw [List.cons_append, run_cons, run_cons, induction, List.cons_append]

/-! What one step does to the component at an index. -/

theorem stepSystem_length_le (system : System Env State) (event : Event Env Request Op) :
    system.components.length ≤ (component.stepSystem system event).2.components.length := by
  cases event with
  | change env => exact Nat.le_refl _
  | start request =>
      cases started : component.start system.env request with
      | ok state => simp [stepSystem, started]
      | error failure => simp [stepSystem, started]
  | drive index op =>
      cases found : system.components[index]? with
      | some state => simp [stepSystem, found]
      | none => simp [stepSystem, found]

/-- An open component moves by the operations meant for it and by nothing else. -/
theorem stepSystem_component {system : System Env State} {index : Nat} {state : State}
    (opened : system.components[index]? = some state) (event : Event Env Request Op) :
    (component.stepSystem system event).2.components[index]? =
        some (component.driveAll state (event.opOn index).toList).2 ∧
      ((component.stepSystem system event).1.outputOf index).toList =
        (component.driveAll state (event.opOn index).toList).1 := by
  have inside : index < system.components.length := (List.getElem?_eq_some_iff.mp opened).1
  cases event with
  | change env => exact ⟨opened, rfl⟩
  | start request =>
      cases started : component.start system.env request with
      | ok fresh =>
          simp only [stepSystem, started]
          exact ⟨by rw [List.getElem?_append_left inside]; exact opened, rfl⟩
      | error failure =>
          simp only [stepSystem, started]
          exact ⟨opened, rfl⟩
  | drive other op =>
      by_cases same : other = index
      · subst same
        simp only [stepSystem, opened, Event.opOn, Reply.outputOf, if_true,
          Option.toList_some, driveAll]
        exact ⟨by rw [List.getElem?_set_self inside], trivial⟩
      · have still : (Event.opOn index (.drive other op : Event Env Request Op)) = none :=
          if_neg same
        rw [still]
        cases found : system.components[other]? with
        | some elsewhere =>
            simp only [stepSystem, found, Reply.outputOf, if_neg same]
            exact ⟨by rw [List.getElem?_set_ne same]; exact opened, rfl⟩
        | none =>
            simp only [stepSystem, found]
            exact ⟨opened, rfl⟩

theorem stepSystem_silent {system : System Env State} {index : Nat}
    (closed : system.components.length ≤ index) (event : Event Env Request Op) :
    (component.stepSystem system event).1.outputOf index = none := by
  cases event with
  | change env => rfl
  | start request =>
      cases started : component.start system.env request with
      | ok fresh => simp only [stepSystem, started, Reply.outputOf]
      | error failure => simp only [stepSystem, started, Reply.outputOf]
  | drive other op =>
      cases found : system.components[other]? with
      | some state =>
          have inside := (List.getElem?_eq_some_iff.mp found).1
          simp only [stepSystem, found, Reply.outputOf]
          exact if_neg fun same => by omega
      | none => simp only [stepSystem, found, Reply.outputOf]

/-! Whole runs. -/

theorem stepSystem_env {holds : Env → Prop} {system : System Env State}
    (initially : holds system.env) {event : Event Env Request Op}
    (changed : ∀ env, event = .change env → holds env) :
    holds (component.stepSystem system event).2.env := by
  cases event with
  | change env => exact changed env rfl
  | start request =>
      rw [stepSystem]
      cases component.start system.env request <;> exact initially
  | drive index op =>
      rw [stepSystem]
      cases system.components[index]? <;> exact initially

/-- The environment is the first one, or one that it was changed to. -/
theorem run_env {holds : Env → Prop} {system : System Env State}
    (initially : holds system.env) {events : List (Event Env Request Op)}
    (changes : ∀ env, .change env ∈ events → holds env) :
    holds (component.run system events).2.env := by
  induction events generalizing system with
  | nil => exact initially
  | cons event events induction =>
      rw [run_cons]
      refine induction ?_ fun env member => changes env (List.mem_cons_of_mem _ member)
      refine stepSystem_env component initially fun env isChange => changes env ?_
      rw [isChange]
      exact List.mem_cons_self

theorem run_length_le (system : System Env State) (events : List (Event Env Request Op)) :
    system.components.length ≤ (component.run system events).2.components.length := by
  induction events generalizing system with
  | nil => exact Nat.le_refl _
  | cons event events induction =>
      exact Nat.le_trans (stepSystem_length_le component system event) (induction _)

theorem filterMap_cons_toList {α β : Type} (f : α → Option β) (x : α) (xs : List α) :
    (x :: xs).filterMap f = (f x).toList ++ xs.filterMap f := by
  cases found : f x <;> simp [found]

/-- Seen from one component, every interleaving is that component driven alone. -/
theorem run_component {system : System Env State} {index : Nat} {state : State}
    (opened : system.components[index]? = some state)
    (events : List (Event Env Request Op)) :
    Reply.outputs index (component.run system events).1 =
        (component.driveAll state (Event.drives index events)).1 ∧
      (component.run system events).2.components[index]? =
        some (component.driveAll state (Event.drives index events)).2 := by
  induction events generalizing system state with
  | nil => exact ⟨rfl, opened⟩
  | cons event events induction =>
      obtain ⟨moved, replied⟩ := stepSystem_component component opened event
      obtain ⟨outputs, final⟩ := induction moved
      rw [run_cons, Reply.outputs, Event.drives, filterMap_cons_toList, filterMap_cons_toList,
        replied, driveAll_append]
      exact ⟨congrArg _ outputs, final⟩

theorem outputs_before_start {system : System Env State} {index : Nat}
    {events : List (Event Env Request Op)}
    (closed : (component.run system events).2.components.length ≤ index) :
    Reply.outputs index (component.run system events).1 = [] := by
  induction events generalizing system with
  | nil => rfl
  | cons event events induction =>
      have silent := stepSystem_silent component
        (Nat.le_trans (stepSystem_length_le component system event)
          (Nat.le_trans (run_length_le component _ events) closed)) event
      rw [run_cons, Reply.outputs, List.filterMap_cons_none silent]
      exact induction closed

/-- The outputs of a component in a run that opens it: those of the component
alone, started from the environment of that moment. -/
theorem outputs_of_start {system : System Env State} {request : Request} {state : State}
    {before : List (Event Env Request Op)}
    (started : component.start (component.run system before).2.env request = .ok state)
    (after : List (Event Env Request Op)) :
    Reply.outputs (component.run system before).2.components.length
        (component.run system (before ++ .start request :: after)).1 =
      (component.driveAll state
        (Event.drives (component.run system before).2.components.length after)).1 := by
  have opened : (component.stepSystem (component.run system before).2
      (.start request : Event Env Request Op)).2.components[
        (component.run system before).2.components.length]? = some state := by
    simp [stepSystem, started]
  have step : Reply.outputOf (component.run system before).2.components.length
      (component.stepSystem (component.run system before).2
        (.start request : Event Env Request Op)).1 = none := by
    simp only [stepSystem, started, Reply.outputOf]
  have quiet := outputs_before_start component
    (Nat.le_refl (component.run system before).2.components.length)
  rw [run_append, run_cons, Reply.outputs, List.filterMap_append, List.filterMap_cons_none step]
  rw [Reply.outputs] at quiet
  rw [quiet, List.nil_append]
  exact (run_component component opened after).1

end Component

end VgiPprof.Data
