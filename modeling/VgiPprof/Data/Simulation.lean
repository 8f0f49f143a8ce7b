import VgiPprof.Data.Interleave

namespace VgiPprof.Data

/-! Two systems run side by side: components that open alike and answer alike give
the same replies under any interleaving. -/

variable {Env Request Failure State State' Op Output : Type}

/-- Related components answer alike and stay related. -/
def Simulates (left : Component Env Request Failure State Op Output)
    (right : Component Env Request Failure State' Op Output)
    (related : State → State' → Prop) : Prop :=
  ∀ state state' op, related state state' →
    (left.step state op).1 = (right.step state' op).1 ∧
      related (left.step state op).2 (right.step state' op).2

/-- The request is refused with one failure, or opens related components. -/
inductive OpensAlike (related : State → State' → Prop) :
    Except Failure State → Except Failure State' → Prop
  | refused (failure : Failure) : OpensAlike related (.error failure) (.error failure)
  | opened {state : State} {state' : State'} (both : related state state') :
      OpensAlike related (.ok state) (.ok state')

structure SameSystem (related : State → State' → Prop) (system : System Env State)
    (system' : System Env State') : Prop where
  env : system.env = system'.env
  length : system.components.length = system'.components.length
  each : ∀ (index : Nat) (state : State) (state' : State'),
    system.components[index]? = some state → system'.components[index]? = some state' →
      related state state'

namespace SameSystem

variable {related : State → State' → Prop} {system : System Env State}
  {system' : System Env State'}

theorem start (same : SameSystem related system system') {state : State} {state' : State'}
    (both : related state state') :
    SameSystem related { system with components := system.components ++ [state] }
      { system' with components := system'.components ++ [state'] } where
  env := same.env
  length := by simp [same.length]
  each index found found' isFound isFound' := by
    simp only [List.getElem?_append, ← same.length] at isFound isFound'
    split at isFound
    · rename_i inside
      rw [if_pos inside] at isFound'
      exact same.each index found found' isFound isFound'
    · rename_i outside
      rw [if_neg outside] at isFound'
      cases place : index - system.components.length with
      | zero =>
          rw [place] at isFound isFound'
          cases isFound
          cases isFound'
          exact both
      | succ _ =>
          rw [place] at isFound
          cases isFound

theorem drive (same : SameSystem related system system') (index : Nat) {state : State}
    {state' : State'} (both : related state state') :
    SameSystem related { system with components := system.components.set index state }
      { system' with components := system'.components.set index state' } where
  env := same.env
  length := by simp [same.length]
  each other found found' isFound isFound' := by
    simp only [List.getElem?_set, ← same.length] at isFound isFound'
    split at isFound
    · rename_i here
      rw [if_pos here] at isFound'
      split at isFound
      · rename_i inside
        rw [if_pos inside] at isFound'
        cases isFound
        cases isFound'
        exact both
      · cases isFound
    · rename_i elsewhere
      rw [if_neg elsewhere] at isFound'
      exact same.each other found found' isFound isFound'

end SameSystem

section Runs

variable {left : Component Env Request Failure State Op Output}
  {right : Component Env Request Failure State' Op Output}
  {related : State → State' → Prop} {system : System Env State} {system' : System Env State'}

theorem Simulates.stepSystem (simulates : Simulates left right related)
    (same : SameSystem related system system') (event : Event Env Request Op)
    (opens : ∀ request, event = .start request →
      OpensAlike related (left.start system.env request) (right.start system.env request)) :
    (left.stepSystem system event).1 = (right.stepSystem system' event).1 ∧
      SameSystem related (left.stepSystem system event).2 (right.stepSystem system' event).2 := by
  cases event with
  | change env => exact ⟨rfl, { same with env := rfl }⟩
  | start request =>
      have alike := opens request rfl
      rw [Component.stepSystem, Component.stepSystem]
      cases started : left.start system.env request with
      | error failure =>
          rw [started, same.env] at alike
          cases started' : right.start system'.env request with
          | error failure' =>
              rw [started'] at alike
              cases alike
              exact ⟨rfl, same⟩
          | ok state' =>
              rw [started'] at alike
              cases alike
      | ok state =>
          rw [started, same.env] at alike
          cases started' : right.start system'.env request with
          | error failure' =>
              rw [started'] at alike
              cases alike
          | ok state' =>
              rw [started'] at alike
              cases alike with
              | opened both => exact ⟨congrArg Reply.started same.length, same.start both⟩
  | drive index op =>
      rw [Component.stepSystem, Component.stepSystem]
      cases found : system.components[index]? with
      | none =>
          have outside := List.getElem?_eq_none_iff.mp found
          rw [same.length] at outside
          rw [List.getElem?_eq_none outside]
          exact ⟨rfl, same⟩
      | some state =>
          have inside := (List.getElem?_eq_some_iff.mp found).1
          rw [same.length] at inside
          rw [List.getElem?_eq_getElem inside]
          obtain ⟨answer, after⟩ := simulates state system'.components[index] op
            (same.each index _ _ found (List.getElem?_eq_getElem inside))
          exact ⟨congrArg (Reply.output index) answer, same.drive index after⟩

/-- Systems that start the same reply alike through a whole run, if every request of
the run opens alike in the environment that it meets. -/
theorem Simulates.run (simulates : Simulates left right related)
    (same : SameSystem related system system') (events : List (Event Env Request Op))
    (opens : ∀ before request after, events = before ++ .start request :: after →
      OpensAlike related (left.start (left.run system before).2.env request)
        (right.start (left.run system before).2.env request)) :
    (left.run system events).1 = (right.run system' events).1 ∧
      SameSystem related (left.run system events).2 (right.run system' events).2 := by
  induction events generalizing system system' with
  | nil => exact ⟨rfl, same⟩
  | cons event events induction =>
      obtain ⟨reply, next⟩ := simulates.stepSystem same event fun request isStart =>
        opens [] request events (by rw [isStart]; rfl)
      obtain ⟨replies, final⟩ := induction next fun before request after shape => by
        have later := opens (event :: before) request after (by rw [shape]; rfl)
        rw [Component.run_cons] at later
        exact later
      rw [Component.run_cons, Component.run_cons]
      exact ⟨List.cons_eq_cons.mpr ⟨reply, replies⟩, final⟩

end Runs

end VgiPprof.Data
