namespace VgiPprof.Data

/-! Loops that push onto a vector. -/

theorem foldl_push {α β : Type} (f : α → β) (xs : List α) (out : List β) :
    xs.foldl (fun out x => out ++ [f x]) out = out ++ xs.map f := by
  induction xs generalizing out with
  | nil => simp
  | cons x xs ih => simp [ih]

theorem foldl_extend {α β : Type} (f : α → List β) (xs : List α) (out : List β) :
    xs.foldl (fun out x => out ++ f x) out = out ++ xs.flatMap f := by
  rw [List.foldl_append_eq_append, List.flatMap_def]

/-! Runs that may fail. -/

theorem bind_eq_ok {ε α β : Type} {first : Except ε α} {next : α → Except ε β} {result : β} :
    (first >>= next) = .ok result ↔ ∃ value, first = .ok value ∧ next value = .ok result := by
  cases first with
  | error error => exact ⟨nofun, nofun⟩
  | ok value => exact ⟨fun run => ⟨value, rfl, run⟩, fun ⟨_, rfl, run⟩ => run⟩

/-! Loops that may fail.  An invariant relates the state to the elements already
consumed. -/

section Run

variable {ε σ α : Type} {step : σ → α → Except ε σ} {invariant : List α → σ → Prop}

theorem foldlM_preserves
    (preserves : ∀ done state x next, invariant done state →
      step state x = .ok next → invariant (done ++ [x]) next)
    {xs : List α} {state final : σ} (start : invariant [] state)
    (run : xs.foldlM step state = .ok final) : invariant xs final := by
  suffices onward : ∀ done state, invariant done state →
      xs.foldlM step state = .ok final → invariant (done ++ xs) final from
    onward [] state start run
  clear start run
  induction xs with
  | nil =>
      intro done state start run
      rw [List.append_nil]
      exact Except.ok.inj run ▸ start
  | cons x xs ih =>
      intro done state start run
      rw [List.foldlM_cons] at run
      obtain ⟨next, stepped, run⟩ := bind_eq_ok.mp run
      rw [List.append_cons]
      exact ih _ next (preserves done state x next start stepped) run

/-- A loop succeeds when no prefix of its input is too much for one step. -/
theorem foldlM_succeeds (invariant : List α → σ → Prop) (fits : List α → Prop)
    (closed : ∀ done rest, fits (done ++ rest) → fits done)
    (preserves : ∀ done state x next, invariant done state →
      step state x = .ok next → invariant (done ++ [x]) next)
    (progress : ∀ done state x, invariant done state → fits (done ++ [x]) →
      ∃ next, step state x = .ok next)
    {xs : List α} {state : σ} (start : invariant [] state) (room : fits xs) :
    ∃ final, xs.foldlM step state = .ok final := by
  suffices onward : ∀ done state, invariant done state → fits (done ++ xs) →
      ∃ final, xs.foldlM step state = .ok final from
    onward [] state start room
  clear start room
  induction xs with
  | nil => exact fun _ state _ _ => ⟨state, rfl⟩
  | cons x xs ih =>
      intro done state start room
      rw [List.append_cons] at room
      obtain ⟨next, stepped⟩ := progress done state x start (closed _ _ room)
      obtain ⟨final, run⟩ := ih _ next (preserves done state x next start stepped) room
      exact ⟨final, by rw [List.foldlM_cons]; exact bind_eq_ok.mpr ⟨next, stepped, run⟩⟩

end Run

end VgiPprof.Data
