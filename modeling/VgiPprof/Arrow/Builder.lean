import VgiPprof.Arrow.Array
import VgiPprof.Data.Loop

namespace VgiPprof.Arrow

open Data

/-! Array builders, and loops that fill several of them side by side. -/

theorem byteTotal_append (left right : List (Option String)) :
    byteTotal (left ++ right) = byteTotal left + byteTotal right := by
  simp [byteTotal]

structure StringBuilder where
  values : List (Option String)
  fits : byteTotal values ≤ i32Max

namespace StringBuilder

def new : StringBuilder :=
  ⟨[], by decide⟩

def appendOption (builder : StringBuilder) (value : Option String) :
    Run StringBuilder :=
  if fits : byteTotal (builder.values ++ [value]) ≤ i32Max then
    .ok ⟨builder.values ++ [value], fits⟩
  else .error .byteArrayOffset

def appendValue (builder : StringBuilder) (value : String) : Run StringBuilder :=
  builder.appendOption (some value)

def appendNull (builder : StringBuilder) : Run StringBuilder :=
  builder.appendOption none

def finish (builder : StringBuilder) : ArrayRef :=
  .utf8 ⟨builder.values, builder.fits⟩

@[simp] theorem values_new : new.values = [] := rfl

theorem values_of_appendOption {builder next : StringBuilder} {value : Option String}
    (appended : builder.appendOption value = .ok next) :
    next.values = builder.values ++ [value] := by
  unfold appendOption at appended
  split at appended
  · cases appended
    rfl
  · cases appended

theorem appendOption_of_fits {builder : StringBuilder} {value : Option String}
    (fits : byteTotal (builder.values ++ [value]) ≤ i32Max) :
    ∃ next, builder.appendOption value = .ok next :=
  ⟨_, dif_pos fits⟩

end StringBuilder

structure PrimitiveBuilder (α : Type) where
  values : List (Option α)

namespace PrimitiveBuilder

variable {α : Type}

def new : PrimitiveBuilder α := ⟨[]⟩

def appendOption (builder : PrimitiveBuilder α) (value : Option α) : PrimitiveBuilder α :=
  ⟨builder.values ++ [value]⟩

def appendValue (builder : PrimitiveBuilder α) (value : α) : PrimitiveBuilder α :=
  builder.appendOption (some value)

theorem foldl_appendOption (rows : List (Option α)) (builder : PrimitiveBuilder α) :
    rows.foldl appendOption builder = ⟨builder.values ++ rows⟩ := by
  induction rows generalizing builder with
  | nil => simp
  | cons row rows ih => simp [ih, appendOption]

end PrimitiveBuilder

/-! Loops over string builders.  A view names a builder inside the state of the
loop and the text that a step appends to it. -/

structure TextView (σ α : Type) where
  builder : σ → StringBuilder
  text : α → Option String

namespace TextView

variable {σ α : Type}

def Room (views : List (TextView σ α)) (items : List α) : Prop :=
  ∀ view ∈ views, byteTotal (items.map view.text) ≤ i32Max

def Holds (views : List (TextView σ α)) (done : List α) (state : σ) : Prop :=
  ∀ view ∈ views, (view.builder state).values = done.map view.text

/-- One step appends to every view and fails only for want of room. -/
structure Appends (views : List (TextView σ α)) (step : σ → α → Run σ) : Prop where
  wrote : ∀ state x next, step state x = .ok next → ∀ view ∈ views,
    (view.builder next).values = (view.builder state).values ++ [view.text x]
  runs : ∀ state x, (∀ view ∈ views,
    byteTotal ((view.builder state).values ++ [view.text x]) ≤ i32Max) →
      ∃ next, step state x = .ok next

variable {views : List (TextView σ α)} {step : σ → α → Run σ}

theorem Appends.holds_step (appends : Appends views step) (done : List α) (state : σ)
    (x : α) (next : σ) (holds : Holds views done state) (stepped : step state x = .ok next) :
    Holds views (done ++ [x]) next := by
  intro view member
  rw [appends.wrote state x next stepped view member, holds view member, List.map_append]
  rfl

theorem Appends.holds_run (appends : Appends views step) {items : List α}
    {start final : σ} (empty : Holds views [] start)
    (run : items.foldlM step start = .ok final) : Holds views items final :=
  foldlM_preserves appends.holds_step empty run

theorem Appends.run_succeeds (appends : Appends views step) (items : List α)
    (start : σ) (empty : Holds views [] start) (room : Room views items) :
    ∃ final, items.foldlM step start = .ok final := by
  apply foldlM_succeeds (Holds views) (Room views) ?_ appends.holds_step ?_ empty room
  · intro done rest room view member
    have whole := room view member
    rw [List.map_append, byteTotal_append] at whole
    exact Nat.le_of_add_right_le whole
  · intro done state x holds room
    apply appends.runs
    intro view member
    have whole := room view member
    rw [List.map_append] at whole
    rw [holds view member]
    exact whole

theorem Holds.room {items : List α} {final : σ} (holds : Holds views items final) :
    Room views items := by
  intro view member
  rw [← holds view member]
  exact (view.builder final).fits

end TextView

end VgiPprof.Arrow
