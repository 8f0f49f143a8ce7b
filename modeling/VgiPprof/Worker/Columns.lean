import VgiPprof.Arrow.Column
import VgiPprof.Worker.Offsets

namespace VgiPprof.Worker.ArrowBuild

open Arrow VgiPprof.Core Data TextView

/-! The column builders of this crate against the columns they stand for. -/

/-! Flat columns. -/

theorem i64Col_eq (rows : List (Option Int64)) : i64Col rows = .ok (.int64 rows) := by
  rw [i64Col, PrimitiveBuilder.foldl_appendOption]
  rfl

theorem u64Col_eq (rows : List (Option UInt64)) : u64Col rows = .ok (.uint64 rows) := by
  rw [u64Col, PrimitiveBuilder.foldl_appendOption]
  rfl

def i64Builder : Builder Int64 where
  type := .int64
  encode := .int64
  build := i64Col
  built rows _ := ⟨_, i64Col_eq rows, rfl⟩
  shape rows array built := by
    cases (i64Col_eq rows).symm.trans built
    exact ⟨rfl, rfl, List.length_map _⟩
  exact _ _ _ _ := by simp

def u64Builder : Builder UInt64 where
  type := .uint64
  encode := .uint64
  build := u64Col
  built rows _ := ⟨_, u64Col_eq rows, rfl⟩
  shape rows array built := by
    cases (u64Col_eq rows).symm.trans built
    exact ⟨rfl, rfl, List.length_map _⟩
  exact _ _ _ _ := by simp

def strViews : List (TextView StringBuilder (Option String)) :=
  [⟨id, id⟩]

theorem strCol_appends : Appends strViews StringBuilder.appendOption where
  wrote state x next stepped view member := by
    cases List.mem_singleton.mp member
    exact StringBuilder.values_of_appendOption stepped
  runs state x room :=
    StringBuilder.appendOption_of_fits (room ⟨id, id⟩ (List.mem_singleton.mpr rfl))

theorem strCol_eq_ok {rows : List (Option String)} {array : ArrayRef}
    (built : strCol rows = .ok array) :
    ∃ fits : byteTotal rows ≤ i32Max, array = .utf8 ⟨rows, fits⟩ := by
  cases ran : rows.foldlM StringBuilder.appendOption .new with
  | error panic =>
      rw [strCol, ran] at built
      cases built
  | ok state =>
      rw [strCol, ran] at built
      cases built
      have holds := strCol_appends.holds_run (by simp [Holds, strViews]) ran
      have values : state.values = rows := by
        simpa [Holds, strViews] using holds
      subst values
      exact ⟨state.fits, rfl⟩

def strBuilder : Builder String where
  type := .utf8
  encode := .utf8
  build := strCol
  built rows room := by
    obtain ⟨state, ran⟩ := strCol_appends.run_succeeds rows .new
      (by simp [Holds, strViews]) (by simpa [strViews, Room] using (fits_utf8 id rows).mp room)
    have built : strCol rows = .ok state.finish := by
      rw [strCol, ran]
      rfl
    obtain ⟨fits, array⟩ := strCol_eq_ok built
    exact ⟨_, array ▸ built, rfl⟩
  shape rows array built := by
    obtain ⟨fits, rfl⟩ := strCol_eq_ok built
    exact ⟨rfl, rfl, List.length_map _⟩
  exact rows array built _ := by
    obtain ⟨fits, rfl⟩ := strCol_eq_ok built
    exact (fits_utf8 id rows).mpr (by rwa [List.map_id])

/-! Struct columns. -/

section TextPairs

variable {α : Type} (left right : α → String)

def textViews : List (TextView (StringBuilder × StringBuilder) α) :=
  [⟨(·.1), fun x => some (left x)⟩, ⟨(·.2), fun x => some (right x)⟩]

theorem appendTexts_appends : Appends (textViews left right) (appendTexts left right) where
  wrote state x next stepped := by
    obtain ⟨first, wroteLeft, stepped⟩ := bind_eq_ok.mp stepped
    obtain ⟨second, wroteRight, stepped⟩ := bind_eq_ok.mp stepped
    cases stepped
    simpa [textViews] using ⟨StringBuilder.values_of_appendOption wroteLeft,
      StringBuilder.values_of_appendOption wroteRight⟩
  runs state x room := by
    simp only [textViews, List.forall_mem_cons] at room
    obtain ⟨first, wroteLeft⟩ := StringBuilder.appendOption_of_fits room.1
    obtain ⟨second, wroteRight⟩ := StringBuilder.appendOption_of_fits room.2.1
    exact ⟨(first, second), bind_eq_ok.mpr ⟨first, wroteLeft,
      bind_eq_ok.mpr ⟨second, wroteRight, rfl⟩⟩⟩

theorem room_textViews {leftField rightField : Field} (leftType : leftField.type = .utf8)
    (rightType : rightField.type = .utf8) (items : List α) :
    Room (textViews left right) items ↔ ∀ pair ∈ [leftField, rightField].zip
      [fun x => .utf8 (left x), fun x => .utf8 (right x)],
        Fits pair.1.type (items.map pair.2) := by
  have texts (text : α → String) : Fits .utf8 (items.map fun x => .utf8 (text x)) ↔
      byteTotal (items.map fun x => some (text x)) ≤ i32Max :=
    fits_utf8 (fun x => some (text x)) items
  simp [Room, textViews, leftType, rightType, texts]

def textPairsFill (leftField rightField : Field) (leftType : leftField.type = .utf8)
    (rightType : rightField.type = .utf8) : StructFill (StringBuilder × StringBuilder) α where
  fields := [leftField, rightField]
  columns := [fun x => .utf8 (left x), fun x => .utf8 (right x)]
  width := rfl
  fill items := items.foldlM (appendTexts left right) (.new, .new)
  arrays state := [state.1.finish, state.2.finish]
  filled items fits := (appendTexts_appends left right).run_succeeds items _
    (by simp [Holds, textViews]) ((room_textViews left right leftType rightType items).mpr fits)
  sound items state ran := by
    have holds := (appendTexts_appends left right).holds_run
      (by simp [Holds, textViews]) ran
    refine ⟨(room_textViews left right leftType rightType items).mp holds.room, ?_⟩
    simp only [Holds, textViews, List.forall_mem_cons] at holds
    obtain ⟨first, second, -⟩ := holds
    refine ⟨by simp, ?_, ?_⟩
    · simp [StringBuilder.finish, ArrayRef.dataType, ArrayRef.len, ArrayRef.nullCount,
        ArrayRef.validity, first, second, leftType, rightType, Function.comp_def,
        List.count_eq_zero]
    · simp [StringBuilder.finish, ArrayRef.read, first, second, Function.comp_def,
        Value.ofOption]

theorem columnCount_textPairs {fields : List Field} {items : List α} {array : ArrayRef}
    (built : textPairs fields left right items = .ok array) : columnCount array = 2 := by
  obtain ⟨⟨first, second⟩, -, built⟩ := bind_eq_ok.mp built
  simp only [StructArray.new] at built
  split at built
  · cases built
    rfl
  · cases built

end TextPairs

def mapEntriesDense : Dense (String × String) :=
  (textPairsFill (·.1) (·.2) (.new "key" .utf8 false) (.new "value" .utf8 true)
    rfl rfl).dense

def valueTypeDense : Dense ValueType :=
  (textPairsFill (·.type) (·.unit) (.new "type" .utf8 true) (.new "unit" .utf8 true)
    rfl rfl).dense

def frameViews : List (TextView FrameBuilders Frame) :=
  [⟨(·.function), (·.function)⟩, ⟨(·.filename), (·.filename)⟩]

theorem appendFrame_eq_ok {state next : FrameBuilders} {fr : Frame}
    (appended : appendFrame state fr = .ok next) :
    next.function.values = state.function.values ++ [fr.function] ∧
    next.filename.values = state.filename.values ++ [fr.filename] ∧
    next.line.values = state.line.values ++ [fr.line] ∧
    next.address.values = state.address.values ++ [some fr.address] := by
  obtain ⟨function, wroteFunction, appended⟩ := bind_eq_ok.mp appended
  obtain ⟨filename, wroteFilename, appended⟩ := bind_eq_ok.mp appended
  cases appended
  exact ⟨StringBuilder.values_of_appendOption wroteFunction,
    StringBuilder.values_of_appendOption wroteFilename, rfl, rfl⟩

theorem appendFrame_appends : Appends frameViews appendFrame where
  wrote state fr next appended := by
    obtain ⟨function, filename, -, -⟩ := appendFrame_eq_ok appended
    simpa [frameViews] using ⟨function, filename⟩
  runs state fr room := by
    simp only [frameViews, List.forall_mem_cons] at room
    obtain ⟨function, wroteFunction⟩ := StringBuilder.appendOption_of_fits room.1
    obtain ⟨filename, wroteFilename⟩ := StringBuilder.appendOption_of_fits room.2.1
    exact ⟨_, bind_eq_ok.mpr ⟨function, wroteFunction,
      bind_eq_ok.mpr ⟨filename, wroteFilename, rfl⟩⟩⟩

def FrameNumbers (done : List Frame) (state : FrameBuilders) : Prop :=
  state.line.values = done.map (·.line) ∧
    state.address.values = done.map fun fr => some fr.address

theorem appendFrame_numbers (done : List Frame) (state : FrameBuilders) (fr : Frame)
    (next : FrameBuilders) (numbers : FrameNumbers done state)
    (appended : appendFrame state fr = .ok next) : FrameNumbers (done ++ [fr]) next := by
  obtain ⟨-, -, line, address⟩ := appendFrame_eq_ok appended
  exact ⟨by rw [line, numbers.1, List.map_append]; rfl,
    by rw [address, numbers.2, List.map_append]; rfl⟩

def frameColumns : List (Frame → Value) :=
  [fun fr => .ofOption .utf8 fr.function, fun fr => .ofOption .utf8 fr.filename,
    fun fr => .ofOption .int64 fr.line, fun fr => .uint64 fr.address]

theorem room_frameViews (frames : List Frame) :
    Room frameViews frames ↔
      ∀ pair ∈ frameFields.zip frameColumns, Fits pair.1.type (frames.map pair.2) := by
  simp [Room, frameViews, frameFields, frameColumns, Field.type, fits_utf8]

def frameFill : StructFill FrameBuilders Frame where
  fields := frameFields
  columns := frameColumns
  width := rfl
  fill frames := frames.foldlM appendFrame ⟨.new, .new, .new, .new⟩
  arrays state := [state.function.finish, state.filename.finish,
    .int64 state.line.values, .uint64 state.address.values]
  filled frames fits := appendFrame_appends.run_succeeds frames _
    (by simp [Holds, frameViews]) ((room_frameViews frames).mpr fits)
  sound frames state ran := by
    have holds := appendFrame_appends.holds_run (by simp [Holds, frameViews]) ran
    have numbers : FrameNumbers frames state :=
      foldlM_preserves appendFrame_numbers ⟨rfl, rfl⟩ ran
    refine ⟨(room_frameViews frames).mp holds.room, ?_⟩
    simp only [Holds, frameViews, List.forall_mem_cons] at holds
    obtain ⟨function, filename, -⟩ := holds
    obtain ⟨line, address⟩ := numbers
    refine ⟨by simp, ?_, ?_⟩
    · simp [frameFields, Field.type, Field.nullable, StringBuilder.finish,
        ArrayRef.dataType, ArrayRef.len, function, filename, line, address]
    · simp [frameColumns, StringBuilder.finish, ArrayRef.read, function, filename, line,
        address, Function.comp_def, Value.ofOption]

def frameDense : Dense Frame :=
  frameFill.dense

theorem foldl_appendLineref (lines : List LineRef)
    (state : PrimitiveBuilder UInt64 × PrimitiveBuilder Int64) :
    lines.foldl appendLineref state =
      (⟨state.1.values ++ lines.map fun lr => some lr.functionId⟩,
        ⟨state.2.values ++ lines.map fun lr => some lr.line⟩) := by
  induction lines generalizing state with
  | nil => simp
  | cons lr lines ih =>
      rw [List.foldl_cons, ih]
      simp [appendLineref, PrimitiveBuilder.appendValue, PrimitiveBuilder.appendOption]

def linerefFill :
    StructFill (PrimitiveBuilder UInt64 × PrimitiveBuilder Int64) LineRef where
  fields := linerefFields
  columns := [fun lr => .uint64 lr.functionId, fun lr => .int64 lr.line]
  width := rfl
  fill lines := .ok (lines.foldl appendLineref (.new, .new))
  arrays state := [.uint64 state.1.values, .int64 state.2.values]
  filled lines _ := ⟨_, rfl⟩
  sound lines state ran := by
    cases (foldl_appendLineref lines (.new, .new)).symm.trans (Except.ok.inj ran)
    refine ⟨by simp [linerefFields, Field.type], by simp, ?_, ?_⟩
    · simp [linerefFields, Field.type, Field.nullable, ArrayRef.dataType, ArrayRef.len,
        PrimitiveBuilder.new]
    · simp [ArrayRef.read, PrimitiveBuilder.new, Function.comp_def, Value.ofOption]

def linerefDense : Dense LineRef :=
  linerefFill.dense

/-! The nullable struct column. -/

def valueTypeViews : List (TextView ValueTypeBuilders (Option ValueType)) :=
  [⟨(·.ty), fun row => row.map (·.type)⟩, ⟨(·.unit), fun row => row.map (·.unit)⟩]

theorem appendValueTypeOption_eq_ok {state next : ValueTypeBuilders}
    {row : Option ValueType} (appended : appendValueTypeOption state row = .ok next) :
    next.ty.values = state.ty.values ++ [row.map (·.type)] ∧
    next.unit.values = state.unit.values ++ [row.map (·.unit)] ∧
    next.valid = state.valid ++ [row.isSome] := by
  cases row <;>
    obtain ⟨ty, wroteType, appended⟩ := bind_eq_ok.mp appended <;>
    obtain ⟨unit, wroteUnit, appended⟩ := bind_eq_ok.mp appended <;>
    cases appended <;>
    exact ⟨StringBuilder.values_of_appendOption wroteType,
      StringBuilder.values_of_appendOption wroteUnit, rfl⟩

theorem appendValueTypeOption_appends :
    Appends valueTypeViews appendValueTypeOption where
  wrote state row next appended := by
    obtain ⟨ty, unit, -⟩ := appendValueTypeOption_eq_ok appended
    simpa [valueTypeViews] using ⟨ty, unit⟩
  runs state row room := by
    simp only [valueTypeViews, List.forall_mem_cons] at room
    obtain ⟨ty, wroteType⟩ := StringBuilder.appendOption_of_fits room.1
    obtain ⟨unit, wroteUnit⟩ := StringBuilder.appendOption_of_fits room.2.1
    cases row <;>
      exact ⟨_, bind_eq_ok.mpr ⟨ty, wroteType, bind_eq_ok.mpr ⟨unit, wroteUnit, rfl⟩⟩⟩

theorem appendValueTypeOption_valid (done : List (Option ValueType))
    (state : ValueTypeBuilders) (row : Option ValueType) (next : ValueTypeBuilders)
    (valid : state.valid = done.map (·.isSome))
    (appended : appendValueTypeOption state row = .ok next) :
    next.valid = (done ++ [row]).map (·.isSome) := by
  rw [(appendValueTypeOption_eq_ok appended).2.2, valid, List.map_append]
  rfl

def valueTypeColumns : List (Option ValueType → Value) :=
  [fun row => .ofOption .utf8 (row.map (·.type)),
    fun row => .ofOption .utf8 (row.map (·.unit))]

def valueTypeValue (vt : ValueType) : Value :=
  .struct [.utf8 vt.type, .utf8 vt.unit]

theorem appendValueTypeOption_run {rows : List (Option ValueType)} {state : ValueTypeBuilders}
    (ran : rows.foldlM appendValueTypeOption ⟨.new, .new, []⟩ = .ok state) :
    Room valueTypeViews rows ∧ state.valid = rows.map (·.isSome) ∧
      Fills valueTypeFields valueTypeColumns rows [state.ty.finish, state.unit.finish] := by
  have holds := appendValueTypeOption_appends.holds_run
    (by simp [Holds, valueTypeViews]) ran
  refine ⟨holds.room, foldlM_preserves appendValueTypeOption_valid rfl ran, ?_⟩
  simp only [Holds, valueTypeViews, List.forall_mem_cons] at holds
  obtain ⟨ty, unit, -⟩ := holds
  refine ⟨by simp, ?_, ?_⟩
  · simp [valueTypeFields, Field.type, Field.nullable, StringBuilder.finish,
      ArrayRef.dataType, ArrayRef.len, ty, unit]
  · simp [valueTypeColumns, StringBuilder.finish, ArrayRef.read, ty, unit,
      Function.comp_def]

theorem valueTypeStructCol_eq_ok {rows : List (Option ValueType)} {array : ArrayRef}
    (built : valueTypeStructCol rows = .ok array) :
    Room valueTypeViews rows ∧ array.dataType = structType valueTypeFields ∧
      array.len = rows.length ∧ array.read = rows.map (Value.ofOption valueTypeValue) := by
  obtain ⟨state, ran, built⟩ := bind_eq_ok.mp built
  obtain ⟨room, valid, fills⟩ := appendValueTypeOption_run ran
  cases (fills.structArray_new (some state.valid) (by simp [valid])).symm.trans built
  refine ⟨room, rfl, rfl, ?_⟩
  rw [fills.struct_read, valid]
  exact mask_isSome rows fun vt => rfl

theorem room_valueTypeViews (rows : List (Option ValueType)) :
    Room valueTypeViews rows ↔
      Fits (structType valueTypeFields) (rows.map (Value.ofOption valueTypeValue)) := by
  have spread : Fits (structType valueTypeFields)
        (rows.map (Value.ofOption valueTypeValue)) ↔
      Fits .utf8 ((rows.map (Value.ofOption valueTypeValue)).map (Value.column 0)) ∧
        Fits .utf8 ((rows.map (Value.ofOption valueTypeValue)).map (Value.column 1)) := by
    simp only [Fits, structType, valueTypeFields, Fields.ofList, DataType.loads,
      Fields.loads, Field.loads, List.forall_mem_append, List.not_mem_nil, false_imp_iff,
      implies_true, and_true]
  have columns (i : Nat) (text : ValueType → String)
      (column : ∀ vt, (valueTypeValue vt).column i = .utf8 (text vt)) :
      (rows.map (Value.ofOption valueTypeValue)).map (Value.column i) =
        rows.map fun row => .ofOption .utf8 (row.map text) := by
    rw [List.map_map]
    apply List.map_congr_left
    intro row _
    cases row with
    | none => rfl
    | some vt => exact column vt
  rw [spread, columns 0 (·.type) fun _ => rfl, columns 1 (·.unit) fun _ => rfl, fits_utf8,
    fits_utf8]
  simp [Room, valueTypeViews]

def valueTypeStructBuilder : Builder ValueType where
  type := structType valueTypeFields
  encode := valueTypeValue
  build := valueTypeStructCol
  built rows room := by
    obtain ⟨state, ran⟩ := appendValueTypeOption_appends.run_succeeds rows
      ⟨.new, .new, []⟩ (by simp [Holds, valueTypeViews])
      ((room_valueTypeViews rows).mpr room)
    obtain ⟨-, valid, fills⟩ := appendValueTypeOption_run ran
    have constructed := fills.structArray_new (some state.valid) (by simp [valid])
    have built : valueTypeStructCol rows = .ok _ := bind_eq_ok.mpr ⟨state, ran, constructed⟩
    exact ⟨_, built, (valueTypeStructCol_eq_ok built).2.2.2⟩
  shape rows array built := by
    obtain ⟨-, type, len, read⟩ := valueTypeStructCol_eq_ok built
    exact ⟨type, len, by rw [read, List.length_map]⟩
  exact rows array built _ :=
    (room_valueTypeViews rows).mp (valueTypeStructCol_eq_ok built).1

/-! Lists of numbers. -/

theorem foldl_appendValue {α : Type} (values : List α) :
    (values.foldl PrimitiveBuilder.appendValue .new).values = values.map some := by
  have mapped : values.foldl PrimitiveBuilder.appendValue .new =
      (values.map some).foldl PrimitiveBuilder.appendOption .new := by
    rw [List.foldl_map]
    rfl
  rw [mapped, PrimitiveBuilder.foldl_appendOption]
  rfl

def i64Dense : Dense Int64 where
  type := .int64
  encode := .int64
  build := i64Values
  built values _ := ⟨_, rfl⟩
  sound values array built := by
    cases built
    simp [foldl_appendValue, ArrayRef.read, ArrayRef.len, ArrayRef.dataType,
      ArrayRef.nullCount, ArrayRef.validity, Function.comp_def, Value.ofOption,
      List.count_eq_zero]

def u64Dense : Dense UInt64 where
  type := .uint64
  encode := .uint64
  build := u64Values
  built values _ := ⟨_, rfl⟩
  sound values array built := by
    cases built
    simp [foldl_appendValue, ArrayRef.read, ArrayRef.len, ArrayRef.dataType,
      ArrayRef.nullCount, ArrayRef.validity, Function.comp_def, Value.ofOption,
      List.count_eq_zero]

/-! List and map columns over dense elements. -/

theorem elements_eq {α : Type} (rows : List (Option (List α))) :
    elements rows = (rowElements rows).flatten := by
  induction rows with
  | nil => rfl
  | cons row rows ih =>
      cases row with
      | none => simpa [elements, rowElements] using ih
      | some xs => simpa [elements, rowElements] using ih

theorem counts_getD {α : Type} (rows : List (Option (List α))) :
    (counts rows).map (·.getD 0) = (rowElements rows).map List.length := by
  rw [counts, rowElements, List.map_map, List.map_map]
  apply List.map_congr_left
  intro row _
  cases row <;> rfl

theorem counts_isSome {α : Type} (rows : List (Option (List α))) :
    (counts rows).map (·.isSome) = rows.map (·.isSome) := by
  simp [counts, Function.comp_def]

theorem size_counts {α : Type} (rows : List (Option (List α))) :
    size (counts rows) = (elements rows).length := by
  rw [size, counts_getD, elements_eq, List.length_flatten]

theorem flatMap_elements {α : Type} {encode : α → Value} (wrap : List Value → Value)
    (rows : List (Option (List α))) (unwrap : ∀ xs, (wrap xs).elements = xs) :
    (rows.map (Value.ofOption fun xs => wrap (xs.map encode))).flatMap Value.elements =
      (elements rows).map encode := by
  rw [elements_eq, rowElements, List.flatMap_map, List.map_flatten, List.map_map,
    List.flatMap_def]
  congr 1
  apply List.map_congr_left
  intro row _
  cases row with
  | none => rfl
  | some xs => exact unwrap _

/-- What list and map columns have in common: rows of dense elements between
offsets, under a constructor that checks them. -/
structure Nesting {α : Type} (dense : Dense α) where
  type : DataType
  wrap : List Value → Value
  wrap_injective : Function.Injective wrap
  construct : OffsetBuffer → ArrayRef → List Bool → Run ArrayRef
  accepts : ∀ xs (child : ArrayRef) (offsets : OffsetBuffer) nulls,
    dense.build xs = .ok child → offsets.last.toInt ≤ child.len →
      nulls.length = offsets.offsets.length - 1 →
        ∃ array, construct offsets child nulls = .ok array
  reads : ∀ offsets child nulls array, construct offsets child nulls = .ok array →
    array.dataType = type ∧ array.len = offsets.offsets.length - 1 ∧
      array.read = mask (some nulls) ((slices child.read offsets.offsets).map wrap)
  fits : ∀ rows : List (Option (List α)),
    Fits type (rows.map (Value.ofOption fun xs => wrap (xs.map dense.encode))) ↔
      (elements rows).length ≤ i32Max ∧ Fits dense.type ((elements rows).map dense.encode)

namespace Nesting

variable {α : Type} {dense : Dense α} (nesting : Nesting dense)

def value (xs : List α) : Value :=
  nesting.wrap (xs.map dense.encode)

def col (rows : List (Option (List α))) : Run ArrayRef := do
  let (offsets, nulls) ← offsetsAndNulls (counts rows)
  let child ← dense.build (elements rows)
  nesting.construct offsets child nulls

variable {nesting} {rows : List (Option (List α))} {array : ArrayRef}

/-- Every run of a column goes through these stages. -/
theorem col_eq_ok (built : nesting.col rows = .ok array) :
    ∃ offsets child, nesting.construct offsets child (rows.map (·.isSome)) = .ok array ∧
      offsets.offsets = 0 :: runningTotals 0 (counts rows) ∧
      dense.build (elements rows) = .ok child := by
  obtain ⟨⟨offsets, nulls⟩, counted, built⟩ := bind_eq_ok.mp built
  obtain ⟨child, childBuilt, constructed⟩ := bind_eq_ok.mp built
  obtain ⟨offsetsEq, nullsEq⟩ := offsetsAndNulls_eq_ok counted
  rw [nullsEq, counts_isSome] at constructed
  exact ⟨offsets, child, constructed, offsetsEq, childBuilt⟩

theorem height_runningTotals (rows : List (Option (List α))) :
    (runningTotals 0 (counts rows)).length = rows.length := by
  rw [length_runningTotals, counts, List.length_map]

theorem col_of_fits (room : Fits nesting.type (rows.map (Value.ofOption nesting.value))) :
    ∃ array, nesting.col rows = .ok array ∧
      array.read = rows.map (Value.ofOption nesting.value) := by
  obtain ⟨count, room⟩ := (nesting.fits rows).mp room
  obtain ⟨offsets, counted, offsetsEq, steps⟩ :=
    offsetsAndNulls_of_fits (counts rows) (by rwa [size_counts])
  obtain ⟨child, childBuilt⟩ := dense.built (elements rows) room
  obtain ⟨-, childRead, childLen, -, -⟩ := dense.sound _ _ childBuilt
  have last : offsets.last.toInt = child.len := by
    have total := steps.last
    simp only [OffsetBuffer.last, offsetsEq, total, childLen, ← size_counts, size]
    simp
  obtain ⟨array, constructed⟩ := nesting.accepts (elements rows) child offsets
    ((counts rows).map (·.isSome)) childBuilt (by omega)
    (by simp [offsetsEq, length_runningTotals])
  refine ⟨array, bind_eq_ok.mpr ⟨_, counted, bind_eq_ok.mpr ⟨child, childBuilt,
    constructed⟩⟩, ?_⟩
  rw [(nesting.reads _ _ _ _ constructed).2.2, offsetsEq, childRead, elements_eq,
    counts_isSome]
  exact read_of_steps (counts_getD rows ▸ steps)

theorem col_shape (built : nesting.col rows = .ok array) :
    array.dataType = nesting.type ∧ array.len = rows.length ∧
      array.read.length = rows.length := by
  obtain ⟨offsets, child, constructed, offsetsEq, -⟩ := col_eq_ok built
  obtain ⟨type, len, read⟩ := nesting.reads _ _ _ _ constructed
  refine ⟨type, ?_, ?_⟩
  · rw [len, offsetsEq, List.length_cons, height_runningTotals, Nat.add_sub_cancel]
  · rw [read, length_mask, List.length_map]
    rw [List.length_map, List.length_map, offsetsEq, slices_length, height_runningTotals]

theorem fits_of_col (built : nesting.col rows = .ok array)
    (read : array.read = rows.map (Value.ofOption nesting.value)) :
    Fits nesting.type (rows.map (Value.ofOption nesting.value)) := by
  obtain ⟨offsets, child, constructed, offsetsEq, childBuilt⟩ := col_eq_ok built
  rw [(nesting.reads _ _ _ _ constructed).2.2] at read
  refine (nesting.fits rows).mpr ⟨?_, (dense.sound _ _ childBuilt).1⟩
  rw [elements_eq]
  exact length_le_of_read nesting.wrap_injective offsetsEq (height_runningTotals rows) read

def builder (nesting : Nesting dense) : Builder (List α) where
  type := nesting.type
  encode := nesting.value
  build := nesting.col
  built _ := col_of_fits
  shape _ _ := col_shape
  exact _ _ := fits_of_col

end Nesting

def listNesting {α : Type} (dense : Dense α) : Nesting dense where
  type := .list (listField dense.type)
  wrap := .list
  wrap_injective _ _ := Value.list.inj
  construct offsets child nulls :=
    ListArray.new (listField dense.type) offsets child (some nulls)
  accepts xs child offsets nulls built last height := by
    obtain ⟨-, -, -, type, -⟩ := dense.sound xs child built
    exact ⟨_, if_pos ⟨last, by simpa using height, .inl rfl, type.symm⟩⟩
  reads offsets child nulls array constructed := by
    unfold ListArray.new at constructed
    split at constructed
    · cases constructed
      exact ⟨rfl, rfl, rfl⟩
    · cases constructed
  fits rows := by
    simp only [Fits, DataType.loads, List.forall_mem_cons, flatMap_elements .list rows
      fun _ => rfl, List.length_map]
    rfl

def mapNesting : Nesting mapEntriesDense where
  type := mapType
  wrap := .map
  wrap_injective _ _ := Value.map.inj
  construct offsets entries nulls :=
    MapArray.new mapEntriesField offsets entries (some nulls) false
  accepts pairs entries offsets nulls built last height := by
    obtain ⟨-, -, -, type, noNulls⟩ := mapEntriesDense.sound pairs entries built
    have width : columnCount entries = 2 := columnCount_textPairs _ _ built
    exact ⟨_, if_pos ⟨last, by simpa using height, rfl, noNulls, type.symm, width⟩⟩
  reads offsets entries nulls array constructed := by
    unfold MapArray.new at constructed
    split at constructed
    · cases constructed
      exact ⟨rfl, rfl, rfl⟩
    · cases constructed
  fits rows := by
    simp only [Fits, DataType.loads, List.forall_mem_cons, flatMap_elements .map rows
      fun _ => rfl, List.length_map, mapType]
    rfl

def listBuilder {α : Type} (dense : Dense α) : Builder (List α) :=
  (listNesting dense).builder

def mapBuilder : Builder (List (String × String)) :=
  mapNesting.builder

def listI64Builder : Builder (List Int64) := listBuilder i64Dense

def listU64Builder : Builder (List UInt64) := listBuilder u64Dense

def listValueTypeBuilder : Builder (List ValueType) := listBuilder valueTypeDense

def listFrameBuilder : Builder (List Frame) := listBuilder frameDense

def listLinerefBuilder : Builder (List LineRef) := listBuilder linerefDense

/-! The builders are the functions of the source. -/

example : i64Builder.build = i64Col := rfl
example : u64Builder.build = u64Col := rfl
example : strBuilder.build = strCol := rfl
example : mapBuilder.build = mapCol := rfl
example : valueTypeStructBuilder.build = valueTypeStructCol := rfl
example : listI64Builder.build = listI64Col := rfl
example : listU64Builder.build = listU64Col := rfl
example : listValueTypeBuilder.build = listValueTypeCol := rfl
example : listFrameBuilder.build = listFrameCol := rfl
example : listLinerefBuilder.build = listLinerefCol := rfl

end VgiPprof.Worker.ArrowBuild
