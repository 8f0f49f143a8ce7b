import VgiPprof.Core.ProtoDecode
import VgiPprof.Wire.Writer

namespace VgiPprof.Core.Proto

open Wire

/-! The canonical encoding of a `Profile`: fields in the order of their tags,
scalars at their default left out, numeric lists packed. -/

def uint64Field (tag : Nat) (value : UInt64) : List Field :=
  if value = 0 then [] else [⟨tag, .varint value.toNat⟩]

def int64Field (tag : Nat) (value : Int64) : List Field :=
  -- a negative number goes out as its two's complement
  uint64Field tag value.toUInt64

def boolField (tag : Nat) (value : Bool) : List Field :=
  uint64Field tag (if value then 1 else 0)

def packedUint64 (tag : Nat) (values : List UInt64) : List Field :=
  if values = [] then [] else [⟨tag, .len (values.flatMap fun value => putVarint value.toNat)⟩]

def packedInt64 (tag : Nat) (values : List Int64) : List Field :=
  packedUint64 tag (values.map (·.toUInt64))

def stringField (tag : Nat) (text : String) : Field :=
  ⟨tag, .len (Utf8.encode text)⟩

def messageField (tag : Nat) (fields : List Field) : Field :=
  ⟨tag, .len (putFields fields)⟩

def ValueType.fields (vt : ValueType) : List Field :=
  int64Field 1 vt.type ++ int64Field 2 vt.unit

def Label.fields (lbl : Label) : List Field :=
  int64Field 1 lbl.key ++ int64Field 2 lbl.str ++ int64Field 3 lbl.num ++
    int64Field 4 lbl.numUnit

def Sample.fields (s : Sample) : List Field :=
  packedUint64 1 s.locationId ++ packedInt64 2 s.value ++
    s.label.map fun lbl => messageField 3 lbl.fields

def Mapping.fields (m : Mapping) : List Field :=
  uint64Field 1 m.id ++ uint64Field 2 m.memoryStart ++ uint64Field 3 m.memoryLimit ++
    uint64Field 4 m.fileOffset ++ int64Field 5 m.filename ++ int64Field 6 m.buildId ++
    boolField 7 m.hasFunctions ++ boolField 8 m.hasFilenames ++
    boolField 9 m.hasLineNumbers ++ boolField 10 m.hasInlineFrames

def Line.fields (ln : Line) : List Field :=
  uint64Field 1 ln.functionId ++ int64Field 2 ln.line ++ int64Field 3 ln.column

def Location.fields (l : Location) : List Field :=
  uint64Field 1 l.id ++ uint64Field 2 l.mappingId ++ uint64Field 3 l.address ++
    (l.line.map fun ln => messageField 4 ln.fields) ++ boolField 5 l.isFolded

def Function.fields (f : Function) : List Field :=
  uint64Field 1 f.id ++ int64Field 2 f.name ++ int64Field 3 f.systemName ++
    int64Field 4 f.filename ++ int64Field 5 f.startLine

def Profile.fields (p : Profile) : List Field :=
  (p.sampleType.map fun vt => messageField 1 vt.fields) ++
    (p.sample.map fun s => messageField 2 s.fields) ++
    (p.mapping.map fun m => messageField 3 m.fields) ++
    (p.location.map fun l => messageField 4 l.fields) ++
    (p.function.map fun f => messageField 5 f.fields) ++
    (p.stringTable.map (stringField 6)) ++
    int64Field 7 p.dropFrames ++ int64Field 8 p.keepFrames ++ int64Field 9 p.timeNanos ++
    int64Field 10 p.durationNanos ++
    (p.periodType.toList.map fun vt => messageField 11 vt.fields) ++
    int64Field 12 p.period ++ packedInt64 13 p.comment ++
    int64Field 14 p.defaultSampleType ++ int64Field 15 p.docUrl

def Profile.encode (p : Profile) : Bytes :=
  putFields p.fields

example : Profile.encode
    { sample := [{ locationId := [1, 300], value := [-1] }], stringTable := ["", "a"] } =
    [0x12, 0x11, 0x0a, 0x03, 0x01, 0xac, 0x02, 0x12, 0x0a, 0xff, 0xff, 0xff, 0xff, 0xff,
      0xff, 0xff, 0xff, 0xff, 0x01, 0x32, 0x00, 0x32, 0x01, 0x61] := by decide

/-! Every field of an encoding can be written, as long as the whole stays below
`2 ^ 64` bytes. -/

@[simp] theorem canonical_uint64Field {tag : Nat} (named : 0 < tag ∧ tag < 2 ^ 29)
    (value : UInt64) : Canonical (uint64Field tag value) := by
  unfold uint64Field
  split
  · exact canonical_nil
  · exact canonical_singleton.mpr ⟨named.1, named.2, value.toNat_lt⟩

@[simp] theorem canonical_int64Field {tag : Nat} (named : 0 < tag ∧ tag < 2 ^ 29)
    (value : Int64) : Canonical (int64Field tag value) :=
  canonical_uint64Field named _

@[simp] theorem canonical_boolField {tag : Nat} (named : 0 < tag ∧ tag < 2 ^ 29)
    (value : Bool) : Canonical (boolField tag value) :=
  canonical_uint64Field named _

@[simp] theorem canonical_packedUint64 {tag : Nat} (named : 0 < tag ∧ tag < 2 ^ 29)
    (values : List UInt64) : Canonical (packedUint64 tag values) := by
  unfold packedUint64
  split
  · exact canonical_nil
  · exact canonical_singleton.mpr ⟨named.1, named.2, trivial⟩

@[simp] theorem canonical_packedInt64 {tag : Nat} (named : 0 < tag ∧ tag < 2 ^ 29)
    (values : List Int64) : Canonical (packedInt64 tag values) :=
  canonical_packedUint64 named _

@[simp] theorem canonical_messages {α : Type} {tag : Nat}
    (named : 0 < tag ∧ tag < 2 ^ 29) (fieldsOf : α → List Field) (xs : List α) :
    Canonical (xs.map fun x => messageField tag (fieldsOf x)) := by
  intro field member
  obtain ⟨x, -, rfl⟩ := List.mem_map.mp member
  exact ⟨named.1, named.2, trivial⟩

@[simp] theorem canonical_strings {tag : Nat} (named : 0 < tag ∧ tag < 2 ^ 29)
    (texts : List String) : Canonical (texts.map (stringField tag)) := by
  intro field member
  obtain ⟨text, -, rfl⟩ := List.mem_map.mp member
  exact ⟨named.1, named.2, trivial⟩

theorem ValueType.canonical_fields (vt : ValueType) : Canonical vt.fields := by
  simp [ValueType.fields]

theorem Label.canonical_fields (lbl : Label) : Canonical lbl.fields := by
  simp [Label.fields]

theorem Sample.canonical_fields (s : Sample) : Canonical s.fields := by
  simp [Sample.fields]

theorem Mapping.canonical_fields (m : Mapping) : Canonical m.fields := by
  simp [Mapping.fields]

theorem Line.canonical_fields (ln : Line) : Canonical ln.fields := by
  simp [Line.fields]

theorem Location.canonical_fields (l : Location) : Canonical l.fields := by
  simp [Location.fields]

theorem Function.canonical_fields (f : Function) : Canonical f.fields := by
  simp [Function.fields]

theorem Profile.canonical_fields (p : Profile) : Canonical p.fields := by
  simp [Profile.fields]

/-! Merging the fields of an encoding, one after the other, builds the message up
from its defaults. -/

section Reads

variable {α : Type} {merge : α → Field → Option α}

def Reads (merge : α → Field → Option α) (init : α) (fields : List Field)
    (result : α) : Prop :=
  fields.foldlM merge init = some result

theorem Reads.append {init middle result : α} {fields more : List Field}
    (first : Reads merge init fields middle) (second : Reads merge middle more result) :
    Reads merge init (fields ++ more) result := by
  unfold Reads at first second ⊢
  rw [List.foldlM_append, first]
  exact second

theorem reads_singleton {init result : α} {field : Field}
    (merged : merge init field = some result) : Reads merge init [field] result := by
  rw [Reads, List.foldlM_cons, merged]
  rfl

theorem uint64_put (value : UInt64) : uint64 (.varint value.toNat) = some value := by
  rw [uint64, UInt64.ofNat_toNat]

theorem reads_uint64Field (merge : α → Field → Option α) (tag : Nat) (set : UInt64 → α)
    (step : ∀ payload, merge (set 0) ⟨tag, payload⟩ = (uint64 payload).map set)
    (value : UInt64) : Reads merge (set 0) (uint64Field tag value) (set value) := by
  unfold uint64Field
  split
  · rename_i zero
    rw [zero]
    rfl
  · apply reads_singleton
    rw [step, uint64_put]
    rfl

theorem reads_int64Field (merge : α → Field → Option α) (tag : Nat) (set : Int64 → α)
    (step : ∀ payload, merge (set 0) ⟨tag, payload⟩ = (int64 payload).map set)
    (value : Int64) : Reads merge (set 0) (int64Field tag value) (set value) := by
  refine reads_uint64Field merge tag (fun bits => set bits.toInt64) ?_ value.toUInt64
  intro payload
  have zero : (0 : UInt64).toInt64 = 0 := rfl
  rw [zero, step, int64, Option.map_map]
  rfl

theorem reads_boolField (merge : α → Field → Option α) (tag : Nat) (set : Bool → α)
    (step : ∀ payload, merge (set false) ⟨tag, payload⟩ = (bool payload).map set)
    (value : Bool) : Reads merge (set false) (boolField tag value) (set value) := by
  have step' (payload : Payload) : merge (set ((0 : UInt64) != 0)) ⟨tag, payload⟩ =
      (uint64 payload).map fun bits => set (bits != 0) := by
    have zero : ((0 : UInt64) != 0) = false := rfl
    rw [zero, step, bool, Option.map_map]
    rfl
  have field := reads_uint64Field merge tag (fun bits => set (bits != 0)) step'
    (if value then 1 else 0)
  cases value with
  | false => exact field
  | true => exact field

theorem putVarint_ne_nil (n : Nat) : putVarint n ≠ [] := by
  rw [putVarint, putVarintWithin]
  split <;> exact List.cons_ne_nil _ _

theorem varints_step {fuel : Nat} {bytes : Bytes} (nonempty : bytes ≠ []) :
    varints (fuel + 1) bytes = (do
      let (value, rest) ← decodeVarint bytes
      let values ← varints fuel rest
      some (value :: values)) := by
  cases bytes with
  | nil => exact absurd rfl nonempty
  | cons byte bytes => rfl

theorem varints_put (values : List UInt64) {fuel : Nat} (enough : values.length ≤ fuel) :
    varints fuel (values.flatMap fun value => putVarint value.toNat) =
      some (values.map (·.toNat)) := by
  induction values generalizing fuel with
  | nil => cases fuel <;> rfl
  | cons value values induction =>
      cases fuel with
      | zero => cases enough
      | succ fuel =>
          have nonempty : putVarint value.toNat ++
              values.flatMap (fun value => putVarint value.toNat) ≠ [] :=
            fun empty => putVarint_ne_nil _ (List.append_eq_nil_iff.mp empty).1
          rw [List.flatMap_cons, varints_step nonempty, decodeVarint_put value.toNat_lt]
          simp only [Option.bind_eq_bind, Option.bind_some,
            induction (Nat.le_of_succ_le_succ enough), List.map_cons]

theorem length_le_packed (values : List UInt64) :
    values.length ≤ (values.flatMap fun value => putVarint value.toNat).length := by
  induction values with
  | nil => exact Nat.le_refl 0
  | cons value values induction =>
      have positive := List.length_pos_iff.mpr (putVarint_ne_nil value.toNat)
      rw [List.flatMap_cons, List.length_append, List.length_cons]
      omega

theorem repeatedUint64_put (values : List UInt64) :
    repeatedUint64 (.len (values.flatMap fun value => putVarint value.toNat)) =
      some values := by
  have back : (values.map (·.toNat)).map UInt64.ofNat = values := by
    rw [List.map_map]
    exact (List.map_congr_left fun value _ => UInt64.ofNat_toNat).trans (List.map_id values)
  rw [repeatedUint64, varints_put values (length_le_packed values), Option.map_some, back]

theorem reads_packedUint64 (merge : α → Field → Option α) (tag : Nat)
    (set : List UInt64 → α)
    (step : ∀ payload, merge (set []) ⟨tag, payload⟩ = (repeatedUint64 payload).map set)
    (values : List UInt64) : Reads merge (set []) (packedUint64 tag values) (set values) := by
  unfold packedUint64
  split
  · rename_i empty
    rw [empty]
    rfl
  · apply reads_singleton
    rw [step, repeatedUint64_put]
    rfl

theorem reads_packedInt64 (merge : α → Field → Option α) (tag : Nat)
    (set : List Int64 → α)
    (step : ∀ payload, merge (set []) ⟨tag, payload⟩ = (repeatedInt64 payload).map set)
    (values : List Int64) : Reads merge (set []) (packedInt64 tag values) (set values) := by
  have back : (values.map (·.toUInt64)).map (·.toInt64) = values := by
    rw [List.map_map]
    exact List.map_id values
  have step' (payload : Payload) : merge (set (List.map UInt64.toInt64 [])) ⟨tag, payload⟩ =
      (repeatedUint64 payload).map fun bits => set (bits.map (·.toInt64)) := by
    rw [List.map_nil, step, repeatedInt64, Option.map_map]
    rfl
  have field := reads_packedUint64 merge tag (fun bits => set (bits.map (·.toInt64))) step'
    (values.map (·.toUInt64))
  rwa [back] at field

/-- A repeated field, each element of which is read into the list so far. -/
theorem reads_repeated {β : Type} (merge : α → Field → Option α) (tag : Nat)
    (set : List β → α) (read : Payload → Option β)
    (step : ∀ done payload, merge (set done) ⟨tag, payload⟩ =
      (read payload).map fun x => set (done ++ [x]))
    {write : β → Payload} {xs : List β} (each : ∀ x ∈ xs, read (write x) = some x)
    (done : List β) :
    Reads merge (set done) (xs.map fun x => ⟨tag, write x⟩) (set (done ++ xs)) := by
  induction xs generalizing done with
  | nil =>
      rw [List.append_nil]
      rfl
  | cons x xs induction =>
      have first : merge (set done) ⟨tag, write x⟩ = some (set (done ++ [x])) := by
        rw [step, each x List.mem_cons_self]
        rfl
      have others := induction (fun y member => each y (List.mem_cons_of_mem _ member))
        (done ++ [x])
      rw [List.append_assoc] at others
      exact (reads_singleton first).append others

theorem mergeMessage_put {init result : α} {fields : List Field} (depth : Nat)
    (canonical : Canonical fields) (small : (putFields fields).length < 2 ^ 64)
    (reads : Reads merge init fields result) :
    mergeMessage depth merge init (putFields fields) = some result := by
  rw [mergeMessage, canonical.parse_put small]
  exact reads

/-- The messages within a message are as small as it is. -/
theorem message_put {β : Type} {inner : β → Field → Option β} {blank : β}
    {fieldsOf : β → List Field} {fields : List Field} (depth tag : Nat) {xs : List β}
    (small : (putFields fields).length < 2 ^ 64)
    (contained : (xs.map fun x => messageField tag (fieldsOf x)) ⊆ fields)
    (canonical : ∀ x, Canonical (fieldsOf x))
    (reads : ∀ x, (putFields (fieldsOf x)).length < 2 ^ 64 →
      Reads inner blank (fieldsOf x) x) :
    ∀ x ∈ xs, message depth inner blank (.len (putFields (fieldsOf x))) = some x := by
  intro x member
  have innerSmall : (putFields (fieldsOf x)).length < 2 ^ 64 :=
    Nat.lt_of_le_of_lt (length_body_le (contained (List.mem_map_of_mem member))) small
  exact mergeMessage_put depth (canonical x) innerSmall (reads x innerSmall)

theorem string_put (text : String) : string (.len (Utf8.encode text)) = some text :=
  Utf8.decode?_encode text

end Reads

theorem ValueType.reads (vt : ValueType) : Reads ValueType.merge {} vt.fields vt := by
  have type := reads_int64Field ValueType.merge 1 (fun x => { type := x }) (fun _ => rfl) vt.type
  have unit := reads_int64Field ValueType.merge 2 (fun x => { vt with unit := x })
    (fun _ => rfl) vt.unit
  exact type.append unit

theorem Label.reads (lbl : Label) : Reads Label.merge {} lbl.fields lbl := by
  have key := reads_int64Field Label.merge 1 (fun x => { key := x }) (fun _ => rfl) lbl.key
  have str := reads_int64Field Label.merge 2 (fun x => { key := lbl.key, str := x })
    (fun _ => rfl) lbl.str
  have num := reads_int64Field Label.merge 3 (fun x => { lbl with num := x, numUnit := 0 })
    (fun _ => rfl) lbl.num
  have numUnit := reads_int64Field Label.merge 4 (fun x => { lbl with numUnit := x })
    (fun _ => rfl) lbl.numUnit
  exact ((key.append str).append num).append numUnit

theorem Sample.reads (depth : Nat) (s : Sample)
    (small : (putFields s.fields).length < 2 ^ 64) :
    Reads (Sample.merge depth) {} s.fields s := by
  have inner := message_put (depth - 1) 3 small (List.subset_append_right _ _)
    Label.canonical_fields fun lbl _ => lbl.reads
  have locationId := reads_packedUint64 (Sample.merge depth) 1
    (fun xs => { locationId := xs }) (fun _ => rfl) s.locationId
  have value := reads_packedInt64 (Sample.merge depth) 2
    (fun xs => { s with value := xs, label := [] }) (fun _ => rfl) s.value
  have label := reads_repeated (Sample.merge depth) 3 (fun xs => { s with label := xs })
    (message (depth - 1) Label.merge {}) (fun _ _ => rfl) inner []
  exact (locationId.append value).append label

theorem Mapping.reads (m : Mapping) : Reads Mapping.merge {} m.fields m := by
  have id := reads_uint64Field Mapping.merge 1 (fun x => { id := x }) (fun _ => rfl) m.id
  have memoryStart := reads_uint64Field Mapping.merge 2
    (fun x => { id := m.id, memoryStart := x }) (fun _ => rfl) m.memoryStart
  have memoryLimit := reads_uint64Field Mapping.merge 3
    (fun x => { id := m.id, memoryStart := m.memoryStart, memoryLimit := x })
    (fun _ => rfl) m.memoryLimit
  have fileOffset := reads_uint64Field Mapping.merge 4
    (fun x => { id := m.id, memoryStart := m.memoryStart, memoryLimit := m.memoryLimit,
                fileOffset := x })
    (fun _ => rfl) m.fileOffset
  have filename := reads_int64Field Mapping.merge 5
    (fun x => { id := m.id, memoryStart := m.memoryStart, memoryLimit := m.memoryLimit,
                fileOffset := m.fileOffset, filename := x })
    (fun _ => rfl) m.filename
  have buildId := reads_int64Field Mapping.merge 6
    (fun x => { m with buildId := x, hasFunctions := false, hasFilenames := false,
                       hasLineNumbers := false, hasInlineFrames := false })
    (fun _ => rfl) m.buildId
  have hasFunctions := reads_boolField Mapping.merge 7
    (fun x => { m with hasFunctions := x, hasFilenames := false, hasLineNumbers := false,
                       hasInlineFrames := false })
    (fun _ => rfl) m.hasFunctions
  have hasFilenames := reads_boolField Mapping.merge 8
    (fun x => { m with hasFilenames := x, hasLineNumbers := false, hasInlineFrames := false })
    (fun _ => rfl) m.hasFilenames
  have hasLineNumbers := reads_boolField Mapping.merge 9
    (fun x => { m with hasLineNumbers := x, hasInlineFrames := false })
    (fun _ => rfl) m.hasLineNumbers
  have hasInlineFrames := reads_boolField Mapping.merge 10
    (fun x => { m with hasInlineFrames := x }) (fun _ => rfl) m.hasInlineFrames
  exact id.append memoryStart |>.append memoryLimit |>.append fileOffset
    |>.append filename |>.append buildId |>.append hasFunctions |>.append hasFilenames
    |>.append hasLineNumbers |>.append hasInlineFrames

theorem Line.reads (ln : Line) : Reads Line.merge {} ln.fields ln := by
  have functionId := reads_uint64Field Line.merge 1 (fun x => { functionId := x })
    (fun _ => rfl) ln.functionId
  have line := reads_int64Field Line.merge 2
    (fun x => { functionId := ln.functionId, line := x }) (fun _ => rfl) ln.line
  have column := reads_int64Field Line.merge 3 (fun x => { ln with column := x })
    (fun _ => rfl) ln.column
  exact (functionId.append line).append column

theorem Location.reads (depth : Nat) (l : Location)
    (small : (putFields l.fields).length < 2 ^ 64) :
    Reads (Location.merge depth) {} l.fields l := by
  have inner := message_put (depth - 1) 4 small
    (List.subset_append_of_subset_left _ (List.subset_append_right _ _))
    Line.canonical_fields fun ln _ => ln.reads
  have id := reads_uint64Field (Location.merge depth) 1 (fun x => { id := x })
    (fun _ => rfl) l.id
  have mappingId := reads_uint64Field (Location.merge depth) 2
    (fun x => { id := l.id, mappingId := x }) (fun _ => rfl) l.mappingId
  have address := reads_uint64Field (Location.merge depth) 3
    (fun x => { l with address := x, line := [], isFolded := false })
    (fun _ => rfl) l.address
  have line := reads_repeated (Location.merge depth) 4
    (fun xs => { l with line := xs, isFolded := false })
    (message (depth - 1) Line.merge {}) (fun _ _ => rfl) inner []
  have isFolded := reads_boolField (Location.merge depth) 5
    (fun x => { l with isFolded := x }) (fun _ => rfl) l.isFolded
  exact id.append mappingId |>.append address |>.append line |>.append isFolded

theorem Function.reads (f : Function) : Reads Function.merge {} f.fields f := by
  have id := reads_uint64Field Function.merge 1 (fun x => { id := x }) (fun _ => rfl) f.id
  have name := reads_int64Field Function.merge 2 (fun x => { id := f.id, name := x })
    (fun _ => rfl) f.name
  have systemName := reads_int64Field Function.merge 3
    (fun x => { id := f.id, name := f.name, systemName := x }) (fun _ => rfl) f.systemName
  have filename := reads_int64Field Function.merge 4
    (fun x => { f with filename := x, startLine := 0 }) (fun _ => rfl) f.filename
  have startLine := reads_int64Field Function.merge 5 (fun x => { f with startLine := x })
    (fun _ => rfl) f.startLine
  exact id.append name |>.append systemName |>.append filename |>.append startLine

/-- The stages of the whole message.  Each stage sets one field over the fields
with smaller tags. -/
theorem Profile.reads (depth : Nat) (p : Profile)
    (small : (putFields p.fields).length < 2 ^ 64) :
    Reads (Profile.merge depth) {} p.fields p := by
  have sampleType := reads_repeated (Profile.merge depth) 1 (fun xs => { sampleType := xs })
    (message (depth - 1) ValueType.merge {}) (fun _ _ => rfl)
    (message_put (depth - 1) 1 small
      (fun field (member : field ∈ p.sampleType.map _) => by
        simp only [Profile.fields, List.mem_append, member, true_or])
      ValueType.canonical_fields fun vt _ => vt.reads) []
  have sample := reads_repeated (Profile.merge depth) 2
    (fun xs => { sampleType := p.sampleType, sample := xs })
    (message (depth - 1) (Sample.merge (depth - 1)) {}) (fun _ _ => rfl)
    (message_put (depth - 1) 2 small
      (fun field (member : field ∈ p.sample.map _) => by
        simp only [Profile.fields, List.mem_append, member, true_or, or_true])
      Sample.canonical_fields fun s => s.reads (depth - 1)) []
  have mapping := reads_repeated (Profile.merge depth) 3
    (fun xs => { sampleType := p.sampleType, sample := p.sample, mapping := xs })
    (message (depth - 1) Mapping.merge {}) (fun _ _ => rfl)
    (message_put (depth - 1) 3 small
      (fun field (member : field ∈ p.mapping.map _) => by
        simp only [Profile.fields, List.mem_append, member, true_or, or_true])
      Mapping.canonical_fields fun m _ => m.reads) []
  have location := reads_repeated (Profile.merge depth) 4
    (fun xs => { sampleType := p.sampleType, sample := p.sample, mapping := p.mapping,
                 location := xs })
    (message (depth - 1) (Location.merge (depth - 1)) {}) (fun _ _ => rfl)
    (message_put (depth - 1) 4 small
      (fun field (member : field ∈ p.location.map _) => by
        simp only [Profile.fields, List.mem_append, member, true_or, or_true])
      Location.canonical_fields fun l => l.reads (depth - 1)) []
  have function := reads_repeated (Profile.merge depth) 5
    (fun xs => { sampleType := p.sampleType, sample := p.sample, mapping := p.mapping,
                 location := p.location, function := xs })
    (message (depth - 1) Function.merge {}) (fun _ _ => rfl)
    (message_put (depth - 1) 5 small
      (fun field (member : field ∈ p.function.map _) => by
        simp only [Profile.fields, List.mem_append, member, true_or, or_true])
      Function.canonical_fields fun f _ => f.reads) []
  have stringTable := reads_repeated (Profile.merge depth) 6
    (fun xs => { sampleType := p.sampleType, sample := p.sample, mapping := p.mapping,
                 location := p.location, function := p.function, stringTable := xs })
    string (fun _ _ => rfl)
    (fun text (_ : text ∈ p.stringTable) => string_put text) []
  have dropFrames := reads_int64Field (Profile.merge depth) 7
    (fun x => { sampleType := p.sampleType, sample := p.sample, mapping := p.mapping,
                location := p.location, function := p.function,
                stringTable := p.stringTable, dropFrames := x })
    (fun _ => rfl) p.dropFrames
  have keepFrames := reads_int64Field (Profile.merge depth) 8
    (fun x => { p with keepFrames := x, timeNanos := 0, durationNanos := 0,
                       periodType := none, period := 0, comment := [],
                       defaultSampleType := 0, docUrl := 0 })
    (fun _ => rfl) p.keepFrames
  have timeNanos := reads_int64Field (Profile.merge depth) 9
    (fun x => { p with timeNanos := x, durationNanos := 0, periodType := none, period := 0,
                       comment := [], defaultSampleType := 0, docUrl := 0 })
    (fun _ => rfl) p.timeNanos
  have durationNanos := reads_int64Field (Profile.merge depth) 10
    (fun x => { p with durationNanos := x, periodType := none, period := 0, comment := [],
                       defaultSampleType := 0, docUrl := 0 })
    (fun _ => rfl) p.durationNanos
  have periodType : Reads (Profile.merge depth)
      { p with periodType := none, period := 0, comment := [], defaultSampleType := 0,
               docUrl := 0 }
      (p.periodType.toList.map fun vt => messageField 11 vt.fields)
      { p with period := 0, comment := [], defaultSampleType := 0, docUrl := 0 } := by
    have inner := message_put (depth - 1) 11 small
      (fun field (member : field ∈ p.periodType.toList.map _) => by
        simp only [Profile.fields, List.mem_append, member, true_or, or_true])
      ValueType.canonical_fields fun vt _ => vt.reads
    cases given : p.periodType with
    | none => rfl
    | some vt =>
        have read := inner vt (by simp [given])
        apply reads_singleton
        simp only [Profile.merge, messageField, Option.getD_none, read, Option.map_some]
  have period := reads_int64Field (Profile.merge depth) 12
    (fun x => { p with period := x, comment := [], defaultSampleType := 0, docUrl := 0 })
    (fun _ => rfl) p.period
  have comment := reads_packedInt64 (Profile.merge depth) 13
    (fun xs => { p with comment := xs, defaultSampleType := 0, docUrl := 0 })
    (fun _ => rfl) p.comment
  have defaultSampleType := reads_int64Field (Profile.merge depth) 14
    (fun x => { p with defaultSampleType := x, docUrl := 0 })
    (fun _ => rfl) p.defaultSampleType
  have docUrl := reads_int64Field (Profile.merge depth) 15 (fun x => { p with docUrl := x })
    (fun _ => rfl) p.docUrl
  exact sampleType.append sample |>.append mapping |>.append location |>.append function
    |>.append stringTable |>.append dropFrames |>.append keepFrames |>.append timeNanos
    |>.append durationNanos |>.append periodType |>.append period |>.append comment
    |>.append defaultSampleType |>.append docUrl

/-- What is encoded is decoded. -/
theorem Profile.decode_encode (p : Profile) (small : p.encode.length < 2 ^ 64) :
    Profile.decode p.encode = .ok p := by
  rw [Profile.decode, encode, mergeMessage_put recursionLimit p.canonical_fields small
    (p.reads recursionLimit small)]

theorem Profile.encode_eq_nil_iff {p : Profile} (small : p.encode.length < 2 ^ 64) :
    p.encode = [] ↔ p = {} := by
  constructor
  · intro empty
    have back := p.decode_encode small
    rw [empty] at back
    exact (Except.ok.inj back).symm
  · rintro rfl
    rfl

theorem Profile.encode_message (p : Profile) (small : p.encode.length < 2 ^ 64) :
    Message p.encode p.fields :=
  parse_sound (p.canonical_fields.parse_put small recursionLimit)

end VgiPprof.Core.Proto
