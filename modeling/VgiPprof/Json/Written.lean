import VgiPprof.Json.Reader

namespace VgiPprof.Json

/-! What a writer puts down is read back, where it can be read at all. -/

theorem mapM_guard {α β : Type} (allowed : α → Bool) (f : α → β) (items : List α) :
    items.mapM (fun x => if allowed x then some (f x) else none) =
      if items.all allowed then some (items.map f) else none := by
  induction items with
  | nil => rfl
  | cons x items induction =>
      rw [List.mapM_cons, induction, List.all_cons]
      cases allowed x <;> cases items.all allowed <;> rfl

/-- The written characters stand for `c` in a string, and for nothing there when
`c` is `none`. -/
def Spells (written : List Char) (c : Option Char) : Prop :=
  ∀ rest, takePiece (written ++ rest) = c.map fun c => (some c, rest)

theorem Spells.plain {c : Char} (notQuote : c ≠ '"') (notEscape : c ≠ '\\')
    (notControl : isControl c = false) : Spells [c] (some c) := by
  intro rest
  simp [takePiece, notQuote, notEscape, notControl]

theorem Spells.control {c : Char} (control : isControl c = true) : Spells [c] none := by
  intro rest
  have notQuote : c ≠ '"' := by
    rintro rfl
    exact absurd control (by decide)
  have notEscape : c ≠ '\\' := by
    rintro rfl
    exact absurd control (by decide)
  simp [takePiece, notQuote, notEscape, control]

theorem Spells.escape {letter c : Char} (notUnicode : letter ≠ 'u')
    (meaning : escapeLetter letter = some c) : Spells ['\\', letter] (some c) := by
  intro rest
  simp [takePiece, takeEscape, notUnicode, meaning]

theorem Spells.ne_nil {written : List Char} {c : Option Char} (spells : Spells written c) :
    written ≠ [] := by
  rintro rfl
  have atEnd := spells []
  have atQuote := spells ['"']
  cases c with
  | none => cases atQuote
  | some c => cases atEnd

theorem length_le_flatMap {write : Char → List Char} {chars : List Char}
    (nonempty : ∀ c ∈ chars, write c ≠ []) :
    chars.length ≤ (chars.flatMap write).length := by
  induction chars with
  | nil => exact Nat.le_refl 0
  | cons c chars induction =>
      obtain ⟨first, others⟩ := List.forall_mem_cons.mp nonempty
      have one := List.length_pos_iff.mpr first
      have more := induction others
      rw [List.flatMap_cons, List.length_append, List.length_cons]
      omega

theorem takeString_written {write : Char → List Char} {read : Char → Option Char}
    {chars : List Char} (spells : ∀ c ∈ chars, Spells (write c) (read c)) (rest : List Char)
    (fuel : Nat) (enough : chars.length < fuel) :
    takeString fuel (chars.flatMap write ++ '"' :: rest) =
      (chars.mapM read).map fun chars => (chars, rest) := by
  induction chars generalizing fuel with
  | nil =>
      obtain ⟨fuel, rfl⟩ := Nat.exists_eq_add_of_lt enough
      simp [takeString, takePiece]
  | cons c chars induction =>
      obtain ⟨first, others⟩ := List.forall_mem_cons.mp spells
      cases fuel with
      | zero => exact absurd enough (Nat.not_lt_zero _)
      | succ fuel =>
          rw [List.flatMap_cons, List.append_assoc, takeString, first, List.mapM_cons]
          cases read c with
          | none => rfl
          | some c =>
              have tail := induction others fuel (Nat.lt_of_succ_lt_succ enough)
              simp only [Option.map_some, tail, Option.map_map]
              cases chars.mapM read <;> rfl

/-- The fuel of a string that starts here. -/
theorem takeString_of_quote {write : Char → List Char} {read : Char → Option Char}
    {chars : List Char} (spells : ∀ c ∈ chars, Spells (write c) (read c)) (rest : List Char) :
    takeString (chars.flatMap write ++ '"' :: rest).length
        (chars.flatMap write ++ '"' :: rest) =
      (chars.mapM read).map fun chars => (chars, rest) := by
  refine takeString_written spells rest _ ?_
  have room := length_le_flatMap fun c inside => (spells c inside).ne_nil
  rw [List.length_append, List.length_cons]
  omega

/-! Items between brackets. -/

section Items

variable {α β : Type} {readItem : List Char → Option (α × List Char)}
  {write : β → List Char} {value : β → Option α} {close : Char}

/-- Reading what was written of an item leaves what follows it. -/
def Reads (readItem : List Char → Option (α × List Char)) (written : List Char)
    (value : Option α) : Prop :=
  ∀ rest, readItem (written ++ rest) = value.map fun value => (value, rest)

/-- The written item can be told from white space and from a closing bracket. -/
def Starts (close : Char) (written : List Char) : Prop :=
  ∃ c rest, written = c :: rest ∧ isSpace c = false ∧ c ≠ close

theorem skipSpace_of_not {c : Char} (visible : isSpace c = false) (rest : List Char) :
    skipSpace (c :: rest) = c :: rest := by
  rw [skipSpace, List.dropWhile_cons_of_neg (by rw [visible]; decide)]

theorem readItems_written (visible : isSpace close = false) (notComma : close ≠ ',')
    {items : List β} (reads : ∀ x ∈ items, Reads readItem (write x) (value x))
    (nonempty : items ≠ []) (rest : List Char) (fuel : Nat) (enough : items.length ≤ fuel) :
    readItems readItem close fuel
        (List.intercalate [','] (items.map write) ++ close :: rest) =
      (items.mapM value).map fun values => (values, rest) := by
  induction items generalizing fuel with
  | nil => exact absurd rfl nonempty
  | cons x items induction =>
      obtain ⟨first, others⟩ := List.forall_mem_cons.mp reads
      cases fuel with
      | zero => exact absurd enough (Nat.not_succ_le_zero _)
      | succ fuel =>
          cases items with
          | nil =>
              rw [List.map_singleton, List.intercalate_singleton, readItems, first,
                List.mapM_cons]
              cases value x with
              | none => rfl
              | some v => simp [skipSpace_of_not visible]
          | cons y items =>
              have tail := induction others (List.cons_ne_nil y items) fuel
                (Nat.le_of_succ_le_succ enough)
              rw [List.map_cons, List.intercalate_cons_of_ne_nil (by simp),
                List.append_assoc, List.append_assoc, readItems, first, List.mapM_cons]
              cases value x with
              | none => rfl
              | some v =>
                  simp only [Option.map_some, Option.bind_eq_bind, Option.bind_some,
                    List.cons_append, List.nil_append,
                    skipSpace_of_not (c := ',') (by decide), if_neg notComma.symm,
                    if_true, tail, Option.map_map]
                  cases (y :: items).mapM value <;> rfl

theorem length_le_intercalate {items : List β} (nonempty : ∀ x ∈ items, write x ≠ []) :
    items.length ≤ (List.intercalate [','] (items.map write)).length := by
  induction items with
  | nil => exact Nat.zero_le _
  | cons x items induction =>
      obtain ⟨first, others⟩ := List.forall_mem_cons.mp nonempty
      have one := List.length_pos_iff.mpr first
      have more := induction others
      cases items with
      | nil =>
          rw [List.map_singleton, List.intercalate_singleton]
          exact one
      | cons y items =>
          rw [List.map_cons, List.intercalate_cons_of_ne_nil (by simp), List.length_append,
            List.length_append, List.length_cons]
          omega

theorem Starts.append {written : List Char} (starts : Starts close written)
    (rest : List Char) : Starts close (written ++ rest) := by
  obtain ⟨c, tail, rfl, visible, notClose⟩ := starts
  exact ⟨c, tail ++ rest, rfl, visible, notClose⟩

theorem readGroup_of_starts {text : List Char} (starts : Starts close text) :
    readGroup readItem close text = readItems readItem close text.length text := by
  obtain ⟨c, rest, rfl, visible, notClose⟩ := starts
  simp only [readGroup, skipSpace_of_not visible, if_neg notClose]

theorem readGroup_written (visible : isSpace close = false) (notComma : close ≠ ',')
    {items : List β} (reads : ∀ x ∈ items, Reads readItem (write x) (value x))
    (starts : ∀ x ∈ items, Starts close (write x)) (rest : List Char) :
    readGroup readItem close (List.intercalate [','] (items.map write) ++ close :: rest) =
      (items.mapM value).map fun values => (values, rest) := by
  cases items with
  | nil => simp [readGroup, skipSpace_of_not visible]
  | cons x items =>
      have begins : Starts close
          (List.intercalate [','] ((x :: items).map write) ++ close :: rest) := by
        have first := starts x List.mem_cons_self
        cases items with
        | nil =>
            rw [List.map_singleton, List.intercalate_singleton]
            exact first.append _
        | cons y items =>
            rw [List.map_cons, List.intercalate_cons_of_ne_nil (by simp), List.append_assoc,
              List.append_assoc]
            exact first.append _
      have room : (x :: items).length ≤
          (List.intercalate [','] ((x :: items).map write) ++ close :: rest).length := by
        have nonempty : ∀ y ∈ x :: items, write y ≠ [] := by
          intro y inside
          obtain ⟨c, tail, shape, -⟩ := starts y inside
          rw [shape]
          exact List.cons_ne_nil c tail
        have short := length_le_intercalate nonempty
        rw [List.length_append]
        omega
      rw [readGroup_of_starts begins]
      exact readItems_written visible notComma reads (List.cons_ne_nil x items) rest _ room

end Items

/-! Values. -/

theorem readValue_string {write : Char → List Char} {read : Char → Option Char}
    {chars : List Char} (spells : ∀ c ∈ chars, Spells (write c) (read c)) (depth : Nat) :
    Reads (readValue (depth + 1)) ('"' :: (chars.flatMap write ++ ['"']))
      ((chars.mapM read).map fun chars => .string (String.ofList chars)) := by
  intro rest
  rw [List.cons_append, List.append_assoc, List.singleton_append, readValue,
    skipSpace_of_not (by decide)]
  simp only [takeString_of_quote spells, Option.map_map]
  rfl

theorem readValue_array {β : Type} {write : β → List Char} {value : β → Option Value}
    {items : List β} {depth : Nat}
    (reads : ∀ x ∈ items, Reads (readValue depth) (write x) (value x))
    (starts : ∀ x ∈ items, Starts ']' (write x)) :
    Reads (readValue (depth + 1))
      ('[' :: (List.intercalate [','] (items.map write) ++ [']']))
      ((items.mapM value).map .array) := by
  intro rest
  rw [List.cons_append, List.append_assoc, List.singleton_append, readValue,
    skipSpace_of_not (by decide)]
  simp only [readGroup_written (by decide) (by decide) reads starts, Option.map_map]
  rfl

theorem readValue_object {β : Type} {write : β → List Char}
    {member : β → Option (String × Value)} {items : List β} {depth : Nat}
    (reads : ∀ x ∈ items, Reads (readMember (readValue depth)) (write x) (member x))
    (starts : ∀ x ∈ items, Starts '}' (write x)) :
    Reads (readValue (depth + 1))
      ('{' :: (List.intercalate [','] (items.map write) ++ ['}']))
      ((items.mapM member).map .object) := by
  intro rest
  rw [List.cons_append, List.append_assoc, List.singleton_append, readValue,
    skipSpace_of_not (by decide)]
  simp only [readGroup_written (by decide) (by decide) reads starts, Option.map_map]
  rfl

/-- A key that needs no escapes. -/
def plain (key : String) : Bool :=
  key.toList.all fun c => c != '"' && c != '\\' && !isControl c

theorem spells_of_plain {key : String} (isPlain : plain key = true) :
    ∀ c ∈ key.toList, Spells [c] (some c) := by
  intro c inside
  have each := List.all_eq_true.mp isPlain c inside
  simp only [Bool.and_eq_true, bne_iff_ne, Bool.not_eq_true'] at each
  exact Spells.plain each.1.1 each.1.2 each.2

theorem readMember_written {key : String} (isPlain : plain key = true)
    {read : List Char → Option (Value × List Char)} {written : List Char}
    {value : Option Value} (reads : Reads read written value) :
    Reads (readMember read) ('"' :: (key.toList ++ '"' :: ':' :: written))
      (value.map fun value => (key, value)) := by
  intro rest
  have taken := takeString_of_quote (spells_of_plain isPlain) (':' :: (written ++ rest))
  have itself : key.toList.mapM some = some key.toList := by
    simpa using List.mapM_pure (m := Option) (l := key.toList) (f := id)
  rw [List.flatMap_singleton', itself] at taken
  rw [readMember, List.cons_append, skipSpace_of_not (by decide)]
  simp only [List.append_assoc, List.cons_append, taken, Option.map_some,
    Option.bind_eq_bind, Option.bind_some, skipSpace_of_not (c := ':') (by decide),
    reads rest, Option.map_map, String.ofList_toList]
  rfl

theorem parse_of_reads {text : String} {value : Option Value}
    (reads : Reads (readValue (text.toList.length + 1)) text.toList value) :
    parse text = value := by
  have whole := reads []
  rw [List.append_nil] at whole
  rw [parse, whole]
  cases value <;> rfl

end VgiPprof.Json
