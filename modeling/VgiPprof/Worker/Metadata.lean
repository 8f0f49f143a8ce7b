import Mathlib.Data.List.DropRight
import VgiPprof.Json.Written

namespace VgiPprof.Worker

open Json

/-! Texts that describe the functions and tables to whoever lists them. -/

/-- Every occurrence of the one character is replaced. -/
def replace (c : Char) (replacement : String) (text : String) : String :=
  String.ofList (text.toList.flatMap fun d => if d = c then replacement.toList else [d])

/-- The characters with the Unicode property White_Space. -/
def isWhitespace (c : Char) : Bool :=
  (0x09 ≤ c.toNat && c.toNat ≤ 0x0d) || (0x2000 ≤ c.toNat && c.toNat ≤ 0x200a) ||
    [0x20, 0x85, 0xa0, 0x1680, 0x2028, 0x2029, 0x202f, 0x205f, 0x3000].contains c.toNat

def trim (text : String) : String :=
  String.ofList ((text.toList.dropWhile isWhitespace).rdropWhile isWhitespace)

def split (c : Char) (text : String) : List String :=
  (text.toList.splitOn c).map String.ofList

def arrayJson (items : List String) : String :=
  "[" ++ String.intercalate "," items ++ "]"

def keywordsJson (keywords : String) : String :=
  let items := ((split ',' keywords).map trim |>.filter fun k => !k.isEmpty).map fun k =>
    let escaped := replace '"' "\\\"" (replace '\\' "\\\\" k)
    "\"" ++ escaped ++ "\""
  arrayJson items

def memberJson (esc : String → String) (member : String × String) : String :=
  "\"" ++ member.1 ++ "\":\"" ++ esc member.2 ++ "\""

def objectJson (esc : String → String) (members : List (String × String)) : String :=
  "\x7b" ++ String.intercalate "," (members.map (memberJson esc)) ++ "\x7d"

def exampleQueriesJson.esc (s : String) : String :=
  replace '\t' " " (replace '\r' "" (replace '\n' "\\n"
    (replace '"' "\\\"" (replace '\\' "\\\\" s))))

def exampleQueriesJson (pairs : List (String × String)) : String :=
  arrayJson (pairs.map fun pair =>
    objectJson exampleQueriesJson.esc [("description", pair.1), ("sql", pair.2)])

structure FunctionExample where
  sql : String
  description : String
  expectedOutput : Option String
  deriving DecidableEq, Repr

def describedExamples (pairs : List (String × String)) : List FunctionExample × String :=
  let examples := pairs.map fun pair =>
    { sql := pair.2, description := pair.1, expectedOutput := none }
  (examples, exampleQueriesJson pairs)

def agentTestTasksJson.esc (s : String) : String :=
  replace '\n' "\\n" (replace '"' "\\\"" (replace '\\' "\\\\" s))

def agentTestTasksJson (tasks : List (String × String)) : String :=
  arrayJson (tasks.map fun task =>
    objectJson agentTestTasksJson.esc [("name", task.1), ("prompt", task.2)])

def resultColumnsSchema.esc (s : String) : String :=
  replace '"' "\\\"" (replace '\\' "\\\\" s)

def resultColumnsSchema (columns : List (String × String × String)) : String :=
  arrayJson (columns.map fun column =>
    objectJson resultColumnsSchema.esc
      [("name", column.1), ("type", column.2.1), ("description", column.2.2)])

/-! The replacements together spell each character of a text. -/

/-- The characters that stand in a string as they are spelled here. -/
def backslashed (c : Char) : List Char :=
  if c = '\\' then ['\\', '\\'] else if c = '"' then ['\\', '"'] else [c]

def lineBackslashed (c : Char) : List Char :=
  if c = '\n' then ['\\', 'n'] else backslashed c

theorem toList_replace (c : Char) (replacement text : String) :
    (replace c replacement text).toList =
      text.toList.flatMap fun d => if d = c then replacement.toList else [d] :=
  String.toList_ofList

theorem toList_quotes (s : String) :
    (replace '"' "\\\"" (replace '\\' "\\\\" s)).toList = s.toList.flatMap backslashed := by
  rw [toList_replace, toList_replace, List.flatMap_assoc]
  refine List.flatMap_congr fun c _ => ?_
  by_cases escape : c = '\\'
  · subst escape
    decide
  · by_cases quote : c = '"' <;> simp [backslashed, escape, quote]

theorem toList_lines (s : String) :
    (agentTestTasksJson.esc s).toList = s.toList.flatMap lineBackslashed := by
  rw [agentTestTasksJson.esc, toList_replace, toList_quotes, List.flatMap_assoc]
  refine List.flatMap_congr fun c _ => ?_
  by_cases line : c = '\n'
  · subst line
    decide
  · by_cases escape : c = '\\'
    · subst escape
      decide
    · by_cases quote : c = '"'
      · subst quote
        decide
      · simp [lineBackslashed, backslashed, line, escape, quote]

/-- The text without its carriage returns, and with spaces for its tabs. -/
def shown (s : String) : String :=
  replace '\t' " " (replace '\r' "" s)

theorem toList_shown_lines (s : String) :
    (exampleQueriesJson.esc s).toList = (shown s).toList.flatMap lineBackslashed := by
  have inner := toList_lines s
  rw [agentTestTasksJson.esc] at inner
  rw [exampleQueriesJson.esc, shown, toList_replace, toList_replace, inner, toList_replace,
    toList_replace, List.flatMap_assoc, List.flatMap_assoc, List.flatMap_assoc,
    List.flatMap_assoc]
  refine List.flatMap_congr fun c _ => ?_
  by_cases special : c ∈ ['\t', '\r', '\n', '"', '\\']
  · simp only [List.mem_cons, List.not_mem_nil, or_false] at special
    rcases special with rfl | rfl | rfl | rfl | rfl <;> decide
  · simp only [List.mem_cons, List.not_mem_nil, or_false, not_or] at special
    obtain ⟨tab, carriage, line, quote, escape⟩ := special
    simp [lineBackslashed, backslashed, tab, carriage, line, quote, escape]

/-- A text comes back as the function says, unless it has a character that cannot
stand in a string as written. -/
def EscapesTo (esc text : String → String) (allowed : Char → Bool) : Prop :=
  ∀ s depth, Reads (readValue (depth + 1)) ('"' :: ((esc s).toList ++ ['"']))
    (if (text s).toList.all allowed then some (.string (text s)) else none)

theorem EscapesTo.of_spells {esc text : String → String} {write : Char → List Char}
    {allowed : Char → Bool} (spelled : ∀ s, (esc s).toList = (text s).toList.flatMap write)
    (spells : ∀ c, Spells (write c) (if allowed c then some c else none)) :
    EscapesTo esc text allowed := by
  intro s depth
  have each : ∀ c ∈ (text s).toList, Spells (write c) (if allowed c then some c else none) :=
    fun c _ => spells c
  have back := readValue_string each depth
  have guarded := mapM_guard allowed id (text s).toList
  simp only [id_eq, List.map_id] at guarded
  rw [guarded, Option.map_if, String.ofList_toList] at back
  rw [spelled]
  exact back

theorem spells_backslashed (c : Char) :
    Spells (backslashed c) (if !isControl c then some c else none) := by
  by_cases escape : c = '\\'
  · subst escape
    exact Spells.escape (by decide) (by decide)
  · by_cases quote : c = '"'
    · subst quote
      exact Spells.escape (by decide) (by decide)
    · rw [backslashed, if_neg escape, if_neg quote]
      cases control : isControl c with
      | false => exact Spells.plain quote escape control
      | true => exact Spells.control control

theorem spells_lineBackslashed (c : Char) :
    Spells (lineBackslashed c) (if c == '\n' || !isControl c then some c else none) := by
  by_cases line : c = '\n'
  · subst line
    exact Spells.escape (by decide) (by decide)
  · have same := spells_backslashed c
    rwa [lineBackslashed, if_neg line, beq_false_of_ne line, Bool.false_or]

theorem escapesTo_quotes : EscapesTo resultColumnsSchema.esc id fun c => !isControl c :=
  EscapesTo.of_spells toList_quotes spells_backslashed

theorem escapesTo_lines :
    EscapesTo agentTestTasksJson.esc id fun c => c == '\n' || !isControl c :=
  EscapesTo.of_spells toList_lines spells_lineBackslashed

theorem escapesTo_shown :
    EscapesTo exampleQueriesJson.esc shown fun c => c == '\n' || !isControl c :=
  EscapesTo.of_spells toList_shown_lines spells_lineBackslashed

/-! Whole arrays. -/

theorem toList_memberJson (esc : String → String) (member : String × String) :
    (memberJson esc member).toList =
      '"' :: (member.1.toList ++ '"' :: ':' :: '"' :: ((esc member.2).toList ++ ['"'])) := by
  simp [memberJson]

theorem toList_objectJson (esc : String → String) (members : List (String × String)) :
    (objectJson esc members).toList =
      '\x7b' :: (List.intercalate [','] (members.map fun member =>
        (memberJson esc member).toList) ++ ['\x7d']) := by
  simp [objectJson, String.toList_intercalate]
  rfl

theorem toList_arrayJson (items : List String) :
    (arrayJson items).toList =
      '[' :: (List.intercalate [','] (items.map String.toList) ++ [']']) := by
  simp [arrayJson, String.toList_intercalate]

theorem objectJson_reads {esc text : String → String} {allowed : Char → Bool}
    (escapes : EscapesTo esc text allowed) {members : List (String × String)}
    (named : ∀ member ∈ members, plain member.1 = true) (depth : Nat) :
    Reads (readValue (depth + 2)) (objectJson esc members).toList
      (if members.all fun member => (text member.2).toList.all allowed then
        some (.object (members.map fun member => (member.1, .string (text member.2))))
      else none) := by
  have members_read : ∀ member ∈ members,
      Reads (readMember (readValue (depth + 1))) (memberJson esc member).toList
        (if (text member.2).toList.all allowed then
          some (member.1, .string (text member.2)) else none) := by
    intro member inside
    have back := readMember_written (named member inside) (escapes member.2 depth)
    rw [Option.map_if] at back
    rw [toList_memberJson]
    exact back
  have starts : ∀ member ∈ members, Starts '\x7d' (memberJson esc member).toList := by
    intro member _
    rw [toList_memberJson]
    exact ⟨'"', _, rfl, by decide, by decide⟩
  have back := readValue_object members_read starts
  rw [mapM_guard (fun member : String × String => (text member.2).toList.all allowed)
    (fun member => (member.1, Value.string (text member.2))), Option.map_if] at back
  rw [toList_objectJson]
  exact back

theorem arrayJson_reads {α : Type} {items : List α} {write : α → String}
    {allowed : α → Bool} {value : α → Value}
    (reads : ∀ x ∈ items, ∀ depth, Reads (readValue (depth + 2)) (write x).toList
      (if allowed x then some (value x) else none))
    (starts : ∀ x ∈ items, Starts ']' (write x).toList) :
    parse (arrayJson (items.map write)) =
      if items.all allowed then some (.array (items.map value)) else none := by
  apply parse_of_reads
  have room : ∃ depth, (arrayJson (items.map write)).toList.length = depth + 2 := by
    rw [toList_arrayJson, List.length_cons, List.length_append, List.length_singleton]
    exact ⟨_, rfl⟩
  obtain ⟨depth, length⟩ := room
  rw [length, toList_arrayJson, List.map_map]
  have back := readValue_array (fun x inside => reads x inside depth) starts
  rw [mapM_guard, Option.map_if] at back
  exact back

/-! Keywords, as they are written between commas. -/

structure Keyword where
  before : List Char
  term : List Char
  after : List Char
  spaceBefore : ∀ c ∈ before, isWhitespace c = true
  spaceAfter : ∀ c ∈ after, isWhitespace c = true
  starts : ∀ c ∈ term.head?, isWhitespace c = false
  ends : ∀ c ∈ term.getLast?, isWhitespace c = false
  noComma : ',' ∉ term

namespace Keyword

def written (keyword : Keyword) : List Char :=
  keyword.before ++ keyword.term ++ keyword.after

theorem comma_not_mem (keyword : Keyword) : ',' ∉ keyword.written := by
  have visible : isWhitespace ',' ≠ true := by decide
  simp only [written, List.mem_append, not_or]
  exact ⟨⟨fun inside => visible (keyword.spaceBefore _ inside), keyword.noComma⟩,
    fun inside => visible (keyword.spaceAfter _ inside)⟩

theorem trim_written (keyword : Keyword) :
    trim (String.ofList keyword.written) = String.ofList keyword.term := by
  obtain ⟨before, term, after, spaceBefore, spaceAfter, starts, ends, noComma⟩ := keyword
  rw [trim, String.toList_ofList, written, List.append_assoc,
    List.dropWhile_append_of_pos spaceBefore]
  refine congrArg String.ofList ?_
  cases term with
  | nil =>
      rw [List.nil_append, List.dropWhile_eq_nil_iff.mpr spaceAfter, List.rdropWhile_nil]
  | cons c term =>
      have first : isWhitespace c = false := starts c rfl
      rw [List.cons_append, List.dropWhile_cons_of_neg (by rw [first]; decide),
        ← List.cons_append, List.rdropWhile, List.reverse_append,
        List.dropWhile_append_of_pos fun d inside => spaceAfter d (List.mem_reverse.mp inside)]
      refine List.rdropWhile_eq_self_iff.mpr fun nonempty => ?_
      rw [ends _ (List.getLast?_eq_some_getLast nonempty)]
      decide

/-- What stands between two commas. -/
def ofPiece (piece : List Char) (noComma : ',' ∉ piece) : Keyword where
  before := piece.takeWhile isWhitespace
  term := (piece.dropWhile isWhitespace).rdropWhile isWhitespace
  after := (piece.dropWhile isWhitespace).rtakeWhile isWhitespace
  spaceBefore c inside := List.mem_takeWhile_imp inside
  spaceAfter c inside := List.mem_rtakeWhile_imp inside
  starts c head := by
    obtain ⟨rest, shape⟩ := List.rdropWhile_prefix isWhitespace (piece.dropWhile isWhitespace)
    have first : (piece.dropWhile isWhitespace).head? = some c := by
      rw [← shape, List.head?_append, head]
      rfl
    have visible := List.head?_dropWhile_not isWhitespace piece
    rw [first] at visible
    exact visible
  ends c last := by
    obtain ⟨nonempty, rfl⟩ := List.mem_getLast?_eq_getLast last
    exact Bool.eq_false_iff.mpr (List.rdropWhile_last_not isWhitespace _ nonempty)
  noComma inside :=
    noComma ((List.dropWhile_suffix _).mem ((List.rdropWhile_prefix _ _).mem inside))

theorem written_ofPiece (piece : List Char) (noComma : ',' ∉ piece) :
    (ofPiece piece noComma).written = piece := by
  rw [written, ofPiece, List.append_assoc, List.rdropWhile_append_rtakeWhile,
    List.takeWhile_append_dropWhile]

end Keyword

def keywordList (keywords : List Keyword) : String :=
  String.intercalate "," (keywords.map fun keyword => String.ofList keyword.written)

def terms (keywords : List Keyword) : List String :=
  (keywords.map fun keyword => String.ofList keyword.term).filter fun k => !k.isEmpty

theorem split_keywordList (keywords : List Keyword) (nonempty : keywords ≠ []) :
    split ',' (keywordList keywords) =
      keywords.map fun keyword => String.ofList keyword.written := by
  have pieces : (keywordList keywords).toList =
      List.intercalate [','] (keywords.map Keyword.written) := by
    rw [keywordList, String.toList_intercalate, List.map_map]
    simp [Function.comp_def]
  have apart : ∀ piece ∈ keywords.map Keyword.written, ',' ∉ piece := by
    intro piece inside
    obtain ⟨keyword, -, rfl⟩ := List.mem_map.mp inside
    exact keyword.comma_not_mem
  rw [split, pieces, List.splitOn_intercalate ',' apart (by simpa using nonempty),
    List.map_map]
  rfl

theorem terms_keywordList (keywords : List Keyword) :
    ((split ',' (keywordList keywords)).map trim).filter (fun k => !k.isEmpty) =
      terms keywords := by
  cases keywords with
  | nil => rfl
  | cons keyword keywords =>
      have trimmed : (trim ∘ fun keyword => String.ofList keyword.written) =
          fun keyword : Keyword => String.ofList keyword.term :=
        funext Keyword.trim_written
      rw [split_keywordList _ (List.cons_ne_nil keyword keywords), List.map_map, trimmed, terms]

theorem not_mem_of_mem_splitOn {c : Char} {text piece : List Char}
    (inside : piece ∈ text.splitOn c) : c ∉ piece := by
  induction text generalizing piece with
  | nil =>
      rw [List.splitOn_nil, List.mem_singleton] at inside
      subst inside
      exact List.not_mem_nil
  | cons d text induction =>
      rw [List.splitOn_cons_eq_if_modifyHead] at inside
      split at inside
      · rcases List.mem_cons.mp inside with rfl | later
        · exact List.not_mem_nil
        · exact induction later
      · rename_i other
        obtain ⟨first, others, shape⟩ := List.exists_cons_of_ne_nil (List.splitOn_ne_nil c text)
        rw [shape, List.modifyHead_cons] at inside
        rw [shape] at induction
        rcases List.mem_cons.mp inside with rfl | later
        · have absent := induction List.mem_cons_self
          have differs : c ≠ d := fun same => other (by rw [same, beq_self_eq_true])
          simp [absent, differs]
        · exact induction (List.mem_cons_of_mem first later)

theorem exists_keywordList (text : String) : ∃ keywords, keywordList keywords = text := by
  refine ⟨(text.toList.splitOn ',').attach.map fun piece =>
    Keyword.ofPiece piece.1 (not_mem_of_mem_splitOn piece.2), ?_⟩
  apply String.toList_inj.mp
  rw [keywordList, String.toList_intercalate, List.map_map, List.map_map]
  simp only [Function.comp_def, Keyword.written_ofPiece, String.toList_ofList]
  rw [List.attach_map_subtype_val]
  exact List.intercalate_splitOn ','

theorem toList_quoted (s : String) : ("\"" ++ s ++ "\"").toList = '"' :: (s.toList ++ ['"']) := by
  simp

theorem quoted_reads {esc text : String → String} {allowed : Char → Bool}
    (escapes : EscapesTo esc text allowed) (s : String) (depth : Nat) :
    Reads (readValue (depth + 2)) ("\"" ++ esc s ++ "\"").toList
      (if (text s).toList.all allowed then some (.string (text s)) else none) := by
  rw [toList_quoted]
  exact escapes s (depth + 1)

/-- Every text is a list of keywords, and those that are not blank come back in
order, unless one of them has a control character inside. -/
theorem keywordsJson_reads :
    (∀ text, ∃ keywords, keywordList keywords = text) ∧
      ∀ keywords, parse (keywordsJson (keywordList keywords)) =
        if (terms keywords).all fun term => term.toList.all fun c => !isControl c then
          some (.array ((terms keywords).map .string))
        else none := by
  refine ⟨exists_keywordList, fun keywords => ?_⟩
  rw [keywordsJson, terms_keywordList]
  refine arrayJson_reads (fun term _ depth => quoted_reads escapesTo_quotes term depth) ?_
  intro term _
  exact ⟨'"', _, toList_quoted _, by decide, by decide⟩

example : keywordsJson "CPU, , say \"hi\"" = "[\"CPU\",\"say \\\"hi\\\"\"]" := by decide

/-! Objects with the same members. -/

theorem objectsJson_reads {esc text : String → String} {allowed : Char → Bool}
    (escapes : EscapesTo esc text allowed) {α : Type} (members : α → List (String × String))
    (keys : List String) (named : ∀ x, (members x).map Prod.fst = keys)
    (allPlain : keys.all plain = true) (items : List α) :
    parse (arrayJson (items.map fun x => objectJson esc (members x))) =
      if items.all fun x => (members x).all fun member => (text member.2).toList.all allowed then
        some (.array (items.map fun x =>
          .object ((members x).map fun member => (member.1, .string (text member.2)))))
      else none := by
  have plainMembers : ∀ x, ∀ member ∈ members x, plain member.1 = true := by
    intro x member inside
    apply List.all_eq_true.mp allPlain
    rw [← named x]
    exact List.mem_map_of_mem inside
  refine arrayJson_reads (fun x _ depth => objectJson_reads escapes (plainMembers x) depth) ?_
  intro x _
  rw [toList_objectJson]
  exact ⟨'\x7b', _, rfl, by decide, by decide⟩

theorem all_shown (s : String) :
    ((shown s).toList.all fun c => c == '\n' || !isControl c) =
      s.toList.all fun c => c == '\n' || c == '\r' || c == '\t' || !isControl c := by
  rw [shown, toList_replace, toList_replace, List.all_flatMap, List.all_flatMap]
  refine congrArg s.toList.all (funext fun c => ?_)
  by_cases carriage : c = '\r'
  · subst carriage
    decide
  · by_cases tab : c = '\t'
    · subst tab
      decide
    · simp [carriage, tab, beq_false_of_ne carriage, beq_false_of_ne tab]

theorem shown_eq_iff (s : String) :
    shown s = s ↔ ∀ c ∈ s.toList, c ≠ '\r' ∧ c ≠ '\t' := by
  have chars : (shown s).toList = s.toList.flatMap fun c =>
      if c = '\r' then [] else if c = '\t' then [' '] else [c] := by
    rw [shown, toList_replace, toList_replace, List.flatMap_assoc]
    refine List.flatMap_congr fun c _ => ?_
    by_cases carriage : c = '\r' <;> by_cases tab : c = '\t' <;> simp [carriage, tab]
  constructor
  · intro same c inside
    rw [← same, chars, List.mem_flatMap] at inside
    obtain ⟨d, -, inside⟩ := inside
    split at inside
    · exact absurd inside List.not_mem_nil
    · rename_i carriage
      split at inside
      · rw [List.mem_singleton] at inside
        subst inside
        decide
      · rename_i tab
        rw [List.mem_singleton] at inside
        subst inside
        exact ⟨carriage, tab⟩
  · intro plain
    apply String.toList_inj.mp
    rw [chars]
    conv_rhs => rw [← List.flatMap_singleton' s.toList]
    refine List.flatMap_congr fun c inside => ?_
    rw [if_neg (plain c inside).1, if_neg (plain c inside).2]

/-- Which characters survive: escaped line feeds and whatever needs no escape. -/
theorem allowed_and_shown_iff (s : String) :
    ((s.toList.all fun c => c == '\n' || c == '\r' || c == '\t' || !isControl c) = true ∧
        shown s = s) ↔
      ∀ c ∈ s.toList, isControl c = true → c = '\n' := by
  rw [shown_eq_iff, List.all_eq_true]
  constructor
  · rintro ⟨allowed, plain⟩ c inside control
    obtain ⟨carriage, tab⟩ := plain c inside
    simpa [carriage, tab, control] using allowed c inside
  · intro lines
    refine ⟨fun c inside => ?_, fun c inside => ⟨?_, ?_⟩⟩
    · cases control : isControl c with
      | false => simp
      | true => simp [lines c inside control]
    · rintro rfl
      exact absurd (lines _ inside (by decide)) (by decide)
    · rintro rfl
      exact absurd (lines _ inside (by decide)) (by decide)

theorem exampleQueriesJson_reads (pairs : List (String × String)) :
    parse (exampleQueriesJson pairs) =
      if pairs.all fun pair => (pair.1 ++ pair.2).toList.all fun c =>
          c == '\n' || c == '\r' || c == '\t' || !isControl c then
        some (.array (pairs.map fun pair =>
          .object [("description", .string (shown pair.1)), ("sql", .string (shown pair.2))]))
      else none := by
  have back := objectsJson_reads escapesTo_shown
    (fun pair : String × String => [("description", pair.1), ("sql", pair.2)])
    ["description", "sql"] (fun _ => rfl) (by decide) pairs
  simp only [List.all_cons, List.all_nil, Bool.and_true, List.map_cons, List.map_nil,
    all_shown] at back
  simp only [String.toList_append, List.all_append]
  exact back

/-- A described example loses its carriage returns and has spaces for its tabs, so
the two copies agree exactly when there are none. -/
theorem describedExamples_agree (pairs : List (String × String)) :
    parse (describedExamples pairs).2 =
        some (.array ((describedExamples pairs).1.map fun found =>
          .object [("description", .string found.description), ("sql", .string found.sql)])) ↔
      ∀ pair ∈ pairs, ∀ c ∈ (pair.1 ++ pair.2).toList, isControl c = true → c = '\n' := by
  have lines : ∀ pair : String × String,
      (∀ c ∈ (pair.1 ++ pair.2).toList, isControl c = true → c = '\n') ↔
        ((pair.1 ++ pair.2).toList.all fun c =>
            c == '\n' || c == '\r' || c == '\t' || !isControl c) = true ∧
          shown pair.1 = pair.1 ∧ shown pair.2 = pair.2 := by
    intro pair
    have first := allowed_and_shown_iff pair.1
    have second := allowed_and_shown_iff pair.2
    simp only [String.toList_append, List.mem_append, List.all_append, Bool.and_eq_true]
    constructor
    · intro both
      have one := first.mpr fun c inside => both c (.inl inside)
      have two := second.mpr fun c inside => both c (.inr inside)
      exact ⟨⟨one.1, two.1⟩, one.2, two.2⟩
    · rintro ⟨⟨allowed, others⟩, same, alike⟩ c (inside | inside)
      · exact first.mp ⟨allowed, same⟩ c inside
      · exact second.mp ⟨others, alike⟩ c inside
  simp only [lines]
  rw [describedExamples, exampleQueriesJson_reads, List.map_map]
  constructor
  · intro read
    split at read
    · rename_i allowed
      intro pair inside
      have same : pairs.map _ = pairs.map _ :=
        Value.array.inj (Option.some.inj read)
      have alike := List.map_inj_left.mp same pair inside
      simp only [Function.comp_apply, Value.object.injEq, List.cons.injEq, Prod.mk.injEq,
        Value.string.injEq, true_and, and_true] at alike
      exact ⟨List.all_eq_true.mp allowed pair inside, alike⟩
    · cases read
  · intro plain
    rw [if_pos (List.all_eq_true.mpr fun pair inside => (plain pair inside).1)]
    refine congrArg (some ∘ Value.array) (List.map_congr_left fun pair inside => ?_)
    rw [(plain pair inside).2.1, (plain pair inside).2.2]
    rfl

/-- The other two writers keep every text that they can write at all. -/
theorem definedTags_read :
    (∀ tasks, parse (agentTestTasksJson tasks) =
        if tasks.all fun task => (task.1 ++ task.2).toList.all fun c =>
            c == '\n' || !isControl c then
          some (.array (tasks.map fun task =>
            .object [("name", .string task.1), ("prompt", .string task.2)]))
        else none) ∧
      ∀ columns, parse (resultColumnsSchema columns) =
        if columns.all fun column => (column.1 ++ column.2.1 ++ column.2.2).toList.all fun c =>
            !isControl c then
          some (.array (columns.map fun column =>
            .object [("name", .string column.1), ("type", .string column.2.1),
              ("description", .string column.2.2)]))
        else none := by
  constructor
  · intro tasks
    have back := objectsJson_reads escapesTo_lines
      (fun task : String × String => [("name", task.1), ("prompt", task.2)])
      ["name", "prompt"] (fun _ => rfl) (by decide) tasks
    simp only [List.all_cons, List.all_nil, Bool.and_true, id_eq, List.map_cons,
      List.map_nil] at back
    simp only [String.toList_append, List.all_append]
    exact back
  · intro columns
    have back := objectsJson_reads escapesTo_quotes
      (fun column : String × String × String =>
        [("name", column.1), ("type", column.2.1), ("description", column.2.2)])
      ["name", "type", "description"] (fun _ => rfl) (by decide) columns
    simp only [List.all_cons, List.all_nil, Bool.and_true, id_eq, List.map_cons,
      List.map_nil] at back
    simp only [String.toList_append, List.all_append, Bool.and_assoc]
    exact back

end VgiPprof.Worker
