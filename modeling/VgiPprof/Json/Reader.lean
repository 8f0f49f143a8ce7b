import Mathlib.Data.Char

namespace VgiPprof.Json

/-! A reader of JSON texts. -/

inductive Value where
  | null
  | bool (value : Bool)
  | number (literal : String)
  | string (text : String)
  | array (items : List Value)
  | object (members : List (String × Value))

def isSpace (c : Char) : Bool :=
  c == ' ' || c == '\t' || c == '\n' || c == '\r'

def skipSpace (text : List Char) : List Char :=
  text.dropWhile isSpace

/-! Strings are read piece by piece, where a piece is one character, however it
is spelled, or the closing quote. -/

def hexDigit (c : Char) : Option Nat :=
  if '0' ≤ c ∧ c ≤ '9' then some (c.toNat - '0'.toNat)
  else if 'a' ≤ c ∧ c ≤ 'f' then some (c.toNat - 'a'.toNat + 10)
  else if 'A' ≤ c ∧ c ≤ 'F' then some (c.toNat - 'A'.toNat + 10)
  else none

/-- The four digits of a `\u` escape. -/
def takeUnit : List Char → Option (Nat × List Char)
  | a :: b :: c :: d :: rest => do
      let a ← hexDigit a
      let b ← hexDigit b
      let c ← hexDigit c
      let d ← hexDigit d
      some (((a * 16 + b) * 16 + c) * 16 + d, rest)
  | _ => none

/-- A character outside the first plane comes as the two halves of a surrogate
pair, and neither half stands alone. -/
def takeUnicode (text : List Char) : Option (Char × List Char) := do
  let (unit, rest) ← takeUnit text
  if unit < 0xd800 ∨ 0xe000 ≤ unit then
    some (Char.ofNat unit, rest)
  else
    match rest with
    | '\\' :: 'u' :: rest => do
        let (low, rest) ← takeUnit rest
        if unit < 0xdc00 ∧ 0xdc00 ≤ low ∧ low < 0xe000 then
          some (Char.ofNat (0x10000 + (unit - 0xd800) * 0x400 + (low - 0xdc00)), rest)
        else
          none
    | _ => none

def escapeLetter (letter : Char) : Option Char :=
  if letter = '"' ∨ letter = '\\' ∨ letter = '/' then some letter
  else if letter = 'b' then some '\x08'
  else if letter = 'f' then some '\x0c'
  else if letter = 'n' then some '\n'
  else if letter = 'r' then some '\r'
  else if letter = 't' then some '\t'
  else none

/-- Control characters only come escaped. -/
def isControl (c : Char) : Bool :=
  c.toNat < 0x20

def takeEscape : List Char → Option (Option Char × List Char)
  | [] => none
  | letter :: rest =>
      if letter = 'u' then (takeUnicode rest).map fun taken => (some taken.1, taken.2)
      else (escapeLetter letter).map fun c => (some c, rest)

def takePiece : List Char → Option (Option Char × List Char)
  | [] => none
  | c :: rest =>
      if c = '"' then some (none, rest)
      else if c = '\\' then takeEscape rest
      else if isControl c then none
      else some (some c, rest)

/-- The rest of a string behind its opening quote. -/
def takeString : Nat → List Char → Option (List Char × List Char)
  | 0, _ => none
  | fuel + 1, text =>
      match takePiece text with
      | none => none
      | some (none, rest) => some ([], rest)
      | some (some c, rest) => (takeString fuel rest).map fun taken => (c :: taken.1, taken.2)

def skipDigits : List Char → Option (List Char)
  | [] => none
  | c :: rest => if c.isDigit then some (rest.dropWhile Char.isDigit) else none

def skipWhole : List Char → Option (List Char)
  | '0' :: rest => some rest
  | text => skipDigits text

def skipFraction : List Char → Option (List Char)
  | '.' :: rest => skipDigits rest
  | text => some text

def skipSign : List Char → List Char
  | '+' :: rest => rest
  | '-' :: rest => rest
  | text => text

def skipExponent : List Char → Option (List Char)
  | 'e' :: rest => skipDigits (skipSign rest)
  | 'E' :: rest => skipDigits (skipSign rest)
  | text => some text

def takeNumber (text : List Char) : Option (Value × List Char) := do
  let rest ← skipWhole (if text.head? = some '-' then text.tail else text)
  let rest ← skipFraction rest
  let rest ← skipExponent rest
  some (.number (String.ofList (text.take (text.length - rest.length))), rest)

def takeName (name : String) (value : Value) (text : List Char) : Option (Value × List Char) :=
  if name.toList.isPrefixOf text then some (value, text.drop name.length) else none

def takeScalar (text : List Char) : Option (Value × List Char) :=
  takeName "null" .null text <|> takeName "true" (.bool true) text <|>
    takeName "false" (.bool false) text <|> takeNumber text

/-! Arrays and objects differ in their items and in the bracket that closes
them. -/

section Items

variable {α : Type} (readItem : List Char → Option (α × List Char)) (close : Char)

def readItems : Nat → List Char → Option (List α × List Char)
  | 0, _ => none
  | fuel + 1, text => do
      let (item, rest) ← readItem text
      match skipSpace rest with
      | [] => none
      | c :: rest =>
          if c = close then some ([item], rest)
          else if c = ',' then
            (readItems fuel rest).map fun read => (item :: read.1, read.2)
          else none

def readGroup (text : List Char) : Option (List α × List Char) :=
  match skipSpace text with
  | [] => none
  | c :: rest =>
      if c = close then some ([], rest) else readItems readItem close text.length text

end Items

def readMember (readValue : List Char → Option (Value × List Char)) (text : List Char) :
    Option ((String × Value) × List Char) :=
  match skipSpace text with
  | '"' :: rest => do
      let (key, rest) ← takeString rest.length rest
      match skipSpace rest with
      | ':' :: rest => (readValue rest).map fun read => ((String.ofList key, read.1), read.2)
      | _ => none
  | _ => none

def readValue : Nat → List Char → Option (Value × List Char)
  | 0, _ => none
  | depth + 1, text =>
      match skipSpace text with
      | '"' :: rest =>
          (takeString rest.length rest).map fun taken =>
            (.string (String.ofList taken.1), taken.2)
      | '[' :: rest =>
          (readGroup (readValue depth) ']' rest).map fun read => (.array read.1, read.2)
      | '{' :: rest =>
          (readGroup (readMember (readValue depth)) '}' rest).map fun read =>
            (.object read.1, read.2)
      | rest => takeScalar rest

/-- The value of a whole text, and `none` when it is not JSON. -/
def parse (text : String) : Option Value := do
  let (value, rest) ← readValue (text.toList.length + 1) text.toList
  if (skipSpace rest).isEmpty then some value else none

/-- White space, escapes and a pair of surrogates. -/
example : parse " [\"a\\u00e9\\ud83d\\ude00\", 1.5, null] " =
    some (.array [.string "aé😀", .number "1.5", .null]) := by rfl

end VgiPprof.Json
