import Mathlib.Data.List.Basic

namespace VgiPprof.Glob

/-! File name patterns.  A `*` stands for any part of one path component, a `?` for
one character of it, a bracketed set for one of its members, and every other
character for itself.  The recursive `**` is left out. -/

/-- Which patterns there are, and which names each of them matches. -/
structure Language where
  accepts : String → Bool
  isMatch : String → String → Bool

inductive Token where
  | char (c : Char)
  | anyChar
  | anySequence
  | anyOf (negated : Bool) (ranges : List (Char × Char))
  deriving DecidableEq, Repr

def memberRanges : List Char → List (Char × Char)
  | low :: '-' :: high :: rest => (low, high) :: memberRanges rest
  | c :: rest => (c, c) :: memberRanges rest
  | [] => []

/-- A set ends at the first `]` behind its first member, which may be a `]`. -/
def closeSet (negated : Bool) (first : Char) (rest : List Char) :
    Option (Token × List Char) :=
  match rest.span (· != ']') with
  | (_, []) => none
  | (inside, _ :: after) => some (.anyOf negated (memberRanges (first :: inside)), after)

def openSet : List Char → Option (Token × List Char)
  | [] | ['!'] => none
  | '!' :: first :: rest => closeSet true first rest
  | first :: rest => closeSet false first rest

def parseChars : Nat → List Char → Option (List Token)
  | _, [] => some []
  | 0, _ :: _ => none
  | fuel + 1, c :: rest =>
      if c = '*' then
        if rest.head? = some '*' then none
        else (parseChars fuel rest).map (.anySequence :: ·)
      else if c = '?' then (parseChars fuel rest).map (.anyChar :: ·)
      else if c = '[' then
        match openSet rest with
        | none => none
        | some (set, after) => (parseChars fuel after).map (set :: ·)
      else (parseChars fuel rest).map (.char c :: ·)

def parse (pattern : String) : Option (List Token) :=
  parseChars pattern.toList.length pattern.toList

def Token.matchesChar : Token → Char → Bool
  | .char c, d => d == c
  | .anyChar, d => d != '/'
  | .anySequence, _ => false
  | .anyOf negated ranges, d =>
      d != '/' && (ranges.any fun range => range.1 ≤ d && d ≤ range.2) != negated

/-- Some beginning of the component is skipped before `rest` matches. -/
def skipThen (rest : List Char → Bool) : List Char → Bool
  | [] => rest []
  | c :: name => rest (c :: name) || (c != '/' && skipThen rest name)

def matchTokens : List Token → List Char → Bool
  | [], name => name.isEmpty
  | .anySequence :: tokens, name => skipThen (matchTokens tokens) name
  | _ :: _, [] => false
  | token :: tokens, c :: name => token.matchesChar c && matchTokens tokens name

def shell : Language where
  accepts pattern := (parse pattern).isSome
  isMatch pattern name :=
    match parse pattern with
    | some tokens => matchTokens tokens name.toList
    | none => false

end VgiPprof.Glob
