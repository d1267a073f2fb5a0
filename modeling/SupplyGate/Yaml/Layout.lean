import SupplyGate.Yaml.Block
import SupplyGate.Yaml.Mark
import SupplyGate.Yaml.Plain
import SupplyGate.Yaml.Quoted
/-!
Layout: the tokens of a text, with those that its indentation implies. Outside brackets, a token
that is indented further than the collection it stands in begins a new one, and one that is indented
less ends collections. A scalar, alias or bracket may turn out to be the key of an entry when a colon
follows it in the same line; the mark of a key is then put in front of it.
-/
namespace SupplyGate.Yaml

/-- Something that may turn out to be a key. -/
structure PossibleKey where
  /-- How many tokens stand before it. -/
  position : Nat
  /-- It begins a line of a map, so that it has to be a key. -/
  required : Bool
  index : Nat
  line : Nat
  column : Nat

/-- What has been read of a text. -/
structure Layout where
  cursor : Cursor
  /-- The tokens so far, in reverse. -/
  tokens : List Token
  /-- How many brackets are open. -/
  depth : Nat
  /-- The column of the innermost collection by layout; that of the document is -1. -/
  indent : Int
  /-- The columns of the collections around it. -/
  outer : List Int
  /-- A key may begin here. -/
  keyMayStart : Bool
  /-- What may turn out to be a key, by the number of open brackets. -/
  keys : List (Nat × PossibleKey)

namespace Layout

/-- Before the first token of a text. -/
def start (text : List Char) : Layout := ⟨.start text, [], 0, -1, [], true, []⟩

/-- There are no open brackets. -/
def inBlock (s : Layout) : Bool := s.depth == 0

def push (s : Layout) (t : Token) : Layout := { s with tokens := t :: s.tokens }

/-- One more token, put behind some of those that there are. -/
def insert (s : Layout) (position : Nat) (t : Token) : Layout :=
  let after := s.tokens.length - position
  { s with tokens := s.tokens.take after ++ t :: s.tokens.drop after }

/-- Characters are passed over. -/
def skip (s : Layout) (n : Nat) : Layout := { s with cursor := s.cursor.skip n }

/-! ## Possible keys -/

/-- A key may be so many characters long. -/
def longestKey : Nat := 1024

/-- What may turn out to be a key at the innermost brackets. -/
def key? (s : Layout) : Option PossibleKey := s.keys.lookup s.depth

def isStale (s : Layout) (k : PossibleKey) : Bool :=
  k.line != s.cursor.line || decide (longestKey < s.cursor.index - k.index)

/-- Without the possible keys that can no longer be one. -/
def dropStale (s : Layout) : Reading Layout :=
  if s.keys.any fun (_, k) => k.required && s.isStale k then throw .unreadable
  else .ok { s with keys := s.keys.filter fun (_, k) => !s.isStale k }

/-- Without the possible key at the innermost brackets. -/
def dropKey (s : Layout) : Reading Layout :=
  if s.key?.any (·.required) then throw .unreadable
  else .ok { s with keys := s.keys.filter fun (level, _) => level != s.depth }

/-- The next token may turn out to be a key. -/
def noteKey (s : Layout) : Reading Layout := do
  if !s.keyMayStart then return s
  let p := s.cursor
  let required := s.inBlock && s.indent == p.column
  let s ← s.dropKey
  let k := PossibleKey.mk s.tokens.length required p.index p.line p.column
  return { s with keys := (s.depth, k) :: s.keys }

/-! ## Indentation -/

/-- Collections that are indented further than a column end. -/
def unwind (column : Int) (s : Layout) : Layout :=
  if !s.inBlock then s
  else
    let ended := (s.indent :: s.outer).takeWhile (column < ·)
    match (s.indent :: s.outer).drop ended.length with
    | indent :: outer =>
      { s with indent, outer, tokens := ended.map (fun _ => Token.blockEnd) ++ s.tokens }
    | [] => s

/-- A collection begins in front of some token, if a column is indented further than the innermost
one. -/
def indentTo (s : Layout) (column : Nat) (position : Nat) (t : Token) : Layout :=
  if s.inBlock && s.indent < column then
    { s.insert position t with indent := column, outer := s.indent :: s.outer }
  else s

/-! ## Tokens -/

/-- Blanks, comments and line breaks are passed over. -/
def toNextToken : Nat → Layout → Layout
  | 0, s => s
  | fuel + 1, s =>
    let p := (s.cursor.skipWhile (· == ' ')).skipComment
    if !p.rest.isEmpty && isLineEnd p.char? then
      toNextToken fuel { s with cursor := p.next, keyMayStart := s.keyMayStart || s.inBlock }
    else { s with cursor := p }

/-- A token between documents, of three characters. -/
def separator (s : Layout) (t : Token) : Reading Layout := do
  let s ← (s.unwind (-1)).dropKey
  return ({ s with keyMayStart := false }.push t).skip 3

def directive (s : Layout) : Reading Layout := do
  let s ← (s.unwind (-1)).dropKey
  let (t, cursor) ← Mark.directive s.cursor
  return { s with keyMayStart := false, cursor }.push t

def openBracket (s : Layout) (t : Token) : Reading Layout := do
  let s ← s.noteKey
  return ({ s with depth := s.depth + 1, keyMayStart := true }.push t).skip 1

def closeBracket (s : Layout) (t : Token) : Reading Layout := do
  if s.inBlock then throw .unreadable
  let s ← s.dropKey
  return ({ s with depth := s.depth - 1, keyMayStart := false }.push t).skip 1

/-- An entry in brackets ends. -/
def comma (s : Layout) : Reading Layout := do
  let s ← { s with keyMayStart := true }.dropKey
  return (s.push .comma).skip 1

/-- An item of a list, or a key with its mark: either may begin a collection. -/
def opening (s : Layout) (start t : Token) (keyMayFollow : Bool) : Reading Layout := do
  if s.inBlock && !s.keyMayStart then throw .unreadable
  let s := s.indentTo s.cursor.column s.tokens.length start
  let s ← { s with keyMayStart := keyMayFollow }.dropKey
  return (s.push t).skip 1

/-- A value: what stands before it in the line is its key, if it may be one. -/
def valueMark (s : Layout) : Reading Layout := do
  match s.key? with
  | some k =>
    let s := { s with keys := s.keys.filter fun (level, _) => level != s.depth }
    let s := (s.insert k.position .key).indentTo k.column k.position .blockMapStart
    return ({ s with keyMayStart := false }.push .value).skip 1
  | none => s.opening .blockMapStart .value s.inBlock

/-- A token that may turn out to be a key, and the place after it. -/
def keyed (s : Layout) (read : Cursor → Reading (Token × Cursor)) : Reading Layout := do
  let s ← s.noteKey
  let (t, cursor) ← read s.cursor
  return { s with keyMayStart := false, cursor }.push t

def blockScalar (s : Layout) : Reading Layout := do
  let s ← { s with keyMayStart := true }.dropKey
  let (text, cursor) ← Block.read s.indent s.cursor
  return { s with cursor }.push (.scalar false text)

/-- A plain scalar. A key may begin after it if it ends its line. -/
def plainScalar (s : Layout) : Reading Layout := do
  let s ← s.noteKey
  let (text, afterBreak, cursor) := Plain.read (!s.inBlock) s.indent s.cursor
  return { s with keyMayStart := afterBreak, cursor }.push (.scalar true text)

/-- A plain scalar may begin with a character, given the one after it. -/
def startsPlain (s : Layout) (c : Char) (after : Option Char) : Bool :=
  !(isGap (some c) || "-?:,[]\x7b\x7d#&*!|>'\"%@`".toList.contains c) ||
    (!isGap after && (c == '-' || (s.inBlock && (c == '?' || c == ':'))))

/-- The token that begins with a character. -/
def token (s : Layout) (c : Char) : Reading Layout :=
  let p := s.cursor
  let beforeGap := isGap p.second?
  if p.column == 0 && c == '%' then s.directive
  else if p.column == 0 && p.marksDocument '-' then s.separator .documentStart
  else if p.column == 0 && p.marksDocument '.' then s.separator .documentEnd
  else if c == '[' then s.openBracket .flowListStart
  else if c == '\x7b' then s.openBracket .flowMapStart
  else if c == ']' then s.closeBracket .flowListEnd
  else if c == '\x7d' then s.closeBracket .flowMapEnd
  else if c == ',' then s.comma
  else if c == '-' && beforeGap then s.opening .blockListStart .item true
  else if c == '?' && (!s.inBlock || beforeGap) then s.opening .blockMapStart .key s.inBlock
  else if c == ':' && (!s.inBlock || beforeGap) then s.valueMark
  else if c == '*' then s.keyed fun p => do
    let (name, p) ← Mark.name p
    return (.alias name, p)
  else if c == '&' then s.keyed fun p => do
    let (name, p) ← Mark.name p
    return (.anchor name, p)
  else if c == '!' then s.keyed Mark.tag
  else if (c == '|' || c == '>') && s.inBlock then s.blockScalar
  else if c == '\'' || c == '"' then s.keyed fun p => do
    let (text, p) ← Quoted.read p
    return (.scalar false text, p)
  else if s.startsPlain c p.second? then s.plainScalar
  else throw .unreadable

/-- The rest of the tokens. -/
def finish : Nat → Layout → Reading Layout
  | 0, _ => throw .unreadable
  | fuel + 1, s => do
    let s ← (s.toNextToken (s.cursor.rest.length + 1)).dropStale
    let s := s.unwind s.cursor.column
    match s.cursor.char? with
    | none => (s.unwind (-1)).dropKey
    | some c => finish fuel (← s.token c)

end Layout

/-- A character that a text may hold. -/
def isReadable (c : Char) : Bool :=
  c == '\t' || c == '\n' || c == '\r' || (' ' ≤ c && c ≤ '~') || c == '\x85' ||
    ('\xa0' ≤ c && c ≤ '\uFFFD') || 0x10000 ≤ c.toNat

/-- A text with each end of a line a line feed. -/
def plainBreaks : List Char → List Char
  | '\r' :: '\n' :: rest => '\n' :: plainBreaks rest
  | '\r' :: rest => '\n' :: plainBreaks rest
  | c :: rest => c :: plainBreaks rest
  | [] => []

def Token.ofText (text : String) : Reading (List Token) := do
  let cs := plainBreaks text.toList
  if !cs.all isReadable then throw .unreadable
  let cs := if cs.head? == some '\uFEFF' then cs.tail else cs
  let s ← Layout.finish (cs.length + 1) (.start cs)
  return s.tokens.reverse

end SupplyGate.Yaml
