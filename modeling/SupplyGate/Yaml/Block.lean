import SupplyGate.Value.Read
import SupplyGate.Yaml.Cursor
/-!
Block scalars: indented lines after a header. A literal scalar keeps its line breaks; a folded one
makes a single break between two lines of text a blank. The header says what becomes of the breaks
at the end, and perhaps how far the lines are indented.
-/
namespace SupplyGate.Yaml.Block

/-- What becomes of the line breaks at the end of a block scalar: all are dropped, one is kept, or
all are kept. -/
inductive Chomping where
  | strip
  | clip
  | keep
  deriving DecidableEq, Repr

structure Header where
  chomping : Chomping
  /-- How far the lines are indented, if the header has it. -/
  indentation : Option Nat

/-- The chomping that a character asks for. -/
def chomping? : Option Char → Option Chomping
  | some '+' => some .keep
  | some '-' => some .strip
  | _ => none

/-- The indentation that a character asks for; zero is refused. -/
def indentation? (c : Option Char) : Reading (Option Nat) :=
  match c with
  | some c =>
    if c == '0' then throw .unreadable
    else .ok (if c.isDigit then some (c.toNat - 48) else none)
  | none => .ok none

/-- The header after its mark, and the place after its line. -/
def header (p : Cursor) : Reading (Header × Cursor) := do
  let (head, p) ← match chomping? p.char? with
    | some chomping => do
      match ← indentation? p.second? with
      | some n => pure (Header.mk chomping (some n), p.skip 2)
      | none => pure (Header.mk chomping none, p.next)
    | none => do
      match ← indentation? p.char? with
      | some n =>
        match chomping? p.second? with
        | some chomping => pure (Header.mk chomping (some n), p.skip 2)
        | none => pure (Header.mk .clip (some n), p.next)
      | none => pure (Header.mk .clip none, p)
  if !(p.char? == some ' ' || isLineEnd p.char?) then throw .unreadable
  let p := (p.skipWhile (· == ' ')).skipComment
  if !isLineEnd p.char? then throw .unreadable
  return (head, p.next)

/-- The line breaks before the first line of text, the widest run of spaces among them, and the
place after them. -/
def leading : Nat → Cursor → List Char × Nat × Cursor
  | 0, p => ([], 0, p)
  | fuel + 1, p =>
    let p := p.skipWhile (· == ' ')
    match p.char? with
    | some c =>
      if isBreak c then
        let (breaks, widest, q) := leading fuel p.next
        (breakChar c :: breaks, max p.column widest, q)
      else ([], p.column, p)
    | none => ([], p.column, p)

/-- What stands between two lines of text: `last` is the break that ends the first of them, and
`breaks` are those after it. -/
def between (folds : Bool) (last : List Char) (breaks : List Char) : List Char :=
  if folds then if breaks.isEmpty then [' '] else [] else last

/-- The lines of text that are indented to a column, after what has been read of them, in reverse:
the text, the break after the last line, the breaks after that, and the place after them. -/
def lines (isFolded : Bool) (indent : Nat) :
    Nat → List Char → List Char → Cursor → List Char × List Char × List Char × Cursor
  | 0, read, breaks, p => (read, [], breaks, p)
  | fuel + 1, read, breaks, p =>
    let startsWithBlank := p.char?.any isSpace
    let (text, p) := p.span fun c => !isBreak c
    let read := text.reverse ++ (breaks.reverse ++ read)
    let last := (p.char?.map breakChar).toList
    let (breaks, p) := p.next.breaksTo indent (p.rest.length + 1)
    if p.column = indent ∧ !p.rest.isEmpty then
      let folds := isFolded && last == ['\n'] && !startsWithBlank && !p.char?.any isSpace
      lines isFolded indent fuel ((between folds last breaks).reverse ++ read) breaks p
    else (read, last, breaks, p)

/-- The text of a block scalar. -/
def chomped (chomping : Chomping) (read last breaks : List Char) : String :=
  String.ofList (read.reverse ++ match chomping with
    | .strip => []
    | .clip => last
    | .keep => last ++ breaks)

/-- A block scalar from its mark on, inside a collection with an indentation, and the place after
it. -/
def read (outer : Int) (p : Cursor) : Reading (String × Cursor) := do
  let isFolded := p.char? == some '>'
  let (head, p) ← header p.next
  let least := (max 1 (outer + 1)).toNat
  let (breaks, indent, p) := match head.indentation with
    | some n =>
      let indent := least + n - 1
      let (breaks, p) := p.breaksTo indent (p.rest.length + 1)
      (breaks, indent, p)
    | none =>
      let (breaks, widest, p) := leading (p.rest.length + 1) p
      (breaks, max least widest, p)
  if p.column = indent ∧ !p.rest.isEmpty then
    let (text, last, breaks, p) := lines isFolded indent (p.rest.length + 1) [] breaks p
    return (chomped head.chomping text last breaks, p)
  return (chomped head.chomping [] [] breaks, p)

end SupplyGate.Yaml.Block
