/-!
Places in a text that is being read: what is left of the text, and at which character, line and
column that begins. Line breaks are the line feed, the next-line control and the two Unicode
separators; a byte order mark takes no column.
-/
namespace SupplyGate.Yaml

def isBreak (c : Char) : Bool := c == '\n' || c == '\x85' || c == '\u2028' || c == '\u2029'

/-- A blank inside a line. -/
def isSpace (c : Char) : Bool := c == ' ' || c == '\t'

/-- The end of the text, a blank or a line break. -/
def isGap : Option Char → Bool
  | none => true
  | some c => isSpace c || isBreak c

/-- The end of the text or a line break. -/
def isLineEnd : Option Char → Bool
  | none => true
  | some c => isBreak c

/-- What a line break stands for in a scalar: the separators stand for themselves, the others for a
line feed. -/
def breakChar (c : Char) : Char := if c == '\u2028' || c == '\u2029' then c else '\n'

/-- A place in a text. -/
structure Cursor where
  rest : List Char
  index : Nat
  line : Nat
  column : Nat

namespace Cursor

def start (text : List Char) : Cursor := ⟨text, 0, 0, 0⟩

/-- The place after one character. -/
def next (p : Cursor) : Cursor :=
  match p.rest with
  | [] => p
  | c :: rest =>
    if isBreak c then ⟨rest, p.index + 1, p.line + 1, 0⟩
    else if c == '\uFEFF' then ⟨rest, p.index + 1, p.line, p.column⟩
    else ⟨rest, p.index + 1, p.line, p.column + 1⟩

/-- The place after some characters. -/
def skip (p : Cursor) : Nat → Cursor
  | 0 => p
  | n + 1 => p.next.skip n

/-- The character at a place. -/
def char? (p : Cursor) : Option Char := p.rest.head?

/-- The character after the one at a place. -/
def second? (p : Cursor) : Option Char := p.rest.tail.head?

/-- The characters from a place on that all have a property, and the place after them. -/
def span (p : Cursor) (q : Char → Bool) : List Char × Cursor :=
  let cs := p.rest.takeWhile q
  (cs, p.skip cs.length)

/-- The place after the characters that all have a property. -/
def skipWhile (p : Cursor) (q : Char → Bool) : Cursor := (p.span q).2

def lineEnd (p : Cursor) : Cursor := p.skipWhile fun c => !isBreak c

/-- The place after a comment, if there is one. -/
def skipComment (p : Cursor) : Cursor := if p.char? == some '#' then p.lineEnd else p

/-- Three characters stand here, and a gap after them. -/
def marksDocument (p : Cursor) (c : Char) : Bool :=
  p.rest.take 3 == [c, c, c] && isGap p.rest[3]?

/-- A document begins or ends here, if this is the start of a line. -/
def separatesDocuments (p : Cursor) : Bool := p.marksDocument '-' || p.marksDocument '.'

/-- The line breaks from a place on, with spaces before each up to a column, and the place after
them and after such spaces. -/
def breaksTo (column : Nat) : Nat → Cursor → List Char × Cursor
  | 0, p => ([], p)
  | fuel + 1, p =>
    let p := p.skip ((p.rest.takeWhile (· == ' ')).length.min (column - p.column))
    match p.char? with
    | some c =>
      if isBreak c then
        let (breaks, p) := breaksTo column fuel p.next
        (breakChar c :: breaks, p)
      else ([], p)
    | none => ([], p)

end Cursor
end SupplyGate.Yaml
