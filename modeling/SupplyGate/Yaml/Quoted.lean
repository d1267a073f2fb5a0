import SupplyGate.Value.Read
import SupplyGate.Yaml.Cursor
/-!
Quoted scalars. In single quotes a doubled quote stands for itself; in double quotes there are
escapes. A single line break becomes a blank, several become all but one, and blanks around them are
dropped; an escaped break disappears.
-/
namespace SupplyGate.Yaml.Quoted

/-- What an escape of one character stands for. -/
def escaped? : Char → Option Char
  | '0' => some '\x00'
  | 'a' => some '\x07'
  | 'b' => some '\x08'
  | 't' | '\t' => some '\t'
  | 'n' => some '\n'
  | 'v' => some '\x0b'
  | 'f' => some '\x0c'
  | 'r' => some '\r'
  | 'e' => some '\x1b'
  | ' ' => some ' '
  | '"' => some '"'
  | '\\' => some '\\'
  | '/' => some '/'
  | 'N' => some '\x85'
  | '_' => some '\xa0'
  | 'L' => some '\u2028'
  | 'P' => some '\u2029'
  | _ => none

/-- How many digits the number of an escape has. -/
def escapeLength? : Char → Option Nat
  | 'x' => some 2
  | 'u' => some 4
  | 'U' => some 8
  | _ => none

/-- The value of a hexadecimal digit. -/
def hexValue? (c : Char) : Option Nat :=
  if c.isDigit then some (c.toNat - 48)
  else if 'a' ≤ c ∧ c ≤ 'f' then some (c.toNat - 87)
  else if 'A' ≤ c ∧ c ≤ 'F' then some (c.toNat - 55)
  else none

/-- The number that some hexadecimal digits make. -/
def hexNumber? (length : Nat) (cs : List Char) : Option Nat :=
  if cs.length < length then none
  else (cs.take length).foldlM (fun n c => (hexValue? c).map (16 * n + ·)) 0

/-- The second half of a pair that makes one character, if it is escaped here. -/
def lowHalf? : List Char → Option Nat
  | '\\' :: 'u' :: rest => (hexNumber? 4 rest).filter fun n => 0xDC00 ≤ n ∧ n < 0xE000
  | _ => none

/-- The character with a number, given what follows it, and how much of that belongs to it. -/
def numbered (n : Nat) (following : List Char) : Reading (Char × Nat) :=
  if 0x80000000 ≤ n then throw .characterRange
  else if 0x10FFFF < n then throw (.malformed "chr() arg not in range(0x110000)")
  else if 0xD800 ≤ n ∧ n < 0xDC00 then
    match lowHalf? following with
    | some low => .ok (Char.ofNat (0x10000 + (n - 0xD800) * 0x400 + (low - 0xDC00)), 6)
    | none => .ok ('\uFFFD', 0)
  else if 0xDC00 ≤ n ∧ n < 0xE000 then .ok ('\uFFFD', 0)
  else .ok (Char.ofNat n, 0)

/-- The line breaks from a place on, and the place after them and after the blanks that follow. A
document may not begin or end inside a scalar. -/
def breaks : Nat → Cursor → Reading (List Char × Cursor)
  | 0, _ => throw .unreadable
  | fuel + 1, p => do
    if p.separatesDocuments then throw .unreadable
    let p := p.skipWhile isSpace
    match p.char? with
    | some c =>
      if isBreak c then
        let (cs, p) ← breaks fuel p.next
        return (breakChar c :: cs, p)
      return ([], p)
    | none => return ([], p)

/-- Blanks and line breaks from a place on, folded, and the place after them. -/
def folded (p : Cursor) : Reading (List Char × Cursor) := do
  let (blanks, p) := p.span isSpace
  match p.char? with
  | none => throw .unreadable
  | some c =>
    if isBreak c then
      let (more, p) ← breaks (p.rest.length + 1) p.next
      if breakChar c != '\n' then return (breakChar c :: more, p)
      return (if more.isEmpty then [' '] else more, p)
    return (blanks, p)

/-- An escape from its mark on, and the place after it. -/
def escape (p : Cursor) : Reading (List Char × Cursor) := do
  let p := p.next
  match p.char? with
  | none => throw .unreadable
  | some c =>
    if isBreak c then breaks (p.rest.length + 1) p.next
    else
      match escaped? c, escapeLength? c with
      | some d, _ => return ([d], p.next)
      | none, some length =>
        let p := p.next
        match hexNumber? length p.rest with
        | none => throw .unreadable
        | some n =>
          let p := p.skip length
          let (d, more) ← numbered n p.rest
          return ([d], p.skip more)
      | none, none => throw .unreadable

/-- The text up to the closing quote, after what has been read of it, in reverse. -/
def upToQuote (double : Bool) : Nat → List Char → Cursor → Reading (String × Cursor)
  | 0, _, _ => throw .unreadable
  | fuel + 1, read, p => do
    match p.rest with
    | [] => throw .unreadable
    | c :: rest =>
      if isSpace c || isBreak c then
        let (cs, p) ← folded p
        upToQuote double fuel (cs.reverse ++ read) p
      else if double then
        if c == '"' then return (String.ofList read.reverse, p.next)
        else if c == '\\' then
          let (cs, p) ← escape p
          upToQuote double fuel (cs.reverse ++ read) p
        else upToQuote double fuel (c :: read) p.next
      else if c == '\'' then
        if rest.head? == some '\'' then upToQuote double fuel (c :: read) (p.skip 2)
        else return (String.ofList read.reverse, p.next)
      else upToQuote double fuel (c :: read) p.next

/-- A quoted scalar from its opening quote on, and the place after it. -/
def read (p : Cursor) : Reading (String × Cursor) :=
  upToQuote (p.char? == some '"') (p.rest.length + 1) [] p.next

end SupplyGate.Yaml.Quoted
