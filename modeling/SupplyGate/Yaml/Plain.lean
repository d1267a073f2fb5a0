import SupplyGate.Yaml.Cursor
/-!
Plain scalars: text without quotes. A plain scalar ends at a colon with a gap after it, at a
comment, at a tab, where a line is indented too little, and in brackets also at a mark of the
brackets. Line breaks in it are folded like those of quoted scalars.
-/
namespace SupplyGate.Yaml.Plain

/-- A mark that ends a plain scalar in brackets. -/
def isFlowMark (c : Char) : Bool :=
  c == ',' || c == '?' || c == '[' || c == ']' || c == '\x7b' || c == '\x7d'

/-- A mark that may follow the colon of a key in brackets. -/
def followsColon (c : Char) : Bool :=
  c == ',' || c == '[' || c == ']' || c == '\x7b' || c == '\x7d'

/-- A plain scalar ends before a character, given the one after it. -/
def endsAt (inFlow : Bool) (c : Char) (after : Option Char) : Bool :=
  isGap (some c) || (c == ':' && (isGap after || (inFlow && after.any followsColon))) ||
    (inFlow && isFlowMark c)

/-- A run of text without gaps. -/
def run (inFlow : Bool) : List Char → List Char
  | [] => []
  | c :: rest => if endsAt inFlow c rest.head? then [] else c :: run inFlow rest

/-- The line breaks from a place on, with spaces around them, and the place after them; none if a
document begins or ends there. -/
def breaks : Nat → Cursor → Option (List Char) × Cursor
  | 0, p => (none, p)
  | fuel + 1, p =>
    if p.separatesDocuments then (none, p)
    else
      let p := p.skipWhile (· == ' ')
      match p.char? with
      | some c =>
        if isBreak c then
          let (more, p) := breaks fuel p.next
          (more.map (breakChar c :: ·), p)
        else (some [], p)
      | none => (some [], p)

/-- What stands between two runs of text. -/
structure Gap where
  /-- The text of the gap, if the scalar may go on after it. -/
  text : Option (List Char)
  /-- There is a line break in it. -/
  hasBreak : Bool
  cursor : Cursor

/-- The gap after a run of text. -/
def gap (p : Cursor) : Gap :=
  let (spaces, p) := p.span (· == ' ')
  match p.char? with
  | some c =>
    if isBreak c then
      let (more, p) := breaks (p.rest.length + 1) p.next
      let text := more.map fun more =>
        if breakChar c != '\n' then breakChar c :: more
        else if more.isEmpty then [' '] else more
      ⟨text, true, p⟩
    else ⟨if spaces.isEmpty then none else some spaces, false, p⟩
  | none => ⟨if spaces.isEmpty then none else some spaces, false, p⟩

/-- The runs of a plain scalar from a place on, after what has been read of it, in reverse, and
after a gap. Lines must not be indented less than a column. The answer says whether the last gap has
a line break in it. -/
def runs (inFlow : Bool) (indent : Int) :
    Nat → List Char → List Char → Bool → Cursor → List Char × Bool × Cursor
  | 0, read, _, afterBreak, p => (read, afterBreak, p)
  | fuel + 1, read, between, afterBreak, p =>
    let text := if p.char? == some '#' then [] else run inFlow p.rest
    if text.isEmpty then (read, afterBreak, p)
    else
      let read := text.reverse ++ (between.reverse ++ read)
      let g := gap (p.skip text.length)
      let tooLow := !inFlow && g.cursor.column < indent
      match g.text with
      | some between =>
        if g.cursor.char? == some '#' || tooLow then (read, g.hasBreak, g.cursor)
        else runs inFlow indent fuel read between g.hasBreak g.cursor
      | none => (read, g.hasBreak, g.cursor)

/-- A plain scalar inside a collection with an indentation: its text, whether a line break follows
it, and the place after it. -/
def read (inFlow : Bool) (outer : Int) (p : Cursor) : String × Bool × Cursor :=
  let (text, afterBreak, p) := runs inFlow (outer + 1) (p.rest.length + 1) [] [] false p
  (String.ofList text.reverse, afterBreak, p)

end SupplyGate.Yaml.Plain
