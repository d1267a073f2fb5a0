import SupplyGate.Value.Read
import SupplyGate.Yaml.Cursor
import SupplyGate.Yaml.Token
/-!
Anchors, aliases, tags and directives: the tokens that begin with a mark and a name.
-/
namespace SupplyGate.Yaml.Mark

def isNameChar (c : Char) : Bool :=
  ('0' ≤ c && c ≤ '9') || ('A' ≤ c && c ≤ 'Z') || ('a' ≤ c && c ≤ 'z') || c == '-' || c == '_'

def isTagChar (c : Char) : Bool := isNameChar c || "-;/?:@&=+$,_.!~*'()[]".toList.contains c

def isWordEnd (c : Option Char) : Bool := c == some ' ' || isLineEnd c

/-- The name of an anchor or alias from its mark on, and the place after it. -/
def name (p : Cursor) : Reading (String × Cursor) := do
  let (cs, p) := p.next.span isNameChar
  let ends := isGap p.char? || p.char?.any fun c => "?:,]\x7d%@`".toList.contains c
  if cs.isEmpty || !ends then throw .unreadable
  return (String.ofList cs, p)

/-! ## Tags -/

/-- The characters of a tag from a place on, and the place after them; there has to be one. -/
def tagText (p : Cursor) : Reading (String × Cursor) := do
  let (cs, p) := p.span isTagChar
  if cs.isEmpty then throw .unreadable
  return (String.ofList cs, p)

/-- The handle of a tag with its marks, and the place after it. -/
def handle (p : Cursor) : Reading (String × Cursor) := do
  let (cs, q) := p.next.span isNameChar
  if q.char? == some '!' then return (String.ofList ('!' :: cs ++ ['!']), q.next)
  if cs.isEmpty then return ("!", q)
  throw .unreadable

/-- A second mark stands in the word of a tag. -/
def hasHandle (p : Cursor) : Bool := (p.next.span fun c => !isWordEnd (some c)).1.contains '!'

/-- A tag from its mark on, and the place after it. -/
def tag (p : Cursor) : Reading (Token × Cursor) := do
  let (token, p) ←
    if p.second? == some '<' then do
      let (suffix, p) ← tagText (p.skip 2)
      if p.char? != some '>' then throw .unreadable
      pure (Token.tag none suffix, p.next)
    else if isGap p.second? then pure (Token.tag none "!", p.next)
    else do
      let (handle, p) ← if hasHandle p then handle p else pure ("!", p.next)
      let (suffix, p) ← tagText p
      pure (Token.tag (some handle) suffix, p)
  if !isWordEnd p.char? then throw .unreadable
  return (token, p)

/-! ## Directives -/

/-- A number from a place on, and the place after it. -/
def number (p : Cursor) : Reading (Nat × Cursor) := do
  let (cs, p) := p.span Char.isDigit
  if cs.isEmpty then throw .unreadable
  return (Number.digitsValue cs, p)

/-- The version in a directive, and the place after it. -/
def version (p : Cursor) : Reading (Directive × Cursor) := do
  let (major, p) ← number (p.skipWhile (· == ' '))
  if p.char? != some '.' then throw .unreadable
  let (minor, p) ← number p.next
  if !isWordEnd p.char? then throw .unreadable
  return (.version major minor, p)

/-- The tag handle in a directive, and the place after its prefix. -/
def tagHandle (p : Cursor) : Reading (Directive × Cursor) := do
  let p := p.skipWhile (· == ' ')
  if p.char? != some '!' then throw .unreadable
  let (handle, p) ← handle p
  if p.char? != some ' ' then throw .unreadable
  let (tagPrefix, p) ← tagText (p.skipWhile (· == ' '))
  if !isWordEnd p.char? then throw .unreadable
  return (.tagHandle handle tagPrefix, p)

/-- A directive from its mark on, and the place after its line. -/
def directive (p : Cursor) : Reading (Token × Cursor) := do
  let (name, p) := p.next.span isNameChar
  if name.isEmpty || !isWordEnd p.char? then throw .unreadable
  let (d, p) ← match String.ofList name with
    | "YAML" => version p
    | "TAG" => tagHandle p
    | _ => pure (Directive.other, p.lineEnd)
  let p := (p.skipWhile (· == ' ')).skipComment
  if !isLineEnd p.char? then throw .unreadable
  return (.directive d, p.next)

end SupplyGate.Yaml.Mark
