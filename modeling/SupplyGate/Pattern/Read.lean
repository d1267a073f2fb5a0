import SupplyGate.Number.Numeral
import SupplyGate.Pattern.Basic
/-!
Reading patterns. A pattern is a list of alternatives, each a sequence of items that may be
repeated: characters, escapes, bracketed sets, anchors, groups, back references, and looks ahead and behind.
`Pattern.read?` refuses a text that is no pattern. The escape that names a character is not known.
-/
namespace SupplyGate.Pattern

/-- How a pattern treats characters. -/
structure Flags where
  anyCase : Bool := false
  lines : Bool := false
  dotAll : Bool := false
  ascii : Bool := false
  spaced : Bool := false
  /-- Nothing may be repeated. -/
  template : Bool := false

def Flags.letters (f : Flags) : LetterCase :=
  if !f.anyCase then .exact else if f.ascii then .ascii else .any

/-- What is still to be read, and what was read so far: the flags, the widths of the groups that are
closed, the names of groups, the first group of a look behind, and the groups that a choice asks
for. -/
structure Reader where
  rest : List Char
  flags : Flags
  widths : List (Option Width)
  names : List (String × Nat)
  behindFrom : Option Nat
  asked : List Nat

abbrev Step := StateT Reader Option

/-- Whether an item may be repeated. -/
inductive ItemKind where
  | plain
  | anchored
  | repetition
  deriving DecidableEq

structure Item where
  pattern : Pattern
  width : Width
  kind : ItemKind := .plain

namespace Step

/-- No pattern starts like this. -/
def refuse {α : Type} : Step α := fun _ => none

/-- The next character, which stays. -/
def peek : Step (Option Char) := do return (← get).rest.head?

def next? : Step (Option Char) := do
  match (← get).rest with
  | [] => return none
  | c :: rest => modify fun r => { r with rest }; return some c

/-- The next character, which there has to be. -/
def next : Step Char := do
  match ← next? with
  | some c => return c
  | none => refuse

/-- Whether this character comes next; if so it is read. -/
def found (c : Char) : Step Bool := do
  if (← peek) == some c then discard next; return true
  return false

/-- This character has to come next. -/
def expect (c : Char) : Step Unit := do
  if !(← found c) then refuse

/-- The characters from here on that pass a test, at most `limit` of them. -/
def takeWhile (limit : Nat) (test : Char → Bool) : Step (List Char) := do
  let taken := ((← get).rest.take limit).takeWhile test
  modify fun r => { r with rest := r.rest.drop taken.length }
  return taken

/-- The characters up to a mark, which is read too. There has to be one. -/
def upTo (mark : Char) : Step String := do
  let rest := (← get).rest
  let taken := rest.takeWhile (· != mark)
  if taken.length == rest.length || taken.isEmpty then refuse
  modify fun r => { r with rest := rest.drop (taken.length + 1) }
  return String.ofList taken

end Step

open Step

/-! ## Escapes -/

/-- The value of digits in a base. -/
def digitsIn (base : Nat) (cs : List Char) : Nat :=
  cs.foldl (fun n c =>
    base * n + (if c.isDigit then c.toNat - 48 else c.toLower.toNat - 87)) 0

def isHex (c : Char) : Bool := c.isDigit || ('a' ≤ c.toLower && c.toLower ≤ 'f')

def isOctal (c : Char) : Bool := '0' ≤ c && c ≤ '7'

/-- The character with a code, if there is one. -/
def charOf (code : Nat) : Step Char := if code.isValidChar then return Char.ofNat code else refuse

/-- A code of exactly `count` hexadecimal digits. -/
def hexCode (count : Nat) : Step Char := do
  let ds ← takeWhile count isHex
  if ds.length == count then charOf (digitsIn 16 ds) else refuse

/-- The control characters with an escape of their own. -/
def controlEscape? : Char → Option Char
  | 'a' => some '\x07'
  | 'f' => some '\x0c'
  | 'n' => some '\n'
  | 'r' => some '\r'
  | 't' => some '\t'
  | 'v' => some '\x0b'
  | '\\' => some '\\'
  | _ => none

/-- The character classes with an escape of their own. -/
def classEscape? : Char → Option (CharClass × Bool)
  | 'd' => some (.digit, false)
  | 'D' => some (.digit, true)
  | 's' => some (.space, false)
  | 'S' => some (.space, true)
  | 'w' => some (.word, false)
  | 'W' => some (.word, true)
  | _ => none

/-- A single character under the flags. -/
def literal (c : Char) : Step Item := do
  return ⟨.char (.one c (← get).flags.letters), .one, .plain⟩

/-- A group that is closed, and that a look behind may ask for. -/
def closedGroup (index : Nat) : Step Width := do
  let r ← get
  match r.widths[index - 1]?, r.behindFrom with
  | some (some w), none => return w
  | some (some w), some first => if index < first then return w else refuse
  | _, _ => refuse

/-- A reference to a group. -/
def recallItem (index : Nat) : Step Item := do
  if index == 0 then refuse
  let w ← closedGroup index
  return ⟨.recall index (← get).flags.letters, w, .plain⟩

/-- A number after a backslash: an octal code, or a reference to a group. -/
def numberEscape (c : Char) : Step Item := do
  if c == '0' then
    let ds ← takeWhile 2 isOctal
    literal (Char.ofNat (digitsIn 8 ds))
  else
    match ← takeWhile 1 Char.isDigit with
    | [d] =>
      let third ← if isOctal c && isOctal d then takeWhile 1 isOctal else pure []
      match third with
      | [e] =>
        let code := digitsIn 8 [c, d, e]
        if code ≤ 255 then literal (Char.ofNat code) else refuse
      | _ => recallItem (digitsIn 10 [c, d])
    | _ => recallItem (digitsIn 10 [c])

/-- An escape outside sets; the backslash was read. -/
def escape : Step Item := do
  let c ← next
  let flags := (← get).flags
  let anchorItem (a : Anchor) : Step Item := return ⟨.anchor a, .zero, .anchored⟩
  match classEscape? c, controlEscape? c with
  | some (k, negated), _ =>
    return ⟨.char (.set [.named k negated flags.ascii] false .exact), .one, .plain⟩
  | _, some d => literal d
  | none, none =>
    if c == 'A' then anchorItem (.start false)
    else if c == 'Z' then anchorItem .textEnd
    else if c == 'b' then anchorItem (.wordEdge false flags.ascii)
    else if c == 'B' then anchorItem (.wordEdge true flags.ascii)
    else if c == 'x' then literal (← hexCode 2)
    else if c == 'u' then literal (← hexCode 4)
    else if c == 'U' then literal (← hexCode 8)
    else if c.isDigit then numberEscape c
    else if c.isAlpha then refuse
    else literal c

/-- An escape inside a set; the backslash was read. -/
def setEscape : Step SetItem := do
  let c ← next
  let single (d : Char) : Step SetItem := return .range d d
  match classEscape? c, controlEscape? c with
  | some (k, negated), _ => return .named k negated (← get).flags.ascii
  | _, some d => single d
  | none, none =>
    if c == 'b' then single '\x08'
    else if c == 'x' then single (← hexCode 2)
    else if c == 'u' then single (← hexCode 4)
    else if c == 'U' then single (← hexCode 8)
    else if isOctal c then
      let code := digitsIn 8 (c :: (← takeWhile 2 isOctal))
      if code ≤ 255 then single (Char.ofNat code) else refuse
    else if c.isAlphanum then refuse
    else single c

/-! ## Sets -/

/-- A member of a set whose first character was read. -/
def setMember (c : Char) : Step SetItem := if c == '\\' then setEscape else return .range c c

/-- The members of a set up to its bracket. A bracket that comes first is a member. -/
def setItems (fuel : Nat) (items : List SetItem) : Step (List SetItem) :=
  match fuel with
  | 0 => refuse
  | n + 1 => do
    let c ← next
    if c == ']' && !items.isEmpty then return items
    let low ← setMember c
    if !(← found '-') then setItems n (items ++ [low])
    else
      let d ← next
      if d == ']' then return items ++ [low, .range '-' '-']
      let high ← setMember d
      match low, high with
      | .range a b, .range e f =>
        if a == b && e == f && a ≤ e then setItems n (items ++ [.range a e]) else refuse
      | _, _ => refuse

/-- A set; its opening bracket was read. -/
def setItem : Step Item := do
  let negated ← found '^'
  let items ← setItems ((← get).rest.length + 1) []
  return ⟨.char (.set items negated (← get).flags.letters), .one, .plain⟩

/-! ## Repetition -/

/-- The most repetitions that a pattern may ask for. -/
def repeatLimit : Nat := 4294967294

/-- The bounds of a repetition whose mark was read; a brace that opens none is a character. -/
def bounds (mark : Char) : Step (Option (Nat × Option Nat)) := do
  if mark == '?' then return some (0, some 1)
  if mark == '*' then return some (0, none)
  if mark == '+' then return some (1, none)
  let start ← get
  if start.rest.head? == some '\x7d' then return none
  let low ← takeWhile start.rest.length Char.isDigit
  let comma ← found ','
  let high ← if comma then takeWhile start.rest.length Char.isDigit else pure low
  if !(← found '\x7d') then
    set start
    return none
  let least := digitsIn 10 low
  let most := digitsIn 10 high
  if repeatLimit < least || repeatLimit < most then refuse
  if high.isEmpty then return some (least, none)
  if most < least then refuse
  return some (least, some most)

/-- How greedy a repetition is. -/
def appetite : Step Appetite := do
  if ← found '?' then return .lazy
  if ← found '+' then return .possessive
  return .greedy

/-- The items of a sequence, last first, with the last one repeated. -/
def repeatLast (least : Nat) (most : Option Nat) : List Item → Step (List Item)
  | ⟨p, w, .plain⟩ :: before => do
    if (← get).flags.template then refuse
    return ⟨.repeated least most (← appetite) p, w.times least most, .repetition⟩ :: before
  | _ => refuse

/-- One pattern from the items of a sequence, last first. -/
def joined (items : List Item) : Item :=
  items.foldl (fun rest item => ⟨.seq item.pattern rest.pattern, item.width.add rest.width, .plain⟩)
    ⟨.empty, .zero, .plain⟩

/-! ## Groups -/

/-- A group name: a letter or low line, then letters, digits and low lines. -/
def isName (s : String) : Bool :=
  match s.toList with
  | [] => false
  | c :: rest => Text.isWord c && !Text.isDigit c && rest.all Text.isWord

def Flags.set? (f : Flags) (value : Bool) : Char → Option Flags
  | 'i' => some { f with anyCase := value }
  | 'm' => some { f with lines := value }
  | 's' => some { f with dotAll := value }
  | 'x' => some { f with spaced := value }
  | 'a' => if value then some { f with ascii := true } else none
  | 'u' => if value then some { f with ascii := false } else none
  | 't' => if value then some { f with template := true } else none
  | _ => none

/-- A run of flags, set or cleared, and the character after it. -/
def flagRun (value : Bool) (fuel : Nat) (flags : Flags) (c : Char) (seen : List Char) :
    Step (Flags × Char × List Char) :=
  match fuel with
  | 0 => refuse
  | n + 1 =>
    match flags.set? value c with
    | none => refuse
    | some flags => do
      let seen := c :: seen
      if seen.contains 'a' && seen.contains 'u' then refuse
      let d ← next
      if d == ')' || d == ':' || d == '-' then return (flags, d, seen)
      flagRun value n flags d seen

/-- How a group that begins with flags ends: with flags for all that follows, or for itself. Only the
former may rule out repetition. -/
def flagGroup (c : Char) : Step (Flags × Bool) := do
  let fuel := (← get).rest.length + 1
  let (flags, mark, added) ←
    if c == '-' then pure ((← get).flags, '-', []) else flagRun true fuel (← get).flags c []
  if mark == ')' then return (flags, true)
  if added.contains 't' then refuse
  if mark == ':' then return (flags, false)
  let (flags, mark, removed) ← flagRun false fuel flags (← next) []
  if mark != ':' || removed.any added.contains then refuse
  return (flags, false)

/-- A new group, open until its width is known. -/
def openGroup (name : Option String) : Step Nat := do
  let r ← get
  let index := r.widths.length + 1
  let names ← match name with
    | none => pure r.names
    | some s => if (r.names.lookup s).isSome then refuse else pure ((s, index) :: r.names)
  set { r with widths := r.widths ++ [none], names }
  return index

def closeGroup (index : Nat) (w : Width) : Step Unit :=
  modify fun r => { r with widths := r.widths.set (index - 1) (some w) }

/-- The group that a choice asks for, by name or number. -/
def askedGroup (s : String) : Step Nat := do
  let r ← get
  let index ←
    if isName s then
      match r.names.lookup s with
      | some index => pure index
      | none => refuse
    else
      match Number.readInt s with
      | .ok n => pure n.toNat
      | .error _ => refuse
  if index == 0 then refuse
  if r.behindFrom.isSome then discard (closedGroup index)
  set { r with asked := index :: r.asked }
  return index

/-- What opens with a question mark inside a parenthesis. -/
inductive Opening where
  | capture (name : Option String)
  | plain
  | once
  | item (i : Item)
  | comment
  | look (behind negated : Bool)
  | choice (index : Nat)
  | flags (flags : Flags) (forRest : Bool)

/-- What a parenthesis opens; it was read. -/
def opening : Step Opening := do
  if !(← found '?') then return .capture none
  let c ← next
  if c == ':' then return .plain
  if c == '>' then return .once
  if c == '=' || c == '!' then return .look false (c == '!')
  if c == '#' then
    let rest := (← get).rest
    if !rest.contains ')' then refuse
    modify fun r => { r with rest := (rest.dropWhile (· != ')')).drop 1 }
    return .comment
  if c == '<' then
    let d ← next
    if d == '=' || d == '!' then return .look true (d == '!')
    refuse
  if c == '(' then return .choice (← askedGroup (← upTo ')'))
  if c == 'P' then
    let d ← next
    if d == '<' then
      let name ← upTo '>'
      if isName name then return .capture (some name)
      refuse
    if d == '=' then
      let name ← upTo ')'
      match (← get).names.lookup name with
      | some index => return .item (← recallItem index)
      | none => refuse
    refuse
  let (flags, forRest) ← flagGroup c
  return .flags flags forRest

/-- Blanks and comments that a spaced pattern leaves out. -/
def skipSpaced (c : Char) : Step Bool := do
  if !(← get).flags.spaced then return false
  if c == ' ' || ('\t' ≤ c && c ≤ '\r') then return true
  if c == '#' then
    modify fun r => { r with rest := (r.rest.dropWhile (· != '\n')).drop 1 }
    return true
  return false

/-- An item that is a single character, a set, an anchor or an escape. -/
def simpleItem (c : Char) : Step Item := do
  let flags := (← get).flags
  if c == '\\' then escape
  else if c == '[' then setItem
  else if c == '.' then return ⟨.char (.any flags.dotAll), .one, .plain⟩
  else if c == '^' then return ⟨.anchor (.start flags.lines), .zero, .anchored⟩
  else if c == '$' then return ⟨.anchor (.finish flags.lines), .zero, .anchored⟩
  else literal c

mutual

/-- Alternatives, up to the end or a closing parenthesis. -/
def alternatives (fuel : Nat) (outermost : Bool) : Step Item :=
  match fuel with
  | 0 => refuse
  | n + 1 => do
    let left ← sequence n outermost []
    if ← found '|' then
      let right ← alternatives n false
      return ⟨.alt left.pattern right.pattern, left.width.or right.width, .plain⟩
    return left

/-- A sequence of items, given those read so far, last first. -/
def sequence (fuel : Nat) (outermost : Bool) (items : List Item) : Step Item :=
  match fuel with
  | 0 => refuse
  | n + 1 => do
    match ← peek with
    | none => return joined items
    | some '|' => return joined items
    | some ')' => return joined items
    | some c =>
      discard next
      if ← skipSpaced c then sequence n outermost items
      else if c == '*' || c == '+' || c == '?' || c == '\x7b' then
        match ← bounds c with
        | some (least, most) => sequence n outermost (← repeatLast least most items)
        | none => sequence n outermost ((← literal c) :: items)
      else if c == '(' then
        match ← opening with
        | .comment => sequence n outermost items
        | .flags flags true =>
          if !outermost || !items.isEmpty then refuse
          modify fun r => { r with flags }
          sequence n outermost items
        | opened => sequence n outermost ((← groupItem n opened) :: items)
      else sequence n outermost ((← simpleItem c) :: items)

/-- The item that a parenthesis opened, up to the parenthesis that closes it. -/
def groupItem (fuel : Nat) (opened : Opening) : Step Item :=
  match fuel with
  | 0 => refuse
  | n + 1 => do
    let before ← get
    match opened with
    | .item i => return i
    | .comment => refuse
    | .capture name =>
      let index ← openGroup name
      let body ← alternatives n false
      expect ')'
      closeGroup index body.width
      modify fun r => { r with flags := before.flags }
      return ⟨.group index body.pattern, body.width, .plain⟩
    | .plain =>
      let body ← alternatives n false
      expect ')'
      return { body with kind := .plain }
    | .flags flags _ =>
      modify fun r => { r with flags }
      let body ← alternatives n false
      expect ')'
      modify fun r => { r with flags := before.flags }
      return { body with kind := .plain }
    | .once =>
      let body ← alternatives n false
      expect ')'
      return ⟨.once body.pattern, body.width, .plain⟩
    | .look false negated =>
      let body ← alternatives n false
      expect ')'
      return ⟨.ahead negated body.pattern, .zero, .plain⟩
    | .look true negated =>
      modify fun r => { r with behindFrom := r.behindFrom.or (some (r.widths.length + 1)) }
      let body ← alternatives n false
      modify fun r => { r with behindFrom := before.behindFrom }
      expect ')'
      match body.width.fixed? with
      | some width => return ⟨.behind width negated body.pattern, .zero, .plain⟩
      | none => refuse
    | .choice index =>
      let yes ← sequence n false []
      if ← found '|' then
        let no ← sequence n false []
        expect ')'
        return ⟨.ifGroup index yes.pattern no.pattern, yes.width.or no.width, .plain⟩
      expect ')'
      return ⟨.ifGroup index yes.pattern .empty, yes.width.or .zero, .plain⟩

end

/-- The pattern that a text denotes. -/
def read? (s : String) : Option Pattern := do
  let cs := s.toList
  let (item, r) ← (alternatives (4 * cs.length + 8) true).run ⟨cs, {}, [], [], none, []⟩
  if r.rest.isEmpty && r.asked.all (· ≤ r.widths.length) then some item.pattern else none

end SupplyGate.Pattern
