import SupplyGate.Pattern.Basic
/-!
Searching text. A pattern is matched at a place by trying its ways one after the other, each time
with what is still to be matched after it; the first way that leads to the end decides.
`Pattern.foundIn` asks for a match anywhere in a text.
-/
namespace SupplyGate

/-- How far matching has come: a position, and the stretch that each group matched last. -/
structure Place where
  pos : Nat
  groups : List (Nat × Nat × Nat)

/-- What is still to be matched from a place on. -/
abbrev Remaining := Place → Option Place

namespace Pattern

/-- The character at a position is a word character. -/
def wordAt (text : Array Char) (ascii : Bool) (pos : Nat) : Bool :=
  match text[pos]? with
  | some c => CharClass.word.holds ascii c
  | none => false

/-- The character before a position is a line end. -/
def afterLineEnd (text : Array Char) (pos : Nat) : Bool := text[pos - 1]? == some '\n'

end Pattern

def Anchor.holdsAt (text : Array Char) (pos : Nat) : Anchor → Bool
  | .start lines => pos == 0 || (lines && Pattern.afterLineEnd text pos)
  | .finish lines => pos == text.size || (text[pos]? == some '\n' && (lines || pos + 1 == text.size))
  | .textEnd => pos == text.size
  | .wordEdge negated ascii =>
    let before := pos != 0 && Pattern.wordAt text ascii (pos - 1)
    text.size != 0 && (before != Pattern.wordAt text ascii pos) != negated

namespace Pattern

/-- The stretch that a group matched last. -/
def captured (p : Place) (index : Nat) : Option (Nat × Nat) := p.groups.lookup index

/-- The place after a repetition of an earlier stretch, if the text repeats it. -/
def recallAt (text : Array Char) (p : Place) (index : Nat) (letters : LetterCase) : Option Place := do
  let (lo, hi) ← captured p index
  let same := (List.range (hi - lo)).all fun i =>
    match text[lo + i]?, text[p.pos + i]? with
    | some c, some d => letters.lower c == letters.lower d
    | _, _ => false
  if same then some { p with pos := p.pos + (hi - lo) } else none

/-- Repetitions of a body: `count` were made, and the last free one began at `last`. A free
repetition has to start at a new position. -/
def repeatedly (body : Place → Remaining → Option Place) (least : Nat) (most : Option Nat)
    (lazily : Bool) (k : Remaining) : Nat → Nat → Option Nat → Place → Option Place
  | 0, _, _, p => k p
  | fuel + 1, count, last, p =>
    if count < least then body p (repeatedly body least most lazily k fuel (count + 1) last)
    else
      let more (_ : Unit) : Option Place :=
        if most.all (count < ·) && last != some p.pos then
          body p (repeatedly body least most lazily k fuel (count + 1) (some p.pos))
        else none
      match lazily, (if lazily then k p else more ()) with
      | _, some q => some q
      | true, none => more ()
      | false, none => k p

def run (text : Array Char) : Pattern → Place → Remaining → Option Place
  | .empty, p, k => k p
  | .never, _, _ => none
  | .char test, p, k =>
    match text[p.pos]? with
    | some c => if test.accepts c then k { p with pos := p.pos + 1 } else none
    | none => none
  | .anchor a, p, k => if a.holdsAt text p.pos then k p else none
  | .seq first rest, p, k => run text first p fun q => run text rest q k
  | .alt left right, p, k =>
    match run text left p k with
    | some q => some q
    | none => run text right p k
  | .group index body, p, k =>
    run text body p fun q => k { q with groups := (index, p.pos, q.pos) :: q.groups }
  | .recall index letters, p, k => (recallAt text p index letters).bind k
  | .repeated least most appetite body, p, k =>
    let fuel := least + text.size + 2
    match appetite with
    | .greedy => repeatedly (run text body) least most false k fuel 0 none p
    | .lazy => repeatedly (run text body) least most true k fuel 0 none p
    | .possessive => (repeatedly (run text body) least most false some fuel 0 none p).bind k
  | .ahead negated body, p, k =>
    match run text body p some, negated with
    | some q, false => k { q with pos := p.pos }
    | none, true => k p
    | _, _ => none
  | .behind width negated body, p, k =>
    let back := if p.pos < width then none else run text body { p with pos := p.pos - width } some
    match back, negated with
    | some q, false => k { q with pos := p.pos }
    | none, true => k p
    | _, _ => none
  | .once body, p, k => (run text body p some).bind k
  | .ifGroup index yes no, p, k =>
    if (captured p index).isSome then run text yes p k else run text no p k

def foundIn (pattern : Pattern) (s : String) : Bool :=
  let text := s.toList.toArray
  (List.range (text.size + 1)).any fun start => (run text pattern ⟨start, []⟩ some).isSome

end Pattern
end SupplyGate
