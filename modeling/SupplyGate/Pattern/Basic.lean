import SupplyGate.Text.Case
import SupplyGate.Text.Class
/-!
Search patterns. A `Pattern` is a tree over tests of single characters; `Width` is how many
characters a pattern can match, which a pattern that looks back has to know beforehand.
-/
namespace SupplyGate

/-- The character classes with a name of their own. -/
inductive CharClass where
  | digit
  | space
  | word
  deriving DecidableEq, Repr

namespace CharClass

/-- A character is in the class; `ascii` leaves out everything beyond ASCII. -/
def holds (ascii : Bool) (k : CharClass) (c : Char) : Bool :=
  (!ascii || c.toNat < 128) &&
    match k with
    | .digit => Text.isDecimal c
    | .space => Text.isBlank c && (!ascii || c == ' ' || ('\t' ≤ c && c ≤ '\r'))
    | .word => Text.isWord c

end CharClass

/-- How much two characters may differ in case. -/
inductive LetterCase where
  /-- Not at all. -/
  | exact
  /-- As ASCII letters may. -/
  | ascii
  /-- As any letters may. -/
  | any
  deriving DecidableEq, Repr

namespace LetterCase

/-- A character in lower case. -/
def lower : LetterCase → Char → Char
  | .exact, c => c
  | .ascii, c => c.toLower
  | .any, c => Text.foldChar c

/-- The characters that differ from this one in case only. -/
def forms : LetterCase → Char → List Char
  | .exact, c => [c]
  | .ascii, c => [c.toLower, c.toUpper]
  | .any, c => Text.caseForms c

end LetterCase

/-- A member of a bracketed set. -/
inductive SetItem where
  | range (lo hi : Char)
  | named (k : CharClass) (negated ascii : Bool)
  deriving DecidableEq, Repr

def SetItem.holds (letters : LetterCase) : SetItem → Char → Bool
  | .range lo hi, c => (letters.forms c).any fun d => lo ≤ d && d ≤ hi
  | .named k negated ascii, c => k.holds ascii (letters.lower c) != negated

inductive CharTest where
  /-- This character, or one that differs from it in case only. -/
  | one (c : Char) (letters : LetterCase)
  /-- Any character; a line end only if `lineEnds` says so. -/
  | any (lineEnds : Bool)
  /-- A character that some item holds, or that none holds. -/
  | set (items : List SetItem) (negated : Bool) (letters : LetterCase)
  deriving DecidableEq, Repr

def CharTest.accepts : CharTest → Char → Bool
  | .one d letters, c => (letters.forms c).contains d
  | .any lineEnds, c => lineEnds || c != '\n'
  | .set items negated letters, c => items.any (·.holds letters c) != negated

/-- A condition on a position. -/
inductive Anchor where
  /-- The start of the text, or of a line. -/
  | start (lines : Bool)
  /-- The end of the text or before a last line end, or the end of a line. -/
  | finish (lines : Bool)
  /-- The very end of the text. -/
  | textEnd
  /-- Between a word character and something else, or not there. -/
  | wordEdge (negated ascii : Bool)
  deriving DecidableEq, Repr

/-- Which of several repetitions is tried first. -/
inductive Appetite where
  /-- As many as possible. -/
  | greedy
  /-- As few as possible. -/
  | lazy
  /-- As many as possible, without a second thought. -/
  | possessive
  deriving DecidableEq, Repr

inductive Pattern where
  | empty
  | never
  | char (test : CharTest)
  | anchor (a : Anchor)
  | seq (first rest : Pattern)
  | alt (left right : Pattern)
  | group (index : Nat) (body : Pattern)
  | recall (index : Nat) (letters : LetterCase)
  | repeated (least : Nat) (most : Option Nat) (appetite : Appetite) (body : Pattern)
  | ahead (negated : Bool) (body : Pattern)
  | behind (width : Nat) (negated : Bool) (body : Pattern)
  | once (body : Pattern)
  | ifGroup (index : Nat) (yes no : Pattern)
  deriving Repr

/-- The least and the greatest number of characters that a pattern matches. -/
structure Width where
  least : Nat
  most : Option Nat
  deriving DecidableEq, Repr

namespace Width

/-- Nothing. -/
def zero : Width := ⟨0, some 0⟩

/-- One character. -/
def one : Width := ⟨1, some 1⟩

/-- One after the other. -/
def add (a b : Width) : Width :=
  ⟨a.least + b.least, do return (← a.most) + (← b.most)⟩

/-- One or the other. -/
def or (a b : Width) : Width :=
  ⟨min a.least b.least, do return max (← a.most) (← b.most)⟩

/-- Some repetitions. -/
def times (least : Nat) (most : Option Nat) (w : Width) : Width :=
  ⟨w.least * least,
    if w.most = some 0 || most = some 0 then some 0 else do return (← w.most) * (← most)⟩

def fixed? (w : Width) : Option Nat := if w.most = some w.least then some w.least else none

end Width
end SupplyGate
