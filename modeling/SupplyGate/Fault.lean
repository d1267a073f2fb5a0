import SupplyGate.Value.Basic
/-!
Why an operation refuses. A `Fault` is a cause: a document of the wrong shape, a number or a date
out of range, or a request that the rules forbid. `Fault.message` is the wording of each, and
`Fault.family` the group by which callers tell faults apart.
-/
namespace SupplyGate

/-- A value of a kind that an operation has no meaning for. -/
inductive KindFault where
  /-- A collection was needed. -/
  | notIterable (kind : String)
  /-- A map was needed. -/
  | notMapping (kind : String)
  /-- Something with entries was needed. -/
  | notSubscriptable (kind : String)
  /-- A list has no entry under a text. -/
  | listIndex
  /-- A text has no entry under a text. -/
  | textIndex
  /-- Two kinds without an order between them. -/
  | notComparable (operator left right : String)
  /-- Two kinds without this arithmetic operation. -/
  | operands (operator left right : String)
  /-- A collection as a key. -/
  | unhashable (kind : String)
  /-- Something that is no number where a float was needed. -/
  | notReal (kind : String)
  /-- An item of a list that should have been a pair. -/
  | notPair (index : Nat)
  /-- An item of a list that should have been a text. -/
  | notText (index : Nat) (kind : String)
  /-- Fields that do not fit the record to be built. -/
  | fields (text : String)
  /-- A dependency whose last update is not a timestamp. -/
  | lastUpdate (dependency found : String)
  /-- A key that has no written form. -/
  | unwritableKey (kind : String)
  /-- A time without an offset beside one that has an offset. -/
  | mixedTimes (operation : String)

def KindFault.message : KindFault → String
  | .notIterable kind => s!"'{kind}' object is not iterable"
  | .notMapping kind => s!"'{kind}' object is not a mapping"
  | .notSubscriptable kind => s!"'{kind}' object is not subscriptable"
  | .listIndex => "list indices must be integers or slices, not str"
  | .textIndex => "string indices must be integers, not 'str'"
  | .notComparable operator left right =>
    s!"'{operator}' not supported between instances of '{left}' and '{right}'"
  | .operands operator left right =>
    s!"unsupported operand type(s) for {operator}: '{left}' and '{right}'"
  | .unhashable kind => s!"unhashable type: '{kind}'"
  | .notReal kind => s!"float() argument must be a string or a real number, not '{kind}'"
  | .notPair index =>
    s!"cannot convert dictionary update sequence element #{toString index} to a sequence"
  | .notText index kind => s!"sequence item {toString index}: expected str instance, {kind} found"
  | .fields text => text
  | .lastUpdate dependency found => s!"Invalid last_update for {dependency}: {found}"
  | .unwritableKey kind => s!"keys must be str, int, float, bool or None, not {kind}"
  | .mixedTimes operation => s!"can't {operation} offset-naive and offset-aware datetimes"

/-- The records that are looked up by id. -/
inductive RecordKind where
  | policy
  | template
  | assessment
  | violation
  | exception
  deriving DecidableEq

/-- Why an operation refuses. -/
inductive Fault where
  /-- A required key of a map is missing. -/
  | missingKey (key : Scalar)
  /-- A value that is not on a scale. -/
  | notMember (value : Value) (scale : String)
  /-- A text that is no timestamp. -/
  | badTimestamp
  /-- A text that is no number. -/
  | notNumeral (text : String)
  /-- A text that is no whole number. -/
  | notWhole (text : String)
  /-- A whole number with too many digits to be read. -/
  | longNumeral (digits : Nat)
  /-- A whole number with too many digits to be written. -/
  | longNumber
  /-- What is not a number cannot be rounded. -/
  | nanRounded
  /-- A list of pairs with an item of another length. -/
  | pairLength (index length : Nat)
  /-- A weight table that does not exist. -/
  | unknownTable (name : String)
  /-- A file whose content cannot be accepted. -/
  | malformed (text : String)
  /-- A value of the wrong kind. -/
  | kind (cause : KindFault)
  /-- A value without this part. -/
  | noPart (kind part : String)
  /-- A list or text that is too short. -/
  | index (collection : String)
  /-- A day that the calendar does not have. -/
  | calendarRange
  /-- An integer that is beyond every float. -/
  | floatRange
  /-- A number that is beyond the numbers of characters. -/
  | characterRange
  /-- A rounded number with too many digits. -/
  | tooManyDigits
  /-- A policy that is structurally invalid. -/
  | invalidPolicy (text : String) (errors : List String)
  /-- No record has this id. -/
  | notFound (record : RecordKind) (ident : String)
  /-- The id is taken. -/
  | duplicate (ident : String)
  /-- The id is taken by a policy of another tenant. -/
  | foreignPolicy (ident : String)
  /-- A reassessment without new data. -/
  | nothingNew (assessment : String)
  /-- An action that cannot be carried out. -/
  | action (text : String)
  /-- A status change that the lifecycle does not allow. -/
  | forbiddenMove (violation before after : String)
  /-- A row that breaks a constraint of the store. -/
  | rowConflict
  /-- A row whose document has no written form. -/
  | unwritableRow
  /-- A text that is no document. -/
  | unreadable
  /-- A file that does not exist. -/
  | noSuchFile (path : String)
  /-- A collaborator that raised an error. -/
  | collaborator (text kind : String)
  /-- A collaborator that did not answer in time. -/
  | timedOut

namespace Fault

/-- The wording of a lookup that found nothing. -/
def notFoundMessage : RecordKind → String → String
  | .policy, ident => "Policy not found: " ++ ident
  | .template, ident => "Template not found: " ++ ident
  | .assessment, ident => "Risk assessment " ++ ident ++ " not found"
  | .violation, ident => "Violation not found: " ++ ident
  | .exception, ident => "Exception not found: " ++ ident

def message : Fault → String
  | .missingKey key => key.quoted
  | .notMember value scale => s!"{value.quoted} is not a valid {scale}"
  | .badTimestamp => "invalid timestamp"
  | .notNumeral text => "could not convert string to float: " ++ Text.quoted text
  | .notWhole text => "invalid literal for int() with base 10: " ++ Text.quoted text
  | .longNumeral digits =>
    s!"Exceeds the limit (4300 digits) for integer string conversion: value has {toString digits} " ++
      "digits; use sys.set_int_max_str_digits() to increase the limit"
  | .longNumber =>
    "Exceeds the limit (4300 digits) for integer string conversion; " ++
      "use sys.set_int_max_str_digits() to increase the limit"
  | .nanRounded => "cannot convert NaN to integer"
  | .pairLength i n =>
    s!"dictionary update sequence element #{toString i} has length {toString n}; 2 is required"
  | .unknownTable name => "Unknown criteria table: " ++ name
  | .malformed text => text
  | .kind cause => cause.message
  | .noPart owner part => s!"'{owner}' object has no attribute '{part}'"
  | .index collection => collection ++ " index out of range"
  | .calendarRange => "date value out of range"
  | .floatRange => "int too large to convert to float"
  | .characterRange => "signed integer is greater than maximum"
  | .tooManyDigits => "rounded number has too many digits"
  | .invalidPolicy text _ => text
  | .notFound record ident => notFoundMessage record ident
  | .duplicate ident => s!"Record {ident} already exists"
  | .foreignPolicy ident => s!"Policy {ident} already exists for another tenant"
  | .nothingNew assessment =>
    s!"Reassessment of {assessment} requires new dependency or vulnerability data"
  | .action text => text
  | .forbiddenMove violation before after =>
    s!"Cannot move violation {violation} from {before} to {after}"
  | .rowConflict => "constraint failed"
  | .unwritableRow => "unwritable document"
  | .unreadable => "unreadable document"
  | .noSuchFile path => "[Errno 2] No such file or directory: " ++ Text.quoted path
  | .collaborator text _ => text
  | .timedOut => ""

/-- A fault whose wording names a value; a value that cannot be written is a fault of its own. -/
def naming (f : String → Fault) (v : Value) : Fault := if v.isWritable then f v.rendered else .longNumber

/-- The groups into which callers sort faults. -/
inductive Family where
  | value
  | key
  | kind
  | part
  | index
  | range
  | digits
  | invalidPolicy
  | notFound (record : RecordKind)
  | duplicate
  | unsupported
  | action
  | transition
  | row
  | document
  | file
  | collaborator
  | timeout
  deriving DecidableEq

def family : Fault → Family
  | .missingKey _ => .key
  | .notMember _ _ | .badTimestamp | .notNumeral _ | .notWhole _ | .longNumeral _ | .longNumber
  | .nanRounded | .pairLength _ _ | .unknownTable _ | .malformed _ => .value
  | .kind _ => .kind
  | .noPart _ _ => .part
  | .index _ => .index
  | .calendarRange | .floatRange | .characterRange => .range
  | .tooManyDigits => .digits
  | .invalidPolicy _ _ => .invalidPolicy
  | .notFound record _ => .notFound record
  | .duplicate _ | .foreignPolicy _ => .duplicate
  | .nothingNew _ => .unsupported
  | .action _ => .action
  | .forbiddenMove _ _ _ => .transition
  | .rowConflict | .unwritableRow => .row
  | .unreadable => .document
  | .noSuchFile _ => .file
  | .collaborator _ _ => .collaborator
  | .timedOut => .timeout

/-- A content of the wrong value: also an invalid policy and a forbidden move. -/
def isValueFault (f : Fault) : Bool :=
  match f.family with
  | .value | .invalidPolicy | .transition => true
  | _ => false

/-- A missing key: also a record that was not found. -/
def isKeyFault (f : Fault) : Bool :=
  match f.family with
  | .key | .notFound _ => true
  | _ => false

end Fault
end SupplyGate
