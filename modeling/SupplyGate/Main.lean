import Std.Time.DateTime.Timestamp
import SupplyGate.CommandLine.Session
/-!
The program: it reads the files that a command names, runs the command, prints what it has to tell
and ends with its exit code.
-/
namespace SupplyGate.CommandLine

/-- Microseconds from the start of the calendar to the start of 1970. -/
def epoch : Int := 719162 * Timestamp.dayLength

def currentTime : IO Timestamp := do
  let t ← Std.Time.Timestamp.now
  let micros := t.toNanosecondsSinceUnixEpoch.val / 1000
  match Timestamp.ofLocalInstant? (epoch + micros) (some Offset.utc) with
  | some now => return now
  | none => throw (IO.userError "the clock is out of range")

def readFile? (path : String) : IO (Option (String × String)) := do
  try
    let text ← IO.FS.readFile path
    return some (path, text)
  catch _ => return none

/-- The files among some paths that can be read. -/
def readFiles (paths : List String) : IO Files := do
  return .yaml ((← paths.mapM readFile?).filterMap id)

/-- How the program is used. -/
def usageLines : List String := [
  "Usage: depgov [--version] [--verbose] [--help] COMMAND [ARGS]",
  "Commands: init, templates, assess, evaluate"]

/-- Print what a command has to tell. -/
def Output.print : Output → IO Unit
  | .breakdown f => IO.eprintln f.message
  | .usage => usageLines.forM fun line => IO.eprintln line
  | .document text => IO.println text
  | .notice lines | .report lines => lines.forM fun line => IO.println line

end SupplyGate.CommandLine

open SupplyGate SupplyGate.CommandLine

/-- Run the command that the arguments give. -/
def main (args : List String) : IO UInt32 := do
  let files ← readFiles (((Command.ofArguments? args).map Command.files).getD [])
  let (outcome, _) := (Session.start (← currentTime)).run files args
  outcome.output.print
  return UInt32.ofNat outcome.exitCode
