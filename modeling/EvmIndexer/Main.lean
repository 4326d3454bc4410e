import EvmIndexer.Program.Run

/-!
# The command line

Runs the program over an empty store with nobody to ask: prints what it writes
and ends with its status. What the program asks for when it is told to choose is
read from the input, a line each.
-/

namespace EvmIndexer

/-- The settings of the process that the program reads. -/
def readEnvironment : IO (List (String × String)) := do
  let values ← Settings.names.mapM fun name => do
    return (← IO.getEnv name).map (name, ·)
  return values.filterMap id

def readLine : IO String := do
  return Text.trim (← (← IO.getStdin).getLine)

def readOccasion (words : List String) : IO Occasion := do
  let environment ← readEnvironment
  match Command.ofWords words with
  | .ok .choose =>
    return { words, environment, choice := ← readLine, chosenTx := ← readLine }
  | _ => return { words, environment }

/-- Prints what a run wrote, or how the program is used. -/
def printReport (report : Report) : IO Unit :=
  match report.lines with
  | some lines => lines.forM IO.println
  | none => IO.eprintln
    "usage: decoder (run | serve | drain | listen | decode TX | backfill)"

end EvmIndexer

def main (words : List String) : IO UInt32 := do
  let report := EvmIndexer.Program.run (← EvmIndexer.readOccasion words)
  EvmIndexer.printReport report
  return report.status.toUInt32
