import BattleAdvisor.CommandLine.Description

/-!
# The command line

Runs the program with the arguments of the command line, in the surroundings that one line of
standard input describes. The advice goes to standard output; reports go to standard error.
-/

open BattleAdvisor

/-- Runs the program in the described surroundings. -/
def runDescribed (arguments : List String) (line : String) : CommandLine.Outcome ⊕ String :=
  match CommandLine.Description.read line with
  | .ok surroundings => .inl (CommandLine.run (arguments.map Utf8.encode) surroundings)
  | .error error => .inr error.message

/-- Shows what a run leaves behind. -/
def main (arguments : List String) : IO UInt32 := do
  let line ← (← IO.getStdin).getLine
  match runDescribed arguments line with
  | .inl outcome =>
    outcome.log.forM fun report => IO.eprintln report.text
    outcome.report.forM IO.eprintln
    IO.print outcome.output
    return outcome.status.toUInt32
  | .inr message =>
    IO.eprintln message
    return 2
