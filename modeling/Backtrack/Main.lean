import Backtrack.Command

/-! The program: reads its arguments, prints what the command leaves behind, and
ends with its exit code. It has no words of its own for the help, nor for a usage error. -/

def main (arguments : List String) : IO UInt32 := do
  match Backtrack.Command.ofArguments arguments with
  | none => return 2
  | some .help => return 0
  | some command =>
    match command.output with
    | none => return 3
    | some output =>
      IO.print output.stdout
      IO.eprint output.stderr
      return output.code
