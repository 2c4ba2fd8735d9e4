import Backtrack.Sample

/-! The command line: the name of a grammar, a text, and whether the opening of
the text is enough. -/

namespace Backtrack

inductive Command where
  | version
  | help
  | report (sample : Sample) (input : String) (demand : Demand)
  deriving DecidableEq, Repr

/-- What a run of the program leaves behind. -/
structure Output where
  code : UInt32
  stdout : String
  stderr : String
  deriving DecidableEq, Repr

namespace Command

/-- The arguments read so far. -/
structure Draft where
  sample : Option Sample
  input : Option String
  demand : Demand

namespace Draft

def empty : Draft := ⟨none, none, .whole⟩

/-- The next argument that is not an option: first the grammar, then the text. -/
def positional (draft : Draft) (argument : String) : Option Draft :=
  match draft.sample, draft.input with
  | none, _ => (Sample.ofName? argument).map fun sample => { draft with sample := some sample }
  | some _, none => some { draft with input := some argument }
  | some _, some _ => none

/-- The option for the demand may be given once. -/
def acceptOpening (draft : Draft) : Option Draft :=
  match draft.demand with
  | .whole => some { draft with demand := .opening }
  | .opening => none

def command (draft : Draft) : Option Command :=
  match draft.sample, draft.input with
  | some sample, some input => some (.report sample input draft.demand)
  | _, _ => none

/-- Arguments after the double dash are positional, whatever they look like. -/
def literally (draft : Draft) (arguments : List String) : Option Command :=
  (arguments.foldlM positional draft).bind command

end Draft

/-- A dash alone is no option. -/
def isOption (argument : String) : Bool :=
  match argument.toList with
  | '-' :: _ :: _ => true
  | _ => false

/-- Short options may be written together, and the first one answers. -/
def leads (letter : Char) (argument : String) : Bool :=
  match argument.toList with
  | '-' :: c :: _ => c = letter
  | _ => false

/-- Arguments count from the left: version and help answer where they stand, unless
an earlier argument was wrong already. -/
def read (draft : Draft) : List String → Option Command
  | [] => draft.command
  | argument :: rest =>
    if argument = "--" then draft.literally rest
    else if argument = "--version" || leads 'V' argument then some .version
    else if argument = "--help" || leads 'h' argument then some .help
    else if argument = "--partial" then draft.acceptOpening.bind (read · rest)
    else if isOption argument then none
    else (draft.positional argument).bind (read · rest)

/-- Reads the arguments of the program. Nothing is a usage error. -/
def ofArguments (arguments : List String) : Option Command := read .empty arguments

def versionText : String := "descent 0.1.0\n"

/-- The output of a command, where its grammar answers. The words of the help are not settled here. -/
def output : Command → Option Output
  | .version => some ⟨0, versionText, ""⟩
  | .help => none
  | .report sample input demand =>
    (sample.report demand input.toList).map fun
      | .ok text => ⟨0, text ++ "\n", ""⟩
      | .error failure => ⟨1, "", failure.text⟩

end Command
end Backtrack
