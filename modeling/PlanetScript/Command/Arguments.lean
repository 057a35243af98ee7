import PlanetScript.Command.Invocation
import PlanetScript.Text.Quoted

/-! # Reading a command line

Arguments are read from left to right.  Before the command's name only flags may stand;
after it come positional arguments, flags and options in any order, and `--` makes all that
follows positional.

The value of an option or of a positional argument is held back: it is checked when the
next flag, option or positional argument takes effect, or at the end.  So an argument that
no one knows is reported before an ill value in front of it.
-/
namespace PlanetScript
open Text

/-- A binding `NAME=ID`, neither part of which may be empty. -/
def readBinding? (raw : Text) : Option (Text × Text) :=
  match raw.takeWhile (· != '='), raw.dropWhile (· != '=') with
  | name, '=' :: id => if name = [] ∨ id = [] then none else some (name, id)
  | _, _ => none

/-- What a malformed binding is answered. -/
def bindingMessage (raw : Text) : Text := "expected NAME=ID, got ".toList ++ quote raw

/-- The commands by name. -/
inductive CommandName where
  | inspect
  | texture
deriving DecidableEq, Repr

namespace CommandName

/-- The command with a name. -/
def ofText? (t : Text) : Option CommandName :=
  if t = "inspect".toList then some .inspect
  else if t = "texture".toList then some .texture
  else none

end CommandName

/-- The arguments of a command that have a value. -/
inductive Slot where
  | script
  | id
  | settings
  | blockScope
  | numberStyle
  | binding
deriving DecidableEq, Repr

/-- What a command line has given so far. -/
structure Given where
  verbose : Bool := false
  script : Option Text := none
  id : Option Text := none
  options : ReadOptions := {}
  bindings : List (Text × Text) := []
deriving DecidableEq

/-- A slot whose value has not been checked, with the value if it has come. -/
structure Held where
  slot : Slot
  value : Option Text
deriving DecidableEq

/-- The state between two arguments of a command. -/
structure ArgumentState where
  given : Given := {}
  held : Option Held := none
  /-- How many positional arguments have come. -/
  positionals : Nat := 0
  /-- Whether `--` has come. -/
  onlyPositionals : Bool := false
deriving DecidableEq

/-- A value for something that can be given only once. -/
def once {α : Type} (given : Option α) (value : Option α) : Except UsageFault (Option α) :=
  if given.isSome then .error .repeatedArgument
  else
    match value with
    | some a => .ok (some a)
    | none => .error .invalidValue

namespace Given

/-- Takes the verbose flag. -/
def beVerbose (g : Given) : Except UsageFault Given :=
  if g.verbose then .error .repeatedArgument else .ok { g with verbose := true }

/-- Takes the value of a slot. -/
def take (g : Given) (slot : Slot) (value : Text) : Except UsageFault Given :=
  match slot with
  | .script => do .ok { g with script := ← once g.script (nonEmpty? value) }
  | .id => do .ok { g with id := ← once g.id (some value) }
  | .settings => do
    let file ← once g.options.settingsFile (nonEmpty? value)
    .ok { g with options := { g.options with settingsFile := file } }
  | .blockScope => do
    let scope := BlockScope.all.find? fun scope => scope.flagValue = value
    .ok { g with options := { g.options with blockScope := ← once g.options.blockScope scope } }
  | .numberStyle => do
    let style := NumberStyle.all.find? fun style => style.flagValue = value
    .ok { g with options := { g.options with numberStyle := ← once g.options.numberStyle style } }
  | .binding =>
    match readBinding? value with
    | some binding => .ok { g with bindings := g.bindings ++ [binding] }
    | none => .error (.malformedBinding value)

end Given

namespace CommandName

/-- The slots of the positional arguments. -/
def positionals : CommandName → List Slot
  | .inspect => [.script]
  | .texture => [.script, .id]

/-- The slot of an option. -/
def option? (name : CommandName) (option : Text) : Option Slot :=
  if option = "config".toList then some .settings
  else if option = "block-scope".toList then some .blockScope
  else if option = "numeric".toList then some .numberStyle
  else if name = .inspect ∧ option = "bind".toList then some .binding
  else none

end CommandName

namespace ArgumentState

/-- Checks the value that is held back. -/
def settle (s : ArgumentState) : Except UsageFault ArgumentState :=
  match s.held with
  | none => .ok s
  | some ⟨_, none⟩ => .error .invalidValue
  | some ⟨slot, some value⟩ => do .ok { s with given := ← s.given.take slot value, held := none }

/-- Takes the verbose flag. -/
def beVerbose (s : ArgumentState) : Except UsageFault ArgumentState := do
  let s ← s.settle
  .ok { s with given := ← s.given.beVerbose }

/-- Answers with help, once what stands in front of the flag is in order. -/
def askHelp (s : ArgumentState) : Except UsageFault ArgumentState := do
  let _ ← s.settle
  .error .help

/-- Takes a group of one-letter flags. -/
def letters (s : ArgumentState) : Text → Except UsageFault ArgumentState
  | [] => .ok s
  | 'v' :: rest => do (← s.beVerbose).letters rest
  | 'h' :: _ => s.askHelp
  | _ :: _ => .error .unknownArgument

/-- Takes a flag or option by its long name, with the value that is attached to it. -/
def long (s : ArgumentState) (command : CommandName) (name : Text) (value : Option Text) :
    Except UsageFault ArgumentState :=
  if name = "verbose".toList then if value.isSome then .error .unexpectedValue else s.beVerbose
  else if name = "help".toList then if value.isSome then .error .unexpectedValue else s.askHelp
  else
    match command.option? name with
    | none => .error .unknownArgument
    | some slot => do
      let s ← s.settle
      match value with
      | some value => .ok { s with given := ← s.given.take slot value }
      | none => .ok { s with held := some ⟨slot, none⟩ }

/-- Takes a positional argument. -/
def positional (s : ArgumentState) (command : CommandName) (value : Text) :
    Except UsageFault ArgumentState :=
  match command.positionals[s.positionals]? with
  | none => .error .unknownArgument
  | some slot => do
    let s ← s.settle
    .ok { s with held := some ⟨slot, some value⟩, positionals := s.positionals + 1 }

/-- Takes an argument that is neither flag nor option: the value that an option waits for, or
a positional argument. -/
def plain (s : ArgumentState) (command : CommandName) (value : Text) :
    Except UsageFault ArgumentState :=
  match s.held with
  | some ⟨slot, none⟩ => .ok { s with held := some ⟨slot, some value⟩ }
  | _ => s.positional command value

/-- Takes one argument. -/
def step (command : CommandName) (s : ArgumentState) (argument : Text) :
    Except UsageFault ArgumentState :=
  if s.onlyPositionals then s.positional command argument
  else
    match argument with
    | ['-', '-'] => .ok { s with onlyPositionals := true }
    | '-' :: '-' :: rest =>
      let name := rest.takeWhile (· != '=')
      match rest.dropWhile (· != '=') with
      | [] => s.long command name none
      | _ :: value => s.long command name (some value)
    | '-' :: c :: rest => s.letters (c :: rest)
    | _ => s.plain command argument

end ArgumentState

/-- What is still missing from a command's arguments, or the command. -/
def Given.command (g : Given) (name : CommandName) : Except UsageFault Command :=
  match name, g.script, g.id with
  | .inspect, some script, _ => .ok (.inspect script g.options g.bindings)
  | .texture, some script, some id => .ok (.texture script id g.options)
  | _, _, _ => .error .missingArgument

/-- Reads the arguments after a command's name. -/
def readCommand (name : CommandName) (arguments : List Text) : Except UsageFault Invocation := do
  let s ← (arguments.foldlM (ArgumentState.step name) {})
  let s ← s.settle
  .ok ⟨s.given.verbose, ← s.given.command name⟩

/-- What the name of a command in the wrong place is answered. -/
def strayWord (afterDashes : Bool) (word : Text) : UsageFault :=
  if afterDashes ∧ ((CommandName.ofText? word).isSome ∨ word = "help".toList) then .unknownArgument
  else .unknownCommand

/-- What asking for help on words is answered: help, when they name a command. -/
def helpOn : List Text → UsageFault
  | [] => .help
  | [word] =>
    if (CommandName.ofText? word).isSome ∨ word = "help".toList then .help else .unknownCommand
  | _ => .unknownCommand

/-- Takes a group of one-letter flags in front of the command's name. -/
def leadingLetters (verbose : Bool) : Text → Except UsageFault Bool
  | [] => .ok verbose
  | 'v' :: rest => if verbose then .error .repeatedArgument else leadingLetters true rest
  | 'h' :: _ => .error .help
  | 'V' :: _ => .error .version
  | _ :: _ => .error .unknownArgument

/-- Takes a flag by its long name in front of the command's name. -/
def leadingLong (verbose : Bool) (name : Text) (hasValue : Bool) : Except UsageFault Bool :=
  if name = "verbose".toList then
    if hasValue then .error .unexpectedValue
    else if verbose then .error .repeatedArgument
    else .ok true
  else if name = "help".toList then .error (if hasValue then .unexpectedValue else .help)
  else if name = "version".toList then .error (if hasValue then .unexpectedValue else .version)
  else .error .unknownArgument

/-- Reads arguments up to the command's name, and the command.  With `afterDashes`, `--` has
come, and no argument can be the command's name any more. -/
def readFrom (verbose afterDashes : Bool) : List Text → Except UsageFault Invocation
  | [] => .error (if verbose then .missingCommand else .nothingAsked)
  | argument :: rest =>
    if afterDashes then .error (strayWord true argument)
    else
      match CommandName.ofText? argument with
      | some name => do
        let invocation ← readCommand name rest
        .ok { invocation with verbose := verbose || invocation.verbose }
      | none =>
        if argument = "help".toList then .error (helpOn rest)
        else
          match argument with
          | ['-', '-'] => readFrom verbose true rest
          | '-' :: '-' :: name => do
            let verbose ← leadingLong verbose (name.takeWhile (· != '=')) (name.contains '=')
            readFrom verbose false rest
          | '-' :: c :: letters => do
            let verbose ← leadingLetters verbose (c :: letters)
            readFrom verbose false rest
          | _ => .error (strayWord false argument)

/-- Reads a command line. -/
def Invocation.read (arguments : List Text) : Except UsageFault Invocation :=
  readFrom false false arguments

end PlanetScript
