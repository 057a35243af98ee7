import PlanetScript.Settings.Basic

/-! # Invocations

What the command line can ask for: the snapshot of a script, with sprites bound to ids, or
the texture of one id.
-/
namespace PlanetScript

/-- The choices that both commands take. -/
structure ReadOptions where
  /-- The path of a settings file. -/
  settingsFile : Option Text := none
  blockScope : Option BlockScope := none
  numberStyle : Option NumberStyle := none
deriving DecidableEq

/-- A command with its arguments. -/
inductive Command where
  /-- Prints the snapshot of a script; the sprites that are bound are dressed on the way. -/
  | inspect (script : Text) (options : ReadOptions) (bindings : List (Text × Text))
  /-- Prints the texture of an id. -/
  | texture (script id : Text) (options : ReadOptions)
deriving DecidableEq

/-- A whole command line. -/
structure Invocation where
  verbose : Bool := false
  command : Command
deriving DecidableEq

/-- Why a command line is not carried out. -/
inductive UsageFault where
  | invalidValue
  | unknownArgument
  | unknownCommand
  /-- A binding is malformed. -/
  | malformedBinding (raw : Text)
  /-- An argument is given twice. -/
  | repeatedArgument
  /-- A flag is given a value. -/
  | unexpectedValue
  | missingArgument
  | missingCommand
  /-- Help was asked for. -/
  | help
  /-- Nothing was asked for, which is answered by help. -/
  | nothingAsked
  /-- The version was asked for. -/
  | version
deriving DecidableEq

/-- The name of a scope on the command line. -/
def BlockScope.flagValue : BlockScope → Text
  | .sticky => "sticky".toList
  | .resetAfterContent => "reset-after-content".toList

/-- The name of a number style on the command line. -/
def NumberStyle.flagValue : NumberStyle → Text
  | .strictInteger => "strict-integer".toList
  | .lenient => "lenient".toList

end PlanetScript
