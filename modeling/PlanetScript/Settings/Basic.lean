import PlanetScript.Text.Basic

/-! # Settings

Two choices decide how a script is read: how long a block of fields stays open, and how
coordinates are read.  Each choice has a default, and can be given by a settings file and
again by a command line flag.
-/
namespace PlanetScript

/-- How long a block stays open. -/
inductive BlockScope where
  /-- Until another block is opened. -/
  | sticky
  /-- Until one content line was read, so that every field needs its own opener. -/
  | resetAfterContent
deriving DecidableEq, Repr

/-- How a coordinate is read. -/
inductive NumberStyle where
  /-- Integers only; anything else is 0. -/
  | strictInteger
  /-- Any finite number; anything else is 0. -/
  | lenient
deriving DecidableEq, Repr

/-- The choices that decide how a script is read. -/
structure Settings where
  blockScope : BlockScope := .sticky
  numberStyle : NumberStyle := .strictInteger
deriving DecidableEq, Repr

/-- The name of a scope in a settings file. -/
def BlockScope.name : BlockScope → Text
  | .sticky => "sticky".toList
  | .resetAfterContent => "reset_after_content".toList

/-- The name of a number style in a settings file. -/
def NumberStyle.name : NumberStyle → Text
  | .strictInteger => "strict_integer".toList
  | .lenient => "lenient".toList

/-- The scopes that can be named. -/
def BlockScope.all : List BlockScope := [.sticky, .resetAfterContent]

/-- The number styles that can be named. -/
def NumberStyle.all : List NumberStyle := [.strictInteger, .lenient]

/-- Settings with the choices of the command line put over them, one by one. -/
def Settings.override (settings : Settings) (scope : Option BlockScope)
    (style : Option NumberStyle) : Settings :=
  ⟨scope.getD settings.blockScope, style.getD settings.numberStyle⟩

end PlanetScript
