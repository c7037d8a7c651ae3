/-! What the commands are given to work with.

A command says which options it has and marks up what it prints. How arguments are sorted
into options and values, and what is seen of marked-up text, it leaves to a console. -/
namespace ObjectModule.CommandLine

/-! ### Options -/

/-- What an option asks for. -/
inductive Switch where
  | verbose
  | version
  | help
  | config
  | base
  | maxFill
  | limit
deriving DecidableEq, Repr

/-- Whether an option must have a value. -/
def Switch.takesValue : Switch → Bool
  | verbose | version | help => false
  | config | base | maxFill | limit => true

/-- An option as it may be written. -/
structure OptionForm where
  long : String
  letter : Option Char := none
  switch : Switch

/-- The options given, in order, each with its value if it takes one, and the
arguments that are not options. -/
structure Given where
  switches : List (Switch × String) := []
  rest : List String := []
deriving Repr

namespace Given

/-- How often an option was given. -/
def count (g : Given) (switch : Switch) : Nat := (g.switches.filter (·.1 = switch)).length

/-- The last value given for an option. -/
def value? (g : Given) (switch : Switch) : Option String :=
  (g.switches.reverse.find? (·.1 = switch)).map Prod.snd

/-- Whether an option was given before another. -/
def isFirst (g : Given) (switch other : Switch) : Bool :=
  (g.switches.find? fun (s, _) => s = switch || s = other).any (·.1 = switch)

end Given

/-! ### Consoles -/

/-- What reads command lines and shows marked-up text. A tag, a word in square brackets,
opens a style, which the same word behind a slash closes. -/
class Console where
  /-- Sorts a command line into options and arguments, unless it is not made of the forms.
  Options end at the first argument unless they may stand `anywhere`. -/
  parse? (forms : List OptionForm) (anywhere : Bool) (arguments : List String) : Option Given
  /-- A complaint about a command line as it is shown. -/
  complaint (text : String) : String
  /-- What there is to see of marked-up text; nothing if a tag closes a style that is not
  open. -/
  plain? (text : String) : Option String
  /-- Text prepared so that nothing in it is taken for a tag. -/
  escaped (text : String) : String

/-- Marked-up text in a style. -/
def styled (style text : String) : String := s!"[{style}]{text}[/{style}]"

end ObjectModule.CommandLine
