import ObjectModule.CommandLine.Console

/-! Options and arguments of a command line.

An option has a long name behind two dashes and may have a letter behind one. A
value follows in the next argument, behind an equals sign, or directly behind the
letter; letters without values may share a dash. Two dashes alone end the options,
and a single dash alone is an argument. -/
namespace ObjectModule.PlainConsole
open CommandLine

/-- The options in one argument. The last may still want the next argument as its
value. -/
structure Bundle where
  complete : List (Switch × String)
  wanting : Option Switch

/-- The options of a dash followed by letters. -/
def letters? (forms : List OptionForm) : List Char → Option Bundle
  | [] => some ⟨[], none⟩
  | c :: rest => do
    let form ← forms.find? (·.letter = some c)
    if form.switch.takesValue then
      if rest.isEmpty then return ⟨[], some form.switch⟩
      else return ⟨[(form.switch, String.ofList rest)], none⟩
    else
      let bundle ← letters? forms rest
      return { bundle with complete := (form.switch, "") :: bundle.complete }

/-- The text up to the first equals sign, and the text behind it if there is one. -/
def splitValue (text : List Char) : List Char × Option (List Char) :=
  match text.span (· ≠ '=') with
  | (name, '=' :: value) => (name, some value)
  | (name, _) => (name, none)

/-- The options of an argument that starts with a dash. -/
def bundle? (forms : List OptionForm) (text : List Char) : Option Bundle :=
  let (name, value) := splitValue text
  match forms.find? (·.long = String.ofList name) with
  | some form =>
    if form.switch.takesValue then
      match value with
      | some v => some ⟨[(form.switch, String.ofList v)], none⟩
      | none => some ⟨[], some form.switch⟩
    else if value.isNone then some ⟨[(form.switch, "")], none⟩
    else none
  | none =>
    match text with
    | '-' :: '-' :: _ => none
    | _ => letters? forms (text.drop 1)

/-- Whether an argument is to be read as an option. -/
def isOption (text : List Char) : Bool :=
  match text with
  | '-' :: _ :: _ => true
  | _ => false

/-- Sorts a command line into options and arguments. Options end at the first
argument unless they may stand `anywhere`. -/
def parse? (forms : List OptionForm) (anywhere : Bool) : List String → Option Given
  | [] => some {}
  | argument :: others =>
    if argument = "--" then some { rest := others }
    else if isOption argument.toList then do
      let bundle ← bundle? forms argument.toList
      match bundle.wanting, others with
      | none, others =>
        let given ← parse? forms anywhere others
        return { given with switches := bundle.complete ++ given.switches }
      | some switch, value :: others =>
        let given ← parse? forms anywhere others
        return { given with switches := bundle.complete ++ (switch, value) :: given.switches }
      | some _, [] => none
    else if anywhere then do
      let given ← parse? forms anywhere others
      return { given with rest := argument :: given.rest }
    else some { rest := argument :: others }

end ObjectModule.PlainConsole
