import ObjectModule.Binary64.Shortest
import ObjectModule.Json.Parser
import ObjectModule.Log
import ObjectModule.Options
import ObjectModule.Segment.Attributes
import ObjectModule.Text.Case

/-! Settings: options as a configuration file gives them.

The file holds one JSON object. Its keys may be written with capitals or with
underscores (`maxFill` or `max_fill`); of several spellings of one key the last in
the file counts. Keys that name no option are reported and ignored. Values are taken
as they are, of whatever kind, and matter only where they are used; the second half
of this file says what they amount to then. -/
namespace ObjectModule

/-- The three options, with values of any kind. -/
structure Settings where
  maxFill : Json := .integer 0x2000
  baseAddress : Json := .integer 0
  alignOverride : Json := .null
deriving Repr

/-- What can be wrong with a configuration file as a whole. -/
inductive SettingsError where
  /-- The file is not read as a JSON value. -/
  | unread (cause : Json.ReadError)
  /-- The file holds a value that is not an object. -/
  | notAnObject
deriving DecidableEq, Repr

/-- The wording of a settings error. -/
def SettingsError.message : SettingsError → String
  | unread cause => cause.message
  | notAnObject => "not a JSON object"

namespace Settings

/-- A key with each capital replaced by an underscore and the small letter. -/
def plainKey (key : Text.Codes) : Text.Codes :=
  key.flatMap fun code =>
    match Text.lowered? code with
    | some small => '_'.toNat :: small
    | none => [code]

/-- The keys of the options. -/
def optionKeys : List Text.Codes := ["max_fill", "base_address", "align_override"].map Text.codes

/-- The members of an object under their plain keys. A key met again, in whatever
spelling, keeps its place and takes the new value. -/
def converted (members : List (Text.Codes × Json)) : List (Text.Codes × Json) :=
  members.foldl (fun done (key, value) => Json.insert (plainKey key) value done) []

/-- The plain keys that name no option, in ascending order. -/
def unknownKeys (members : List (Text.Codes × Json)) : List Text.Codes :=
  let keys := (converted members).map Prod.fst
  (keys.filter fun k => !optionKeys.contains k).mergeSort fun k l => !l.lex k

/-- The settings that the members of an object give. -/
def ofMembers (members : List (Text.Codes × Json)) : Settings :=
  let standard : Settings := {}
  let value? (key : String) := (converted members).lookup (Text.codes key)
  { maxFill := (value? "max_fill").getD standard.maxFill
    baseAddress := (value? "base_address").getD standard.baseAddress
    alignOverride := (value? "align_override").getD standard.alignOverride }

/-- Reads the text of a configuration file. -/
def parse (text : String) : Logged SettingsError Settings :=
  match Json.parse text with
  | .error cause => throw (.unread cause)
  | .ok (.object members) => do
    Logged.notes ((unknownKeys members).map .unknownKey)
    return ofMembers members
  | .ok _ => throw .notAnObject

/-- What stands in for a file that does not exist. -/
def missing (path : String) : Logged SettingsError Settings := do
  Logged.note (.configMissing path)
  return {}

/-! ### Use as options -/

/-- The integer a value counts as; truth counts as one and falsehood as zero. -/
def integer? : Json → Option Int
  | .integer n => some n
  | .bool b => some (if b then 1 else 0)
  | _ => none

/-- A gap wider than any a module can have. -/
def boundless : Int := 0x10000000000000000

/-- The widest gap a value allows. A number between integers allows what the integer
below it does. An infinity allows every gap or none, and what is no number forbids
none. -/
def widestGap? : Json → Option Int
  | .decimal x =>
    some <| x.floor?.getD (if x.isNegative then -1 else boundless)
  | value => integer? value

/-- What a value asks of the alignment of segments. -/
inductive ForcedAlignment where
  /-- That every segment keep its own. -/
  | none
  | code (n : Int)
  /-- A number, as it is written, that is equal to no code. -/
  | unsupported (text : String)
  | mistyped
deriving DecidableEq, Repr

/-- What a value asks of the alignment of segments. Floating-point numbers that are
equal to a code are that code, and below zero nothing is asked. -/
def forcedAlignment : Json → ForcedAlignment
  | .null | .decimal .notANumber => .none
  | .decimal x =>
    if x.isNegative then .none
    else
      match x.integer? with
      | some n =>
        if n = 0 ∨ (Alignment.boundary? n).isSome then .code n else .unsupported x.text
      | Option.none => .unsupported x.text
  | value =>
    match integer? value with
    | some n => .code n
    | Option.none => .mistyped

end Settings
end ObjectModule
