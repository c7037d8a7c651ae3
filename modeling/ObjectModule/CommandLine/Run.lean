import ObjectModule.CommandLine.Output
import ObjectModule.CommandLine.Path
import ObjectModule.Settings
import ObjectModule.Text.Integer

/-! The command line.

`info`, `segments`, `layout` and `dump` each load a module and print something
about it. Options in front of the command say how to load it; `-v` and `-vv` lower
the level of the events shown. A command line that cannot be understood ends with
status two, a module that cannot be loaded or dumped with status one. The file
system enters as a function from paths to what is there, so a run is a value like
any other. -/
namespace ObjectModule.CommandLine
variable [Machine] [Console]

/-- What may be found at a path. -/
inductive Entry where
  | file (content : Bytes)
  | directory
  /-- The path cannot be followed, because a part of it is too long. -/
  | unreachable

/-- What is found at each path. -/
abbrev Files := String → Option Entry

/-- A failure that no command provides for. -/
inductive Fault where
  | settings (error : SettingsError)
  /-- A configuration file that is not text. -/
  | notText
  /-- A directory in place of a file. -/
  | directory
  /-- A configuration file whose path cannot be followed. -/
  | unreachable
  /-- A path that no file can have. -/
  | impossiblePath
  /-- A setting that is not of the kind its use requires. -/
  | mistypedSetting
  /-- A base address of a kind that cannot be written as an address. -/
  | unwritableBase (kind : String)
  /-- A tag, in what is to be printed, that closes a style which is not open. -/
  | strayTag
  | failed (error : Error)

/-- Why a run ends before its command is done. -/
inductive Stop where
  /-- The command line cannot be understood; a complaint about a value is kept. -/
  | misuse (complaint : Option String)
  /-- Something was asked for that is shown at once. -/
  | shown (text : String)
  /-- The command cannot do what it is asked, and says so. -/
  | refused (message : String)
  | fault (fault : Fault)

/-- The end of a run with a message, which is marked up like all that is printed. -/
def Stop.refusal (message : String) : Stop :=
  match Console.plain? (styled "red" message) with
  | some text => .refused text
  | none => .fault .strayTag

/-- The end of a run with a complaint about the command line. -/
def Stop.complaint (text : String) : Stop := .misuse (some (Console.complaint text))

/-- A run with all its events, and the level from which on they are shown. -/
structure Run where
  threshold : Level
  outcome : Logged Stop Output

/-- The events shown. -/
def Run.shownLog (r : Run) : List Event := r.outcome.log.filter (·.reaches r.threshold)

/-! ### Options -/

/-- The options in front of the command. -/
def leadingForms : List OptionForm := [
  ⟨"--verbose", some 'v', .verbose⟩, ⟨"--version", none, .version⟩, ⟨"--help", none, .help⟩,
  ⟨"--config", none, .config⟩, ⟨"--base", none, .base⟩, ⟨"--max-fill", none, .maxFill⟩]

/-- The options of every command. -/
def commandForms : List OptionForm := [⟨"--help", none, .help⟩]

/-- The options of the dump command. -/
def dumpForms : List OptionForm := ⟨"--limit", some 'n', .limit⟩ :: commandForms

/-- The text shown for the version. -/
def versionText : String := "omfkit, version 0.1.0\n"

/-- Stops if help or the version is asked for, whichever comes first. -/
def answerQuestions (given : Given) : Logged Stop Unit :=
  match given.switches.find? fun (s, _) => s = .version || s = .help with
  | some (.version, _) => throw (.shown versionText)
  | some _ => throw (.shown "")
  | none => pure ()

/-- The level from which on events are shown. -/
def thresholdFor (given : Given) : Level :=
  match given.count .verbose with
  | 0 => .warning
  | 1 => .info
  | _ => .debug

/-- The value of an option that must be a decimal integer. -/
def decimalValue (given : Given) (switch : Switch) : Logged Stop (Option Int) :=
  match given.value? switch with
  | none => pure none
  | some text =>
    match Text.decimalInteger? text with
    | some n => pure (some n)
    | none => throw (.misuse none)

/-! ### Settings -/

/-- The settings of a configuration file, or the usual ones without one. -/
def readSettings (files : Files) : Option String → Logged Stop Settings
  | none => pure {}
  | some path => do
    let lift (read : Logged SettingsError Settings) : Logged Stop Settings :=
      ⟨read.result.mapError fun e => .fault (.settings e), read.log⟩
    match files (Path.normal path) with
    | none => lift (Settings.missing (Path.normal path))
    | some .directory => throw (.fault .directory)
    | some .unreachable => throw (.fault .unreachable)
    | some (.file content) =>
      match String.fromUTF8? (ByteArray.mk content.toArray) with
      | none => throw (.fault .notText)
      | some text => lift (Settings.parse text)

/-- The settings with those given on the command line in place. -/
def overrideSettings (given : Given) (maxFill : Option Int) (settings : Settings) :
    Logged Stop Settings := do
  let settings ←
    match given.value? .base with
    | none => pure settings
    | some text =>
      match Text.freeInteger? text with
      | some n => pure { settings with baseAddress := .integer n }
      | none => throw (.complaint s!"Invalid value for --base: Invalid address: {text}")
  match maxFill with
  | none => return settings
  | some n => return { settings with maxFill := .integer n }

/-! ### Loading -/

/-- The end of a run that a module at a path could not be loaded in. -/
def Stop.ofLoad (path : String) (e : Error) : Stop :=
  if e.isModuleFault then .refusal s!"Failed to load {path}: {e.message}" else .fault (.failed e)

/-- The outcome of loading as an outcome of the run. -/
def duringLoad {α : Type} (path : String) (load : Logged Error α) : Logged Stop α :=
  ⟨load.result.mapError (.ofLoad path), load.log⟩

/-- The alignment that settings force on the segments of a module, of which `s` is the
first that has to be placed. -/
def alignOverrideFor (settings : Settings) (path : String) (s : Segment) :
    Logged Stop (Option Int) :=
  match Settings.forcedAlignment settings.alignOverride with
  | .none => pure none
  | .code n => pure (some n)
  | .unsupported text =>
    throw (.ofLoad path (.format (.unsupportedAlignment text s.displayName)))
  | .mistyped => throw (.fault .mistypedSetting)

/-- The options that settings amount to. A widest gap that is no number is never wide
enough. Where to place segments matters only if there is one to be placed; then the
first of them shows what is wrong with the alignment before the base address is
used. -/
def optionsFor (settings : Settings) (path : String) (c : Contents) : Logged Stop Options := do
  let maxFill := (Settings.widestGap? settings.maxFill).getD (-1)
  let base := Settings.integer? settings.baseAddress
  match c.segments.find? fun s => !s.attributes.isAbsolute with
  | none => return { maxFill, baseAddress := base.getD 0 }
  | some s =>
    let alignOverride ← alignOverrideFor settings path s
    match base, (Segment.relocate 0 alignOverride).run s with
    | some baseAddress, _ => return { maxFill, baseAddress, alignOverride }
    | none, .error e _ => throw (.ofLoad path e)
    | none, .ok .. => throw (.fault .mistypedSetting)

/-- Loads a module. -/
def loadModule (files : Files) (settings : Settings) (path : String) : Logged Stop Module := do
  match files path with
  | none | some .unreachable => throw (.misuse none)
  | some .directory => throw (.fault .directory)
  | some (.file content) =>
    let contents ← duringLoad path (Contents.ofBytes content)
    let options ← optionsFor settings path contents
    duringLoad path (Module.ofContents contents (Path.normal path) options)

/-! ### Commands -/

/-- The commands. -/
inductive Command where
  | info
  | segments
  | layout
  | dump
deriving DecidableEq, Repr

/-- The command of a name. -/
def Command.ofName? : String → Option Command
  | "info" => some info
  | "segments" => some segments
  | "layout" => some layout
  | "dump" => some dump
  | _ => none

/-- The options a command has. -/
def Command.forms : Command → List OptionForm
  | dump => dumpForms
  | _ => commandForms

/-- The segment of a name or, if there is none, of a number counted from zero. -/
def findSegment? (m : Module) (target : String) : Option Segment :=
  match m.segmentNamed? target with
  | some (_, s) => some s
  | none => do
    let number ← Text.freeInteger? target
    if number < 0 then none else m.segments[number.toNat]?

/-- Dumps a segment: `limit` bytes of it, or all if the limit is not above zero. -/
def dumpSegment (settings : Settings) (m : Module) (target : String) (limit : Int) :
    Logged Stop Output := do
  let some s := findSegment? m target | throw (.refusal s!"Segment not found: {target}")
  let fresh := ImageStream.ofSegment s m.options.maxFill
  match if 0 < limit then fresh.readAtMost s limit else fresh.readAll s with
  | .error cause st =>
    Logged.notes (st.eventsSince fresh)
    throw (.fault (.failed cause))
  | .ok bytes st =>
    if st.error.isSome ∧ (Settings.widestGap? settings.maxFill).isNone then
      throw (.fault .mistypedSetting)
    Logged.notes (st.eventsSince fresh)
    return dumpOutput s bytes st

/-- What is wrong with a base address that is no integer and has to be written. -/
def baseFault : Json → Fault
  | .decimal _ => .unwritableBase "float"
  | .string _ => .unwritableBase "str"
  | _ => .mistypedSetting

/-- What there is to see of an output. -/
def visible (output : Output) : Logged Stop Output :=
  match output.plain? with
  | some plain => pure plain
  | none => throw (.fault .strayTag)

/-- How many bytes a dump shows if no limit is given. -/
def usualLimit : Int := 256

/-- Runs a command on the arguments behind its name. -/
def Command.run (command : Command) (files : Files) (settings : Settings)
    (arguments : List String) : Logged Stop Output := do
  let some given := Console.parse? command.forms true arguments | throw (.misuse none)
  answerQuestions given
  let limit := (← decimalValue given .limit).getD usualLimit
  if ¬ given.rest.head?.all Path.isPossible then throw (.fault .impossiblePath)
  match command, given.rest with
  | .info, [path] =>
    let m ← loadModule files settings path
    if (Settings.integer? settings.baseAddress).isNone then
      throw (.fault (baseFault settings.baseAddress))
    visible (moduleInfo m (Path.name path))
  | .segments, [path] => visible (segmentTable (← loadModule files settings path))
  | .layout, [path] => visible (layoutTables (← loadModule files settings path))
  | .dump, [path, target] =>
    visible (← dumpSegment settings (← loadModule files settings path) target limit)
  | _, _ => throw (.misuse none)

/-- Refuses the path of a configuration file that no file can have, or that is the
path of a directory. -/
def checkConfig (files : Files) (config : Option String) : Logged Stop Unit := do
  if ¬ config.all Path.isPossible then throw (.fault .impossiblePath)
  if let some .directory := config.bind files then throw (.misuse none)

/-- What a command line does, once its leading options are known. Their values are
looked at in the order in which the options were given. -/
def perform (files : Files) (given : Given) : Logged Stop Output := do
  answerQuestions given
  let config := given.value? .config
  if given.isFirst .maxFill .config then discard (decimalValue given .maxFill)
  checkConfig files config
  let maxFill ← decimalValue given .maxFill
  let name :: arguments := given.rest | throw (.misuse none)
  let some command := Command.ofName? name | throw (.misuse none)
  let settings ← overrideSettings given maxFill (← readSettings files config)
  command.run files settings arguments

/-- Runs a command line. -/
def run (files : Files) (arguments : List String) : Run :=
  match Console.parse? leadingForms false arguments with
  | none => ⟨.warning, throw (.misuse none)⟩
  | some given => ⟨thresholdFor given, perform files given⟩

end ObjectModule.CommandLine
