import ObjectModule.PlainConsole.Arguments
import ObjectModule.PlainConsole.ControlSequence
import ObjectModule.PlainConsole.Markup

/-! A console to run with.

The commands are about every console. To be run they need one; this one shows text
without its colours. -/
namespace ObjectModule.PlainConsole
open CommandLine

/-- A console that shows plain text. -/
scoped instance console : Console where
  parse? := parse?
  complaint := ControlSequence.shown
  plain? := Markup.plain?
  escaped := Markup.escaped

end ObjectModule.PlainConsole
