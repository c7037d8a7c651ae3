import ObjectModule.Main
import ObjectModule.Proofs.ImageStream.Reading
import ObjectModule.Proofs.ImageStream.Walk
import ObjectModule.Proofs.ImageStream.Following
import ObjectModule.Proofs.ImageStream.Requests
import ObjectModule.Proofs.ImageStream.Fates
import ObjectModule.Proofs.ImageStream.Composition
import ObjectModule.Proofs.ImageStream.Accounting
import ObjectModule.Proofs.ImageStream.Gaps
import ObjectModule.Proofs.ImageStream.Beyond
import ObjectModule.Proofs.Module.Routing
import ObjectModule.Proofs.Module.Placement
import ObjectModule.Proofs.Record.Expansion
import ObjectModule.Proofs.Record.Framing
import ObjectModule.Proofs.Module.Order
import ObjectModule.Proofs.Module.Numbering
import ObjectModule.Proofs.Module.Swapping
import ObjectModule.Proofs.Record.Faults
import ObjectModule.Proofs.Module.Endings
import ObjectModule.Proofs.ImageStream.Prefixes
import ObjectModule.Proofs.Segment.Life
import ObjectModule.Proofs.Record.Sizes
import ObjectModule.Proofs.Segment.Rights
import ObjectModule.Proofs.Module.Readings
import ObjectModule.Proofs.Record.Splitting
import ObjectModule.Proofs.Record.Bodies
import ObjectModule.Proofs.ImageStream.Sharing
import ObjectModule.Proofs.ImageStream.Losses
import ObjectModule.Proofs.ImageStream.Dropping
import ObjectModule.Proofs.Record.Definition
import ObjectModule.Proofs.Module.Unread
import ObjectModule.Proofs.Module.Shifting
import ObjectModule.Proofs.Module.FirstFault
import ObjectModule.Proofs.Segment.Relocation
import ObjectModule.Proofs.Segment.Extent
import ObjectModule.Proofs.Segment.Nonzero
import ObjectModule.Proofs.Module.Addresses
import ObjectModule.Proofs.Module.Amounts
import ObjectModule.Proofs.Text.Hex
import ObjectModule.Proofs.PlainConsole.Markup
import ObjectModule.Proofs.CommandLine.Lines
import ObjectModule.Proofs.CommandLine.Dump
import ObjectModule.Proofs.Module.NameTable
import ObjectModule.Proofs.Settings.Meaning
import ObjectModule.Proofs.ImageStream.Progress
import ObjectModule.Proofs.Record.Consumed
