import BoardLink.Contention
import BoardLink.Main
import BoardLink.StatusSlot
import BoardLink.Transport.Sink
import BoardLink.Proofs.Bench.Calls
import BoardLink.Proofs.Session.Run
import BoardLink.Proofs.Wire.Normalize
import BoardLink.Proofs.Session.Lifecycle
import BoardLink.Proofs.Contention.Steps
import BoardLink.Proofs.Contention.Orderly
import BoardLink.Proofs.Contention.TakingTurns
import BoardLink.Proofs.Wire.Verdict
import BoardLink.Proofs.Wire.Reply
import BoardLink.Proofs.Message.Codec
import BoardLink.Proofs.Text.Ascii
import BoardLink.Proofs.Value.Spelling
import BoardLink.Proofs.Device.Registers
import BoardLink.Proofs.Device.Respond
import BoardLink.Proofs.Device.Answers
import BoardLink.Proofs.Session.Registers
import BoardLink.Proofs.Message.Reading
import BoardLink.Proofs.Value.Timestamp
import BoardLink.Proofs.Bench.Endings
import BoardLink.Proofs.StatusSlot.Agreement
import BoardLink.Proofs.Contention.LampHistory
import BoardLink.Proofs.Wire.Stream
import BoardLink.Proofs.Message.Requests
import BoardLink.Proofs.Message.Payloads
import BoardLink.Proofs.Session.LampLock
import BoardLink.Proofs.StatusSlot.SharedSlot
import BoardLink.Proofs.Device.Handling
import BoardLink.Proofs.Session.BatteryJudging
import BoardLink.Proofs.Text.Numerals
import BoardLink.Proofs.Text.Utf8
import BoardLink.Proofs.Toml.Document
import BoardLink.Proofs.Settings.Document
import BoardLink.Proofs.Files.Writing
import BoardLink.Proofs.Settings.Saving
import BoardLink.Proofs.Hardware.Dispatch
import BoardLink.Proofs.Session.ClockWrite
import BoardLink.Proofs.Calendar.ClockText
import BoardLink.Proofs.Value.ColorText
import BoardLink.Proofs.Session.LampColor
import BoardLink.Proofs.Bench.OpenConnections
import BoardLink.Proofs.Settings.InUse
import BoardLink.Proofs.Session.Metadata
import BoardLink.Proofs.Wire.Segments
import BoardLink.Proofs.Wire.ShortWrites
import BoardLink.Proofs.Json.Grammar
import BoardLink.Proofs.Hardware.Attempts
import BoardLink.Proofs.CommandLine.Readings
import BoardLink.Proofs.CommandLine.Ending
import BoardLink.Proofs.CommandLine.JsonOutput
import BoardLink.Proofs.Settings.Layers
import BoardLink.Proofs.Settings.Canonical
import BoardLink.Proofs.Text.Letters
import BoardLink.Proofs.CommandLine.Names
import BoardLink.Proofs.CommandLine.LampNumbers
import BoardLink.Proofs.Files.Below
import BoardLink.Proofs.DigitalInputs.Exports
import BoardLink.Proofs.Value.VersionText
import BoardLink.Proofs.Json.Forms
import BoardLink.Proofs.Contention.Undisturbed
