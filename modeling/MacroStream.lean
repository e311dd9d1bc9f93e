import MacroStream.Files.Disk
import MacroStream.Main
import MacroStream.Proofs.AddedDirectories
import MacroStream.Proofs.AppendedTexts
import MacroStream.Proofs.BridgeHistory
import MacroStream.Proofs.CommandNames
import MacroStream.Proofs.CraftTemplate
import MacroStream.Proofs.CursorHistory
import MacroStream.Proofs.NumberedCommands
import MacroStream.Proofs.PrintedCommands
import MacroStream.Proofs.RequiredMacros
import MacroStream.Proofs.Script.CapabilityCalls
import MacroStream.Proofs.Script.EntrypointLines
import MacroStream.Proofs.Script.FilledStrings
import MacroStream.Proofs.Script.Indentation
import MacroStream.Proofs.Script.InterpolatedNames
import MacroStream.Proofs.Script.MacroBodies
import MacroStream.Proofs.Script.MemoryLimits
import MacroStream.Proofs.Script.RegisteredServices
import MacroStream.Proofs.ScriptFailure
import MacroStream.Proofs.SearchDirectory
import MacroStream.Proofs.SiblingSpelling
import MacroStream.Proofs.Text.LineSpans
import MacroStream.Proofs.ValidConfigs
import MacroStream.Proofs.WrittenCommands
