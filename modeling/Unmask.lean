import Unmask.Json.Parser
import Unmask.Json.Printer
import Unmask.Json.Decode
import Unmask.Text.Display
import Unmask.Base64
import Unmask.Decimal.Shortest
import Unmask.Decimal.Rounding
import Unmask.Value
import Unmask.IL.Signature
import Unmask.Wire.Module
import Unmask.Module.Edit
import Unmask.Module.Resolve
import Unmask.Module.Stack
import Unmask.Engine
import Unmask.Host.Scripted
import Unmask.Files.Program
import Unmask.Main
import Unmask.Proofs.Module.Edit
import Unmask.Proofs.Module.Replace
import Unmask.Proofs.Module.Nesting
import Unmask.Proofs.Module.Reduce
import Unmask.Proofs.Module.Frame
import Unmask.Proofs.Module.Offers
import Unmask.Proofs.Module.Execution
import Unmask.Proofs.Module.Bodies
import Unmask.Proofs.Module.Depth
import Unmask.Proofs.Module.Enclosing
import Unmask.Proofs.Module.Loops
import Unmask.Proofs.Module.Removal
import Unmask.Proofs.Module.Resolution
import Unmask.Proofs.Module.Stack
import Unmask.Proofs.Proxy.Run
import Unmask.Proofs.Proxy.Journal
import Unmask.Proofs.Proxy.Redirect
import Unmask.Proofs.Proxy.Dangling
import Unmask.Proofs.Proxy.Targets
import Unmask.Proofs.Proxy.Turns
import Unmask.Proofs.Proxy.Report
import Unmask.Proofs.Proxy.Nested
import Unmask.Proofs.Proxy.Stack
import Unmask.Proofs.Proxy.Idle
import Unmask.Proofs.Proxy.Again
import Unmask.Proofs.Decrypt.Literal
import Unmask.Proofs.Decrypt.Helper
import Unmask.Proofs.Decrypt.Frame
import Unmask.Proofs.Decrypt.Processed
import Unmask.Proofs.Decrypt.Sites
import Unmask.Proofs.Decrypt.Uncached
import Unmask.Proofs.Decrypt.Cache
import Unmask.Proofs.Engine.Slots
import Unmask.Proofs.Engine.Frame
import Unmask.Proofs.Text.Utf16
import Unmask.Proofs.Text.Surrogates
import Unmask.Proofs.Wire.Instruction
import Unmask.Proofs.Wire.Module
import Unmask.Proofs.Decrypt.Ledger
import Unmask.Proofs.Decrypt.Accounts
import Unmask.Proofs.Decrypt.Stack
import Unmask.Proofs.Decrypt.Flag
import Unmask.Proofs.Decrypt.Turns
import Unmask.Proofs.Decrypt.Steady
import Unmask.Proofs.Decrypt.Rerun
import Unmask.Proofs.Engine.Changes
import Unmask.Proofs.Engine.Simulation
import Unmask.Proofs.Engine.Failures
import Unmask.Proofs.Module.Recode
import Unmask.Proofs.Module.Encoding
import Unmask.Proofs.Json.Printer
import Unmask.Proofs.Host.Deterministic
import Unmask.Proofs.Host.Transcript
import Unmask.Proofs.Decrypt.Course
import Unmask.Proofs.Decrypt.Inquiry
import Unmask.Proofs.Decrypt.FloatSites
import Unmask.Proofs.Decrypt.Asked
import Unmask.Proofs.Decrypt.Argument
import Unmask.Proofs.Decrypt.Encoding
import Unmask.Proofs.Proxy.Encoding
import Unmask.Proofs.Engine.Encoding
import Unmask.Proofs.Bridge.Channel
import Unmask.Proofs.Bridge.Operations
import Unmask.Proofs.Bridge.Session
import Unmask.Proofs.Command.Writes
