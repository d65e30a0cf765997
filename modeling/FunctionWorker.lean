import FunctionWorker.Config.Load
import FunctionWorker.Script.Function
import FunctionWorker.Worker.Session
import FunctionWorker.Proofs.Archive.Formats
import FunctionWorker.Proofs.Frame.Payload
import FunctionWorker.Proofs.Frame.Ending
import FunctionWorker.Proofs.World.Run
import FunctionWorker.Proofs.Invocation.Course
import FunctionWorker.Proofs.Invocation.Response
import FunctionWorker.Proofs.World.Registrations
import FunctionWorker.Proofs.World.Scopes
import FunctionWorker.Proofs.Invocation.Pipeline
import FunctionWorker.Proofs.World.Disposal
import FunctionWorker.Proofs.Invocation.Release
import FunctionWorker.Proofs.World.History
import FunctionWorker.Proofs.Invocation.Ownership
import FunctionWorker.Proofs.Invocation.Order
import FunctionWorker.Proofs.Bridge.Termination
import FunctionWorker.Proofs.Bridge.Delivery
import FunctionWorker.Proofs.Worker.Lifecycle
import FunctionWorker.Proofs.Bridge.Misfit
import FunctionWorker.Proofs.World.Remains
import FunctionWorker.Proofs.Conversion.Exchange
import FunctionWorker.Proofs.Invocation.Outputs
import FunctionWorker.Proofs.Worker.Answers
import FunctionWorker.Proofs.Worker.Settings
import FunctionWorker.Proofs.Worker.Loading
import FunctionWorker.Proofs.Worker.OutputParameters
import FunctionWorker.Proofs.Conversion.Content
import FunctionWorker.Proofs.Json.Strings
import FunctionWorker.Proofs.Json.Numbers
import FunctionWorker.Proofs.Json.RoundTrip
import FunctionWorker.Proofs.Frame.Encoding
import FunctionWorker.Proofs.Archive.Economy
import FunctionWorker.Proofs.Frame.Economy
import FunctionWorker.Proofs.Json.Records
import FunctionWorker.Proofs.Worker.RawBindings
import FunctionWorker.Proofs.Bridge.Versions
import FunctionWorker.Proofs.Conversion.Order
import FunctionWorker.Proofs.World.Lifetime
import FunctionWorker.Proofs.Invocation.Binding
import FunctionWorker.Proofs.Invocation.Nesting
import FunctionWorker.Proofs.Double.Rounding
import FunctionWorker.Proofs.Double.Text
import FunctionWorker.Proofs.Conversion.Doubles
import FunctionWorker.Proofs.Function.Arguments
import FunctionWorker.Proofs.World.Services
import FunctionWorker.Proofs.Conversion.Resolution
import FunctionWorker.Proofs.Frame.Header
