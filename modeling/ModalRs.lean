import ModalRs.Lib.Bytes
import ModalRs.Lib.Loop
import ModalRs.Lib.Cursor
import ModalRs.Rust.Outcome
import ModalRs.Rust.Unicode
import ModalRs.Rust.Parse
import ModalRs.Rust.Float
import ModalRs.Error
import ModalRs.Pickle.Value
import ModalRs.Pickle.Encode
import ModalRs.Pickle.Decode
import ModalRs.Lib.MarkedStack
import ModalRs.Lib.Threads
import ModalRs.Pickle.Reading
import ModalRs.Pickle.Integer
import ModalRs.Pickle.RoundTrip
import ModalRs.Pickle.Exec
import ModalRs.Pickle.Fault
import ModalRs.Pickle.Reference
import ModalRs.Pickle.Simulation
import ModalRs.Lib.Script
import ModalRs.Rust.Time
import ModalRs.Queue.Basic
import ModalRs.Queue.Fifo
import ModalRs.Queue.Iterate
import ModalRs.Transport.AtMostOnce
import ModalRs.Sandbox.StreamedOutput
import ModalRs.Router.Session
import ModalRs.Router.Protocol
import ModalRs.Router.Pinning
import ModalRs.Router.Closing
import ModalRs.Router.Pairing
import ModalRs.Router.Transient
import ModalRs.App
import ModalRs.Rust.HashMap
import ModalRs.Sandbox.Params
import ModalRs.Sandbox.Create
import ModalRs.Transport.Messages
import ModalRs.Sandbox.Wire
import ModalRs.Image.Basic
import ModalRs.Image.Build
import ModalRs.Image.Content
import ModalRs.Image.Wire
import ModalRs.Function.Invocation
import ModalRs.Function.Basic
import ModalRs.Function.Remote
import ModalRs.Lib.PrefixCode
import ModalRs.Lib.SortBy
import ModalRs.Serialization
import ModalRs.Lib.Pagination
import ModalRs.Sandbox.List
import ModalRs.Sandbox.Filesystem
import ModalRs.Sandbox.FileSession
import ModalRs.Pickle.Truncation
import ModalRs.Image.Delivery
import ModalRs.Ephemeral
import ModalRs.Queue.Draining
import ModalRs.Sandbox.Stdin
import ModalRs.Pickle.Errors
import ModalRs.Queue.PutRetry
import ModalRs.Queue.GetDeadline
import ModalRs.Function.Awaiting
import ModalRs.Function.AwaitDeadline
import ModalRs.Function.Failure
import ModalRs.Function.RetryBudget
import ModalRs.Sandbox.FileWrite
import ModalRs.Sandbox.FileWire
import ModalRs.Sandbox.FileOutput
import ModalRs.Pickle.LongInt
import ModalRs.Image.Options
import ModalRs.Image.Refusal
import ModalRs.Image.Copy
import ModalRs.Rust.Text
import ModalRs.Pickle.Canonical
import ModalRs.Sandbox.ModeGrammar
import ModalRs.Rust.Decimal
import ModalRs.Sandbox.GpuString
import ModalRs.Sandbox.CreateSent
import ModalRs.Sandbox.Exec
import ModalRs.Sandbox.TaskId
import ModalRs.Sandbox.ExitCode
import ModalRs.Config
import ModalRs.Router.Expiry
import ModalRs.Lib.Growth
import ModalRs.Pickle.Expansion
import ModalRs.Pickle.Conformance
import ModalRs.Router.Retrying
import ModalRs.Lib.History
import ModalRs.Function.Session
import ModalRs.Named
import ModalRs.Rust.FloatOrder
import ModalRs.Sandbox.Limits
import ModalRs.Cls
import ModalRs.Transport.Keys
import ModalRs.Transport.Layered
import ModalRs.Transport.ExactlyOnce
import ModalRs.Lib.Journal
import ModalRs.Transport.Backend
import ModalRs.Queue.Wired
import ModalRs.Image.Joins
import ModalRs.Function.Planes
