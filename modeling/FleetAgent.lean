import FleetAgent.Agent.Bootstrap
import FleetAgent.Agent.CommandLine
import FleetAgent.Agent.PidFile
import FleetAgent.Agent.Program
import FleetAgent.Agent.Run
import FleetAgent.Agent.Shutdown
import FleetAgent.Cipher.ChaCha20
import FleetAgent.Cipher.Poly1305
import FleetAgent.Cipher.Sealing
import FleetAgent.Cipher.Sha256
import FleetAgent.Cipher.Words
import FleetAgent.Codec.Frame
import FleetAgent.Codec.Key
import FleetAgent.Control.Backoff
import FleetAgent.Control.Connecting
import FleetAgent.Control.Failure
import FleetAgent.Control.Link
import FleetAgent.Control.Message
import FleetAgent.Control.Pool
import FleetAgent.Control.Retry
import FleetAgent.Control.Target
import FleetAgent.FileTree.Basic
import FleetAgent.FileTree.Calls
import FleetAgent.FileTree.Make
import FleetAgent.FileTree.Replace
import FleetAgent.Found
import FleetAgent.Host
import FleetAgent.Json.Fault
import FleetAgent.Json.Number
import FleetAgent.Json.Reader
import FleetAgent.Json.Record
import FleetAgent.Json.Text
import FleetAgent.Json.Value
import FleetAgent.Locations
import FleetAgent.Log.Client
import FleetAgent.Log.Directive
import FleetAgent.Log.Event
import FleetAgent.Log.Rotation
import FleetAgent.Log.Verbosity
import FleetAgent.Main
import FleetAgent.Number.Binary64
import FleetAgent.Number.Natural
import FleetAgent.Number.Shortest
import FleetAgent.Path
import FleetAgent.Settings.Basic
import FleetAgent.Settings.Identity
import FleetAgent.Settings.Reading
import FleetAgent.Settings.Rejection
import FleetAgent.Settings.Store
import FleetAgent.Settings.Writing
import FleetAgent.Text.Hex
import FleetAgent.Text.Letters
import FleetAgent.Text.Quoted
import FleetAgent.Text.Ranges
import FleetAgent.Text.Split
import FleetAgent.Text.Strip
import FleetAgent.Time.Clock
import FleetAgent.Time.Span
import FleetAgent.Time.Stamp
import FleetAgent.Yaml.Event
import FleetAgent.Yaml.Glyph
import FleetAgent.Yaml.Meaning
import FleetAgent.Yaml.Node
import FleetAgent.Yaml.Properties
import FleetAgent.Yaml.Reading
import FleetAgent.Yaml.Scalar
import FleetAgent.Yaml.Sheet
import FleetAgent.Yaml.Token
import FleetAgent.Yaml.Writing
import FleetAgent.Proofs.Clock
import FleetAgent.Proofs.RetrySteps
import FleetAgent.Proofs.HostActs
import FleetAgent.Proofs.Acknowledgement
import FleetAgent.Proofs.BootstrapActs
import FleetAgent.Proofs.ElapsedCeiling
import FleetAgent.Proofs.Reports
import FleetAgent.Proofs.StageOrder
import FleetAgent.Proofs.FileFrames
import FleetAgent.Proofs.FilePaths
import FleetAgent.Proofs.FileCalls
import FleetAgent.Proofs.QuietHost
import FleetAgent.Proofs.Interruption
import FleetAgent.Proofs.FilesInOrder
import FleetAgent.Proofs.Replacement
import FleetAgent.Proofs.StoreReading
import FleetAgent.Proofs.StoreFiles
import FleetAgent.Proofs.SheetReading
import FleetAgent.Proofs.StoreReload
import FleetAgent.Proofs.StoreRefusals
import FleetAgent.Proofs.StoreStops
import FleetAgent.Proofs.StoreSessions
import FleetAgent.Proofs.OwnFrames
import FleetAgent.Proofs.RetryAccounting
import FleetAgent.Proofs.ReplyLedger
import FleetAgent.Proofs.DirectoryEntries
import FleetAgent.Proofs.LogFiles
import FleetAgent.Proofs.LogRotation
import FleetAgent.Proofs.LogHistory
import FleetAgent.Proofs.FailedRotation
import FleetAgent.Proofs.KeylessPeer
import FleetAgent.Proofs.MissingDirectories
import FleetAgent.Proofs.RunFootprint
import FleetAgent.Proofs.TreeOutlines
import FleetAgent.Proofs.TwoRuns
import FleetAgent.Proofs.HiddenIdentity
import FleetAgent.Proofs.TwoKeys
import FleetAgent.Proofs.GuardedFile
import FleetAgent.Proofs.HiddenSecret
import FleetAgent.Proofs.Pauses
import FleetAgent.Proofs.AttemptBound
import FleetAgent.Proofs.LongerTime
import FleetAgent.Proofs.FixedWindow
import FleetAgent.Proofs.AlteredFrames
import FleetAgent.Proofs.SecretDigits
import FleetAgent.Proofs.ServedPaths
import FleetAgent.Proofs.TargetAlone
import FleetAgent.Proofs.LoadStages
import FleetAgent.Proofs.LogSizes
import FleetAgent.Proofs.MessageRecords
import FleetAgent.Proofs.AlikeNodes
import FleetAgent.Proofs.EntryOrder
import FleetAgent.Proofs.KnownKeys
import FleetAgent.Proofs.BlankTexts
import FleetAgent.Proofs.TaskQueues
import FleetAgent.Proofs.DialTarget
import FleetAgent.Proofs.RenderedPairs
import FleetAgent.Proofs.LongSpans
