import DueDispatch.Main
import DueDispatch.Pipeline
import DueDispatch.Proofs.Chunks
import DueDispatch.Proofs.Cycle.Balance
import DueDispatch.Proofs.Cycle.Calls
import DueDispatch.Proofs.Cycle.History
import DueDispatch.Proofs.Decimal
import DueDispatch.Proofs.Fleet.Basic
import DueDispatch.Proofs.Fleet.Exclusion
import DueDispatch.Proofs.Fleet.Once
import DueDispatch.Proofs.Fleet.Steady
import DueDispatch.Proofs.Memory.Accounts
import DueDispatch.Proofs.Memory.Backends
import DueDispatch.Proofs.Memory.Effect
import DueDispatch.Proofs.Memory.Leases
import DueDispatch.Proofs.Memory.Queue
import DueDispatch.Proofs.Memory.Rulings
import DueDispatch.Proofs.Schedule.Course
import DueDispatch.Proofs.Schedule.Drain
import DueDispatch.Proofs.Schedule.Jobs
import DueDispatch.Proofs.Schedule.Shutdown
import DueDispatch.Proofs.Schedule.Timers
import DueDispatch.Schedule.Sleepers
import DueDispatch.Service.Run
import DueDispatch.Proofs.Postgres.Claim
import DueDispatch.Proofs.Redis.Entry
import DueDispatch.Proofs.Redis.Grant
import DueDispatch.Proofs.Redis.Traffic
import DueDispatch.Proofs.Service.Traffic
import DueDispatch.Proofs.Service.Safety
import DueDispatch.Proofs.Redis.Leases
import DueDispatch.Proofs.Pipeline.Claims
import DueDispatch.Proofs.Pipeline.ClaimTimes
import DueDispatch.Proofs.Pipeline.Progress
import DueDispatch.Proofs.Pipeline.Backlog
import DueDispatch.Proofs.Pipeline.Chunking
import DueDispatch.Proofs.Schedule.Grid
import DueDispatch.Proofs.Schedule.Pace
import DueDispatch.Proofs.Schedule.Closing
import DueDispatch.Proofs.Schedule.Counts
import DueDispatch.Proofs.Service.Signals
import DueDispatch.Proofs.Grant
import DueDispatch.Proofs.Numerals
import DueDispatch.Proofs.Settings.Config
import DueDispatch.Proofs.Settings.Texts
import DueDispatch.Proofs.Settings.CommandLine
import DueDispatch.Proofs.Schedule.World
import DueDispatch.Proofs.Service.Components
import DueDispatch.Proofs.Service.Notices
import DueDispatch.Proofs.Service.Startup
import DueDispatch.Proofs.Memory.Claim
import DueDispatch.Proofs.Redis.Reply
import DueDispatch.Proofs.Schedule.Record
import DueDispatch.Proofs.Schedule.Load
import DueDispatch.Proofs.Schedule.CountEvents
import DueDispatch.Proofs.Schedule.Cadence
import DueDispatch.Proofs.LeaseKey
import DueDispatch.Proofs.Postgres.Order
import DueDispatch.Proofs.Json
import DueDispatch.Proofs.Redis.EntryText
import DueDispatch.Proofs.Postgres.Tokens
import DueDispatch.Proofs.Service.Tables
