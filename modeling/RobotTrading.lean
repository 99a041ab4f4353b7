import RobotTrading.Binary.Basic
import RobotTrading.Binary.Shortest
import RobotTrading.Decimal.Basic
import RobotTrading.Decimal.Text
import RobotTrading.Decimal.Arith
import RobotTrading.Text.Basic
import RobotTrading.Text.Cased
import RobotTrading.Text.CaseIgnorable
import RobotTrading.Text.Case
import RobotTrading.Json.Basic
import RobotTrading.Json.Read
import RobotTrading.Time.Instant
import RobotTrading.Time.Read
import RobotTrading.Market.Basic
import RobotTrading.Market.Price
import RobotTrading.Market.Codec
import RobotTrading.Robot.Basic
import RobotTrading.Robot.Codec
import RobotTrading.Membership
import RobotTrading.Deal.Machine
import RobotTrading.Deal.Codec
import RobotTrading.Reconcile.Plan
import RobotTrading.Config.Basic
import RobotTrading.Config.Load
import RobotTrading.Store.Memory
import RobotTrading.Feed.RandomWalk
import RobotTrading.Updates.Ring
import RobotTrading.Trading.Client
import RobotTrading.Reconcile.Pass
import RobotTrading.Service.Fault
import RobotTrading.Service.Request
import RobotTrading.Service.Records
import RobotTrading.Service.Trading
import RobotTrading.Service.Settings
import RobotTrading.Service.Storage
import RobotTrading.Service.Feeds
import RobotTrading.Service.Viewers
import RobotTrading.Service.Clients
import RobotTrading.Service.Reconciling
import RobotTrading.Service.Respond
import RobotTrading.Concurrency.Queue
import RobotTrading.Concurrency.Reply
import RobotTrading.Concurrency.Lock
import RobotTrading.Concurrency.Token
import RobotTrading.Concurrency.Timer
import RobotTrading.Feed.Scripted
import RobotTrading.Engine.World
import RobotTrading.Engine.Worker
import RobotTrading.Engine.Hub
import RobotTrading.Engine.Reconciler
import RobotTrading.Engine.Scheduler
import RobotTrading.Engine.Session
import RobotTrading.Service.Engine
import RobotTrading.Service.Daemon
import RobotTrading.Main
import RobotTrading.Proofs.Decimal.Value
import RobotTrading.Proofs.Deal.Run
import RobotTrading.Proofs.Market.Positive
import RobotTrading.Proofs.Reconcile.Plan
import RobotTrading.Proofs.Engine.Workers
import RobotTrading.Proofs.Engine.Sequential
import RobotTrading.Proofs.Engine.Attachment
import RobotTrading.Proofs.Engine.Trading
import RobotTrading.Proofs.Concurrency.Token
import RobotTrading.Proofs.Engine.Shape
import RobotTrading.Proofs.Engine.Streams
import RobotTrading.Proofs.Engine.Streaming
import RobotTrading.Proofs.Engine.Coherent
import RobotTrading.Proofs.Engine.Coherent.Reconciler
import RobotTrading.Proofs.Engine.Coherent.Worker
import RobotTrading.Proofs.Engine.StreamSteps
import RobotTrading.Proofs.Engine.WorkerSteps
import RobotTrading.Proofs.Engine.StreamRuns
import RobotTrading.Proofs.Engine.Readers
import RobotTrading.Proofs.Engine.Registry
import RobotTrading.Proofs.Engine.Coherent.Hub
import RobotTrading.Proofs.Deal.Tick
import RobotTrading.Proofs.Engine.Membership
import RobotTrading.Proofs.Reconcile.Pass
import RobotTrading.Proofs.Store.Table
import RobotTrading.Proofs.Config.Checks
import RobotTrading.Proofs.Text.UpperCase
import RobotTrading.Proofs.Market.SymbolForm
import RobotTrading.Proofs.Trading.Client
import RobotTrading.Proofs.Engine.Coherent.Run
import RobotTrading.Proofs.Deal.RoundTrip
import RobotTrading.Proofs.Membership.Partition
import RobotTrading.Proofs.Reconcile.Groups
import RobotTrading.Proofs.Decimal.Sum
import RobotTrading.Proofs.Robot.Record
import RobotTrading.Proofs.Market.SymbolOrder
import RobotTrading.Proofs.Feed.Quiet
import RobotTrading.Proofs.Feed.Senders
import RobotTrading.Proofs.Feed.Spec
import RobotTrading.Proofs.Feed.Contract
import RobotTrading.Proofs.Decimal.Rounding
import RobotTrading.Proofs.Decimal.Half
import RobotTrading.Proofs.Feed.Quotes
