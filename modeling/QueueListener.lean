import QueueListener.Acknowledgement
import QueueListener.BackOff
import QueueListener.Broadcast
import QueueListener.Broker.Basic
import QueueListener.Broker.Dispatch
import QueueListener.Broker.Operations
import QueueListener.Broker.Run
import QueueListener.Broker.Settlement
import QueueListener.Client
import QueueListener.Consumer.Desk
import QueueListener.Consumer.Handoff
import QueueListener.Container.Agenda
import QueueListener.Container.Calls
import QueueListener.Container.Closing
import QueueListener.Container.Consume
import QueueListener.Container.Monitor
import QueueListener.Container.Registry
import QueueListener.Container.Run
import QueueListener.Container.Session
import QueueListener.Container.World
import QueueListener.Environment
import QueueListener.Event
import QueueListener.Failure
import QueueListener.Health
import QueueListener.Listener.Call
import QueueListener.Listener.Script
import QueueListener.Message
import QueueListener.Metrics
import QueueListener.Number.Binary64
import QueueListener.Number.Decimal
import QueueListener.Number.Integer
import QueueListener.Proofs.Broker.Accounts
import QueueListener.Proofs.Broker.Channels
import QueueListener.Proofs.Broker.Coherence
import QueueListener.Proofs.Broker.Connections
import QueueListener.Proofs.Broker.Conservation
import QueueListener.Proofs.Broker.Courses
import QueueListener.Proofs.Broker.Dispatch
import QueueListener.Proofs.Broker.Growth
import QueueListener.Proofs.Broker.Hearing
import QueueListener.Proofs.Broker.History
import QueueListener.Proofs.Broker.Independence
import QueueListener.Proofs.Broker.Ledger
import QueueListener.Proofs.Broker.Order
import QueueListener.Proofs.Broker.Refinement
import QueueListener.Proofs.Broker.Registration
import QueueListener.Proofs.Broker.Requeue
import QueueListener.Proofs.Broker.Rotation
import QueueListener.Proofs.Broker.RoundRobin
import QueueListener.Proofs.Broker.Rounds
import QueueListener.Proofs.Broker.Saturation
import QueueListener.Proofs.Broker.Settling
import QueueListener.Proofs.Broker.Shelves
import QueueListener.Proofs.Broker.Stock
import QueueListener.Proofs.Broker.Unserved
import QueueListener.Proofs.Consumer.Batches
import QueueListener.Proofs.Consumer.Conclusion
import QueueListener.Proofs.Consumer.Desk
import QueueListener.Proofs.Consumer.DeskWork
import QueueListener.Proofs.Consumer.Disposition
import QueueListener.Proofs.Consumer.Engagement
import QueueListener.Proofs.Consumer.Entries
import QueueListener.Proofs.Consumer.HandsOff
import QueueListener.Proofs.Consumer.Issuing
import QueueListener.Proofs.Consumer.Keeping
import QueueListener.Proofs.Consumer.Leaving
import QueueListener.Proofs.Consumer.Lines
import QueueListener.Proofs.Consumer.Meters
import QueueListener.Proofs.Consumer.Policy
import QueueListener.Proofs.Consumer.Rejection
import QueueListener.Proofs.Consumer.Requests
import QueueListener.Proofs.Consumer.Returns
import QueueListener.Proofs.Consumer.Shift
import QueueListener.Proofs.Consumer.Transaction
import QueueListener.Proofs.Container.Bystanders
import QueueListener.Proofs.Container.Channels
import QueueListener.Proofs.Container.Connections
import QueueListener.Proofs.Container.Custody
import QueueListener.Proofs.Container.Deadlines
import QueueListener.Proofs.Container.Deeds
import QueueListener.Proofs.Container.Division
import QueueListener.Proofs.Container.Doings
import QueueListener.Proofs.Container.Duties
import QueueListener.Proofs.Container.GivenUp
import QueueListener.Proofs.Container.GivingBack
import QueueListener.Proofs.Container.Halts
import QueueListener.Proofs.Container.Handback
import QueueListener.Proofs.Container.Happenings
import QueueListener.Proofs.Container.Headcount
import QueueListener.Proofs.Container.Hours
import QueueListener.Proofs.Container.IdleEvents
import QueueListener.Proofs.Container.Isolation
import QueueListener.Proofs.Container.Lasting
import QueueListener.Proofs.Container.Lives
import QueueListener.Proofs.Container.Moves
import QueueListener.Proofs.Container.Neighbours
import QueueListener.Proofs.Container.Offices
import QueueListener.Proofs.Container.Opening
import QueueListener.Proofs.Container.Records
import QueueListener.Proofs.Container.Refusals
import QueueListener.Proofs.Container.Registers
import QueueListener.Proofs.Container.Restarts
import QueueListener.Proofs.Container.Reversal
import QueueListener.Proofs.Container.ScaleUps
import QueueListener.Proofs.Container.Scenes
import QueueListener.Proofs.Container.Schedules
import QueueListener.Proofs.Container.Shifts
import QueueListener.Proofs.Container.Standstill
import QueueListener.Proofs.Container.Stillness
import QueueListener.Proofs.Container.Stops
import QueueListener.Proofs.Container.Surrender
import QueueListener.Proofs.Container.Tending
import QueueListener.Proofs.Container.Tidings
import QueueListener.Proofs.Container.Turns
import QueueListener.Proofs.Container.Upkeep
import QueueListener.Proofs.Container.Voices
import QueueListener.Proofs.Container.Waking
import QueueListener.Proofs.Environment
import QueueListener.Proofs.Listener.Retries
import QueueListener.Proofs.Lists
import QueueListener.Proofs.Recovery.BackOff
import QueueListener.Proofs.Recovery.Budget
import QueueListener.Proofs.Recovery.Deadlines
import QueueListener.Proofs.Recovery.Diagram
import QueueListener.Proofs.Recovery.Progress
import QueueListener.Proofs.Recovery.Rounds
import QueueListener.Proofs.Recovery.Spacing
import QueueListener.Proofs.Recovery.Waiting
import QueueListener.Proofs.Recovery.Walks
import QueueListener.Proofs.Registry.Handover
import QueueListener.Proofs.Registry.Looks
import QueueListener.Proofs.Registry.Roster
import QueueListener.Proofs.Registry.Scaling
import QueueListener.Proofs.Registry.Soundness
import QueueListener.Proofs.Registry.Staffing
import QueueListener.Proofs.Registry.Standstill
import QueueListener.Proofs.Registry.Ticks
import QueueListener.Proofs.Scaling.History
import QueueListener.Proofs.Settings
import QueueListener.Proofs.Table
import QueueListener.Proofs.Text
import QueueListener.Proofs.Transaction.Completions
import QueueListener.Proofs.Transaction.Failures
import QueueListener.Proofs.Transaction.Moves
import QueueListener.Recovery
import QueueListener.Refusal
import QueueListener.Scaling
import QueueListener.Settings
import QueueListener.Status
import QueueListener.Table
import QueueListener.Text.Blank
import QueueListener.Text.Tag
import QueueListener.Time
import QueueListener.Transaction
