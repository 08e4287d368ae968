import Roster.Action
import Roster.Allocation
import Roster.Allocation.Queue
import Roster.Command
import Roster.CommandLine
import Roster.Config
import Roster.Cycle
import Roster.Disk
import Roster.Disk.Path
import Roster.Engine
import Roster.Findings
import Roster.Gateway
import Roster.Identity
import Roster.Incident
import Roster.Inventory
import Roster.Json.Basic
import Roster.Json.Reader
import Roster.Keeper
import Roster.Main
import Roster.Name
import Roster.Probe
import Roster.Program
import Roster.Proofs.Allocation.Queue
import Roster.Proofs.Config.Times
import Roster.Proofs.Cycle.Failures
import Roster.Proofs.Cycle.Takings
import Roster.Proofs.Disk.Agreement
import Roster.Proofs.Disk.Operations
import Roster.Proofs.Disk.Paths
import Roster.Proofs.Disk.Places
import Roster.Proofs.Disk.Reach
import Roster.Proofs.Engine.Courses
import Roster.Proofs.Engine.Due
import Roster.Proofs.Engine.Halting
import Roster.Proofs.Engine.Outputs
import Roster.Proofs.Inventory.Filter
import Roster.Proofs.Inventory.Lasting
import Roster.Proofs.Inventory.Merge
import Roster.Proofs.Inventory.Report
import Roster.Proofs.Inventory.View
import Roster.Proofs.Json.RoundTrip
import Roster.Proofs.Keeper.Again
import Roster.Proofs.Keeper.Agreement
import Roster.Proofs.Keeper.Incidents
import Roster.Proofs.Keeper.Interleaving
import Roster.Proofs.Keeper.Keys
import Roster.Proofs.Keeper.Lag
import Roster.Proofs.Keeper.Log
import Roster.Proofs.Keeper.Merging
import Roster.Proofs.Keeper.Notes
import Roster.Proofs.Keeper.Operations
import Roster.Proofs.Keeper.Outages
import Roster.Proofs.Keeper.Published
import Roster.Proofs.Keeper.Remnants
import Roster.Proofs.Keeper.Repeats
import Roster.Proofs.Keeper.Restart
import Roster.Proofs.Keeper.Run
import Roster.Proofs.Keeper.Sightings
import Roster.Proofs.Refresh.Due
import Roster.Proofs.Refresh.Moves
import Roster.Proofs.Refresh.Pace
import Roster.Proofs.Refresh.Requests
import Roster.Proofs.Refresh.Stopping
import Roster.Proofs.Scan.Deadline
import Roster.Proofs.Scan.Gathering
import Roster.Proofs.Scan.Schedule
import Roster.Proofs.Scan.Visits
import Roster.Proofs.Session.Listing
import Roster.Proofs.Shell.Words
import Roster.Proofs.State.Aside
import Roster.Proofs.State.Files
import Roster.Proofs.State.Locks
import Roster.Proofs.State.Moments
import Roster.Proofs.State.Return
import Roster.Proofs.State.Separation
import Roster.Proofs.State.Text
import Roster.Proofs.Table
import Roster.Proofs.Text.ByteOrder
import Roster.Proofs.Text.Fields
import Roster.Proofs.Text.Sigma
import Roster.Proofs.Time.Calendar
import Roster.Proofs.Time.Timestamps
import Roster.Proofs.Toml.Integers
import Roster.Record
import Roster.Refresh
import Roster.Remote
import Roster.Report
import Roster.Scan
import Roster.Services
import Roster.Session
import Roster.Session.Line
import Roster.Session.Listing
import Roster.Setup
import Roster.Shell.Word
import Roster.State.Files
import Roster.State.Text
import Roster.Table
import Roster.Text.Alphanumeric
import Roster.Text.Blank
import Roster.Text.Lines
import Roster.Text.Lossy
import Roster.Text.Lowercase
import Roster.Text.Numeral
import Roster.Text.Printable
import Roster.Text.Quoted
import Roster.Text.Ranges
import Roster.Text.Reader
import Roster.Text.Search
import Roster.Time.Clock
import Roster.Time.Duration
import Roster.Time.Instant
import Roster.Time.Rfc3339
import Roster.Toml.Basic
import Roster.Toml.Document
import Roster.Toml.Scalar
import Roster.Toml.Text
import Roster.View
