import Showcase.Text.Blank
import Showcase.Text.Lowercase
import Showcase.Text.Infix
import Showcase.Text.Lines
import Showcase.Text.Quoted
import Showcase.Text.Cluster
import Showcase.Text.Columns
import Showcase.Catalog.Builtin
import Showcase.Catalog.Filter
import Showcase.Catalog.Manifest
import Showcase.Settings.Basic
import Showcase.Registry.Discovery
import Showcase.Settings.File
import Showcase.App.State
import Showcase.Selection.Traffic
import Showcase.Screen.Paragraph
import Showcase.Screen.Listing
import Showcase.App.Screen
import Showcase.Catalog.Shipped
import Showcase.Program
import Showcase.Main
import Showcase.Proofs.Selection.Outcomes
import Showcase.Proofs.App.Operations
import Showcase.Proofs.App.Run
import Showcase.Proofs.Catalog.Filter
import Showcase.Proofs.App.Browsing
import Showcase.Proofs.App.FaultNotice
import Showcase.Proofs.App.Independence
import Showcase.Proofs.Program.Repaint
import Showcase.Proofs.Fault
import Showcase.Proofs.Cache.History
import Showcase.Proofs.Cache.Memo
import Showcase.Proofs.Cache.Failures
import Showcase.Proofs.Disk.Paths
import Showcase.Proofs.Disk.Places
import Showcase.Proofs.Disk.Walk
import Showcase.Proofs.Disk.Links
import Showcase.Proofs.Disk.Listing
import Showcase.Proofs.Disk.Stops
import Showcase.Proofs.Glob
import Showcase.Proofs.Registry.Slots
import Showcase.Proofs.Registry.Registrations
import Showcase.Proofs.Registry.Discovery
import Showcase.Proofs.Registry.Session
import Showcase.Proofs.App.Coverage
import Showcase.Proofs.App.Events
import Showcase.Proofs.App.Unwinding
import Showcase.Proofs.App.Scrolling
import Showcase.Proofs.Format.Json
import Showcase.Proofs.Format.Toml
import Showcase.Proofs.Format.TomlTables
import Showcase.Proofs.Duration
import Showcase.Proofs.Settings.Overrides
import Showcase.Proofs.Settings.TickRate
import Showcase.Proofs.Catalog.Manifest
import Showcase.Proofs.Text.Digits
import Showcase.Proofs.Text.Lowercase
import Showcase.Proofs.Text.Search
import Showcase.Proofs.Catalog.Search
import Showcase.Proofs.Catalog.Categories
import Showcase.Proofs.App.Opening
import Showcase.Proofs.Selection.Deliveries
import Showcase.Proofs.Screen.Wrapping
import Showcase.Proofs.Screen.Drawing
import Showcase.Proofs.Screen.Glyphs
import Showcase.Proofs.Screen.Locality
import Showcase.Proofs.Screen.Narrow
import Showcase.Proofs.App.NoticeBox
import Showcase.Proofs.App.Paging
import Showcase.Proofs.App.OverlayAreas
import Showcase.Proofs.Screen.Listing
import Showcase.Proofs.App.ListPanel
