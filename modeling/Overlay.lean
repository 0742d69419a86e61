import Overlay.Text.Cut
import Overlay.Decimal.Read
import Overlay.Decimal.Written
import Overlay.Json.Reader
import Overlay.Json.Printer
import Overlay.Toml.Reader
import Overlay.Xml.Reader
import Overlay.Xml.Writer
import Overlay.Address.Reader
import Overlay.Address.Printer
import Overlay.Address.Resolve
import Overlay.Config.Check
import Overlay.Config.Settings
import Overlay.Template.Review
import Overlay.Choice.Prune
import Overlay.Override
import Overlay.Generation
import Overlay.Report.Schema
import Overlay.CommandLine.Run
import Overlay.CommandLine.Memory
import Overlay.Main
import Overlay.Proofs.Xml.Numbering
import Overlay.Proofs.Address.Matching
import Overlay.Proofs.Address.Resolving
import Overlay.Proofs.Override.Deciding
import Overlay.Proofs.Override.Passing
import Overlay.Proofs.Xml.Declaring
import Overlay.Proofs.Xml.Documents
import Overlay.Proofs.Xml.Roundtrip
import Overlay.Proofs.Address.Normalizing
import Overlay.Proofs.Address.Ordering
import Overlay.Proofs.Address.Walking
import Overlay.Proofs.Address.Weighing
import Overlay.Proofs.Template.History
import Overlay.Proofs.Override.Sharing
import Overlay.Proofs.Generation
import Overlay.Proofs.Replaying
import Overlay.Proofs.Choice.Commuting
import Overlay.Proofs.Choice.Detaching
import Overlay.Proofs.Choice.Reporting
import Overlay.Proofs.Choice.Recording
import Overlay.Proofs.Text.Nesting
import Overlay.Proofs.Choice.Joining
import Overlay.Proofs.Choice.Listing
import Overlay.Proofs.Override.Confining
import Overlay.Proofs.Xml.Redeclaring
import Overlay.Proofs.Xml.Forests
import Overlay.Proofs.Override.Accounting
import Overlay.Proofs.Override.Refusing
import Overlay.Proofs.Override.Selecting
import Overlay.Proofs.Override.Pinning
import Overlay.Proofs.Config.Accepting
import Overlay.Proofs.FallingBack
import Overlay.Proofs.Template.Inheriting
import Overlay.Proofs.Template.Computing
import Overlay.Proofs.Template.Phrasing
import Overlay.Proofs.Calendar.Shifting
import Overlay.Proofs.Xml.Indenting
import Overlay.Proofs.Xml.Naming
import Overlay.Proofs.Override.Prefixing
import Overlay.Proofs.Override.Sparing
import Overlay.Proofs.Address.Placing
import Overlay.Proofs.Address.Caching
import Overlay.Proofs.Xml.Framing
import Overlay.Proofs.Text.Parting
import Overlay.Proofs.Config.Flattening
import Overlay.Proofs.Template.Reviewing
