import HolderBond.Binding.Basic
import HolderBond.Binding.Commitment
import HolderBond.Binding.Params
import HolderBond.Binding.Seed
import HolderBond.Bond.Basic
import HolderBond.Bond.Creation
import HolderBond.Bond.Disclosures
import HolderBond.Bond.Error
import HolderBond.Bond.Policy
import HolderBond.Bond.Transport
import HolderBond.Bundle.Funds
import HolderBond.Bundle.Identity
import HolderBond.Byte.Base64Url
import HolderBond.Byte.Bytes32
import HolderBond.Byte.Hex
import HolderBond.Command.Basic
import HolderBond.Command.Error
import HolderBond.Command.Options
import HolderBond.Command.Report
import HolderBond.Command.Run
import HolderBond.Decimal.Approximate
import HolderBond.Decimal.Binary64
import HolderBond.Decimal.Shortest
import HolderBond.Digest.Algorithm
import HolderBond.Digest.Blake3
import HolderBond.Digest.Sha256
import HolderBond.Digest.Words
import HolderBond.Disk.Access
import HolderBond.Disk.Tree
import HolderBond.Json.Basic
import HolderBond.Json.Error
import HolderBond.Json.Printer
import HolderBond.Json.Reader
import HolderBond.Json.Scan
import HolderBond.Main
import HolderBond.Settings.Basic
import HolderBond.Settings.Config
import HolderBond.Shape.Basic
import HolderBond.Shape.Reader
import HolderBond.Shape.Tree
import HolderBond.Store.Backend
import HolderBond.Store.Cache
import HolderBond.Store.Error
import HolderBond.Store.Folder
import HolderBond.Text.Blank
import HolderBond.Text.Marks
import HolderBond.Text.Pieces
import HolderBond.Text.Quoted
import HolderBond.Text.Spans
import HolderBond.Text.Unprinted
import HolderBond.Text.Utf8
import HolderBond.Time.Calendar
import HolderBond.Time.Instant
import HolderBond.Toml.Basic
import HolderBond.Toml.Printer
import HolderBond.Toml.Reader
import HolderBond.Toml.Scan
import HolderBond.Url.Address
import HolderBond.Url.Basic
import HolderBond.Url.Domain.Basic
import HolderBond.Url.Domain.Direction
import HolderBond.Url.Domain.Form
import HolderBond.Url.Domain.Joining
import HolderBond.Url.Domain.Punycode
import HolderBond.Url.Form
import HolderBond.Verification.Basic
import HolderBond.Verification.Verdict
import HolderBond.Proofs.Byte.Base64Url
import HolderBond.Proofs.Binding.Preimages
import HolderBond.Proofs.Bond.SameHolder
import HolderBond.Proofs.Bond.CreatedVerdict
import HolderBond.Proofs.Json.Reading
import HolderBond.Proofs.Json.Strings
import HolderBond.Proofs.Decimal.Nearest
import HolderBond.Proofs.Decimal.Shortest
import HolderBond.Proofs.Decimal.Approximate
import HolderBond.Proofs.Json.Numbers
import HolderBond.Proofs.Json.Floats
import HolderBond.Proofs.Json.Settled
import HolderBond.Proofs.Json.RoundTrip
import HolderBond.Proofs.Json.Printed
import HolderBond.Proofs.Json.Skipping
import HolderBond.Proofs.Shape.Faithful
import HolderBond.Proofs.Shape.Agreement
import HolderBond.Proofs.Shape.Outcome
import HolderBond.Proofs.Shape.Documents
import HolderBond.Proofs.Shape.Levels
import HolderBond.Proofs.Bond.Transport
import HolderBond.Proofs.Store.ListMachine
import HolderBond.Proofs.Store.Refinement
import HolderBond.Proofs.Verification.SharedNullifier
import HolderBond.Proofs.Verification.CarriedFacts
import HolderBond.Proofs.Verification.Interval
import HolderBond.Proofs.Verification.Faults
import HolderBond.Proofs.Verification.Edits
import HolderBond.Proofs.Url.Query
import HolderBond.Proofs.Bond.Link
import HolderBond.Proofs.Command.Inputs
import HolderBond.Proofs.Bond.CreatedTransport
import HolderBond.Proofs.Bundle.PassThrough
import HolderBond.Proofs.Store.AllOrNothing
import HolderBond.Proofs.Store.FileNames
import HolderBond.Proofs.Disk.Places
import HolderBond.Proofs.Store.Folder
import HolderBond.Proofs.Store.FolderTree
import HolderBond.Proofs.Store.FolderMap
import HolderBond.Proofs.Byte.Base64Spelling
import HolderBond.Proofs.Bond.Spelling
import HolderBond.Proofs.Binding.SeedSeparation
import HolderBond.Proofs.Binding.ParameterSeparation
import HolderBond.Proofs.Bond.SharedForm
import HolderBond.Proofs.Shape.ThroughValues
import HolderBond.Proofs.Binding.HexReaders
import HolderBond.Proofs.Bond.Times
import HolderBond.Proofs.Settings.Configuration
import HolderBond.Proofs.Bundle.Source
