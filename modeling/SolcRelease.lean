import SolcRelease.Activity
import SolcRelease.Catalog.Basic
import SolcRelease.Catalog.BuildName
import SolcRelease.Catalog.Fetch
import SolcRelease.Catalog.Lookup
import SolcRelease.Coroutine
import SolcRelease.Decimal.Binary64
import SolcRelease.Decimal.Natural
import SolcRelease.Decimal.Numeral
import SolcRelease.Decimal.Shortest
import SolcRelease.Entries
import SolcRelease.Failure
import SolcRelease.Fault
import SolcRelease.Inference
import SolcRelease.Journal
import SolcRelease.Json.Basic
import SolcRelease.Json.Encoding
import SolcRelease.Json.Reader
import SolcRelease.Json.Shown
import SolcRelease.Json.Writer
import SolcRelease.Launch
import SolcRelease.Logging
import SolcRelease.Main
import SolcRelease.Proofs.Activity
import SolcRelease.Proofs.Catalog.Acceptance
import SolcRelease.Proofs.Catalog.Accounting
import SolcRelease.Proofs.Catalog.BareName
import SolcRelease.Proofs.Catalog.Block
import SolcRelease.Proofs.Catalog.BuildName
import SolcRelease.Proofs.Catalog.Coherence
import SolcRelease.Proofs.Catalog.Cut
import SolcRelease.Proofs.Catalog.Document
import SolcRelease.Proofs.Catalog.Effects
import SolcRelease.Proofs.Catalog.Fetch
import SolcRelease.Proofs.Catalog.Listing
import SolcRelease.Proofs.Catalog.Lookup
import SolcRelease.Proofs.Catalog.Origin
import SolcRelease.Proofs.Catalog.Reordering
import SolcRelease.Proofs.Catalog.Tally
import SolcRelease.Proofs.Catalog.Warnings
import SolcRelease.Proofs.Coroutine
import SolcRelease.Proofs.Decimal.Natural
import SolcRelease.Proofs.Effects
import SolcRelease.Proofs.Entries
import SolcRelease.Proofs.Inference
import SolcRelease.Proofs.Inference.Classification
import SolcRelease.Proofs.Json.Depth
import SolcRelease.Proofs.Json.Nesting
import SolcRelease.Proofs.Json.Shown
import SolcRelease.Proofs.Json.Unwritable
import SolcRelease.Proofs.Json.Writable
import SolcRelease.Proofs.Launch
import SolcRelease.Proofs.Outcome
import SolcRelease.Proofs.Range.Bounds
import SolcRelease.Proofs.Range.Comparator
import SolcRelease.Proofs.Range.Identity
import SolcRelease.Proofs.Range.Membership
import SolcRelease.Proofs.Service.Address
import SolcRelease.Proofs.Service.Agreement
import SolcRelease.Proofs.Service.Answer
import SolcRelease.Proofs.Service.Bytecode
import SolcRelease.Proofs.Service.Candidates
import SolcRelease.Proofs.Service.Compiler
import SolcRelease.Proofs.Service.Containment
import SolcRelease.Proofs.Service.Document
import SolcRelease.Proofs.Service.Effects
import SolcRelease.Proofs.Service.Obstacle
import SolcRelease.Proofs.Service.Payload
import SolcRelease.Proofs.Service.Reordering
import SolcRelease.Proofs.Service.Route
import SolcRelease.Proofs.Service.Session
import SolcRelease.Proofs.Service.Spelling
import SolcRelease.Proofs.Service.Warnings
import SolcRelease.Proofs.Text.Blank
import SolcRelease.Proofs.Text.Hex
import SolcRelease.Proofs.Text.Parts
import SolcRelease.Proofs.Text.Row
import SolcRelease.Proofs.Text.Utf8
import SolcRelease.Proofs.Version.Comparison
import SolcRelease.Proofs.Version.Given
import SolcRelease.Proofs.Version.Order
import SolcRelease.Proofs.Version.RoundTrip
import SolcRelease.Proofs.Version.Text
import SolcRelease.Proofs.Warnings
import SolcRelease.Range.Basic
import SolcRelease.Range.Bounds
import SolcRelease.Range.Offered
import SolcRelease.Refusal
import SolcRelease.Service.Basic
import SolcRelease.Service.Message
import SolcRelease.Service.Payload
import SolcRelease.Service.Route
import SolcRelease.Service.Url
import SolcRelease.Settings
import SolcRelease.Text.Basic
import SolcRelease.Text.Blank
import SolcRelease.Text.CodePoint
import SolcRelease.Text.Digit
import SolcRelease.Text.Hex
import SolcRelease.Text.Path
import SolcRelease.Text.Printable
import SolcRelease.Text.Quoted
import SolcRelease.Text.UpperCase
import SolcRelease.Text.Utf8
import SolcRelease.Version.Basic
import SolcRelease.Version.Given
import SolcRelease.Version.Text
import SolcRelease.World
