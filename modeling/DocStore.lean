import DocStore.Assoc
import DocStore.Catalog
import DocStore.Catalog.Codec
import DocStore.CatalogFile
import DocStore.Collection
import DocStore.Config
import DocStore.Database
import DocStore.Decimal.Nearest
import DocStore.Decimal.Shortest
import DocStore.Disk
import DocStore.Error
import DocStore.FileLock
import DocStore.FileSystem
import DocStore.Json.Basic
import DocStore.Json.Number
import DocStore.Json.Printer
import DocStore.Json.Problem
import DocStore.Json.Tree
import DocStore.Kind
import DocStore.Main
import DocStore.Name
import DocStore.NameMap
import DocStore.Operation
import DocStore.Path
import DocStore.Predicate
import DocStore.Proofs.Assoc
import DocStore.Proofs.Catalog.Decoded
import DocStore.Proofs.Catalog.Format
import DocStore.Proofs.Catalog.Kept
import DocStore.Proofs.Catalog.Reading
import DocStore.Proofs.Catalog.RoundTrip
import DocStore.Proofs.Catalog.WellFormed
import DocStore.Proofs.CatalogFile
import DocStore.Proofs.CatalogFile.Again
import DocStore.Proofs.CatalogFile.Alike
import DocStore.Proofs.CatalogFile.Crash
import DocStore.Proofs.Collection.Change
import DocStore.Proofs.Collection.Identifier
import DocStore.Proofs.Collection.Selection
import DocStore.Proofs.Database.Alike
import DocStore.Proofs.Database.Body
import DocStore.Proofs.Database.Call
import DocStore.Proofs.Database.Conformance
import DocStore.Proofs.Database.Cycle
import DocStore.Proofs.Database.Failure
import DocStore.Proofs.Database.Identity
import DocStore.Proofs.Database.Independence
import DocStore.Proofs.Database.Interchange
import DocStore.Proofs.Database.Outcome
import DocStore.Proofs.Database.Readable
import DocStore.Proofs.Database.Refinement
import DocStore.Proofs.Database.Update
import DocStore.Proofs.Database.Validation
import DocStore.Proofs.Decimal
import DocStore.Proofs.Decimal.Nearest
import DocStore.Proofs.FileLock.Apart
import DocStore.Proofs.FileLock.Exclusion
import DocStore.Proofs.FileSystem
import DocStore.Proofs.FileSystem.Alike
import DocStore.Proofs.FileSystem.Beside
import DocStore.Proofs.FileSystem.Child
import DocStore.Proofs.Json.Denoted
import DocStore.Proofs.Json.Double
import DocStore.Proofs.Json.Equality
import DocStore.Proofs.Json.Grammar
import DocStore.Proofs.Json.Literal
import DocStore.Proofs.Json.Place
import DocStore.Proofs.Json.Range
import DocStore.Proofs.Json.Sameness
import DocStore.Proofs.Json.Sorted
import DocStore.Proofs.Json.Text
import DocStore.Proofs.Json.Value
import DocStore.Proofs.Name
import DocStore.Proofs.NameMap
import DocStore.Proofs.Operation
import DocStore.Proofs.Process.Serial
import DocStore.Proofs.Process.Stage
import DocStore.Proofs.Record.Flat
import DocStore.Proofs.Record.Merge
import DocStore.Proofs.Result
import DocStore.Proofs.Shell.Completion
import DocStore.Proofs.Shell.Fields
import DocStore.Proofs.Shell.Format
import DocStore.Proofs.Shell.Numeral
import DocStore.Proofs.Shell.Recognition
import DocStore.Proofs.Shell.Script
import DocStore.Proofs.Shell.Session
import DocStore.Proofs.Shell.Table
import DocStore.Proofs.Store
import DocStore.Proofs.Store.Deletion
import DocStore.Proofs.Store.Listing
import DocStore.Proofs.Store.Separation
import DocStore.Proofs.Store.Settings
import DocStore.Proofs.Text.Order
import DocStore.Proofs.Text.Symbol
import DocStore.Proofs.Writers
import DocStore.Proofs.Writers.Sharing
import DocStore.Record
import DocStore.Schema
import DocStore.Shell.Argument
import DocStore.Shell.Command
import DocStore.Shell.Completion
import DocStore.Shell.Console
import DocStore.Shell.Format
import DocStore.Shell.Grammar
import DocStore.Shell.Help
import DocStore.Shell.Program
import DocStore.Shell.Session
import DocStore.Shell.Table
import DocStore.Shell.Usage
import DocStore.Shell.Words
import DocStore.Store
import DocStore.Text.Backspace
import DocStore.Text.Blank
import DocStore.Text.Cluster
import DocStore.Text.Cluster.Class
import DocStore.Text.CodeRange
import DocStore.Text.Line
import DocStore.Text.Quoted
import DocStore.Text.Shapeless
import DocStore.Text.Similar
import DocStore.Text.Symbol
import DocStore.Text.Visible
import DocStore.Toml.Table
import DocStore.Toml.Token
import DocStore.Writers
