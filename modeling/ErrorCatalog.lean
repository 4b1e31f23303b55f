import ErrorCatalog.Text.Camel
import ErrorCatalog.Text.Quoted
import ErrorCatalog.Text.Width
import ErrorCatalog.Source.Row
import ErrorCatalog.Catalog.Build
import ErrorCatalog.Artifact.All
import ErrorCatalog.File.Tree
import ErrorCatalog.Delivery
import ErrorCatalog.Generate
import ErrorCatalog.Toml.Document
import ErrorCatalog.Settings.Plan
import ErrorCatalog.CommandLine.Invocation
import ErrorCatalog.Report.Summary
import ErrorCatalog.Program
import ErrorCatalog.Main
import ErrorCatalog.Proofs.Source.Lines
import ErrorCatalog.Proofs.Source.Record
import ErrorCatalog.Proofs.Source.Scan
import ErrorCatalog.Proofs.Catalog.Building
import ErrorCatalog.Proofs.Catalog.Refusal
import ErrorCatalog.Proofs.Catalog.Header
import ErrorCatalog.Proofs.Catalog.Renumbering
import ErrorCatalog.Proofs.Catalog.Spelling
import ErrorCatalog.Proofs.Catalog.Clipping
import ErrorCatalog.Proofs.Catalog.Collisions
import ErrorCatalog.Proofs.Artifact.Lossless
import ErrorCatalog.Proofs.Artifact.Columns
import ErrorCatalog.Proofs.Artifact.Height
import ErrorCatalog.Proofs.Artifact.ClassBody
import ErrorCatalog.Proofs.Language.Reader
import ErrorCatalog.Proofs.Language.Fields
import ErrorCatalog.Proofs.File.Path
import ErrorCatalog.Proofs.File.Growth
import ErrorCatalog.Proofs.Delivery.Mirror
import ErrorCatalog.Proofs.Delivery.Apart
import ErrorCatalog.Proofs.Run.Preview
import ErrorCatalog.Proofs.Run.Again
import ErrorCatalog.Proofs.Run.Untouched
import ErrorCatalog.Proofs.Run.Stored
import ErrorCatalog.Proofs.Settings.Precedence
