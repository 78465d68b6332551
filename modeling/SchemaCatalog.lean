import SchemaCatalog.Catalog
import SchemaCatalog.Main
import SchemaCatalog.Proofs.Catalog.Acyclicity
import SchemaCatalog.Proofs.Catalog.Alterations
import SchemaCatalog.Proofs.Catalog.Atomicity
import SchemaCatalog.Proofs.Catalog.Consistency
import SchemaCatalog.Proofs.Catalog.Deletion
import SchemaCatalog.Proofs.Catalog.Drops
import SchemaCatalog.Proofs.Catalog.Emptying
import SchemaCatalog.Proofs.Catalog.Frame
import SchemaCatalog.Proofs.Catalog.Identity
import SchemaCatalog.Proofs.Catalog.Integrity
import SchemaCatalog.Proofs.Catalog.Isolation
import SchemaCatalog.Proofs.Catalog.Listing
import SchemaCatalog.Proofs.Catalog.Removal
import SchemaCatalog.Proofs.Catalog.Resolution
import SchemaCatalog.Proofs.Catalog.Tables
import SchemaCatalog.Proofs.Catalog.Views
import SchemaCatalog.Proofs.CommandLine.Erasure
import SchemaCatalog.Proofs.Console.Legibility
import SchemaCatalog.Proofs.Console.Reporting
import SchemaCatalog.Proofs.Named.Refinement
import SchemaCatalog.Proofs.Session.Alterations
import SchemaCatalog.Proofs.Session.Loops
import SchemaCatalog.Proofs.Session.Refusals
import SchemaCatalog.Proofs.Statement.Faults
import SchemaCatalog.Proofs.Statement.Forms
import SchemaCatalog.Proofs.Statement.Reports
import SchemaCatalog.Proofs.Statement.RoundTrip
import SchemaCatalog.Proofs.Statement.Validation
import SchemaCatalog.Session.Attributes
import SchemaCatalog.Statement.Canonical
import SchemaCatalog.Store.Transaction
