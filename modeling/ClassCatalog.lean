import ClassCatalog.Main
import ClassCatalog.Proofs.Ancestry
import ClassCatalog.Proofs.Extraction.Bracketing
import ClassCatalog.Proofs.TypeIndex.Dependence
import ClassCatalog.Proofs.TypeIndex.Order
import ClassCatalog.Proofs.TypeIndex.Closure
import ClassCatalog.Proofs.Extraction.Questions
import ClassCatalog.Proofs.MissingDeclarations
import ClassCatalog.Proofs.Json.Layouts
import ClassCatalog.Proofs.Documents
import ClassCatalog.Proofs.TypeIndex.AncestorOrder
import ClassCatalog.Proofs.TypeIndex.Passes
import ClassCatalog.Proofs.TypeIndex.AncestorFailures
import ClassCatalog.Proofs.TypeIndex.MemberSearch
import ClassCatalog.Proofs.TypeIndex.StaleFailures
import ClassCatalog.Proofs.Extraction.StackRuns
import ClassCatalog.Proofs.FileTree.Nodes
import ClassCatalog.Proofs.FileTree.Paths
import ClassCatalog.Proofs.FileTree.AtomicWrite
import ClassCatalog.Proofs.FileTree.Listing
import ClassCatalog.Proofs.Generation
import ClassCatalog.Proofs.SourceFiles
import ClassCatalog.Proofs.DocComment.Writing
import ClassCatalog.Proofs.DocComment.Conservation
import ClassCatalog.Proofs.DocComment.LineEndings
import ClassCatalog.Proofs.TypeIndex.CanonicalNames
import ClassCatalog.Proofs.TypeIndex.ImplicitSuperclasses
import ClassCatalog.Proofs.Java.Nodes
import ClassCatalog.Proofs.Java.Placement
import ClassCatalog.Proofs.Java.CodeSites
import ClassCatalog.Proofs.Java.Decorations
import ClassCatalog.Proofs.Java.ParameterTypes
import ClassCatalog.Proofs.TypeIndex.Progress
