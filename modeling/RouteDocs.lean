import RouteDocs.Main
import RouteDocs.Proofs.Annotation.Declaration
import RouteDocs.Proofs.Annotation.Decoration
import RouteDocs.Proofs.Annotation.Meaning
import RouteDocs.Proofs.Annotation.Outline
import RouteDocs.Proofs.Annotation.Reading
import RouteDocs.Proofs.Annotation.RoundTrip
import RouteDocs.Proofs.Annotation.Strictness
import RouteDocs.Proofs.Annotation.Wrapping
import RouteDocs.Proofs.Annotation.Written
import RouteDocs.Proofs.Brackets
import RouteDocs.Proofs.Compilation.Files
import RouteDocs.Proofs.Compilation.Inputs
import RouteDocs.Proofs.Compilation.Isolation
import RouteDocs.Proofs.Compilation.Loop
import RouteDocs.Proofs.Compilation.Operations
import RouteDocs.Proofs.Compilation.Order
import RouteDocs.Proofs.Compilation.References
import RouteDocs.Proofs.Compilation.Schemes
import RouteDocs.Proofs.Compilation.Security
import RouteDocs.Proofs.Compilation.Sources
import RouteDocs.Proofs.Compilation.Steps
import RouteDocs.Proofs.Disk
import RouteDocs.Proofs.Document
import RouteDocs.Proofs.Except
import RouteDocs.Proofs.Expansion
import RouteDocs.Proofs.FieldGrammar
import RouteDocs.Proofs.FieldList
import RouteDocs.Proofs.Guards
import RouteDocs.Proofs.HandlerIndex
import RouteDocs.Proofs.HandlerLookup
import RouteDocs.Proofs.Import
import RouteDocs.Proofs.Import.Renaming
import RouteDocs.Proofs.Input
import RouteDocs.Proofs.Journal
import RouteDocs.Proofs.Json
import RouteDocs.Proofs.Json.Merge
import RouteDocs.Proofs.Json.Proper
import RouteDocs.Proofs.Json.Replacement
import RouteDocs.Proofs.List
import RouteDocs.Proofs.Models
import RouteDocs.Proofs.ParameterTags
import RouteDocs.Proofs.Path
import RouteDocs.Proofs.Places
import RouteDocs.Proofs.Properties
import RouteDocs.Proofs.References
import RouteDocs.Proofs.RequestBody
import RouteDocs.Proofs.Responses
import RouteDocs.Proofs.Scan
import RouteDocs.Proofs.Schemas
import RouteDocs.Proofs.Security
import RouteDocs.Proofs.SortedMap
import RouteDocs.Proofs.Source.Lexer
import RouteDocs.Proofs.Source.Names
import RouteDocs.Proofs.Source.Parser
import RouteDocs.Proofs.StatusCode
import RouteDocs.Proofs.Surroundings
import RouteDocs.Proofs.Text
