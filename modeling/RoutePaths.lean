import RoutePaths.Main
import RoutePaths.Route.Record
import RoutePaths.Proofs.Function.StatementReading
import RoutePaths.Proofs.Uri.Reading
import RoutePaths.Proofs.Function.Parameters
import RoutePaths.Proofs.Function.ReturnedPath
import RoutePaths.Proofs.Uri.Tokens
import RoutePaths.Proofs.Uri.Clauses
import RoutePaths.Proofs.Uri.Parts
import RoutePaths.Proofs.Uri.Derivation
import RoutePaths.Proofs.Firsts
import RoutePaths.Proofs.Module.Groups
import RoutePaths.Proofs.Module.Claims
import RoutePaths.Proofs.Module.Collisions
import RoutePaths.Proofs.Module.Insertion
import RoutePaths.Proofs.Module.Growth
import RoutePaths.Proofs.Module.Documentation
import RoutePaths.Proofs.Text.Lines
import RoutePaths.Proofs.Text.Upper
import RoutePaths.Proofs.Table.Routes
import RoutePaths.Proofs.Table.Printing
import RoutePaths.Proofs.Table.Layout
import RoutePaths.Proofs.Table.Accounting
import RoutePaths.Proofs.Table.Padding
import RoutePaths.Proofs.Checked.Name
import RoutePaths.Proofs.Checked.Table
import RoutePaths.Proofs.Checked.Tree
import RoutePaths.Proofs.Checked.Module
import RoutePaths.Proofs.Checked.Generation
import RoutePaths.Proofs.Selection
import RoutePaths.Proofs.Module.Content
import RoutePaths.Proofs.Module.Spelling
import RoutePaths.Proofs.Module.Exclusion
import RoutePaths.Proofs.Function.Docstring
import RoutePaths.Proofs.Generation.Docstrings
import RoutePaths.Proofs.Name.Pascal
import RoutePaths.Proofs.Module.Location
import RoutePaths.Proofs.Module.Names
import RoutePaths.Proofs.Module.TopLevel
import RoutePaths.Proofs.Module.Imports
import RoutePaths.Proofs.Module.Scope
import RoutePaths.Proofs.Generation.Names
import RoutePaths.Proofs.Module.Renumbering
import RoutePaths.Proofs.Generation.Padding
import RoutePaths.Proofs.Module.Appending
import RoutePaths.Proofs.Json.Word
import RoutePaths.Proofs.Json.Document
import RoutePaths.Proofs.FileTree.Writing
import RoutePaths.Proofs.Config.Saving
import RoutePaths.Proofs.Console.Outline
import RoutePaths.Proofs.Command.Inspection
import RoutePaths.Proofs.Path
import RoutePaths.Proofs.Module.Placement
import RoutePaths.Proofs.FileTree.Effect
import RoutePaths.Proofs.Command.Sparing
import RoutePaths.Proofs.Command.Messages
import RoutePaths.Proofs.FileTree.Rewriting
import RoutePaths.Proofs.Module.Emission
import RoutePaths.Proofs.Command.Regeneration
import RoutePaths.Proofs.Uri.Writing
import RoutePaths.Proofs.Selection.Filling
import RoutePaths.Proofs.Function.AbsolutePath
import RoutePaths.Proofs.Module.Branching
import RoutePaths.Proofs.Selection.Filtering
import RoutePaths.Proofs.Function.Literal
import RoutePaths.Proofs.Module.FirstSpelling
import RoutePaths.Proofs.Function.SignatureReading
import RoutePaths.Proofs.Function.Values
import RoutePaths.Proofs.Table.Inheritance
import RoutePaths.Proofs.Module.Writing
import RoutePaths.Proofs.Command.Location
import RoutePaths.Proofs.Module.Refusal
import RoutePaths.Proofs.FileTree.Reading
import RoutePaths.Proofs.Loading
import RoutePaths.Proofs.Console.Tabbed
import RoutePaths.Proofs.Command.Listing
import RoutePaths.Proofs.Yaml.Quoted
import RoutePaths.Proofs.Yaml.Scan
import RoutePaths.Proofs.Yaml.Document
import RoutePaths.Proofs.Yaml.Record
import RoutePaths.Proofs.Config.Notation
import RoutePaths.Proofs.Command.Creation
import RoutePaths.Proofs.Name.Usable
import RoutePaths.Proofs.Table.Division
