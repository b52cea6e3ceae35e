import CommandGrammar.Capture.Params
import CommandGrammar.Capture.Resolver
import CommandGrammar.Catalog
import CommandGrammar.Cli.Report
import CommandGrammar.Cli.Request
import CommandGrammar.Config.Fault
import CommandGrammar.Config.Files
import CommandGrammar.Config.Layers
import CommandGrammar.Config.Source
import CommandGrammar.Entries
import CommandGrammar.Grammar.Definition
import CommandGrammar.Grammar.Fault
import CommandGrammar.Grammar.Lexeme
import CommandGrammar.Grammar.Reader
import CommandGrammar.Grammar.Token
import CommandGrammar.Grammar.Usage
import CommandGrammar.Input.Cursor
import CommandGrammar.Input.Longest
import CommandGrammar.Json.Value
import CommandGrammar.Main
import CommandGrammar.Matching.Failure
import CommandGrammar.Matching.Outcome
import CommandGrammar.Matching.Plan
import CommandGrammar.Matching.Walk
import CommandGrammar.Proofs.Capture.Builtins
import CommandGrammar.Proofs.Capture.Mapping
import CommandGrammar.Proofs.Catalog.Configured
import CommandGrammar.Proofs.Catalog.Dispatch
import CommandGrammar.Proofs.Catalog.Validated
import CommandGrammar.Proofs.Cli.Actions
import CommandGrammar.Proofs.Cli.Reports
import CommandGrammar.Proofs.Config.Duplicates
import CommandGrammar.Proofs.Config.Merging
import CommandGrammar.Proofs.Entries.Mapping
import CommandGrammar.Proofs.Entries.Names
import CommandGrammar.Proofs.Grammar.Blame
import CommandGrammar.Proofs.Grammar.Cutting
import CommandGrammar.Proofs.Grammar.Designation
import CommandGrammar.Proofs.Grammar.Phrase
import CommandGrammar.Proofs.Grammar.Places
import CommandGrammar.Proofs.Grammar.Spelling
import CommandGrammar.Proofs.Grammar.Steps
import CommandGrammar.Proofs.Grammar.Usage
import CommandGrammar.Proofs.Grammar.WellFormed
import CommandGrammar.Proofs.Grammar.Written
import CommandGrammar.Proofs.Input.Longest
import CommandGrammar.Proofs.Input.Operations
import CommandGrammar.Proofs.Json.Sameness
import CommandGrammar.Proofs.Matching.Compiled
import CommandGrammar.Proofs.Matching.Extension
import CommandGrammar.Proofs.Matching.LetterCase
import CommandGrammar.Proofs.Matching.Levels
import CommandGrammar.Proofs.Matching.Lockstep
import CommandGrammar.Proofs.Matching.Passage
import CommandGrammar.Proofs.Matching.Preparation
import CommandGrammar.Proofs.Matching.Reordering
import CommandGrammar.Proofs.Matching.Retreat
import CommandGrammar.Proofs.Matching.Segments
import CommandGrammar.Proofs.Matching.Shape
import CommandGrammar.Proofs.Matching.Shares
import CommandGrammar.Proofs.Matching.Tables
import CommandGrammar.Proofs.Matching.UnknownType
import CommandGrammar.Proofs.Matching.Walk
import CommandGrammar.Proofs.Text.Letters
import CommandGrammar.Proofs.Text.Separators
import CommandGrammar.Shell.Arguments
import CommandGrammar.Shell.CommandLine
import CommandGrammar.Shell.FileTree
import CommandGrammar.Shell.JsonText
import CommandGrammar.Shell.Lines
import CommandGrammar.Shell.Yaml.BlockText
import CommandGrammar.Shell.Yaml.Configuration
import CommandGrammar.Shell.Yaml.Document
import CommandGrammar.Shell.Yaml.Gap
import CommandGrammar.Shell.Yaml.Lexeme
import CommandGrammar.Shell.Yaml.Mapping
import CommandGrammar.Shell.Yaml.Node
import CommandGrammar.Shell.Yaml.Place
import CommandGrammar.Shell.Yaml.Plain
import CommandGrammar.Shell.Yaml.Quoted
import CommandGrammar.Shell.Yaml.Token
import CommandGrammar.Shell.Yaml.Value
import CommandGrammar.Text.Blank
import CommandGrammar.Text.CaseTable
import CommandGrammar.Text.LetterCase
import CommandGrammar.Text.Pieces
