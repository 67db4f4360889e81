import Blockwright.Command.Arguments
import Blockwright.Command.Grammar
import Blockwright.Command.Run
import Blockwright.Dialect.Basic
import Blockwright.Dialect.CSharp
import Blockwright.Dialect.Java
import Blockwright.Dialect.JavaScript
import Blockwright.Dialect.Python
import Blockwright.Dialect.Table
import Blockwright.Document.Basic
import Blockwright.Document.Json
import Blockwright.Document.Yaml.Cursor
import Blockwright.Document.Yaml.Reader
import Blockwright.Document.Yaml.Scalar
import Blockwright.Files.Fault
import Blockwright.Files.Path
import Blockwright.Files.Tree
import Blockwright.Language
import Blockwright.Layout
import Blockwright.Loading.Load
import Blockwright.Loading.Packages
import Blockwright.Loading.Refusal
import Blockwright.Main
import Blockwright.Number.Binary64
import Blockwright.Number.Shortest
import Blockwright.Palette.Category
import Blockwright.Palette.Starter
import Blockwright.Palette.Tag
import Blockwright.Project.Basic
import Blockwright.Project.Edit
import Blockwright.Project.Session
import Blockwright.Project.Tree
import Blockwright.Proofs.Blocks
import Blockwright.Proofs.Braces.Nesting
import Blockwright.Proofs.Braces.Scan
import Blockwright.Proofs.Braces.Templates
import Blockwright.Proofs.ClauseLayouts
import Blockwright.Proofs.CollectedUtilities
import Blockwright.Proofs.Commands
import Blockwright.Proofs.Depth
import Blockwright.Proofs.Elements
import Blockwright.Proofs.Encoding
import Blockwright.Proofs.Files
import Blockwright.Proofs.Filling
import Blockwright.Proofs.Gaps
import Blockwright.Proofs.Guarded.Blocks
import Blockwright.Proofs.Guarded.Files
import Blockwright.Proofs.Guarded.Slots
import Blockwright.Proofs.Guarded.Spelling
import Blockwright.Proofs.Hoisting
import Blockwright.Proofs.Indentation.Files
import Blockwright.Proofs.Indentation.Levels
import Blockwright.Proofs.Indentation.Texts
import Blockwright.Proofs.InlineUtilities
import Blockwright.Proofs.Jumps
import Blockwright.Proofs.LineBreaks.Files
import Blockwright.Proofs.LineBreaks.Headers
import Blockwright.Proofs.LineBreaks.Quoting
import Blockwright.Proofs.LineBreaks.Terminators
import Blockwright.Proofs.LineBreaks.Texts
import Blockwright.Proofs.Loading
import Blockwright.Proofs.Meaning.Counting
import Blockwright.Proofs.Meaning.Sums
import Blockwright.Proofs.Meaning.Tokens
import Blockwright.Proofs.ModuleComments
import Blockwright.Proofs.MovedTexts
import Blockwright.Proofs.Naming
import Blockwright.Proofs.Properties.Declared
import Blockwright.Proofs.Properties.Normal
import Blockwright.Proofs.Reindenting
import Blockwright.Proofs.Reports
import Blockwright.Proofs.Schema.Fields
import Blockwright.Proofs.Schema.Places
import Blockwright.Proofs.Schema.Readings
import Blockwright.Proofs.Schema.Rewriting
import Blockwright.Proofs.Schema.Routes
import Blockwright.Proofs.Staleness
import Blockwright.Proofs.Suites.Silence
import Blockwright.Proofs.Suites.Tree
import Blockwright.Proofs.UnknownTags
import Blockwright.Proofs.Width
import Blockwright.Property.Default
import Blockwright.Property.TypeName
import Blockwright.Property.Value
import Blockwright.Schema.Declared
import Blockwright.Schema.Project
import Blockwright.Schema.Scalar
import Blockwright.Schema.Settings
import Blockwright.Schema.Violation
import Blockwright.Settings
import Blockwright.Source.Generator
import Blockwright.Source.Outline
import Blockwright.Source.Record
import Blockwright.Template
import Blockwright.Text.Basic
import Blockwright.Text.Breaks
import Blockwright.Text.Inspected
import Blockwright.Text.Letters
import Blockwright.Text.Naming
import Blockwright.Text.Quoted
import Blockwright.Text.Unprintable
import Blockwright.Text.Utf8
