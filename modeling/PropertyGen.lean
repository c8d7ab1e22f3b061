import PropertyGen.CommandLine.Arguments
import PropertyGen.CommandLine.Input
import PropertyGen.CommandLine.Run
import PropertyGen.Console.Emoji
import PropertyGen.Console.EmojiTable
import PropertyGen.Console.Markup
import PropertyGen.Console.Shown
import PropertyGen.Constant.Expression
import PropertyGen.Constant.Literal
import PropertyGen.Constant.Value
import PropertyGen.Documentation.Comment
import PropertyGen.Documentation.Summary
import PropertyGen.Fault
import PropertyGen.Files.Collect
import PropertyGen.Files.Language
import PropertyGen.Files.Path
import PropertyGen.Files.Workspace
import PropertyGen.Generation.Candidate
import PropertyGen.Generation.Group
import PropertyGen.Generation.Host
import PropertyGen.Generation.Layout
import PropertyGen.Generation.Marker
import PropertyGen.Generation.Render
import PropertyGen.Generation.ResolvedField
import PropertyGen.Generation.Run
import PropertyGen.Main
import PropertyGen.Names.Metadata
import PropertyGen.Names.Property
import PropertyGen.Names.TypeName
import PropertyGen.Numeral.Reading
import PropertyGen.Program.Basic
import PropertyGen.Program.ConstantDeclaration
import PropertyGen.Program.Constants
import PropertyGen.Program.FieldSymbol
import PropertyGen.Program.Lookup
import PropertyGen.Program.Scope
import PropertyGen.Program.TypeSymbol
import PropertyGen.Program.Using
import PropertyGen.Proofs.Accounts
import PropertyGen.Proofs.Additions
import PropertyGen.Proofs.Agreement
import PropertyGen.Proofs.AliasedNames
import PropertyGen.Proofs.AlikeTrees
import PropertyGen.Proofs.ArgumentLists
import PropertyGen.Proofs.Binding
import PropertyGen.Proofs.Brackets
import PropertyGen.Proofs.Building
import PropertyGen.Proofs.Closure
import PropertyGen.Proofs.Containers
import PropertyGen.Proofs.Content
import PropertyGen.Proofs.Declarations
import PropertyGen.Proofs.Delivery
import PropertyGen.Proofs.Derivations
import PropertyGen.Proofs.Elements
import PropertyGen.Proofs.Enclosures
import PropertyGen.Proofs.Equations
import PropertyGen.Proofs.Evaluation
import PropertyGen.Proofs.Events
import PropertyGen.Proofs.FileScoped
import PropertyGen.Proofs.FileScopedTrees
import PropertyGen.Proofs.Folding
import PropertyGen.Proofs.FragmentKeys
import PropertyGen.Proofs.FragmentTrees
import PropertyGen.Proofs.Fragments
import PropertyGen.Proofs.FullNames
import PropertyGen.Proofs.GrammarShapes
import PropertyGen.Proofs.Grouping
import PropertyGen.Proofs.Independence
import PropertyGen.Proofs.InnerScopes
import PropertyGen.Proofs.Inspection
import PropertyGen.Proofs.IntegerSpellings
import PropertyGen.Proofs.Interference
import PropertyGen.Proofs.Layouts
import PropertyGen.Proofs.Listings
import PropertyGen.Proofs.Literals
import PropertyGen.Proofs.Lookup
import PropertyGen.Proofs.Marks
import PropertyGen.Proofs.Meanings
import PropertyGen.Proofs.NameArguments
import PropertyGen.Proofs.NameOf
import PropertyGen.Proofs.NestedTypes
import PropertyGen.Proofs.Nesting
import PropertyGen.Proofs.Numerals
import PropertyGen.Proofs.Outline
import PropertyGen.Proofs.Ownership
import PropertyGen.Proofs.Partition
import PropertyGen.Proofs.Parts
import PropertyGen.Proofs.Preorder
import PropertyGen.Proofs.Properties
import PropertyGen.Proofs.PropertyNames
import PropertyGen.Proofs.Publication
import PropertyGen.Proofs.QualifiedNames
import PropertyGen.Proofs.ReferenceLists
import PropertyGen.Proofs.Regeneration
import PropertyGen.Proofs.Regrouping
import PropertyGen.Proofs.RelativeUsings
import PropertyGen.Proofs.Reordering
import PropertyGen.Proofs.Returns
import PropertyGen.Proofs.Runs
import PropertyGen.Proofs.Segments
import PropertyGen.Proofs.Shadowing
import PropertyGen.Proofs.Silence
import PropertyGen.Proofs.SkippedArguments
import PropertyGen.Proofs.Slices
import PropertyGen.Proofs.Spaces
import PropertyGen.Proofs.Spellings
import PropertyGen.Proofs.Strangeness
import PropertyGen.Proofs.Strangers
import PropertyGen.Proofs.Summaries
import PropertyGen.Proofs.Symbols
import PropertyGen.Proofs.Tables
import PropertyGen.Proofs.Trees
import PropertyGen.Proofs.TypeNames
import PropertyGen.Proofs.VerbatimNames
import PropertyGen.Proofs.VerbatimUses
import PropertyGen.Proofs.Words
import PropertyGen.Proofs.Workspaces
import PropertyGen.Record.Datum
import PropertyGen.Record.Notation
import PropertyGen.Record.Reading
import PropertyGen.Reports.Diagnostic
import PropertyGen.Reports.Logged
import PropertyGen.Reports.Note
import PropertyGen.Reports.Templates
import PropertyGen.Settings
import PropertyGen.Syntax.Declaration
import PropertyGen.Syntax.Node
import PropertyGen.Syntax.Site
import PropertyGen.Syntax.Source
import PropertyGen.Table
import PropertyGen.Text.Blank
import PropertyGen.Text.Lowercase
import PropertyGen.Text.LowercaseTable
import PropertyGen.Text.Pieces
import PropertyGen.Text.Points
import PropertyGen.Text.Quoted
import PropertyGen.Text.Ranges
import PropertyGen.Text.Unprintable
import PropertyGen.Text.Utf8
import PropertyGen.Xml.Character
import PropertyGen.Xml.Document
import PropertyGen.Xml.Namespaces
import PropertyGen.Xml.Scan
import PropertyGen.Xml.Token
import PropertyGen.Xml.TokenLemmas
