import ProcessBuild.Build.Compiler
import ProcessBuild.Build.Diagnosis
import ProcessBuild.Build.Error
import ProcessBuild.Build.Run
import ProcessBuild.Build.Settings
import ProcessBuild.Build.Unit
import ProcessBuild.Builder.Statement
import ProcessBuild.CommandLine.Arguments
import ProcessBuild.CommandLine.EnvFile
import ProcessBuild.CommandLine.Run
import ProcessBuild.Digest.Sha256
import ProcessBuild.Environment.Basic
import ProcessBuild.Environment.RestGate
import ProcessBuild.Files.Path
import ProcessBuild.Files.Tree
import ProcessBuild.Generation.Artifact
import ProcessBuild.Generation.CrateRoot
import ProcessBuild.Generation.Events
import ProcessBuild.Generation.Generator
import ProcessBuild.Generation.HotReload
import ProcessBuild.Generation.Messaging
import ProcessBuild.Generation.Rest
import ProcessBuild.Json.Decode
import ProcessBuild.Json.Document
import ProcessBuild.Json.Number
import ProcessBuild.Json.Reader
import ProcessBuild.Json.Schema
import ProcessBuild.Json.Skip
import ProcessBuild.Json.Value
import ProcessBuild.Json.Writer
import ProcessBuild.Main
import ProcessBuild.Names.NameMap
import ProcessBuild.Names.NameSet
import ProcessBuild.Number.Binary64
import ProcessBuild.Number.Shortest
import ProcessBuild.Process.Basic
import ProcessBuild.Process.Codec
import ProcessBuild.Process.Metadata
import ProcessBuild.Process.Schema
import ProcessBuild.Proofs.Build.Acceptance
import ProcessBuild.Proofs.Build.Agreement
import ProcessBuild.Proofs.Build.ArtifactPlaces
import ProcessBuild.Proofs.Build.Blame
import ProcessBuild.Proofs.Build.CompilerView
import ProcessBuild.Proofs.Build.KeptEvents
import ProcessBuild.Proofs.Build.Reproducible
import ProcessBuild.Proofs.Build.RestResources
import ProcessBuild.Proofs.Build.Stages
import ProcessBuild.Proofs.Build.WiderBuilds
import ProcessBuild.Proofs.Build.WriteDiscipline
import ProcessBuild.Proofs.Builder.Reading
import ProcessBuild.Proofs.Builder.Recording
import ProcessBuild.Proofs.Builder.Spelling
import ProcessBuild.Proofs.Builder.StatementText
import ProcessBuild.Proofs.Environment.Fields
import ProcessBuild.Proofs.Environment.RestGate
import ProcessBuild.Proofs.Files.Changes
import ProcessBuild.Proofs.Files.Places
import ProcessBuild.Proofs.Generation.Barrier
import ProcessBuild.Proofs.Generation.CrateRoot
import ProcessBuild.Proofs.Generation.CrateRootText
import ProcessBuild.Proofs.Generation.Declarations
import ProcessBuild.Proofs.Generation.Events
import ProcessBuild.Proofs.Generation.Facts
import ProcessBuild.Proofs.Generation.Features
import ProcessBuild.Proofs.Generation.Gathering
import ProcessBuild.Proofs.Generation.Lines
import ProcessBuild.Proofs.Generation.Messaging
import ProcessBuild.Proofs.Generation.ModelDigest
import ProcessBuild.Proofs.Generation.ModelOrder
import ProcessBuild.Proofs.Generation.Modules
import ProcessBuild.Proofs.Generation.Rest
import ProcessBuild.Proofs.Generation.SafeNames
import ProcessBuild.Proofs.Generation.Walk
import ProcessBuild.Proofs.Json.Delimiting
import ProcessBuild.Proofs.Json.Fields
import ProcessBuild.Proofs.Json.MemberOrder
import ProcessBuild.Proofs.Json.Reading
import ProcessBuild.Proofs.Json.Validity
import ProcessBuild.Proofs.Json.WrittenText
import ProcessBuild.Proofs.Process.Conformance
import ProcessBuild.Proofs.Process.Fields
import ProcessBuild.Proofs.Process.Lossless
import ProcessBuild.Proofs.Reflection.AllowList
import ProcessBuild.Proofs.Results
import ProcessBuild.Proofs.Source.Expressions
import ProcessBuild.Proofs.Source.Functions
import ProcessBuild.Proofs.Source.Identifiers
import ProcessBuild.Proofs.Source.Items
import ProcessBuild.Proofs.Source.Layout
import ProcessBuild.Proofs.Source.Lexing
import ProcessBuild.Proofs.Source.LiteralValue
import ProcessBuild.Proofs.Source.LiteralWidth
import ProcessBuild.Proofs.Source.Naming
import ProcessBuild.Proofs.Source.Occurrence
import ProcessBuild.Proofs.Source.Parsing
import ProcessBuild.Proofs.Source.Parts
import ProcessBuild.Proofs.Source.Scope
import ProcessBuild.Proofs.Source.Statements
import ProcessBuild.Proofs.Source.TokenText
import ProcessBuild.Proofs.Translation.BuilderName
import ProcessBuild.Proofs.Translation.Entries
import ProcessBuild.Proofs.Translation.Guarded
import ProcessBuild.Proofs.Translation.Hygiene
import ProcessBuild.Proofs.Translation.Meaning
import ProcessBuild.Proofs.Translation.Methods
import ProcessBuild.Proofs.Translation.NormalForm
import ProcessBuild.Proofs.Translation.Outcome
import ProcessBuild.Proofs.Translation.ProgramText
import ProcessBuild.Proofs.Translation.Spelling
import ProcessBuild.Proofs.Translation.Threading
import ProcessBuild.Proofs.Translation.WellFormed
import ProcessBuild.Proofs.TypeIndex.AbsoluteNames
import ProcessBuild.Proofs.TypeIndex.Facts
import ProcessBuild.Proofs.TypeIndex.Fields
import ProcessBuild.Proofs.TypeIndex.FileIndex
import ProcessBuild.Proofs.TypeIndex.Growth
import ProcessBuild.Proofs.TypeIndex.ItemOrder
import ProcessBuild.Proofs.TypeIndex.Join
import ProcessBuild.Proofs.TypeIndex.LocalImpls
import ProcessBuild.Proofs.TypeIndex.Reachability
import ProcessBuild.Proofs.TypeIndex.UseExpansion
import ProcessBuild.Proofs.TypeIndex.Widening
import ProcessBuild.Reflection.AllowList
import ProcessBuild.Reflection.Table
import ProcessBuild.Reflection.TableText
import ProcessBuild.Source.Grammar
import ProcessBuild.Source.Grammar.Attribute
import ProcessBuild.Source.Grammar.Basic
import ProcessBuild.Source.Grammar.Expr
import ProcessBuild.Source.Grammar.Item
import ProcessBuild.Source.Grammar.Path
import ProcessBuild.Source.Grammar.Pattern
import ProcessBuild.Source.Grammar.Statement
import ProcessBuild.Source.Grammar.Type
import ProcessBuild.Source.Item
import ProcessBuild.Source.Lexer
import ProcessBuild.Source.Literal
import ProcessBuild.Source.Naming
import ProcessBuild.Source.Scope
import ProcessBuild.Source.Stream
import ProcessBuild.Source.SyntaxFault
import ProcessBuild.Source.Token
import ProcessBuild.Source.Tree
import ProcessBuild.Text.Blank
import ProcessBuild.Text.Hidden
import ProcessBuild.Text.Quoted
import ProcessBuild.Text.Search
import ProcessBuild.Text.Word
import ProcessBuild.Translation.Context
import ProcessBuild.Translation.Declaration
import ProcessBuild.Translation.Fault
import ProcessBuild.Translation.Node
import ProcessBuild.Translation.Program
import ProcessBuild.TypeIndex.Basic
import ProcessBuild.TypeIndex.Codec
import ProcessBuild.TypeIndex.Declarations
import ProcessBuild.TypeIndex.Subtypes
