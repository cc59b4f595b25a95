import ViewBinding.Annotation
import ViewBinding.Build
import ViewBinding.BuildScript
import ViewBinding.Code.Sink
import ViewBinding.Code.Step
import ViewBinding.Code.Writer
import ViewBinding.CommandLine.Arguments
import ViewBinding.CommandLine.Basic
import ViewBinding.Decimal.Shortest
import ViewBinding.Declaration
import ViewBinding.Diagnostic
import ViewBinding.Diagnostic.Format
import ViewBinding.Document.Basic
import ViewBinding.Document.Json
import ViewBinding.Document.Shape
import ViewBinding.Document.Toml.Reader
import ViewBinding.Document.Toml.Scalar
import ViewBinding.Document.Toml.Table
import ViewBinding.Document.Toml.Value
import ViewBinding.Files.Path
import ViewBinding.Files.System
import ViewBinding.Files.Tree
import ViewBinding.HostClass
import ViewBinding.Injector.Basic
import ViewBinding.Injector.Emission
import ViewBinding.Injector.Source
import ViewBinding.Java.Identifier
import ViewBinding.Java.QualifiedName
import ViewBinding.Java.TypeName
import ViewBinding.Json.Basic
import ViewBinding.Json.Rendering
import ViewBinding.Main
import ViewBinding.Manifest.Basic
import ViewBinding.Manifest.Format
import ViewBinding.Manifest.Loading
import ViewBinding.Manifest.Validation
import ViewBinding.Placement
import ViewBinding.Problems
import ViewBinding.Report
import ViewBinding.Round
import ViewBinding.Session
import ViewBinding.Settings
import ViewBinding.SortedMap
import ViewBinding.SourceVersion
import ViewBinding.Store.Basic
import ViewBinding.Store.Directory
import ViewBinding.Store.Memory
import ViewBinding.Text.Alphabetic
import ViewBinding.Text.Blank
import ViewBinding.Text.Bytes
import ViewBinding.Text.CodeRun
import ViewBinding.Text.Numeric
import ViewBinding.Text.Printable
import ViewBinding.Text.Quoted
import ViewBinding.Text.Segments
import ViewBinding.Text.Uppercase
import ViewBinding.Proofs.Gathering.Sightings
import ViewBinding.Proofs.SortedMap
import ViewBinding.Proofs.Gathering.Claims
import ViewBinding.Proofs.Gathering.Reference
import ViewBinding.Proofs.Gathering.Summary
import ViewBinding.Proofs.Session.Settling
import ViewBinding.Proofs.Session.Trace
import ViewBinding.Proofs.Gathering.Order
import ViewBinding.Proofs.Manifest.Validity
import ViewBinding.Proofs.Manifest.DryBuild
import ViewBinding.Proofs.Manifest.Order
import ViewBinding.Proofs.Code.Lines
import ViewBinding.Proofs.Injector.Layout
import ViewBinding.Proofs.Injector.Statements
import ViewBinding.Proofs.Manifest.Completeness
import ViewBinding.Proofs.Java.Names
import ViewBinding.Proofs.Java.Packages
import ViewBinding.Proofs.Injector.Names
import ViewBinding.Proofs.Store.Directory
import ViewBinding.Proofs.Store.Memory
import ViewBinding.Proofs.Session.InMemory
import ViewBinding.Proofs.Gathering.Isolation
import ViewBinding.Proofs.Session.Isolation
import ViewBinding.Proofs.Files.Places
import ViewBinding.Proofs.Files.Ways
import ViewBinding.Proofs.Files.Writing
import ViewBinding.Proofs.Manifest.RealBuild
import ViewBinding.Proofs.Session.Emission
import ViewBinding.Proofs.Manifest.Emission
import ViewBinding.Proofs.SymbolKey
import ViewBinding.Proofs.Gathering.Hosts
import ViewBinding.Proofs.Gathering.Discovery
import ViewBinding.Proofs.Session.Rounds
import ViewBinding.Proofs.Gathering.Splitting
import ViewBinding.Proofs.Session.Splitting
import ViewBinding.Proofs.Manifest.Containment
import ViewBinding.Proofs.Manifest.TreeBuild
import ViewBinding.Proofs.Java.Types
import ViewBinding.Proofs.Injector.Structure
import ViewBinding.Proofs.Manifest.Structure
import ViewBinding.Proofs.Text.Cutting
import ViewBinding.Proofs.Text.Digits
import ViewBinding.Proofs.Json.Reading
import ViewBinding.Proofs.Document.Decoding
import ViewBinding.Proofs.Manifest.RoundTrip
import ViewBinding.Proofs.Injector.Reading
import ViewBinding.Proofs.Manifest.Bindings
import ViewBinding.Proofs.Manifest.Success
import ViewBinding.Proofs.CommandLine.Answers
import ViewBinding.Proofs.Text.Lines
import ViewBinding.Proofs.Code.Indentation
import ViewBinding.Proofs.Injector.Indentation
import ViewBinding.Proofs.Manifest.Indentation
import ViewBinding.Proofs.Injector.Rendering
import ViewBinding.Proofs.Placement.Rules
import ViewBinding.Proofs.Java.ClassTypes
import ViewBinding.Proofs.Manifest.Handlers
import ViewBinding.Proofs.Manifest.Complaints
import ViewBinding.Proofs.Injector.Mangling
import ViewBinding.Proofs.Manifest.Symbols
import ViewBinding.Proofs.Java.TypeGrammar
import ViewBinding.Proofs.Injector.Emission
import ViewBinding.Proofs.Store.Calls
import ViewBinding.Proofs.Code.Guards
import ViewBinding.Proofs.Code.Pieces
import ViewBinding.Proofs.Code.Limits
import ViewBinding.Proofs.Code.Scripts
