import Notebook.Calendar
import Notebook.Cell.Builtin
import Notebook.Cell.Compile
import Notebook.Cell.Declaration
import Notebook.Cell.Directive
import Notebook.Cell.Inspect
import Notebook.Cell.Names
import Notebook.Cell.Report
import Notebook.Cell.Require
import Notebook.Code.Compile
import Notebook.Code.Expr
import Notebook.Code.Gen
import Notebook.Code.Instr
import Notebook.Code.Pattern
import Notebook.Code.Stmt
import Notebook.Config
import Notebook.Datum
import Notebook.Decimal.Binary
import Notebook.Decimal.Integer
import Notebook.Decimal.Quotient
import Notebook.Decimal.Read
import Notebook.Decimal.Shortest
import Notebook.Display.Layout
import Notebook.Display.Message
import Notebook.Display.Shown
import Notebook.Display.Spec
import Notebook.Exports
import Notebook.Files
import Notebook.Grammar.Basic
import Notebook.Grammar.Expr
import Notebook.Grammar.Format
import Notebook.Grammar.Literal
import Notebook.Grammar.Parse
import Notebook.Grammar.Pattern
import Notebook.Grammar.Rules
import Notebook.Grammar.Stmt
import Notebook.Grammar.Target
import Notebook.Loop.Basic
import Notebook.Loop.Race
import Notebook.Loop.Run
import Notebook.Loop.Script
import Notebook.Machine.Args
import Notebook.Machine.Attribute
import Notebook.Machine.Call
import Notebook.Machine.Compare
import Notebook.Machine.Construct
import Notebook.Machine.ContainerMethod
import Notebook.Machine.Digest
import Notebook.Machine.Field
import Notebook.Machine.Format
import Notebook.Machine.Function
import Notebook.Machine.Group
import Notebook.Machine.Heap
import Notebook.Machine.Import
import Notebook.Machine.Instance
import Notebook.Machine.Item
import Notebook.Machine.Iterate
import Notebook.Machine.Match
import Notebook.Machine.Method
import Notebook.Machine.Native
import Notebook.Machine.NativeMethod
import Notebook.Machine.Number
import Notebook.Machine.Numeric
import Notebook.Machine.Operate
import Notebook.Machine.Percent
import Notebook.Machine.Run
import Notebook.Machine.Scope
import Notebook.Machine.Step
import Notebook.Machine.Task
import Notebook.Machine.Text
import Notebook.Machine.TextMethod
import Notebook.Machine.Value
import Notebook.Main
import Notebook.Module.Cache
import Notebook.Module.Specifier
import Notebook.Outcome
import Notebook.Path
import Notebook.Proofs.Absence
import Notebook.Proofs.Announced
import Notebook.Proofs.ArenaWiring
import Notebook.Proofs.Between
import Notebook.Proofs.BindingScope
import Notebook.Proofs.Body
import Notebook.Proofs.Calm
import Notebook.Proofs.Coherence
import Notebook.Proofs.Collect
import Notebook.Proofs.Completion
import Notebook.Proofs.Containment
import Notebook.Proofs.Correspondence
import Notebook.Proofs.Course
import Notebook.Proofs.Declared
import Notebook.Proofs.Delivery
import Notebook.Proofs.Displays
import Notebook.Proofs.Dotted
import Notebook.Proofs.Elementary
import Notebook.Proofs.Emission
import Notebook.Proofs.Entry
import Notebook.Proofs.Execution
import Notebook.Proofs.Fetch
import Notebook.Proofs.FromImport
import Notebook.Proofs.Guarded
import Notebook.Proofs.History
import Notebook.Proofs.HostModules
import Notebook.Proofs.Incremental
import Notebook.Proofs.Isolation
import Notebook.Proofs.Kinds
import Notebook.Proofs.Lasting
import Notebook.Proofs.Layout
import Notebook.Proofs.Leading
import Notebook.Proofs.Loading
import Notebook.Proofs.ModuleNames
import Notebook.Proofs.NameCheck
import Notebook.Proofs.Namespace
import Notebook.Proofs.Occurrence
import Notebook.Proofs.Packages
import Notebook.Proofs.Publication
import Notebook.Proofs.RaceWiring
import Notebook.Proofs.Reach
import Notebook.Proofs.Report
import Notebook.Proofs.Resolution
import Notebook.Proofs.Rewriting
import Notebook.Proofs.Sequential
import Notebook.Proofs.Settings
import Notebook.Proofs.Settling
import Notebook.Proofs.Signals
import Notebook.Proofs.Slashless
import Notebook.Proofs.Snapshots
import Notebook.Proofs.Steady
import Notebook.Proofs.Still
import Notebook.Proofs.Straight
import Notebook.Proofs.Submodules
import Notebook.Proofs.Suspension
import Notebook.Proofs.Transcript
import Notebook.Proofs.Turns
import Notebook.Proofs.Unfailing
import Notebook.Proofs.Unrelated
import Notebook.Proofs.Variables
import Notebook.Proofs.Wiring
import Notebook.Proofs.Wrapped
import Notebook.Proofs.Written
import Notebook.Realm
import Notebook.Repl
import Notebook.Scope.Basic
import Notebook.Scope.Collect
import Notebook.Scope.Resolve
import Notebook.Session.Basic
import Notebook.Session.Run
import Notebook.Sink
import Notebook.Source.Fault
import Notebook.Source.Lexer
import Notebook.Source.Token
import Notebook.Template
import Notebook.Text.CaseTable
import Notebook.Text.CharName
import Notebook.Text.Class
import Notebook.Text.Codec
import Notebook.Text.Letter
import Notebook.Text.Lines
import Notebook.Text.NameRows.Aliases
import Notebook.Text.NameRows.Alphabets
import Notebook.Text.NameRows.Pictures
import Notebook.Text.NameRows.Scripts
import Notebook.Text.NameRows.Symbols
import Notebook.Text.Normal
import Notebook.Text.NormalTable
import Notebook.Text.Point
import Notebook.Text.Property
import Notebook.Text.Quoted
import Notebook.Text.Runs
import Notebook.Text.Sextet
import Notebook.Tree.Depth
import Notebook.Tree.Expr
import Notebook.Tree.Outline
import Notebook.Tree.Printer
import Notebook.Tree.Stmt
import Notebook.Yaml.Construct
import Notebook.Yaml.Lex
import Notebook.Yaml.Node
import Notebook.Yaml.Scalar
import Notebook.Yaml.Token
