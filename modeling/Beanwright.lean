import Beanwright.Assembly.Assembler
import Beanwright.Assembly.ClassText
import Beanwright.Bean.Basic
import Beanwright.Bean.Document
import Beanwright.BeanError
import Beanwright.CommandLine.Command
import Beanwright.CommandLine.Help
import Beanwright.CommandLine.Task
import Beanwright.CommandLine.Vocabulary
import Beanwright.Double.Basic
import Beanwright.Double.Shortest
import Beanwright.FileTree
import Beanwright.Generation
import Beanwright.Guard.Basic
import Beanwright.Guard.TypeCheck
import Beanwright.Identifier
import Beanwright.Inspection
import Beanwright.Instance
import Beanwright.Json.Basic
import Beanwright.Json.Printer
import Beanwright.Json.Reader
import Beanwright.Json.SyntaxError
import Beanwright.Layout.Basic
import Beanwright.Layout.Breaking
import Beanwright.Layout.Nesting
import Beanwright.Layout.Signature
import Beanwright.Layout.Spacing
import Beanwright.Main
import Beanwright.Path
import Beanwright.Proofs.Bean.Entries
import Beanwright.Proofs.Bean.Faults
import Beanwright.Proofs.Bean.Resolution
import Beanwright.Proofs.Double.Integer
import Beanwright.Proofs.Double.Nearest
import Beanwright.Proofs.Double.Value
import Beanwright.Proofs.FileTree.Following
import Beanwright.Proofs.FileTree.Writing
import Beanwright.Proofs.Guard.Distinctness
import Beanwright.Proofs.Guard.IntegerRange
import Beanwright.Proofs.Identifier.Derivation
import Beanwright.Proofs.Identifier.LifeCycle
import Beanwright.Proofs.Instance.Accessors
import Beanwright.Proofs.Instance.Record
import Beanwright.Proofs.Instance.RecordText
import Beanwright.Proofs.Instance.Slots
import Beanwright.Proofs.Json.Equality
import Beanwright.Proofs.Json.RoundTrip
import Beanwright.Proofs.Json.Scalar
import Beanwright.Proofs.Layout.Balance
import Beanwright.Proofs.Layout.Breaking
import Beanwright.Proofs.Layout.Code
import Beanwright.Proofs.Layout.Confluence
import Beanwright.Proofs.Layout.Controls
import Beanwright.Proofs.Layout.EqualsRuns
import Beanwright.Proofs.Layout.Inlining
import Beanwright.Proofs.Layout.KeptTokens
import Beanwright.Proofs.Layout.Mentions
import Beanwright.Proofs.Layout.NormalForm
import Beanwright.Proofs.Layout.Openers
import Beanwright.Proofs.Layout.Operators
import Beanwright.Proofs.Layout.Respacing
import Beanwright.Proofs.Layout.Separated
import Beanwright.Proofs.Layout.Signature
import Beanwright.Proofs.Layout.Solid
import Beanwright.Proofs.Layout.Spacing
import Beanwright.Proofs.Layout.Strictness
import Beanwright.Proofs.Layout.Tokens
import Beanwright.Proofs.Program.Agreement
import Beanwright.Proofs.Program.Basic
import Beanwright.Proofs.Program.Hygiene
import Beanwright.Proofs.Program.Leaves
import Beanwright.Proofs.Program.Listing
import Beanwright.Proofs.Program.Literals
import Beanwright.Proofs.Program.Mirror
import Beanwright.Proofs.Program.Preview
import Beanwright.Proofs.Program.Reassembly
import Beanwright.Proofs.Program.Signature
import Beanwright.Proofs.Program.Spacing
import Beanwright.Proofs.Program.Writing
import Beanwright.Proofs.Registry.ClassName
import Beanwright.Proofs.Registry.Reachable
import Beanwright.Proofs.Registry.Collision
import Beanwright.Proofs.Registry.Names
import Beanwright.Proofs.Source.Place
import Beanwright.Proofs.Text.Lines
import Beanwright.Proofs.Text.Name
import Beanwright.Proofs.Text.Solid
import Beanwright.Proofs.Text.Utf8
import Beanwright.Proofs.Text.Words
import Beanwright.Registry.Basic
import Beanwright.Source
import Beanwright.Text.Basic
import Beanwright.Text.Blank
import Beanwright.Text.Unprintable
import Beanwright.Text.UpperCase
import Beanwright.Text.Utf8
import Beanwright.Text.WordCharacter
import Beanwright.Toml.DateTime
import Beanwright.Toml.Number
import Beanwright.Toml.Quoted
import Beanwright.Toml.Reader
import Beanwright.Toml.Table
