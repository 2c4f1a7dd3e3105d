import Activation.Activator
import Activation.Argument
import Activation.Constructor
import Activation.Datum
import Activation.Diagnostic
import Activation.Event
import Activation.Failure
import Activation.Generated.Code
import Activation.Generated.Constructors
import Activation.Generated.Reading
import Activation.Generated.Types
import Activation.Identity
import Activation.Linking
import Activation.Options
import Activation.OptionsDocument
import Activation.Overlap
import Activation.Overload
import Activation.OverloadSet
import Activation.Proofs.Assembly
import Activation.Proofs.Classification
import Activation.Proofs.Contents
import Activation.Proofs.Decimals
import Activation.Proofs.DeclaredTypes
import Activation.Proofs.Delivery
import Activation.Proofs.Entries
import Activation.Proofs.Enumerations
import Activation.Proofs.Extension
import Activation.Proofs.Failures
import Activation.Proofs.Generation
import Activation.Proofs.History
import Activation.Proofs.ImplementedType
import Activation.Proofs.LinkedParsers
import Activation.Proofs.MemberParsing
import Activation.Proofs.Memo
import Activation.Proofs.NameIndex
import Activation.Proofs.NamedActivation
import Activation.Proofs.Names.Likeness
import Activation.Proofs.Names.Renaming
import Activation.Proofs.Overlap.Outcome
import Activation.Proofs.Overlap.Steps
import Activation.Proofs.Parallel
import Activation.Proofs.Reordering
import Activation.Proofs.Repetition
import Activation.Proofs.Representation
import Activation.Proofs.Search
import Activation.Proofs.SelectedCode
import Activation.Proofs.Selection
import Activation.Proofs.Shapes
import Activation.Proofs.ShortNames
import Activation.Proofs.Taking
import Activation.Proofs.TypeSoundness
import Activation.Proofs.Warnings
import Activation.Proofs.Widening
import Activation.Proofs.WithoutArguments
import Activation.Proofs.WrittenAgain
import Activation.Proofs.WrittenWords
import Activation.Reading
import Activation.Registration
import Activation.Registry
import Activation.Sample.Catalogue
import Activation.Sample.Form
import Activation.Sample.Records
import Activation.Source.Attribute
import Activation.Source.Declaration
import Activation.Source.Grammar
import Activation.Source.Grammar.Basic
import Activation.Source.Grammar.Expressions
import Activation.Source.Grammar.Items
import Activation.Source.Grammar.Patterns
import Activation.Source.Grammar.Types
import Activation.Source.Implementation
import Activation.Source.Lexer
import Activation.Source.Literal
import Activation.Source.Pattern
import Activation.Source.SelfType
import Activation.Source.Tree
import Activation.Source.Written
import Activation.Text.Binary64
import Activation.Text.Blank
import Activation.Text.Combining
import Activation.Text.Decimal
import Activation.Text.Identifier
import Activation.Text.Printable
import Activation.Text.Quoted
import Activation.Text.Ranges
import Activation.Text.Reader
import Activation.Toml.Document
import Activation.Toml.Literal
import Activation.Toml.Scalar
import Activation.Toml.Value
import Activation.TypeMap
import Activation.Width
import Activation.Zero
