import TypedConfig.Binder.Basic
import TypedConfig.Binder.Description
import TypedConfig.Binder.Outcome
import TypedConfig.Binder.Typed
import TypedConfig.Bootstrap.Options
import TypedConfig.Bootstrap.Properties
import TypedConfig.Bootstrap.Units
import TypedConfig.Condition.Basic
import TypedConfig.Condition.Context
import TypedConfig.Condition.Description
import TypedConfig.Decimal.Binary
import TypedConfig.Decimal.Literal
import TypedConfig.Decimal.Shortest
import TypedConfig.Document.Reader
import TypedConfig.Document.Token
import TypedConfig.Error
import TypedConfig.Expression.Dollar
import TypedConfig.Expression.Eval
import TypedConfig.Expression.Function
import TypedConfig.Expression.Operand
import TypedConfig.Expression.Token
import TypedConfig.Expression.Tree
import TypedConfig.Key
import TypedConfig.Layer.Application
import TypedConfig.Layer.Environment
import TypedConfig.Literal.Duration
import TypedConfig.Literal.Integer
import TypedConfig.Literal.Scalar
import TypedConfig.Main
import TypedConfig.Placeholder
import TypedConfig.Proofs.Binder.Agree
import TypedConfig.Proofs.Binder.Basic
import TypedConfig.Proofs.Binder.Conforms
import TypedConfig.Proofs.Binder.Converter
import TypedConfig.Proofs.Binder.Delimited
import TypedConfig.Proofs.Binder.Depth
import TypedConfig.Proofs.Binder.Endless
import TypedConfig.Proofs.Binder.Filter
import TypedConfig.Proofs.Binder.Fits
import TypedConfig.Proofs.Binder.Honest
import TypedConfig.Proofs.Binder.Local
import TypedConfig.Proofs.Binder.Located
import TypedConfig.Proofs.Binder.Overlay
import TypedConfig.Proofs.Binder.Relocation
import TypedConfig.Proofs.Binder.RoundTrip
import TypedConfig.Proofs.Binder.Termination
import TypedConfig.Proofs.Binder.Unfolding
import TypedConfig.Proofs.Bootstrap.Layers
import TypedConfig.Proofs.Bootstrap.Profiles
import TypedConfig.Proofs.Condition.Reading
import TypedConfig.Proofs.Except
import TypedConfig.Proofs.Key.Extension
import TypedConfig.Proofs.Key.Grammar
import TypedConfig.Proofs.Key.Tree
import TypedConfig.Proofs.Literal.Integer
import TypedConfig.Proofs.Placeholder.Nesting
import TypedConfig.Proofs.Placeholder.Scanner
import TypedConfig.Proofs.Placeholder.Template
import TypedConfig.Proofs.Shape.Parts
import TypedConfig.Proofs.Source.Alike
import TypedConfig.Proofs.Source.Mirror
import TypedConfig.Proofs.Source.View
import TypedConfig.Proofs.Store.Consistent
import TypedConfig.Proofs.Store.Flatten
import TypedConfig.Proofs.Store.Merge
import TypedConfig.Proofs.Tag.RoundTrip
import TypedConfig.Proofs.Text.Cut
import TypedConfig.Proofs.Unit.Cycle
import TypedConfig.Proofs.Unit.Order
import TypedConfig.Proofs.Unit.Run
import TypedConfig.Proofs.Unit.Stability
import TypedConfig.Registry
import TypedConfig.Resource.Basic
import TypedConfig.Resource.FileTree
import TypedConfig.Resource.Files
import TypedConfig.Resource.Lines
import TypedConfig.Resource.Locations
import TypedConfig.Resource.Path
import TypedConfig.Schema
import TypedConfig.Shape
import TypedConfig.Shape.Description
import TypedConfig.Source
import TypedConfig.Store.Basic
import TypedConfig.Store.Flatten
import TypedConfig.Table
import TypedConfig.Tag
import TypedConfig.Tag.Document
import TypedConfig.Target
import TypedConfig.Text.Basic
import TypedConfig.Text.Blank
import TypedConfig.Text.Case
import TypedConfig.Text.Cased
import TypedConfig.Text.Invisible
import TypedConfig.Text.Quoted
import TypedConfig.Toml.Line
import TypedConfig.Toml.Moment
import TypedConfig.Toml.Node
import TypedConfig.Toml.Quoted
import TypedConfig.Toml.Reader
import TypedConfig.Toml.Scalar
import TypedConfig.Unit.Basic
import TypedConfig.Unit.Description
import TypedConfig.Unit.Order
import TypedConfig.Unit.Run
import TypedConfig.Value.Access
import TypedConfig.Value.Basic
import TypedConfig.Value.Printer
import TypedConfig.Proofs.Store.Union
import TypedConfig.Proofs.Store.Views
import TypedConfig.Proofs.Binder.Null
import TypedConfig.Proofs.Store.Write
import TypedConfig.Proofs.Value.Part
import TypedConfig.Proofs.Store.Document
import TypedConfig.Proofs.Literal.Grammar
import TypedConfig.Proofs.Value.Merge
import TypedConfig.Proofs.Binder.Into
import TypedConfig.Proofs.Literal.Width
import TypedConfig.Proofs.Placeholder.Concatenation
import TypedConfig.Proofs.Text.Parts
import TypedConfig.Proofs.Resource.Lines
import TypedConfig.Proofs.Layer.Variables
import TypedConfig.Proofs.Binder.Gap
import TypedConfig.Proofs.Expression.Dollar
import TypedConfig.Proofs.Key.Containers
import TypedConfig.Proofs.Literal.Component
import TypedConfig.Proofs.Literal.Duration
