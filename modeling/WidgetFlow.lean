import WidgetFlow.Text.Blank
import WidgetFlow.Text.Letter
import WidgetFlow.Text.Case
import WidgetFlow.Text.Search
import WidgetFlow.Decimal.Text
import WidgetFlow.Decimal.Reader
import WidgetFlow.Value.Reader
import WidgetFlow.Value.Coerce
import WidgetFlow.Value.Merge
import WidgetFlow.Value.Record
import WidgetFlow.Script.Position
import WidgetFlow.Script.Handler
import WidgetFlow.Config.Loader
import WidgetFlow.Output.Markup
import WidgetFlow.Widget.Definition
import WidgetFlow.Flow.Transform
import WidgetFlow.Engine.Host
import WidgetFlow.Screen.Interaction
import WidgetFlow.Screen.Replace
import WidgetFlow.Main
import WidgetFlow.Proofs.Dict
import WidgetFlow.Proofs.Widget.Store
import WidgetFlow.Proofs.Engine.Closed
import WidgetFlow.Proofs.Script.Growth
import WidgetFlow.Proofs.Script.Shape
import WidgetFlow.Proofs.Script.Level
import WidgetFlow.Proofs.Screen.Cache
import WidgetFlow.Proofs.Engine.Local
import WidgetFlow.Proofs.Engine.Structure
import WidgetFlow.Proofs.Screen.Materialize
import WidgetFlow.Proofs.Screen.Mirror
import WidgetFlow.Proofs.Screen.Replacement
import WidgetFlow.Proofs.Screen.InStep
import WidgetFlow.Proofs.Script.Expression
import WidgetFlow.Proofs.Script.Disjoint
import WidgetFlow.Proofs.Engine.Rejection
import WidgetFlow.Proofs.Behavior.Output
import WidgetFlow.Proofs.Engine.Wiring
import WidgetFlow.Proofs.Engine.Cascade
import WidgetFlow.Proofs.Engine.Outputs
import WidgetFlow.Proofs.Screen.Redraw
import WidgetFlow.Proofs.Screen.Again
import WidgetFlow.Proofs.Screen.Restart
import WidgetFlow.Proofs.Engine.Journal
import WidgetFlow.Proofs.Screen.Numbers
import WidgetFlow.Proofs.Widget.Revision
import WidgetFlow.Proofs.Engine.Private
import WidgetFlow.Proofs.Engine.Trail
import WidgetFlow.Proofs.Engine.Account
import WidgetFlow.Proofs.Screen.Removal
import WidgetFlow.Proofs.Screen.Progress
import WidgetFlow.Proofs.Engine.Simple
import WidgetFlow.Proofs.Screen.Wires
import WidgetFlow.Proofs.Script.Spelling
import WidgetFlow.Proofs.Text.Relate
import WidgetFlow.Proofs.Script.Extension
import WidgetFlow.Proofs.Engine.SingleHop
import WidgetFlow.Proofs.Widget.Alias
import WidgetFlow.Proofs.Engine.Compatible
import WidgetFlow.Proofs.Output.Reader
import WidgetFlow.Proofs.Output.Markup
import WidgetFlow.Proofs.Decimal.Count
import WidgetFlow.Proofs.Script.Lens
import WidgetFlow.Proofs.Script.Observe
import WidgetFlow.Proofs.Script.Assign
import WidgetFlow.Proofs.Script.Compound
import WidgetFlow.Proofs.Script.Calls
import WidgetFlow.Proofs.Script.Comment
import WidgetFlow.Proofs.Script.Limit
import WidgetFlow.Proofs.Script.Course
import WidgetFlow.Proofs.Script.Scoping
import WidgetFlow.Proofs.Script.Result
import WidgetFlow.Proofs.Script.Position
import WidgetFlow.Proofs.Engine.AutoConnect
import WidgetFlow.Proofs.Flow.Edges
import WidgetFlow.Proofs.Config.AliasCycle
import WidgetFlow.Proofs.Value.Merge
import WidgetFlow.Proofs.Widget.Latest
import WidgetFlow.Proofs.Flow.History
import WidgetFlow.Proofs.Engine.Toggle
import WidgetFlow.Proofs.Screen.Layout
import WidgetFlow.Proofs.Tree.Plan
import WidgetFlow.Proofs.Script.Slice
import WidgetFlow.Proofs.Screen.Dispatch
import WidgetFlow.Proofs.Screen.Identity
import WidgetFlow.Proofs.Script.Audit
