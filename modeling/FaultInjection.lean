import FaultInjection.Action
import FaultInjection.Cache.Basic
import FaultInjection.Call
import FaultInjection.CommandLine
import FaultInjection.Config.Engine
import FaultInjection.Config.RuleSet
import FaultInjection.Config.Shape
import FaultInjection.Config.Source
import FaultInjection.Conformance.Actions
import FaultInjection.Conformance.Fixture
import FaultInjection.Conformance.Matchers
import FaultInjection.Crash
import FaultInjection.Decimal.Binary64
import FaultInjection.Decimal.Layout
import FaultInjection.Decimal.Reader
import FaultInjection.Decimal.Shortest
import FaultInjection.Dict
import FaultInjection.Document.Basic
import FaultInjection.Document.Reader
import FaultInjection.Document.Stream
import FaultInjection.Expression.Basic
import FaultInjection.Expression.Binding
import FaultInjection.Expression.Error
import FaultInjection.Expression.Eval
import FaultInjection.Expression.Evaluator
import FaultInjection.Expression.Function
import FaultInjection.Expression.Operand
import FaultInjection.Expression.Token
import FaultInjection.Expression.Tree
import FaultInjection.Injection.Decision
import FaultInjection.Injection.Injector
import FaultInjection.Json.Basic
import FaultInjection.Json.Printer
import FaultInjection.Json.Reader
import FaultInjection.Limit.Admission
import FaultInjection.Limit.Basic
import FaultInjection.Limit.Counter
import FaultInjection.Main
import FaultInjection.Matching.Selection
import FaultInjection.Matching.Strategy
import FaultInjection.Pattern.Basic
import FaultInjection.Pattern.ByteRows
import FaultInjection.Pattern.CharSet
import FaultInjection.Pattern.Matcher
import FaultInjection.Pattern.Meaning
import FaultInjection.Pattern.Plan
import FaultInjection.Pattern.Reader
import FaultInjection.Pattern.Regex
import FaultInjection.Pattern.Size
import FaultInjection.Pattern.Whole
import FaultInjection.Property.AgeTable
import FaultInjection.Property.Basic
import FaultInjection.Property.Break
import FaultInjection.Property.FlagTable
import FaultInjection.Property.Name
import FaultInjection.Property.Script
import FaultInjection.Property.ScriptTable
import FaultInjection.Proofs.Cache.Faithful
import FaultInjection.Proofs.Expression.Verdict
import FaultInjection.Proofs.Injection.Conservation
import FaultInjection.Proofs.Injection.FirstMatch
import FaultInjection.Proofs.Injection.Invocation
import FaultInjection.Proofs.Injection.Run
import FaultInjection.Proofs.Injection.Transparency
import FaultInjection.Proofs.Limit.Traffic
import FaultInjection.Proofs.Matching.Verdict
import FaultInjection.Registry
import FaultInjection.Rule.Basic
import FaultInjection.Rule.Key
import FaultInjection.Text.Bytes
import FaultInjection.Text.Case
import FaultInjection.Text.CaseTable
import FaultInjection.Text.Category
import FaultInjection.Text.CategoryTable
import FaultInjection.Text.PropertyTable
import FaultInjection.Text.Quoted
import FaultInjection.Text.Ranges
import FaultInjection.Text.Space
import FaultInjection.Text.Split
import FaultInjection.Value
import FaultInjection.Proofs.Expression.Trim
import FaultInjection.Proofs.Config.Validation
import FaultInjection.Proofs.Config.Loaded
import FaultInjection.Proofs.Registry.Roster
import FaultInjection.Proofs.Cache.Contents
import FaultInjection.Proofs.Cache.Eager
import FaultInjection.Proofs.Cache.AccessLog
import FaultInjection.Proofs.Cache.Residency
import FaultInjection.Proofs.Config.Loading
import FaultInjection.Proofs.Conformance.Recording
import FaultInjection.Proofs.Injection.Targets
import FaultInjection.Proofs.Pattern.Bounds
import FaultInjection.Proofs.Pattern.Whole
import FaultInjection.Proofs.Cache.Failure
import FaultInjection.Proofs.Matching.Conjunction
import FaultInjection.Proofs.Limit.Effective
import FaultInjection.Proofs.Config.Limits
import FaultInjection.Proofs.Expression.Writes
import FaultInjection.Proofs.Expression.Arguments
import FaultInjection.Proofs.Expression.Reads
import FaultInjection.Proofs.Expression.Order
import FaultInjection.Proofs.Decimal.Whole
import FaultInjection.Proofs.Config.Counts
import FaultInjection.Proofs.Limit.Series
import FaultInjection.Proofs.Rule.Identifier
import FaultInjection.Proofs.Matching.BusinessParams
import FaultInjection.Proofs.Injection.Flags
import FaultInjection.Proofs.Expression.Height
import FaultInjection.Proofs.Expression.Passing
import FaultInjection.Proofs.Limit.Extremes
import FaultInjection.Proofs.Rule.Spelling
import FaultInjection.Proofs.Action.Resolution
import FaultInjection.Proofs.CommandLine.Options
import FaultInjection.Proofs.Conformance.Subset
import FaultInjection.Proofs.Conformance.Repetition
import FaultInjection.Proofs.Cache.Slots
import FaultInjection.Proofs.Rule.PatternKey
import FaultInjection.Proofs.Expression.Conversion
import FaultInjection.Proofs.Decimal.Comparison
import FaultInjection.Proofs.Value.Equality
