import RuleTree.Number.Decimal
import RuleTree.Text.Alphanumeric
import RuleTree.Text.CellWidth
import RuleTree.Text.Identifier
import RuleTree.Text.Letter
import RuleTree.Text.LetterCase
import RuleTree.Text
import RuleTree.Value.Equality
import RuleTree.Value.HashKey
import RuleTree.Pattern.Reader
import RuleTree.Pattern.Search
import RuleTree.Rule.Build
import RuleTree.Rule.Compare
import RuleTree.Rule.Derive
import RuleTree.Node.Draft
import RuleTree.Parse.Event
import RuleTree.Json.Encode
import RuleTree.Json.Reader
import RuleTree.Yaml.Lexer
import RuleTree.Yaml.Meaning
import RuleTree.RuleFile.Load
import RuleTree.Console.Outline
import RuleTree.Console.Table
import RuleTree.Main
import RuleTree.Proofs.Outcome
import RuleTree.Proofs.Parse.Acceptance
import RuleTree.Proofs.Parse.FrameView
import RuleTree.Proofs.Parse.MachineRun
import RuleTree.Proofs.Parse.Drive
import RuleTree.Proofs.Parse.Nesting
import RuleTree.Proofs.Rule.Occurrence
import RuleTree.Proofs.Parse.Termination
import RuleTree.Proofs.Parse.StackInvariant
import RuleTree.Proofs.Node.Contents
import RuleTree.Proofs.Parse.DepthLimit
import RuleTree.Proofs.Parse.LiteralText
import RuleTree.Proofs.RuleFile.InlineRules
import RuleTree.Proofs.RuleFile.Expansion
import RuleTree.Proofs.RuleFile.Dependency
import RuleTree.Proofs.Parse.Success
import RuleTree.Proofs.Rule.Treatment
import RuleTree.Proofs.Node.Replacement
import RuleTree.Proofs.Parse.DefaultExclusion
import RuleTree.Proofs.Parse.Splicing
import RuleTree.Proofs.Parse.Pruning
import RuleTree.Proofs.Parse.Surface
import RuleTree.Proofs.Parse.LiteralRuns
import RuleTree.Proofs.Parse.Bisimulation
import RuleTree.Proofs.Parse.MuteRules
import RuleTree.Proofs.Parse.ShadowedRules
import RuleTree.Proofs.RuleFile.Concurrence
import RuleTree.Proofs.Parse.Failure
import RuleTree.Proofs.RuleFile.Sources
import RuleTree.Proofs.RuleFile.LoadedRules
import RuleTree.Proofs.RuleFile.Unreported
import RuleTree.Proofs.Json.Scalars
import RuleTree.Proofs.Parse.OptionCalls
import RuleTree.Proofs.Json.RoundTrip
import RuleTree.Proofs.Node.Decoding
import RuleTree.Proofs.Parse.Renaming
import RuleTree.Proofs.Rule.Derivation
import RuleTree.Proofs.RuleFile.Confinement
import RuleTree.Proofs.Value.HashKeys
import RuleTree.Proofs.Rule.HashKeys
import RuleTree.Proofs.Parse.Applicability
import RuleTree.Proofs.Parse.PatternSpans
import RuleTree.Proofs.Parse.FunctionSpans
import RuleTree.Proofs.Rule.WrittenOut
import RuleTree.Proofs.Console.Growth
import RuleTree.Proofs.Node.PlainForms
import RuleTree.Proofs.Node.Encoding
import RuleTree.Proofs.Command.AllOrNothing
