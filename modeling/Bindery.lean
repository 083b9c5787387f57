import Bindery.Function.Memo
import Bindery.Main
import Bindery.Proofs.Attr.Sources
import Bindery.Proofs.Catalog.Loads
import Bindery.Proofs.Function.Coherence
import Bindery.Proofs.Function.Updates
import Bindery.Proofs.Outline.Keys
import Bindery.Proofs.Outline.Layout
import Bindery.Proofs.Outline.Level
import Bindery.Proofs.Outline.RoundTrip
import Bindery.Proofs.Outline.Writable
import Bindery.Proofs.Target.Completion
import Bindery.Proofs.Target.Blocks
import Bindery.Proofs.Function.Order
import Bindery.Proofs.Function.Params
import Bindery.Proofs.Function.Dependencies
import Bindery.Proofs.Function.Spelling
import Bindery.Proofs.Target.OneByOne
import Bindery.Proofs.Signature
import Bindery.Proofs.Target.Independence
import Bindery.Proofs.Target.Parts
import Bindery.Proofs.Target.CallOrder
import Bindery.Proofs.Target.R
import Bindery.Proofs.Target.Java
import Bindery.Proofs.Files
import Bindery.Proofs.Target.Documentation
import Bindery.Proofs.Job
import Bindery.Proofs.CommandLine.Run
import Bindery.Proofs.Text.Contains
import Bindery.Proofs.Target.Calls
import Bindery.Proofs.Target.Python
import Bindery.Proofs.Target.Shell
import Bindery.Proofs.Template.Filling
import Bindery.Proofs.Target.Comments
import Bindery.Proofs.Target.Exports
import Bindery.Proofs.Outline.Cut
import Bindery.Proofs.Outline.KeyLists
import Bindery.Proofs.Outline.Lists
import Bindery.Proofs.Function.Failures
import Bindery.Proofs.Aggregates
import Bindery.Proofs.Target.Aliases
import Bindery.Proofs.Target.Conversions
import Bindery.Proofs.Target.AliasSections
import Bindery.Proofs.Target.Annotations
import Bindery.Proofs.Target.Prototypes
import Bindery.Proofs.Target.TypeUse
import Bindery.Proofs.Template.Tokens
import Bindery.Proofs.Template.Dependencies
import Bindery.Proofs.Yaml.Written
