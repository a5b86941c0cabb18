import Highlighter.Main
import Highlighter.Proofs.Builtin.Literals
import Highlighter.Proofs.Builtin.PropertyNames
import Highlighter.Proofs.CommandLine.Arguments
import Highlighter.Proofs.CommandLine.Output
import Highlighter.Proofs.Grammar.Document
import Highlighter.Proofs.Grammar.FirstFault
import Highlighter.Proofs.Grammar.Position
import Highlighter.Proofs.Path.Home
import Highlighter.Proofs.Registry.Detection
import Highlighter.Proofs.Render.Terminal
import Highlighter.Proofs.Spans.Painting
import Highlighter.Proofs.Style.Color
import Highlighter.Proofs.Theme.Cascade
import Highlighter.Proofs.Theme.Expansion
import Highlighter.Proofs.Theme.Extension
import Highlighter.Proofs.Tokenize.Blocks
import Highlighter.Proofs.Tokenize.Depth
import Highlighter.Proofs.Tokenize.Derivation
import Highlighter.Proofs.Tokenize.Locality
import Highlighter.Proofs.Tokenize.Matches
import Highlighter.Proofs.Tokenize.NestedScope
import Highlighter.Proofs.Tokenize.Nesting
import Highlighter.Proofs.Tokenize.Pruning
import Highlighter.Proofs.Tokenize.Reachability
import Highlighter.Proofs.Tokenize.Splicing
