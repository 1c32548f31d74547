import Scriptlet.Command.Answer
import Scriptlet.Command.Request
import Scriptlet.Error
import Scriptlet.Eval
import Scriptlet.Main
import Scriptlet.Operator
import Scriptlet.Parse.Expr
import Scriptlet.Parse.Reply
import Scriptlet.Parse.Stmt
import Scriptlet.Proofs.Grammar.Advice
import Scriptlet.Proofs.Grammar.Agenda
import Scriptlet.Proofs.Grammar.Expressions
import Scriptlet.Proofs.Grammar.Extension
import Scriptlet.Proofs.Grammar.Lines
import Scriptlet.Proofs.Grammar.Maximal
import Scriptlet.Proofs.Grammar.Origins
import Scriptlet.Proofs.Grammar.Prefixes
import Scriptlet.Proofs.Grammar.Programs
import Scriptlet.Proofs.Grammar.Progress
import Scriptlet.Proofs.Grammar.Readers
import Scriptlet.Proofs.Grammar.Rules
import Scriptlet.Proofs.Grammar.Stream
import Scriptlet.Proofs.Grammar.Writing
import Scriptlet.Proofs.Guarded.Basic
import Scriptlet.Proofs.Guarded.Evaluation
import Scriptlet.Proofs.Guarded.Scan
import Scriptlet.Proofs.Guarded.Script
import Scriptlet.Proofs.Ideal.Basic
import Scriptlet.Proofs.Ideal.Evaluation
import Scriptlet.Proofs.Ideal.Simulation
import Scriptlet.Proofs.Lexical.Continuation
import Scriptlet.Proofs.Lexical.Finality
import Scriptlet.Proofs.Lexical.Lines
import Scriptlet.Proofs.Lexical.Listing
import Scriptlet.Proofs.Lexical.Munch
import Scriptlet.Proofs.Lexical.Pattern
import Scriptlet.Proofs.Lexical.Segmentation
import Scriptlet.Proofs.Lexical.Spacing
import Scriptlet.Proofs.Lexical.Spelling
import Scriptlet.Proofs.Lexical.Unexpected
import Scriptlet.Proofs.Outcome
import Scriptlet.Proofs.Outline.Lines
import Scriptlet.Proofs.Outline.Programs
import Scriptlet.Proofs.Outline.Trees
import Scriptlet.Proofs.Run.Begun
import Scriptlet.Proofs.Run.Dependence
import Scriptlet.Proofs.Run.Effects
import Scriptlet.Proofs.Run.Errors
import Scriptlet.Proofs.Run.Independence
import Scriptlet.Proofs.Run.Lines
import Scriptlet.Proofs.Run.Rules
import Scriptlet.Proofs.Run.Steps
import Scriptlet.Proofs.Run.Straight
import Scriptlet.Proofs.Script.Blame
import Scriptlet.Proofs.Script.Concatenation
import Scriptlet.Proofs.Script.Failure
import Scriptlet.Proofs.Script.Layout
import Scriptlet.Proofs.Script.Literals
import Scriptlet.Proofs.Script.Quotes
import Scriptlet.Proofs.Script.RoundTrip
import Scriptlet.Proofs.Script.Source
import Scriptlet.Proofs.Script.Stages
import Scriptlet.Proofs.Script.Trace
import Scriptlet.Proofs.Text.Codes
import Scriptlet.Proofs.Text.Digits
import Scriptlet.Proofs.Text.Quoting
import Scriptlet.Proofs.Text.Scalars
import Scriptlet.Proofs.Text.Wording
import Scriptlet.Proofs.Tree.Lines
import Scriptlet.Proofs.Tree.Nodes
import Scriptlet.Proofs.Value.Comparison
import Scriptlet.Proofs.Value.Faults
import Scriptlet.Proofs.Word.Floor
import Scriptlet.Proofs.Word.FloorDiv
import Scriptlet.Run
import Scriptlet.Script
import Scriptlet.Store
import Scriptlet.Text.Bytes
import Scriptlet.Text.Extender
import Scriptlet.Text.Quoted
import Scriptlet.Text.Unprintable
import Scriptlet.Token.Basic
import Scriptlet.Token.Lexeme
import Scriptlet.Token.Listing
import Scriptlet.Token.Scan
import Scriptlet.Tree.Basic
import Scriptlet.Tree.Outline
import Scriptlet.Value.Basic
import Scriptlet.Value.Fault
import Scriptlet.Value.Operation
import Scriptlet.Word.Basic
import Scriptlet.Word.Checked
