import StyleScope.CommandLine.Program
import StyleScope.CommandLine.Session
import StyleScope.CommandLine.Words
import StyleScope.FileStore
import StyleScope.FileTree.Access
import StyleScope.FileTree.Basic
import StyleScope.FileTree.Path
import StyleScope.InPlace
import StyleScope.Log
import StyleScope.Log.Filter
import StyleScope.Log.Pattern
import StyleScope.Log.Pattern.Bracket
import StyleScope.Log.Pattern.Cursor
import StyleScope.Log.Pattern.Escape
import StyleScope.Log.Pattern.Fault
import StyleScope.Log.Pattern.Meaning
import StyleScope.Log.Pattern.Normal
import StyleScope.Log.Pattern.Reader
import StyleScope.Log.Pattern.Size
import StyleScope.Log.Pattern.Written
import StyleScope.Main
import StyleScope.Proofs.CommandLine.DryRun
import StyleScope.Proofs.FileStore
import StyleScope.Proofs.FileTree.Location
import StyleScope.Proofs.FileTree.Stored
import StyleScope.Proofs.FileTree.Writes
import StyleScope.Proofs.InPlace.DryRun
import StyleScope.Proofs.InPlace.Ending
import StyleScope.Proofs.InPlace.Independence
import StyleScope.Proofs.InPlace.Repeated
import StyleScope.Proofs.RuleLine.Reading
import StyleScope.Proofs.RuleLine.Recovered
import StyleScope.Proofs.RuleLine.Rescoped
import StyleScope.Proofs.RuleLine.Visible
import StyleScope.Proofs.RuleLine.Wrapped
import StyleScope.Proofs.ScanState.Transition
import StyleScope.Proofs.SelectorList.Nested
import StyleScope.Proofs.SelectorList.Nesting
import StyleScope.Proofs.SelectorList.Rescoped
import StyleScope.Proofs.Stylesheet.Absorption
import StyleScope.Proofs.Stylesheet.AtRuleBlock
import StyleScope.Proofs.Stylesheet.Comments
import StyleScope.Proofs.Stylesheet.Concatenation
import StyleScope.Proofs.Stylesheet.Confinement
import StyleScope.Proofs.Stylesheet.Frame
import StyleScope.Proofs.Stylesheet.History
import StyleScope.Proofs.Stylesheet.Indentation
import StyleScope.Proofs.Stylesheet.Insertion
import StyleScope.Proofs.Stylesheet.LineEndings
import StyleScope.Proofs.Stylesheet.Reclassification
import StyleScope.Proofs.Stylesheet.Record
import StyleScope.Proofs.Stylesheet.Structure
import StyleScope.Proofs.Stylesheet.Trimming
import StyleScope.Proofs.Stylesheet.Twice
import StyleScope.Proofs.Text.Comments
import StyleScope.Proofs.Text.Pieces
import StyleScope.Proofs.Text.Tokens
import StyleScope.Proofs.Text.Trimmed
import StyleScope.Proofs.Text.Visible
import StyleScope.Proofs.WrapperClass
import StyleScope.Proofs.WrapperClass.Token
import StyleScope.RuleLine
import StyleScope.ScanState
import StyleScope.SelectorList
import StyleScope.SelectorList.Nesting
import StyleScope.Stylesheet
import StyleScope.Stylesheet.History
import StyleScope.Text.Alphabetic
import StyleScope.Text.Basic
import StyleScope.Text.CharSet
import StyleScope.Text.Comments
import StyleScope.Text.ControlSequence
import StyleScope.Text.Printable
import StyleScope.Text.Utf8
import StyleScope.WrapperClass
