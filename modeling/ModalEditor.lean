import ModalEditor.Unicode.Property
import ModalEditor.Unicode.CaseFoldTable
import ModalEditor.Text.Buffer
import ModalEditor.Text.Word
import ModalEditor.Text.Quoted
import ModalEditor.Key.Notation
import ModalEditor.Register
import ModalEditor.Mark
import ModalEditor.LineInput
import ModalEditor.History
import ModalEditor.Settings
import ModalEditor.Mode
import ModalEditor.Command
import ModalEditor.Search
import ModalEditor.Editor.Range
import ModalEditor.Editor.Jump
import ModalEditor.Editor.Searching
import ModalEditor.Main
import ModalEditor.Proofs.Recording
import ModalEditor.Proofs.Playing
import ModalEditor.Proofs.Budget
import ModalEditor.Proofs.SearchStatus
import ModalEditor.Proofs.WellFormed
import ModalEditor.Proofs.Checked.Text
import ModalEditor.Proofs.Checked.Editing
import ModalEditor.Proofs.Checked.Motion
import ModalEditor.Proofs.Checked.Searching
import ModalEditor.Proofs.Checked.Keys
import ModalEditor.Proofs.Checked.Interpreter
import ModalEditor.Proofs.TypedMotions
import ModalEditor.Proofs.Browsing
import ModalEditor.Proofs.Failures
import ModalEditor.Proofs.PendingOperator
import ModalEditor.Proofs.CountPlacement
import ModalEditor.Proofs.SearchErrors
import ModalEditor.Proofs.CancelledSearch
import ModalEditor.Proofs.LeftoverCounts
import ModalEditor.Proofs.RowOperators
import ModalEditor.Proofs.OperatorText
import ModalEditor.Proofs.CountedUndo
import ModalEditor.Proofs.PutBack
import ModalEditor.Proofs.CutMatches
import ModalEditor.Proofs.SearchProgress
import ModalEditor.Proofs.LiteralSearch
import ModalEditor.Proofs.TextObjects
import ModalEditor.Proofs.WordOperators
import ModalEditor.Proofs.ChangedText
import ModalEditor.Proofs.PutRows
import ModalEditor.Proofs.MotionDirections
import ModalEditor.Proofs.ShortCommands
import ModalEditor.Proofs.SelectionEnds
import ModalEditor.Proofs.RowSelections
import ModalEditor.Proofs.CountedWords
import ModalEditor.Proofs.CountedJumps
import ModalEditor.Proofs.TypedText
import ModalEditor.Proofs.SessionRecord
import ModalEditor.Proofs.RegisterLog
import ModalEditor.Proofs.EmptyRanges
import ModalEditor.Proofs.NotationGrammar
import ModalEditor.Proofs.AppendedMacros
import ModalEditor.Proofs.Tokenization
import ModalEditor.Proofs.TypedLines
import ModalEditor.Proofs.Coordinates
import ModalEditor.Proofs.Directives
import ModalEditor.Proofs.Arguments
import ModalEditor.Proofs.TypedCounts
