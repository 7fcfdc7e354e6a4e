import TokenPattern.CommandLine
import TokenPattern.Event
import TokenPattern.Main
import TokenPattern.Proofs.Embodiment
import TokenPattern.Proofs.Threads
import TokenPattern.Session
import TokenPattern.Proofs.Recognition
import TokenPattern.Proofs.Frontier
import TokenPattern.Proofs.Search
import TokenPattern.Proofs.BreadthFirst
import TokenPattern.Proofs.Acceptance
import TokenPattern.Proofs.Cutting
import TokenPattern.Proofs.WellFormed
import TokenPattern.Proofs.Grammar
import TokenPattern.Proofs.ParserCompleteness
import TokenPattern.Proofs.ParserSoundness
import TokenPattern.Proofs.ParserCorrectness
import TokenPattern.Proofs.Lookahead
import TokenPattern.Proofs.AttributeFault
import TokenPattern.Proofs.Settled
import TokenPattern.Proofs.ParserStop
import TokenPattern.Proofs.Completion
import TokenPattern.Proofs.EarliestError
import TokenPattern.Proofs.Cursor
import TokenPattern.Proofs.ParserPlace
import TokenPattern.Proofs.ProgramErrors
import TokenPattern.Proofs.MatcherHistory
import TokenPattern.Proofs.SessionHistory
import TokenPattern.Proofs.AbandonedOperands
import TokenPattern.Proofs.RepeatedCalls
import TokenPattern.Proofs.TestedSearch
import TokenPattern.Proofs.TextErrors
import TokenPattern.Proofs.SourceBounds
import TokenPattern.Proofs.GroupContext
import TokenPattern.Proofs.FirstOccurrences
import TokenPattern.Proofs.CanonicalForm
import TokenPattern.Proofs.Regrouping
import TokenPattern.Proofs.Agreement
import TokenPattern.Proofs.TextPieces
import TokenPattern.Proofs.PieceLanguage
import TokenPattern.Proofs.TextMatching
import TokenPattern.Proofs.Progress
import TokenPattern.Proofs.OpenGroups
import TokenPattern.Proofs.LastToken
import TokenPattern.Proofs.GroupFaults
import TokenPattern.Proofs.QuantifierFaults
import TokenPattern.Proofs.AttributesRead
import TokenPattern.Proofs.Escaping
import TokenPattern.Proofs.LiteralEncoding
import TokenPattern.Proofs.AtomText
import TokenPattern.Proofs.Ownership
import TokenPattern.Proofs.ConjunctionLeaves
