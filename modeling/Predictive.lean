import Predictive.Derivation
import Predictive.Main
import Predictive.Query
import Predictive.Reachable
import Predictive.Proofs.Reached
import Predictive.Proofs.Lookahead
import Predictive.Proofs.ParserTermination
import Predictive.Proofs.ParserRuns
import Predictive.Proofs.ParserVerdict
import Predictive.Proofs.LeftmostDerivations
import Predictive.Proofs.ParserExactness
import Predictive.Proofs.Cycles
import Predictive.Proofs.LeftCorners
import Predictive.Proofs.EliminationOrder
import Predictive.Proofs.Interpretation
import Predictive.Proofs.EliminationLanguage
import Predictive.Proofs.FactoringLanguage
import Predictive.Proofs.EliminationProgress
import Predictive.Proofs.EliminationSuccess
import Predictive.Proofs.PassLimit
import Predictive.Lookahead.Rounds
import Predictive.Proofs.FirstRounds
import Predictive.Proofs.Filling
import Predictive.Proofs.FollowRounds
import Predictive.Lookahead.Candidates
import Predictive.Proofs.Candidates
import Predictive.Proofs.TableExactness
import Predictive.Proofs.LeftRecursionConflict
import Predictive.Proofs.ParserAcceptance
import Predictive.Proofs.ParserRejection
import Predictive.Proofs.FactoringLookahead
import Predictive.Proofs.FactoringRecursion
import Predictive.Proofs.FactoringTable
import Predictive.Proofs.Stored
import Predictive.Proofs.StoredBuilding
import Predictive.Proofs.StoredElimination
import Predictive.Proofs.StoredFactoring
import Predictive.Proofs.StoredValidity
import Predictive.Proofs.FactoredForm
import Predictive.Proofs.EliminationTable
import Predictive.Proofs.Issuing
import Predictive.Proofs.Introductions
import Predictive.Proofs.Families
import Predictive.Proofs.SharedSupply
import Predictive.Proofs.Renaming
import Predictive.Proofs.ShortSentences
import Predictive.Proofs.ListedRules
import Predictive.Proofs.Comparison
import Predictive.Proofs.Forks
import Predictive.Proofs.Replacement
import Predictive.Proofs.FactoringSets
import Predictive.Proofs.Heads
import Predictive.Proofs.EliminationSets
import Predictive.Proofs.RecordedRuns
import Predictive.Text.Scan
import Predictive.Proofs.Trimming
import Predictive.Proofs.Tokens
import Predictive.Proofs.JoinedTokens
import Predictive.Proofs.UsedTerminals
import Predictive.Proofs.Rebuilding
import Predictive.Proofs.SelfDerivation
import Predictive.Proofs.LexemePlaces
import Predictive.Proofs.DeclaredTerminals
import Predictive.Proofs.LineForms
import Predictive.Proofs.Layout
import Predictive.Proofs.Numbering
import Predictive.Proofs.OrderedForm
import Predictive.Proofs.Confined
import Predictive.Proofs.Columns
import Predictive.Proofs.GridLines
import Predictive.Proofs.Pathfinding
