import Predictive.Grammar.Vocabulary
import Predictive.Listing.Lookaheads
import Predictive.Listing.Run
import Predictive.Note
import Predictive.Parser.Run

/-! Questions that are asked and answered in text alone. A grammar that is refused is
an answer too, so there is always a JSON text to return. -/

namespace Predictive

namespace Query

def refusal (error : GrammarError) : String :=
  (Json.object [("error", .string error.message)]).render

/-- The JSON text of an answer, with the notes made while it was found. -/
def answer (source : String) (question : Grammar → Except GrammarError String) :
    String × List Note :=
  let reading := Source.read source
  match Grammar.ofEntries reading.entries >>= question with
  | .ok text => (text, reading.notes)
  | .error error => (refusal error, reading.notes ++ error.notes)

/-- FIRST and FOLLOW of the grammar written in `source`. -/
def lookaheads (source : String) : String × List Note :=
  answer source fun g => .ok (g.listLookaheads g.lookaheads .json)

/-- The parser's run over `input` by the grammar written in `source`. -/
def run (source input : String) : String × List Note :=
  answer source fun g => (g.parse (g.tokens input)).map (·.render .json)

end Query
end Predictive
