import Helpdesk.Text.Blank
import Helpdesk.Text.Slice

/-!
# Helpdesk.Knowledge.Query — search queries as a model writes them.

Models like to quote their queries and to end them like sentences. Neither helps a search.
-/
namespace Helpdesk.Knowledge

/-- Quotation marks. -/
def isQuote (c : Char) : Bool :=
  ['“', '”', '"', '\''].contains c

/-- Punctuation that may end a sentence or a clause. -/
def isStop (c : Char) : Bool :=
  ['，', '。', '；', '、', ',', '.', '!', '?'].contains c

/-- A query without quotation marks and final punctuation, its white space folded. -/
def sanitize (query : String) : String :=
  let bare := Text.trimChars (query.toList.filter fun c => !isQuote c)
  Text.trim (Text.foldBlanks (String.ofList (Text.dropTrailing isStop bare)))

end Helpdesk.Knowledge
