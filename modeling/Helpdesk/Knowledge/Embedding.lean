import Helpdesk.Settings
import Helpdesk.Text.Blank
import Helpdesk.Text.Slice

/-!
# Helpdesk.Knowledge.Embedding — what is sent to be embedded.

Texts are embedded on one line and cut to a length. The number of dimensions is asked for only of
the family of models that can be asked for one.
-/
namespace Helpdesk.Knowledge

/-- A text as it is embedded. -/
def embeddedText (limit : Int) (s : String) : String :=
  String.ofList (Text.upTo (Text.trim (Text.foldBlanks s)).toList limit)

/-- The family of models whose vectors can be shortened. -/
def shortenable : String := "text-embedding-3"

/-- A request for the vectors of some texts; no texts need none. -/
def embeddingRequest? (s : Settings) (texts : List String) : Option Entries :=
  if texts.isEmpty then none
  else
    let dimensions := s.embeddingDimensions.getD 0
    let asksDimensions := dimensions != 0 &&
      (Text.stripWord shortenable.toList s.embeddingModel.toList).isSome
    some ([("model", .text s.embeddingModel),
        ("input", .ofTexts (texts.map (embeddedText s.embeddingMaxChars)))] ++
      if asksDimensions then [("dimensions", .int dimensions)] else [])

end Helpdesk.Knowledge
