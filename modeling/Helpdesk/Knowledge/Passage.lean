import Helpdesk.Text.Blank

/-!
# Helpdesk.Knowledge.Passage — long text cut into passages.

Paragraphs are packed into a passage as long as they fit. A paragraph that does not fit is taken
apart into sentences, which are packed in the same way, and a sentence that is longer than a whole
passage is cut wherever the passage is full. Packing puts a blank line between paragraphs and a
space between sentences; nothing but white space is ever left out.
-/
namespace Helpdesk.Knowledge

/-! ## Taking text apart -/

/-- Text taken apart at blank lines; `current` is the paragraph so far, reversed. -/
def paragraphsFrom (current : List Char) : List Char → List (List Char)
  | [] => [current.reverse]
  | [c] => [(c :: current).reverse]
  | c :: d :: rest =>
    if c = '\n' ∧ d = '\n' then
      current.reverse :: paragraphsFrom [] (rest.dropWhile (· == '\n'))
    else paragraphsFrom (c :: current) (d :: rest)
  termination_by cs => cs.length
  decreasing_by
    · have := (rest.dropWhile_sublist (· == '\n')).length_le
      simp only [List.length_cons]
      omega
    · simp

/-- The paragraphs of a text. -/
def paragraphs (cs : List Char) : List (List Char) :=
  paragraphsFrom [] cs

/-- The characters that end a sentence. -/
def endsSentence (c : Char) : Bool :=
  ['。', '！', '？', '!', '?', '.'].contains c

/-- The separator at the front of a text: blanks after the end of a sentence, or line feeds. -/
def separatorAt (previous : Option Char) (cs : List Char) : List Char :=
  if previous.any endsSentence then
    cs.takeWhile Text.isBlank
  else cs.takeWhile (· == '\n')

/-- Text taken apart at separators; `current` is the sentence so far, reversed. -/
def sentencesFrom (previous : Option Char) (current : List Char) : List Char → List (List Char)
  | [] => [current.reverse]
  | c :: rest =>
    match separatorAt previous (c :: rest) with
    | [] => sentencesFrom (some c) (c :: current) rest
    | s :: separator =>
      current.reverse :: sentencesFrom (some ((s :: separator).getLast (by simp))) []
        (rest.drop separator.length)
  termination_by cs => cs.length
  decreasing_by
    · simp
    · simp only [List.length_drop, List.length_cons]
      omega

/-- The sentences of a paragraph. -/
def sentences (cs : List Char) : List (List Char) :=
  sentencesFrom none [] cs

/-- Text cut into slices of a length. -/
def slices (length : Nat) (positive : 0 < length) (cs : List Char) : List (List Char) :=
  match cs with
  | [] => []
  | c :: rest => (c :: rest).take length :: slices length positive ((c :: rest).drop length)
  termination_by cs.length
  decreasing_by
    simp only [List.length_drop, List.length_cons]
    omega

/-- Text cut wherever a passage is full. Nothing when passages have no room at all; nothing is left
when their room is negative. -/
def cuts? (limit : Int) (cs : List Char) : Option (List (List Char)) :=
  if h : 0 < limit.toNat then some (slices limit.toNat h cs)
  else if limit = 0 then none
  else some []

/-! ## Packing -/

/-- The finished passages and the one that is being filled. -/
structure Packing where
  finished : List (List Char)
  open_ : List Char

namespace Packing

/-- Finishes the open passage; a blank one is dropped. -/
def finish (p : Packing) : Packing :=
  let text := Text.trimChars p.open_
  ⟨if text.isEmpty then p.finished else p.finished ++ [text], []⟩

/-- Two parts of a passage with a separator between them, where an empty first part takes none. -/
def joined (separator before after : List Char) : List Char :=
  if before.isEmpty then after else before ++ separator ++ after

/-- Puts a piece into the open passage if it fits. -/
def fit? (limit : Int) (p : Packing) (piece : List Char) : Option Packing :=
  let candidate := joined ['\n', '\n'] p.open_ piece
  if candidate.length ≤ limit then some { p with open_ := candidate } else none

/-- Puts a slice of a sentence into the open passage, or into a new one even if it does not fit. -/
def addSlice (limit : Int) (p : Packing) (piece : List Char) : Packing :=
  (fit? limit p piece).getD { p.finish with open_ := piece }

/-- Puts some sentences into the open passage, or into a new one, or cuts them to slices. -/
def addSentences? (limit : Int) (p : Packing) (piece : List Char) : Option Packing :=
  if piece.all Text.isBlank then some p
  else
    match fit? limit p piece with
    | some p => some p
    | none =>
      match fit? limit p.finish piece with
      | some p => some p
      | none => (cuts? limit piece).map fun pieces => pieces.foldl (addSlice limit) p.finish

/-- Packs the sentences of a paragraph, of which those before are gathered in `gathered`. -/
def addGathering? (limit : Int) (p : Packing) (gathered : List Char) :
    List (List Char) → Option Packing
  | [] => addSentences? limit p gathered
  | sentence :: rest =>
    let candidate := joined [' '] gathered sentence
    if limit < candidate.length then do
      addGathering? limit (← addSentences? limit p gathered) sentence rest
    else addGathering? limit p candidate rest

/-- Packs a paragraph. -/
def addParagraph? (limit : Int) (p : Packing) (paragraph : List Char) : Option Packing :=
  match fit? limit p paragraph with
  | some p => some p
  | none => addGathering? limit p [] (sentences paragraph)

end Packing

/-- The passages of a text, each of at most so many characters. Nothing when a sentence had to be
cut and passages have no room at all. -/
def passages? (text : String) (limit : Int) : Option (List String) := do
  let packed ← (paragraphs text.toList).foldlM (Packing.addParagraph? limit) ⟨[], []⟩
  return packed.finish.finished.map String.ofList

end Helpdesk.Knowledge
