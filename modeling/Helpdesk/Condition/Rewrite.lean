import Helpdesk.Text.Blank
import Helpdesk.Text.Slice
import Helpdesk.Text.Word

/-!
# Helpdesk.Condition.Rewrite — one spelling for the operators of a condition.

Authors write conditions with `===`, `!==`, `&&`, `||`, `!`, `true`, `false`, `null` and
`undefined`; the condition language itself spells them `==`, `!=`, `and`, `or`, `not`, `True`,
`False` and `None`. The rewriting applies to code only. A condition is first cut into pieces: a
quoted literal, which is kept as it stands, or the code between two literals, to which the rules are
applied one after another, each to the result of the one before.
-/
namespace Helpdesk.Condition

/-- A piece of a condition: code, or a literal with its quotes. -/
inductive Piece where
  | code (cs : List Char)
  | literal (cs : List Char)

/-- The characters of a piece. -/
def Piece.chars : Piece → List Char
  | .code cs => cs
  | .literal cs => cs

/-- The rest of a quoted literal after its opening quote, closing quote included, and what follows
it. A backslash takes the next character with it, which must not end the line. -/
def closeLiteral (quote : Char) : List Char → Option (List Char × List Char)
  | [] => none
  | '\\' :: c :: rest =>
    if c = '\n' then none
    else (closeLiteral quote rest).map fun (body, after) => ('\\' :: c :: body, after)
  | c :: rest =>
    if c = quote then some ([c], rest)
    else if c = '\\' then none
    else (closeLiteral quote rest).map fun (body, after) => (c :: body, after)

theorem length_closeLiteral {quote : Char} {cs body after : List Char}
    (h : closeLiteral quote cs = some (body, after)) : after.length < cs.length := by
  fun_induction closeLiteral quote cs generalizing body after with
  | case1 => simp at h
  | case2 => simp at h
  | case3 c rest _ ih =>
    obtain ⟨⟨b, a⟩, hb, heq⟩ := Option.map_eq_some_iff.1 h
    obtain ⟨_, rfl⟩ := Prod.mk.injEq .. ▸ heq
    have := ih hb
    simp only [List.length_cons]
    omega
  | case4 => simp_all
  | case5 => simp at h
  | case6 c rest _ _ _ ih =>
    obtain ⟨⟨b, a⟩, hb, heq⟩ := Option.map_eq_some_iff.1 h
    obtain ⟨_, rfl⟩ := Prod.mk.injEq .. ▸ heq
    have := ih hb
    simp only [List.length_cons]
    omega

/-- The pieces of a condition, given the code read since the last literal in reverse. A quote that
opens no literal is code. -/
def piecesFrom (code : List Char) (cs : List Char) : List Piece :=
  match cs with
  | [] => [.code code.reverse]
  | c :: rest =>
    if c = '"' ∨ c = '\'' then
      match h : closeLiteral c rest with
      | some (body, after) =>
        have := length_closeLiteral h
        .code code.reverse :: .literal (c :: body) :: piecesFrom [] after
      | none => piecesFrom (c :: code) rest
    else piecesFrom (c :: code) rest
termination_by cs.length
decreasing_by all_goals simp only [List.length_cons]; omega

/-- The pieces of a condition. -/
def pieces (cs : List Char) : List Piece :=
  piecesFrom [] cs

/-- Replaces a symbol from left to right; `skip` characters still belong to the last match. -/
def replaceFrom (symbol new : List Char) : Nat → List Char → List Char
  | _, [] => []
  | skip + 1, _ :: cs => replaceFrom symbol new skip cs
  | 0, c :: cs =>
    if (Text.stripWord symbol (c :: cs)).isSome then
      new ++ replaceFrom symbol new (symbol.length - 1) cs
    else c :: replaceFrom symbol new 0 cs

/-- Replaces every occurrence of a symbol. -/
def replaceSymbol (symbol new : String) (cs : List Char) : List Char :=
  replaceFrom symbol.toList new.toList 0 cs

/-- Replaces each exclamation mark that no equals sign follows. -/
def replaceNot : List Char → List Char
  | [] => []
  | c :: cs =>
    if c = '!' ∧ cs.head? ≠ some '=' then " not ".toList ++ replaceNot cs else c :: replaceNot cs

/-- Whether `word` stands at the front of the text and no word character follows it. -/
def wordAt (word cs : List Char) : Bool :=
  match Text.stripWord word cs with
  | some [] => true
  | some (d :: _) => !Text.isWordChar d
  | none => false

/-- Replaces words from left to right; `joined` tells whether a word character stands before. -/
def replaceWordsFrom (words : List (List Char)) (new : List Char) :
    Bool → Nat → List Char → List Char
  | _, _, [] => []
  | _, skip + 1, c :: cs => replaceWordsFrom words new (Text.isWordChar c) skip cs
  | joined, 0, c :: cs =>
    match words.find? fun word => !joined && wordAt word (c :: cs) with
    | some word => new ++ replaceWordsFrom words new (Text.isWordChar c) (word.length - 1) cs
    | none => c :: replaceWordsFrom words new (Text.isWordChar c) 0 cs

/-- Replaces each whole word that is one of `words`. -/
def replaceWords (words : List String) (new : String) (cs : List Char) : List Char :=
  replaceWordsFrom (words.map String.toList) new.toList false 0 cs

/-- The rules in the order of their application. -/
def rules : List (List Char → List Char) := [
  replaceSymbol "===" "==",
  replaceSymbol "!==" "!=",
  replaceSymbol "&&" " and ",
  replaceSymbol "||" " or ",
  replaceNot,
  replaceWords ["true"] "True",
  replaceWords ["false"] "False",
  replaceWords ["null", "undefined"] "None"]

/-- A code fragment with every rule applied. -/
def rewriteCode (cs : List Char) : List Char :=
  rules.foldl (fun code rule => rule code) cs

/-- A piece with its code rewritten; a literal stays as it is. -/
def Piece.rewrite : Piece → List Char
  | .code cs => rewriteCode cs
  | .literal cs => cs

/-- A condition in the one spelling of its operators, without outer blanks. -/
def rewrite (expression : String) : String :=
  let cs := Text.trimChars expression.toList
  String.ofList (Text.trimChars ((pieces cs).flatMap Piece.rewrite))

end Helpdesk.Condition
