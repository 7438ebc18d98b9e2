import Helpdesk.Proofs.Condition.Descent
import Mathlib

/-!
# Helpdesk.Proofs.Condition.Meaning — scripts mean what their authors mean by them.

A plain script that is nested no deeper than conditions may be has the value that its operators give
it, however it is laid out: it is rewritten symbol by symbol, each symbol is one token, the descent
reads the tokens as the tree of the script, and the tree has its value. Other scripts are another
matter: for chains of comparisons, for negations to the right of a comparison, for its own words and
for line ends the condition language has rules of its own, and its depth is limited.
-/
namespace Helpdesk.Condition

open Text (isWordChar)

/-- A written plain script is read as its tree. -/
theorem parse_written {s : Script .disjunction} {w : Writing} (hwritten : w.Of s) (hplain : s.Plain)
    (hnames : ∀ id ∈ s.names, PlainName id) (hbrackets : s.brackets ≤ maxBrackets) :
    parse w.text = .ok s.tree := by
  have hnull : ((rewrite w.text).toList.contains '\x00') = false := by
    simpa using hwritten.null_notMem hnames
  have hlength := (hwritten.scans hnames hbrackets).length_le
  rw [List.length_map] at hlength
  have hrun : (Parser.condition (24 * ((rewrite w.text).toList.length + 4))).run
      (s.syms.map Sym.token) = some (s.tree, []) :=
    s.condition_run hplain hnames (by omega)
  have hexpression : expression? (rewrite w.text) = some s.tree := by
    simp only [expression?, hnull, hwritten.tokens?_eq hnames hbrackets, Bool.not_false, guard_true,
      Option.bind_eq_bind, Option.bind_some, hrun]
    rfl
  have hallowed : s.tree.hasForbidden = false := s.group.allowed hplain
  rw [parse, hexpression]
  simp only [hallowed]
  rfl

/-- **Scripts keep their meaning**: where its names stand for booleans, a condition that is written
as a plain script is decided by the value of the script. -/
theorem scripts_keep_their_meaning {s : Script .disjunction} {w : Writing} {bag : Entries}
    {env : String → Bool} (hwritten : w.Of s) (hplain : s.Plain)
    (hnames : ∀ id ∈ s.names, PlainName id) (hbrackets : s.brackets ≤ maxBrackets)
    (hheight : 1 + s.joins + s.height ≤ maxDepth)
    (hbag : ∀ id ∈ s.names, Entries.value? id bag = some (.bool (env id))) :
    (Condition.ofText w.text).ask bag = .decided (s.value env) := by
  have hvalue : evaluate bag s.tree = .ok (.bool (s.value env)) := by
    have hall := s.evaluates hplain hbag (1 + s.joins) hheight
    exact Script.evaluateAt_joinAny hall (by decide)
  rw [ofText, ask, parse_written hwritten hplain hnames hbrackets]
  simp only [hvalue]
  rfl

/-! ## A script of three names -/

/-- The script `!urgent && (open || seen === true)`. -/
def waitingScript : Script .disjunction :=
  .conjunction (.both (.equality (.negated 1 (.name "urgent"))) (.negated 0 (.group
    (.either (.conjunction (.equality (.negated 0 (.name "open"))))
      (.equality (.compared (.negated 0 (.name "seen")) false 0 (.truth true)))))))

/-- The script with a blank before it, and with a line end in its parentheses. -/
def waitingWriting : Writing where
  lead := [' ']
  row := [([], .negation), ([], .word "urgent"), ([' '], .both), ([' '], .opening),
    ([], .word "open"), ([' '], .either), (['\n'], .word "seen"), ([' '], .same),
    ([' '], .word "true"), ([], .closing)]
  trail := []

theorem waitingWriting_of : waitingWriting.Of waitingScript where
  lead := by simp [waitingWriting, Text.isBlank]
  trail := by simp [waitingWriting]
  symbols := rfl
  begins := by simp [waitingWriting]
  gaps := by simp [waitingWriting, Gapped, Sym.openAfter, isSeparator, isLineEnd]

theorem plainName_waiting : ∀ id ∈ waitingScript.names, PlainName id := by
  have hname : ∀ w ∈ ["urgent", "open", "seen"], Text.isName w.toList = true ∧
      w.toList.all isWordChar = true ∧ w ∉ Parser.keywords ∧
      w ∉ ["true", "false", "null", "undefined"] ∧ Text.compatible w = w := by
    decide +kernel
  intro id hid
  obtain ⟨hname, hwordy, hreserved, hconstant, hsettled⟩ := hname id hid
  exact ⟨hname, List.all_eq_true.mp hwordy, ⟨hreserved, hconstant⟩, hsettled⟩

/-- A bag for the script. -/
def waitingBag : Entries :=
  [("urgent", .bool false), ("open", .bool false), ("seen", .bool true)]

theorem scripts_keep_their_meaning_waiting :
    waitingWriting.text = " !urgent && (open ||\nseen === true)" ∧
      waitingWriting.Of waitingScript ∧ waitingScript.Plain ∧
      (Condition.ofText waitingWriting.text).ask waitingBag = .decided true := by
  have hplain : waitingScript.Plain := ⟨trivial, trivial, trivial, trivial⟩
  have hbag : ∀ id ∈ waitingScript.names,
      Entries.value? id waitingBag = some (.bool (id == "seen")) := by
    have hall : ∀ id ∈ ["urgent", "open", "seen"],
        Entries.value? id waitingBag = some (.bool (id == "seen")) := by
      simp [waitingBag, Entries.value?]
    exact hall
  refine ⟨by decide, waitingWriting_of, hplain, ?_⟩
  exact scripts_keep_their_meaning waitingWriting_of hplain plainName_waiting (by decide) (by decide)
    hbag

/-! ## Names after exclamation marks -/

/-- The script of one name after so many exclamation marks. -/
def nameScript (marks : Nat) (w : String) : Script .disjunction :=
  .conjunction (.equality (.negated marks (.name w)))

/-- The writing of a name after so many exclamation marks. -/
def nameWriting (marks : Nat) (w : String) : Writing where
  lead := []
  row := List.replicate marks ([], .negation) ++ [([], .word w)]
  trail := []

theorem nameWriting_text (marks : Nat) (w : String) :
    (nameWriting marks w).text = String.ofList (List.replicate marks '!' ++ w.toList) := by
  have hmarks : Spelling.script.text (nameWriting marks w).row =
      List.replicate marks '!' ++ w.toList := by
    rw [nameWriting]
    induction marks with
    | zero => simp [Spelling.text, Spelling.of, Spelling.script]
    | succ marks ih => exact congrArg ('!' :: ·) ih
  rw [Writing.text, hmarks]
  simp [nameWriting]

theorem nameWriting_of (marks : Nat) (w : String) : (nameWriting marks w).Of (nameScript marks w) where
  lead := by simp [nameWriting]
  trail := by simp [nameWriting]
  symbols := by simp [nameWriting, nameScript, Script.syms]
  begins t ht := by
    rcases marks with _ | marks
    · cases ht
      rfl
    · cases ht
      rfl
  gaps := by
    have hrow : Gapped 0 [([], .word w)] := ⟨by simp, trivial⟩
    rw [nameWriting]
    induction marks with
    | zero => exact hrow
    | succ marks ih => exact ⟨by simp, ih⟩

/-- **Depth**: after as many exclamation marks as conditions may be deep, a name is answered no, whatever
it stands for. -/
theorem answer_of_maxDepth_le {marks : Nat} {w : String} (hmarks : maxDepth ≤ marks)
    (hname : PlainName w) (bag : Entries) :
    ((ofText (nameWriting marks w).text).ask bag).answer = .ok false := by
  have hnames : ∀ id ∈ (nameScript marks w).names, PlainName id := List.forall_mem_singleton.mpr hname
  have hread : parse (nameWriting marks w).text = .ok (nameScript marks w).tree :=
    parse_written (nameWriting_of marks w) trivial hnames (Nat.zero_le _)
  have hvalue : evaluate bag (nameScript marks w).tree = .error .tooDeep :=
    Script.evaluateAt_nots_tooDeep (by omega)
  rw [ofText, ask, hread]
  simp only [hvalue]
  rfl

/-! ## Scripts that lose their meaning -/

/-- A way to write a script that is true, for which its condition answers no. -/
structure Misread (text : String) (s : Script .disjunction) (env : String → Bool) : Prop where
  written : ∃ row : List (List Char × Sym), text.toList = Spelling.script.text row ∧
    row.map Prod.snd = s.syms ∧ ∀ t ∈ row, ∀ c ∈ t.1, Text.isBlank c = true
  value : s.value env = true
  answer : ((ofText text).ask (s.names.map fun id => (id, .bool (env id)))).answer = .ok false

/-- The script `a === b === c`. -/
def chainedScript : Script .disjunction :=
  .conjunction (.equality (.compared (.compared (.negated 0 (.name "a")) false 0 (.name "b")) false 0
    (.name "c")))

/-- The script `a === !b`. -/
def negatedScript : Script .disjunction :=
  .conjunction (.equality (.compared (.negated 0 (.name "a")) false 1 (.name "b")))

/-- The script `a && b`. -/
def bothScript : Script .disjunction :=
  .conjunction (.both (.equality (.negated 0 (.name "a"))) (.negated 0 (.name "b")))

set_option maxRecDepth 20000 in
/-- **Other scripts** may be read otherwise: comparisons in a row are a chain, a negation cannot follow
a comparison, words of the condition language are no names, lines do not end outside parentheses, and
nothing is nested deeper than the limit. -/
theorem other_scripts_lose_their_meaning :
    Misread "a === b === c" chainedScript (· == "c") ∧
      Misread "a === !b" negatedScript (· == "a") ∧
      Misread "is" (nameScript 0 "is") (fun _ => true) ∧
      Misread "a &&\nb" bothScript (fun _ => true) ∧
      Misread (String.ofList (List.replicate 50 '!' ++ ['a'])) (nameScript 50 "a") fun _ => true := by
  refine ⟨⟨?_, by decide, ?_⟩, ⟨?_, by decide, ?_⟩, ⟨?_, rfl, ?_⟩, ⟨?_, rfl, ?_⟩, ⟨?_, ?_, ?_⟩⟩
  · exact ⟨[([], .word "a"), ([' '], .same), ([' '], .word "b"), ([' '], .same), ([' '], .word "c")],
      by decide, rfl, by simp [Text.isBlank]⟩
  · cbv
  · exact ⟨[([], .word "a"), ([' '], .same), ([' '], .negation), ([], .word "b")], by decide, rfl,
      by simp [Text.isBlank]⟩
  · cbv
  · exact ⟨[([], .word "is")], by decide, rfl, by simp⟩
  · cbv
  · exact ⟨[([], .word "a"), ([' '], .both), (['\n'], .word "b")], by decide, rfl,
      by simp [Text.isBlank]⟩
  · cbv
  · refine ⟨(nameWriting 50 "a").row, by decide, (nameWriting_of 50 "a").symbols, ?_⟩
    simp [nameWriting]
  · decide
  · have hname : PlainName "a" :=
      ⟨by decide, List.all_eq_true.mp (by decide), ⟨by decide +kernel, by decide⟩, by decide +kernel⟩
    have hanswer : ((ofText (nameWriting 50 "a").text).ask [("a", .bool true)]).answer = .ok false :=
      answer_of_maxDepth_le (by decide) hname _
    rwa [nameWriting_text] at hanswer

end Helpdesk.Condition
