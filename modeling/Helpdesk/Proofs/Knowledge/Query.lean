import Helpdesk.Proofs.Text.Folding
import Helpdesk.Proofs.Text.Slice
import Helpdesk.Workflow.Lookup

/-!
# Helpdesk.Proofs.Knowledge.Query — what is left of a query that a model wrote.

Quotation marks go first, then the punctuation at the end, and white space is folded last. No step is
taken twice, so a query may come out with a stop at its end: one that stood before white space and
further stops. Nothing else is left over, and with such a stop, and only then, the query would change
if it were cleaned up again.
-/
namespace Helpdesk.Knowledge

open Text (Folded dropTrailing foldBlanksChars isBlank trimChars visible)

variable {cs : List Char}

/-! ## Ends -/

theorem isBlank_of_isStop {c : Char} (h : isStop c = true) : isBlank c = false := by
  simp only [isStop, List.contains_eq_mem, List.mem_cons, List.not_mem_nil, or_false,
    decide_eq_true_eq] at h
  rcases h with rfl | rfl | rfl | rfl | rfl | rfl | rfl | rfl
  all_goals decide

theorem getLast?_trimChars_foldBlanksChars (cs : List Char) :
    (trimChars (foldBlanksChars cs)).getLast? = (visible cs).getLast? := by
  have hlast : ∀ c ∈ (trimChars (foldBlanksChars cs)).getLast?, isBlank c = false :=
    Text.getLast?_trimBy _
  rw [← Text.getLast?_visible hlast, Text.visible_trimChars, Text.visible_foldBlanksChars]

/-! ## Stops -/

/-- A query without quotation marks and outer blanks. -/
def bare (query : String) : List Char :=
  trimChars (query.toList.filter fun c => !isQuote c)

theorem toList_sanitize (query : String) :
    (sanitize query).toList = trimChars (foldBlanksChars (dropTrailing isStop (bare query))) := by
  simp [sanitize, bare, Text.trim, Text.foldBlanks]

/-- The last character is a stop. -/
def EndsInStop (cs : List Char) : Prop :=
  ∃ c ∈ cs.getLast?, isStop c = true

/-- Before the stops at the end, and before white space in front of those, stands another stop. -/
def HangingStop (cs : List Char) : Prop :=
  ∃ front stop gap tail, cs = front ++ stop :: (gap ++ tail) ∧ isStop stop = true ∧
    gap ≠ [] ∧ (∀ c ∈ gap, isBlank c = true) ∧ ∀ c ∈ tail, isStop c = true

theorem endsInStop_visible_iff (cs : List Char) :
    EndsInStop (visible (dropTrailing isStop cs)) ↔ HangingStop cs := by
  constructor
  · rintro ⟨stop, hlast, hstop⟩
    obtain ⟨tail, hcs, htail⟩ := Text.exists_eq_dropTrailing_append isStop cs
    obtain ⟨seen, hseen⟩ := List.getLast?_eq_some_iff.mp hlast
    obtain ⟨front, back, hsplit, -, hback⟩ := List.filter_eq_append_iff.mp hseen
    obtain ⟨early, gap, rfl, -, -, hgap⟩ := List.filter_eq_cons_iff.mp hback
    have hblank : ∀ c ∈ gap, isBlank c = true := Text.visible_eq_nil_iff.mp hgap
    refine ⟨front ++ early, stop, gap, tail, ?_, hstop, ?_, hblank, htail⟩
    · rw [hcs, hsplit]
      simp
    · -- Without white space behind it the stop itself would have been taken off.
      rintro rfl
      have hnot := Text.getLast?_dropTrailing (p := isStop) cs stop (by simp [hsplit])
      rw [hstop] at hnot
      cases hnot
  · rintro ⟨front, stop, gap, tail, rfl, hstop, hgap, hblank, htail⟩
    have hvisible := isBlank_of_isStop hstop
    have hlast : ∀ c ∈ (front ++ stop :: gap).getLast?, isStop c = false := by
      intro c hc
      obtain ⟨blanks, last, rfl⟩ := (gap.eq_nil_or_concat).resolve_left hgap
      rw [List.concat_eq_append] at hc hblank
      rw [← List.cons_append, ← List.append_assoc, List.getLast?_concat] at hc
      have hlast := hblank last (by simp)
      cases hstops : isStop c with
      | false => rfl
      | true =>
        rw [Option.some.inj hc, isBlank_of_isStop hstops] at hlast
        cases hlast
    have hdrop : dropTrailing isStop (front ++ stop :: (gap ++ tail)) = front ++ stop :: gap := by
      rw [← List.cons_append, ← List.append_assoc, Text.dropTrailing_append htail,
        Text.dropTrailing_eq_self_iff.mpr hlast]
    have hnone : visible gap = [] := Text.visible_eq_nil_iff.mpr hblank
    refine ⟨stop, ?_, hstop⟩
    rw [hdrop, Text.visible_append, ← List.singleton_append, Text.visible_append, hnone]
    simp [visible, hvisible]

/-! ## Plain queries -/

/-- No quotation marks, no outer blanks, and each blank a space on its own. -/
structure Plain (cs : List Char) : Prop where
  unquoted : ∀ c ∈ cs, isQuote c = false
  trimmed : trimChars cs = cs
  folded : Folded cs

theorem plain_sanitize (query : String) : Plain (sanitize query).toList := by
  rw [toList_sanitize]
  refine ⟨fun c hc => ?_, Text.trimChars_trimChars _, ?_⟩
  · have hfolded : c ∈ foldBlanksChars (dropTrailing isStop (bare query)) :=
      (Text.trimBy_isInfix _ _).subset hc
    rcases Text.mem_foldBlanksChars hfolded with hkept | rfl
    · have hbare : c ∈ bare query := (Text.dropTrailing_isPrefix _ _).subset hkept
      simpa using (List.mem_filter.mp ((Text.trimBy_isInfix _ _).subset hbare)).2
    · rfl
  · exact (Text.folded_foldBlanksChars _).of_isInfix (Text.trimBy_isInfix _ _)

/-- A plain query stays as it is unless it ends in a stop. -/
theorem Plain.sanitize_eq_iff {query : String} (h : Plain query.toList) :
    sanitize query = query ↔ ¬ EndsInStop query.toList := by
  have hbare : bare query = query.toList := by
    have hkept : (query.toList.filter fun c => !isQuote c) = query.toList :=
      List.filter_eq_self.mpr fun c hc => by simp [h.unquoted c hc]
    rw [bare, hkept, h.trimmed]
  have hprefix := Text.dropTrailing_isPrefix isStop query.toList
  have hfold := (h.folded.of_isInfix hprefix.isInfix).foldBlanksChars_eq
  have hsanitize : (sanitize query).toList = trimChars (dropTrailing isStop query.toList) := by
    rw [toList_sanitize, hbare, hfold]
  have hnone : dropTrailing isStop query.toList = query.toList ↔ ¬ EndsInStop query.toList := by
    rw [Text.dropTrailing_eq_self_iff, EndsInStop]
    simp
  rw [← hnone, ← String.toList_inj, hsanitize]
  constructor
  · intro hsame
    refine hprefix.eq_of_length_le ?_
    have hlength := Text.length_trimChars_le (dropTrailing isStop query.toList)
    rwa [hsame] at hlength
  · intro hsame
    rw [hsame, h.trimmed]

/-! ## The queries of a decision -/

open Workflow (usableQueries)

/-- The queries that are searched are among those that were written, in their order. -/
theorem usableQueries_sublist (d : Decision.Queries) :
    (usableQueries d).Sublist (d.queries.map sanitize) :=
  ((List.take_sublist _ _).trans List.filter_sublist).trans (Text.distinct_sublist _)

theorem nodup_usableQueries (d : Decision.Queries) : (usableQueries d).Nodup :=
  (Text.nodup_distinct _).sublist ((List.take_sublist _ _).trans List.filter_sublist)

theorem ne_empty_of_mem_usableQueries {d : Decision.Queries} {query : String}
    (h : query ∈ usableQueries d) : query ≠ "" := by
  have hkept := (List.mem_filter.mp (List.mem_of_mem_take h)).2
  simpa using hkept

/-- **Sanitized queries are plain**: they hold no quotation marks, and every blank in them is a space
on its own with something on both sides. They end in a stop exactly when one hangs there, which is
when to sanitize them again would change them. Of queries that come out alike one is searched. -/
theorem sanitized_queries_are_plain (query : String) :
    (∀ c ∈ (sanitize query).toList, isQuote c = false) ∧
    Text.trim (sanitize query) = sanitize query ∧
    Folded (sanitize query).toList ∧
    (EndsInStop (sanitize query).toList ↔ HangingStop (bare query)) ∧
    (sanitize (sanitize query) = sanitize query ↔ ¬ HangingStop (bare query)) ∧
    ∀ d : Decision.Queries, (usableQueries d).Sublist (d.queries.map sanitize) ∧
      (usableQueries d).Nodup := by
  obtain ⟨hunquoted, htrimmed, hfolded⟩ := plain_sanitize query
  have hstop : EndsInStop (sanitize query).toList ↔ HangingStop (bare query) := by
    rw [← endsInStop_visible_iff, EndsInStop, EndsInStop, toList_sanitize,
      getLast?_trimChars_foldBlanksChars]
  refine ⟨hunquoted, ?_, hfolded, hstop, ?_, fun d => ⟨usableQueries_sublist d, ?_⟩⟩
  · rw [Text.trim, htrimmed, String.ofList_toList]
  · rw [(plain_sanitize query).sanitize_eq_iff, hstop]
  · exact nodup_usableQueries d

/-- A stop before white space and another stop is uncovered and stays. -/
theorem stop_before_stop_stays :
    sanitize "cannot log in. ." = "cannot log in." ∧ sanitize "cannot log in." = "cannot log in" := by
  decide

end Helpdesk.Knowledge
