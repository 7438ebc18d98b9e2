import Helpdesk.Proofs.Text.Blank
import Helpdesk.Proofs.Validation
import Helpdesk.RichText
import Mathlib.Data.List.Chain

/-!
# Helpdesk.Proofs.RichText.Tidy — what tidying takes out of rendered text.

Tidying takes out white space and nothing else: spaces and tabs before a line feed, line feeds behind
the second one in a row, and blanks at both ends. What it leaves is tidied as it stands. `Tidied` says
so part by part, because each part of tidying has to leave alone what the others have done, and a
reply that is stored comes back with a line feed behind it.
-/
namespace Helpdesk.RichText

open Text (visible visible_append visible_cons_congr visible_cons_of_isBlank visible_trimChars
  isBlank trimChars)

variable {cs : List Char} {run : Nat}

/-! ## What can be seen -/

theorem visible_trimLineEnds (cs : List Char) : visible (trimLineEnds cs) = visible cs := by
  induction cs with
  | nil => rfl
  | cons c rest ih =>
    rw [trimLineEnds]
    split
    · rename_i hgap
      have hblank : isBlank c = true := by
        rcases hgap.1 with rfl | rfl <;> rfl
      rw [ih, visible_cons_of_isBlank hblank]
    · exact visible_cons_congr c ih

theorem visible_limitLineFeeds (run : Nat) (cs : List Char) :
    visible (limitLineFeeds run cs) = visible cs := by
  induction cs generalizing run with
  | nil => rfl
  | cons c rest ih =>
    rw [limitLineFeeds]
    split
    · rename_i hfeed
      split
      · exact visible_cons_congr c (ih _)
      · rw [ih, hfeed, visible_cons_of_isBlank rfl]
    · exact visible_cons_congr c (ih _)

/-- **Tidying takes out white space only.** -/
theorem visible_tidy (s : String) : visible (tidy s).toList = visible s.toList := by
  rw [tidy, String.toList_ofList, visible_trimChars, visible_limitLineFeeds, visible_trimLineEnds]

/-! ## Lines -/

/-- One character may stand before another: no space and no tab stands before a line feed. -/
def MayPrecede (c d : Char) : Prop :=
  c = ' ' ∨ c = '\t' → d ≠ '\n'

/-- No line but the last one ends in a space or a tab. -/
def LinesTrimmed (cs : List Char) : Prop :=
  cs.IsChain MayPrecede

theorem linesTrimmed_trimLineEnds (cs : List Char) : LinesTrimmed (trimLineEnds cs) := by
  induction cs with
  | nil => exact List.isChain_nil
  | cons c rest ih =>
    rw [trimLineEnds]
    split
    · exact ih
    · rename_i hkept
      refine ih.cons ?_
      rintro d hd hgap rfl
      exact hkept ⟨hgap, hd⟩

theorem LinesTrimmed.trimLineEnds_eq (h : LinesTrimmed cs) : trimLineEnds cs = cs := by
  induction cs with
  | nil => rfl
  | cons c rest ih =>
    obtain ⟨hnext, hrest⟩ := List.isChain_cons.mp h
    rw [trimLineEnds, ih hrest, if_neg]
    rintro ⟨hgap, hfeed⟩
    exact hnext '\n' hfeed hgap rfl

/-- A line feed may follow what does not end in a blank. -/
theorem LinesTrimmed.concat (h : LinesTrimmed cs) (hlast : ∀ c ∈ cs.getLast?, isBlank c = false) :
    LinesTrimmed (cs ++ ['\n']) := by
  refine h.append (List.isChain_singleton _) ?_
  intro c hc d _ hgap
  have hvisible := hlast c hc
  rcases hgap with rfl | rfl <;> cases hvisible

/-- Fewer line feeds leave the lines as they are: what stands before one of them stood there before. -/
theorem LinesTrimmed.limitLineFeeds (h : LinesTrimmed cs) (run : Nat) :
    LinesTrimmed (limitLineFeeds run cs) := by
  induction cs generalizing run with
  | nil => exact h
  | cons c rest ih =>
    obtain ⟨hnext, hrest⟩ := List.isChain_cons.mp h
    rw [RichText.limitLineFeeds]
    by_cases hfeed : c = '\n'
    · have hbefore : ∀ d, MayPrecede c d := by
        rintro d (hgap | hgap) <;> rw [hgap] at hfeed <;> cases hfeed
      rw [if_pos hfeed]
      split
      · exact (ih hrest _).cons fun d _ => hbefore d
      · exact ih hrest _
    · rw [if_neg hfeed]
      refine (ih hrest 0).cons ?_
      intro d hd hgap hline
      -- Were a line feed next now, one was next before: only line feeds are taken out.
      have hnot : rest.head? ≠ some '\n' := fun hhead => hnext '\n' hhead hgap rfl
      cases rest with
      | nil => cases hd
      | cons e rest =>
        have he : e ≠ '\n' := fun he => hnot (congrArg some he)
        rw [RichText.limitLineFeeds, if_neg he] at hd
        exact he ((Option.some.inj hd).trans hline)

/-! ## Line feeds in a row -/

/-- At most two line feeds follow one another; `run` of them stand right before. -/
def Spaced (run : Nat) : List Char → Prop
  | [] => True
  | c :: rest => if c = '\n' then run < 2 ∧ Spaced (run + 1) rest else Spaced 0 rest

theorem spaced_limitLineFeeds (run : Nat) (cs : List Char) : Spaced run (limitLineFeeds run cs) := by
  induction cs generalizing run with
  | nil => trivial
  | cons c rest ih =>
    rw [limitLineFeeds]
    by_cases hfeed : c = '\n'
    · rw [if_pos hfeed]
      by_cases hroom : run < 2
      · rw [if_pos hroom, Spaced, if_pos hfeed]
        exact ⟨hroom, ih _⟩
      · rw [if_neg hroom]
        exact ih run
    · rw [if_neg hfeed, Spaced, if_neg hfeed]
      exact ih 0

theorem Spaced.limitLineFeeds_eq (h : Spaced run cs) : limitLineFeeds run cs = cs := by
  induction cs generalizing run with
  | nil => rfl
  | cons c rest ih =>
    rw [Spaced] at h
    rw [limitLineFeeds]
    split at h
    · rename_i hfeed
      rw [if_pos hfeed, if_pos h.1, ih h.2]
    · rename_i hfeed
      rw [if_neg hfeed, ih h]

theorem Spaced.mono (h : Spaced run cs) {less : Nat} (hless : less ≤ run) : Spaced less cs := by
  induction cs generalizing run less with
  | nil => trivial
  | cons c rest ih =>
    rw [Spaced] at h ⊢
    split
    · rename_i hfeed
      rw [if_pos hfeed] at h
      exact ⟨by omega, ih h.2 (by omega)⟩
    · rename_i hfeed
      rwa [if_neg hfeed] at h

theorem Spaced.of_append_right {front back : List Char} (h : Spaced run (front ++ back)) :
    Spaced 0 back := by
  induction front generalizing run with
  | nil => exact h.mono (Nat.zero_le _)
  | cons c front ih =>
    rw [List.cons_append, Spaced] at h
    split at h
    · exact ih h.2
    · exact ih h

theorem Spaced.of_append_left {front back : List Char} (h : Spaced run (front ++ back)) :
    Spaced run front := by
  induction front generalizing run with
  | nil => trivial
  | cons c front ih =>
    rw [List.cons_append, Spaced] at h
    rw [Spaced]
    split at h
    · rename_i hfeed
      rw [if_pos hfeed]
      exact ⟨h.1, ih h.2⟩
    · rename_i hfeed
      rw [if_neg hfeed]
      exact ih h

theorem Spaced.of_isInfix {ds : List Char} (h : Spaced run cs) (hwithin : ds <:+: cs) : Spaced 0 ds := by
  obtain ⟨front, back, rfl⟩ := hwithin
  rw [List.append_assoc] at h
  exact h.of_append_right.of_append_left

/-- A line feed may follow what does not end in one. -/
theorem Spaced.concat (h : Spaced run cs) (hlast : ∀ c ∈ cs.getLast?, c ≠ '\n')
    (hroom : cs = [] → run < 2) : Spaced run (cs ++ ['\n']) := by
  induction cs generalizing run with
  | nil => exact ⟨hroom rfl, trivial⟩
  | cons c rest ih =>
    have hlast' : ∀ d ∈ rest.getLast?, d ≠ '\n' := by
      intro d hd
      refine hlast d ?_
      rw [List.getLast?_cons, hd]
      rfl
    rw [Spaced] at h
    rw [List.cons_append, Spaced]
    split at h
    · rename_i hfeed
      -- The last character is no line feed, so something follows this one.
      have hmore : rest ≠ [] := by
        rintro rfl
        exact hlast c rfl hfeed
      rw [if_pos hfeed]
      exact ⟨h.1, ih h.2 hlast' fun hnil => absurd hnil hmore⟩
    · rename_i hfeed
      rw [if_neg hfeed]
      exact ih h hlast' fun _ => Nat.zero_lt_two

/-! ## Tidied text -/

/-- Text as tidying leaves it. -/
structure Tidied (cs : List Char) : Prop where
  lines : LinesTrimmed cs
  spaced : Spaced 0 cs
  trimmed : trimChars cs = cs

theorem tidied_tidy (s : String) : Tidied (tidy s).toList := by
  rw [tidy, String.toList_ofList]
  have hlines := (linesTrimmed_trimLineEnds s.toList).limitLineFeeds 0
  have hspaced := spaced_limitLineFeeds 0 (trimLineEnds s.toList)
  have hwithin := Text.trimBy_isInfix isBlank (limitLineFeeds 0 (trimLineEnds s.toList))
  refine ⟨?_, hspaced.of_isInfix hwithin, Text.trimChars_trimChars _⟩
  exact List.IsChain.infix hlines hwithin

/-- **Tidied text stays as it is**, also when a line feed has come behind it. -/
theorem Tidied.tidy_lineFeed {s : String} (h : Tidied s.toList) : tidy (s ++ "\n") = s := by
  have hlast : ∀ c ∈ s.toList.getLast?, isBlank c = false :=
    (Text.trimBy_eq_self_iff.mp h.trimmed).2
  have hnoFeed : ∀ c ∈ s.toList.getLast?, c ≠ '\n' := by
    rintro c hc rfl
    exact absurd (hlast '\n' hc) (by decide)
  have hlines := h.lines.concat hlast
  have hspaced := h.spaced.concat hnoFeed fun _ => Nat.zero_lt_two
  have hchars : (s ++ "\n").toList = s.toList ++ ['\n'] := String.toList_append
  rw [tidy, hchars, hlines.trimLineEnds_eq, hspaced.limitLineFeeds_eq, trimChars,
    Text.trimBy_concat rfl, ← trimChars, h.trimmed, String.ofList_toList]

/-! ## Replies -/

/-- What is read of a reply once it is stored. -/
def readBack (reply : String) : Except Misfit Value :=
  messageBody (ofReply reply)

theorem tidy_of_isBlankText {s : String} (h : Text.isBlankText s = true) : tidy s = "" := by
  have hnone : visible (tidy s).toList = [] := by
    rw [visible_tidy]
    exact Text.visible_eq_nil_iff.mpr (List.all_eq_true.mp h)
  have hfirst : ∀ c ∈ (tidy s).toList.head?, isBlank c = false :=
    (Text.trimBy_eq_self_iff.mp (tidied_tidy s).trimmed).1
  cases hchars : (tidy s).toList with
  | nil => exact String.toList_inj.mp hchars
  | cons c rest =>
    rw [hchars] at hfirst hnone
    have hblank := Text.visible_eq_nil_iff.mp hnone c List.mem_cons_self
    rw [hfirst c rfl] at hblank
    cases hblank

theorem text_ofReply (reply : String) : text (ofReply reply) = .ok (tidy (reply ++ "\n")) := by
  unfold ofReply
  by_cases hblank : Text.isBlankText reply = true
  · rw [if_pos hblank]
    have hmore : Text.isBlankText (reply ++ "\n") = true := by
      rw [Text.isBlankText, String.toList_append, List.all_append]
      exact Bool.and_eq_true_iff.mpr ⟨hblank, rfl⟩
    rw [tidy_of_isBlankText hmore]
    rfl
  · rw [if_neg hblank]
    have hpiece : Text.Piece.ofValue ((Value.text reply).orElse (.text "")) = .text reply := by
      unfold Value.orElse
      by_cases hempty : reply = ""
      · rw [hempty]
        rfl
      · rw [if_pos (by simpa [Value.counts] using hempty)]
        rfl
    show (do return tidy (← Text.joinPieces ""
      [Text.Piece.ofValue ((Value.text reply).orElse (.text "")), .text "\n"])) = _
    rw [hpiece]
    show Except.ok (tidy (reply ++ "" ++ "\n")) = _
    rw [String.append_empty]

/-- A reply is read back as one paragraph, which has no images. -/
theorem readBack_eq (reply : String) : readBack reply = .ok (.text (tidy (reply ++ "\n"))) := by
  have himages : images (ofReply reply) = .ok [] := by
    unfold ofReply
    split <;> rfl
  rw [readBack, messageBody, himages, text_ofReply]
  rfl

theorem Tidied.readBack_eq {s : String} (h : Tidied s.toList) : readBack s = .ok (.text s) := by
  rw [RichText.readBack_eq, h.tidy_lineFeed]

/-- The text of a document is tidied, unless the document is a text itself. -/
theorem tidied_text {document : Value} {s : String} (hdocument : ∀ t, document ≠ .text t)
    (h : text document = .ok s) : Tidied s.toList := by
  unfold text at h
  split at h
  · rename_i t
    exact absurd rfl (hdocument t)
  split at h
  · cases h
    exact tidied_tidy ""
  · obtain ⟨_, -, h⟩ := bind_eq_ok_iff.mp h
    obtain ⟨raw, -, h⟩ := bind_eq_ok_iff.mp h
    cases h
    exact tidied_tidy raw

/-- **Reading back settles at once**: what is read of a stored reply is tidied, shows what the reply
shows and is read back as it is, and so is what was read of any document. -/
theorem read_back_is_stable :
    (∀ reply, ∃ s, readBack reply = .ok (.text s) ∧ Tidied s.toList ∧
      visible s.toList = visible reply.toList ∧ readBack s = .ok (.text s)) ∧
    ∀ document s, (∀ t, document ≠ .text t) → text document = .ok s →
      Tidied s.toList ∧ readBack s = .ok (.text s) := by
  constructor
  · intro reply
    have htidied := tidied_tidy (reply ++ "\n")
    refine ⟨tidy (reply ++ "\n"), readBack_eq reply, htidied, ?_, htidied.readBack_eq⟩
    rw [visible_tidy, String.toList_append, visible_append]
    exact List.append_nil _
  · intro document s hdocument hs
    have htidied := tidied_text hdocument hs
    exact ⟨htidied, htidied.readBack_eq⟩

/-- Steps to take, with spaces at the ends of lines and a rule right behind a list. -/
def stepsDocument : Value :=
  .object [("type", .text "doc"), ("content", .list [
    .object [("type", .text "paragraph"), ("content", .list [textPart "Steps: \t"])],
    .object [("type", .text "bulletList"), ("content", .list [
      .object [("type", .text "listItem"), ("content", .list [textPart "restart "])]])],
    .object [("type", .text "horizontalRule")],
    .object [("type", .text "paragraph"), ("content", .list [textPart "done"])]])]

theorem read_back_is_stable_steps :
    (∀ t, stepsDocument ≠ .text t) ∧
    text stepsDocument = .ok "Steps:\n- restart\n\n---\ndone" ∧
    readBack "Steps:\n- restart\n\n---\ndone" = .ok (.text "Steps:\n- restart\n\n---\ndone") := by
  have hdocument : ∀ t, stepsDocument ≠ .text t := nofun
  have htext : text stepsDocument = .ok "Steps:\n- restart\n\n---\ndone" := rfl
  obtain ⟨-, hread⟩ := read_back_is_stable.2 stepsDocument _ hdocument htext
  exact ⟨hdocument, htext, hread⟩

end Helpdesk.RichText
