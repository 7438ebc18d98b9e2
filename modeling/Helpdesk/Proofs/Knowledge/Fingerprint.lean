import Helpdesk.Proofs.Knowledge.Identity

/-!
# Helpdesk.Proofs.Knowledge.Fingerprint — what the fingerprint of a chunk tells.

A fingerprint is taken of one text: the place of a chunk and then its content, with colons between
the parts. Ids and contents may have colons and digits of their own, so the text does not tell where
the id ends, and what one chunk says may be said by another one that has a longer id and less content.
There is no further way to read it: where neither id goes on behind the other and a colon, the text
tells all its parts. There must be texts that collide, so what is assumed of the hash is no more than
that the two texts at hand do not.
-/
namespace Helpdesk

/-- Two different texts have one fingerprint. -/
def Digest.Collide (s t : String) : Prop :=
  s ≠ t ∧ Digest.fingerprint s = Digest.fingerprint t

theorem Digest.fingerprint_eq_iff {s t : String} (hfree : ¬ Digest.Collide s t) :
    Digest.fingerprint s = Digest.fingerprint t ↔ s = t := by
  constructor
  · intro hsame
    by_contra hne
    exact hfree ⟨hne, hsame⟩
  · rintro rfl
    rfl

namespace Knowledge

/-- Two chunks have one place and one content. -/
structure Chunk.SaysSame (a b : Chunk) : Prop extends a.SamePlace b where
  content : a.content = b.content

/-- What one chunk says is read as another chunk with a longer id. With its colon that id is the id and
the number of the first chunk, with their colons, and more; the content of the first chunk begins with
what is more, and the number and the content of the other follow. -/
structure Chunk.ReadsAs (a b : Chunk) : Prop where
  sourceType : a.sourceType = b.sourceType
  split : ∃ more, b.sourceId ++ ":" = a.sourceId ++ ":" ++ decimal a.number ++ ":" ++ more ∧
    a.content = more ++ decimal b.number ++ ":" ++ b.content

/-- The source of a chunk is named below that of another one: it goes on with a colon where the id of
the other ends. -/
def Chunk.FiledUnder (b a : Chunk) : Prop :=
  ∃ more, b.sourceId = a.sourceId ++ ":" ++ more

/-- The text of which a chunk has the fingerprint. -/
def Chunk.said (c : Chunk) : String :=
  c.key ++ ":" ++ c.content

/-- What a chunk says behind its id. -/
def Chunk.behind (c : Chunk) : List Char :=
  (decimal c.number).toList ++ ':' :: c.content.toList

theorem Chunk.fingerprint_eq (c : Chunk) : c.fingerprint = Digest.fingerprint c.said := rfl

theorem Chunk.toList_said (c : Chunk) :
    c.said.toList = c.sourceType.name.toList ++ ':' :: (c.sourceId.toList ++ ':' :: c.behind) := by
  simp [said, key, keyOf, behind]

/-! ## Readings of one text -/

/-- A text is split at a separator in two ways: where the one has no separator ahead, the other is at
the same place or takes a further part of the text. -/
theorem exists_more_of_append_cons_eq {c : Char} {front rest word last : List Char}
    (hfront : c ∉ front) (h : front ++ c :: rest = word ++ c :: last) :
    ∃ more, word ++ [c] = front ++ c :: more ∧ rest = more ++ last := by
  have hsplit : front ++ c :: rest = (word ++ [c]) ++ last := by simpa using h
  rcases List.append_eq_append_iff.mp hsplit with ⟨tail, hword, hrest⟩ | ⟨tail, hshort, -⟩
  · rcases tail with _ | ⟨d, more⟩
    · -- All of the word stands ahead of the separator, and it has a separator at its end.
      rw [List.append_nil] at hword
      exact absurd (hword ▸ List.mem_append_right word List.mem_cons_self) hfront
    · obtain ⟨rfl, htail⟩ := List.cons.inj hrest
      exact ⟨more, hword, htail⟩
  · have hmem : c ∈ word ++ [c] := List.mem_append_right word List.mem_cons_self
    exact absurd (hshort ▸ List.mem_append_left tail hmem) hfront

section Chunks

variable {a b : Chunk}

theorem Chunk.SaysSame.said_eq (h : a.SaysSame b) : a.said = b.said := by
  rw [said, said, key_eq_iff.mpr h.toSamePlace, h.content]

theorem Chunk.ReadsAs.said_eq (h : a.ReadsAs b) : a.said = b.said := by
  obtain ⟨more, hid, hcontent⟩ := h.split
  calc a.said
      = a.sourceType.name ++ ":" ++ (a.sourceId ++ ":" ++ decimal a.number ++ ":" ++ more) ++
          decimal b.number ++ ":" ++ b.content := by
        simp only [said, key, keyOf, hcontent, String.append_assoc]
    _ = b.sourceType.name ++ ":" ++ (b.sourceId ++ ":") ++ decimal b.number ++ ":" ++ b.content := by
        rw [hid, h.sourceType]
    _ = b.said := by simp only [said, key, keyOf, String.append_assoc]

/-- Where the one id begins the other, there are two ways to read on. -/
theorem Chunk.saysSame_or_readsAs {tail : List Char} (htype : a.sourceType = b.sourceType)
    (hid : b.sourceId.toList = a.sourceId.toList ++ tail)
    (hbehind : ':' :: a.behind = tail ++ ':' :: b.behind) : a.SaysSame b ∨ a.ReadsAs b := by
  have hcolon : ':' ∉ (decimal a.number).toList := colon_notMem_decimal a.number
  rcases tail with _ | ⟨c, word⟩
  · left
    rw [List.append_nil] at hid
    obtain ⟨hnumber, hcontent⟩ :=
      eq_of_append_cons_eq hcolon (colon_notMem_decimal b.number) (List.cons.inj hbehind).2
    exact ⟨⟨htype, String.toList_inj.mp hid.symm, eq_of_decimal_eq (String.toList_inj.mp hnumber)⟩,
      String.toList_inj.mp hcontent⟩
  · right
    obtain ⟨rfl, hrest⟩ := List.cons.inj hbehind
    obtain ⟨more, hword, hcontent⟩ := exists_more_of_append_cons_eq hcolon hrest
    refine ⟨htype, String.ofList more, ?_, ?_⟩
    · rw [← String.toList_inj]
      simp [hid, hword]
    · rw [← String.toList_inj]
      simp [hcontent, behind]

theorem Chunk.said_eq_iff : a.said = b.said ↔ a.SaysSame b ∨ a.ReadsAs b ∨ b.ReadsAs a := by
  constructor
  · intro hsaid
    have hchars := congrArg String.toList hsaid
    rw [toList_said, toList_said] at hchars
    obtain ⟨hname, hrest⟩ := eq_of_append_cons_eq a.sourceType.colon_notMem_name
      b.sourceType.colon_notMem_name hchars
    have htype := SourceType.eq_of_name_eq (String.toList_inj.mp hname)
    -- One of the ids begins the other, and which one says who has the longer content.
    rcases List.append_eq_append_iff.mp hrest with ⟨tail, hid, hbehind⟩ | ⟨tail, hid, hbehind⟩
    · exact (saysSame_or_readsAs htype hid hbehind).imp_right .inl
    · rcases saysSame_or_readsAs htype.symm hid hbehind with hsame | hreads
      · exact .inl ⟨⟨htype, hsame.sourceId.symm, hsame.number.symm⟩, hsame.content.symm⟩
      · exact .inr (.inr hreads)
  · rintro (hsame | hreads | hreads)
    · exact hsame.said_eq
    · exact hreads.said_eq
    · exact hreads.said_eq.symm

theorem Chunk.ReadsAs.filedUnder (h : a.ReadsAs b) : b.FiledUnder a := by
  obtain ⟨more, hid, -⟩ := h.split
  -- The last colon is not of the id, but there is one ahead of it.
  have hchars := congrArg (fun s => s.toList.dropLast) hid
  refine ⟨String.ofList ((decimal a.number).toList ++ ':' :: more.toList).dropLast, ?_⟩
  rw [← String.toList_inj]
  simpa [List.dropLast_cons_of_ne_nil] using hchars

end Chunks

/-- **Fingerprints identify contents, as far as ids let them.** When the texts of two chunks do not
collide, the chunks have one fingerprint exactly when they have one place and one content or when one
of them is read as the other. Where neither source is named below the other it is exactly when they
have one place and one content, whatever the contents are. -/
theorem fingerprints_identify_contents {a b : Chunk} (hfree : ¬ Digest.Collide a.said b.said) :
    (a.fingerprint = b.fingerprint ↔ a.SaysSame b ∨ a.ReadsAs b ∨ b.ReadsAs a) ∧
    (¬ a.FiledUnder b → ¬ b.FiledUnder a → (a.fingerprint = b.fingerprint ↔ a.SaysSame b)) := by
  have hiff : a.fingerprint = b.fingerprint ↔ a.SaysSame b ∨ a.ReadsAs b ∨ b.ReadsAs a := by
    rw [Chunk.fingerprint_eq, Chunk.fingerprint_eq, Digest.fingerprint_eq_iff hfree,
      Chunk.said_eq_iff]
  refine ⟨hiff, fun hab hba => hiff.trans ⟨?_, .inl⟩⟩
  rintro (hsame | hreads | hreads)
  · exact hsame
  · exact absurd hreads.filedUnder hba
  · exact absurd hreads.filedUnder hab

theorem fingerprints_identify_contents_leafletPart :
    ¬ Digest.Collide (leafletPart "1:2" 3 "a").said (leafletPart "1:23" 0 "a").said ∧
    ¬ (leafletPart "1:2" 3 "a").FiledUnder (leafletPart "1:23" 0 "a") ∧
    ¬ (leafletPart "1:23" 0 "a").FiledUnder (leafletPart "1:2" 3 "a") ∧
    (leafletPart "1:2" 3 "a").fingerprint ≠ (leafletPart "1:23" 0 "a").fingerprint := by
  have hfree : ¬ Digest.Collide (leafletPart "1:2" 3 "a").said (leafletPart "1:23" 0 "a").said :=
    fun h => absurd h.2 (by decide +kernel)
  have hshorter : ¬ (leafletPart "1:2" 3 "a").FiledUnder (leafletPart "1:23" 0 "a") := by
    rintro ⟨more, hid⟩
    exact absurd (congrArg String.toList hid) (by simp [leafletPart])
  have hlonger : ¬ (leafletPart "1:23" 0 "a").FiledUnder (leafletPart "1:2" 3 "a") := by
    rintro ⟨more, hid⟩
    exact absurd (congrArg String.toList hid) (by simp [leafletPart])
  refine ⟨hfree, hshorter, hlonger, fun hsame => ?_⟩
  have hsays := ((fingerprints_identify_contents hfree).2 hshorter hlonger).mp hsame
  exact absurd hsays.number (by decide)

/-- A number goes from the content of a chunk into its id, and the fingerprint stays: both chunks say
the same text, so it is no matter of the hash. -/
theorem movedNumber_keeps_fingerprint :
    ¬ Digest.Collide (leafletPart "a" 1 "2:x").said (leafletPart "a:1" 2 "x").said ∧
    (leafletPart "a" 1 "2:x").fingerprint = (leafletPart "a:1" 2 "x").fingerprint ∧
    (leafletPart "a" 1 "2:x").sourceId ≠ (leafletPart "a:1" 2 "x").sourceId ∧
    (leafletPart "a" 1 "2:x").number ≠ (leafletPart "a:1" 2 "x").number ∧
    (leafletPart "a" 1 "2:x").content ≠ (leafletPart "a:1" 2 "x").content := by
  have hreads : (leafletPart "a" 1 "2:x").ReadsAs (leafletPart "a:1" 2 "x") :=
    ⟨rfl, "", by decide, by decide⟩
  exact ⟨fun h => h.1 hreads.said_eq, congrArg Digest.fingerprint hreads.said_eq, by decide,
    by decide, by decide⟩

end Knowledge

end Helpdesk
