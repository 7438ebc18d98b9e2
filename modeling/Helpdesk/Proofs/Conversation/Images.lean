import Helpdesk.Proofs.Conversation.Bag
import Helpdesk.Proofs.Text.Slice
import Mathlib.Data.List.Induction

/-!
# Helpdesk.Proofs.Conversation.Images — which images a prompt shows.

The images of a conversation come as one sequence, those of the ticket before those of the customer's
last turn. Each of them is shown once and only the last few of them are, where an image stands for the
place at which it is met first. An image that is sent again keeps that first place, so it may be left
out although it is the latest of all.
-/
namespace Helpdesk.Conversation

/-! ## First occurrences -/

section
variable {α : Type} {same : α → α → Bool} {items front back : List α} {a b : α}

/-- The items that are the same as no item before them. -/
def firstsOf (same : α → α → Bool) (items : List α) : List α :=
  items.foldl (fun seen v => if seen.any (same v) then seen else seen ++ [v]) []

/-- An item is met among others, as itself or as one that is the same. -/
def Met (same : α → α → Bool) (a : α) (items : List α) : Prop :=
  ∃ b ∈ items, b = a ∨ same a b = true

theorem Met.mono (h : Met same a front) (hsubset : front ⊆ items) : Met same a items := by
  obtain ⟨b, hb, hsame⟩ := h
  exact ⟨b, hsubset hb, hsame⟩

theorem firstsOf_concat (same : α → α → Bool) (items : List α) (a : α) :
    firstsOf same (items ++ [a]) =
      if (firstsOf same items).any (same a) then firstsOf same items
      else firstsOf same items ++ [a] := by
  unfold firstsOf
  rw [List.foldl_append]
  rfl

/-- Further items only add to the first occurrences. -/
theorem exists_firstsOf_append (same : α → α → Bool) (front back : List α) :
    ∃ more, firstsOf same (front ++ back) = firstsOf same front ++ more ∧ more ⊆ back := by
  induction back using List.reverseRecOn with
  | nil => exact ⟨[], by simp, List.Subset.refl _⟩
  | append_singleton back a ih =>
    obtain ⟨more, hmore, hsubset⟩ := ih
    rw [← List.append_assoc, firstsOf_concat, hmore]
    split
    · exact ⟨more, rfl, fun b hb => List.mem_append_left _ (hsubset hb)⟩
    · refine ⟨more ++ [a], List.append_assoc .., ?_⟩
      intro b hb
      rcases List.mem_append.mp hb with hb | hb
      · exact List.mem_append_left _ (hsubset hb)
      · exact List.mem_append_right _ hb

theorem firstsOf_subset (same : α → α → Bool) (items : List α) : firstsOf same items ⊆ items := by
  obtain ⟨more, hmore, hsubset⟩ := exists_firstsOf_append same [] items
  rw [List.nil_append] at hmore
  rw [hmore]
  exact hsubset

theorem pairwise_firstsOf (same : α → α → Bool) (items : List α) :
    (firstsOf same items).Pairwise fun a b => same b a = false := by
  induction items using List.reverseRecOn with
  | nil => exact List.Pairwise.nil
  | append_singleton items a ih =>
    rw [firstsOf_concat]
    split
    · exact ih
    · rename_i hfresh
      refine List.pairwise_append.mpr ⟨ih, List.pairwise_singleton _ a, ?_⟩
      intro b hb c hc
      rw [List.mem_singleton.mp hc]
      cases hsame : same a b with
      | false => rfl
      | true => exact absurd (List.any_eq_true.mpr ⟨b, hb, hsame⟩) hfresh

theorem met_firstsOf (same : α → α → Bool) (h : a ∈ items) : Met same a (firstsOf same items) := by
  induction items using List.reverseRecOn with
  | nil => cases h
  | append_singleton items b ih =>
    rw [firstsOf_concat]
    rcases List.mem_append.mp h with hold | hnew
    · split
      · exact ih hold
      · exact (ih hold).mono (List.subset_append_left _ _)
    · obtain rfl := List.mem_singleton.mp hnew
      split
      · rename_i hsame
        obtain ⟨c, hc, hsame⟩ := List.any_eq_true.mp hsame
        exact ⟨c, hc, Or.inr hsame⟩
      · exact ⟨a, List.mem_append_right _ List.mem_cons_self, Or.inl rfl⟩

/-- A first occurrence that is met early is an early first occurrence. -/
theorem mem_firstsOf_of_mem (h : a ∈ firstsOf same (front ++ back)) (hfront : a ∈ front) :
    a ∈ firstsOf same front := by
  obtain ⟨more, hmore, -⟩ := exists_firstsOf_append same front back
  have hpairwise := pairwise_firstsOf same (front ++ back)
  rw [hmore] at h hpairwise
  obtain ⟨b, hb, rfl | hsame⟩ := met_firstsOf same hfront
  · exact hb
  · refine (List.mem_append.mp h).resolve_right fun hlate => ?_
    rw [(List.pairwise_append.mp hpairwise).2.2 b hb a hlate] at hsame
    cases hsame

end

/-! ## Images by key -/

/-- A value that can be looked up by, and is found then. -/
def IsKey (v : Value) : Prop :=
  sameKey v v = true

theorem isKey_text (t : String) : IsKey (.text t) := by
  simp [IsKey, sameKey]

theorem met_texts_iff {t : String} {texts : List String} :
    Met sameKey (.text t) (texts.map .text) ↔ t ∈ texts := by
  constructor
  · rintro ⟨b, hb, hsame⟩
    obtain ⟨other, hother, rfl⟩ := List.mem_map.mp hb
    obtain rfl : other = t := by
      rcases hsame with hsame | hsame
      · simpa using hsame
      · simpa [sameKey, eq_comm] using hsame
    exact hother
  · exact fun h => ⟨.text t, List.mem_map_of_mem h, Or.inl rfl⟩

/-- One more value among those that were seen. -/
def addKey (seen : List Value) (v : Value) : Except Misfit (List Value) :=
  match v with
  | .list _ => .error (.notKey v.kind)
  | .object _ => .error (.notKey v.kind)
  | v => .ok (if seen.any (sameKey v) then seen else seen ++ [v])

theorem addKey_eq {v : Value} (h : IsKey v) (seen : List Value) :
    addKey seen v = .ok (if seen.any (sameKey v) then seen else seen ++ [v]) := by
  cases v with
  | list _ | object _ => cases h
  | _ => rfl

theorem addKey_error {v : Value} (h : v.kind = .list ∨ v.kind = .object) (seen : List Value) :
    addKey seen v = .error (.notKey v.kind) := by
  cases v with
  | list _ | object _ => rfl
  | _ => rcases h with h | h <;> cases h

theorem distinctKeys_eq {values : List Value} (h : ∀ v ∈ values, IsKey v) :
    distinctKeys values = .ok (firstsOf sameKey values) := by
  -- The fold starts from what was seen, so the induction is over any such list.
  have hseen : ∀ seen : List Value, values.foldlM addKey seen =
      .ok (values.foldl (fun seen v => if seen.any (sameKey v) then seen else seen ++ [v]) seen) := by
    induction values with
    | nil => exact fun _ => rfl
    | cons v rest ih =>
      intro seen
      rw [List.foldlM_cons, addKey_eq (h v List.mem_cons_self)]
      exact ih (fun w hw => h w (List.mem_cons_of_mem _ hw)) _
  exact hseen []

theorem exists_distinctKeys_error {values : List Value} {v : Value} (hv : v ∈ values)
    (h : v.kind = .list ∨ v.kind = .object) : ∃ misfit, distinctKeys values = .error misfit := by
  have hseen : ∀ seen : List Value, ∃ misfit, values.foldlM addKey seen = .error misfit := by
    induction values with
    | nil => cases hv
    | cons w rest ih =>
      intro seen
      rw [List.foldlM_cons]
      rcases hw : addKey seen w with misfit | next
      · exact ⟨misfit, rfl⟩
      rcases List.mem_cons.mp hv with rfl | hrest
      · rw [addKey_error h] at hw
        cases hw
      · exact ih hrest next
  exact hseen []

/-! ## The images that are shown -/

/-- The images of a sequence that a prompt shows. -/
def shownOf (urls : List Value) : List Value :=
  Text.lastItems imageLimit (firstsOf sameKey urls)

/-- An image that is not shown, neither itself nor as one that is the same. -/
def LeftOut (urls : List Value) (url : Value) : Prop :=
  url ∈ urls ∧ ¬ Met sameKey url (shownOf urls)

/-- The images that are shown are the latest: behind an image that is left out all of them are met
again. -/
def KeepsLatest (urls : List Value) : Prop :=
  ∀ front back, urls = front ++ back → ∀ url ∈ back, LeftOut urls url →
    ∀ shown ∈ shownOf urls, Met sameKey shown back

/-- **First met, first left out**: once an image that is shown has been met, so have all that are left
out. -/
theorem met_of_leftOut {urls front back : List Value} {url shown : Value}
    (hsplit : urls = front ++ back) (hurl : LeftOut urls url) (hshown : shown ∈ shownOf urls)
    (hkey : IsKey shown) (hfront : shown ∈ front) : Met sameKey url front := by
  obtain ⟨hmem, hnot⟩ := hurl
  obtain ⟨first, hfirst, hsame⟩ := met_firstsOf sameKey hmem
  refine ⟨first, firstsOf_subset sameKey front ?_, hsame⟩
  obtain ⟨early, hearly⟩ := Text.lastItems_suffix imageLimit (firstsOf sameKey urls)
  have hfirst : first ∈ early := by
    rw [← hearly] at hfirst
    exact (List.mem_append.mp hfirst).resolve_right fun hlate => hnot ⟨first, hlate, hsame⟩
  have hshownFirst : shown ∈ firstsOf sameKey front := by
    have hfirsts := (Text.lastItems_suffix _ _).subset hshown
    rw [hsplit] at hfirsts
    exact mem_firstsOf_of_mem hfirsts hfront
  obtain ⟨more, hmore, -⟩ := exists_firstsOf_append sameKey front back
  rw [← hsplit, ← hearly] at hmore
  rcases List.append_eq_append_iff.mp hmore with ⟨between, hbetween, -⟩ | ⟨between, hbetween, -⟩
  · rw [hbetween]
    exact List.mem_append_left _ hfirst
  · -- Otherwise the image that is shown would stand among the early ones, and stand there twice.
    have hpairwise := pairwise_firstsOf sameKey urls
    rw [← hearly] at hpairwise
    have hshownEarly : shown ∈ early := by
      rw [hbetween]
      exact List.mem_append_left _ hshownFirst
    have hdiffers := (List.pairwise_append.mp hpairwise).2.2 shown hshownEarly shown hshown
    rw [IsKey, hdiffers] at hkey
    cases hkey

/-- Only an image that was sent again can be later than those that are shown. -/
theorem keepsLatest_iff {urls : List Value} (hkeys : ∀ url ∈ urls, IsKey url) :
    KeepsLatest urls ↔
      ∀ front url back, urls = front ++ url :: back → LeftOut urls url → Met sameKey url front →
        ∀ shown ∈ shownOf urls, Met sameKey shown (url :: back) := by
  constructor
  · intro h front url back hsplit hleft _
    exact h front (url :: back) hsplit url List.mem_cons_self hleft
  · intro h front back hsplit url hurl hleft shown hshown
    have hmem : shown ∈ urls := firstsOf_subset _ _ ((Text.lastItems_suffix _ _).subset hshown)
    have hkey := hkeys shown hmem
    rw [hsplit] at hmem
    rcases List.mem_append.mp hmem with hfront | hback
    · obtain ⟨before, after, rfl⟩ := List.append_of_mem hurl
      have hmet := met_of_leftOut hsplit hleft hshown hkey hfront
      have hagain : urls = (front ++ before) ++ url :: after := by rw [hsplit, List.append_assoc]
      have hlate := h _ url after hagain hleft (hmet.mono (List.subset_append_left front before))
      exact (hlate shown hshown).mono (List.subset_append_right before _)
    · exact ⟨shown, hback, Or.inl rfl⟩

/-- **Prompts show images once, and those met last**: of the images of a conversation a prompt shows at
most six, no two of them the same, and none that was met before one that is left out. They are the
latest images unless one that is left out was sent again behind all that is sent of one of them. -/
theorem prompts_show_images_met_last {s : State} {ofTicket : Bool} {urls : List Value}
    (hurls : sharedImages s ofTicket = .ok urls) (prompt : String) :
    ((∃ url ∈ urls, url.kind = .list ∨ url.kind = .object) →
      ∃ misfit, promptParts prompt s ofTicket = .error misfit) ∧
    ((∀ url ∈ urls, IsKey url) →
      promptParts prompt s ofTicket =
        .ok (.list (RichText.textPart prompt :: (shownOf urls).map RichText.imagePart)) ∧
      shownOf urls ⊆ urls ∧ (shownOf urls).length ≤ imageLimit ∧
      ((shownOf urls).Pairwise fun a b => sameKey b a = false) ∧
      (∀ front back url shown, urls = front ++ back → LeftOut urls url → shown ∈ shownOf urls →
        shown ∈ front → Met sameKey url front) ∧
      (KeepsLatest urls ↔ ∀ front url back, urls = front ++ url :: back → LeftOut urls url →
        Met sameKey url front → ∀ shown ∈ shownOf urls, Met sameKey shown (url :: back))) := by
  have hparts : promptParts prompt s ofTicket = (distinctKeys urls).map fun shown => .list
      (RichText.textPart prompt :: (Text.lastItems imageLimit shown).map RichText.imagePart) := by
    rw [promptParts_eq, images, hurls]
    rfl
  constructor
  · rintro ⟨url, hurl, hkind⟩
    obtain ⟨misfit, hfails⟩ := exists_distinctKeys_error hurl hkind
    exact ⟨misfit, by rw [hparts, hfails]; rfl⟩
  · intro hkeys
    have hsuffix := Text.lastItems_suffix imageLimit (firstsOf sameKey urls)
    refine ⟨by rw [hparts, distinctKeys_eq hkeys]; rfl, ?_, Text.length_lastItems_le _ _, ?_, ?_, ?_⟩
    · exact List.Subset.trans hsuffix.subset (firstsOf_subset _ _)
    · exact (pairwise_firstsOf sameKey urls).sublist hsuffix.sublist
    · intro front back url shown hsplit hurl hshown hfront
      have hkey := hkeys shown (hsplit ▸ List.mem_append_left back hfront)
      exact met_of_leftOut hsplit hurl hshown hkey hfront
    · exact keepsLatest_iff hkeys

/-- A conversation whose ticket shows an image `a` and whose customer then sends images. -/
def showing (sent : List String) : State :=
  .start [⟨.text "customer", some (.list (sent.map fun url => RichText.imagePart (.text url))), none⟩]
    [("description", .object [("type", .text "image"), ("attrs", .object [("src", .text "a")])])] []

/-- The images of that conversation. -/
def sequence (sent : List String) : List Value :=
  ("a" :: sent).map .text

theorem isKey_of_mem_sequence {sent : List String} : ∀ url ∈ sequence sent, IsKey url := by
  intro url hurl
  obtain ⟨t, -, rfl⟩ := List.mem_map.mp hurl
  exact isKey_text t

theorem prompts_show_images_met_last_sixSent :
    sharedImages (showing ["b", "c", "d", "e", "f", "g"]) true =
      .ok (sequence ["b", "c", "d", "e", "f", "g"]) ∧
    promptParts "Help." (showing ["b", "c", "d", "e", "f", "g"]) true =
      .ok (.list (RichText.textPart "Help." ::
        (["b", "c", "d", "e", "f", "g"].map .text).map RichText.imagePart)) ∧
    KeepsLatest (sequence ["b", "c", "d", "e", "f", "g"]) := by
  have hurls : sharedImages (showing ["b", "c", "d", "e", "f", "g"]) true =
      .ok (sequence ["b", "c", "d", "e", "f", "g"]) := rfl
  obtain ⟨-, hshown⟩ := prompts_show_images_met_last hurls "Help."
  obtain ⟨hparts, -, -, -, -, hlatest⟩ := hshown isKey_of_mem_sequence
  refine ⟨hurls, hparts, hlatest.mpr ?_⟩
  -- No image is sent twice.
  intro front url back hsplit _ hmet
  obtain ⟨texts, others, htexts, rfl, hothers⟩ := List.map_eq_append_iff.mp hsplit
  obtain ⟨t, rest, rfl, rfl, rfl⟩ := List.map_eq_cons_iff.mp hothers
  have hnodup : (texts ++ t :: rest).Nodup := by
    rw [← htexts]
    decide
  have htwice : t ∈ texts := met_texts_iff.mp hmet
  exact absurd rfl ((List.nodup_append.mp hnodup).2.2 t htwice t List.mem_cons_self)

/-- The ticket's image is sent again, last of all, and is left out for images that came before. -/
theorem image_sent_again_left_out :
    sharedImages (showing ["b", "c", "d", "e", "f", "g", "a"]) true =
      .ok (sequence ["b", "c", "d", "e", "f", "g", "a"]) ∧
    ¬ KeepsLatest (sequence ["b", "c", "d", "e", "f", "g", "a"]) := by
  refine ⟨rfl, fun hlatest => ?_⟩
  have hshown : shownOf (sequence ["b", "c", "d", "e", "f", "g", "a"]) =
      ["b", "c", "d", "e", "f", "g"].map .text := rfl
  have hleft : LeftOut (sequence ["b", "c", "d", "e", "f", "g", "a"]) (.text "a") := by
    refine ⟨List.mem_cons_self, ?_⟩
    rw [hshown, met_texts_iff]
    decide
  have hmet : Met sameKey (.text "b") (["a"].map .text) := by
    refine hlatest (sequence ["b", "c", "d", "e", "f", "g"]) _ rfl _ List.mem_cons_self hleft _ ?_
    rw [hshown]
    exact List.mem_cons_self
  rw [met_texts_iff] at hmet
  exact absurd hmet (by decide)

end Helpdesk.Conversation
