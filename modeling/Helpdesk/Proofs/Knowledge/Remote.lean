import Helpdesk.Knowledge.Store
import Helpdesk.Proofs.Validation

/-!
# Helpdesk.Proofs.Knowledge.Remote — what a remote service can do to those who ask it.

A service that cannot be reached and a reply that reports an error become faults of the store, which
is what callers look out for. A reply that reports success is only read, and reading it may fail: its
body is no record, or its data are no hits. These failures stay what they are, so which question fails
otherwise than a store should is told by the reply alone.
-/
namespace Helpdesk

/-- A fault that a store reports as its own. -/
def Fault.IsStore (fault : Fault) : Prop :=
  ∃ message details, fault = .store message details

namespace Knowledge

variable {σ α : Type} {reach : Remote.Call → StateM σ Http.Reply} {path : String}
  {reply : Http.Reply} {v : Value} {fault : Fault}

/-- A failure that is no fault of a store. -/
def Slips (result : Except Fault α) : Prop :=
  ∃ fault, result = .error fault ∧ ¬ fault.IsStore

/-- A question that fails otherwise than a store should. -/
def Escapes (question : Ask σ α) (s : σ) : Prop :=
  Slips (question.run.run s).1

namespace Remote

/-! ## Replies -/

/-- The reply reports success, and its body is no record. -/
def Garbled (reply : Http.Reply) : Prop :=
  ∃ status body fault, reply = .answered status body ∧ Http.isSuccess status = true ∧
    Http.record body = .error fault

/-- Data that counts as hits: nothing at all, or a list of hits. -/
def HoldsHits (v : Value) : Prop :=
  v.counts = false ∨ ∃ items, v = .list items ∧ ∀ item ∈ items, ∃ h, Hit.shape item = .valid h

/-- The reply reports success and its body can be read, but its data is something else than hits. -/
def Hitless (reply : Http.Reply) : Prop :=
  ∃ status body v, reply = .answered status body ∧ Http.isSuccess status = true ∧
    Http.record body = .ok v ∧ ¬ HoldsHits (v.field "data")

/-- The reply to an exchange; nothing when it makes no call. -/
def Exchange.reply? (reach : Call → StateM σ Http.Reply) (s : σ) : Exchange α → Option Http.Reply
  | .settled _ => none
  | .call c _ => some ((reach c).run s).1

/-! ## Hits -/

theorem not_slips_ok (a : α) : ¬ Slips (.ok a) := by
  rintro ⟨fault, h, -⟩
  cases h

/-- A value read as a hit. -/
def readHit (v : Value) : Except Fault Hit :=
  Fault.ofChecked "SearchHit" (Hit.shape v)

theorem readHit_eq_ok_iff {h : Hit} : readHit v = .ok h ↔ Hit.shape v = .valid h := by
  unfold readHit
  rcases Hit.shape v with hit | issues <;> simp [Fault.ofChecked]

theorem not_isStore_of_readHit (h : readHit v = .error fault) : ¬ fault.IsStore := by
  unfold readHit at h
  rcases hshape : Hit.shape v with hit | issues
  · rw [hshape] at h
    cases h
  · rw [hshape] at h
    cases h
    rintro ⟨message, details, hstore⟩
    cases hstore

theorem hits_eq (hcounts : v.counts = true) :
    hits v = Fault.ofMisfit v.elements >>= fun found => found.mapM readHit := by
  rw [hits, items, hcounts, if_pos rfl]
  rfl

/-- One item that is no hit spoils all of them. -/
theorem slips_mapM_iff (found : List Value) :
    Slips (found.mapM readHit) ↔ ¬ ∀ item ∈ found, ∃ h, Hit.shape item = .valid h := by
  rcases mapM_cases (f := readHit) found with ⟨hits, hok, hall⟩ | ⟨item, hitem, fault, hfault, hfails⟩
  · rw [hok]
    refine iff_of_false (not_slips_ok hits) fun hodd => hodd fun item hitem => ?_
    obtain ⟨h, hread⟩ := hall item hitem
    exact ⟨h, readHit_eq_ok_iff.mp hread⟩
  · rw [hfails]
    refine iff_of_true ⟨fault, rfl, not_isStore_of_readHit hfault⟩ fun hall => ?_
    obtain ⟨h, hshape⟩ := hall item hitem
    rw [readHit_eq_ok_iff.mpr hshape] at hfault
    cases hfault

/-- A text is no hit: data in which texts are found is spoilt. -/
theorem slips_of_texts {texts : List String} (htexts : v.elements = .ok (texts.map .text))
    (hsome : texts ≠ []) :
    Slips (Fault.ofMisfit v.elements >>= fun found => found.mapM readHit) := by
  rw [htexts]
  refine (slips_mapM_iff _).mpr fun hall => ?_
  obtain ⟨t, rest, rfl⟩ := List.exists_cons_of_ne_nil hsome
  obtain ⟨h, hh⟩ := hall (.text t) List.mem_cons_self
  cases hh

theorem slips_hits_iff (v : Value) : Slips (hits v) ↔ ¬ HoldsHits v := by
  rcases hcounts : v.counts
  · have hnone : hits v = .ok [] := by
      rw [hits, items, hcounts]
      rfl
    rw [hnone]
    exact iff_of_false (not_slips_ok _) fun h => h (Or.inl hcounts)
  have hlist : HoldsHits v ↔
      ∃ items, v = .list items ∧ ∀ item ∈ items, ∃ h, Hit.shape item = .valid h := by
    rw [HoldsHits, hcounts]
    simp
  rw [hlist, hits_eq hcounts]
  -- Texts and objects can be gone through as well, but only to find texts in them.
  cases v with
  | list found =>
    rw [show (Fault.ofMisfit (Value.list found).elements) = .ok found from rfl]
    refine (slips_mapM_iff found).trans (not_congr ?_)
    constructor
    · exact fun h => ⟨found, rfl, h⟩
    · rintro ⟨_, hsame, h⟩
      cases hsame
      exact h
  | text t =>
    have hsome : t.toList.map String.singleton ≠ [] := by
      intro hnil
      have ht : t = "" := String.toList_eq_nil_iff.mp (List.map_eq_nil_iff.mp hnil)
      simp [Value.counts, ht] at hcounts
    have htexts : (Value.text t).elements = .ok ((t.toList.map String.singleton).map .text) := by
      rw [List.map_map]
      rfl
    refine iff_of_true (slips_of_texts htexts hsome) ?_
    rintro ⟨_, hsame, -⟩
    cases hsame
  | object e =>
    have hsome : e.map Prod.fst ≠ [] := by
      intro hnil
      rw [List.map_eq_nil_iff.mp hnil] at hcounts
      cases hcounts
    have htexts : (Value.object e).elements = .ok ((e.map Prod.fst).map .text) := by
      rw [List.map_map]
      rfl
    refine iff_of_true (slips_of_texts htexts hsome) ?_
    rintro ⟨_, hsame, -⟩
    cases hsame
  | _ =>
    -- What is left cannot be gone through.
    refine iff_of_true ⟨_, rfl, ?_⟩ ?_
    · rintro ⟨message, details, h⟩
      cases h
    · rintro ⟨_, hsame, -⟩
      cases hsame

/-! ## Exchanges -/

theorem isStore_callFault (path said : String) : (callFault path said).IsStore :=
  ⟨_, _, rfl⟩

theorem not_isStore_ofReadError (e : Json.ReadError) : ¬ (Fault.ofReadError e).IsStore := by
  rintro ⟨message, details, h⟩
  cases e <;> cases h

theorem not_isStore_of_record {body : String} (h : Http.record body = .error fault) :
    ¬ fault.IsStore := by
  rw [Http.record] at h
  split at h
  · cases h
  · cases h
    exact not_isStore_ofReadError _

/-- What is read off a reply slips where the reply is garbled, or where its data does. -/
theorem slips_data_bind_iff (path : String) (reply : Http.Reply) (read : Value → Except Fault α) :
    Slips (data path reply >>= read) ↔ Garbled reply ∨
      ∃ status body v, reply = .answered status body ∧ Http.isSuccess status = true ∧
        Http.record body = .ok v ∧ Slips (read (v.field "data")) := by
  have hfault : ∀ said, ¬ Slips (Except.error (callFault path said) : Except Fault α) := by
    rintro said ⟨fault, h, hother⟩
    cases h
    exact hother (isStore_callFault path said)
  rcases reply with said | ⟨status, body⟩
  · refine iff_of_false (hfault said) ?_
    rintro (⟨_, _, _, h, -⟩ | ⟨_, _, _, h, -⟩) <;> cases h
  -- A status that reports an error settles the matter before the body is looked at.
  rcases hstatus : Http.isSuccess status
  · have hdata : data path (.answered status body) =
        .error (callFault path ("status " ++ decimal status)) := by
      simp only [data, hstatus, Bool.false_eq_true, if_false]
      rfl
    rw [hdata]
    refine iff_of_false (hfault _) ?_
    rintro (⟨_, _, _, hsame, hgood, -⟩ | ⟨_, _, _, hsame, hgood, -⟩)
    all_goals
      cases hsame
      rw [hstatus] at hgood
      cases hgood
  have hdata : data path (.answered status body) =
      Http.record body >>= fun v => pure (v.field "data") := by
    simp only [data, hstatus, if_true]
  rw [hdata]
  rcases hrecord : Http.record body with fault | v
  · refine iff_of_true ⟨fault, rfl, not_isStore_of_record hrecord⟩ (Or.inl ?_)
    exact ⟨status, body, fault, rfl, hstatus, hrecord⟩
  · constructor
    · exact fun h => Or.inr ⟨status, body, v, rfl, hstatus, hrecord, h⟩
    · rintro (⟨_, _, fault, hsame, -, hother⟩ | ⟨_, _, _, hsame, -, hother, h⟩)
      all_goals
        cases hsame
        rw [hrecord] at hother
        cases hother
      exact h

variable (reach) (s : σ)

theorem escapes_settled (a : α) : ¬ Escapes (Store.askService reach (.settled a)) s :=
  not_slips_ok a

theorem escapes_telling_iff (path : String) (body : Entries) :
    Escapes (Store.askService reach (telling path body)) s ↔
      ∃ reply ∈ (telling path body).reply? reach s, Garbled reply := by
  refine (slips_data_bind_iff path _ fun _ => pure ()).trans ?_
  simp only [telling, Exchange.reply?, Option.mem_some_iff, exists_eq_left']
  refine or_iff_left ?_
  rintro ⟨_, _, _, -, -, -, h⟩
  exact not_slips_ok () h

theorem escapes_asking_iff (path : String) (body : Entries) :
    Escapes (Store.askService reach (asking path body)) s ↔
      ∃ reply ∈ (asking path body).reply? reach s, Garbled reply ∨ Hitless reply := by
  refine (slips_data_bind_iff path _ hits).trans ?_
  simp only [asking, Exchange.reply?, Option.mem_some_iff, exists_eq_left', slips_hits_iff]
  exact Iff.rfl

end Remote

theorem fst_run_isHealthy (store : Store σ) (w : World σ) :
    ((isHealthy store).run w).1 = ((store.health.run.run w.outside).1.toOption).getD false := by
  have hask : (Work.ask store.health).run w = ((store.health.run.run w.outside).1,
      { w with outside := (store.health.run.run w.outside).2 }) := rfl
  unfold isHealthy
  rw [StateT.run_bind, hask]
  rcases (store.health.run.run w.outside).1 with fault | healthy <;> rfl

theorem isHealthy_ofService_iff (reach : Remote.Call → StateM σ Http.Reply) (clock : StateM σ Int)
    (w : World σ) : ((isHealthy (Store.ofService reach clock)).run w).1 = true ↔
      ∃ body, ((reach ⟨"/health", none⟩).run w.outside).1 = .answered 200 body := by
  have hhealth : (Store.ofService reach clock).health = Store.askService reach Remote.health := rfl
  rw [fst_run_isHealthy, hhealth, Remote.health, Store.askService, ExceptT.run_mk, StateT.run_bind]
  rcases (reach ⟨"/health", none⟩).run w.outside with ⟨said | ⟨status, body⟩, after⟩
  · refine iff_of_false Bool.false_ne_true ?_
    rintro ⟨_, h⟩
    cases h
  · show (status == 200) = true ↔ ∃ other, Http.Reply.answered status body = .answered 200 other
    simp

/-- **Replies that cannot be read escape**: what a remote store is asked either ends as a store
should, with a result or with a fault of the store, or the reply reports success and is garbled; for
the questions that are answered by hits, it may also have data that holds none. Only the health of a
service is known whatever it replies. -/
theorem unreadable_replies_escape (reach : Remote.Call → StateM σ Http.Reply) (clock : StateM σ Int) :
    let store := Store.ofService reach clock
    (∀ chunks s, Escapes (store.upsert chunks) s ↔
      ∃ reply ∈ (Remote.upsert chunks).reply? reach s, Remote.Garbled reply) ∧
    (∀ sourceType sourceId s, Escapes (store.deleteSource sourceType sourceId) s ↔
      ∃ reply ∈ (Remote.deleteSource sourceType sourceId).reply? reach s, Remote.Garbled reply) ∧
    (∀ keys context s, Escapes (store.countUse keys context) s ↔
      ∃ reply ∈ (Remote.countUse keys context).reply? reach s, Remote.Garbled reply) ∧
    (∀ query count filter s, Escapes (store.search query count filter) s ↔
      ∃ reply ∈ (Remote.search query count filter).reply? reach s,
        Remote.Garbled reply ∨ Remote.Hitless reply) ∧
    (∀ sourceType sourceId number window s,
      Escapes (store.neighbors sourceType sourceId number window) s ↔
        ∃ reply ∈ (Remote.neighbors sourceType sourceId number window).reply? reach s,
          Remote.Garbled reply ∨ Remote.Hitless reply) ∧
    (∀ sourceType sourceId s, Escapes (store.ofSource sourceType sourceId) s ↔
      ∃ reply ∈ (Remote.ofSource sourceType sourceId).reply? reach s,
        Remote.Garbled reply ∨ Remote.Hitless reply) ∧
    ∀ w, ((isHealthy store).run w).1 = true ↔
      ∃ body, ((reach ⟨"/health", none⟩).run w.outside).1 = .answered 200 body := by
  refine ⟨fun chunks s => ?_, fun sourceType sourceId s => Remote.escapes_telling_iff reach s _ _,
    fun keys context s => ?_, fun query count filter s => Remote.escapes_asking_iff reach s _ _,
    fun sourceType sourceId number window s => Remote.escapes_asking_iff reach s _ _,
    fun sourceType sourceId s => Remote.escapes_asking_iff reach s _ _, fun w => ?_⟩
  · show Escapes (Store.askService reach (Remote.upsert chunks)) s ↔ _
    rw [Remote.upsert]
    split
    · exact iff_of_false (Remote.escapes_settled reach s ()) (by simp [Remote.Exchange.reply?])
    · exact Remote.escapes_telling_iff reach s _ _
  · show Escapes (Store.askService reach (Remote.countUse keys context)) s ↔ _
    rw [Remote.countUse]
    split
    · exact iff_of_false (Remote.escapes_settled reach s ()) (by simp [Remote.Exchange.reply?])
    · exact Remote.escapes_telling_iff reach s _ _
  · exact isHealthy_ofService_iff reach clock w

/-- A service that answers in prose has not failed as a store should. -/
theorem prose_escapes :
    Escapes ((Store.ofService (fun _ => pure (.answered 200 "not json")) (pure 0)).search "q" 1 none)
      () := by
  refine ⟨.malformedJson, rfl, ?_⟩
  rintro ⟨message, details, h⟩
  cases h

end Knowledge
end Helpdesk
