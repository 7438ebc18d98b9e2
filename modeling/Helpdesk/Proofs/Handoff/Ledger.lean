import Helpdesk.Handoff.Delivery
import Helpdesk.Proofs.Keyed
import Mathlib.Logic.Relation

/-!
# Helpdesk.Proofs.Handoff.Ledger — what handoffs and deliveries do to the records.

Everything that handoffs are written down in is taken together as one ledger: the handoff records of
the book, the number of the next one, the outbox, and the numbers of the records whose notification a
channel took. The last is kept by nobody; it is there so that *sent at most once* can be said. Four
moves change a ledger: a record is filed, a delivery is dispatched, and a delivery ends well or badly.
Order among records, deliveries and notifications is one invariant of these moves, and a record once
filed is kept by all of them.
-/
namespace Helpdesk

/-- A record without the state of its notification. -/
def HandoffRecord.essence (r : HandoffRecord) : HandoffRecord :=
  { r with notificationSent := false, notificationError := none }

theorem HandoffRecord.essence_sent (r : HandoffRecord) :
    { r with notificationSent := true, notificationError := none }.essence = r.essence :=
  rfl

theorem HandoffRecord.essence_failed (r : HandoffRecord) (said : String) :
    { r with notificationError := some said }.essence = r.essence :=
  rfl

theorem HandoffRecord.id_eq_of_essence_eq {r q : HandoffRecord} (h : r.essence = q.essence) :
    r.id = q.id := by
  have hid : r.essence.id = q.essence.id := by rw [h]
  exact hid

theorem HandoffRecord.ticketId_eq_of_essence_eq {r q : HandoffRecord} (h : r.essence = q.essence) :
    r.ticketId = q.ticketId := by
  have hticket : r.essence.ticketId = q.essence.ticketId := by rw [h]
  exact hticket

/-- What handoffs are written down in. -/
structure Ledger where
  records : Keyed HandoffRecord
  /-- The number of the next record. -/
  nextId : Int
  outbox : Handoff.Outbox
  /-- The number of a record, once for every time that a channel took its notification. -/
  sent : List Int

namespace Ledger

open Handoff

/-- A ledger before the first handoff. -/
def fresh : Ledger := ⟨[], 1, .empty, []⟩

/-- What happens to a ledger at a time. -/
inductive Move : Ledger → Ledger → Prop
  /-- A ticket without a record gets one. -/
  | file {l : Ledger} {r : HandoffRecord} (hnew : l.records.get? r.ticketId = none)
      (hunsent : r.notificationSent = false) (hfine : r.notificationError = none) :
      Move l { l with
        records := l.records.put r.ticketId { r with id := some l.nextId }
        nextId := l.nextId + 1 }
  /-- A record whose team was not told goes into the outbox. -/
  | dispatch {l : Ledger} {r : HandoffRecord} {t : Ticket} {channel : String} {o : Outbox}
      (hr : r ∈ l.records.entries) (hunsent : r.notificationSent = false)
      (ho : l.outbox.dispatch? r t channel = some o) : Move l { l with outbox := o }
  /-- A channel takes a delivery, which is marked on the record. -/
  | succeed {l : Ledger} {d : Delivery} {r : HandoffRecord} (hd : d ∈ l.outbox.pending)
      (hr : r ∈ l.records.entries) (hid : r.id = some d.id) :
      Move l { l with
        records := l.records.put r.ticketId
          { r with notificationSent := true, notificationError := none }
        outbox := l.outbox.finish d.id
        sent := l.sent ++ [d.id] }
  /-- A channel fails at a delivery, and what it said is noted on the record. -/
  | fail {l : Ledger} {d : Delivery} {r : HandoffRecord} {said : String}
      (hd : d ∈ l.outbox.pending) (hr : r ∈ l.records.entries) (hid : r.id = some d.id) :
      Move l { l with
        records := l.records.put r.ticketId { r with notificationError := some said }
        outbox := l.outbox.finish d.id }

/-- Any number of moves. -/
abbrev Moves : Ledger → Ledger → Prop := Relation.ReflTransGen Move

/-- Records stand under their tickets, one for each, and have numbers of their own. -/
structure Filed (l : Ledger) : Prop where
  named : l.records.names = l.records.entries.map HandoffRecord.ticketId
  oneForTicket : (l.records.entries.map HandoffRecord.ticketId).Nodup
  numbered : ∀ r ∈ l.records.entries, ∃ id, r.id = some id ∧ id < l.nextId
  distinct : (l.records.entries.map HandoffRecord.id).Nodup

/-- The order that records, deliveries and notifications are in. -/
structure Orderly (l : Ledger) : Prop extends Filed l where
  /-- In flight are the records with a delivery that has not ended. -/
  inFlight : l.outbox.inFlight = l.outbox.pending.map Delivery.id
  onePending : (l.outbox.pending.map Delivery.id).Nodup
  /-- What is on its way is a record that is filed and that the team was not told of. -/
  pendingUnsent : ∀ d ∈ l.outbox.pending, ∃ r ∈ l.records.entries,
    r.id = some d.id ∧ r.essence = d.record.essence ∧ r.notificationSent = false
  sentOnce : l.sent.Nodup
  sentFiled : ∀ id ∈ l.sent, ∃ r ∈ l.records.entries, r.id = some id
  /-- A record is marked exactly when its notification was taken. -/
  marked : ∀ r ∈ l.records.entries, r.notificationSent = true ↔ ∃ id ∈ l.sent, r.id = some id
  fine : ∀ r ∈ l.records.entries, r.notificationSent = true → r.notificationError = none

/-- Every record of one ledger is in another one, changed at most in its notification, and told that
it was sent if it was told so before. -/
def KeptIn (l m : Ledger) : Prop :=
  ∀ r ∈ l.records.entries, ∃ q ∈ m.records.entries, q.essence = r.essence ∧
    (r.notificationSent = true → q.notificationSent = true)

theorem KeptIn.refl (l : Ledger) : l.KeptIn l :=
  fun r hr => ⟨r, hr, rfl, id⟩

theorem KeptIn.trans {l m n : Ledger} (hlm : l.KeptIn m) (hmn : m.KeptIn n) : l.KeptIn n := by
  intro r hr
  obtain ⟨q, hq, hqr, hqsent⟩ := hlm r hr
  obtain ⟨p, hp, hpq, hpsent⟩ := hmn q hq
  exact ⟨p, hp, hpq.trans hqr, hpsent ∘ hqsent⟩

/-! ## Finding records -/

theorem nodup_map_concat {α β : Type} {view : α → β} {items : List α} {item : α}
    (h : (items.map view).Nodup) (hfresh : view item ∉ items.map view) :
    ((items ++ [item]).map view).Nodup := by
  rw [List.map_append, List.map_singleton, ← List.concat_eq_append]
  exact h.concat hfresh

theorem mem_file {l : Ledger} {r q : HandoffRecord} (hnew : l.records.get? r.ticketId = none) :
    q ∈ (l.records.put r.ticketId { r with id := some l.nextId }).entries ↔
      q ∈ l.records.entries ∨ q = { r with id := some l.nextId } := by
  rw [Keyed.entries_put_of_get?_eq_none hnew, List.mem_append, List.mem_singleton]

namespace Filed

variable {l : Ledger}

theorem eq_of_id_eq (h : l.Filed) {r q : HandoffRecord} (hr : r ∈ l.records.entries)
    (hq : q ∈ l.records.entries) (hid : r.id = q.id) : r = q :=
  List.inj_on_of_nodup_map h.distinct hr hq hid

theorem get?_of_mem (h : l.Filed) {r : HandoffRecord} (hr : r ∈ l.records.entries) :
    l.records.get? r.ticketId = some r := by
  obtain ⟨entry, hentry, rfl⟩ := List.mem_map.mp hr
  have hnamed : entry.1 = entry.2.ticketId := by
    -- Names and tickets are the same list, so they agree entry by entry.
    have hmaps : l.records.map Prod.fst = l.records.map (fun p => p.2.ticketId) := by
      simpa [Keyed.names, Keyed.entries] using h.named
    exact List.map_inj_left.mp hmaps entry hentry
  refine Keyed.get?_eq_some_of_mem ?_ (hnamed ▸ hentry)
  rw [h.named]
  exact h.oneForTicket

/-! A record that is new goes to the end, under the next number. -/

variable {r changed : HandoffRecord}

theorem file (h : l.Filed) (hnew : l.records.get? r.ticketId = none) :
    Filed { l with
      records := l.records.put r.ticketId { r with id := some l.nextId }
      nextId := l.nextId + 1 } := by
  have hentries := Keyed.entries_put_of_get?_eq_none (a := { r with id := some l.nextId }) hnew
  refine ⟨?_, ?_, ?_, ?_⟩
  · show (l.records.put r.ticketId _).names = _
    rw [Keyed.names_put_of_get?_eq_none hnew, hentries, List.map_append, h.named]
    rfl
  · rw [hentries]
    refine nodup_map_concat h.oneForTicket ?_
    rw [← h.named]
    exact Keyed.get?_eq_none_iff.mp hnew
  · intro q hq
    show ∃ id, q.id = some id ∧ id < l.nextId + 1
    rcases (mem_file hnew).mp hq with hold | rfl
    · obtain ⟨id, hid, hless⟩ := h.numbered q hold
      exact ⟨id, hid, by omega⟩
    · exact ⟨l.nextId, rfl, by omega⟩
  · rw [hentries]
    refine nodup_map_concat h.distinct ?_
    -- All numbers that were given before are smaller than this one.
    intro hmem
    obtain ⟨q, hq, hnumber⟩ := List.mem_map.mp hmem
    obtain ⟨id, hid, hless⟩ := h.numbered q hq
    have hsame : id = l.nextId := Option.some.inj (hid.symm.trans hnumber)
    omega

/-! A record that is changed stays where it is, under its ticket and its number. -/

theorem refile (h : l.Filed) (hr : r ∈ l.records.entries) (hticket : changed.ticketId = r.ticketId)
    (hid : changed.id = r.id) :
    Filed { l with records := l.records.put r.ticketId changed } := by
  have hget := h.get?_of_mem hr
  have htickets := Keyed.map_entries_put hget hticket
  have hids := Keyed.map_entries_put hget hid
  refine ⟨?_, ?_, ?_, ?_⟩
  · show (l.records.put r.ticketId changed).names = _
    rw [Keyed.names_put_of_get?_eq_some hget, htickets]
    exact h.named
  · rw [htickets]
    exact h.oneForTicket
  · intro q hq
    rcases Keyed.eq_or_mem_of_mem_entries_put hq with rfl | hold
    · rw [hid]
      exact h.numbered r hr
    · exact h.numbered q hold
  · rw [hids]
    exact h.distinct

theorem mem_refile (h : l.Filed) (hr : r ∈ l.records.entries)
    (hticket : changed.ticketId = r.ticketId) (hid : changed.id = r.id) {q : HandoffRecord} :
    q ∈ (l.records.put r.ticketId changed).entries ↔
      q = changed ∨ (q ∈ l.records.entries ∧ q.id ≠ r.id) := by
  constructor
  · intro hq
    -- Numbers tell records apart, so only the changed record has this one.
    by_cases hsame : q.id = r.id
    · exact Or.inl ((h.refile hr hticket hid).eq_of_id_eq hq
        (Keyed.mem_entries_put_self _ _ _) (hsame.trans hid.symm))
    · rcases Keyed.eq_or_mem_of_mem_entries_put hq with rfl | hold
      · exact Or.inl rfl
      · exact Or.inr ⟨hold, hsame⟩
  · rintro (rfl | ⟨hq, hother⟩)
    · exact Keyed.mem_entries_put_self _ _ _
    · rcases Keyed.mem_entries_put_or_replaced hq with hkept | hreplaced
      · exact hkept
      · have heq : r = q := Option.some.inj ((h.get?_of_mem hr).symm.trans hreplaced)
        exact absurd (congrArg HandoffRecord.id heq.symm) hother

theorem keptIn_refile (h : l.Filed) (hr : r ∈ l.records.entries)
    (hessence : changed.essence = r.essence)
    (hsent : r.notificationSent = true → changed.notificationSent = true) {m : Ledger}
    (hm : m.records = l.records.put r.ticketId changed) : l.KeptIn m := by
  have hticket := HandoffRecord.ticketId_eq_of_essence_eq hessence
  have hid := HandoffRecord.id_eq_of_essence_eq hessence
  intro q hq
  rw [hm]
  by_cases hsame : q.id = r.id
  · rw [h.eq_of_id_eq hq hr hsame]
    exact ⟨changed, (h.mem_refile hr hticket hid).mpr (Or.inl rfl), hessence, hsent⟩
  · exact ⟨q, (h.mem_refile hr hticket hid).mpr (Or.inr ⟨hq, hsame⟩), rfl, id⟩

end Filed

/-! ## What a move keeps -/

theorem orderly_fresh : Orderly fresh where
  named := rfl
  oneForTicket := .nil
  numbered _ hr := absurd hr List.not_mem_nil
  distinct := .nil
  inFlight := rfl
  onePending := .nil
  pendingUnsent _ hd := absurd hd List.not_mem_nil
  sentOnce := .nil
  sentFiled _ hid := absurd hid List.not_mem_nil
  marked _ hr := absurd hr List.not_mem_nil
  fine _ hr := absurd hr List.not_mem_nil

theorem dispatch?_eq_some_iff {o after : Outbox} {r : HandoffRecord} {t : Ticket}
    {channel : String} :
    o.dispatch? r t channel = some after ↔ ∃ id, r.id = some id ∧ id ∉ o.inFlight ∧
      after = ⟨o.inFlight ++ [id], o.pending ++ [⟨id, r, t, channel⟩]⟩ := by
  unfold Outbox.dispatch?
  rcases hid : r.id with _ | id
  · simp
  · by_cases hflight : id ∈ o.inFlight
    · simp [hflight]
    · simp [hflight, eq_comm]

namespace Orderly

variable {l : Ledger}

/-- Records that are filed already have smaller numbers. -/
theorem sent_lt_nextId (h : l.Orderly) {id : Int} (hid : id ∈ l.sent) : id < l.nextId := by
  obtain ⟨r, hr, hnumber⟩ := h.sentFiled id hid
  obtain ⟨number, hsame, hless⟩ := h.numbered r hr
  cases hnumber.symm.trans hsame
  exact hless

theorem file (h : l.Orderly) {r : HandoffRecord} (hnew : l.records.get? r.ticketId = none)
    (hunsent : r.notificationSent = false) (hfine : r.notificationError = none) :
    Orderly { l with
      records := l.records.put r.ticketId { r with id := some l.nextId }
      nextId := l.nextId + 1 } := by
  have hfiled := h.toFiled.file hnew
  have hmem := fun q => mem_file hnew (q := q)
  refine ⟨hfiled, h.inFlight, h.onePending, ?_, h.sentOnce, ?_, ?_, ?_⟩
  · intro d hd
    obtain ⟨q, hq, hrest⟩ := h.pendingUnsent d hd
    exact ⟨q, (hmem q).mpr (Or.inl hq), hrest⟩
  · intro id hid
    obtain ⟨q, hq, hnumber⟩ := h.sentFiled id hid
    exact ⟨q, (hmem q).mpr (Or.inl hq), hnumber⟩
  · intro q hq
    rcases (hmem q).mp hq with hold | rfl
    · exact h.marked q hold
    · -- The number of a record that was just filed has not been sent.
      constructor
      · intro hmarked
        rw [hunsent] at hmarked
        cases hmarked
      · rintro ⟨id, hid, hnumber⟩
        have hless := h.sent_lt_nextId hid
        cases hnumber
        omega
  · intro q hq hmarked
    rcases (hmem q).mp hq with hold | rfl
    · exact h.fine q hold hmarked
    · exact hfine

theorem dispatch (h : l.Orderly) {r : HandoffRecord} {t : Ticket} {channel : String} {o : Outbox}
    (hr : r ∈ l.records.entries) (hunsent : r.notificationSent = false)
    (ho : l.outbox.dispatch? r t channel = some o) : Orderly { l with outbox := o } := by
  obtain ⟨id, hid, hflight, rfl⟩ := dispatch?_eq_some_iff.mp ho
  refine ⟨⟨h.named, h.oneForTicket, h.numbered, h.distinct⟩, ?_, ?_, ?_, h.sentOnce, h.sentFiled,
    h.marked, h.fine⟩
  · show l.outbox.inFlight ++ [id] = List.map Delivery.id (l.outbox.pending ++ _)
    rw [List.map_append, h.inFlight]
    rfl
  · rw [h.inFlight] at hflight
    exact nodup_map_concat h.onePending hflight
  · intro d hd
    rcases List.mem_append.mp hd with hold | hlast
    · exact h.pendingUnsent d hold
    · rw [List.mem_singleton.mp hlast]
      exact ⟨r, hr, hid, rfl, hunsent⟩

/-- A record with a delivery on its way has not been sent. -/
theorem unsent_of_pending (h : l.Orderly) {d : Delivery} (hd : d ∈ l.outbox.pending)
    {r : HandoffRecord} (hr : r ∈ l.records.entries) (hid : r.id = some d.id) :
    r.notificationSent = false := by
  obtain ⟨q, hq, hqid, _, hunsent⟩ := h.pendingUnsent d hd
  rw [h.eq_of_id_eq hr hq (hid.trans hqid.symm)]
  exact hunsent

theorem notMem_sent_of_pending (h : l.Orderly) {d : Delivery} (hd : d ∈ l.outbox.pending) :
    d.id ∉ l.sent := by
  intro hsent
  obtain ⟨r, hr, hid, _, hunsent⟩ := h.pendingUnsent d hd
  have hmarked := (h.marked r hr).mpr ⟨d.id, hsent, hid⟩
  rw [hunsent] at hmarked
  cases hmarked

/-- The end of a delivery, whatever it was: `changed` is the record afterwards. -/
theorem close (h : l.Orderly) {d : Delivery} (hd : d ∈ l.outbox.pending) {r changed : HandoffRecord}
    (hr : r ∈ l.records.entries) (hid : r.id = some d.id) (hessence : changed.essence = r.essence)
    (hfine : changed.notificationSent = true → changed.notificationError = none) {sent : List Int}
    (honce : sent.Nodup)
    (hsent : ∀ id, id ∈ sent ↔ id ∈ l.sent ∨ (changed.notificationSent = true ∧ id = d.id)) :
    Orderly { l with
      records := l.records.put r.ticketId changed
      outbox := l.outbox.finish d.id
      sent := sent } := by
  have hticket := HandoffRecord.ticketId_eq_of_essence_eq hessence
  have hsame := HandoffRecord.id_eq_of_essence_eq hessence
  have hmem := fun q => h.mem_refile hr hticket hsame (q := q)
  have hpending : ∀ other, other ∈ (l.outbox.finish d.id).pending ↔
      other ∈ l.outbox.pending ∧ other.id ≠ d.id := by
    intro other
    simp [Outbox.finish]
  have hfiled := h.refile hr hticket hsame
  refine ⟨⟨hfiled.named, hfiled.oneForTicket, hfiled.numbered, hfiled.distinct⟩, ?_, ?_, ?_, honce,
    ?_, ?_, ?_⟩
  · show l.outbox.inFlight.filter _ = (l.outbox.pending.filter _).map Delivery.id
    -- The number is taken out of both lists.
    rw [h.inFlight, List.filter_map]
    rfl
  · exact h.onePending.sublist (List.Sublist.map _ List.filter_sublist)
  · intro other hother
    obtain ⟨hold, hne⟩ := (hpending other).mp hother
    obtain ⟨q, hq, hqid, hrest⟩ := h.pendingUnsent other hold
    refine ⟨q, (hmem q).mpr (Or.inr ⟨hq, ?_⟩), hqid, hrest⟩
    rw [hqid, hid]
    exact fun heq => hne (Option.some.inj heq)
  · intro id hnow
    rcases (hsent id).mp hnow with hbefore | ⟨_, rfl⟩
    · obtain ⟨q, hq, hqid⟩ := h.sentFiled id hbefore
      -- A record that was sent before may be the one that is changed now.
      by_cases hchanged : q.id = r.id
      · exact ⟨changed, (hmem changed).mpr (Or.inl rfl), hsame.trans (hchanged.symm.trans hqid)⟩
      · exact ⟨q, (hmem q).mpr (Or.inr ⟨hq, hchanged⟩), hqid⟩
    · exact ⟨changed, (hmem changed).mpr (Or.inl rfl), hsame.trans hid⟩
  · intro q hq
    rcases (hmem q).mp hq with rfl | ⟨hold, hne⟩
    · constructor
      · intro hmarked
        exact ⟨d.id, (hsent d.id).mpr (Or.inr ⟨hmarked, rfl⟩), hsame.trans hid⟩
      · rintro ⟨id, hnow, hqid⟩
        rcases (hsent id).mp hnow with hbefore | ⟨hmarked, _⟩
        · -- The record of a delivery that was on its way had not been sent before.
          have hnumber : id = d.id := Option.some.inj (hqid.symm.trans (hsame.trans hid))
          exact absurd (hnumber ▸ hbefore) (h.notMem_sent_of_pending hd)
        · exact hmarked
    · rw [h.marked q hold]
      constructor
      · rintro ⟨id, hbefore, hqid⟩
        exact ⟨id, (hsent id).mpr (Or.inl hbefore), hqid⟩
      · rintro ⟨id, hnow, hqid⟩
        rcases (hsent id).mp hnow with hbefore | ⟨_, rfl⟩
        · exact ⟨id, hbefore, hqid⟩
        · exact absurd (hqid.trans hid.symm) hne
  · intro q hq
    rcases (hmem q).mp hq with rfl | ⟨hold, _⟩
    · exact hfine
    · exact h.fine q hold

/-- **One move**: every move keeps the order. -/
theorem move (h : l.Orderly) {m : Ledger} (hmove : Move l m) : m.Orderly := by
  cases hmove with
  | file hnew hunsent hfine => exact h.file hnew hunsent hfine
  | dispatch hr hunsent ho => exact h.dispatch hr hunsent ho
  | @succeed d r hd hr hid =>
    refine h.close hd hr hid r.essence_sent (fun _ => rfl) ?_ ?_
    · rw [← List.concat_eq_append]
      exact h.sentOnce.concat (h.notMem_sent_of_pending hd)
    · intro id
      simp
  | @fail d r said hd hr hid =>
    have hunsent := h.unsent_of_pending hd hr hid
    refine h.close hd hr hid (r.essence_failed said) ?_ h.sentOnce ?_
    · intro hmarked
      rw [hunsent] at hmarked
      cases hmarked
    · intro id
      simp [hunsent]

theorem moves (h : l.Orderly) {m : Ledger} (hmoves : Moves l m) : m.Orderly := by
  induction hmoves with
  | refl => exact h
  | tail _ hmove ih => exact ih.move hmove

/-- A move adds records and changes nothing about those that are there but their notification, which
is never taken back. -/
theorem keptIn_move (h : l.Orderly) {m : Ledger} (hmove : Move l m) : l.KeptIn m := by
  cases hmove with
  | file hnew _ _ =>
    intro r hr
    refine ⟨r, ?_, rfl, id⟩
    rw [Keyed.entries_put_of_get?_eq_none hnew]
    exact List.mem_append_left _ hr
  | dispatch _ _ _ => exact .refl l
  | succeed _ hr _ => exact h.keptIn_refile hr (HandoffRecord.essence_sent _) (fun _ => rfl) rfl
  | fail _ hr _ => exact h.keptIn_refile hr (HandoffRecord.essence_failed _ _) id rfl

theorem keptIn_moves (h : l.Orderly) {m : Ledger} (hmoves : Moves l m) : l.KeptIn m := by
  induction hmoves with
  | refl => exact .refl l
  | tail hmoves hmove ih => exact ih.trans ((h.moves hmoves).keptIn_move hmove)

end Orderly

end Ledger

end Helpdesk
