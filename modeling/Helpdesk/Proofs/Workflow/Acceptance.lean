import Helpdesk.Proofs.Workflow.Reachability
import Helpdesk.Workflow.Compiled
import Mathlib.Data.List.Induction
import Mathlib.Data.List.Nodup

/-!
# Helpdesk.Proofs.Workflow.Acceptance — which definitions compile, and what the others are told.

`Acceptable` says what a definition has to be, without saying how that is found out: paths instead of
saturation, lists of nodes and edges instead of tables. `Refused` relates a definition to the flaw
that its author is told, and each of its rules asks for everything that is checked earlier, so the
order of the checks is part of the statement. Every definition is acceptable or refused, and
compiling agrees with either; that is all it takes to read both off the result.
-/
namespace Helpdesk.Workflow

/-! ## Identifiers -/

/-- An identifier that a node may have. -/
structure AllowedId (id : String) : Prop where
  noBar : '|' ∉ id.toList
  noColon : ':' ∉ id.toList
  /-- Both ends of every run have names of their own. -/
  noEnd : id ≠ "__start__" ∧ id ≠ "__end__"
  noField : id ∉ Conversation.State.names

/-- Nodes with allowed identifiers that are told apart by them. -/
structure SoundIds (nodes : List Node) : Prop where
  allowed : ∀ n ∈ nodes, AllowedId n.id
  distinct : (nodes.map Node.id).Nodup

theorem isValidId_iff {id : String} : isValidId id = true ↔ AllowedId id := by
  have hchars : id.toList.any reservedChars.contains = true ↔ '|' ∈ id.toList ∨ ':' ∈ id.toList := by
    simp only [List.any_eq_true, reservedChars, List.contains_eq_mem, decide_eq_true_eq,
      List.mem_cons, List.not_mem_nil, or_false]
    constructor
    · rintro ⟨c, hc, rfl | rfl⟩
      · exact Or.inl hc
      · exact Or.inr hc
    · rintro (h | h)
      · exact ⟨'|', h, Or.inl rfl⟩
      · exact ⟨':', h, Or.inr rfl⟩
  have hreserved : reservedIds.contains id = true ↔
      (id = "__start__" ∨ id = "__end__") ∨ id ∈ Conversation.State.names := by
    simp only [reservedIds, Target.finishName, List.contains_eq_mem, decide_eq_true_eq,
      List.mem_append, List.mem_cons, List.not_mem_nil, or_false]
  unfold isValidId
  rw [Bool.and_eq_true, Bool.not_eq_true', Bool.not_eq_true', ← Bool.not_eq_true,
    ← Bool.not_eq_true, hchars, hreserved, not_or, not_or, not_or]
  constructor
  · rintro ⟨⟨hbar, hcolon⟩, hend, hfield⟩
    exact ⟨hbar, hcolon, hend, hfield⟩
  · rintro ⟨hbar, hcolon, hend, hfield⟩
    exact ⟨⟨hbar, hcolon⟩, hend, hfield⟩

/-- Sound nodes are passed over, and their identifiers are remembered. -/
theorem idFlaw?_append {seen : List String} {before : List Node} (rest : List Node)
    (hallowed : ∀ n ∈ before, AllowedId n.id)
    (hdistinct : ((before.map Node.id).reverse ++ seen).Nodup) :
    idFlaw? seen (before ++ rest) = idFlaw? ((before.map Node.id).reverse ++ seen) rest := by
  induction before generalizing seen with
  | nil => rfl
  | cons n before ih =>
    -- Identifiers are remembered latest first, so the nodes passed over stand there in reverse.
    have hshift : ((n :: before).map Node.id).reverse ++ seen =
        (before.map Node.id).reverse ++ n.id :: seen := by simp
    rw [hshift] at hdistinct ⊢
    have hvalid : isValidId n.id = true := isValidId_iff.mpr (hallowed n List.mem_cons_self)
    have hnew : n.id ∉ seen := (List.nodup_cons.mp hdistinct.of_append_right).1
    rw [List.cons_append, idFlaw?, hvalid, List.contains_eq_mem, decide_eq_false hnew]
    exact ih (fun m hm => hallowed m (List.mem_cons_of_mem n hm)) hdistinct

theorem idFlaw?_append_of_sound {before : List Node} (h : SoundIds before) (rest : List Node) :
    idFlaw? [] (before ++ rest) = idFlaw? (before.map Node.id).reverse rest := by
  have hdistinct : ((before.map Node.id).reverse ++ []).Nodup := by
    rw [List.append_nil]
    exact List.nodup_reverse.mpr h.distinct
  rw [idFlaw?_append rest h.allowed hdistinct, List.append_nil]

theorem idFlaw?_eq_none_of_sound {nodes : List Node} (h : SoundIds nodes) :
    idFlaw? [] nodes = none := by
  have hall := idFlaw?_append_of_sound h []
  rw [List.append_nil] at hall
  exact hall

/-- The first node whose identifier is not allowed or was given before. -/
theorem SoundIds.exists_first_flaw {nodes : List Node} (h : ¬ SoundIds nodes) :
    ∃ before n after, nodes = before ++ n :: after ∧ SoundIds before ∧
      (¬ AllowedId n.id ∨ AllowedId n.id ∧ n.id ∈ before.map Node.id) := by
  induction nodes using List.reverseRecOn with
  | nil => exact absurd ⟨fun n hn => absurd hn List.not_mem_nil, List.nodup_nil⟩ h
  | append_singleton nodes n ih =>
    -- Either the last node is at fault, or the flaw is among the nodes before it.
    by_cases hnodes : SoundIds nodes
    · refine ⟨nodes, n, [], rfl, hnodes, ?_⟩
      by_cases hallowed : AllowedId n.id
      · refine Or.inr ⟨hallowed, ?_⟩
        by_contra hnew
        refine h ⟨?_, ?_⟩
        · intro m hm
          rcases List.mem_append.mp hm with hm | hm
          · exact hnodes.allowed m hm
          · exact List.mem_singleton.mp hm ▸ hallowed
        · rw [List.map_append, List.map_singleton, ← List.concat_eq_append]
          exact hnodes.distinct.concat hnew
      · exact Or.inl hallowed
    · obtain ⟨before, m, after, rfl, hsound, hflaw⟩ := ih hnodes
      exact ⟨before, m, after ++ [n], by simp, hsound, hflaw⟩

/-! ## What a definition has to be -/

namespace Definition

/-- An edge between nodes of the definition that does not lead back to the start. -/
def Usable (d : Definition) (start : String) (e : Edge) : Prop :=
  e.source ∈ d.nodes.map Node.id ∧ e.target ∈ d.nodes.map Node.id ∧ e.target ≠ start

instance (d : Definition) (start : String) (e : Edge) : Decidable (d.Usable start e) :=
  inferInstanceAs (Decidable (_ ∧ _ ∧ _))

/-- A path along usable edges. -/
def Leads (d : Definition) (start : String) : String → String → Prop :=
  Relation.ReflTransGen fun a b => ∃ e ∈ d.edges, d.Usable start e ∧ e.source = a ∧ e.target = b

/-- Some end lies on a path from the start. -/
def EndLeadsFrom (d : Definition) (start : String) : Prop :=
  ∃ n ∈ d.nodes, n.role = .finish ∧ d.Leads start start n.id

/-- The usable edges that leave the start. -/
def exits (d : Definition) (start : String) : List Edge :=
  d.edges.filter fun e => d.Usable start e ∧ e.source = start

/-- What a definition has to be to compile, where `start` is its start. -/
structure Acceptable (d : Definition) (start : String) : Prop where
  sound : SoundIds d.nodes
  starts : d.starts = [start]
  finishes : d.finishes ≠ []
  reached : d.EndLeadsFrom start
  exit : ∃ e, d.exits start = [e] ∧ e.condition = none

/-- The flaw that an author is told. Every rule asks for all that is checked before it. -/
inductive Refused (d : Definition) : Flaw → Prop
  | invalidNodeId {before after : List Node} {n : Node} :
      d.nodes = before ++ n :: after → SoundIds before → ¬ AllowedId n.id →
      Refused d (.invalidNodeId n.id)
  | duplicateNodeId {before after : List Node} {n : Node} :
      d.nodes = before ++ n :: after → SoundIds before → AllowedId n.id →
      n.id ∈ before.map Node.id → Refused d (.duplicateNodeId n.id)
  | noStart : SoundIds d.nodes → d.starts = [] → Refused d (.noStart d.id)
  | multipleStart : SoundIds d.nodes → 1 < d.starts.length → Refused d (.multipleStart d.starts)
  | noEnd {start : String} :
      SoundIds d.nodes → d.starts = [start] → d.finishes = [] → Refused d (.noEnd d.id)
  | noReachableEnd {start : String} :
      SoundIds d.nodes → d.starts = [start] → d.finishes ≠ [] → ¬ d.EndLeadsFrom start →
      Refused d (.noReachableEnd d.id)
  | invalidStartEdges {start : String} :
      SoundIds d.nodes → d.starts = [start] → d.finishes ≠ [] → d.EndLeadsFrom start →
      (¬ ∃ e, d.exits start = [e] ∧ e.condition = none) →
      Refused d (.invalidStartEdges (d.exits start).length)

/-- The checks leave nothing out. -/
theorem acceptable_or_refused (d : Definition) :
    (∃ start, d.Acceptable start) ∨ ∃ flaw, d.Refused flaw := by
  by_cases hsound : SoundIds d.nodes
  · rcases hstarts : d.starts with _ | ⟨start, _ | ⟨second, others⟩⟩
    · exact Or.inr ⟨_, .noStart hsound hstarts⟩
    · by_cases hfinishes : d.finishes = []
      · exact Or.inr ⟨_, .noEnd hsound hstarts hfinishes⟩
      by_cases hreached : d.EndLeadsFrom start
      · by_cases hexit : ∃ e, d.exits start = [e] ∧ e.condition = none
        · exact Or.inl ⟨start, hsound, hstarts, hfinishes, hreached, hexit⟩
        · exact Or.inr ⟨_, .invalidStartEdges hsound hstarts hfinishes hreached hexit⟩
      · exact Or.inr ⟨_, .noReachableEnd hsound hstarts hfinishes hreached⟩
    · refine Or.inr ⟨_, .multipleStart hsound ?_⟩
      simp [hstarts]
  · obtain ⟨before, n, after, hnodes, hbefore, hflaw⟩ := SoundIds.exists_first_flaw hsound
    rcases hflaw with hinvalid | ⟨hallowed, htwice⟩
    · exact Or.inr ⟨_, .invalidNodeId hnodes hbefore hinvalid⟩
    · exact Or.inr ⟨_, .duplicateNodeId hnodes hbefore hallowed htwice⟩

/-! ## What is found out about edges -/

theorem isUsable_iff {d : Definition} {start : String} {e : Edge} :
    d.isUsable start e = true ↔ d.Usable start e := by
  have hdeclares : ∀ id, d.declares id = true ↔ id ∈ d.nodes.map Node.id := by
    intro id
    simp [declares]
  unfold isUsable connects Usable
  rw [Bool.and_eq_true, Bool.and_eq_true, hdeclares, hdeclares, bne_iff_ne, and_assoc]

theorem mem_usableEdges {d : Definition} {start : String} {e : Edge} :
    e ∈ d.usableEdges start ↔ e ∈ d.edges ∧ d.Usable start e := by
  rw [usableEdges, List.mem_filter, isUsable_iff]

theorem mem_reached_iff {d : Definition} {start id : String} :
    id ∈ d.reached start ↔ d.Leads start start id := by
  have harrow : ∀ a b, (a, b) ∈ ((d.usableEdges start).map fun e => (e.source, e.target)) ↔
      ∃ e ∈ d.edges, d.Usable start e ∧ e.source = a ∧ e.target = b := by
    intro a b
    simp only [List.mem_map, mem_usableEdges, Prod.mk.injEq, and_assoc]
  rw [reached, mem_reachableFrom_iff]
  simp only [List.mem_singleton, exists_eq_left, Reaches, Leads, harrow]

theorem mem_finishes {d : Definition} {id : String} :
    id ∈ d.finishes ↔ ∃ n ∈ d.nodes, n.role = .finish ∧ n.id = id := by
  simp [finishes, and_assoc]

theorem any_reached_iff {d : Definition} {start : String} :
    d.finishes.any (d.reached start).contains = true ↔ d.EndLeadsFrom start := by
  simp only [List.any_eq_true, List.contains_eq_mem, decide_eq_true_eq, mem_reached_iff,
    mem_finishes, EndLeadsFrom]
  constructor
  · rintro ⟨_, ⟨n, hn, hrole, rfl⟩, hpath⟩
    exact ⟨n, hn, hrole, hpath⟩
  · rintro ⟨n, hn, hrole, hpath⟩
    exact ⟨n.id, ⟨n, hn, hrole, rfl⟩, hpath⟩

/-- A usable edge whose source is reached is wired: its target is reached as well. -/
theorem mem_wiredEdges {d : Definition} {start : String} {e : Edge} :
    e ∈ d.wiredEdges start ↔
      e ∈ d.edges ∧ d.Usable start e ∧ d.Leads start start e.source := by
  simp only [wiredEdges, List.mem_filter, mem_usableEdges, Bool.and_eq_true, List.contains_eq_mem,
    decide_eq_true_eq, mem_reached_iff, and_assoc]
  constructor
  · rintro ⟨hedge, husable, hsource, _⟩
    exact ⟨hedge, husable, hsource⟩
  · rintro ⟨hedge, husable, hsource⟩
    exact ⟨hedge, husable, hsource, hsource.tail ⟨e, hedge, husable, rfl, rfl⟩⟩

/-- The usable edges that leave a node. -/
def leaving (d : Definition) (start id : String) : List Edge :=
  d.edges.filter fun e => d.Usable start e ∧ e.source = id

/-- A node that is reached keeps all its usable edges: their targets are reached too. -/
theorem outgoing_wiredEdges {d : Definition} {start id : String} (hid : d.Leads start start id) :
    outgoing (d.wiredEdges start) id = d.leaving start id := by
  simp only [outgoing, wiredEdges, usableEdges, leaving, List.filter_filter]
  refine List.filter_congr ?_
  intro e hedge
  by_cases husable : d.Usable start e
  · by_cases hsource : e.source = id
    · have hreached : id ∈ d.reached start := mem_reached_iff.mpr hid
      have htarget : e.target ∈ d.reached start :=
        mem_reached_iff.mpr (hid.tail ⟨e, hedge, husable, hsource, rfl⟩)
      simp [husable, hsource, isUsable_iff.mpr husable, hreached, htarget]
    · simp [hsource]
  · have hnot : d.isUsable start e = false := by
      rw [← Bool.not_eq_true, isUsable_iff]
      exact husable
    simp [husable, hnot]

theorem outgoing_wiredEdges_start (d : Definition) (start : String) :
    outgoing (d.wiredEdges start) start = d.exits start :=
  outgoing_wiredEdges .refl

/-! ## What compiling says -/

theorem start?_eq_ok_iff {d : Definition} {start : String} (h : SoundIds d.nodes) :
    d.start? = .ok start ↔ d.starts = [start] ∧ d.finishes ≠ [] := by
  unfold start?
  rw [idFlaw?_eq_none_of_sound h]
  rcases d.starts with _ | ⟨first, _ | ⟨second, others⟩⟩
  · simp
  · by_cases hfinishes : d.finishes = []
    · simp [hfinishes]
    · simp [hfinishes]
  · simp

theorem compile_of_start?_eq_error {d : Definition} {flaw : Flaw} (h : d.start? = .error flaw)
    (limit : Int) : (d.compile limit).2 = .error flaw := by
  simp only [compile, h]

theorem compile_of_entry?_eq_error {d : Definition} {start : String} {flaw : Flaw}
    (hstart : d.start? = .ok start) (hentry : d.entry? start = .error flaw) (limit : Int) :
    (d.compile limit).2 = .error flaw := by
  simp only [compile, hstart, hentry]

/-- What a definition that compiles is compiled to. -/
theorem compile_eq_ok_iff {d : Definition} {limit : Int} {w : Compiled} :
    (d.compile limit).2 = .ok w ↔
      ∃ start entry, d.start? = .ok start ∧ d.entry? start = .ok entry ∧
        w = ⟨d.id, d.name, entry, d.steps start, (d.unreached start).map Node.id,
          Workflow.hasCycle (d.arrows start) ((d.steps start).map Step.id), limit⟩ := by
  unfold compile
  rcases hstart : d.start? with flaw | start
  · simp
  · rcases hentry : d.entry? start with flaw | entry
    · simp [hentry]
    · simp [hentry, eq_comm]

theorem entry?_of_exit {d : Definition} {start : String} {e : Edge} (hreached : d.EndLeadsFrom start)
    (hexit : d.exits start = [e]) (hfree : e.condition = none) :
    d.entry? start = .ok (d.targetOf e.target) := by
  simp [ entry?, any_reached_iff.mpr hreached, outgoing_wiredEdges_start, hexit, hfree]

theorem entry?_of_not_exit {d : Definition} {start : String} (hreached : d.EndLeadsFrom start)
    (hexit : ¬ ∃ e, d.exits start = [e] ∧ e.condition = none) :
    d.entry? start = .error (.invalidStartEdges (d.exits start).length) := by
  simp only [ entry?, any_reached_iff.mpr hreached, outgoing_wiredEdges_start]
  rcases hexits : d.exits start with _ | ⟨e, _ | ⟨second, others⟩⟩
  · rfl
  · have hcondition : e.condition ≠ none := fun hfree => hexit ⟨e, hexits, hfree⟩
    simp [Option.isNone_iff_eq_none, hcondition]
  · rfl

theorem Acceptable.compiles {d : Definition} {start : String} (h : d.Acceptable start) (limit : Int) :
    ∃ w, (d.compile limit).2 = .ok w := by
  obtain ⟨e, hexit, hfree⟩ := h.exit
  have hstart : d.start? = .ok start := (start?_eq_ok_iff h.sound).mpr ⟨h.starts, h.finishes⟩
  exact ⟨_, compile_eq_ok_iff.mpr ⟨start, _, hstart, entry?_of_exit h.reached hexit hfree, rfl⟩⟩

theorem start?_of_idFlaw {d : Definition} {flaw : Flaw} (h : idFlaw? [] d.nodes = some flaw) :
    d.start? = .error flaw := by
  unfold start?
  rw [h]

theorem Refused.compile_eq {d : Definition} {flaw : Flaw} (h : d.Refused flaw) (limit : Int) :
    (d.compile limit).2 = .error flaw := by
  cases h with
  | @invalidNodeId before after n hnodes hbefore hinvalid =>
    refine compile_of_start?_eq_error (start?_of_idFlaw ?_) limit
    have hvalid : isValidId n.id = false := by
      rw [← Bool.not_eq_true, isValidId_iff]
      exact hinvalid
    rw [hnodes, idFlaw?_append_of_sound hbefore, idFlaw?, hvalid]
    rfl
  | @duplicateNodeId before after n hnodes hbefore hallowed htwice =>
    refine compile_of_start?_eq_error (start?_of_idFlaw ?_) limit
    have hseen : (before.map Node.id).reverse.contains n.id = true := by
      rw [List.contains_iff_mem, List.mem_reverse]
      exact htwice
    rw [hnodes, idFlaw?_append_of_sound hbefore, idFlaw?, isValidId_iff.mpr hallowed, hseen]
    rfl
  | noStart hsound hstarts =>
    refine compile_of_start?_eq_error ?_ limit
    simp [start?, idFlaw?_eq_none_of_sound hsound, hstarts]
  | multipleStart hsound hmany =>
    refine compile_of_start?_eq_error ?_ limit
    unfold start?
    rw [idFlaw?_eq_none_of_sound hsound]
    rcases hstarts : d.starts with _ | ⟨first, _ | ⟨second, others⟩⟩
    · simp [hstarts] at hmany
    · simp [hstarts] at hmany
    · rfl
  | noEnd hsound hstarts hfinishes =>
    refine compile_of_start?_eq_error ?_ limit
    simp [start?, idFlaw?_eq_none_of_sound hsound, hstarts, hfinishes]
  | @noReachableEnd start hsound hstarts hfinishes hnone =>
    have hstart : d.start? = .ok start := (start?_eq_ok_iff hsound).mpr ⟨hstarts, hfinishes⟩
    refine compile_of_entry?_eq_error hstart ?_ limit
    have hany : d.finishes.any (d.reached start).contains = false := by
      rw [← Bool.not_eq_true, any_reached_iff]
      exact hnone
    simp only [ entry?, hany, Bool.not_false, if_true]
  | @invalidStartEdges start hsound hstarts hfinishes hreached hexit =>
    have hstart : d.start? = .ok start := (start?_eq_ok_iff hsound).mpr ⟨hstarts, hfinishes⟩
    exact compile_of_entry?_eq_error hstart (entry?_of_not_exit hreached hexit) limit

/-- A definition that compiles is acceptable. -/
theorem exists_acceptable_of_compiles {d : Definition} {limit : Int} {w : Compiled}
    (h : (d.compile limit).2 = .ok w) : ∃ start, d.Acceptable start := by
  rcases d.acceptable_or_refused with hacceptable | ⟨flaw, hrefused⟩
  · exact hacceptable
  · rw [hrefused.compile_eq limit] at h
    cases h

/-- **The verdict on a definition**: it compiles exactly when it is acceptable, and otherwise its
author is told the flaw of the first check that it does not pass. -/
theorem compile_verdict (d : Definition) (limit : Int) :
    ((∃ w, (d.compile limit).2 = .ok w) ↔ ∃ start, d.Acceptable start) ∧
      ∀ flaw, (d.compile limit).2 = .error flaw ↔ d.Refused flaw := by
  refine ⟨⟨?_, ?_⟩, ?_⟩
  · rintro ⟨w, hw⟩
    exact exists_acceptable_of_compiles hw
  · rintro ⟨start, hstart⟩
    exact hstart.compiles limit
  · intro flaw
    refine ⟨?_, fun h => h.compile_eq limit⟩
    intro herror
    -- What was told is the only flaw there is, since compiling has one result.
    rcases d.acceptable_or_refused with ⟨start, hstart⟩ | ⟨told, htold⟩
    · obtain ⟨w, hw⟩ := hstart.compiles limit
      rw [herror] at hw
      cases hw
    · rw [htold.compile_eq limit] at herror
      cases herror
      exact htold

end Definition

end Helpdesk.Workflow
