import Helpdesk.Proofs.Workflow.Itinerary

/-!
# Helpdesk.Proofs.Workflow.NextStep — one rule of precedence for the ways out of a step.

Steps are wired in three ways: to the end, along an only edge, or with branches and a default. The
author is promised one rule: the first edge whose condition holds, else the first edge without a
condition, else the end (`nextOf`). A step departs from it in two cases, collected in `Strays`. A
condition may end in a fault that is no answer, before an edge is found. And a default that is a node
without a name is taken for no default; when the edge to that node is the only edge of the step there
is no default, and the node is gone to.
-/
namespace Helpdesk.Workflow

/-- What a condition of an edge answers in a bag of variables; an edge without one does not hold. -/
def Edge.answerIn (e : Edge) (bag : Entries) : Except Condition.EvaluationFault Bool :=
  match e.condition with
  | some text => ((Condition.ofText text).ask bag).answer
  | none => .ok false

/-- Whether an edge has a condition that holds. -/
def Edge.holdsIn (e : Edge) (bag : Entries) : Bool :=
  match e.answerIn bag with
  | .ok holds => holds
  | .error _ => false

/-- Asked in order, some edges lead to a fault before one of them holds. -/
def Faults (bag : Entries) (edges : List Edge) : Prop :=
  ∃ before e after, edges = before ++ e :: after ∧ (∀ f ∈ before, f.holdsIn bag = false) ∧
    ∃ fault, e.answerIn bag = .error fault

theorem faults_cons_iff {bag : Entries} {e : Edge} {rest : List Edge} :
    Faults bag (e :: rest) ↔
      (∃ fault, e.answerIn bag = .error fault) ∨ e.holdsIn bag = false ∧ Faults bag rest := by
  constructor
  · rintro ⟨_ | ⟨first, before⟩, f, after, hedges, hbefore, hfault⟩
    · obtain ⟨rfl, _⟩ := List.cons.inj hedges
      exact Or.inl hfault
    · obtain ⟨rfl, rfl⟩ := List.cons.inj hedges
      obtain ⟨hfirst, hbefore⟩ := List.forall_mem_cons.mp hbefore
      exact Or.inr ⟨hfirst, before, f, after, rfl, hbefore, hfault⟩
  · rintro (hfault | ⟨he, before, f, after, rfl, hbefore, hfault⟩)
    · exact ⟨[], e, rest, rfl, fun f hf => absurd hf List.not_mem_nil, hfault⟩
    · exact ⟨e :: before, f, after, rfl, List.forall_mem_cons.mpr ⟨he, hbefore⟩, hfault⟩

namespace Definition

/-! ## The rule -/

/-- Where a node is left for by its edges: by the first that holds, or else by the first without a
condition, or else for the end. -/
def firstWay (d : Definition) (bag : Entries) (edges : List Edge) : Target :=
  match edges.find? (Edge.holdsIn · bag) with
  | some e => d.targetOf e.target
  | none =>
    match edges.find? (·.condition.isNone) with
    | some e => d.targetOf e.target
    | none => .finish

/-- Where a node is left for in a bag of variables, by the edges that count. -/
def nextOf (d : Definition) (start id : String) (bag : Entries) : Target :=
  d.firstWay bag (d.leaving start id)

/-- The default is a node without a name. -/
def DefaultUnnamed (d : Definition) (bag : Entries) (edges : List Edge) : Prop :=
  edges.length ≠ 1 ∧ edges.find? (Edge.holdsIn · bag) = none ∧ d.otherwise edges = some (.node "")

/-- The edges that count depart from the rule. -/
def Strays (d : Definition) (start id : String) (bag : Entries) : Prop :=
  Faults bag (d.leaving start id) ∨ d.DefaultUnnamed bag (d.leaving start id)

/-! ## Asking branches in order -/

theorem branches_cons (d : Definition) (e : Edge) (rest : List Edge) :
    d.branches (e :: rest) =
      match e.condition with
      | some text => (.ofText text, d.targetOf e.target) :: d.branches rest
      | none => d.branches rest := by
  rcases hcondition : e.condition with _ | text <;>
    simp [branches, hcondition]

/-- Branches are found as the rule finds edges, unless a fault comes first. -/
theorem choose_branches (d : Definition) (bag : Entries) (otherwise : Target) (edges : List Edge) :
    Faults bag edges ∧ (∃ fault, (Route.choose bag otherwise (d.branches edges)).2 = .error fault) ∨
      ¬ Faults bag edges ∧ (Route.choose bag otherwise (d.branches edges)).2 =
        .ok (((edges.find? (Edge.holdsIn · bag)).map fun e => d.targetOf e.target).getD otherwise) := by
  induction edges with
  | nil =>
    refine Or.inr ⟨?_, rfl⟩
    rintro ⟨before, e, after, hedges, _⟩
    exact absurd hedges (by simp)
  | cons e rest ih =>
    rw [faults_cons_iff, branches_cons]
    rcases hcondition : e.condition with _ | text
    · -- An edge without a condition is no branch, and it does not hold.
      have hanswer : e.answerIn bag = .ok false := by simp only [Edge.answerIn, hcondition]
      have hholds : e.holdsIn bag = false := by simp only [Edge.holdsIn, hanswer]
      simpa [hanswer, hholds] using ih
    · have hasked : e.answerIn bag = ((Condition.ofText text).ask bag).answer := by
        simp only [Edge.answerIn, hcondition]
      rcases hanswer : e.answerIn bag with fault | _ | _
      · refine Or.inl ⟨Or.inl ⟨fault, rfl⟩, fault, ?_⟩
        simp only [Route.choose, ← hasked, hanswer]
      · have hholds : e.holdsIn bag = false := by simp only [Edge.holdsIn, hanswer]
        simpa [Route.choose, ← hasked, hanswer, hholds] using ih
      · have hholds : e.holdsIn bag = true := by simp only [Edge.holdsIn, hanswer]
        refine Or.inr ⟨?_, ?_⟩
        · simp [hholds]
        · simp [Route.choose, ← hasked, hanswer, hholds]

theorem fallback_eq_iff {otherwise : Option Target} :
    Route.fallback otherwise = otherwise.getD .finish ↔ otherwise ≠ some (.node "") := by
  rcases otherwise with _ | id | _
  · simp [Route.fallback]
  · by_cases hempty : id = ""
    · simp [Route.fallback, hempty]
    · simp [Route.fallback, hempty]
  · simp [Route.fallback]

theorem firstWay_eq (d : Definition) (bag : Entries) (edges : List Edge) :
    d.firstWay bag edges =
      ((edges.find? (Edge.holdsIn · bag)).map fun e => d.targetOf e.target).getD
        ((d.otherwise edges).getD .finish) := by
  unfold firstWay otherwise
  rcases edges.find? (Edge.holdsIn · bag) with _ | e
  · rcases hfree : edges.find? (·.condition.isNone) with _ | e <;> simp [hfree]
  · rfl

/-- Branches with a default follow the rule, unless a fault comes first or the default is unnamed. -/
theorem resolve_conditional {d : Definition} {bag : Entries} {edges : List Edge}
    {otherwise : Option Target} (hotherwise : d.otherwise edges = otherwise) :
    ((Route.conditional (d.branches edges) otherwise).resolve bag).2 = .ok (d.firstWay bag edges) ↔
      ¬ (Faults bag edges ∨
        edges.find? (Edge.holdsIn · bag) = none ∧ otherwise = some (.node "")) := by
  rw [firstWay_eq, hotherwise, Route.resolve]
  rcases d.choose_branches bag (Route.fallback otherwise) edges with
    ⟨hfaults, fault, hchoice⟩ | ⟨hfaults, hchoice⟩
  · simp [hchoice, hfaults]
  · rw [hchoice]
    rcases edges.find? (Edge.holdsIn · bag) with _ | e
    · simp [hfaults, fallback_eq_iff]
    · simp [hfaults]

/-- **The three ways of wiring agree with the rule** except where the edges depart from it. -/
theorem resolve_routeOf {d : Definition} {bag : Entries} {edges : List Edge} :
    ((d.routeOf edges).resolve bag).2 = .ok (d.firstWay bag edges) ↔
      ¬ (Faults bag edges ∨ d.DefaultUnnamed bag edges) := by
  rcases edges with _ | ⟨e, _ | ⟨second, others⟩⟩
  · have hfaults : ¬ Faults bag [] := by
      rintro ⟨before, e, after, hedges, _⟩
      exact absurd hedges (by simp)
    simp [routeOf, Route.resolve, firstWay, hfaults, DefaultUnnamed, otherwise]
  · have hunnamed : ¬ d.DefaultUnnamed bag [e] := fun h => h.1 rfl
    by_cases hfree : e.condition = none
    · have hanswer : e.answerIn bag = .ok false := by simp only [Edge.answerIn, hfree]
      have hholds : e.holdsIn bag = false := by simp only [Edge.holdsIn, hanswer]
      have hfaults : ¬ Faults bag [e] := by
        rw [faults_cons_iff]
        rintro (⟨fault, hfault⟩ | ⟨_, before, f, after, hedges, _⟩)
        · rw [hanswer] at hfault
          cases hfault
        · exact absurd hedges (by simp)
      simp [routeOf, hfree, Route.resolve, firstWay, hholds, hfaults, hunnamed]
    · have hnone : d.otherwise [e] = none := by simp [otherwise, hfree]
      rw [routeOf, if_neg (by simpa using hfree), resolve_conditional hnone]
      simp [hunnamed]
  · rw [routeOf, resolve_conditional rfl]
    · simp [DefaultUnnamed]
    · simp
    · simp

end Definition

theorem route_of_step {d : Definition} {start : String} {w : Compiled} (h : CompiledFrom d start w)
    {step : Step} (hstep : step ∈ w.steps) : step.route = d.routeOf (d.leaving start step.id) := by
  rw [h.steps] at hstep
  obtain ⟨⟨n, _, _, hpath, hid⟩, hroute⟩ := Definition.mem_steps.mp hstep
  rw [hroute, Definition.outgoing_wiredEdges (hid ▸ hpath)]

/-- **Steps are left by the rule** their authors are promised, and where they are not it is for one of
two reasons: a fault that is no answer, or a default without a name. -/
theorem steps_are_left_by_precedence {d : Definition} {limit : Int} {w : Compiled}
    (h : (d.compile limit).2 = .ok w) :
    ∃ start, d.starts = [start] ∧ ∀ step ∈ w.steps, ∀ bag : Entries,
      ((step.route.resolve bag).2 = .ok (d.nextOf start step.id bag) ↔ ¬ d.Strays start step.id bag) := by
  obtain ⟨start, hfrom⟩ := compiledFrom_of_compile h
  refine ⟨start, hfrom.acceptable.starts, ?_⟩
  intro step hstep bag
  rw [route_of_step hfrom hstep]
  exact Definition.resolve_routeOf

theorem loopingDefinition_left_by_precedence :
    ∃ w, (loopingDefinition.compile 25).2 = .ok w ∧
      ∃ start, loopingDefinition.starts = [start] ∧ ∀ step ∈ w.steps, ∀ bag : Entries,
        ((step.route.resolve bag).2 = .ok (loopingDefinition.nextOf start step.id bag) ↔
          ¬ loopingDefinition.Strays start step.id bag) := by
  obtain ⟨w, hw⟩ := acceptable_loopingDefinition.compiles 25
  exact ⟨w, hw, steps_are_left_by_precedence hw⟩

/-- A definition with a node that has no name, and with two edges that ask for nothing. -/
def unnamedDefinition : Definition where
  id := "unnamed"
  name := ""
  nodes := [⟨"start", none, .start⟩, ⟨"look", none, .action (.rag .default)⟩,
    ⟨"", none, .action (.smartChat .default)⟩, ⟨"end", none, .finish⟩]
  edges := [⟨"1", "start", "look", none, none, none⟩, ⟨"2", "look", "", none, none, none⟩,
    ⟨"3", "look", "end", none, none, none⟩, ⟨"4", "", "end", none, none, none⟩]

theorem unnamed_default_is_passed_over :
    ∃ w step, (unnamedDefinition.compile 25).2 = .ok w ∧ step ∈ w.steps ∧ step.id = "look" ∧
      unnamedDefinition.nextOf "start" "look" [] = .node "" ∧
      (step.route.resolve []).2 = .ok .finish := by
  refine ⟨_, ⟨"look", .rag .default, .conditional [] (some (.node ""))⟩, rfl, ?_, rfl, rfl, rfl⟩
  exact List.mem_cons_self

end Helpdesk.Workflow
