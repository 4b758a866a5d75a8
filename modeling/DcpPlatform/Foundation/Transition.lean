import Mathlib.Data.List.Basic

/-!
# Finite runs of labelled transition relations

A run is a finite chain of steps of a relation `step source action target`
with the list of its actions. `Run.invariant` propagates a predicate kept by
each step; `guarded` restricts a relation to the steps that satisfy a
condition.
-/

namespace DcpPlatform.Foundation

universe u v

variable {State : Type u} {Action : Type v}

/-- A finite run of `step`, labelled by its actions. -/
inductive Run (step : State → Action → State → Prop) :
    State → List Action → State → Prop
  | nil (state : State) : Run step state [] state
  | cons {source middle target : State} {action : Action} {actions : List Action} :
      step source action middle →
      Run step middle actions target →
      Run step source (action :: actions) target

def Fires (next : State → Action → Option State)
    (source : State) (action : Action) (target : State) : Prop :=
  next source action = some target

/-- The steps of `step` whose source and action satisfy `allowed`. -/
def guarded (step : State → Action → State → Prop) (allowed : State → Action → Prop)
    (source : State) (action : Action) (target : State) : Prop :=
  allowed source action ∧ step source action target

/-- The steps of `step` that lead to a state with a given property. -/
def staying (step : State → Action → State → Prop) (holds : State → Prop)
    (source : State) (action : Action) (target : State) : Prop :=
  step source action target ∧ holds target

/-- The steps of `step` whose ends are related. -/
def keeping (step : State → Action → State → Prop) (related : State → State → Prop)
    (source : State) (action : Action) (target : State) : Prop :=
  step source action target ∧ related source target

/-- Execute a list of actions of a partial step function. -/
def execute (next : State → Action → Option State) :
    State → List Action → Option State
  | state, [] => some state
  | state, action :: actions =>
    match next state action with
    | none => none
    | some middle => execute next middle actions

section Guards

variable {reached after : State} {guard : Prop} [Decidable guard]

theorem of_ite_eq_some (taken : (if guard then some reached else none) = some after) :
    guard ∧ reached = after :=
  (Option.ite_none_right_eq_some.mp taken).imp_right Option.some.inj

theorem of_ite_none_eq_some (taken : (if guard then none else some reached) = some after) :
    ¬ guard ∧ reached = after :=
  (Option.ite_none_left_eq_some.mp taken).imp_right Option.some.inj

end Guards

namespace Run

variable {step : State → Action → State → Prop} {source target : State}

theorem single {action : Action} (taken : step source action target) :
    Run step source [action] target :=
  Run.cons taken (Run.nil target)

variable {first second actions : List Action}

theorem append {middle : State} (earlier : Run step source first middle)
    (later : Run step middle second target) :
    Run step source (first ++ second) target := by
  induction earlier with
  | nil state =>
    exact later
  | cons taken _ ih =>
    exact Run.cons taken (ih later)

/-- A run over a concatenation passes through a state between its halves. -/
theorem split :
    ∀ {source target : State}, Run step source (first ++ second) target →
      ∃ middle, Run step source first middle ∧ Run step middle second target := by
  induction first with
  | nil =>
    intro source target run
    exact ⟨source, Run.nil source, run⟩
  | cons action rest ih =>
    intro source target run
    cases run with
    | cons taken remaining =>
      obtain ⟨middle, earlier, later⟩ := ih remaining
      exact ⟨middle, Run.cons taken earlier, later⟩

/-- A predicate that every step preserves holds at the end of a run. -/
theorem invariant (holds : State → Prop) (preserved : ∀ {source target : State} {action : Action},
    holds source → step source action target → holds target)
    (initially : holds source)
    (run : Run step source actions target) :
    holds target := by
  induction run with
  | nil state =>
    exact initially
  | cons taken _ ih =>
    exact ih (preserved initially taken)

/-- A relation between source and target that is reflexive, transitive and
contains every step taken under an invariant relates the ends of a run. -/
theorem relates (holds : State → Prop) (related : State → State → Prop)
    (reflexive : ∀ state, related state state)
    (transitive : ∀ {first second third : State},
      related first second → related second third → related first third)
    (preserved : ∀ {source target : State} {action : Action},
      holds source → step source action target → holds target)
    (contains : ∀ {source target : State} {action : Action},
      holds source → step source action target → related source target)
    (initially : holds source)
    (run : Run step source actions target) :
    related source target := by
  induction run with
  | nil state =>
    exact reflexive state
  | cons taken _ ih =>
    exact transitive (contains initially taken) (ih (preserved initially taken))

/-- Enlarging the transition relation keeps every run. -/
theorem mono {larger : State → Action → State → Prop}
    (included : ∀ {source target : State} {action : Action},
      step source action target → larger source action target)
    (run : Run step source actions target) :
    Run larger source actions target := by
  induction run with
  | nil state =>
    exact Run.nil state
  | cons taken _ ih =>
    exact Run.cons (included taken) ih

end Run

variable {step : State → Action → State → Prop} {allowed : State → Action → Prop}
    {source target : State} {actions : List Action}

theorem Run.of_guarded (run : Run (guarded step allowed) source actions target) :
    Run step source actions target :=
  run.mono (·.2)

/-- Two relations with the same steps under an invariant of the first one
have the same runs. -/
theorem Run.congr_of_invariant {first second : State → Action → State → Prop} (inv : State → Prop)
    (preserved : ∀ {source target : State} {action : Action},
      inv source → first source action target → inv target)
    (same : ∀ {source target : State} {action : Action},
      inv source → (first source action target ↔ second source action target))
    (initially : inv source) :
    Run first source actions target ↔ Run second source actions target := by
  constructor
  · intro run
    induction run with
    | nil state =>
      exact Run.nil state
    | cons taken _ ih =>
      exact Run.cons ((same initially).mp taken) (ih (preserved initially taken))
  · intro run
    induction run with
    | nil state =>
      exact Run.nil state
    | cons taken _ ih =>
      have step := (same initially).mpr taken
      exact Run.cons step (ih (preserved initially step))

/-- When, under an invariant, a condition on each step decides whether a
property survives it, the runs that stay within the property are exactly the
runs whose steps all meet the condition. The invariant need only last as long
as the property. -/
theorem Run.staying_iff_guarded (inv holds : State → Prop) (allowed : State → Action → Prop)
    (preserved : ∀ {source target : State} {action : Action},
      inv source → holds source → step source action target → holds target → inv target)
    (decides : ∀ {source target : State} {action : Action},
      inv source → holds source → step source action target →
        (holds target ↔ allowed source action))
    (invariantly : inv source) (initially : holds source) :
    Run (staying step holds) source actions target ↔
      Run (guarded step allowed) source actions target := by
  refine Run.congr_of_invariant (fun state => inv state ∧ holds state)
    ?_ ?_ ⟨invariantly, initially⟩
  · intro source target action both taken
    exact ⟨preserved both.1 both.2 taken.1 taken.2, taken.2⟩
  · intro source target action both
    constructor
    · rintro ⟨taken, kept⟩
      exact ⟨(decides both.1 both.2 taken).mp kept, taken⟩
    · rintro ⟨met, taken⟩
      exact ⟨taken, (decides both.1 both.2 taken).mpr met⟩

/-- When, under an invariant, a condition on each step decides whether the
step keeps a relation, the runs that keep it are exactly the runs whose steps
meet the condition. The invariant need only last as long as the relation. -/
theorem Run.keeping_iff_guarded (inv : State → Prop) (related : State → State → Prop)
    (allowed : State → Action → Prop)
    (preserved : ∀ {source target : State} {action : Action},
      inv source → step source action target → related source target → inv target)
    (decides : ∀ {source target : State} {action : Action},
      inv source → step source action target → (related source target ↔ allowed source action))
    (invariantly : inv source) :
    Run (keeping step related) source actions target ↔
      Run (guarded step allowed) source actions target := by
  refine Run.congr_of_invariant inv ?_ ?_ invariantly
  · intro source target action holds taken
    exact preserved holds taken.1 taken.2
  · intro source target action holds
    constructor
    · rintro ⟨taken, kept⟩
      exact ⟨(decides holds taken).mp kept, taken⟩
    · rintro ⟨met, taken⟩
      exact ⟨taken, (decides holds taken).mpr met⟩

variable {holds : State → Prop}

/-- A run that stays within a property ends in a state that has it. -/
theorem Run.holds_of_staying (initially : holds source)
    (run : Run (staying step holds) source actions target) :
    holds target :=
  run.invariant holds (fun _ taken => taken.2) initially

/-- A pending state stays pending or reaches the goal, the goal is kept, and
one action always reaches it: a run with that action ends in the goal. -/
theorem Run.reaches (pending goal : State → Prop) {turn : Action}
    (waits : ∀ {source target : State} {action : Action},
      pending source → step source action target → pending target ∨ goal target)
    (serves : ∀ {source target : State}, pending source → step source turn target → goal target)
    (keeps : ∀ {source target : State} {action : Action},
      goal source → step source action target → goal target)
    (initially : pending source) (member : turn ∈ actions)
    (run : Run step source actions target) :
    goal target := by
  induction run with
  | nil state =>
    cases member
  | cons taken remaining ih =>
    have later (reached : goal _) : goal _ := remaining.invariant goal keeps reached
    rcases List.mem_cons.mp member with rfl | rest
    · exact later (serves initially taken)
    · rcases waits initially taken with still | reached
      · exact ih still rest
      · exact later reached

/-- A run stays within a property that holds wherever it leads on its way. -/
theorem Run.staying_of_forall (run : Run step source actions target)
    (throughout : ∀ {first rest : List Action} {middle : State},
      actions = first ++ rest → Run step source first middle → holds middle) :
    Run (staying step holds) source actions target := by
  induction run with
  | nil state =>
    exact Run.nil state
  | cons taken _ ih =>
    refine Run.cons ⟨taken, throughout rfl (Run.single taken)⟩ (ih ?_)
    intro first rest middle split earlier
    exact throughout (congrArg _ split) (Run.cons taken earlier)

variable {next : State → Action → Option State}

theorem run_of_execute :
    ∀ {actions : List Action} {source target : State},
      execute next source actions = some target → Run (Fires next) source actions target
  | [], source, target, executed => by
      injection executed with same
      subst same
      exact Run.nil source
  | action :: rest, source, target, executed => by
      cases taken : next source action with
      | none =>
        simp [execute, taken] at executed
      | some middle =>
        have remaining : execute next middle rest = some target := by
          simpa [execute, taken] using executed
        exact Run.cons taken (run_of_execute remaining)

theorem execute_of_run (run : Run (Fires next) source actions target) :
    execute next source actions = some target := by
  induction run with
  | nil state =>
    rfl
  | cons taken _ ih =>
    have fired : next _ _ = some _ := taken
    simp only [execute, fired]
    exact ih

theorem Run.deterministic {other : State} (run : Run (Fires next) source actions target)
    (otherRun : Run (Fires next) source actions other) :
    target = other := by
  have executed := execute_of_run run
  rw [execute_of_run otherRun] at executed
  injection executed with same
  exact same.symm

/-- Wherever a run of a partial function that stays within a property leads
on its way, the property holds. -/
theorem Run.holds_of_append {middle : State} {first rest : List Action} (initially : holds source)
    (run : Run (staying (Fires next) holds) source (first ++ rest) target)
    (earlier : Run (Fires next) source first middle) :
    holds middle := by
  obtain ⟨reached, front, _⟩ := run.split
  have same := earlier.deterministic (front.mono (·.1))
  rw [same]
  exact front.holds_of_staying initially

theorem exists_run_of_total (total : ∀ state action, ∃ after, next state action = some after) :
    ∀ (actions : List Action) (source : State), ∃ target, Run (Fires next) source actions target
  | [], source => ⟨source, Run.nil source⟩
  | action :: rest, source => by
      obtain ⟨middle, taken⟩ := total source action
      obtain ⟨target, run⟩ := exists_run_of_total total rest middle
      exact ⟨target, Run.cons taken run⟩

theorem exists_of_execute_any {next : State → Action → Option State} {check : State → Prop}
    [DecidablePred check] {actions : List Action} {source : State}
    (passes : (execute next source actions).any (fun target => check target) = true) :
    ∃ target, execute next source actions = some target ∧ check target := by
  cases executed : execute next source actions with
  | none =>
    rw [executed] at passes
    cases passes
  | some target =>
    rw [executed] at passes
    exact ⟨target, rfl, of_decide_eq_true passes⟩

/-- A partial step function that also refuses what `allowed` excludes. -/
def restricted (next : State → Action → Option State) (allowed : State → Action → Prop)
    [∀ state action, Decidable (allowed state action)]
    (state : State) (action : Action) : Option State :=
  if allowed state action then next state action else none

theorem guarded_of_fires [∀ state action, Decidable (allowed state action)] {action : Action}
    (fires : Fires (restricted next allowed) source action target) :
    guarded (Fires next) allowed source action target := by
  unfold Fires restricted at fires
  split at fires
  · rename_i permitted
    exact ⟨permitted, fires⟩
  · cases fires

theorem run_guarded_of_execute [∀ state action, Decidable (allowed state action)]
    (executed : execute (restricted next allowed) source actions = some target) :
    Run (guarded (Fires next) allowed) source actions target :=
  (run_of_execute executed).mono guarded_of_fires

/-! An execution is shown to end well by checking its last state and arguing
from the check. The actions stand in the statement only. -/

section Checked

variable {next : State → Action → Option State}
    {goal : State → Prop} {actions : List Action} {source : State}
    (check : State → Prop) [DecidablePred check]

theorem exists_executed
    (passes : (execute next source actions).any (fun target => check target) = true)
    (enough : ∀ target, execute next source actions = some target → check target → goal target) :
    ∃ target, execute next source actions = some target ∧ goal target := by
  obtain ⟨target, executed, checked⟩ := exists_of_execute_any passes
  exact ⟨target, executed, enough target executed checked⟩

theorem exists_run (passes : (execute next source actions).any (fun target => check target) = true)
    (enough : ∀ target, Run (Fires next) source actions target → check target → goal target) :
    ∃ target, Run (Fires next) source actions target ∧ goal target := by
  obtain ⟨target, executed, checked⟩ := exists_of_execute_any passes
  have run := run_of_execute executed
  exact ⟨target, run, enough target run checked⟩

variable {allowed : State → Action → Prop} [∀ state action, Decidable (allowed state action)]

theorem exists_guarded_run (passes :
    (execute (restricted next allowed) source actions).any (fun target => check target) = true)
    (enough : ∀ target, Run (guarded (Fires next) allowed) source actions target →
      check target → goal target) :
    ∃ target, Run (guarded (Fires next) allowed) source actions target ∧ goal target := by
  obtain ⟨target, executed, checked⟩ := exists_of_execute_any passes
  have run := run_guarded_of_execute executed
  exact ⟨target, run, enough target run checked⟩

end Checked

/-- An execution all of whose steps are allowed, by a check of its last
state. -/
theorem exists_executed_guarded {goal : State → Prop}
    (allowed : State → Action → Prop) (check : State → Prop)
    [∀ state action, Decidable (allowed state action)] [DecidablePred check]
    (passes :
      (execute (restricted next allowed) source actions).any (fun target => check target) = true)
    (enough : ∀ target, Run (guarded (Fires next) allowed) source actions target →
      check target → goal target) :
    ∃ target, execute next source actions = some target ∧ goal target := by
  obtain ⟨target, run, reached⟩ := exists_guarded_run check passes enough
  exact ⟨target, execute_of_run run.of_guarded, reached⟩

end DcpPlatform.Foundation
