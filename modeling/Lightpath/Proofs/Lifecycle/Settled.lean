import Lightpath.Proofs.Lifecycle.Observation

/-!
Whatever an agenda brings up it tears down again, also where services are nested: the clients of a
network port come and go between the creation and the deletion of its network side.
-/

namespace Lightpath

namespace Task

/-- After every creation its plan is deleted, and all its resources are looked up again. -/
def Settled
    : List Task → Prop
  | [] => True
  | .create plan :: rest => (Step.tearDown plan).tasks ⊆ rest ∧ Settled rest
  | _ :: rest => Settled rest

/-- A task that creates nothing leaves tasks settled. -/
theorem settled_cons {task : Task} (other : ∀ plan, task ≠ .create plan) {rest : List Task}
    : Settled (task :: rest) ↔ Settled rest := by
  cases task with
  | create plan => exact absurd rfl (other plan)
  | inspect _ | sample _ | survey _ | delete _ | confirm _ | note _ => exact Iff.rfl

theorem Settled.tail {task : Task} {rest : List Task} (settled : Settled (task :: rest))
    : Settled rest := by
  cases task with
  | create plan => exact settled.2
  | inspect _ | sample _ | survey _ | delete _ | confirm _ | note _ => exact settled

theorem settled_of_creating_nothing {tasks : List Task}
    (other : ∀ task ∈ tasks, ∀ plan, task ≠ .create plan)
    : Settled tasks := by
  induction tasks with
  | nil => trivial
  | cons task rest ih =>
      obtain ⟨here, later⟩ := List.forall_mem_cons.mp other
      exact (settled_cons here).mpr (ih later)

theorem Settled.append {tasks others : List Task} (first : Settled tasks)
    (second : Settled others)
    : Settled (tasks ++ others) := by
  induction tasks with
  | nil => exact second
  | cons task rest ih =>
      cases task with
      | create plan =>
          obtain ⟨deleted, settled⟩ := first
          exact ⟨List.subset_append_of_subset_left _ deleted, ih settled⟩
      | inspect _ | sample _ | survey _ | delete _ | confirm _ | note _ => exact ih first

end Task

namespace Agenda

/-- Steps whose tasks are settled. -/
def Settled (steps : List Step)
    : Prop :=
  Task.Settled (steps.flatMap Step.tasks)

theorem Settled.append {steps others : List Step} (first : Settled steps)
    (second : Settled others)
    : Settled (steps ++ others) := by
  rw [Settled, List.flatMap_append]
  exact Task.Settled.append first second

theorem Settled.flatMap {α : Type} {steps : α → List Step} {items : List α}
    (each : ∀ a ∈ items, Settled (steps a))
    : Settled (items.flatMap steps) := by
  induction items with
  | nil => trivial
  | cons first rest ih =>
      obtain ⟨here, later⟩ := List.forall_mem_cons.mp each
      rw [List.flatMap_cons]
      exact here.append (ih later)

theorem settled_note (finding : Finding)
    : Settled [.note finding] :=
  trivial

/-- A plan is brought up and torn down around settled steps. -/
theorem settled_around (plan : Plan) {steps : List Step} (settled : Settled steps)
    : Settled ([.bringUp plan] ++ steps ++ [.tearDown plan]) := by
  have inspections
      : Task.Settled (plan.resources.map .inspect ++ [.sample plan, .survey plan]) := by
    refine Task.settled_of_creating_nothing ?_
    rintro task member other rfl
    simp at member
  have deletion : Task.Settled (Step.tearDown plan).tasks := by
    refine Task.settled_of_creating_nothing ?_
    rintro task member other rfl
    simp [Step.tasks] at member
  -- The deletion is behind all of it, which is what the creation at the head asks for.
  have rest := (inspections.append settled).append deletion
  rw [Settled, List.append_assoc, List.singleton_append, List.flatMap_cons,
    List.flatMap_append, List.flatMap_singleton, Step.tasks, List.cons_append,
    ← List.append_assoc]
  exact ⟨List.subset_append_right _ _, rest⟩

theorem settled_cycle (plan : Plan)
    : Settled (cycle plan) := by
  have nothing : Settled [] := trivial
  exact settled_around plan nothing

theorem settled_clientSteps (ctx : PlanContext) (network : Port) (rate : SignalRate)
    (kind : ClientKind) (position : Nat) (client : Port)
    : Settled (clientSteps ctx network rate kind position client) := by
  unfold clientSteps
  cases Plan.client? ctx network rate client kind position with
  | some plan => exact settled_cycle plan
  | none => exact settled_note _

theorem settled_rateSteps (ctx : PlanContext) (record : NetworkRecord) (first : Port)
    (rate : SignalRate)
    : Settled (rateSteps ctx record first rate) := by
  unfold rateSteps
  cases (PortClass.ofNetwork record).clientKind? with
  | none => exact settled_cycle _
  | some kind =>
      refine settled_around _ ?_
      rw [List.mapIdx_eq_zipIdx_map, ← List.flatMap_def]
      exact Settled.flatMap fun client _ => settled_clientSteps _ _ _ _ _ _

theorem settled_networkSteps (params : RunParameters) (record : NetworkRecord)
    : Settled (networkSteps params record) := by
  unfold networkSteps
  cases record.clients with
  | nil => exact settled_note _
  | cons first rest => exact Settled.flatMap fun rate _ => settled_rateSteps _ record first rate

theorem settled_degreeSteps (params : RunParameters) (record : DegreeRecord)
    : Settled (degreeSteps params record) := by
  unfold degreeSteps
  split
  · exact settled_note _
  · refine Settled.flatMap fun drop _ => ?_
    exact (settled_cycle _).append (settled_cycle _)

/-- Every service of a run is deleted after its creation, whatever the topology. -/
theorem settled_tasks (params : RunParameters) (topology : Topology)
    : Task.Settled (tasks params topology) := by
  have networks : Settled (topology.networks.flatMap (networkSteps params)) :=
    Settled.flatMap fun record _ => settled_networkSteps params record
  have degrees : Settled (topology.degrees.flatMap (degreeSteps params)) :=
    Settled.flatMap fun record _ => settled_degreeSteps params record
  exact networks.append degrees

end Agenda

end Lightpath
