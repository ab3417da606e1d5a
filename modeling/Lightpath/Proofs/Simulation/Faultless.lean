import Lightpath.Proofs.Simulation.Reachable

/-!
An element without faults: from every such state the steps of a run have no finding exactly if a
condition holds, and the conditions of steps add up to one of a whole run.
-/

namespace Lightpath

theorem ElementState.online_of_faultless {s : ElementState} (faultless : s.faults = {})
    : s.faults.controlOffline = false := by
  rw [faultless]

namespace Element

/-- From every state without faults, steps have no finding exactly if a condition holds. -/
def PassesIff (e : Element) (steps : List Step) (condition : Prop)
    : Prop :=
  ∀ s : ElementState, s.faults = {} →
    (e.findings (steps.flatMap Step.tasks) s = [] ↔ condition)

namespace PassesIff

variable {e : Element}

theorem nil
    : e.PassesIff [] True :=
  fun _ _ => iff_of_true rfl trivial

theorem note (finding : Finding)
    : e.PassesIff [.note finding] False := by
  intro s faultless
  simp only [List.flatMap_cons, List.flatMap_nil, Step.tasks, List.append_nil,
    findings_cons e (ElementState.online_of_faultless faultless)]
  exact iff_of_false (List.cons_ne_nil _ _) not_false

theorem congr {steps : List Step} {condition other : Prop} (passes : e.PassesIff steps condition)
    (same : condition ↔ other)
    : e.PassesIff steps other :=
  fun s faultless => (passes s faultless).trans same

/-- Steps in two parts have no finding exactly if neither part has one; the second part
matters only if the first has none.
-/
theorem append {steps others : List Step} {condition other : Prop}
    (first : e.PassesIff steps condition) (second : condition → e.PassesIff others other)
    : e.PassesIff (steps ++ others) (condition ∧ other) := by
  intro s faultless
  have online := ElementState.online_of_faultless faultless
  have stays := (faults_after e online (steps.flatMap Step.tasks)).trans faultless
  rw [List.flatMap_append, findings_append e online, List.append_eq_nil_iff, first s faultless]
  exact and_congr_right fun holds => second holds _ stays

/-- The steps for a list of items have no finding exactly if those for no item have one. -/
theorem flatMap {α : Type} {steps : α → List Step} {condition : α → Prop} {items : List α}
    (each : ∀ a ∈ items, e.PassesIff (steps a) (condition a))
    : e.PassesIff (items.flatMap steps) (∀ a ∈ items, condition a) := by
  induction items with
  | nil => exact nil.congr (by simp)
  | cons first rest ih =>
      have others := ih fun a member => each a (List.mem_cons_of_mem _ member)
      rw [List.flatMap_cons]
      exact ((each first (by simp)).append fun _ => others).congr (by simp)

end PassesIff

end Element

end Lightpath
