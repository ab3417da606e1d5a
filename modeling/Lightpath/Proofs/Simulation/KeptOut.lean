import Lightpath.Proofs.Service.Expectations
import Lightpath.Proofs.Simulation.Realization

/-!
What faults do to the tables of an element. They keep names out, for all services or for one name, and
they misstate one interface; whatever else is created is kept as it would be without faults.
-/

namespace Lightpath

namespace Faults

/-- A name under which faults let nothing be created. -/
def KeepsOut (f : Faults) (name : String)
    : Prop :=
  f.rejectCreate = true ∨ f.skipResource = some name

/-- A resource whose state is reported wrong; cross-connections have none. -/
def Misstates (f : Faults) (p : PlannedResource)
    : Prop :=
  p.isConnection = false ∧ f.wrongState = some p.name

end Faults

/-- A state in which nothing is kept that its faults keep out. -/
def ElementState.Bars (s : ElementState)
    : Prop :=
  ∀ isConnection name, s.faults.KeepsOut name → s.kept isConnection name = none

namespace Element

-----------------------------------------------------------------------------------------
-- What is kept out stays out
-----------------------------------------------------------------------------------------

theorem bars_createResources (description : String) (resources : List RenderedResource)
    {s : ElementState} (accepts : s.faults.rejectCreate = false) (bars : s.Bars)
    : (resources.foldl (createResource description) s).Bars := by
  induction resources generalizing s with
  | nil => exact bars
  | cons r rest ih =>
      have stays := faults_createResource description s r
      refine ih (by rw [stays, accepts]) ?_
      intro isConnection name out
      rw [stays] at out
      have skipped : s.faults.skipResource = some name := out.resolve_left (by simp [accepts])
      rw [kept_createResource, if_neg]
      · exact bars isConnection name out
      · rintro ⟨⟨-, rfl⟩, made⟩
        exact made skipped

theorem bars_deleteResources (resources : List RenderedResource) {s : ElementState}
    (bars : s.Bars)
    : (resources.foldl deleteResource s).Bars := by
  intro isConnection name out
  rw [faults_deleteResources] at out
  rw [kept_deleteResources, bars isConnection name out, ite_self]

theorem Moves.bars {e : Element} {rpc : String} {request : Json} {s t : ElementState}
    (moves : e.Moves rpc request s t) (bars : s.Bars)
    : t.Bars := by
  cases moves with
  | rests | notes _ => exact bars
  | creates accepts _ => exact bars_createResources _ _ accepts bars
  | deletes _ _ => exact bars_deleteResources _ bars

/-- No task lets in what the faults keep out. -/
theorem Effect.bars {e : Element} {task : Task} {s t : ElementState} (effect : e.Effect s task t)
    (bars : s.Bars)
    : t.Bars := by
  cases effect with
  | rests | visits => exact bars
  | creates moves | deletes moves => exact moves.bars bars

theorem bars_after (e : Element) {s : ElementState} (online : s.faults.controlOffline = false) (bars : s.Bars)
    (tasks : List Task)
    : (e.after tasks s).Bars := by
  induction tasks generalizing s with
  | nil => exact bars
  | cons task rest ih =>
      rw [after_cons e online]
      exact ih (online_observe e online task) ((e.effect_observe e.node task s).bars bars)

-----------------------------------------------------------------------------------------
-- What survives its deletion stays
-----------------------------------------------------------------------------------------

theorem kept_createResources_of_kept (description : String) (resources : List RenderedResource)
    {s : ElementState} {isConnection : Bool} {name : String}
    (kept : s.kept isConnection name ≠ none)
    : (resources.foldl (createResource description) s).kept isConnection name ≠ none := by
  induction resources generalizing s with
  | nil => exact kept
  | cons r rest ih =>
      refine ih ?_
      rw [kept_createResource]
      split
      · exact Option.some_ne_none _
      · exact kept

/-- While deleted resources survive, no task takes away what is kept. -/
theorem Effect.kept {e : Element} {task : Task} {s t : ElementState} (effect : e.Effect s task t)
    (survives : s.faults.surviveDelete = true) {isConnection : Bool} {name : String}
    (kept : s.kept isConnection name ≠ none)
    : t.kept isConnection name ≠ none := by
  have moved {rpc : String} {request : Json} (moves : e.Moves rpc request s t)
      : t.kept isConnection name ≠ none := by
    cases moves with
    | rests | notes _ => exact kept
    | creates _ _ => exact kept_createResources_of_kept _ _ kept
    | deletes removes _ => simp [survives] at removes
  cases effect with
  | rests | visits => exact kept
  | creates moves | deletes moves => exact moved moves

-----------------------------------------------------------------------------------------
-- What a creation leaves
-----------------------------------------------------------------------------------------

/-- A resource whose state is not misstated is kept as without faults. -/
theorem heldUnder_eq_held {f : Faults} {description : String} {r : RenderedResource}
    {p : PlannedResource} (matching : p.Matches description r) (right : ¬ f.Misstates p)
    : heldUnder f description r = held description r := by
  rw [heldUnder, held]
  split
  · rfl
  · rename_i isInterface
    have other : f.wrongState ≠ some r.name := by
      intro wrong
      rw [matching.isConnection, Bool.not_eq_true] at isInterface
      exact right ⟨isInterface, wrong.trans (congrArg some matching.name)⟩
    cases config : r.config <;> simp [stored, config, other]

/-- A resource whose state is misstated is not kept as it is expected. -/
theorem not_isSubset_heldUnder {f : Faults} {description : String} {r : RenderedResource}
    {p : PlannedResource} (matching : p.Matches description r) (inService : p.ExpectsService)
    (wrong : f.Misstates p)
    : ¬ Json.isSubset p.expected (heldUnder f description r) = true := by
  intro subset
  obtain ⟨state, found, covered⟩ := Json.get?_of_isSubset subset inService
  have isInterface : r.isConnection = false := matching.isConnection.trans wrong.1
  have misstated : f.wrongState = some r.name := wrong.2.trans (congrArg some matching.name.symm)
  rw [heldUnder, isInterface] at found
  cases config : r.config with
  | object members =>
      have outOfService : state = .string "outOfService" := by
        simpa [stored, config, misstated, Json.get?, Keyed.lookup_insert, eq_comm] using found
      rw [outOfService] at covered
      simp [Json.covers_string] at covered
  | null | bool _ | number _ | string _ | array _ => simp [stored, config, Json.get?] at found

section Creation

variable {e : Element} {plan : Plan} {rendering : Rendering} (renders : e.Renders plan rendering)
  (realizes : rendering.Realizes plan) {s : ElementState}
include renders realizes

/-- After a creation nothing is kept that the faults keep out; every other resource of the plan is
kept, and as it is expected unless its state is misstated.
-/
theorem kept_answer_create (telling : plan.Telling) (bars : s.Bars) {p : PlannedResource}
    (member : p ∈ plan.resources)
    : (s.faults.KeepsOut p.name →
        (e.answer plan.rpc (plan.request .create) s).2.kept p.isConnection p.name = none)
      ∧ (¬ s.faults.KeepsOut p.name → ∃ config,
          (e.answer plan.rpc (plan.request .create) s).2.kept p.isConnection p.name
            = some config
          ∧ (Json.isSubset p.expected config = true ↔ ¬ s.faults.Misstates p)) := by
  constructor
  · intro out
    refine (e.moves_answer _ _ s).bars bars _ _ ?_
    rw [faults_answer]
    exact out
  · intro inside
    obtain ⟨accepts, made⟩ := not_or.mp inside
    obtain ⟨r, inRendering, matching⟩ :=
      PlannedResource.Matches.exists_rendered realizes.resources member
    have kept :=
      kept_createResources rendering.description (s := logged s plan.rpc .create)
        (PlannedResource.Matches.distinct realizes.resources realizes.distinct) r inRendering
        (by rw [matching.name]; exact made)
    rw [matching.isConnection, matching.name] at kept
    rw [answer_accepted renders (Bool.eq_false_iff.mpr accepts)]
    refine ⟨_, kept, ?_⟩
    constructor
    · intro subset wrong
      exact not_isSubset_heldUnder matching (telling.inService p member wrong.1) wrong subset
    · intro right
      change Json.isSubset p.expected (heldUnder s.faults _ r) = true
      rw [heldUnder_eq_held matching right]
      exact matching.config

end Creation

end Element

end Lightpath
