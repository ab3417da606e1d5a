import Lightpath.Proofs.Simulation.Realization

/-!
The names that an element renders. Requests that differ in their operation only are rendered in one
way, so what a deletion takes away is what the creation before it has made.
-/

namespace Lightpath

-----------------------------------------------------------------------------------------
-- Requests that differ in one member
-----------------------------------------------------------------------------------------

/-- A search that passes over a key finds what it would without anything inserted there. -/
theorem Keyed.find?_insert {α : Type} {q : String × α → Bool} {key : String}
    (passes : ∀ value, q (key, value) = false) (value : α) (pairs : List (String × α))
    : (insert key value pairs).find? q = pairs.find? q := by
  induction pairs with
  | nil => simp [insert, passes]
  | cons pair rest ih =>
      obtain ⟨k, v⟩ := pair
      simp only [insert]
      split
      · simp [passes]
      · split
        · rename_i same
          simp [← same, passes]
        · rw [List.find?_cons, List.find?_cons, ih]

/-- What is found under a name does not depend on the value of a last member that has another
name, with or without its module.
-/
theorem Json.field?_ofMembers_concat {members : List (String × Json)} {key name : String}
    (other : name ≠ key) (foreign : localName? key ≠ some name) (v w : Json)
    : (ofMembers (members ++ [(key, v)])).field? name
      = (ofMembers (members ++ [(key, w)])).field? name := by
  have search (value : Json)
      : (Keyed.insert key value (Keyed.ofList members)).find?
          (fun m => localName? m.1 = some name)
        = (Keyed.ofList members).find? (fun m => localName? m.1 = some name) :=
    Keyed.find?_insert (fun _ => decide_eq_false foreign) value _
  simp only [ofMembers, field?, Keyed.ofList_concat, Keyed.lookup_insert, if_neg other, search]

namespace Renderer

section Operation

variable {request other : Json}
  (same : ∀ name, name ≠ "operation" → request.field? name = other.field? name)
include same

theorem stated_congr {name : String} (read : name ≠ "operation")
    : stated request name = stated other name := by
  rw [stated, stated, same name read]

theorem slot_congr {name : String} (read : name ≠ "operation")
    : slot request name = slot other name := by
  rw [slot, slot, stated_congr same read]

theorem statedItems_congr {name : String} (read : name ≠ "operation")
    : statedItems request name = statedItems other name := by
  rw [statedItems, statedItems, same name read]

theorem ofRequest_congr
    : RequestedSpectrum.ofRequest request = RequestedSpectrum.ofRequest other := by
  have lowest : slot request "lower-spectral-slot-number" = _ := slot_congr same (by decide)
  have highest : slot request "higher-spectral-slot-number" = _ := slot_congr same (by decide)
  have center : stated request "center-freq" = _ := stated_congr same (by decide)
  have lowEdge : stated request "min-freq" = _ := stated_congr same (by decide)
  have highEdge : stated request "max-freq" = _ := stated_congr same (by decide)
  have width : stated request "nmc-width" = _ := stated_congr same (by decide)
  have modulation : stated request "modulation-format" = _ := stated_congr same (by decide)
  simp only [RequestedSpectrum.ofRequest, lowest, highest, center, lowEdge, highEdge, width,
    modulation]

theorem allocation_congr (rate : SignalRate) (needed : Nat)
    : allocation request rate needed = allocation other rate needed := by
  have sliced : statedItems request "opucn-trib-slots" = _ :=
    statedItems_congr same (by decide)
  have whole : statedItems request "trib-slot" = _ := statedItems_congr same (by decide)
  simp only [allocation, slicedSlots, wholeSlots, same "trib-port-number" (by decide), sliced,
    whole]

/-- Requests that differ in their operation only are rendered in one way. -/
theorem render_congr (r : Renderer) (rpc : String)
    : r.render rpc request = r.render rpc other := by
  have nodes : r.nodePart request = r.nodePart other := by
    rw [nodePart, nodePart, same "nodes" (by decide)]
  have paths : ∀ node, r.optical request node = r.optical other node := by
    intro node
    rw [optical, optical, ofRequest_congr same]
  have services : ∀ node, r.clientService request node = r.clientService other node := by
    intro node
    simp only [clientService, same "service-rate" (by decide), allocation_congr same]
  simp only [render, nodes, paths, services]

end Operation

end Renderer

/-- The two requests of a plan differ in their operation only. -/
theorem Plan.render_body (r : Renderer) (plan : Plan) (operation other : Operation)
    : r.render plan.rpc (plan.body operation) = r.render plan.rpc (plan.body other) := by
  refine Renderer.render_congr ?_ r plan.rpc
  intro name read
  have plain : Json.localName? "operation" = none := by decide
  exact Json.field?_ofMembers_concat read (by simp [plain]) _ _

-----------------------------------------------------------------------------------------
-- Names that an element handles
-----------------------------------------------------------------------------------------

namespace Element

/-- The names that an element renders for a request, none if it does not accept it. -/
def renderedNames (e : Element) (rpc : String) (request : Json)
    : List String :=
  match e.renderer.render rpc (request.unwrap "input") with
  | .ok rendering => rendering.names
  | .error _ => []

/-- The names that an element renders for the requests of a transcript. -/
def handledNames {κ : Type} (e : Element) (transcript : List (Interaction κ))
    : List String :=
  transcript.flatMap fun
    | .invoked rpc request _ => e.renderedNames rpc request
    | _ => []

/-- The names that an element renders for the request of a task, if the task makes one. -/
def taskNames (e : Element)
    : Task → List String
  | .create plan => e.renderedNames plan.rpc (plan.request .create)
  | .delete plan => e.renderedNames plan.rpc (plan.request .delete)
  | .inspect _ | .sample _ | .survey _ | .confirm _ | .note _ => []

variable (e : Element)

theorem renderedNames_request (plan : Plan) (operation other : Operation)
    : e.renderedNames plan.rpc (plan.request operation)
      = e.renderedNames plan.rpc (plan.request other) := by
  rw [renderedNames, renderedNames, plan.unwrap_request, plan.unwrap_request,
    plan.render_body e.renderer operation other]

theorem handledNames_interactions {κ : Type} (node : String) (o : Observation κ)
    : e.handledNames (o.interactions node) = e.taskNames o.task := by
  have access : ∀ (request : ReadRequest) (a : Access κ),
      e.handledNames (a.interactions node request) = [] := by
    intro request a
    cases a <;> rfl
  cases o with
  | created plan answer | deleted plan answer => exact List.append_nil _
  | inspected resource answer | confirmed resource answer =>
      rw [Observation.interactions, Observation.lookupInteraction]
      split <;> rfl
  | sampled plan a | surveyed plan a => exact access _ a
  | noted finding => rfl

/-- The names handled in a transcript are those of the tasks that were carried out. -/
theorem handledNames_observations {κ : Type} (node : String) (seen : List (Observation κ))
    : e.handledNames (seen.flatMap (Observation.interactions node))
      = (seen.map Observation.task).flatMap e.taskNames := by
  rw [handledNames, List.flatMap_assoc, List.flatMap_map]
  congr 1
  funext o
  exact e.handledNames_interactions node o

end Element

end Lightpath
