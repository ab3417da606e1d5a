import Lightpath.Proofs.Simulation.Requests

/-!
What plans expect of the resources that they name is what an element keeps under these names:
the layers of the line side, the services of clients, and both directions of a path through a
roadm.
-/

namespace Lightpath

namespace Element

/-- An interface is kept with all members of its configuration and a description. -/
theorem get?_held {description : String} {r : RenderedResource} {members : List (String × Json)}
    (isInterface : r.isConnection = false) (config : r.config = Json.ofMembers members)
    {name : String} (other : name ≠ "description")
    : (held description r).get? name = members.reverse.lookup name := by
  have described
      : held description r
        = .object (Keyed.insert "description" (.string description) (Keyed.ofList members)) := by
    simp [held, isInterface, stored, config, Json.ofMembers]
  rw [described, Json.get?, Keyed.lookup_insert, if_neg other, Keyed.lookup_ofList]

end Element

namespace PlannedResource.Matches

variable {description : String}

/-- The members that every interface may have beside the container of its type. -/
def commonMembers
    : List String :=
  ["name", "type", "administrative-state", "operational-state", "supporting-circuit-pack-name",
    "supporting-port", "supporting-interface-list", "description"]

/-- An interface matches as planned if the content of its container is covered. -/
theorem interface {name type container listKey : String} {kind : ResourceKind} {port : Port}
    {supporting : Option String} {expected stored : List (String × Json)}
    (listed : kind.listKey = listKey) (noConnection : kind ≠ .connection)
    (apart : container ∉ commonMembers)
    (covered : Json.covers (Json.ofMembers expected) (Json.ofMembers stored) = true)
    : (Plan.interface name kind type port supporting container expected).Matches description
        (Renderer.interface name listKey type port supporting container stored) := by
  subst listed
  let common :=
    [("name", Json.string name),
      ("type", .string ("org-openroadm-interfaces:" ++ type)),
      ("administrative-state", .string "inService"),
      ("operational-state", .string "inService"),
      ("supporting-circuit-pack-name", .string port.circuitPack),
      ("supporting-port", .string port.supportingPort)]
    ++ supporting.toList.map fun s => ("supporting-interface-list", Json.ofStrings [s])
  let rendered := Renderer.interface name kind.listKey type port supporting container stored
  have isInterface : rendered.isConnection = false := by
    cases kind <;> first | rfl | exact absurd rfl noConnection
  have config
      : rendered.config = Json.ofMembers (common ++ [(container, Json.ofMembers stored)]) := by
    cases supporting <;> rfl
  have restated (key : String) (v : Json) (isCommon : key ∈ commonMembers)
      (named : key ≠ "description") (found : common.reverse.lookup key = some v)
      (plain : v.isObject = false)
      : ∃ w, (Element.held description rendered).get? key = some w ∧ Json.covers v w = true := by
    refine ⟨v, ?_, Json.covers_self plain⟩
    have other : key ≠ container := fun same => apart (same ▸ isCommon)
    rw [Element.get?_held isInterface config named, List.reverse_append, List.reverse_singleton,
      List.singleton_append, Keyed.lookup_cons, if_neg other, found]
  have contained
      : ∃ w, (Element.held description rendered).get? container = some w
          ∧ Json.covers (Json.ofMembers expected) w = true := by
    refine ⟨_, ?_, covered⟩
    have named : container ≠ "description" := fun same => apart (same ▸ by decide)
    rw [Element.get?_held isInterface config named, List.reverse_append, List.reverse_singleton,
      List.singleton_append, Keyed.lookup_cons, if_pos rfl]
  refine ⟨rfl, rfl, Json.isSubset_ofMembers ?_⟩
  cases supporting with
  | none =>
      simp only [List.filterMap_cons, List.filterMap_nil, Option.map_some, Option.map_none,
        List.forall_mem_cons, List.not_mem_nil, false_implies, implies_true, and_true]
      refine ⟨?_, ?_, ?_, ?_, ?_, contained⟩ <;>
        exact restated _ _ (by decide) (by decide) rfl rfl
  | some under =>
      simp only [List.filterMap_cons, List.filterMap_nil, Option.map_some,
        List.forall_mem_cons, List.not_mem_nil, false_implies, implies_true, and_true]
      refine ⟨?_, ?_, ?_, ?_, ?_, ?_, contained⟩ <;>
        exact restated _ _ (by decide) (by decide) rfl rfl

theorem ethernet (name : String) (port : Port) (speed : Nat)
    : (Plan.ethernet name port speed).Matches description (Renderer.ethernet name port speed) :=
  interface rfl (by decide) (by decide) (Json.covers_restated (.cons rfl rfl .nil))

theorem dataUnit {name supporting : String} {port : Port} {expected stored : List (String × Json)}
    (covered : Json.covers (Json.ofMembers expected) (Json.ofMembers stored) = true)
    : (Plan.dataUnit name port supporting expected).Matches description
        (Renderer.dataUnit name port supporting stored) :=
  interface rfl (by decide) (by decide) covered

theorem transportUnit {name : String} {port : Port} {supporting : Option String}
    {expected stored : List (String × Json)}
    (covered : Json.covers (Json.ofMembers expected) (Json.ofMembers stored) = true)
    : (Plan.transportUnit name port supporting expected).Matches description
        (Renderer.interface name "otu-interface-id" "otnOtu" port supporting
          "org-openroadm-otn-otu-interfaces:otu" stored) :=
  interface rfl (by decide) (by decide) covered

/-- An interface of the optical layer matches as planned if its content is restated. -/
theorem opticalChannel {name type container : String} {port : Port} {supporting : Option String}
    {expected stored : List (String × Json)} (apart : container ∉ commonMembers)
    (restated : Json.Restated stored expected)
    : (Plan.interface name .opticalChannel type port supporting container expected).Matches
        description
        (Renderer.interface name "och-interface-id" type port supporting container stored) :=
  interface rfl (by decide) apart (Json.covers_restated restated)

-----------------------------------------------------------------------------------------
-- The line side
-----------------------------------------------------------------------------------------

theorem wholeLine (port : Port)
    : List.Forall₂ (PlannedResource.Matches description) (Plan.wholeStack port .g100)
        (Renderer.wholeLine port) := by
  have transport : ResourceName.transportUnit port.name .g100 = port.name ++ "-OTU" := rfl
  have unit : ResourceName.dataUnit port.name .g100 = port.name ++ "-ODU4" := rfl
  rw [Plan.wholeStack, Renderer.wholeLine, transport, unit]
  refine .cons (transportUnit ?transport) (.cons (dataUnit ?unit) .nil)
  case transport => exact Json.covers_restated (.cons rfl rfl (.cons rfl rfl .nil))
  case unit =>
    exact Json.covers_restated (.cons rfl rfl (.cons rfl rfl (.cons rfl rfl .nil)))

theorem slicedLine (spectrum : Spectrum) (port : Port) {rate : SignalRate} {slices : Nat}
    (sliced : rate.slices? = some slices)
    : List.Forall₂ (PlannedResource.Matches description)
        (Plan.slicedStack spectrum port rate slices)
        (Renderer.slicedLine port slices (Renderer.requested spectrum rate.modulation)) := by
  have word : toString (slices * 100) ++ "G" = rate.word := by
    cases rate <;> cases sliced <;> rfl
  have fec : Plan.commonWord rate.errorCorrection = "org-openroadm-common-types:ofec" := by
    cases rate <;> cases sliced <;> rfl
  have signal
      : port.name ++ "-" ++ spectrum.text = ResourceName.signal port.name spectrum :=
    rfl
  have group
      : port.name ++ "-OTSIGROUP-" ++ rate.word = ResourceName.signalGroup port.name rate :=
    rfl
  have transport
      : port.name ++ "-OTUC" ++ toString slices = ResourceName.transportUnit port.name rate := by
    rw [ResourceName.transportUnit, sliced]
  have unit
      : port.name ++ "-ODUC" ++ toString slices = ResourceName.dataUnit port.name rate := by
    rw [ResourceName.dataUnit, sliced]
  rw [Renderer.slicedLine, Plan.slicedStack]
  simp only [Renderer.requested, word, signal, group, transport, unit, fec]
  refine .cons (opticalChannel (by decide) ?signal) (.cons (opticalChannel (by decide) ?group)
    (.cons (transportUnit ?transport) (.cons (dataUnit ?unit) .nil)))
  case signal =>
    exact .cons rfl rfl (.cons rfl rfl (.cons rfl rfl (.cons rfl rfl (.cons rfl rfl .nil))))
  case group => exact .cons rfl rfl (.cons rfl rfl .nil)
  case transport => exact Json.covers_restated (.cons rfl rfl (.cons rfl rfl .nil))
  case unit =>
    exact Json.covers_restated
      (.cons rfl rfl (.cons rfl rfl (.cons rfl rfl (.cons rfl rfl .nil))))

theorem line (spectrum : Spectrum) (port : Port) (rate : SignalRate)
    : List.Forall₂ (PlannedResource.Matches description) (Plan.networkStack spectrum port rate)
        (Renderer.line port rate (Renderer.requested spectrum rate.modulation)) := by
  cases rate with
  | g100 => exact wholeLine port
  | g200 => exact slicedLine spectrum port rfl
  | g300 => exact slicedLine spectrum port rfl
  | g400 => exact slicedLine spectrum port rfl

-----------------------------------------------------------------------------------------
-- Client services
-----------------------------------------------------------------------------------------

/-- The slots of a client are covered by themselves. -/
theorem covers_allocation (rate : SignalRate) (kind : ClientKind) (position : Nat)
    : let allocation := Plan.allocation rate (position + 1) (Plan.slotList rate kind position)
      Json.covers allocation allocation = true := by
  rw [Plan.allocation, Plan.slotList]
  cases rate.isSliced <;>
    exact Json.covers_restated (.cons rfl rfl (.cons rfl rfl .nil))

theorem clientService (network : Port) (rate : SignalRate) (client : Port) (kind : ClientKind)
    (position : Nat)
    : List.Forall₂ (PlannedResource.Matches description)
        (Plan.clientResources network rate client kind (kind.gbps * 1000) (position + 1)
          (Plan.slotList rate kind position))
        (Renderer.clientRendering network rate client kind position).resources := by
  have eth
      : client.name ++ "-" ++ Renderer.clientEnding kind
        = ResourceName.clientEthernet client.name kind := by
    cases kind <;>
      simp [Renderer.clientEnding, ResourceName.clientEthernet, ← String.toList_inj]
  have unit
      : client.name ++ "-" ++ kind.dataUnit = ResourceName.clientDataUnit client.name kind :=
    rfl
  have tributary
      : network.name ++ "-" ++ kind.dataUnit ++ "-" ++ client.name
        = ResourceName.tributary network.name kind client.name :=
    rfl
  have parent : Renderer.parentName network rate = ResourceName.dataUnit network.name rate := by
    cases rate <;>
      simp [Renderer.parentName, ResourceName.dataUnit, SignalRate.slices?,
        ← String.toList_inj] <;>
        decide
  rw [Renderer.clientRendering, Plan.clientResources]
  simp only [eth, unit, tributary, parent]
  refine .cons (ethernet _ _ _) (.cons (dataUnit ?unit) (.cons (dataUnit ?tributary) .nil))
  case unit =>
    exact Json.covers_restated (.cons rfl rfl (.cons rfl rfl (.cons rfl rfl .nil)))
  case tributary =>
    exact Json.covers_restated (.cons rfl rfl (.cons rfl rfl (.cons rfl rfl
      (.nested rfl (covers_allocation rate kind position) .nil))))

-----------------------------------------------------------------------------------------
-- Paths through a roadm
-----------------------------------------------------------------------------------------

theorem roadm (ctx : PlanContext) (source destination degree drop : Port) (modulation : String)
    : List.Forall₂ (PlannedResource.Matches description)
        [Plan.mediaChannel ctx.spectrum degree,
          Plan.networkChannel ctx.spectrum ctx.spectrum.widthJson degree
            (some (ResourceName.mediaChannel degree.name ctx.spectrum)),
          Plan.networkChannel ctx.spectrum ctx.spectrum.widthJson drop none,
          Plan.crossConnection ctx.spectrum source.name destination.name]
        (Renderer.roadm source destination degree drop
          (Renderer.requested ctx.spectrum modulation)).resources := by
  refine .cons ?media (.cons ?channel (.cons ?drop (.cons ?connection .nil)))
  case media => exact opticalChannel (by decide) (.cons rfl rfl (.cons rfl rfl .nil))
  case channel => exact opticalChannel (by decide) (.cons rfl rfl (.cons rfl rfl .nil))
  case drop => exact opticalChannel (by decide) (.cons rfl rfl (.cons rfl rfl .nil))
  case connection =>
    refine ⟨rfl, rfl, Json.isSubset_restated ?_⟩
    have ends (name value : String)
        : Json.covers (Json.ofMembers [(name, .string value)])
            (Json.ofMembers [(name, .string value)]) = true :=
      Json.covers_restated (.cons (by simp) rfl .nil)
    exact .cons rfl rfl (.cons rfl rfl (.nested rfl (ends _ _) (.nested rfl (ends _ _) .nil)))

end PlannedResource.Matches

end Lightpath
