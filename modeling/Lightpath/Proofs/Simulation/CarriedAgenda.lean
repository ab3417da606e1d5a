import Lightpath.Proofs.Simulation.Agreement

/-!
Agendas of which every step is carried by an element: the plans of a clean table whose network ports
can be served. Nothing is passed over there, and every plan is rendered as it expects.
-/

namespace Lightpath

namespace Element

variable {e : Element}

theorem carried_cycle {plan : Plan} (carries : e.Carries plan)
    : ∀ step ∈ Agenda.cycle plan, step.Carried e := by
  simp only [Agenda.cycle, List.forall_mem_cons, List.not_mem_nil, false_implies, implies_true,
    and_true]
  exact ⟨carries, carries⟩

section Ports

variable {ctx : PlanContext} (named : ctx.node = e.node)
include named

/-- A network port that can be served at a rate is carried at that rate. -/
theorem carried_rateSteps {record : NetworkRecord} {first : Port} {rest : List Port}
    (known : e.table.port? record.port.name = some record.port)
    (role : record.port.role? = some .network) (linked : record.clients = first :: rest)
    (clientsKnown : ∀ c ∈ record.clients, e.table.port? c.name = some c) {rate : SignalRate}
    (serves : e.Serves record rate)
    : ∀ step ∈ Agenda.rateSteps ctx record first rate, step.Carried e := by
  obtain ⟨rfl, fits, paired⟩ := serves
  rw [Agenda.rateSteps]
  cases service : (PortClass.ofNetwork record).clientKind? with
  | none =>
      obtain ⟨head, isHead, client⟩ := paired ((clientKind?_ofNetwork record).mp service)
      rw [linked] at isHead
      cases isHead
      have firstKnown := clientsKnown first (by simp [linked])
      exact carried_cycle (path_carried (pair_renders named known firstKnown role client _) rfl)
  | some kind =>
      have line : e.Carries (.optical ctx record.port none (e.renderer.rateFor record.port)) :=
        path_carried (line_renders named known role _) rfl
      have services
          : ∀ step ∈ (record.clients.mapIdx (Agenda.clientSteps ctx record.port
                (e.renderer.rateFor record.port) kind)).flatten,
              step.Carried e := by
        intro step member
        obtain ⟨steps, inSteps, within⟩ := List.mem_flatten.mp member
        obtain ⟨position, bound, rfl⟩ := List.mem_mapIdx.mp inSteps
        have room : position < kind.capacity (e.renderer.rateFor record.port) :=
          Nat.lt_of_lt_of_le bound (fits kind service)
        have clientKnown := clientsKnown _ (List.getElem_mem bound)
        rw [Agenda.clientSteps] at within
        cases planned
            : Plan.client? ctx record.port (e.renderer.rateFor record.port)
                record.clients[position] kind position with
        | none => exact absurd room (Plan.client?_eq_none planned)
        | some plan =>
            have isClient := Plan.isClient planned
            rw [planned] at within
            exact carried_cycle (client_carried named known clientKnown isClient) step within
      -- The client services stand between the bring-up and the tear-down of the line.
      intro step member
      rcases List.mem_append.mp member with before | atEnd
      · rcases List.mem_append.mp before with atStart | between
        · obtain rfl := List.mem_singleton.mp atStart
          exact line
        · exact services step between
      · obtain rfl := List.mem_singleton.mp atEnd
        exact line

theorem carried_riskGroupSteps {degree drop : Port}
    (known : e.table.port? degree.name = some degree) (role : degree.role? = some .degree)
    (dropKnown : e.table.port? drop.name = some drop) (dropRole : drop.role? = some .riskGroup)
    : ∀ step ∈ Agenda.riskGroupSteps ctx degree drop, step.Carried e := by
  intro step member
  rcases List.mem_append.mp member with added | dropped
  · exact carried_cycle (add_carried named known role dropKnown dropRole) step added
  · exact carried_cycle (drop_carried named known role dropKnown dropRole) step dropped

end Ports

-----------------------------------------------------------------------------------------
-- Agendas of clean tables
-----------------------------------------------------------------------------------------

section Runs

variable {params : RunParameters} (clean : (Reconstruction.ofTable e.table).isClean = true)
include clean

/-- The agenda of a clean table is carried by its element if every network port can be served at
every rate of the run.
-/
theorem carried_ofTopology (named : params.node = e.node)
    (serves
      : ∀ record ∈ (Reconstruction.ofTable e.table).topology.networks,
          ∀ rate ∈ params.exercisedRates record.port, e.Serves record rate)
    : ∀ step ∈ Agenda.ofTopology params (Reconstruction.ofTable e.table).topology,
        step.Carried e := by
  have onNode : (Agenda.context params).node = e.node := named
  intro step member
  rcases List.mem_append.mp member with networks | degrees
  · obtain ⟨record, inRecords, within⟩ := List.mem_flatMap.mp networks
    obtain ⟨row, role, linked, clients⟩ := Reconstruction.network_of_clean clean inRecords
    have known := Reconstruction.port?_of_clean clean row
    have clientsKnown := fun c isClient => Reconstruction.port?_of_clean clean (clients c isClient)
    cases isLinked : record.clients with
    | nil => exact absurd isLinked linked
    | cons first rest =>
        rw [Agenda.networkSteps_of_linked params isLinked] at within
        obtain ⟨rate, exercised, inSteps⟩ := List.mem_flatMap.mp within
        exact carried_rateSteps onNode known role isLinked clientsKnown
          (serves record inRecords rate exercised) step inSteps
  · obtain ⟨record, inRecords, within⟩ := List.mem_flatMap.mp degrees
    obtain ⟨row, role, linked, groups⟩ := Reconstruction.degree_of_clean clean inRecords
    have known := Reconstruction.port?_of_clean clean row
    rw [Agenda.degreeSteps, if_neg (mt List.isEmpty_iff.mp linked)] at within
    obtain ⟨drop, isGroup, inSteps⟩ := List.mem_flatMap.mp within
    obtain ⟨dropRow, dropRole⟩ := groups drop isGroup
    exact carried_riskGroupSteps onNode known role (Reconstruction.port?_of_clean clean dropRow)
      dropRole step inSteps

omit clean in
theorem exists_bringUp_networkSteps {record : NetworkRecord} (linked : record.clients ≠ [])
    : ∃ plan, Step.bringUp plan ∈ Agenda.networkSteps params record := by
  obtain ⟨rate, exercised⟩ :=
    List.exists_mem_of_ne_nil _ (params.exercisedRates_ne_nil record.port)
  cases clients : record.clients with
  | nil => exact absurd clients linked
  | cons first rest =>
      rw [Agenda.networkSteps_of_linked params clients]
      have started
          : ∃ plan,
              Step.bringUp plan ∈ Agenda.rateSteps (Agenda.context params) record first rate := by
        rw [Agenda.rateSteps]
        cases (PortClass.ofNetwork record).clientKind? with
        | none => exact ⟨_, List.mem_cons_self⟩
        | some kind => exact ⟨_, List.mem_append_left _ List.mem_cons_self⟩
      obtain ⟨plan, member⟩ := started
      exact ⟨plan, List.mem_flatMap.mpr ⟨rate, exercised, member⟩⟩

omit clean in
theorem exists_bringUp_degreeSteps {record : DegreeRecord} (linked : record.riskGroups ≠ [])
    : ∃ plan, Step.bringUp plan ∈ Agenda.degreeSteps params record := by
  obtain ⟨drop, isGroup⟩ := List.exists_mem_of_ne_nil _ linked
  rw [Agenda.degreeSteps, if_neg (mt List.isEmpty_iff.mp linked)]
  exact ⟨_, List.mem_flatMap.mpr ⟨drop, isGroup, List.mem_append_left _ List.mem_cons_self⟩⟩

/-- Something is brought up for a clean table that has any network port or degree. -/
theorem exists_bringUp_of_clean
    (filled : (Reconstruction.ofTable e.table).topology.records ≠ [])
    : ∃ plan,
        .bringUp plan ∈ Agenda.ofTopology params (Reconstruction.ofTable e.table).topology := by
  obtain ⟨record, inRecords⟩ := List.exists_mem_of_ne_nil _ filled
  cases record with
  | network record =>
      have isNetwork : record ∈ (Reconstruction.ofTable e.table).topology.networks :=
        List.mem_filterMap.mpr ⟨_, inRecords, rfl⟩
      obtain ⟨-, -, linked, -⟩ := Reconstruction.network_of_clean clean isNetwork
      obtain ⟨plan, member⟩ := exists_bringUp_networkSteps linked
      exact ⟨plan, List.mem_append_left _ (List.mem_flatMap.mpr ⟨record, isNetwork, member⟩)⟩
  | degree record =>
      have isDegree : record ∈ (Reconstruction.ofTable e.table).topology.degrees :=
        List.mem_filterMap.mpr ⟨_, inRecords, rfl⟩
      obtain ⟨-, -, linked, -⟩ := Reconstruction.degree_of_clean clean isDegree
      obtain ⟨plan, member⟩ := exists_bringUp_degreeSteps linked
      exact ⟨plan, List.mem_append_right _ (List.mem_flatMap.mpr ⟨record, isDegree, member⟩)⟩

end Runs

end Element

end Lightpath
