import Lightpath.Proofs.Lifecycle.Observation

/-!
The rates that an agenda exercises ports at, and the ports that it passes over with a finding: those
that nothing is linked to, and the clients past the capacity of their network port. There is no
other finding in an agenda.
-/

namespace Lightpath

/-- A client that its network port has no slots for at a rate. -/
structure PastCapacity (record : NetworkRecord) (rate : SignalRate) (kind : ClientKind)
    (client : Port)
    : Prop where
  carried : (PortClass.ofNetwork record).clientKind? = some kind
  beyond : ∃ i, record.clients[i]? = some client ∧ kind.capacity rate ≤ i

/-- The rates that a port is exercised at: those that the run asks for; if it asks for none, those
that the port is capable of; if that is none either, the lowest.
-/
def RunParameters.exercisedRates (params : RunParameters) (port : Port)
    : List SignalRate :=
  match params.rates, SignalRate.ofCapabilities port with
  | asked :: others, _ => asked :: others
  | [], capable :: others => capable :: others
  | [], [] => [.g100]

theorem RunParameters.exercisedRates_ne_nil (params : RunParameters) (port : Port)
    : params.exercisedRates port ≠ [] := by
  unfold exercisedRates
  split <;> simp

namespace Agenda

theorem ratesFor_eq (params : RunParameters) (port : Port)
    : ratesFor params port = params.exercisedRates port := by
  unfold ratesFor RunParameters.exercisedRates
  cases params.rates with
  | cons asked others => rfl
  | nil => cases SignalRate.ofCapabilities port <;> rfl

/-- A network port with clients is run at each rate that it is exercised at. -/
theorem networkSteps_of_linked (params : RunParameters) {record : NetworkRecord} {first : Port}
    {rest : List Port} (linked : record.clients = first :: rest)
    : networkSteps params record
      = (params.exercisedRates record.port).flatMap
          (rateSteps (context params) record first) := by
  rw [networkSteps, linked, ← ratesFor_eq]

theorem note_not_mem_cycle (finding : Finding) (plan : Plan)
    : Step.note finding ∉ cycle plan := by
  simp [cycle]

/-- The steps of a client note it if it is past the capacity, and nothing else. -/
theorem note_mem_clientSteps (ctx : PlanContext) (network : Port) (rate : SignalRate)
    (kind : ClientKind) (position : Nat) (client : Port) (finding : Finding)
    : Step.note finding ∈ clientSteps ctx network rate kind position client
      ↔ kind.capacity rate ≤ position ∧ finding = overCapacity network rate client kind := by
  by_cases within : position < kind.capacity rate
  · simp [clientSteps, Plan.client?, within, note_not_mem_cycle, Nat.not_le.mpr within]
  · simp [clientSteps, Plan.client?, within, Nat.le_of_not_lt within]

/-- The steps for a network port at a rate note the clients past the capacity. -/
theorem note_mem_rateSteps (ctx : PlanContext) (record : NetworkRecord) (first : Port)
    (rate : SignalRate) (finding : Finding)
    : Step.note finding ∈ rateSteps ctx record first rate
      ↔ ∃ kind client,
          PastCapacity record rate kind client
          ∧ finding = overCapacity record.port rate client kind := by
  unfold rateSteps
  cases known : (PortClass.ofNetwork record).clientKind? with
  | none =>
      refine iff_of_false (note_not_mem_cycle _ _) ?_
      rintro ⟨kind, client, past, _⟩
      simp [past.carried] at known
  | some kind =>
      simp only [List.mem_append, List.mem_singleton, reduceCtorEq, false_or, or_false,
        List.mem_flatten, List.mem_mapIdx]
      constructor
      · rintro ⟨steps, ⟨i, bound, rfl⟩, noted⟩
        obtain ⟨past, same⟩ := (note_mem_clientSteps ..).mp noted
        exact ⟨kind, _, ⟨known, i, List.getElem?_eq_getElem bound, past⟩, same⟩
      · rintro ⟨kind', client, ⟨known', i, found, past⟩, same⟩
        obtain rfl : kind = kind' := Option.some.inj (known.symm.trans known')
        obtain ⟨bound, rfl⟩ := List.getElem?_eq_some_iff.mp found
        exact ⟨_, ⟨i, bound, rfl⟩, (note_mem_clientSteps ..).mpr ⟨past, same⟩⟩

theorem note_mem_networkSteps (params : RunParameters) (record : NetworkRecord)
    (finding : Finding)
    : Step.note finding ∈ networkSteps params record
      ↔ (record.clients = [] ∧ finding = unlinked (.ofNetwork record) record.port)
        ∨ ∃ rate ∈ params.exercisedRates record.port,
            ∃ kind client,
              PastCapacity record rate kind client
              ∧ finding = overCapacity record.port rate client kind := by
  cases linked : record.clients with
  | nil =>
      simp only [networkSteps, linked, List.mem_singleton, Step.note.injEq, true_and]
      refine (or_iff_left ?_).symm
      rintro ⟨rate, _, kind, client, ⟨_, i, found, _⟩, _⟩
      simp [linked] at found
  | cons first rest =>
      simp only [networkSteps_of_linked params linked, List.mem_flatMap, note_mem_rateSteps,
        reduceCtorEq, false_and, false_or]

/-- The steps for a degree note it if nothing is linked to it. -/
theorem note_mem_degreeSteps (params : RunParameters) (record : DegreeRecord)
    (finding : Finding)
    : Step.note finding ∈ degreeSteps params record
      ↔ record.riskGroups = [] ∧ finding = unlinked .degree record.port := by
  unfold degreeSteps
  cases linked : record.riskGroups with
  | nil => simp
  | cons drop rest => simp [riskGroupSteps, cycle]

/-- An agenda notes the ports without a partner and the clients past the capacity. -/
theorem note_mem_ofTopology (params : RunParameters) (topology : Topology) (finding : Finding)
    : Step.note finding ∈ ofTopology params topology
      ↔ (∃ record ∈ topology.networks,
          (record.clients = [] ∧ finding = unlinked (.ofNetwork record) record.port)
          ∨ ∃ rate ∈ params.exercisedRates record.port,
              ∃ kind client,
                PastCapacity record rate kind client
                ∧ finding = overCapacity record.port rate client kind)
        ∨ ∃ record ∈ topology.degrees,
            record.riskGroups = [] ∧ finding = unlinked .degree record.port := by
  simp only [ofTopology, List.mem_append, List.mem_flatMap, note_mem_networkSteps,
    note_mem_degreeSteps]

theorem note_mem_tasks (params : RunParameters) (topology : Topology) (finding : Finding)
    : Task.note finding ∈ tasks params topology
      ↔ Step.note finding ∈ ofTopology params topology := by
  rw [tasks, List.mem_flatMap]
  constructor
  · rintro ⟨step, member, noted⟩
    cases step with
    | bringUp plan => simp [Step.tasks] at noted
    | tearDown plan => simp [Step.tasks] at noted
    | note other =>
        obtain rfl : finding = other := by simpa [Step.tasks] using noted
        exact member
  · exact fun member => ⟨_, member, by simp [Step.tasks]⟩

/-- What an agenda notes speaks against the check of creations. -/
theorem check_of_note {params : RunParameters} {topology : Topology} {finding : Finding}
    (noted : Task.note finding ∈ tasks params topology)
    : finding.check = .create := by
  rcases (note_mem_ofTopology ..).mp ((note_mem_tasks ..).mp noted) with
    ⟨record, _, ⟨_, rfl⟩ | ⟨rate, _, kind, client, _, rfl⟩⟩ | ⟨record, _, _, rfl⟩ <;> rfl

/-- An agenda notes nothing exactly if every port has a partner and no client is past the
capacity.
-/
theorem forall_note_not_mem (params : RunParameters) (topology : Topology)
    : (∀ finding, Task.note finding ∉ tasks params topology)
      ↔ (∀ record ∈ topology.networks, record.clients ≠ [])
        ∧ (∀ record ∈ topology.degrees, record.riskGroups ≠ [])
        ∧ ∀ record ∈ topology.networks,
            ∀ kind,
              (PortClass.ofNetwork record).clientKind? = some kind
              → ∀ rate ∈ params.exercisedRates record.port,
                  record.clients.length ≤ kind.capacity rate := by
  simp only [note_mem_tasks, note_mem_ofTopology]
  constructor
  · intro none
    refine ⟨fun record member empty => ?_, fun record member empty => ?_,
      fun record member kind known rate exercised => ?_⟩
    · exact none _ (Or.inl ⟨record, member, Or.inl ⟨empty, rfl⟩⟩)
    · exact none _ (Or.inr ⟨record, member, empty, rfl⟩)
    · refine Nat.le_of_not_lt fun bound => ?_
      exact none _ (Or.inl ⟨record, member, Or.inr ⟨rate, exercised, kind, _,
        ⟨known, _, List.getElem?_eq_getElem bound, Nat.le_refl _⟩, rfl⟩⟩)
  · rintro ⟨clients, drops, capacity⟩ finding
      (⟨record, member, ⟨empty, _⟩ | ⟨rate, exercised, kind, client, past, _⟩⟩
        | ⟨record, member, empty, _⟩)
    · exact clients record member empty
    · obtain ⟨i, found, beyond⟩ := past.beyond
      have bound := (List.getElem?_eq_some_iff.mp found).1
      have fits := capacity record member kind past.carried rate exercised
      omega
    · exact drops record member empty

end Agenda

end Lightpath
