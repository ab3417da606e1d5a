import Lightpath.Service.ClientPath
import Lightpath.Service.OpticalPath

/-!
What plans promise. Every plan names its resources apart, whatever its ports are called: names
are told apart by their last character, or by how often they have a character that port names
and numbers share evenly. A client has a plan exactly within the capacity.
-/

namespace Lightpath

namespace Plan

/-- No two interfaces of a plan share a name, and no two of its cross-connections. -/
def Distinct (p : Plan)
    : Prop :=
  p.resources.Pairwise fun a b => a.isConnection = b.isConnection → a.name ≠ b.name

end Plan

namespace ResourceName

-----------------------------------------------------------------------------------------
-- Telling texts apart
-----------------------------------------------------------------------------------------

theorem ne_of_count {a b : String} (c : Char) (differs : a.toList.count c ≠ b.toList.count c)
    : a ≠ b := by
  rintro rfl
  exact differs rfl

theorem ne_of_last {a b : String} (differs : a.toList.getLast? ≠ b.toList.getLast?)
    : a ≠ b := by
  rintro rfl
  exact differs rfl

/-- A number has none of the characters that are no digits. -/
theorem count_toDigits {c : Char} (noDigit : c.isDigit = false) (n : Nat)
    : (Nat.toDigits 10 n).count c = 0 := by
  refine List.count_eq_zero.mpr ?_
  intro member
  have digit := Nat.isDigit_of_mem_toDigits (by decide) (by decide) member
  simp [digit] at noDigit

/-- The last character of a number is a digit. -/
theorem exists_last_toDigits (n : Nat)
    : ∃ c, (Nat.toDigits 10 n).getLast? = some c ∧ c.isDigit = true := by
  have filled : Nat.toDigits 10 n ≠ [] := Nat.toDigits_ne_nil
  refine ⟨_, List.getLast?_eq_some_getLast filled, ?_⟩
  exact Nat.isDigit_of_mem_toDigits (by decide) (by decide) (List.getLast_mem filled)

/-- The text of a range has one colon. -/
theorem count_colon_text (spectrum : Spectrum)
    : spectrum.text.toList.count ':' = 1 := by
  simp [Spectrum.text, List.count_append, count_toDigits]

-----------------------------------------------------------------------------------------
-- The names of one plan
-----------------------------------------------------------------------------------------

/-- A signal bears no name of another line resource, which have no colon after the port. -/
theorem signal_ne_line (port : String) (spectrum : Spectrum) (rate : SignalRate)
    : signal port spectrum ≠ signalGroup port rate
      ∧ signal port spectrum ≠ transportUnit port rate
      ∧ signal port spectrum ≠ dataUnit port rate := by
  refine ⟨ne_of_count ':' ?_, ne_of_count ':' ?_, ne_of_count ':' ?_⟩ <;>
    cases rate <;>
      simp [signal, signalGroup, transportUnit, dataUnit, SignalRate.slices?, SignalRate.word,
        List.count_append, count_colon_text, count_toDigits]

/-- A signal bears the name of no Ethernet interface: it ends in a digit. -/
theorem signal_ne_ethernet (port client : String) (spectrum : Spectrum)
    : signal port spectrum ≠ ethernet client := by
  refine ne_of_last ?_
  obtain ⟨c, last, digit⟩ := exists_last_toDigits spectrum.highest
  intro same
  have letter : c = 'T' := by
    simpa [signal, ethernet, Spectrum.text, List.getLast?_append, List.getLast?_cons, last]
      using same
  simp [letter] at digit

/-- The other line resources have names of their own, and none of an Ethernet interface. -/
theorem line_distinct (port client : String) (rate : SignalRate)
    : signalGroup port rate ≠ transportUnit port rate
      ∧ signalGroup port rate ≠ dataUnit port rate
      ∧ transportUnit port rate ≠ dataUnit port rate
      ∧ signalGroup port rate ≠ ethernet client
      ∧ transportUnit port rate ≠ ethernet client
      ∧ dataUnit port rate ≠ ethernet client := by
  refine ⟨?_, ?_, ?_, ne_of_last ?_, ne_of_last ?_, ne_of_last ?_⟩ <;>
    cases rate <;>
      simp [signalGroup, transportUnit, dataUnit, ethernet, SignalRate.slices?,
        SignalRate.word, SignalRate.gbps, ← String.toList_inj] <;> decide

theorem client_distinct (network client : String) (kind : ClientKind)
    : clientEthernet client kind ≠ clientDataUnit client kind
      ∧ clientEthernet client kind ≠ tributary network kind client
      ∧ clientDataUnit client kind ≠ tributary network kind client := by
  refine ⟨ne_of_count 'U' ?_, ne_of_count 'U' ?_, ne_of_count '-' ?_⟩ <;>
    cases kind <;>
      simp [clientEthernet, clientDataUnit, tributary, ClientKind.gbps, ClientKind.dataUnit,
        List.count_append, count_toDigits] <;> omega

theorem channel_distinct {degree drop : String} (apart : degree ≠ drop) (spectrum : Spectrum)
    : mediaChannel degree spectrum ≠ networkChannel degree spectrum
      ∧ mediaChannel degree spectrum ≠ networkChannel drop spectrum
      ∧ networkChannel degree spectrum ≠ networkChannel drop spectrum := by
  refine ⟨ne_of_count 'n' ?_, ?_, ?_⟩
  · simp [mediaChannel, networkChannel, List.count_append]
  · intro same
    have fronts : degree.toList ++ ['-'] = drop.toList ++ ['-', 'n'] := by
      have whole := congrArg String.toList same
      simp only [mediaChannel, networkChannel, String.toList_append] at whole
      have cut := List.append_cancel_right whole
      have tails
          : (degree.toList ++ ['-']) ++ ['m', 'c', '-']
            = (drop.toList ++ ['-', 'n']) ++ ['m', 'c', '-'] := by
        simpa using cut
      exact List.append_cancel_right tails
    have last := congrArg List.getLast? fronts
    simp at last
  · simpa [networkChannel, ← String.toList_inj] using apart

end ResourceName

namespace Plan

-----------------------------------------------------------------------------------------
-- Plans
-----------------------------------------------------------------------------------------

theorem optical_distinct (ctx : PlanContext) (network : Port) (client : Option Port)
    (rate : SignalRate)
    : (optical ctx network client rate).Distinct := by
  have signals := ResourceName.signal_ne_line network.name ctx.spectrum rate
  cases client with
  | none =>
      have lines := ResourceName.line_distinct network.name "" rate
      cases rate <;>
        simp_all [Distinct, optical, opticalOf, networkStack, wholeStack, slicedStack, transportUnit,
          dataUnit, interface, SignalRate.slices?]
  | some client =>
      have lines := ResourceName.line_distinct network.name client.name rate
      have ends := ResourceName.signal_ne_ethernet network.name client.name ctx.spectrum
      cases rate <;>
        simp_all [Distinct, optical, opticalOf, networkStack, wholeStack, slicedStack, transportUnit,
          dataUnit, ethernet, interface, SignalRate.slices?]

/-- What a plan of a client service holds: it is within the capacity, and its parts are those
of the client at its position.
-/
structure IsClient (plan : Plan) (ctx : PlanContext) (network : Port) (rate : SignalRate)
    (client : Port) (kind : ClientKind) (position : Nat)
    : Prop where
  fits : position < kind.capacity rate
  rpc : plan.rpc = clientRpc
  node : plan.node = ctx.node
  primary : plan.primary = ResourceName.clientEthernet client.name kind
  resources
    : plan.resources = clientResources network rate client kind (kind.gbps * 1000) (position + 1)
        (slotList rate kind position)
  members
    : plan.members = clientMembers ctx network client kind (position + 1)
        ++ slotMembers rate (slotList rate kind position)

section Clients

variable {ctx : PlanContext} {network : Port} {rate : SignalRate} {client : Port}
  {kind : ClientKind} {position : Nat}

theorem isClient {plan : Plan}
    (planned : client? ctx network rate client kind position = some plan)
    : plan.IsClient ctx network rate client kind position := by
  rw [client?] at planned
  split at planned
  · rename_i fits
    cases planned
    exact ⟨fits, rfl, rfl, rfl, rfl, rfl⟩
  · cases planned

/-- Past the capacity there is no plan of a client service. -/
theorem client?_eq_none
    (unplanned : client? ctx network rate client kind position = none)
    : ¬ position < kind.capacity rate := by
  intro fits
  rw [client?, if_pos fits] at unplanned
  cases unplanned

theorem IsClient.distinct {plan : Plan}
    (isClient : plan.IsClient ctx network rate client kind position)
    : plan.Distinct := by
  obtain ⟨first, second, third⟩ :=
    ResourceName.client_distinct network.name client.name kind
  rw [Distinct, isClient.resources]
  simp [clientResources, dataUnit, ethernet, interface, first, second, third]

end Clients

/-- A plan of a path through a roadm names its resources apart, as its two ends are. -/
theorem roadm_distinct (ctx : PlanContext) {source destination : Port} (degreeIsSource : Bool)
    (apart : source.name ≠ destination.name)
    : (roadm ctx source destination degreeIsSource).Distinct := by
  cases degreeIsSource with
  | true =>
      obtain ⟨first, second, third⟩ := ResourceName.channel_distinct apart ctx.spectrum
      simp [Distinct, roadm, roadmOf, mediaChannel, networkChannel, crossConnection, interface,
        PlannedResource.isConnection, first, second, third]
  | false =>
      obtain ⟨first, second, third⟩ := ResourceName.channel_distinct (Ne.symm apart) ctx.spectrum
      simp [Distinct, roadm, roadmOf, mediaChannel, networkChannel, crossConnection, interface,
        PlannedResource.isConnection, first, second, third]

end Plan

end Lightpath
