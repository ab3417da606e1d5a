import Lightpath.Configuration
import Lightpath.Lifecycle.Agenda

/-!
Plans computed in words of 32 bits. The numbers in a plan are computed once more with each sum,
difference, product and quotient made in words, where a result that is no word is no result at all;
the plan is put together from them as any other is. Client services never leave the words, as the
position of a client is held against the capacity first. The width of a spectrum leaves them at one
place: a spectrum that ends on the highest word passes the checks of a configuration, and its number
of slots cannot be computed.
-/

namespace Lightpath

-----------------------------------------------------------------------------------------
-- Words
-----------------------------------------------------------------------------------------

namespace Word

/-- A number as a word of 32 bits, if it is one. -/
def of? (n : Nat)
    : Option Nat :=
  if n < UInt32.size then some n else none

/-- The sum of two words. -/
def add? (a b : Nat)
    : Option Nat :=
  of? (a + b)

/-- The difference of two words, which has to be none below zero. -/
def sub? (a b : Nat)
    : Option Nat :=
  if b ≤ a then some (a - b) else none

/-- The product of two words. -/
def mul? (a b : Nat)
    : Option Nat :=
  of? (a * b)

/-- The quotient of two words. -/
def div? (a b : Nat)
    : Option Nat :=
  if b = 0 then none else some (a / b)

/-- The remainder of two words. -/
def mod? (a b : Nat)
    : Option Nat :=
  if b = 0 then none else some (a % b)

section

variable {a b : Nat}

theorem of?_of_lt (fits : a < UInt32.size)
    : of? a = some a :=
  if_pos fits

theorem add?_of_lt (fits : a + b < UInt32.size)
    : add? a b = some (a + b) :=
  if_pos fits

theorem sub?_of_le (ordered : b ≤ a)
    : sub? a b = some (a - b) :=
  if_pos ordered

theorem mul?_of_lt (fits : a * b < UInt32.size)
    : mul? a b = some (a * b) :=
  if_pos fits

theorem div?_of_pos (positive : 0 < b)
    : div? a b = some (a / b) :=
  if_neg (Nat.ne_of_gt positive)

theorem mod?_of_pos (positive : 0 < b)
    : mod? a b = some (a % b) :=
  if_neg (Nat.ne_of_gt positive)

end

end Word

-----------------------------------------------------------------------------------------
-- The numbers of a plan
-----------------------------------------------------------------------------------------

namespace Spectrum

/-- The number of slots in words: the one past the highest, less the lowest. -/
def slotsInWords? (s : Spectrum)
    : Option Nat := do
  Word.sub? (← Word.add? s.highest 1) s.lowest

end Spectrum

namespace ClientKind

/-- The capacity in words. -/
def capacityInWords? (kind : ClientKind) (rate : SignalRate)
    : Option Nat := do
  match rate.slices? with
  | some n => Word.div? (← Word.mul? n slicePayload) kind.slicedSlots
  | none => Word.div? wholePayload kind.wholeSlots

end ClientKind

namespace Plan

/-- The optical path on a network port. -/
def opticalInWords? (ctx : PlanContext) (network : Port) (client : Option Port)
    (rate : SignalRate)
    : Option Plan := do
  let speed ← match client with
    | some _ => Word.mul? rate.gbps 1000
    | none => some 0
  let slots ← ctx.spectrum.slotsInWords?
  some (opticalOf ctx network client rate (Spectrum.widthJsonOf slots) speed)

/-- One direction of a path through a roadm. -/
def roadmInWords? (ctx : PlanContext) (source destination : Port) (degreeIsSource : Bool)
    : Option Plan := do
  let slots ← ctx.spectrum.slotsInWords?
  some (roadmOf ctx source destination degreeIsSource (Spectrum.widthJsonOf slots))

/-- The number of a slot of the client at a position, where each client takes as many slots. The
slots of a client are counted from one.
-/
def slotInWords? (perClient position slot : Nat)
    : Option Nat := do
  Word.add? (← Word.mul? position perClient) slot

/-- The slice that a slot counted from one is in, and its place there. -/
def slotTextInWords? (slot : Nat)
    : Option String := do
  let before ← Word.sub? slot 1
  let slice ← Word.add? (← Word.div? before ClientKind.slicePayload) 1
  let place ← Word.add? (← Word.mod? before ClientKind.slicePayload) 1
  some (slotName slice place)

/-- The slots of a client as a list of a document. -/
def slotsInWords? (rate : SignalRate) (kind : ClientKind) (position : Nat)
    : Option Json := do
  if rate.isSliced then
    let slots ← (List.range' 1 kind.slicedSlots).mapM (slotInWords? kind.slicedSlots position)
    some (Json.ofStrings (← slots.mapM slotTextInWords?))
  else
    let slots ← (List.range' 1 kind.wholeSlots).mapM (slotInWords? kind.wholeSlots position)
    some (.array (slots.map .ofNat))

/-- The service of the client at a position on a network port, if the port has slots for it. The
position is any number; it is compared with the capacity once it is a word.
-/
def clientInWords? (ctx : PlanContext) (network : Port) (rate : SignalRate) (client : Port)
    (kind : ClientKind) (position : Nat)
    : Option (Option Plan) := do
  let capacity ← kind.capacityInWords? rate
  match (Word.of? position).filter fun p => p < capacity with
  | none => some none
  | some position =>
      let tributaryPort ← Word.add? position 1
      let slots ← slotsInWords? rate kind position
      let speed ← Word.mul? kind.gbps 1000
      some (some (clientOf ctx network rate client kind speed tributaryPort slots))

end Plan

-----------------------------------------------------------------------------------------
-- Plans of optical paths
-----------------------------------------------------------------------------------------

theorem Spectrum.hasWidth_iff (s : Spectrum)
    : s.hasWidth = true ↔ s.highest + 1 < UInt32.size ∧ s.lowest ≤ s.highest + 1 := by
  simp [hasWidth]

/-- The slots of a spectrum can be counted in words exactly where the spectrum says so. -/
theorem Spectrum.slotsInWords?_eq (s : Spectrum)
    : s.slotsInWords? = if s.hasWidth then some s.slots else none := by
  rw [slotsInWords?]
  by_cases fits : s.highest + 1 < UInt32.size
  · rw [Word.add?_of_lt fits, Option.bind_eq_bind, Option.bind_some]
    by_cases ordered : s.lowest ≤ s.highest + 1
    · rw [Word.sub?_of_le ordered, if_pos (s.hasWidth_iff.mpr ⟨fits, ordered⟩)]
      rfl
    · rw [if_neg fun has => ordered (s.hasWidth_iff.mp has).2]
      exact if_neg ordered
  · rw [if_neg fun has => fits (s.hasWidth_iff.mp has).1, Word.add?, Word.of?, if_neg fits]
    rfl

theorem Spectrum.hasWidth_of_valid {s : Spectrum} (valid : s.isValid = true)
    : s.hasWidth = true ↔ s.highest + 1 < UInt32.size := by
  have ordered : 1 ≤ s.lowest ∧ s.lowest ≤ s.highest := by simpa [isValid] using valid
  rw [hasWidth_iff]
  omega

namespace Plan

section Optical

variable (ctx : PlanContext)

theorem gbps_fits (rate : SignalRate)
    : rate.gbps * 1000 < UInt32.size := by
  cases rate <;> decide

/-- An optical path can be computed in words exactly where the spectrum has a width. -/
theorem opticalInWords?_eq (network : Port) (client : Option Port) (rate : SignalRate)
    : opticalInWords? ctx network client rate
      = if ctx.spectrum.hasWidth then some (optical ctx network client rate) else none := by
  cases client with
  | none =>
      simp only [opticalInWords?, Spectrum.slotsInWords?_eq]
      split <;> rfl
  | some c =>
      simp only [opticalInWords?, Spectrum.slotsInWords?_eq, Word.mul?_of_lt (gbps_fits rate)]
      split <;> rfl

/-- So can a direction of a path through a roadm. -/
theorem roadmInWords?_eq (source destination : Port) (degreeIsSource : Bool)
    : roadmInWords? ctx source destination degreeIsSource
      = if ctx.spectrum.hasWidth then some (roadm ctx source destination degreeIsSource)
        else none := by
  rw [roadmInWords?, Spectrum.slotsInWords?_eq]
  split <;> rfl

end Optical

-----------------------------------------------------------------------------------------
-- Plans of client services
-----------------------------------------------------------------------------------------

theorem mapM_eq_some_map {α β : Type} {f : α → Option β} {g : α → β} {items : List α}
    (each : ∀ a ∈ items, f a = some (g a))
    : items.mapM f = some (items.map g) := by
  induction items with
  | nil => rfl
  | cons a rest ih =>
      obtain ⟨first, later⟩ := List.forall_mem_cons.mp each
      rw [List.mapM_cons, first, ih later]
      rfl

section Client

variable {rate : SignalRate} {kind : ClientKind} {position : Nat}

theorem capacityInWords?_eq (kind : ClientKind) (rate : SignalRate)
    : kind.capacityInWords? rate = some (kind.capacity rate) := by
  cases kind <;> cases rate <;> rfl

theorem capacity_le (kind : ClientKind) (rate : SignalRate)
    : kind.capacity rate ≤ 40 := by
  cases kind <;> cases rate <;> decide

theorem clientGbps_fits (kind : ClientKind)
    : kind.gbps * 1000 < UInt32.size := by
  cases kind <;> decide

/-- The slots of a client that has a place are words. -/
theorem slots_fit {perClient slot : Nat} (carried : position < kind.capacity rate)
    (few : perClient ≤ 80) (among : slot < perClient)
    : position * perClient + slot + 1 < UInt32.size := by
  have places : position ≤ 40 := Nat.le_trans (Nat.le_of_lt carried) (capacity_le kind rate)
  have taken : position * perClient ≤ 40 * 80 := Nat.mul_le_mul places few
  have size : UInt32.size = 4294967296 := rfl
  omega

theorem slotsInWords?_eq_map {perClient : Nat} (carried : position < kind.capacity rate)
    (few : perClient ≤ 80)
    : (List.range' 1 perClient).mapM (slotInWords? perClient position)
      = some ((List.range perClient).map fun s => position * perClient + s + 1) := by
  rw [List.range'_eq_map_range, List.mapM_map]
  refine mapM_eq_some_map fun s among => ?_
  have sum := slots_fit carried few (List.mem_range.mp among)
  rw [Function.comp_apply, slotInWords?, Word.mul?_of_lt (by omega), Nat.add_comm 1 s]
  exact Word.add?_of_lt sum

theorem slotTextInWords?_eq {slot : Nat} (fits : slot + 1 < UInt32.size)
    : slotTextInWords? (slot + 1) = some (slotText slot) := by
  have slice : slot / ClientKind.slicePayload + 1 < UInt32.size :=
    Nat.lt_of_le_of_lt (Nat.succ_le_succ (Nat.div_le_self _ _)) fits
  have place : slot % ClientKind.slicePayload + 1 < UInt32.size :=
    Nat.lt_of_le_of_lt (Nat.succ_le_succ (Nat.mod_le _ _)) fits
  have payload : 0 < ClientKind.slicePayload := by decide
  rw [slotTextInWords?, Word.sub?_of_le (Nat.le_add_left 1 slot), Nat.add_sub_cancel]
  simp only [Option.bind_eq_bind, Option.bind_some, Word.div?_of_pos payload,
    Word.mod?_of_pos payload, Word.add?_of_lt slice, Word.add?_of_lt place]
  rfl

/-- The slots of a client that has a place are computed in words. -/
theorem slotsInWords?_eq (carried : position < kind.capacity rate)
    : slotsInWords? rate kind position
      = some (slotList rate kind position) := by
  rw [slotsInWords?, slotList]
  split
  · have few : kind.slicedSlots ≤ 80 := by cases kind <;> decide
    have texts
        : ((List.range kind.slicedSlots).map fun s =>
            position * kind.slicedSlots + s + 1).mapM slotTextInWords?
          = some (slicedSlots kind position) := by
      rw [List.mapM_map]
      exact mapM_eq_some_map fun s among =>
        slotTextInWords?_eq (slots_fit carried few (List.mem_range.mp among))
    rw [slotsInWords?_eq_map carried few, Option.bind_eq_bind, Option.bind_some, texts]
    rfl
  · have few : kind.wholeSlots ≤ 80 := by cases kind <;> decide
    rw [slotsInWords?_eq_map carried few]
    rfl

/-- A client service is always computed in words, whatever position the client has. -/
theorem clientInWords?_eq (ctx : PlanContext) (network : Port) (rate : SignalRate)
    (client : Port) (kind : ClientKind) (position : Nat)
    : clientInWords? ctx network rate client kind position
      = some (client? ctx network rate client kind position) := by
  rw [clientInWords?, capacityInWords?_eq, Option.bind_eq_bind, Option.bind_some, client?]
  by_cases carried : position < kind.capacity rate
  · have next : position + 1 < UInt32.size := by
      have := capacity_le kind rate
      have size : UInt32.size = 4294967296 := rfl
      omega
    rw [if_pos carried, Word.of?_of_lt (by omega)]
    simp only [Option.filter_some, carried, decide_true, if_true, Word.add?_of_lt next,
      slotsInWords?_eq carried, Word.mul?_of_lt (clientGbps_fits kind),
      Option.bind_eq_bind, Option.bind_some]
    rfl
  · have refused : (Word.of? position).filter (fun p => p < kind.capacity rate) = none := by
      rw [Word.of?]
      split
      · exact Option.filter_some_neg (by simpa using carried)
      · rfl
    rw [if_neg carried, refused]

end Client

end Plan

-----------------------------------------------------------------------------------------
-- Plans of a configuration
-----------------------------------------------------------------------------------------

namespace Configuration

theorem isValid_of_validate {c : Configuration} (valid : c.validate = .ok ())
    : c.spectrum.isValid = true := by
  rw [validate] at valid
  cases checked : c.spectrum.isValid with
  | true => rfl
  | false =>
      rw [checked] at valid
      split at valid
      · cases valid
      · split at valid <;> cases valid

/-- Of a configuration that passes its checks, whatever the ports, the rate and the position of a
client are, a client service is computed in words as it is without them. Optical paths and paths
through a roadm are so if the word after the highest slot is still a word, and else cannot be
computed at all.
-/
theorem validated_plans_in_words {c : Configuration} (valid : c.validate = .ok ())
    (node : String)
    : let ctx := Agenda.context (c.parameters node)
      (∀ network rate client kind position,
        Plan.clientInWords? ctx network rate client kind position
        = some (Plan.client? ctx network rate client kind position))
      ∧ (∀ network client rate,
        Plan.opticalInWords? ctx network client rate
        = if c.run.highestSlot + 1 < UInt32.size then some (Plan.optical ctx network client rate)
          else none)
      ∧ (∀ source destination degreeIsSource,
        Plan.roadmInWords? ctx source destination degreeIsSource
        = if c.run.highestSlot + 1 < UInt32.size
          then some (Plan.roadm ctx source destination degreeIsSource)
          else none) := by
  intro ctx
  have width : ctx.spectrum.hasWidth = true ↔ c.run.highestSlot + 1 < UInt32.size :=
    Spectrum.hasWidth_of_valid (isValid_of_validate valid)
  refine ⟨?client, ?optical, ?roadm⟩
  case client => exact Plan.clientInWords?_eq ctx
  case optical =>
    intro network client rate
    simp only [Plan.opticalInWords?_eq, width]
  case roadm =>
    intro source destination degreeIsSource
    simp only [Plan.roadmInWords?_eq, width]

theorem ok_of_toOption {answer : Except ConfigError Unit} (passed : answer.toOption = some ())
    : answer = .ok () := by
  cases answer with
  | ok => rfl
  | error => cases passed

/-- The range from the first slot to the last that has a word after it is planned as any other is,
and there is no service for a client at a position that is no word.
-/
theorem validated_plans_in_words_to_last_slot
    : let c : Configuration := { run := { lowestSlot := 1, highestSlot := 4294967294 } }
      let ctx := Agenda.context (c.parameters "XPDR-A")
      let network : Port := { name := "XPDR1-NETWORK1" }
      let client : Port := { name := "XPDR1-CLIENT1" }
      c.validate = .ok ()
      ∧ Plan.opticalInWords? ctx network (some client) .g400
        = some (Plan.optical ctx network (some client) .g400)
      ∧ Plan.clientInWords? ctx network .g100 client .ethernet10G 18446744073709551615
        = some none := by
  intro c ctx network client
  have valid : c.validate = .ok () := ok_of_toOption (by decide +kernel)
  obtain ⟨services, optical, -⟩ := validated_plans_in_words valid "XPDR-A"
  refine ⟨valid, ?_, ?_⟩
  · exact (optical network (some client) .g400).trans (if_pos (by decide))
  · exact (services network .g100 client .ethernet10G 18446744073709551615).trans
      (congrArg some (if_neg (by decide)))

/-- The configuration that only states the highest word as the end of the spectrum. -/
def widest
    : Configuration :=
  { run := { highestSlot := 4294967295 } }

/-- It is read, passes its checks, and has no optical path. -/
theorem validated_plan_out_of_words
    : ofJson? .toml (.object [
          ("lifecycle", .object [("spectrum_max_slot", .ofNat 4294967295)])]) = some widest
      ∧ widest.validate = .ok ()
      ∧ Plan.opticalInWords? (Agenda.context (widest.parameters "XPDR-A"))
          { name := "XPDR1-NETWORK1" } none .g100 = none := by
  refine ⟨by decide +kernel, ok_of_toOption (by decide +kernel), ?_⟩
  rw [Plan.opticalInWords?_eq]
  exact if_neg (by decide)

end Configuration

end Lightpath
