import Lightpath.Proofs.Json.Members
import Lightpath.Service.ClientPath
import Lightpath.Simulation.Renderer
import Mathlib.Data.List.TakeDrop

/-!
The tributary slots of client services. A client within the capacity of its network port is
planned slots inside the payload, as many as its service takes, and they are read as they are
written.
-/

namespace Lightpath

-----------------------------------------------------------------------------------------
-- Reading numbers
-----------------------------------------------------------------------------------------

theorem LeafRule.numeral?_toDigits {n : Nat} (small : n < UInt64.size)
    : numeral? (String.ofList (Nat.toDigits 10 n)) = some n := by
  have digits : ∀ c ∈ Nat.toDigits 10 n, c.isDigit = true :=
    fun c member => Nat.isDigit_of_mem_toDigits (by decide) (by decide) member
  have value
      : (Nat.toDigits 10 n).foldl (fun n c => n * 10 + (c.toNat - '0'.toNat)) 0 = n := by
    have written := @Nat.ofDigitChars_ten_toDigits n
    rw [Nat.ofDigitChars_eq_foldl] at written
    simpa only [Nat.mul_comm] using written
  have filled : (Nat.toDigits 10 n).isEmpty = false := by simp
  have decimal : (Nat.toDigits 10 n).all Char.isDigit = true := List.all_eq_true.mpr digits
  unfold numeral?
  rw [String.toList_ofList]
  split
  · rename_i rest signed
    have plus := digits '+' (by rw [signed]; exact List.mem_cons_self)
    simp at plus
  · simp only [filled, decimal, value, small, Bool.false_eq_true, if_false, if_true]

namespace Renderer

/-- A slot of a parent in slices is read as its slice and its place there. -/
theorem slotParts?_slotText {slot : Nat} (small : slot < UInt32.size)
    : slotParts? (Plan.slotText slot) = some (slot / 20 + 1, slot % 20 + 1) := by
  have digits : ∀ c ∈ Nat.toDigits 10 (slot / 20 + 1), decide (c ≠ '.') = true := by
    intro c member
    have digit := Nat.isDigit_of_mem_toDigits (by decide) (by decide) member
    have other : c ≠ '.' := by
      rintro rfl
      simp at digit
    simpa using other
  have text
      : (Plan.slotText slot).toList
        = Nat.toDigits 10 (slot / 20 + 1) ++ '.' :: Nat.toDigits 10 (slot % 20 + 1) := by
    simp [Plan.slotText, Plan.slotName, ClientKind.slicePayload]
  have cut
      : (Plan.slotText slot).toList.span (· ≠ '.')
        = (Nat.toDigits 10 (slot / 20 + 1), '.' :: Nat.toDigits 10 (slot % 20 + 1)) := by
    rw [text, List.span_eq_takeWhile_dropWhile, List.takeWhile_append_of_pos digits,
      List.dropWhile_append_of_pos digits]
    simp
  rw [UInt32.size] at small
  have slice := @LeafRule.numeral?_toDigits (slot / 20 + 1) (by rw [UInt64.size]; omega)
  have place := @LeafRule.numeral?_toDigits (slot % 20 + 1) (by rw [UInt64.size]; omega)
  simp only [slotParts?, cut, slice, place]
  rfl

/-- A slot inside the payload of a few slices has no fault. -/
theorem slicedSlotFault?_slotText {slices slot : Nat} (few : slices ≤ 4)
    (inside : slot < slices * 20)
    : slicedSlotFault? slices (.string (Plan.slotText slot)) = none := by
  have read := @slotParts?_slotText slot (by rw [UInt32.size]; omega)
  have bounds
      : ¬ (slot / 20 + 1 = 0 ∨ slices < slot / 20 + 1 ∨ slot % 20 + 1 = 0
          ∨ 20 < slot % 20 + 1) := by
    omega
  simp only [slicedSlotFault?, Json.string?, Option.bind_some, read, if_neg bounds]

end Renderer

-----------------------------------------------------------------------------------------
-- Slots within the capacity
-----------------------------------------------------------------------------------------

namespace Plan

variable {kind : ClientKind} {rate : SignalRate} {position : Nat}
  (fits : position < kind.capacity rate)
include fits

/-- The slots of a client within the capacity are inside the slices of its parent. -/
theorem slicedSlots_inside {slices : Nat} (sliced : rate.slices? = some slices)
    : ((slicedSlots kind position).map Json.string).findSome? (Renderer.slicedSlotFault? slices)
      = none := by
  have few : slices ≤ 4 := by
    cases rate <;> simp [SignalRate.slices?] at sliced <;> omega
  have room : (position + 1) * kind.slicedSlots ≤ slices * 20 := by
    rw [ClientKind.capacity, sliced] at fits
    cases kind <;> simp only [ClientKind.slicePayload, ClientKind.slicedSlots] at fits ⊢ <;> omega
  refine List.findSome?_eq_none_iff.mpr ?_
  intro slot member
  obtain ⟨text, inSlots, rfl⟩ := List.mem_map.mp member
  obtain ⟨s, inRange, rfl⟩ := List.mem_map.mp inSlots
  have bound := List.mem_range.mp inRange
  refine Renderer.slicedSlotFault?_slotText few ?_
  rw [Nat.add_mul, Nat.one_mul] at room
  omega

/-- The slots of a client within the capacity are inside a parent that is carried whole. -/
theorem wholeSlots_inside (whole : rate.slices? = none)
    : ((wholeSlots kind position).map Json.ofNat).all Renderer.isWholeSlot = true := by
  have room : (position + 1) * kind.wholeSlots ≤ 80 := by
    rw [ClientKind.capacity, whole] at fits
    cases kind <;> simp only [ClientKind.wholePayload, ClientKind.wholeSlots] at fits ⊢ <;> omega
  refine List.all_eq_true.mpr ?_
  intro slot member
  obtain ⟨n, inSlots, rfl⟩ := List.mem_map.mp member
  obtain ⟨s, inRange, rfl⟩ := List.mem_map.mp inSlots
  have bound := List.mem_range.mp inRange
  rw [Nat.add_mul, Nat.one_mul] at room
  have most : position * kind.wholeSlots + s + 1 ≤ 80 := by omega
  rw [Renderer.isWholeSlot, Json.nat?_ofNat]
  simpa using most

end Plan

end Lightpath
