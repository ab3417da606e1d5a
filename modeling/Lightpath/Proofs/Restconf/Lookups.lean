import Lightpath.Restconf.Answer

/-!
What the answer to a lookup tells. The status decides first, and only where it says that the request
was carried out does the body matter: then it has to hold one resource, and is malformed otherwise.
-/

namespace Lightpath

namespace Restconf

-----------------------------------------------------------------------------------------
-- What a body holds
-----------------------------------------------------------------------------------------

/-- The first item of a list, or else a value that is not null. -/
inductive Leads
    : Json → Json → Prop
  | item (v : Json) (rest : List Json)
    : Leads (.array (v :: rest)) v
  | alone {v : Json} (filled : v ≠ .null) (single : ∀ items, v ≠ .array items)
    : Leads v v

/-- A body that is a document with one member, which leads with a resource. -/
def Holds (body : String) (config : Json)
    : Prop :=
  ∃ name v, Json.parse? body = some (.object [(name, v)]) ∧ Leads v config

theorem head?_asList {v config : Json}
    : v.asList.head? = some config ↔ Leads v config := by
  constructor
  · intro first
    cases v with
    | array items =>
        cases items with
        | nil => cases first
        | cons v rest =>
            obtain rfl := Option.some.inj first
            exact .item _ rest
    | null => cases first
    | bool _ | number _ | string _ | object _ =>
        obtain rfl := Option.some.inj first
        exact .alone (by simp) (by simp)
  · intro leads
    cases leads with
    | item _ rest => rfl
    | alone filled single =>
        cases v with
        | array items => exact absurd rfl (single items)
        | null => exact absurd rfl filled
        | bool _ | number _ | string _ | object _ => rfl

theorem resourceIn?_eq_some_iff {document config : Json}
    : resourceIn? document = some config
      ↔ ∃ name v, document = .object [(name, v)] ∧ Leads v config := by
  constructor
  · intro found
    rw [resourceIn?.eq_def] at found
    split at found
    · rename_i name v
      exact ⟨name, v, rfl, head?_asList.mp found⟩
    · cases found
  · rintro ⟨name, v, rfl, leads⟩
    exact head?_asList.mpr leads

/-- Only a text that begins with a brace is read as an object. -/
theorem head?_of_parseValue? {depth : Nat} {cs rest : List Char}
    {members : List (String × Json)}
    (parsed : Json.parseValue? depth cs = some (.object members, rest))
    : cs.head? = some '\x7b' := by
  rw [Json.parseValue?.eq_def] at parsed
  split at parsed
  · cases parsed
  · cases parsed
  · cases parsed
  · simp at parsed
  · split at parsed
    · cases parsed
    · split at parsed <;> simp at parsed
  · rfl
  · simp at parsed

/-- A text that holds an object is not blank. -/
theorem not_blank_of_object {body : String} {members : List (String × Json)}
    (parsed : Json.parse? body = some (.object members))
    : Text.allBlank body = false := by
  have begun : (Json.skipSpace body.toList).head? = some '\x7b' := by
    rw [Json.parse?] at parsed
    split at parsed
    · rename_i v rest read
      split at parsed
      · cases v with
        | object unsorted => exact head?_of_parseValue? read
        | null | bool _ | number _ | string _ | array _ => simp [Json.sorted] at parsed
      · cases parsed
    · cases parsed
  have brace : '\x7b' ∈ body.toList :=
    (List.dropWhile_sublist _).subset (List.mem_of_head? begun)
  rw [Text.allBlank, List.all_eq_false]
  exact ⟨_, brace, by decide⟩

theorem readBody_of_object {target : String} {status : Nat} {body : String}
    {members : List (String × Json)} (parsed : Json.parse? body = some (.object members))
    : readBody target status body = .ok (.object members) := by
  simp [readBody, not_blank_of_object parsed, parsed]

/-- What can be read from a body: nothing, a document, a text where the status promises no document,
and a fault where it does.
-/
inductive Reads (target : String) (status : Nat) (body : String)
    : Except TransportError Json → Prop
  | blank
    : Reads target status body (.ok .null)
  | document {v : Json} (parsed : Json.parse? body = some v)
    : Reads target status body (.ok v)
  | text (failed : isSuccess status = false)
    : Reads target status body (.ok (.string body))
  | fault (carried : isSuccess status = true) (reason : String)
    : Reads target status body (.error (.malformed target reason))

theorem reads_readBody (target : String) (status : Nat) (body : String)
    : Reads target status body (readBody target status body) := by
  rw [readBody]
  split
  · exact .blank
  · cases parsed : Json.parse? body with
    | some v => exact .document parsed
    | none =>
        cases carried : isSuccess status with
        | true => exact .fault carried _
        | false => exact .text carried

/-- A status that promises no document is never at odds with the body. -/
theorem exists_readBody (target : String) {status : Nat} (failed : isSuccess status = false)
    (body : String)
    : ∃ v, readBody target status body = .ok v := by
  have reads := reads_readBody target status body
  cases result : readBody target status body with
  | ok v => exact ⟨v, rfl⟩
  | error fault =>
      rw [result] at reads
      cases reads with
      | fault carried reason =>
          rw [failed] at carried
          cases carried

/-- A body is at fault only for what it holds, never for a request that did not get through. -/
theorem exists_malformed_of_readBody {target : String} {status : Nat} {body : String}
    {fault : TransportError} (read : readBody target status body = .error fault)
    : ∃ reason, fault = .malformed target reason := by
  have reads := reads_readBody target status body
  rw [read] at reads
  cases reads with
  | fault carried reason => exact ⟨reason, rfl⟩

-----------------------------------------------------------------------------------------
-- What a lookup comes to
-----------------------------------------------------------------------------------------

/-- What a lookup comes to that was answered with a status and a body. -/
structure Tells (status : Nat) (body : String) (result : Except TransportError Lookup)
    : Prop where
  absent (n : Nat)
    : result = .ok (.absent n) ↔ n = status ∧ (status = 404 ∨ status = 409 ∨ status = 503)
  present (config : Json)
    : result = .ok (.present config) ↔ (200 ≤ status ∧ status < 300) ∧ Holds body config
  malformed
    : (∃ target reason, result = .error (.malformed target reason))
      ↔ (200 ≤ status ∧ status < 300) ∧ ¬ ∃ config, Holds body config
  unexpected (n : Nat)
    : (∃ target, result = .error (.status target n))
      ↔ n = status
        ∧ ¬ (status = 404 ∨ status = 409 ∨ status = 503)
        ∧ ¬ (200 ≤ status ∧ status < 300)

theorem Holds.unique {body : String} {config other : Json} (holds : Holds body config)
    (also : Holds body other)
    : config = other := by
  obtain ⟨name, v, parsed, leads⟩ := holds
  obtain ⟨name', v', parsed', leads'⟩ := also
  rw [parsed] at parsed'
  obtain ⟨-, rfl⟩ : name = name' ∧ v = v' := by simpa using parsed'
  exact Option.some.inj ((head?_asList.mpr leads).symm.trans (head?_asList.mpr leads'))

theorem isSuccess_iff {status : Nat}
    : isSuccess status = true ↔ 200 ≤ status ∧ status < 300 := by
  simp [isSuccess]

theorem contains_absentStatuses_iff {status : Nat}
    : absentStatuses.contains status = true ↔ status = 404 ∨ status = 409 ∨ status = 503 := by
  simp [absentStatuses]

/-- What is read from an answer that is successful and holds no resource has none. -/
theorem resourceIn?_of_empty {target : String} {status : Nat} {body : String} {document : Json}
    (empty : ¬ ∃ config, Holds body config)
    (read : readBody target status body = .ok document)
    : resourceIn? document = none := by
  have reads := reads_readBody target status body
  rw [read] at reads
  cases reads with
  | blank => rfl
  | text failed => rfl
  | document parsed =>
      cases found : resourceIn? document with
      | none => rfl
      | some config =>
          obtain ⟨name, v, rfl, leads⟩ := resourceIn?_eq_some_iff.mp found
          exact absurd ⟨config, name, v, parsed, leads⟩ empty

section Lookups

variable {sent target : String} {status : Nat} {body : String}

/-- Without a success a lookup goes by the status alone. -/
theorem lookup_of_failed (failed : isSuccess status = false)
    : (readBody sent status body).bind (readLookup target status)
      = if absentStatuses.contains status then .ok (.absent status)
        else .error (.status target status) := by
  obtain ⟨document, read⟩ := exists_readBody sent failed body
  rw [read, Except.bind, readLookup, failed]
  rfl

theorem lookup_of_holds (carried : isSuccess status = true)
    (kept : absentStatuses.contains status = false) {config : Json} (holds : Holds body config)
    : (readBody sent status body).bind (readLookup target status) = .ok (.present config) := by
  obtain ⟨name, v, parsed, leads⟩ := holds
  have found := resourceIn?_eq_some_iff.mpr ⟨name, v, rfl, leads⟩
  rw [readBody_of_object parsed, Except.bind, readLookup, kept, carried, found]
  rfl

theorem lookup_of_empty (carried : isSuccess status = true)
    (kept : absentStatuses.contains status = false) (empty : ¬ ∃ config, Holds body config)
    : ∃ place reason,
        (readBody sent status body).bind (readLookup target status)
        = .error (.malformed place reason) := by
  cases read : readBody sent status body with
  | error fault =>
      obtain ⟨reason, rfl⟩ := exists_malformed_of_readBody read
      exact ⟨_, _, rfl⟩
  | ok document =>
      refine ⟨target, notOneResource, ?_⟩
      rw [Except.bind, readLookup, kept, carried, resourceIn?_of_empty empty read]
      rfl

/-- A lookup reads its answer as the status and the body say. -/
theorem tells_readLookup (sent target : String) (status : Nat) (body : String)
    : Tells status body ((readBody sent status body).bind (readLookup target status)) := by
  cases success : isSuccess status with
  | false =>
      have missed : ¬ (200 ≤ status ∧ status < 300) := by simp [← isSuccess_iff, success]
      rw [lookup_of_failed success]
      by_cases gone : status = 404 ∨ status = 409 ∨ status = 503
      · rw [if_pos (contains_absentStatuses_iff.mpr gone)]
        constructor <;> simp [gone, missed, eq_comm]
      · rw [if_neg fun known => gone (contains_absentStatuses_iff.mp known)]
        constructor <;> simp [gone, missed, eq_comm]
  | true =>
      have carried := isSuccess_iff.mp success
      have kept : ¬ (status = 404 ∨ status = 409 ∨ status = 503) := by omega
      have known : absentStatuses.contains status = false := by
        rw [← Bool.not_eq_true, contains_absentStatuses_iff]
        exact kept
      by_cases filled : ∃ config, Holds body config
      · obtain ⟨config, holds⟩ := filled
        have only (other : Json) : config = other ↔ Holds body other :=
          ⟨fun same => same ▸ holds, holds.unique⟩
        have filled : ∃ config, Holds body config := ⟨config, holds⟩
        rw [lookup_of_holds success known holds]
        constructor <;> simp [kept, carried, only, filled]
      · obtain ⟨place, reason, malformed⟩ := lookup_of_empty success known filled
        have empty (config : Json) : ¬ Holds body config := fun holds => filled ⟨config, holds⟩
        rw [malformed]
        constructor <;> simp [kept, carried, empty]

end Lookups

end Restconf

end Lightpath
