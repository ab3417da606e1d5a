/-!
Lists of pairs in ascending order of their text keys, each key once. They serve as dictionaries whose
order of iteration is the order of the keys; values are found by `List.lookup`.
-/

namespace Lightpath

namespace Keyed

variable {α : Type}

/-- The list with a value at a key; a value that was there gives way. -/
def insert (key : String) (value : α)
    : List (String × α) → List (String × α)
  | [] => [(key, value)]
  | (k, v) :: rest =>
      if key < k then (key, value) :: (k, v) :: rest
      else if key = k then (key, value) :: rest
      else (k, v) :: insert key value rest

/-- The list without a key. -/
def erase (key : String) (pairs : List (String × α))
    : List (String × α) :=
  pairs.filter fun p => p.1 ≠ key

/-- The pairs in ascending order of their keys; of two with one key the later stays. -/
def ofList (pairs : List (String × α))
    : List (String × α) :=
  pairs.foldl (fun sorted p => insert p.1 p.2 sorted) []

/-- The keys in ascending order. -/
def keys (pairs : List (String × α))
    : List String :=
  pairs.map Prod.fst

/-- Whether a key is there. -/
def contains (key : String) (pairs : List (String × α))
    : Bool :=
  (pairs.lookup key).isSome

end Keyed

end Lightpath
