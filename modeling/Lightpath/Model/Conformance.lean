import Lightpath.Model.Defect
import Lightpath.Model.LeafRule
import Lightpath.Model.Registry

/-!
Conformance of a part of a configuration to the checklist of its role. The check follows the document,
not the roles, so that roles may contain each other. It says whether the part is valid and lists
every defect; nothing that follows a defect is left out.
-/

namespace Lightpath

/-- What a check found: whether the part is valid, and its defects in order. -/
structure Outcome where
  valid : Bool
  defects : List StructuralDefect
deriving DecidableEq, Repr

namespace Outcome

/-- Nothing to complain about. -/
def pass
    : Outcome :=
  ⟨true, []⟩

/-- One defect that counts. -/
def fault (d : StructuralDefect)
    : Outcome :=
  ⟨false, [d]⟩

/-- One outcome after another: valid if both are. -/
def append (a b : Outcome)
    : Outcome :=
  ⟨a.valid && b.valid, a.defects ++ b.defects⟩

instance : Append Outcome := ⟨append⟩

/-- All outcomes in order. -/
def all (outcomes : List Outcome)
    : Outcome :=
  outcomes.foldr append pass

/-- The same defects without weight. -/
def soften (o : Outcome)
    : Outcome :=
  ⟨true, o.defects.map StructuralDefect.soften⟩

end Outcome

/-- The checklists of one version, by role. -/
abbrev Checklists :=
  StructuralRole → Option Checklist

namespace Conformance

/-- The text of a leaf: that of a string, or the compact form of any other value. -/
def leafText
    : Json → String
  | .string s => s
  | v => v.compact

/-- The path of a part below another. -/
def joinPath (path name : String)
    : String :=
  if path = "" then name else path ++ "/" ++ name

/-- The path of an item of a list: by the leaf that names it, or by its position. -/
def itemPath (path : String) (role : StructuralRole) (item : Json) (position : Nat)
    : String :=
  let key := (role.keyLeaf?.bind item.get?).map leafText
  path ++ "[" ++ key.getD (toString position) ++ "]"

/-- The defect of a value that had to be an object. -/
def notAnObject (role : StructuralRole) (path : String)
    : StructuralDefect :=
  { path := path, role := some role, leaf := role.word, kind := .notAnObject }

/-- The outcome of a rule on a leaf among the members of an instance. -/
def checkLeaf (role : StructuralRole) (path : String) (members : List (String × Json))
    (rule : LeafRule)
    : Outcome :=
  match members.lookup rule.leaf with
  | none => .pass
  | some v =>
      if rule.admits v then .pass
      else .fault {
        path := path, role := some role, leaf := rule.leaf
        kind := .invalidValue (leafText v) }

/-- A check that still has to be told the role and the path. -/
abbrev PendingCheck :=
  StructuralRole → String → Outcome

/-- The outcome of one attribute, given what its value's check would say. -/
def checkAttribute (role : StructuralRole) (path : String)
    (checks : List (String × PendingCheck)) (a : Attribute)
    : Outcome :=
  match checks.lookup a.name with
  | none =>
      let missing : StructuralDefect :=
        { path := path, role := some role, leaf := a.name, kind := .missingAttribute }
      if a.soft then ⟨true, [missing.soften]⟩ else .fault missing
  | some check =>
      match a.nested with
      | none => .pass
      | some nested =>
          let outcome := check nested (joinPath path a.name)
          if a.soft then outcome.soften else outcome

/-- The outcome of an object as an instance of a role: its attributes in the order of the
checklist, then the rules on its leaves. Without a checklist nothing is asked.
-/
def checkObject (lists : Checklists) (members : List (String × Json))
    (checks : List (String × PendingCheck)) (role : StructuralRole) (path : String)
    : Outcome :=
  match lists role with
  | none => .pass
  | some checklist =>
      Outcome.all (checklist.attributes.map (checkAttribute role path checks))
        ++ Outcome.all (role.leafRules.map (checkLeaf role path members))

/-- The outcome of a value that is no object as an instance of a role. -/
def refuse (lists : Checklists) (role : StructuralRole) (path : String)
    : Outcome :=
  match lists role with
  | none => .pass
  | some _ => .fault (notAnObject role path)

mutual

/-- The outcome of a value that holds one instance of a role or a list of them. -/
def checkValue (lists : Checklists)
    : Json → PendingCheck
  | .object members => checkObject lists members (checkMembers lists members)
  | .array items => fun role path =>
      Outcome.all ((checkItems lists items).mapIdx fun i item =>
        item.2 role (itemPath path role item.1 i))
  | _ => fun role path => .fault (notAnObject role path)

/-- The checks of the items of a list, each beside its item; an item has to be an object. -/
def checkItems (lists : Checklists)
    : List Json → List (Json × PendingCheck)
  | [] => []
  | v :: rest =>
      (v, if v.isObject then checkValue lists v else refuse lists) :: checkItems lists rest

/-- The checks of the members of an object, by name. -/
def checkMembers (lists : Checklists)
    : List (String × Json) → List (String × PendingCheck)
  | [] => []
  | (k, v) :: rest => (k, checkValue lists v) :: checkMembers lists rest

end

/-- The outcome of a value as a single instance of a role. -/
def checkInstance (lists : Checklists) (role : StructuralRole) (v : Json) (path : String)
    : Outcome :=
  if v.isObject then checkValue lists v role path else refuse lists role path

end Conformance

end Lightpath
