import Lightpath.Text.Affix

/-!
Replacing every occurrence of a text, from left to right and without overlaps.
-/

namespace Lightpath

namespace Text

/-- The characters with each occurrence of a text replaced, after `skip` characters that belong
to an occurrence already replaced.
-/
def replaceFrom (old new : List Char)
    : Nat → List Char → List Char
  | _, [] => []
  | skip + 1, _ :: rest => replaceFrom old new skip rest
  | 0, c :: rest =>
      match dropFront? old (c :: rest) with
      | some _ => new ++ replaceFrom old new (old.length - 1) rest
      | none => c :: replaceFrom old new 0 rest

/-- The text with each occurrence of another, which is not empty, replaced. -/
def replace (s old new : String)
    : String :=
  String.ofList (replaceFrom old.toList new.toList 0 s.toList)

end Text

end Lightpath
