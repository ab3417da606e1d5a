import Lightpath.Port.Basic
import Mathlib.Data.List.Forall2
import Mathlib.Data.List.TakeWhile

/-!
The grammar of port roles. The names of each role form a language of fixed words and numbers; a port
without a qualifier has a role exactly if its name is in the language of that role, and a port with
one exactly as the qualifier says, in whichever case its letters are written.
-/

namespace Lightpath

-----------------------------------------------------------------------------------------
-- Words in any letter case
-----------------------------------------------------------------------------------------

namespace Text

/-- The letters, each with a capital of its own. The Kelvin sign is a second capital of one. -/
def capitals
    : List (Char × Char) :=
  ['a', 'b', 'c', 'd', 'e', 'f', 'g', 'h', 'i', 'j', 'k', 'l', 'm', 'n', 'o', 'p', 'q', 'r', 's',
    't', 'u', 'v', 'w', 'x', 'y', 'z'].zip
    ['A', 'B', 'C', 'D', 'E', 'F', 'G', 'H', 'I', 'J', 'K', 'L', 'M', 'N', 'O', 'P', 'Q', 'R', 'S',
      'T', 'U', 'V', 'W', 'X', 'Y', 'Z']
  ++ [('k', '\u212a')]

/-- A character is a letter, or a capital of it. -/
def IsCaseOf (c letter : Char)
    : Prop :=
  c = letter ∨ (letter, c) ∈ capitals

/-- A text is a word whose letters may each be written as a capital. -/
def Spells (text word : String)
    : Prop :=
  List.Forall₂ IsCaseOf text.toList word.toList

theorem foldLower_of_mem_capitals
    : ∀ pair ∈ capitals, foldLower pair.2 = pair.1 := by
  decide

/-- The range of capitals that folding knows is in the list of capitals. -/
theorem mem_capitals_of_range {c : Char} (range : 'A'.val ≤ c.val ∧ c.val ≤ 'Z'.val)
    : c ∈ capitals.map Prod.snd := by
  have listed : ∀ n ∈ List.range' 65 26, Char.ofNat n ∈ capitals.map Prod.snd := by decide
  have bounds : 65 ≤ c.toNat ∧ c.toNat ≤ 90 := range
  rw [← Char.ofNat_toNat c]
  exact listed c.toNat (List.mem_range'_1.mpr ⟨bounds.1, by omega⟩)

theorem foldLower_of_not_mem_capitals {c : Char} (plain : c ∉ capitals.map Prod.snd)
    : foldLower c = c := by
  have noKelvin : c ≠ '\u212a' := by
    rintro rfl
    exact plain (by decide)
  have outside : ¬ ('A'.val ≤ c.val ∧ c.val ≤ 'Z'.val) := fun range =>
    plain (mem_capitals_of_range range)
  rw [foldLower, if_neg noKelvin]
  exact dif_neg outside

/-- The characters that fold to a letter are the letter and its capitals. -/
theorem foldLower_eq_iff {c letter : Char} (small : letter ∉ capitals.map Prod.snd)
    : foldLower c = letter ↔ IsCaseOf c letter := by
  constructor
  · rintro rfl
    by_cases capital : c ∈ capitals.map Prod.snd
    · obtain ⟨pair, member, rfl⟩ := List.mem_map.mp capital
      rw [foldLower_of_mem_capitals pair member]
      exact Or.inr member
    · rw [foldLower_of_not_mem_capitals capital]
      exact Or.inl rfl
  · rintro (rfl | capital)
    · exact foldLower_of_not_mem_capitals small
    · exact foldLower_of_mem_capitals _ capital

/-- Letters fold to a word without capitals exactly if each is a case of its letter. -/
theorem map_foldLower_eq_iff {cs word : List Char}
    (small : ∀ letter ∈ word, letter ∉ capitals.map Prod.snd)
    : cs.map foldLower = word ↔ List.Forall₂ IsCaseOf cs word := by
  induction cs generalizing word with
  | nil => simp [eq_comm]
  | cons c cs ih =>
      cases word with
      | nil => simp
      | cons letter word =>
          obtain ⟨first, others⟩ := List.forall_mem_cons.mp small
          rw [List.map_cons, List.cons.injEq, List.forall₂_cons, foldLower_eq_iff first,
            ih others]

/-- A text folds to a word without capitals exactly if it spells it. -/
theorem lowerWord_eq_iff {text word : String}
    (small : ∀ letter ∈ word.toList, letter ∉ capitals.map Prod.snd)
    : lowerWord text = word ↔ Spells text word := by
  rw [Spells, ← map_foldLower_eq_iff small, lowerWord, ← String.toList_inj, String.toList_ofList]

end Text

namespace PortName

-----------------------------------------------------------------------------------------
-- The languages
-----------------------------------------------------------------------------------------

/-- A number as names state it: one or more decimal digits of any script. -/
structure IsNumber (text : String)
    : Prop where
  filled : text ≠ ""
  digits : ∀ c ∈ text.toList, Text.isDecimalDigit c = true

/-- What may follow the fixed part of a roadm name: nothing, or a dash and anything. -/
def IsTail (text : String)
    : Prop :=
  text = "" ∨ ∃ more, text = "-" ++ more

/-- The names of the ports of a role. -/
def Names
    : PortRole → String → Prop
  | .network, name =>
      ∃ unit port, IsNumber unit ∧ IsNumber port ∧ name = "XPDR" ++ unit ++ "-NETWORK" ++ port
  | .client, name =>
      ∃ unit port, IsNumber unit ∧ IsNumber port ∧ name = "XPDR" ++ unit ++ "-CLIENT" ++ port
  | .degree, name =>
      ∃ degree tail, IsNumber degree ∧ IsTail tail ∧ name = "DEG" ++ degree ++ "-TTP" ++ tail
  | .riskGroup, name =>
      ∃ group pair tail,
        IsNumber group
        ∧ IsNumber pair
        ∧ IsTail tail
        ∧ name = "SRG" ++ group ++ "-PP" ++ pair ++ tail

-----------------------------------------------------------------------------------------
-- Reading literals and numbers
-----------------------------------------------------------------------------------------

/-- A text that goes on without a digit, if at all. -/
def NoDigitAhead (cs : List Char)
    : Prop :=
  ∀ c ∈ cs.head?, Text.isDecimalDigit c = false

theorem dropFront?_eq_some_iff {front cs rest : List Char}
    : Text.dropFront? front cs = some rest ↔ cs = front ++ rest := by
  induction front generalizing cs with
  | nil => simp [Text.dropFront?]
  | cons a front ih =>
      cases cs with
      | nil => simp [Text.dropFront?]
      | cons c cs =>
          by_cases same : a = c
          · simp [Text.dropFront?, same, ih]
          · simp [Text.dropFront?, same, Ne.symm same]

theorem dropLiteral?_eq_some_iff {literal : String} {cs rest : List Char}
    : dropLiteral? literal cs = some rest ↔ cs = literal.toList ++ rest :=
  dropFront?_eq_some_iff

/-- Dropping the digits at the head leaves what goes on without one. -/
theorem noDigitAhead_dropWhile (cs : List Char)
    : NoDigitAhead (cs.dropWhile Text.isDecimalDigit) := by
  intro c first
  have stopped := List.head?_dropWhile_not Text.isDecimalDigit cs
  rw [Option.mem_def.mp first] at stopped
  simpa using stopped

/-- Digits are dropped as long as there are any. -/
theorem dropWhile_digits {digits rest : List Char}
    (all : ∀ c ∈ digits, Text.isDecimalDigit c = true) (ends : NoDigitAhead rest)
    : (digits ++ rest).dropWhile Text.isDecimalDigit = rest := by
  rw [List.dropWhile_append_of_pos all]
  cases rest with
  | nil => rfl
  | cons c rest => exact List.dropWhile_cons_of_neg (by simp [ends c rfl])

/-- What is left of a text without its number is what follows a whole run of digits. -/
theorem dropDigits?_eq_some_iff {cs rest : List Char}
    : Text.dropDigits? cs = some rest
      ↔ ∃ number, IsNumber number ∧ cs = number.toList ++ rest ∧ NoDigitAhead rest := by
  constructor
  · intro dropped
    cases cs with
    | nil => cases dropped
    | cons c cs =>
        rw [Text.dropDigits?] at dropped
        split at dropped
        · rename_i digit
          obtain rfl := Option.some.inj dropped
          refine ⟨String.ofList (c :: cs.takeWhile Text.isDecimalDigit), ⟨?_, ?_⟩, ?_, ?_⟩
          · simp [← String.toList_inj]
          · intro d member
            rw [String.toList_ofList] at member
            rcases List.mem_cons.mp member with rfl | later
            · exact digit
            · exact List.mem_takeWhile_imp later
          · simp [List.takeWhile_append_dropWhile]
          · exact noDigitAhead_dropWhile cs
        · cases dropped
  · rintro ⟨number, isNumber, rfl, ends⟩
    cases split : number.toList with
    | nil => exact absurd (by simp [← String.toList_inj, split]) isNumber.filled
    | cons c digits =>
        have all := isNumber.digits
        rw [split] at all
        obtain ⟨digit, others⟩ := List.forall_mem_cons.mp all
        rw [List.cons_append, Text.dropDigits?, if_pos digit, dropWhile_digits others ends]

-----------------------------------------------------------------------------------------
-- Names with a numbered owner
-----------------------------------------------------------------------------------------

/-- What is left of a name after a word, a number and another word. -/
def afterOwner? (owner part : String) (name : String)
    : Option (List Char) := do
  let cs ← dropLiteral? owner name.toList
  let cs ← Text.dropDigits? cs
  dropLiteral? part cs

/-- A number stops at a word that starts with no digit, so it is read as it is written. -/
theorem afterOwner?_eq_some_iff {owner part name : String} {rest : List Char}
    (stops : NoDigitAhead (part.toList ++ rest))
    : afterOwner? owner part name = some rest
      ↔ ∃ number,
          IsNumber number
          ∧ name.toList = owner.toList ++ number.toList ++ part.toList ++ rest := by
  simp only [afterOwner?, bind, Option.bind_eq_some_iff, dropLiteral?_eq_some_iff,
    dropDigits?_eq_some_iff]
  constructor
  · rintro ⟨_, whole, _, ⟨number, isNumber, rfl, -⟩, rfl⟩
    exact ⟨number, isNumber, by simp [whole]⟩
  · rintro ⟨number, isNumber, whole⟩
    refine ⟨_, ?_, _, ⟨number, isNumber, rfl, stops⟩, rfl⟩
    simp [whole]

/-- A name has one owner and goes on after it in one way. -/
theorem part_unique {owner part other name : String} {rest more : List Char}
    (one : afterOwner? owner part name = some rest)
    (two : afterOwner? owner other name = some more)
    : part.toList ++ rest = other.toList ++ more := by
  simp only [afterOwner?, bind, Option.bind_eq_some_iff, dropLiteral?_eq_some_iff] at one two
  obtain ⟨owned, whole, left, dropped, rfl⟩ := one
  obtain ⟨owned', whole', left', dropped', rfl⟩ := two
  obtain rfl := List.append_cancel_left (whole.symm.trans whole')
  exact Option.some.inj (dropped.symm.trans dropped')

theorem noDigitAhead_dash {part : String} {cs : List Char} (dash : part.toList = '-' :: cs)
    (rest : List Char)
    : NoDigitAhead (part.toList ++ rest) := by
  intro c first
  rw [dash] at first
  obtain rfl := Option.some.inj (Option.mem_def.mp first)
  decide

theorem endsOrDashes_iff {left : Option (List Char)}
    : endsOrDashes left = true ↔ ∃ tail, IsTail tail ∧ left = some tail.toList := by
  constructor
  · intro ends
    rw [endsOrDashes.eq_def] at ends
    split at ends
    · exact ⟨"", Or.inl rfl, rfl⟩
    · rename_i more
      exact ⟨"-" ++ String.ofList more, Or.inr ⟨_, rfl⟩, by simp⟩
    · cases ends
  · rintro ⟨tail, rfl | ⟨more, rfl⟩, rfl⟩
    · rfl
    · simp [endsOrDashes]

theorem noDigitAhead_tail {tail : String} (isTail : IsTail tail)
    : NoDigitAhead tail.toList := by
  rcases isTail with rfl | ⟨more, rfl⟩
  · simp [NoDigitAhead]
  · have dash : ("-" : String).toList = '-' :: [] := rfl
    rw [String.toList_append]
    exact noDigitAhead_dash dash _

/-- A name of an owner and a second number is read as it is written. -/
theorem afterOwner?_number_iff {owner part name : String} {rest : List Char}
    (dash : ∃ cs, part.toList = '-' :: cs)
    : (afterOwner? owner part name).bind Text.dropDigits? = some rest
      ↔ ∃ number other,
          IsNumber number
          ∧ IsNumber other
          ∧ NoDigitAhead rest
          ∧ name.toList
            = owner.toList ++ number.toList ++ part.toList ++ other.toList ++ rest := by
  obtain ⟨_, dash⟩ := dash
  rw [Option.bind_eq_some_iff]
  constructor
  · rintro ⟨left, owned, dropped⟩
    obtain ⟨number, isNumber, whole⟩ :=
      (afterOwner?_eq_some_iff (noDigitAhead_dash dash left)).mp owned
    obtain ⟨other, isOther, rfl, ends⟩ := dropDigits?_eq_some_iff.mp dropped
    exact ⟨number, other, isNumber, isOther, ends, by simp [whole]⟩
  · rintro ⟨number, other, isNumber, isOther, ends, whole⟩
    refine ⟨other.toList ++ rest, ?_, dropDigits?_eq_some_iff.mpr ⟨other, isOther, rfl, ends⟩⟩
    exact (afterOwner?_eq_some_iff (noDigitAhead_dash dash _)).mpr
      ⟨number, isNumber, by simp [whole]⟩

-----------------------------------------------------------------------------------------
-- The tests decide the languages
-----------------------------------------------------------------------------------------

/-- A name is one of an xponder's port of a side exactly if all of it is read. -/
theorem ofXponder_iff {part name : String} (dash : ∃ cs, part.toList = '-' :: cs)
    : (afterOwner? "XPDR" part name).bind Text.dropDigits? = some []
      ↔ ∃ unit port,
          IsNumber unit ∧ IsNumber port ∧ name = "XPDR" ++ unit ++ part ++ port := by
  rw [afterOwner?_number_iff dash]
  simp [NoDigitAhead, ← String.toList_inj]

theorem isNetwork_iff {name : String}
    : isNetwork name = true ↔ Names .network name := by
  rw [Names, ← ofXponder_iff ⟨_, rfl⟩]
  simp [isNetwork, afterOwner?, Option.bind_assoc]

theorem isClient_iff {name : String}
    : isClient name = true ↔ Names .client name := by
  rw [Names, ← ofXponder_iff ⟨_, rfl⟩]
  simp [isClient, afterOwner?, Option.bind_assoc]

theorem isDegree_iff {name : String}
    : isDegree name = true ↔ Names .degree name := by
  change endsOrDashes (afterOwner? "DEG" "-TTP" name) = true ↔ _
  rw [endsOrDashes_iff, Names]
  constructor
  · rintro ⟨tail, isTail, left⟩
    obtain ⟨degree, isNumber, whole⟩ :=
      (afterOwner?_eq_some_iff (noDigitAhead_dash rfl _)).mp left
    exact ⟨degree, tail, isNumber, isTail, by simpa [← String.toList_inj] using whole⟩
  · rintro ⟨degree, tail, isNumber, isTail, rfl⟩
    refine ⟨tail, isTail, (afterOwner?_eq_some_iff (noDigitAhead_dash rfl _)).mpr ?_⟩
    exact ⟨degree, isNumber, by simp⟩

theorem isRiskGroup_iff {name : String}
    : isRiskGroup name = true ↔ Names .riskGroup name := by
  have reads
      : isRiskGroup name
        = endsOrDashes ((afterOwner? "SRG" "-PP" name).bind Text.dropDigits?) := by
    simp [isRiskGroup, afterOwner?, Option.bind_assoc]
  rw [reads, endsOrDashes_iff, Names]
  constructor
  · rintro ⟨tail, isTail, left⟩
    obtain ⟨group, pair, isNumber, isPair, -, whole⟩ :=
      (afterOwner?_number_iff ⟨_, rfl⟩).mp left
    exact ⟨group, pair, tail, isNumber, isPair, isTail,
      by simpa [← String.toList_inj] using whole⟩
  · rintro ⟨group, pair, tail, isNumber, isPair, isTail, rfl⟩
    refine ⟨tail, isTail, (afterOwner?_number_iff ⟨_, rfl⟩).mpr ?_⟩
    exact ⟨group, pair, isNumber, isPair, noDigitAhead_tail isTail, by simp⟩

/-- The letter that the names of a role start with. -/
def initial
    : PortRole → Char
  | .network | .client => 'X'
  | .degree => 'D'
  | .riskGroup => 'S'

theorem head?_of_names {role : PortRole} {name : String} (named : Names role name)
    : name.toList.head? = some (initial role) := by
  cases role with
  | network | client | degree => obtain ⟨_, _, _, _, rfl⟩ := named; simp [initial]
  | riskGroup => obtain ⟨_, _, _, _, _, _, rfl⟩ := named; simp [initial]

/-- After the number of an xponder a name goes on with one side only. -/
theorem not_client_of_network {name : String} (network : Names .network name)
    : ¬ Names .client name := by
  intro client
  obtain ⟨_, line, -⟩ := Option.bind_eq_some_iff.mp ((ofXponder_iff ⟨_, rfl⟩).mpr network)
  obtain ⟨_, side, -⟩ := Option.bind_eq_some_iff.mp ((ofXponder_iff ⟨_, rfl⟩).mpr client)
  have same := part_unique line side
  simp at same

/-- No name is in the languages of two roles. -/
theorem names_unique {role other : PortRole} {name : String} (named : Names role name)
    (also : Names other name)
    : role = other := by
  have initials : initial role = initial other :=
    Option.some.inj ((head?_of_names named).symm.trans (head?_of_names also))
  by_contra apart
  have sides : role = .network ∧ other = .client ∨ role = .client ∧ other = .network := by
    revert initials apart
    cases role <;> cases other <;> decide
  rcases sides with ⟨rfl, rfl⟩ | ⟨rfl, rfl⟩
  · exact not_client_of_network named also
  · exact not_client_of_network also named

end PortName

-----------------------------------------------------------------------------------------
-- Roles
-----------------------------------------------------------------------------------------

namespace Port

open PortName

theorem names_of_roadmRole? {name : String} {role : PortRole}
    (found : roadmRole? name = some role)
    : (role = .degree ∨ role = .riskGroup) ∧ Names role name := by
  rw [roadmRole?] at found
  split at found
  · rename_i isDegree
    cases found
    exact ⟨Or.inl rfl, isDegree_iff.mp isDegree⟩
  · split at found
    · rename_i isRiskGroup
      cases found
      exact ⟨Or.inr rfl, isRiskGroup_iff.mp isRiskGroup⟩
    · cases found

/-- The role of a roadm port is the one of the two whose language its name is in. -/
theorem roadmRole?_eq_some_iff {name : String} {role : PortRole}
    : roadmRole? name = some role
      ↔ (role = .degree ∨ role = .riskGroup) ∧ Names role name := by
  refine ⟨names_of_roadmRole?, ?_⟩
  rintro ⟨roadm, named⟩
  have found : ∃ other, roadmRole? name = some other := by
    rw [roadmRole?]
    rcases roadm with rfl | rfl
    · exact ⟨_, if_pos (isDegree_iff.mpr named)⟩
    · rw [isRiskGroup_iff.mpr named]
      split
      · exact ⟨_, rfl⟩
      · exact ⟨_, rfl⟩
  obtain ⟨other, found⟩ := found
  rw [found, names_unique (names_of_roadmRole? found).2 named]

theorem names_of_roleOfName? {name : String} {role : PortRole}
    (found : roleOfName? name = some role)
    : Names role name := by
  rw [roleOfName?] at found
  split at found
  · rename_i isNetwork
    cases found
    exact isNetwork_iff.mp isNetwork
  · split at found
    · rename_i isClient
      cases found
      exact isClient_iff.mp isClient
    · exact (names_of_roadmRole? found).2

/-- The role of a port by its name is the one whose language the name is in. -/
theorem roleOfName?_eq_some_iff {name : String} {role : PortRole}
    : roleOfName? name = some role ↔ Names role name := by
  refine ⟨names_of_roleOfName?, ?_⟩
  intro named
  have found : ∃ other, roleOfName? name = some other := by
    rw [roleOfName?]
    split
    · exact ⟨_, rfl⟩
    · rename_i noNetwork
      split
      · exact ⟨_, rfl⟩
      · rename_i noClient
        refine ⟨role, roadmRole?_eq_some_iff.mpr ⟨?_, named⟩⟩
        cases role with
        | network => exact absurd (isNetwork_iff.mpr named) noNetwork
        | client => exact absurd (isClient_iff.mpr named) noClient
        | degree => exact Or.inl rfl
        | riskGroup => exact Or.inr rfl
  obtain ⟨other, found⟩ := found
  rw [found, names_unique (names_of_roleOfName? found) named]

/-- The words of the qualifiers are written without capitals. -/
theorem word_small (qualifier : PortQualifier)
    : ∀ letter ∈ qualifier.word.toList, letter ∉ Text.capitals.map Prod.snd := by
  have checked
      : (qualifier.word.toList.all fun letter => !(Text.capitals.map Prod.snd).contains letter)
        = true := by
    cases qualifier <;>
      simp only [PortQualifier.word, String.reduceToList] <;>
      decide
  simpa using checked

/-- A text names the qualifier whose word it spells. -/
theorem ofText?_eq_some_iff {text : String} {qualifier : PortQualifier}
    : PortQualifier.ofText? text = some qualifier ↔ Text.Spells text qualifier.word := by
  rw [← Text.lowerWord_eq_iff (word_small qualifier), PortQualifier.ofText?, Json.ofWord?]
  constructor
  · intro found
    have word : qualifier.word = Text.lowerWord text := by
      simpa using List.find?_some found
    exact word.symm
  · intro same
    rw [same]
    cases qualifier <;> rfl

/-- When a port has a role by its qualifier, the words in any letter case: the sides of an xponder
whatever the port is called, the parts of a roadm if the port is called so.
-/
def Qualifies (text name : String)
    : PortRole → Prop
  | .network => Text.Spells text "xpdr-network" ∨ Text.Spells text "switch-network"
  | .client => Text.Spells text "xpdr-client" ∨ Text.Spells text "switch-client"
  | .degree => Text.Spells text "roadm-external" ∧ Names .degree name
  | .riskGroup => Text.Spells text "roadm-external" ∧ Names .riskGroup name

/-- When a port has a role: by its name if it states no qualifier, else by the qualifier. -/
def Plays (p : Port) (role : PortRole)
    : Prop :=
  match p.qualifierText with
  | none => Names role p.name
  | some text => Qualifies text p.name role

/-- A stated qualifier gives a port the role that its word stands for. -/
theorem roleOfQualifier?_iff {text name : String} {role : PortRole}
    : (PortQualifier.ofText? text).bind (roleOfQualifier? name) = some role
      ↔ Qualifies text name role := by
  rw [Option.bind_eq_some_iff]
  constructor
  · rintro ⟨qualifier, stated, given⟩
    have spelled := ofText?_eq_some_iff.mp stated
    cases qualifier with
    | xponderNetwork | xponderClient =>
        cases given
        exact Or.inl spelled
    | switchNetwork | switchClient =>
        cases given
        exact Or.inr spelled
    | roadmExternal =>
        obtain ⟨rfl | rfl, named⟩ := names_of_roadmRole? given
        · exact ⟨spelled, named⟩
        · exact ⟨spelled, named⟩
    | roadmInternal => cases given
  · intro qualifies
    cases role with
    | network =>
        rcases qualifies with word | word
        · exact ⟨.xponderNetwork, ofText?_eq_some_iff.mpr word, rfl⟩
        · exact ⟨.switchNetwork, ofText?_eq_some_iff.mpr word, rfl⟩
    | client =>
        rcases qualifies with word | word
        · exact ⟨.xponderClient, ofText?_eq_some_iff.mpr word, rfl⟩
        · exact ⟨.switchClient, ofText?_eq_some_iff.mpr word, rfl⟩
    | degree =>
        obtain ⟨word, named⟩ := qualifies
        exact ⟨.roadmExternal, ofText?_eq_some_iff.mpr word,
          roadmRole?_eq_some_iff.mpr ⟨Or.inl rfl, named⟩⟩
    | riskGroup =>
        obtain ⟨word, named⟩ := qualifies
        exact ⟨.roadmExternal, ofText?_eq_some_iff.mpr word,
          roadmRole?_eq_some_iff.mpr ⟨Or.inr rfl, named⟩⟩

/-- A port is classified by the grammar: it has a role exactly if its name, or its qualifier where
it states one, stands for that role, and none exactly if they stand for no role.
-/
theorem role?_accepts_grammar (p : Port)
    : (∀ role, p.role? = some role ↔ p.Plays role)
      ∧ (p.role? = none ↔ ∀ role, ¬ p.Plays role) := by
  have plays : ∀ role, p.role? = some role ↔ p.Plays role := by
    intro role
    rw [role?, Plays]
    cases p.qualifierText with
    | none => exact roleOfName?_eq_some_iff
    | some text => exact roleOfQualifier?_iff
  refine ⟨plays, ?_⟩
  simp only [Option.eq_none_iff_forall_ne_some, ne_eq, plays]

/-- Numbers may be of any script, and what follows the dash of a roadm name may be anything. -/
example
    : role? { name := "XPDR\u0663-NETWORK1" } = some .network
      ∧ role? { name := "DEG1-TTP-\n" } = some .degree
      ∧ role? { name := "DEG1-TTP\n" } = none := by
  decide +kernel

/-- Qualifiers may be in capitals, with the Kelvin sign for the one of `k`. -/
example (name : String)
    : role? { name, qualifierText := some "XPDR-NETWOR\u212a" } = some .network
      ∧ role? { name, qualifierText := some "XPDR-NETWORKS" } = none
      ∧ role? { name := "DEG1-TTP", qualifierText := some "Roadm-External" } = some .degree
      ∧ role? { name := "DEG1-CTP", qualifierText := some "Roadm-External" } = none := by
  refine ⟨?_, ?_, by decide +kernel, by decide +kernel⟩
  · have stated : PortQualifier.ofText? "XPDR-NETWOR\u212a" = some .xponderNetwork := by
      decide +kernel
    simp only [role?, stated]
    rfl
  · have unknown : PortQualifier.ofText? "XPDR-NETWORKS" = none := by decide +kernel
    simp only [role?, unknown]
    rfl

end Port

end Lightpath
