import Offside.Lexeme.Basic

/-! # Reading an operator

Operators are read by tables of their own. The first character decides on a family of operators, and
what stands behind it on a member of the family: the longer members are tried before the shorter,
and the last is the character alone. These tables and the spellings of operators agree.
-/

namespace Offside

namespace Operator

/-- The operators that start with one character. -/
structure Family where
  /-- What the longer ones have behind that character, no shorter text before a longer one. -/
  suffixes : List (Text × Operator)
  /-- The one that is the character alone. -/
  alone : Operator
deriving DecidableEq, Repr

/-- The families of operators, each by the character that its members start with. -/
def families : List (Char × Family) :=
  [('(', ⟨[], leftParen⟩), (')', ⟨[], rightParen⟩),
   ('[', ⟨[], leftBracket⟩), (']', ⟨[], rightBracket⟩),
   ('{', ⟨[], leftBrace⟩), ('}', ⟨[], rightBrace⟩),
   ('+', ⟨[(['+'], plusPlus), (['='], plusEqual)], plus⟩),
   ('-', ⟨[(['-'], minusMinus), (['='], minusEqual), (['>'], arrow)], minus⟩),
   ('*', ⟨[(['*', '='], starStarEqual), (['*'], starStar), (['='], starEqual)], star⟩),
   ('/', ⟨[(['/', '='], slashSlashEqual), (['/'], slashSlash), (['='], slashEqual)], slash⟩),
   ('%', ⟨[(['='], percentEqual)], percent⟩),
   ('&', ⟨[(['&'], doubleAmpersand)], ampersand⟩), ('|', ⟨[(['|'], doubleBar)], bar⟩),
   ('!', ⟨[(['='], bangEqual)], bang⟩), ('=', ⟨[(['='], doubleEqual)], equal⟩),
   ('>', ⟨[(['='], greaterEqual)], greater⟩), ('<', ⟨[(['='], lessEqual)], less⟩),
   ('.', ⟨[], dot⟩), (',', ⟨[], comma⟩), (':', ⟨[], colon⟩), (';', ⟨[], semicolon⟩),
   ('?', ⟨[], question⟩)]

/-- The members of a family with what they have behind the first character, in the order in which
they are tried. -/
def Family.members (family : Family) : List (Text × Operator) :=
  family.suffixes ++ [([], family.alone)]

/-- The member of a family that is read where this text stands behind the first character, and what
it has of the text. -/
def Family.munch (family : Family) (rest : Text) : Text × Operator :=
  (family.suffixes.find? fun (suffix, _) => suffix.isPrefixOf rest).getD ([], family.alone)

/-- The operator at the front of a text that starts with `first` and goes on with `rest`, and what
it has of the rest. -/
def read? (first : Char) (rest : Text) : Option (Text × Operator) :=
  (families.lookup first).map fun family => family.munch rest

/-- The operators of all families, in each of them the longest first. -/
def longestFirst : List Operator := families.flatMap fun (_, family) => family.members.map Prod.snd

/-- The tables leave no operator out. -/
theorem mem_longestFirst (operator : Operator) : operator ∈ longestFirst := by
  cases operator <;> decide

namespace Family

variable {family : Family} {rest : Text}

/-- The member that is read is the first that fits. -/
theorem find?_members (family : Family) (rest : Text) :
    family.members.find? (fun (suffix, _) => suffix.isPrefixOf rest) =
      some (family.munch rest) := by
  rw [members, munch, List.find?_append]
  cases family.suffixes.find? fun (suffix, _) => suffix.isPrefixOf rest <;> simp

theorem munch_mem (family : Family) (rest : Text) : family.munch rest ∈ family.members :=
  List.mem_of_find?_eq_some (family.find?_members rest)

theorem munch_prefix (family : Family) (rest : Text) : (family.munch rest).1 <+: rest := by
  simpa using List.find?_some (family.find?_members rest)

/-- No member that fits has more of the text than the one that is read: along a family, suffixes
never grow. -/
theorem length_le_munch {first : Char} (listed : (first, family) ∈ families)
    {member : Text × Operator} (present : member ∈ family.members) (fits : member.1 <+: rest) :
    member.1.length ≤ (family.munch rest).1.length := by
  have sorted : ∀ entry ∈ families,
      entry.2.members.Pairwise fun earlier later => later.1.length ≤ earlier.1.length := by decide
  have order := sorted _ listed
  obtain ⟨_, before, behind, table, refused⟩ :=
    List.find?_eq_some_iff_append.1 (family.find?_members rest)
  rw [table] at present order
  rcases List.mem_append.1 present with passed | tried
  · have misfit := refused member passed
    simp [List.isPrefixOf_iff_prefix.2 fits] at misfit
  · rcases List.mem_cons.1 tried with rfl | later
    · exact Nat.le_refl _
    · exact (List.pairwise_cons.1 (List.pairwise_append.1 order).2.1).1 member later

end Family

/-- A family is found by the character that its members start with. -/
theorem lookup_families_eq_some_iff {first : Char} {family : Family} :
    families.lookup first = some family ↔ (first, family) ∈ families := by
  have distinct : ∀ entry ∈ families, families.lookup entry.1 = some entry.2 := by decide
  exact ⟨mem_of_lookup, distinct _⟩

/-- The two tables agree: an operator is listed in a family behind the first character and with the
others of its spelling. -/
theorem mem_families_iff {first : Char} {suffix : Text} {operator : Operator} :
    (∃ family, (first, family) ∈ families ∧ (suffix, operator) ∈ family.members) ↔
      operator.spelling = first :: suffix := by
  have spelled : ∀ entry ∈ families, ∀ member ∈ entry.2.members,
      member.2.spelling = entry.1 :: member.1 := by decide
  constructor
  · rintro ⟨family, listed, member⟩
    exact spelled _ listed _ member
  · intro spelling
    obtain ⟨⟨start, family⟩, listed, present⟩ := List.mem_flatMap.1 (mem_longestFirst operator)
    obtain ⟨⟨others, _⟩, member, rfl⟩ := List.mem_map.1 present
    obtain ⟨rfl, rfl⟩ := List.cons.inj ((spelled _ listed _ member).symm.trans spelling)
    exact ⟨family, listed, member⟩

section Read

variable {first : Char} {rest suffix : Text} {operator : Operator}

/-- What is read is the member that is read of a family. -/
theorem read?_eq_some_iff : read? first rest = some (suffix, operator) ↔
    ∃ family, (first, family) ∈ families ∧ family.munch rest = (suffix, operator) := by
  simp only [read?, Option.map_eq_some_iff, lookup_families_eq_some_iff]

/-- An operator is read where its spelling stands. -/
theorem spelling_of_read? (read : read? first rest = some (suffix, operator)) :
    operator.spelling = first :: suffix ∧ suffix <+: rest := by
  obtain ⟨family, listed, munched⟩ := read?_eq_some_iff.1 read
  have member := family.munch_mem rest
  have begins := family.munch_prefix rest
  rw [munched] at member begins
  exact ⟨mem_families_iff.1 ⟨family, listed, member⟩, begins⟩

/-- An operator is read where the spelling of one stands, and its own is no shorter. -/
theorem exists_read?_of_prefix (begins : operator.spelling <+: first :: rest) :
    ∃ suffix sign, read? first rest = some (suffix, sign) ∧
      operator.spelling.length ≤ sign.spelling.length := by
  obtain ⟨start, others, spelled⟩ := operator.exists_spelling_eq_cons
  rw [spelled] at begins
  obtain ⟨rfl, fits⟩ := List.cons_prefix_cons.1 begins
  obtain ⟨family, listed, member⟩ := mem_families_iff.2 spelled
  have read : read? start rest = some (family.munch rest) :=
    read?_eq_some_iff.2 ⟨family, listed, rfl⟩
  refine ⟨_, _, read, ?_⟩
  rw [spelled, (spelling_of_read? read).1]
  exact Nat.succ_le_succ (Family.length_le_munch listed member fits)

/-- An operator is read back from its spelling. -/
theorem read?_of_spelling (spelled : operator.spelling = first :: rest) :
    read? first rest = some (rest, operator) := by
  cases operator <;> (obtain ⟨rfl, rfl⟩ := List.cons.inj spelled; rfl)

end Read

/-- No two operators look the same. -/
theorem spelling_injective {left right : Operator} (same : left.spelling = right.spelling) :
    left = right := by
  obtain ⟨first, rest, spelled⟩ := right.exists_spelling_eq_cons
  have read := read?_of_spelling (same.trans spelled)
  rw [read?_of_spelling spelled] at read
  exact (Prod.mk.inj (Option.some.inj read)).2.symm

end Operator

/-- The lexeme of an operator that has this text behind its first character. -/
def Lexeme.ofOperator (suffix : Text) (operator : Operator) : Lexeme :=
  ⟨some (.operator operator), suffix.length + 1, [], Nat.succ_pos _⟩

end Offside
