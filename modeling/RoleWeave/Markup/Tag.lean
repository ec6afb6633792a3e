import RoleWeave.Text.Basic

/-!
# The tag vocabulary

Fifteen tags structure a role document. Their names are compared without regard to the case of
basic Latin letters. Tags with any other name are not part of the vocabulary; documents may hold
them, but they carry no meaning here.
-/

namespace RoleWeave

/-- The tags with a meaning, in their fixed order. -/
inductive Tag where
  | role
  | personality
  | principle
  | knowledge
  | thought
  | exploration
  | reasoning
  | challenge
  | plan
  | execution
  | constraint
  | rule
  | guideline
  | process
  | criteria
deriving DecidableEq, Repr, Inhabited

namespace Tag

/-- Every tag once, in the order of the vocabulary. -/
def all : List Tag :=
  [role, personality, principle, knowledge, thought, exploration, reasoning, challenge, plan,
    execution, constraint, rule, guideline, process, criteria]

/-- The sections that a role is composed from, in the order in which they are shown. -/
def sections : List Tag := [personality, principle, knowledge]

/-- The written name of a tag. -/
def name : Tag → Text
  | role => "role".toList
  | personality => "personality".toList
  | principle => "principle".toList
  | knowledge => "knowledge".toList
  | thought => "thought".toList
  | exploration => "exploration".toList
  | reasoning => "reasoning".toList
  | challenge => "challenge".toList
  | plan => "plan".toList
  | execution => "execution".toList
  | constraint => "constraint".toList
  | rule => "rule".toList
  | guideline => "guideline".toList
  | process => "process".toList
  | criteria => "criteria".toList

/-- The name of a tag as a heading, with a capital letter. -/
def title (tag : Tag) : Text :=
  match tag.name with
  | [] => []
  | c :: rest => c.toUpper :: rest

/-- The tag of this name, if the vocabulary has it. -/
def ofName? (name : Text) : Option Tag :=
  all.find? (fun tag => tag.name == Text.lowerLatin name)

/-- The vocabulary leaves no tag out. -/
theorem mem_all (tag : Tag) : tag ∈ all := by
  cases tag <;> decide

/-- A tag is found under its own name. -/
theorem ofName?_name (tag : Tag) : ofName? tag.name = some tag := by
  cases tag <;> decide

end Tag

end RoleWeave
