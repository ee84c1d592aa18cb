import ExpectationTable.Text.Opening

/-!
# Patterns

A pattern describes the beginning of a text and keeps parts of it under names. Since a text may
match in several ways, the ways are put in an order of preference, part by part from the left: more
characters of a class go before fewer, and a part that may be left out is rather there. The way that
is preferred among those that take the whole text decides what is kept.
-/

namespace ExpectationTable.Text

/-- What a text may begin with. -/
inductive Pattern where
  | literal (text : String)
  /-- One character of a class. -/
  | one (accepted : Char → Bool)
  /-- Any number of characters of a class. -/
  | many (accepted : Char → Bool)
  | sequence (first second : Pattern)
  | optional (body : Pattern)
  /-- The body, whose text is kept under the name. -/
  | named (name : String) (body : Pattern)

namespace Pattern

/-- One way to match a pattern: what it takes of the text, what follows, and what is kept. -/
structure Way where
  taken : List Char
  rest : List Char
  kept : List (String × String) := []

namespace Way

/-- The way goes on with another. -/
def andThen (first second : Way) : Way :=
  ⟨first.taken ++ second.taken, second.rest, first.kept ++ second.kept⟩

/-- What the way takes is kept under a name. -/
def keep (name : String) (way : Way) : Way :=
  { way with kept := (name, String.ofList way.taken) :: way.kept }

/-- The way takes one more character in front. -/
def push (c : Char) (way : Way) : Way :=
  { way with taken := c :: way.taken }

end Way

/-- The ways to take characters of a class, from the longest to the empty one. -/
def runs (accepted : Char → Bool) : List Char → List Way
  | [] => [{ taken := [], rest := [] }]
  | c :: text =>
      if accepted c then
        (runs accepted text).map (·.push c) ++ [{ taken := [], rest := c :: text }]
      else
        [{ taken := [], rest := c :: text }]

/-- The ways in which a text begins with the pattern, the preferred ones first. -/
def ways : Pattern → List Char → List Way
  | .literal expected, text =>
      match after? expected text with
      | some rest => [{ taken := expected.toList, rest }]
      | none => []
  | .one _, [] => []
  | .one accepted, c :: text => if accepted c then [{ taken := [c], rest := text }] else []
  | .many accepted, text => runs accepted text
  | .sequence first second, text =>
      (first.ways text).flatMap fun way => (second.ways way.rest).map way.andThen
  | .optional body, text => body.ways text ++ [{ taken := [], rest := text }]
  | .named name body, text => (body.ways text).map (·.keep name)

/-- The preferred way to take a whole text. -/
def whole? (pattern : Pattern) (text : List Char) : Option Way :=
  (pattern.ways text).find? (·.rest.isEmpty)

/-- At least one character of a class. -/
def some (accepted : Char → Bool) : Pattern :=
  .sequence (.one accepted) (.many accepted)

/-! ## The ways of each pattern -/

variable {accepted : Char → Bool} {text : List Char} {way : Way}

theorem mem_ways_literal {expected : String} :
    way ∈ (literal expected).ways text ↔
      ∃ rest, text = expected.toList ++ rest ∧ way = { taken := expected.toList, rest } := by
  simp only [← after?_eq_some_iff]
  rw [ways]
  cases after? expected text <;> simp

theorem mem_ways_one :
    way ∈ (one accepted).ways text ↔
      ∃ c rest, text = c :: rest ∧ accepted c = true ∧ way = { taken := [c], rest } := by
  cases text with
  | nil => simp [ways]
  | cons c text =>
      rw [ways]
      split <;> grind

/-- Characters of a class can be taken in all ways. -/
theorem mem_ways_many :
    way ∈ (many accepted).ways text ↔
      ∃ taken rest, text = taken ++ rest ∧ (∀ c ∈ taken, accepted c = true) ∧
        way = { taken, rest } := by
  rw [ways]
  induction text generalizing way with
  | nil =>
      rw [runs, List.mem_singleton]
      constructor
      · intro same
        exact ⟨[], [], rfl, by simp, same⟩
      · intro ⟨taken, rest, whole, _, same⟩
        rcases List.nil_eq_append_iff.mp whole with ⟨rfl, rfl⟩
        exact same
  | cons c text ih =>
      rw [runs]
      split
      next first =>
        simp only [List.mem_append, List.mem_map, List.mem_singleton, ih]
        constructor
        · intro member
          rcases member with ⟨shorter, ⟨taken, rest, rfl, inside, rfl⟩, rfl⟩ | rfl
          · exact ⟨c :: taken, rest, rfl, List.forall_mem_cons.mpr ⟨first, inside⟩, rfl⟩
          · exact ⟨[], c :: text, rfl, by simp, rfl⟩
        · intro ⟨taken, rest, whole, inside, same⟩
          rcases List.cons_eq_append_iff.mp whole with ⟨rfl, rfl⟩ | ⟨taken, rfl, rfl⟩
          · exact .inr same
          · left
            refine ⟨{ taken, rest }, ⟨taken, rest, rfl, ?_, rfl⟩, same.symm⟩
            exact (List.forall_mem_cons.mp inside).2
      next refused =>
        rw [List.mem_singleton]
        constructor
        · intro same
          exact ⟨[], c :: text, rfl, by simp, same⟩
        · intro ⟨taken, rest, whole, inside, same⟩
          rcases List.cons_eq_append_iff.mp whole with ⟨rfl, rfl⟩ | ⟨taken, rfl, rfl⟩
          · exact same
          · exact absurd (inside c List.mem_cons_self) refused

/-- A word is taken in all ways that leave at least one character to it. -/
theorem mem_ways_some :
    way ∈ (some accepted).ways text ↔
      ∃ taken rest, text = taken ++ rest ∧ taken ≠ [] ∧ (∀ c ∈ taken, accepted c = true) ∧
        way = { taken, rest } := by
  rw [some, ways]
  simp only [List.mem_flatMap, List.mem_map, mem_ways_one, mem_ways_many]
  constructor
  · intro member
    rcases member with ⟨_, ⟨c, _, rfl, first, rfl⟩, _, ⟨taken, rest, split, inside, rfl⟩, same⟩
    refine ⟨c :: taken, rest, by simpa using split, by simp, ?_, same.symm⟩
    exact List.forall_mem_cons.mpr ⟨first, inside⟩
  · intro ⟨word, rest, whole, nonempty, inside, same⟩
    cases word with
    | nil => contradiction
    | cons c taken =>
        rcases List.forall_mem_cons.mp inside with ⟨first, others⟩
        exact ⟨_, ⟨c, taken ++ rest, whole, first, rfl⟩, _, ⟨taken, rest, rfl, others, rfl⟩,
          same.symm⟩

/-- Of two ways to take characters of a class, the longer one is preferred. -/
theorem pairwise_runs (accepted : Char → Bool) (text : List Char) :
    (runs accepted text).Pairwise fun preferred other =>
      other.taken.length < preferred.taken.length := by
  induction text with
  | nil => simp [runs]
  | cons c text ih =>
      rw [runs]
      split
      next =>
        rw [List.pairwise_append]
        refine ⟨?_, List.pairwise_singleton _ _, by simp [Way.push]⟩
        rw [List.pairwise_map]
        simpa [Way.push] using ih
      next => exact List.pairwise_singleton _ _

/-! ## What is kept, without regard to preference -/

/-- There is a way that keeps these parts and leaves this rest. -/
def Takes (pattern : Pattern) (text : List Char) (kept : List (String × String))
    (rest : List Char) : Prop :=
  ∃ taken, { taken, rest, kept } ∈ pattern.ways text

variable {kept : List (String × String)} {rest : List Char}

theorem takes_literal_iff {expected : String} :
    (literal expected).Takes text kept rest ↔ text = expected.toList ++ rest ∧ kept = [] := by
  simp only [Takes, mem_ways_literal, Way.mk.injEq]
  constructor
  · intro ⟨_, _, opened, _, same, nothing⟩
    exact ⟨same ▸ opened, nothing⟩
  · intro ⟨opened, nothing⟩
    exact ⟨_, rest, opened, rfl, rfl, nothing⟩

theorem takes_sequence_iff {first second : Pattern} :
    (sequence first second).Takes text kept rest ↔
      ∃ start between finish, first.Takes text start between ∧ second.Takes between finish rest ∧
        kept = start ++ finish := by
  simp only [Takes, ways, List.mem_flatMap, List.mem_map]
  constructor
  · intro ⟨_, before, beforeMember, after, afterMember, joined⟩
    cases joined
    exact ⟨_, _, _, ⟨_, beforeMember⟩, ⟨_, afterMember⟩, rfl⟩
  · intro ⟨start, between, finish, ⟨_, beforeMember⟩, ⟨_, afterMember⟩, same⟩
    subst same
    exact ⟨_, _, beforeMember, _, afterMember, rfl⟩

theorem takes_optional_iff {body : Pattern} :
    (optional body).Takes text kept rest ↔
      body.Takes text kept rest ∨ kept = [] ∧ rest = text := by
  simp only [Takes, ways, List.mem_append, List.mem_singleton, Way.mk.injEq]
  constructor
  · intro ⟨taken, member⟩
    rcases member with member | ⟨-, same, nothing⟩
    · exact .inl ⟨taken, member⟩
    · exact .inr ⟨nothing, same⟩
  · intro member
    rcases member with ⟨taken, member⟩ | ⟨nothing, same⟩
    · exact ⟨taken, .inl member⟩
    · exact ⟨[], .inr ⟨rfl, same, nothing⟩⟩

theorem takes_named_iff {name : String} {body : Pattern} :
    (named name body).Takes text kept rest ↔
      ∃ taken inner, { taken, rest, kept := inner } ∈ body.ways text ∧
        kept = (name, String.ofList taken) :: inner := by
  simp only [Takes, ways, List.mem_map]
  constructor
  · intro ⟨_, way, member, same⟩
    cases same
    exact ⟨way.taken, way.kept, member, rfl⟩
  · intro ⟨taken, inner, member, same⟩
    subst same
    exact ⟨taken, _, member, rfl⟩

theorem takes_named_many_iff {name : String} :
    (named name (many accepted)).Takes text kept rest ↔
      ∃ taken, text = taken ++ rest ∧ (∀ c ∈ taken, accepted c = true) ∧
        kept = [(name, String.ofList taken)] := by
  simp only [takes_named_iff, mem_ways_many, Way.mk.injEq]
  grind

theorem takes_named_some_iff {name : String} :
    (named name (some accepted)).Takes text kept rest ↔
      ∃ taken, text = taken ++ rest ∧ taken ≠ [] ∧ (∀ c ∈ taken, accepted c = true) ∧
        kept = [(name, String.ofList taken)] := by
  simp only [takes_named_iff, mem_ways_some, Way.mk.injEq]
  grind

end Pattern

end ExpectationTable.Text
