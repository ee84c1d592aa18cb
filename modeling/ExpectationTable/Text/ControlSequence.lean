/-!
# Control sequences

A text from elsewhere may hold characters that a terminal obeys instead of showing them. It is
quoted without these. A control character goes alone, and one that only lays the text out stays. An
escape character takes the sequence with it that it opens: up to a final letter, or up to the end of
a string. A cancel or a substitute character breaks any sequence off, and another escape opens the
next one.

White space in a sequence that is no string is shown and suspends the sequence, and so what follows
is shown too. The next control character that is not white space takes the sequence up again, unless
a character above ASCII has come between and ended it.

So quoting leaves nothing but text that is safe to show, and it leaves such a text alone.
-/

namespace ExpectationTable.Text

/-- Control characters are those of ASCII. The ones above count as text. -/
def isControl (c : Char) : Bool :=
  c < ' ' || c = '\x7f'

/-- A tab, a line feed, a form feed or a carriage return. -/
def isLayout (c : Char) : Bool :=
  c = '\t' || c = '\n' || c = '\x0c' || c = '\r'

/-- A character that a text may hold when it is quoted. -/
def isQuotable (c : Char) : Bool :=
  !isControl c || isLayout c

namespace ControlSequence

/-- How far a text has got into a control sequence. A device string has a head of parameters and
intermediates; all that is behind it is told apart by its end alone. -/
inductive Progress where
  | outside
  | escape
  | escapeIntermediates
  | control
  | deviceStart
  | deviceParameters
  | deviceIntermediates
  | string
  | command

def isWithin (first last c : Char) : Bool :=
  first ≤ c && c ≤ last

/-- The byte that ends a string, wherever it stands in the encoding of a character. -/
def stringTerminator : UInt8 := 0x9c

namespace Progress

/-- Whether a character is shown that is met this far. -/
def shows (progress : Progress) (c : Char) : Bool :=
  match progress with
  | .outside => isQuotable c
  | .escape | .escapeIntermediates | .control => isLayout c
  | .deviceStart | .deviceParameters | .deviceIntermediates | .string | .command => false

/-- What a character that is not shown leads to. -/
def next (progress : Progress) (c : Char) : Progress :=
  if c = '\x18' || c = '\x1a' then .outside
  else if c = '\x1b' then .escape
  else match progress with
  | .outside => .outside
  | .escape =>
      if c = '[' then .control
      else if c = ']' then .command
      else if c = 'P' then .deviceStart
      else if c = 'X' || c = '^' || c = '_' then .string
      else if isWithin ' ' '/' c then .escapeIntermediates
      else if isWithin '0' '~' c then .outside
      else .escape
  | .escapeIntermediates => if isWithin '0' '~' c then .outside else .escapeIntermediates
  | .control => if isWithin '@' '~' c then .outside else .control
  | .deviceStart =>
      if isWithin ' ' '/' c then .deviceIntermediates
      else if isWithin '0' '?' c then .deviceParameters
      else if isWithin '@' '~' c then .string
      else .deviceStart
  | .deviceParameters =>
      if isWithin ' ' '/' c then .deviceIntermediates
      else if isWithin '<' '~' c then .string
      else .deviceParameters
  | .deviceIntermediates => if isWithin '0' '~' c then .string else .deviceIntermediates
  | .string => if (String.utf8EncodeChar c).contains stringTerminator then .outside else .string
  | .command => if c = '\x07' then .outside else .command

end Progress

/-- Where a text stands: how far it has got into a sequence, and whether that is suspended. -/
structure Position where
  progress : Progress := .outside
  isSuspended : Bool := false

namespace Position

/-- Whether a character is shown that is met here. -/
def shows (position : Position) (c : Char) : Bool :=
  if position.isSuspended then isQuotable c else position.progress.shows c

/-- Where a character leads to. One that is shown suspends a sequence or, above ASCII, ends it. -/
def next (position : Position) (c : Char) : Position :=
  if position.shows c then
    if c ≤ '\x7f' then ⟨position.progress, true⟩ else {}
  else ⟨position.progress.next c, false⟩

/-- No sequence is being taken in, and so text is shown. -/
def IsOpen (position : Position) : Prop :=
  position.isSuspended = true ∨ position.progress = .outside

theorem isQuotable_of_shows {position : Position} {c : Char} (shows : position.shows c = true) :
    isQuotable c = true := by
  rw [Position.shows] at shows
  split at shows
  next => exact shows
  next =>
    cases progress : position.progress <;>
      simp_all [Progress.shows, isQuotable]

theorem IsOpen.shows {position : Position} (isOpen : position.IsOpen) {c : Char}
    (quotable : isQuotable c = true) : position.shows c = true := by
  rcases isOpen with suspended | outside
  · rw [Position.shows, if_pos suspended, quotable]
  · simp [Position.shows, Progress.shows, outside, quotable]

theorem isOpen_next {position : Position} {c : Char} (shows : position.shows c = true) :
    (position.next c).IsOpen := by
  rw [next, if_pos shows]
  split
  next => exact .inl rfl
  next => exact .inr rfl

end Position

/-- The characters that are shown, from a position on. -/
def shown : Position → List Char → List Char
  | _, [] => []
  | position, c :: rest =>
      if position.shows c then c :: shown (position.next c) rest else shown (position.next c) rest

theorem isQuotable_of_mem_shown {position : Position} {text : List Char} {c : Char}
    (member : c ∈ shown position text) : isQuotable c = true := by
  fun_induction shown position text with
  | case1 => simp at member
  | case2 position head rest shows ih =>
      rcases List.mem_cons.mp member with rfl | member
      · exact Position.isQuotable_of_shows shows
      · exact ih member
  | case3 position head rest _ ih => exact ih member

/-- In the open a text of quotable characters is shown as it is. -/
theorem shown_eq_self {position : Position} (isOpen : position.IsOpen) {text : List Char}
    (quotable : ∀ c ∈ text, isQuotable c = true) : shown position text = text := by
  induction text generalizing position with
  | nil => rfl
  | cons c rest ih =>
      have shows := isOpen.shows (quotable c List.mem_cons_self)
      rw [shown, if_pos shows, ih (Position.isOpen_next shows)]
      exact fun c member => quotable c (List.mem_cons_of_mem _ member)

end ControlSequence

def quoted (text : String) : String :=
  String.ofList (ControlSequence.shown {} text.toList)

/-- What is quoted holds nothing that a terminal would obey. -/
theorem isQuotable_of_mem_quoted {text : String} {c : Char} (member : c ∈ (quoted text).toList) :
    isQuotable c = true := by
  rw [quoted, String.toList_ofList] at member
  exact ControlSequence.isQuotable_of_mem_shown member

/-- A text without control characters other than white space is quoted as it is. -/
theorem quoted_eq_self {text : String} (quotable : ∀ c ∈ text.toList, isQuotable c = true) :
    quoted text = text := by
  rw [quoted, ControlSequence.shown_eq_self (.inr rfl) quotable, String.ofList_toList]

end ExpectationTable.Text
