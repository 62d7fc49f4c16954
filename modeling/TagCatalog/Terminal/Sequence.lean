/-!
What a terminal shows of a text.

A text may hold escape sequences, which a terminal obeys instead of showing them.
A sequence starts with the escape character; what follows that says how far the
sequence goes.  `withoutSequences` leaves out all sequences and all control
characters but blank ones.  `visible_of_shows` says that a text without control
characters is shown as it is.
-/

namespace TagCatalog.Terminal

inductive State where
  /-- Outside of all sequences. -/
  | ground
  | escape
  /-- Behind the escape character and further marks. -/
  | marked
  /-- In a control sequence. -/
  | control
  /-- At the start of a control string for the device. -/
  | device
  | deviceParameters
  | deviceMarked
  /-- In a string that a terminal keeps to itself. -/
  | string
  /-- In a string that is for the operating system. -/
  | system
deriving DecidableEq

namespace State

/-- Whether control characters work, instead of being a part of a string. -/
def obeysControls : State → Bool
  | ground | escape | marked | control => true
  | _ => false

/-- Where the sequence goes on that has started with an escape character and the
given one. -/
def afterEscape (character : Char) : State :=
  if character < '0' then
    marked
  else
    match character with
    | '[' => control
    | ']' => system
    | 'P' => device
    | 'X' | '^' | '_' => string
    | _ => ground

/-- Where a control string for the device goes on behind a character of its
head, if it may have parameters there, and marks. -/
def afterDevice (parameters : Bool) (character : Char) : State :=
  if character < '0' then
    deviceMarked
  else if character < '<' && parameters then
    deviceParameters
  else
    string

/-- Whether a character ends a string because its UTF-8 form holds the byte that
does. -/
def endsString (character : Char) : Bool :=
  (String.utf8EncodeChar character).contains 0x9C

def afterPrintable (state : State) (character : Char) : State :=
  match state with
  | ground => ground
  | escape => afterEscape character
  | marked => if character < '0' then marked else ground
  | control => if character < '@' then control else ground
  | device =>
      if '<' ≤ character && character < '@' then deviceParameters
      else afterDevice true character
  | deviceParameters => afterDevice true character
  | deviceMarked => afterDevice false character
  | string => string
  | system => system

/-- Whether a control character is blank and is therefore shown wherever it
works.  It ends a sequence. -/
def showsBlank (state : State) (character : Char) : Bool :=
  state.obeysControls &&
    (character = '\t' || character = '\n' || character = '\x0c' || character = '\r')

def afterControl (state : State) (character : Char) : State :=
  if character = '\x1b' then
    escape
  else if character = '\x18' || character = '\x1a' then
    ground
  else if state = system && character = '\x07' then
    ground
  else if state.showsBlank character then
    ground
  else
    state

def next (state : State) (character : Char) : State :=
  if character < ' ' then
    state.afterControl character
  else if character < '\x7f' then
    state.afterPrintable character
  else if state = string && endsString character then
    ground
  else
    state

def shows (state : State) (character : Char) : Bool :=
  if character < ' ' then
    state.showsBlank character
  else
    state = ground && character ≠ '\x7f'

def visible (state : State) : List Char → List Char
  | [] => []
  | character :: rest =>
      if state.shows character then
        character :: visible (state.next character) rest
      else
        visible (state.next character) rest

theorem next_ground_of_shows {character : Char} (shown : ground.shows character = true) :
    ground.next character = ground := by
  unfold shows at shown
  unfold next
  by_cases below : character < ' '
  · rw [if_pos below] at shown ⊢
    unfold afterControl
    by_cases escape : character = '\x1b'
    · rw [escape] at shown
      exact absurd shown (by decide)
    · rw [if_neg escape]
      split
      · rfl
      · simp
  · rw [if_neg below]
    split
    · rfl
    · simp

theorem visible_of_shows {text : List Char}
    (shown : ∀ character ∈ text, ground.shows character = true) :
    ground.visible text = text := by
  induction text with
  | nil => rfl
  | cons first rest inductionHypothesis =>
      have front : ground.shows first = true := shown first (by simp)
      rw [visible, if_pos front, next_ground_of_shows front,
        inductionHypothesis fun character member => shown character (by simp [member])]

end State

def withoutSequences (text : String) : String :=
  String.ofList (State.ground.visible text.toList)

end TagCatalog.Terminal
