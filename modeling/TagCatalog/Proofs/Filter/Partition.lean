import TagCatalog.Proofs.Filter.Items
import TagCatalog.Proofs.Filter.Span

/-!
# The partition of a text

A lexer that is asked for items up to the end of its text, past all that is no token,
gives the runs of the text with the places where they start and stop.  `Divided` is the
row of runs between blanks; a text has just one (`Divided.takeAll_eq`), and a cursor can
always go on with it (`exists_divided`).  So the spans are disjoint and in order, and they
cover what is not blank.
-/

namespace TagCatalog.Filter

open Text

structure Span where
  item : Item
  stop : Nat

def Span.start (span : Span) : Nat := span.item.position

namespace Lexer

theorem next_of_take {lexer after : Lexer} {item : Item} (taken : lexer.take = (item, after)) :
    lexer.cursor.next = (item, after.cursor) := by
  cases taken
  rfl

theorem rest_length_lt {lexer after : Lexer} {item : Item} (taken : lexer.take = (item, after))
    (more : ∀ position, item ≠ .finish position) :
    after.cursor.rest.length < lexer.cursor.rest.length :=
  Cursor.next_rest_length_lt (next_of_take taken) more

/-- What a lexer takes until it first comes to the end of the text, with or without
faults. -/
def takeAll (lexer : Lexer) : List Span :=
  match _taken : lexer.take with
  | (.finish position, after) => [⟨.finish position, after.cursor.position⟩]
  | (.lexeme found, after) => ⟨.lexeme found, after.cursor.position⟩ :: after.takeAll
  | (.fault error, after) => ⟨.fault error, after.cursor.position⟩ :: after.takeAll
termination_by lexer.cursor.rest.length
decreasing_by
  · exact rest_length_lt _taken (by simp)
  · exact rest_length_lt _taken (by simp)

theorem takeAll_finish {lexer after : Lexer} {position : Nat}
    (taken : lexer.take = (.finish position, after)) :
    lexer.takeAll = [⟨.finish position, after.cursor.position⟩] := by
  rw [takeAll, taken]

theorem takeAll_ofRun {lexer after : Lexer} {position : Nat} {result : Except LexFault Token}
    (taken : lexer.take = (Item.ofRun position result, after)) :
    lexer.takeAll = ⟨Item.ofRun position result, after.cursor.position⟩ :: after.takeAll := by
  rw [takeAll, taken]
  cases result <;> rfl

end Lexer

/-- A text behind another as a row of runs with blanks between them, and their spans. -/
inductive Divided : List Char → List Char → List Span → Prop where
  | blank {front gap : List Char} :
      (∀ character ∈ gap, isBlank character = true) → Divided front gap []
  | run {front gap run behind : List Char} {result : Except LexFault Token}
      {spans : List Span} : (∀ character ∈ gap, isBlank character = true) →
      IsRun (front ++ gap) behind run result → Divided (front ++ gap ++ run) behind spans →
      Divided front (gap ++ (run ++ behind))
        (⟨Item.ofRun (byteLength (front ++ gap)) result, byteLength (front ++ gap ++ run)⟩ ::
          spans)

theorem IsRun.byteLength_pos {front behind run : List Char} {result : Except LexFault Token}
    (isRun : IsRun front behind run result) : 0 < byteLength run := by
  obtain ⟨first, rest, rfl⟩ := List.exists_cons_of_ne_nil isRun.ne_nil
  have positive : 0 < first.utf8Size := first.utf8Size_pos
  rw [byteLength_cons]
  omega

theorem Cursor.next_run {position : Nat} {front gap run behind : List Char}
    {result : Except LexFault Token} (blank : ∀ character ∈ gap, isBlank character = true)
    (isRun : IsRun front behind run result) :
    (⟨position, gap ++ (run ++ behind)⟩ : Cursor).next =
      (Item.ofRun (position + byteLength gap) result,
        ⟨position + byteLength gap + byteLength run, behind⟩) := by
  obtain ⟨first, rest, rfl⟩ := List.exists_cons_of_ne_nil isRun.ne_nil
  exact next_of_run blank (isRun.not_isBlank first List.mem_cons_self) isRun.run_eq

theorem Lexer.take_of_blank {lexer : Lexer} {front gap : List Char}
    (blank : ∀ character ∈ gap, isBlank character = true)
    (here : lexer.cursor = ⟨byteLength front, gap⟩) :
    lexer.take = (.finish (byteLength (front ++ gap)),
      { lexer with cursor := ⟨byteLength (front ++ gap), []⟩ }) := by
  rw [Lexer.take, here, Cursor.next_finish blank, byteLength_append]

theorem Lexer.take_of_run {lexer : Lexer} {front gap run behind : List Char}
    {result : Except LexFault Token} (blank : ∀ character ∈ gap, isBlank character = true)
    (isRun : IsRun (front ++ gap) behind run result)
    (here : lexer.cursor = ⟨byteLength front, gap ++ (run ++ behind)⟩) :
    lexer.take = (Item.ofRun (byteLength (front ++ gap)) result,
      { lexer with cursor := ⟨byteLength (front ++ gap ++ run), behind⟩ }) := by
  simp [Lexer.take, here, Cursor.next_run blank isRun, byteLength_append, Nat.add_assoc]

theorem Divided.takeAll_eq {front rest : List Char} {spans : List Span}
    (divided : Divided front rest spans) {lexer : Lexer}
    (here : lexer.cursor = ⟨byteLength front, rest⟩) : lexer.takeAll =
      spans ++ [⟨.finish (byteLength (front ++ rest)), byteLength (front ++ rest)⟩] := by
  induction divided generalizing lexer with
  | blank blank =>
      rw [Lexer.takeAll_finish (Lexer.take_of_blank blank here)]
      rfl
  | @run front gap run behind result spans blank isRun _ inductionHypothesis =>
      have taken := Lexer.take_of_run blank isRun here
      have others := @inductionHypothesis
        { lexer with cursor := ⟨byteLength (front ++ gap ++ run), behind⟩ } rfl
      rw [Lexer.takeAll_ofRun taken, others]
      simp

theorem exists_divided (front rest : List Char) (apart : Apart front rest) :
    ∃ spans, Divided front rest spans := by
  have blank : ∀ character ∈ rest.takeWhile isBlank, isBlank character = true :=
    List.all_eq_true.mp List.all_takeWhile
  have parts : rest.takeWhile isBlank ++ rest.dropWhile isBlank = rest :=
    List.takeWhile_append_dropWhile
  have head := List.head?_dropWhile_not isBlank rest
  generalize rest.takeWhile isBlank = gap at blank parts
  cases found : rest.dropWhile isBlank with
  | nil =>
      rw [found, List.append_nil] at parts
      exact ⟨[], parts ▸ .blank blank⟩
  | cons first others =>
      rw [found] at parts head
      have starts : Word.isWordCharacter first = true →
          ∀ character ∈ (front ++ gap).getLast?, Word.isWordCharacter character = false := by
        intro isWord
        rcases List.eq_nil_or_concat gap with rfl | ⟨initial, last, rfl⟩
        · rw [List.append_nil]
          refine apart.resolve_right fun ends => ?_
          simp [ends first (by simp [← parts])] at isWord
        · simp [Word.isWordCharacter, blank last (by simp)]
      obtain ⟨behind, cut, isRun⟩ := isRun_run (by simpa using head) starts
      have shorter : behind.length < rest.length := by
        have positive := List.length_pos_iff.mpr isRun.ne_nil
        rw [← parts, cut, List.length_append, List.length_append]
        omega
      obtain ⟨spans, divided⟩ := exists_divided _ behind isRun.apart
      rw [← parts, cut]
      exact ⟨_, .run blank isRun divided⟩
termination_by rest.length

/-- Whether a span is that of a run of a text, and has the item that this run is. -/
def Span.IsOf (text : List Char) (span : Span) : Prop :=
  ∃ front run behind result, text = front ++ (run ++ behind) ∧ IsRun front behind run result ∧
    span = ⟨Item.ofRun (byteLength front) result, byteLength (front ++ run)⟩

/-- Spans without overlap, in order, that cover what is not blank in a text. -/
structure IsPartition (text : List Char) (spans : List Span) : Prop where
  increasing : spans.Pairwise fun first second => first.stop ≤ second.start
  nonempty : ∀ span ∈ spans, span.start < span.stop
  covers : ∀ offset, (∃ span ∈ spans, span.start ≤ offset ∧ offset < span.stop) ↔
    ∃ character, HasAt text offset character ∧ isBlank character = false
  isOf : ∀ span ∈ spans, span.IsOf text

namespace Divided

variable {front rest : List Char} {spans : List Span}

theorem isOf (divided : Divided front rest spans) : ∀ span ∈ spans, span.IsOf (front ++ rest) := by
  induction divided with
  | blank => simp
  | @run front gap run behind result spans _ isRun _ inductionHypothesis =>
      intro span membership
      rcases List.mem_cons.mp membership with rfl | later
      · exact ⟨front ++ gap, run, behind, result, by simp, isRun, rfl⟩
      · simpa using inductionHypothesis span later

theorem le_start (divided : Divided front rest spans) :
    ∀ span ∈ spans, byteLength front ≤ span.start := by
  induction divided with
  | blank => simp
  | @run front gap run behind result spans _ _ _ inductionHypothesis =>
      intro span membership
      rcases List.mem_cons.mp membership with rfl | later
      · simp [Span.start, byteLength_append]
      · have further := inductionHypothesis span later
        rw [byteLength_append, byteLength_append] at further
        omega

theorem increasing (divided : Divided front rest spans) :
    spans.Pairwise fun first second => first.stop ≤ second.start := by
  induction divided with
  | blank => exact .nil
  | run _ _ divided inductionHypothesis =>
      exact .cons divided.le_start inductionHypothesis

/-- The spans have just the bytes that belong to characters other than blanks. -/
theorem covers (divided : Divided front rest spans) (offset : Nat) :
    (∃ span ∈ spans, span.start ≤ offset ∧ offset < span.stop) ↔ byteLength front ≤ offset ∧
      ∃ character, HasAt rest (offset - byteLength front) character ∧
        isBlank character = false := by
  induction divided with
  | @blank front gap blank =>
      have none : ¬∃ character, HasAt gap (offset - byteLength front) character ∧
          isBlank character = false := by
        rintro ⟨character, has, notBlank⟩
        simp [blank character has.mem] at notBlank
      simp [none]
  | @run front gap run behind result spans blank isRun _ inductionHypothesis =>
      have none : ∀ place, ¬∃ character, HasAt gap place character ∧
          isBlank character = false := by
        rintro place ⟨character, has, notBlank⟩
        simp [blank character has.mem] at notBlank
      have all : ∀ place, (∃ character, HasAt run place character ∧
          isBlank character = false) ↔ place < byteLength run := by
        intro place
        constructor
        · rintro ⟨character, has, -⟩
          exact has.lt
        · intro below
          obtain ⟨character, has⟩ := exists_hasAt below
          exact ⟨character, has, isRun.not_isBlank character has.mem⟩
      simp only [List.mem_cons, exists_eq_or_imp, inductionHypothesis]
      simp only [hasAt_append, or_and_right, and_assoc, exists_or, exists_and_left, none, all,
        false_or, Span.start, Item.position_ofRun, byteLength_append, Nat.sub_sub]
      generalize (∃ character, HasAt behind _ character ∧ _) = further
      by_cases holds : further
      · simp only [holds, and_true]
        omega
      · simp only [holds, and_false, or_false]
        omega

theorem isPartition (divided : Divided [] rest spans) : IsPartition rest spans where
  increasing := divided.increasing
  nonempty span membership := by
    obtain ⟨front, run, behind, result, -, isRun, rfl⟩ := divided.isOf span membership
    have positive := isRun.byteLength_pos
    simp only [Span.start, Item.position_ofRun, byteLength_append]
    omega
  covers offset := by simpa [byteLength_nil] using divided.covers offset
  isOf := divided.isOf

end Divided

def upToFault : List Item → List Item
  | [] => []
  | .fault error :: _ => [.fault error]
  | .finish position :: rest => .finish position :: upToFault rest
  | .lexeme found :: rest => .lexeme found :: upToFault rest

namespace Lexer

/-- What a lexer gives, one item after another, until it gives none. -/
inductive Yields : Lexer → List Item → Prop where
  | none {lexer : Lexer} : lexer.next.1 = none → Yields lexer []
  | some {lexer after : Lexer} {item : Item} {items : List Item} :
      lexer.next = (some item, after) → Yields after items → Yields lexer (item :: items)

theorem yields_items (text : List Char) (cursor : Cursor) :
    Yields ⟨text, cursor, false⟩ (Lexed.ofCursor cursor).items := by
  have last : ∀ cursor : Cursor, Yields ⟨text, cursor, true⟩ [] := fun _ => .none rfl
  induction cursor using Lexed.ofCursor.induct with
  | case1 cursor position after step =>
      rw [Lexed.ofCursor_finish step]
      exact .some (by simp [next, take, step]) (last after)
  | case2 cursor error after step =>
      rw [Lexed.ofCursor_fault step]
      exact .some (by simp [next, take, step]) (last after)
  | case3 cursor lexeme after step inductionHypothesis =>
      rw [Lexed.ofCursor_lexeme step]
      exact .some (by simp [next, take, step]) inductionHypothesis

theorem items_eq_upToFault (lexer : Lexer) :
    (Lexed.ofCursor lexer.cursor).items = upToFault (lexer.takeAll.map Span.item) := by
  induction lexer using takeAll.induct with
  | case1 lexer position after taken =>
      rw [Lexed.ofCursor_finish (next_of_take taken), takeAll, taken]
      rfl
  | case2 lexer found after taken inductionHypothesis =>
      rw [Lexed.ofCursor_lexeme (next_of_take taken), takeAll, taken]
      simp [Lexed.items, upToFault, inductionHypothesis]
  | case3 lexer error after taken =>
      rw [Lexed.ofCursor_fault (next_of_take taken), takeAll, taken]
      rfl

end Lexer

/-- A lexer divides its text into runs, whether or not they are tokens, and yields the same
items up to the first fault. -/
theorem exists_isPartition (text : String) : ∃ spans,
    IsPartition text.toList spans ∧
    (Lexer.ofText text).takeAll =
      spans ++ [⟨.finish text.utf8ByteSize, text.utf8ByteSize⟩] ∧
    (Lexer.ofText text).Yields (upToFault ((Lexer.ofText text).takeAll.map Span.item)) := by
  obtain ⟨spans, divided⟩ := exists_divided [] text.toList (.inl nofun)
  refine ⟨spans, divided.isPartition, ?_, ?_⟩
  · rw [divided.takeAll_eq rfl, List.nil_append, byteLength_toList]
  · rw [← Lexer.items_eq_upToFault]
    exact Lexer.yields_items _ _

example : (Lexer.ofText "é<==1").takeAll.map (fun span => (span.start, span.stop)) =
    [(0, 2), (2, 4), (4, 5), (5, 6), (6, 6)] := by cbv

end TagCatalog.Filter
