import TagCatalog.Proofs.Filter.Partition

/-!
# Stepping through a text

A lexer can be asked for its next item, for the item at its cursor whether or not it is
finished, for all that is left, and to go back to the start.  In whatever order that is
done, it stands in its text and has cut no word (`StandsIn`), which every request keeps
(`StandsIn.answer`).  All else follows from what it takes there: a run of the text, or the
end of it if nothing but blanks is left (`StandsIn.take_cases`).
-/

namespace TagCatalog.Filter

open Text

inductive Request where
  | next
  | take
  | reset
  | fork
deriving DecidableEq

inductive Answer where
  | next (item : Option Item)
  | take (item : Item)
  | reset
  | fork (items : List Item)

def Answer.items : Answer → List Item
  | next item => item.toList
  | take item => [item]
  | reset => []
  | fork items => items

def Item.ends : Item → Bool
  | lexeme _ => false
  | finish _ | fault _ => true

namespace Lexer

/-- A copy of a lexer gives what is left, and the lexer stays where it is. -/
def answer (lexer : Lexer) : Request → Answer × Lexer
  | .next => (.next lexer.next.1, lexer.next.2)
  | .take => (.take lexer.take.1, lexer.take.2)
  | .reset => (.reset, lexer.reset)
  | .fork => (.fork lexer.remaining, lexer)

def answers (lexer : Lexer) : List Request → List Answer
  | [] => []
  | request :: requests => (lexer.answer request).1 :: (lexer.answer request).2.answers requests

def after (lexer : Lexer) : List Request → Lexer
  | [] => lexer
  | request :: requests => (lexer.answer request).2.after requests

/-- Whether a lexer is at a place of a text where no word goes on. -/
structure StandsIn (text : String) (lexer : Lexer) : Prop where
  text_eq : lexer.text = text.toList
  here : ∃ front, text.toList = front ++ lexer.cursor.rest ∧
    lexer.cursor.position = byteLength front ∧ Apart front lexer.cursor.rest

variable {text : String} {lexer : Lexer}

theorem standsIn_start (finished : Bool) :
    StandsIn text ⟨text.toList, Cursor.start text.toList, finished⟩ where
  text_eq := rfl
  here := ⟨[], rfl, rfl, .inl nofun⟩

theorem next_of_unfinished (unfinished : lexer.finished = false) : lexer.next =
    (some lexer.take.1, { lexer.take.2 with finished := lexer.take.1.ends }) := by
  obtain ⟨characters, cursor, finished⟩ := lexer
  cases unfinished
  cases step : cursor.next with
  | mk item after => cases item <;> simp [next, take, step, Item.ends]

theorem next_of_finished (finished : lexer.finished = true) : lexer.next = (none, lexer) :=
  if_pos finished

namespace StandsIn

theorem take_of_all_blank (stands : StandsIn text lexer)
    (blank : ∀ character ∈ lexer.cursor.rest, isBlank character = true) :
    lexer.take = (.finish text.utf8ByteSize,
      { lexer with cursor := ⟨text.utf8ByteSize, []⟩ }) := by
  obtain ⟨front, parts, position, -⟩ := stands.here
  have here : lexer.cursor = ⟨byteLength front, lexer.cursor.rest⟩ := by rw [← position]
  rw [take_of_blank blank here, ← parts, byteLength_toList]

theorem take_cases (stands : StandsIn text lexer) :
    ((∀ character ∈ lexer.cursor.rest, isBlank character = true) ∧
      lexer.take = (.finish text.utf8ByteSize,
        { lexer with cursor := ⟨text.utf8ByteSize, []⟩ })) ∨
    ∃ front run behind result, text.toList = front ++ (run ++ behind) ∧
      IsRun front behind run result ∧ lexer.cursor.position ≤ byteLength front ∧
      lexer.take = (Item.ofRun (byteLength front) result,
        { lexer with cursor := ⟨byteLength (front ++ run), behind⟩ }) := by
  obtain ⟨front, parts, position, apart⟩ := stands.here
  obtain ⟨spans, divided⟩ := exists_divided front _ apart
  generalize standing : lexer.cursor.rest = rest at parts divided
  have here : lexer.cursor = ⟨byteLength front, rest⟩ := by rw [← position, ← standing]
  cases divided with
  | blank blank => exact .inl ⟨blank, stands.take_of_all_blank (standing ▸ blank)⟩
  | @run _ gap run behind result _ blank isRun =>
      refine .inr ⟨front ++ gap, run, behind, result, by simpa using parts, isRun, ?_,
        take_of_run blank isRun here⟩
      rw [position, byteLength_append]
      exact Nat.le_add_right _ _

theorem withFinished (stands : StandsIn text lexer) (finished : Bool) :
    StandsIn text { lexer with finished } :=
  ⟨stands.text_eq, stands.here⟩

theorem take (stands : StandsIn text lexer) : StandsIn text lexer.take.2 := by
  refine ⟨stands.text_eq, ?_⟩
  rcases stands.take_cases with ⟨-, found⟩ | ⟨front, run, behind, result, parts, isRun, -, found⟩
  · rw [found]
    exact ⟨text.toList, (List.append_nil _).symm, (byteLength_toList text).symm, .inr nofun⟩
  · rw [found]
    exact ⟨front ++ run, by simpa using parts, rfl, isRun.apart⟩

theorem answer (stands : StandsIn text lexer) (request : Request) :
    StandsIn text (lexer.answer request).2 := by
  cases request with
  | next =>
      cases finished : lexer.finished with
      | false =>
          change StandsIn text lexer.next.2
          rw [next_of_unfinished finished]
          exact stands.take.withFinished _
      | true =>
          change StandsIn text lexer.next.2
          rwa [next_of_finished finished]
  | take => exact stands.take
  | reset =>
      change StandsIn text ⟨lexer.text, Cursor.start lexer.text, false⟩
      rw [stands.text_eq]
      exact standsIn_start false
  | fork => exact stands

theorem after (stands : StandsIn text lexer) (requests : List Request) :
    StandsIn text (lexer.after requests) := by
  induction requests generalizing lexer with
  | nil => exact stands
  | cons request requests inductionHypothesis =>
      exact inductionHypothesis (stands.answer request)

theorem isBoundary (stands : StandsIn text lexer) : IsBoundary text lexer.cursor.position := by
  obtain ⟨front, parts, position, -⟩ := stands.here
  rw [position]
  exact isBoundary_of_append parts

theorem dropBytes_eq (stands : StandsIn text lexer) :
    dropBytes lexer.cursor.position text.toList = lexer.cursor.rest := by
  obtain ⟨front, parts, position, -⟩ := stands.here
  rw [parts, position, dropBytes_append]

theorem finish (stands : StandsIn text lexer) {place : Nat}
    (taken : lexer.take.1 = .finish place) :
    (∀ character ∈ lexer.cursor.rest, isBlank character = true) ∧
      place = text.utf8ByteSize ∧ lexer.take.2.cursor = ⟨text.utf8ByteSize, []⟩ := by
  rcases stands.take_cases with ⟨blank, found⟩ | ⟨front, run, behind, result, -, -, -, found⟩
  · rw [found] at taken ⊢
    exact ⟨blank, (Item.finish.inj taken).symm, rfl⟩
  · rw [found] at taken
    cases result <;> cases taken

theorem moves (stands : StandsIn text lexer) (more : ∀ place, lexer.take.1 ≠ .finish place) :
    lexer.cursor.position ≤ lexer.take.1.position ∧
      lexer.take.1.position < lexer.take.2.cursor.position ∧
      (⟨lexer.take.1, lexer.take.2.cursor.position⟩ : Span).IsOf text.toList := by
  rcases stands.take_cases with ⟨-, found⟩ | ⟨front, run, behind, result, parts, isRun, le, found⟩
  · exact absurd (congrArg Prod.fst found) (more _)
  · have positive := isRun.byteLength_pos
    rw [found]
    refine ⟨?_, ?_, front, run, behind, result, parts, isRun, rfl⟩
    · rwa [Item.position_ofRun]
    · simp only [Item.position_ofRun, byteLength_append]
      omega

/-- Nothing but the end is left, and the lexer stays there. -/
theorem answer_of_all_blank (stands : StandsIn text lexer)
    (blank : ∀ character ∈ lexer.cursor.rest, isBlank character = true) {request : Request}
    (noReset : request ≠ .reset) :
    (∀ item ∈ (lexer.answer request).1.items, item = .finish text.utf8ByteSize) ∧
      ∀ character ∈ (lexer.answer request).2.cursor.rest, isBlank character = true := by
  have taken := stands.take_of_all_blank blank
  have left : ∀ item ∈ lexer.remaining, item = .finish text.utf8ByteSize := by
    rw [remaining_eq]
    cases finished : lexer.finished with
    | false => simp [next_of_unfinished finished, taken, Item.ends, remaining]
    | true => simp [next_of_finished finished]
  cases request with
  | next =>
      cases finished : lexer.finished with
      | false => simp [Lexer.answer, next_of_unfinished finished, taken, Answer.items]
      | true => simpa [Lexer.answer, next_of_finished finished, Answer.items] using blank
  | take => simp [Lexer.answer, taken, Answer.items]
  | reset => exact absurd rfl noReset
  | fork => exact ⟨left, blank⟩

end StandsIn

/-- What every request but a restart establishes holds of all answers. -/
theorem forall_answers {Holds : Answer → Prop} (Invariant : Lexer → Prop)
    (step : ∀ lexer request, request ≠ .reset → Invariant lexer →
      Holds (lexer.answer request).1 ∧ Invariant (lexer.answer request).2)
    (start : Invariant lexer) {requests : List Request} (noReset : .reset ∉ requests) :
    ∀ answer ∈ lexer.answers requests, Holds answer := by
  induction requests generalizing lexer with
  | nil => exact nofun
  | cons request requests inductionHypothesis =>
      obtain ⟨other, others⟩ := not_or.mp fun found => noReset (List.mem_cons.mpr found)
      obtain ⟨holds, invariant⟩ := step lexer request (Ne.symm other) start
      exact List.forall_mem_cons.mpr ⟨holds, inductionHypothesis invariant others⟩

theorem yields_iff {items : List Item} : lexer.Yields items ↔ items = lexer.remaining := by
  constructor
  · intro yields
    induction yields with
    | @none lexer stopped =>
        rw [remaining_eq]
        generalize lexer.next = step at stopped ⊢
        obtain ⟨item, after⟩ := step
        cases stopped
        rfl
    | @some lexer after item items step _ inductionHypothesis =>
        rw [remaining_eq, step, inductionHypothesis]
  · rintro rfl
    obtain ⟨characters, cursor, finished⟩ := lexer
    cases finished with
    | false => exact yields_items characters cursor
    | true => exact .none rfl

theorem length_items_le (cursor : Cursor) :
    (Lexed.ofCursor cursor).items.length ≤ cursor.rest.length + 1 := by
  induction cursor using Lexed.ofCursor.induct with
  | case1 cursor position after step => simp [Lexed.ofCursor_finish step, Lexed.items]
  | case2 cursor error after step => simp [Lexed.ofCursor_fault step, Lexed.items]
  | case3 cursor found after step inductionHypothesis =>
      have shorter := Cursor.next_rest_length_lt step (by simp)
      rw [Lexed.ofCursor_lexeme step, Lexed.items, List.length_cons]
      omega

/-- What a lexer does at some place of a text, and whatever it is asked from there on. -/
structure IsSafe (text : String) (lexer : Lexer) : Prop where
  isBoundary : IsBoundary text lexer.cursor.position
  le : lexer.cursor.position ≤ text.utf8ByteSize
  rest : dropBytes lexer.cursor.position text.toList = lexer.cursor.rest
  moves : (∀ place, lexer.take.1 ≠ .finish place) →
    lexer.cursor.position ≤ lexer.take.1.position ∧
      lexer.take.1.position < lexer.take.2.cursor.position ∧
      (⟨lexer.take.1, lexer.take.2.cursor.position⟩ : Span).IsOf text.toList
  finish : ∀ place, lexer.take.1 = .finish place →
    (∀ character ∈ lexer.cursor.rest, isBlank character = true) ∧
      place = text.utf8ByteSize ∧ lexer.take.2.cursor = ⟨text.utf8ByteSize, []⟩
  ends : (∀ character ∈ lexer.cursor.rest, isBlank character = true) →
    ∀ requests, .reset ∉ requests → ∀ answer ∈ lexer.answers requests,
      ∀ item ∈ answer.items, item = .finish text.utf8ByteSize
  once : ∀ requests, .reset ∉ requests → (lexer.answers requests).Pairwise fun first second =>
    ∀ item other, first = .next (some item) → item.ends = true → second = .next other →
      other = none
  restarts : ∀ requests,
    lexer.answers (.reset :: requests) = .reset :: (ofText text).answers requests
  collects : lexer.Yields lexer.remaining ∧ ∀ items, lexer.Yields items →
    items.length ≤ lexer.cursor.rest.length + 1 ∧ lexer.cursor.rest.length ≤ text.length

theorem eq_none_of_finished (finished : lexer.finished = true) {requests : List Request}
    (noReset : .reset ∉ requests) : ∀ answer ∈ lexer.answers requests,
      ∀ item, answer = .next item → item = none := by
  refine forall_answers (fun lexer => lexer.finished = true) ?_ finished noReset
  intro lexer request other finished
  cases request with
  | next => simp [Lexer.answer, next_of_finished finished, finished]
  | take => exact ⟨nofun, finished⟩
  | reset => exact absurd rfl other
  | fork => exact ⟨nofun, finished⟩

theorem pairwise_answers {requests : List Request} (noReset : .reset ∉ requests) :
    (lexer.answers requests).Pairwise fun first second => ∀ item other,
      first = .next (some item) → item.ends = true → second = .next other → other = none := by
  induction requests generalizing lexer with
  | nil => exact .nil
  | cons request requests inductionHypothesis =>
      have others := (not_or.mp fun found => noReset (List.mem_cons.mpr found)).2
      refine .cons (fun second membership item other isFirst ends isSecond => ?_)
        (inductionHypothesis others)
      refine eq_none_of_finished ?_ others second membership other isSecond
      cases request with
      | next =>
          cases finished : lexer.finished with
          | false =>
              simp only [Lexer.answer, next_of_unfinished finished, Answer.next.injEq,
                Option.some.injEq] at isFirst ⊢
              rw [isFirst, ends]
          | true => simp [Lexer.answer, next_of_finished finished] at isFirst
      | take | reset | fork => cases isFirst

theorem StandsIn.isSafe (stands : StandsIn text lexer) : lexer.IsSafe text where
  isBoundary := stands.isBoundary
  le := stands.isBoundary.le
  rest := stands.dropBytes_eq
  moves := stands.moves
  finish _ := stands.finish
  ends blank requests noReset := by
    refine forall_answers (fun lexer => StandsIn text lexer ∧
      ∀ character ∈ lexer.cursor.rest, isBlank character = true) ?_ ⟨stands, blank⟩ noReset
    rintro lexer request other ⟨stands, blank⟩
    obtain ⟨holds, blank⟩ := stands.answer_of_all_blank blank other
    exact ⟨holds, stands.answer request, blank⟩
  once _ := pairwise_answers
  restarts requests := by
    rw [answers, Lexer.answer, reset, stands.text_eq]
    rfl
  collects := by
    refine ⟨yields_iff.mpr rfl, fun items yields => ⟨?_, ?_⟩⟩
    · rw [yields_iff.mp yields, remaining]
      split
      next => exact Nat.zero_le _
      next => exact length_items_le lexer.cursor
    · obtain ⟨front, parts, -⟩ := stands.here
      rw [← String.length_toList, parts, List.length_append]
      exact Nat.le_add_left _ _

end Lexer

/-- In whatever order a lexer is asked for items, copied and restarted, it stays in its text. -/
theorem isSafe_after (text : String) (requests : List Request) :
    ((Lexer.ofText text).after requests).IsSafe text :=
  ((Lexer.standsIn_start false).after requests).isSafe

end TagCatalog.Filter
