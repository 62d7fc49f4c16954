import TagCatalog.Proofs.Filter.Lexing

/-!
# The items of a text

A divided text is what its cursor takes step by step, so every step of a cursor
establishes something about all items (`Lexed.forall_items`): names are those
that a tag may have, and every item stands on a boundary of the text.
-/

namespace TagCatalog.Filter

open Text

namespace Lexed

theorem ofCursor_lexeme {cursor after : Cursor} {lexeme : Lexeme}
    (step : cursor.next = (.lexeme lexeme, after)) :
    ofCursor cursor = .token lexeme (ofCursor after) := by
  rw [ofCursor]
  split <;> simp_all

theorem ofCursor_finish {cursor after : Cursor} {position : Nat}
    (step : cursor.next = (.finish position, after)) : ofCursor cursor = .finish position := by
  rw [ofCursor]
  split <;> simp_all

theorem ofCursor_fault {cursor after : Cursor} {error : LexError}
    (step : cursor.next = (.fault error, after)) : ofCursor cursor = .fault error := by
  rw [ofCursor]
  split <;> simp_all

/-- What every step of a cursor establishes holds of all items. -/
theorem forall_items {Holds : Item → Prop} (Invariant : Cursor → Prop)
    (step : ∀ cursor item after, Invariant cursor → cursor.next = (item, after) →
      Holds item ∧ Invariant after)
    {cursor : Cursor} (start : Invariant cursor) :
    ∀ item ∈ (ofCursor cursor).items, Holds item := by
  induction cursor using ofCursor.induct with
  | case1 cursor position after next =>
      rw [ofCursor_finish next]
      simpa [items] using (step _ _ _ start next).1
  | case2 cursor error after next =>
      rw [ofCursor_fault next]
      simpa [items] using (step _ _ _ start next).1
  | case3 cursor lexeme after next inductionHypothesis =>
      rw [ofCursor_lexeme next]
      obtain ⟨holds, invariant⟩ := step _ _ _ start next
      simpa [items, holds] using inductionHypothesis invariant

theorem isLexable_of_mem_items {cursor : Cursor} {lexeme : Lexeme}
    (membership : .lexeme lexeme ∈ (ofCursor cursor).items) : lexeme.token.IsLexable := by
  have all : ∀ item ∈ (ofCursor cursor).items,
      ∀ lexeme, item = .lexeme lexeme → lexeme.token.IsLexable := by
    refine forall_items (fun _ => True) (fun cursor item after _ next => ⟨?_, trivial⟩) trivial
    rintro lexeme rfl
    exact Cursor.isLexable_of_next next
  exact all _ membership lexeme rfl

theorem isBoundary_of_mem_items {text : String} {item : Item}
    (membership : item ∈ (ofText text).items) : IsBoundary text item.position := by
  have start : (Cursor.start text.toList).LiesIn text := ⟨[], rfl, rfl⟩
  have all : ∀ item ∈ (ofText text).items, IsBoundary text item.position := by
    refine forall_items (Cursor.LiesIn text) (fun cursor item after lies next => ?_) start
    rw [Cursor.position_of_next next]
    exact ⟨(lies.advance _).isBoundary, lies.next next⟩
  exact all item membership

end Lexed

theorem Lexer.remaining_eq (lexer : Lexer) : lexer.remaining =
    match lexer.next with
    | (none, _) => []
    | (some item, after) => item :: after.remaining := by
  obtain ⟨text, cursor, finished⟩ := lexer
  cases finished with
  | true => rfl
  | false =>
      cases step : cursor.next with
      | mk item after =>
          cases item with
          | lexeme => simp [remaining, next, take, step, Lexed.ofCursor_lexeme step, Lexed.items]
          | finish => simp [remaining, next, take, step, Lexed.ofCursor_finish step, Lexed.items]
          | fault => simp [remaining, next, take, step, Lexed.ofCursor_fault step, Lexed.items]

end TagCatalog.Filter
