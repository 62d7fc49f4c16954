import TagCatalog.Proofs.Filter.Failure
import TagCatalog.Proofs.Filter.Partition

/-!
# The longest filter at the start of a text

A text that is cut off in front of an item keeps the tokens in front of it
(`Lexed.exists_cut`), so the parser goes the same way on both, and comes to the end where
it stopped before.  `parsePrefix_longest` says that it stops behind the longest filter,
and what parsing the whole text makes of that.
-/

namespace TagCatalog.Filter

open Text

namespace Lexed

variable {front gap run behind : List Char}

theorem ofCursor_blank (blank : ∀ character ∈ gap, isBlank character = true) :
    ofCursor ⟨byteLength front, gap⟩ = .finish (byteLength (front ++ gap)) := by
  rw [byteLength_append]
  exact ofCursor_finish (Cursor.next_finish blank)

theorem ofCursor_run {found : Token} (blank : ∀ character ∈ gap, isBlank character = true)
    (isRun : IsRun (front ++ gap) behind run (.ok found)) :
    ofCursor ⟨byteLength front, gap ++ (run ++ behind)⟩ =
      .token ⟨byteLength (front ++ gap), found⟩
        (ofCursor ⟨byteLength (front ++ gap ++ run), behind⟩) := by
  simp only [byteLength_append]
  exact ofCursor_lexeme (Cursor.next_run blank isRun)

theorem ofCursor_no_run {reason : LexFault}
    (blank : ∀ character ∈ gap, isBlank character = true)
    (isRun : IsRun (front ++ gap) behind run (.error reason)) :
    ofCursor ⟨byteLength front, gap ++ (run ++ behind)⟩ =
      .fault ⟨byteLength (front ++ gap), reason⟩ := by
  simp only [byteLength_append]
  exact ofCursor_fault (Cursor.next_run blank isRun)

theorem exists_cut_of_divided {rest : List Char} {spans : List Span}
    (divided : Divided front rest spans) {lexemes : List Lexeme} {item : Item}
    {more : List Item} (items : (ofCursor ⟨byteLength front, rest⟩).items =
      lexemes.map .lexeme ++ item :: more) :
    ∃ kept behind, rest = kept ++ behind ∧ byteLength (front ++ kept) = item.position ∧
      (ofCursor ⟨byteLength front, kept⟩).items =
        lexemes.map .lexeme ++ [.finish item.position] ∧
      (behind = [] ↔ ∃ position, item = .finish position) := by
  induction divided generalizing lexemes with
  | @blank front gap blank =>
      rw [ofCursor_blank blank] at items
      cases lexemes with
      | nil =>
          cases items
          refine ⟨gap, [], by simp, rfl, ?_, by simp⟩
          rw [ofCursor_blank blank]
          rfl
      | cons => simp [Lexed.items] at items
  | @run front gap run behind result spans blank isRun _ inductionHypothesis =>
      cases lexemes with
      | nil =>
          obtain ⟨position, notFinish⟩ : item.position = byteLength (front ++ gap) ∧
              ∀ position, item ≠ .finish position := by
            cases result with
            | ok =>
                rw [ofCursor_run blank isRun] at items
                cases items
                exact ⟨rfl, by simp⟩
            | error =>
                rw [ofCursor_no_run blank isRun] at items
                cases items
                exact ⟨rfl, by simp⟩
          refine ⟨gap, run ++ behind, rfl, position.symm, ?_, by
            simp [isRun.ne_nil, notFinish]⟩
          rw [ofCursor_blank blank, position]
          rfl
      | cons first others =>
          cases result with
          | ok =>
              rw [ofCursor_run blank isRun] at items
              simp only [Lexed.items, List.map_cons, List.cons_append, List.cons.injEq,
                Item.lexeme.injEq] at items
              obtain ⟨rfl, items⟩ := items
              obtain ⟨kept, further, rfl, start, keptItems, atEnd⟩ := inductionHypothesis items
              refine ⟨gap ++ (run ++ kept), further, by simp, by simpa using start, ?_, atEnd⟩
              rw [ofCursor_run blank isRun.of_append, Lexed.items, keptItems]
              rfl
          | error =>
              rw [ofCursor_no_run blank isRun] at items
              simp [Lexed.items] at items

theorem exists_cut {text : String} {lexemes : List Lexeme} {item : Item} {rest : List Item}
    (items : (ofText text).items = lexemes.map .lexeme ++ item :: rest) :
    ∃ kept behind : String, text = kept ++ behind ∧ kept.utf8ByteSize = item.position ∧
      (ofText kept).items = lexemes.map .lexeme ++ [.finish item.position] ∧
      (item.position = text.utf8ByteSize ↔ ∃ position, item = .finish position) := by
  obtain ⟨spans, divided⟩ := exists_divided [] text.toList (.inl nofun)
  obtain ⟨kept, behind, parts, position, keptItems, atEnd⟩ :=
    exists_cut_of_divided divided items
  refine ⟨String.ofList kept, String.ofList behind, ?_, ?_, ?_, ?_⟩
  · rw [← String.ofList_append, ← parts, String.ofList_toList]
  · rw [← byteLength_eq_utf8ByteSize, ← position, List.nil_append]
  · rw [ofText, String.toList_ofList]
    exact keptItems
  · rw [← atEnd, ← byteLength_toList, parts, ← position, List.nil_append, byteLength_append]
    cases behind with
    | nil => simp [byteLength_nil]
    | cons first others =>
        have positive : 0 < first.utf8Size := first.utf8Size_pos
        simp only [byteLength_cons, reduceCtorEq, iff_false]
        omega

end Lexed

section Behind

variable {state : State} {item : Item} {consumed lexemes : List Lexeme} {rest others : List Item}

/-- Of two rows of tokens at the start of some items, the longer one goes on with the item
behind the other. -/
theorem exists_longer
    (same : lexemes.map Item.lexeme ++ others = consumed.map .lexeme ++ item :: rest)
    (longer : consumed.length < lexemes.length) :
    ∃ found more, item = .lexeme found ∧ lexemes = consumed ++ found :: more := by
  induction consumed generalizing lexemes with
  | nil =>
      cases lexemes with
      | nil => simp at longer
      | cons found more =>
          simp only [List.map_cons, List.cons_append, List.map_nil, List.nil_append,
            List.cons.injEq] at same
          exact ⟨found, more, same.1.symm, rfl⟩
  | cons first consumed inductionHypothesis =>
      cases lexemes with
      | nil => simp at longer
      | cons other lexemes =>
          simp only [List.map_cons, List.cons_append, List.cons.injEq, Item.lexeme.injEq] at same
          obtain ⟨rfl, same⟩ := same
          obtain ⟨found, more, rfl, rfl⟩ :=
            inductionHypothesis same (by simpa using longer)
          exact ⟨found, more, rfl, rfl⟩

/-- No expression goes on behind the tokens up to one that is refused. -/
theorem State.Steps.length_le {derivation : Derivation .expression}
    (steps : State.Steps .initial (consumed.map Lexeme.token) state)
    (refuses : ∀ lexeme, item = .lexeme lexeme → state.step lexeme.token = .refuse)
    (same : lexemes.map Item.lexeme ++ others = consumed.map .lexeme ++ item :: rest)
    (tokens : derivation.tokens = lexemes.map Lexeme.token) :
    lexemes.length ≤ consumed.length := by
  by_contra longer
  obtain ⟨found, more, isFound, rfl⟩ := exists_longer same (by omega)
  obtain ⟨last, followed, -⟩ := derivation.exists_follows?
  rw [tokens, List.map_append, State.follows?_append, steps.follows?, Option.bind_some,
    List.map_cons, State.follows?, State.follow?_of_refuse (refuses found isFound)] at followed
  cases followed

end Behind

/-- A filter that stands at the start of a text up to a position, and that no other goes on
from, however deep it nests. -/
structure IsLongest (text : String) (filter : Filter) (position : Nat) : Prop where
  isBoundary : IsBoundary text position
  kept : ∃ kept behind : String, text = kept ++ behind ∧ kept.utf8ByteSize = position ∧
    parse kept = .ok filter ∧ parsePrefix kept = .ok (filter, position)
  longest : ∃ (consumed : List Lexeme) (item : Item) (others : List Item),
    (Lexer.ofText text).remaining = consumed.map .lexeme ++ item :: others ∧
    item.position = position ∧
    (∃ derivation : Derivation .expression,
      derivation.tokens = consumed.map Lexeme.token ∧ derivation.filter = filter) ∧
    ∀ (lexemes : List Lexeme) (rest : List Item) (derivation : Derivation .expression),
      (Lexer.ofText text).remaining = lexemes.map .lexeme ++ rest →
      derivation.tokens = lexemes.map Lexeme.token → lexemes.length ≤ consumed.length
  complete : position = text.utf8ByteSize → parse text = .ok filter
  incomplete : position ≠ text.utf8ByteSize →
    ∃ expected found, parse text = .error (.unexpected position expected found)

theorem isLongest_of_run {text : String} {parsed : Parsed}
    (run : State.initial.run (Lexed.ofText text) = .ok parsed) :
    IsLongest text parsed.filter parsed.position ∧
      (parsed.found = .finish ↔ parsed.position = text.utf8ByteSize) := by
  obtain ⟨consumed, item, others, last, items, steps, stops⟩ :=
    State.run_stops .initial (Lexed.ofText text)
  rw [run] at stops
  obtain ⟨accepts, position, isFinish, refuses⟩ := stops.of_ok
  obtain ⟨kept, behind, parts, size, keptItems, atEnd⟩ := Lexed.exists_cut items
  rw [position] at size keptItems atEnd
  have complete : parsed.found = .finish ↔ parsed.position = text.utf8ByteSize :=
    isFinish.trans atEnd.symm
  have keptRun : State.initial.run (Lexed.ofText kept) =
      .ok ⟨parsed.filter, parsed.position, .finish, last.expected⟩ := by
    rw [(State.Stops.finish parsed.position).run_eq steps keptItems]
    exact State.stop_eq_ok_iff.mpr ⟨_, accepts, rfl⟩
  refine ⟨⟨?_, ⟨kept, behind, parts, size, ?_, ?_⟩, ?_, ?_, ?_⟩, complete⟩
  · rw [← position]
    exact Lexed.isBoundary_of_mem_items (by simp [items])
  · exact parse_eq_ok_iff.mpr ⟨_, keptRun, rfl, rfl⟩
  · exact parsePrefix_eq_ok_iff.mpr ⟨_, keptRun, rfl, rfl⟩
  · refine ⟨consumed, item, others, items, position,
      State.follows?_initial_iff.mp ⟨last, steps.follows?, accepts⟩, ?_⟩
    intro lexemes rest derivation same tokens
    have remaining : (Lexer.ofText text).remaining = (Lexed.ofText text).items := rfl
    exact steps.length_le refuses (same.symm.trans (remaining.trans items)) tokens
  · intro whole
    exact parse_eq_ok_iff.mpr ⟨parsed, run, complete.mpr whole, rfl⟩
  · intro more
    exact ⟨_, _, parse_eq_error_iff.mpr
      (.inr ⟨parsed, run, fun isEnd => more (complete.mp isEnd), rfl⟩)⟩

/-- Both ways of parsing agree: they have the same errors in front of the longest filter at
the start of a text, and a text is a filter if that filter ends with it. -/
theorem parse_eq_ok_iff_parsePrefix (text : String) :
    (∀ error, parsePrefix text = .error error → parse text = .error error) ∧
    (∀ filter position, parsePrefix text = .ok (filter, position) →
      IsLongest text filter position) ∧
    ∀ filter, parse text = .ok filter ↔ parsePrefix text = .ok (filter, text.utf8ByteSize) := by
  refine ⟨fun error failed => ?_, fun filter position found => ?_, fun filter => ⟨?_, ?_⟩⟩
  · refine parse_eq_error_iff.mpr (.inl ?_)
    unfold parsePrefix at failed
    cases run : State.initial.run (Lexed.ofText text) with
    | ok => simp [run, Except.map] at failed
    | error other => simpa [run, Except.map] using failed
  · obtain ⟨parsed, run, rfl, rfl⟩ := parsePrefix_eq_ok_iff.mp found
    exact (isLongest_of_run run).1
  · intro whole
    obtain ⟨parsed, run, complete, rfl⟩ := parse_eq_ok_iff.mp whole
    exact parsePrefix_eq_ok_iff.mpr ⟨parsed, run, rfl, (isLongest_of_run run).2.mp complete⟩
  · intro found
    obtain ⟨parsed, run, rfl, position⟩ := parsePrefix_eq_ok_iff.mp found
    exact (isLongest_of_run run).1.complete position

theorem isLongest_group :
    ∃ filter, parsePrefix "(a OR b) c" = .ok (filter, 9) ∧ IsLongest "(a OR b) c" filter 9 := by
  have decided : (parsePrefix "(a OR b) c").toOption.map Prod.snd = some 9 := by
    decide +kernel
  cases found : parsePrefix "(a OR b) c" with
  | error error => simp [found, Except.toOption] at decided
  | ok result =>
      obtain ⟨filter, position⟩ := result
      obtain rfl : position = 9 := by simpa [found, Except.toOption] using decided
      exact ⟨filter, rfl, (parse_eq_ok_iff_parsePrefix "(a OR b) c").2.1 _ _ found⟩

end TagCatalog.Filter
