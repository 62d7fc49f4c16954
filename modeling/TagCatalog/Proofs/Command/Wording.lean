import TagCatalog.Proofs.Command.Finding
import TagCatalog.Proofs.Filter.Spacing
import TagCatalog.Store.Journal

/-!
# Filters in words

The words of a filter are joined by spaces, so to cut a text between tokens changes the
blanks in it only (`Splits.spacing`).  Matching asks the store for the files that a filter
accepts, and for nothing else, so it depends on the tokens alone.
-/

namespace TagCatalog

open TagCatalog.Filter

namespace Store

variable {State : Type}

/-- Whether what a store announces succeeds and is nothing to matching. -/
structure AnnouncesAside (store : Store State) : Prop where
  succeeds : ∀ event state, (store.announce event state).1 = .ok ()
  matching : ∀ event filter state,
    (store.matching filter (store.announce event state).2).1 = (store.matching filter state).1

theorem AsksSilently.announcesAside {store : Store State} (asks : store.AsksSilently) :
    store.AnnouncesAside where
  succeeds event state := by rw [asks.announce]
  matching event filter state := by rw [asks.announce]

theorem fst_matching_journaled (path : String) (filter : Filter) (workspace : Workspace) :
    ((Workspace.store path).matching filter workspace).1 =
      ((OnDisk.store path).matching filter workspace.disk).1 := by
  simp only [Workspace.store, Workspace.matching, Workspace.noting]
  cases (OnDisk.store path).matching filter workspace.disk with
  | mk outcome disk => cases outcome <;> rfl

theorem announcesAside_journaled (path : String) : (Workspace.store path).AnnouncesAside where
  succeeds _ _ := rfl
  matching event filter workspace := by
    rw [fst_matching_journaled, fst_matching_journaled]
    rfl

end Store

/-- Words that are texts of tokens, one behind the other. -/
inductive Splits : List Token → List String → Prop where
  | nil : Splits [] []
  | cons {front back : List Token} {word : String} {words : List String} :
      Spacing front word.toList → Splits back words → Splits (front ++ back) (word :: words)

/-- Joined words are a text of all tokens. -/
theorem Splits.spacing {tokens : List Token} {words : List String} (splits : Splits tokens words) :
    Spacing tokens (String.intercalate " " words).toList := by
  induction splits with
  | nil => exact .blank nofun
  | @cons front back word words spacing splits inductionHypothesis =>
      cases splits with
      | nil => simpa using spacing
      | cons =>
          rw [String.intercalate_cons_cons]
          simpa using spacing.append rfl inductionHypothesis

namespace Command

variable {State : Type} {store : Store State}

/-- Whether two outcomes are the same, or errors of a filter that differ in their positions
only. -/
inductive Agrees {Result : Type} : Except Error Result → Except Error Result → Prop where
  | same (outcome : Except Error Result) : Agrees outcome outcome
  | moved (error : ParseError) (position other : Nat) :
      Agrees (.error (.filter (error.moveTo position))) (.error (.filter (error.moveTo other)))

theorem fst_find (aside : store.AnnouncesAside) {text : String} {filter : Filter}
    (parsed : parse text = .ok filter) (state : State) :
    (find store text state).1 = (store.matching filter state).1 := by
  have isFilter := ofExcept_of_ok (parseFilter_of_ok parsed) state
  have announced : store.announce (.filterParsed text filter) state =
      (.ok (), (store.announce (.filterParsed text filter) state).2) :=
    Prod.ext (aside.succeeds _ _) rfl
  rw [find, Action.bind_of_ok isFilter, Action.bind_of_ok announced, aside.matching]

theorem matchWords_of_parse (aside : store.AnnouncesAside) {words : List String}
    {filter : Filter} (parsed : parse (String.intercalate " " words) = .ok filter)
    (strict : Bool) (state : State) : (matchWords store words strict state).1 =
      ((store.matching filter state).1).bind (matched strict) := by
  rw [← fst_find aside parsed, matchWords]
  cases answer : find store (String.intercalate " " words) state with
  | mk outcome after =>
      cases outcome with
      | error =>
          rw [Action.bind_of_error answer]
          rfl
      | ok found =>
          rw [Action.bind_of_ok answer]
          simp only [Except.bind, matched]
          split <;> rfl

theorem matchWords_of_error {words : List String} {error : ParseError}
    (failed : parse (String.intercalate " " words) = .error error) (strict : Bool)
    (state : State) : (matchWords store words strict state).1 = .error (.filter error) := by
  have noFilter := ofExcept_of_error (parseFilter_of_error failed) state
  rw [matchWords, Action.bind_of_error (by rw [find, Action.bind_of_error noFilter])]

/-- What it means that texts of some tokens differ in nothing but the positions of errors. -/
structure IgnoresSpacing (tokens : List Token) : Prop where
  divides : ∀ text, Spacing tokens text.toList → Divides text tokens
  parses : (∃ filter, ∀ text, Spacing tokens text.toList → parse text = .ok filter) ∨
    ∃ (error : ParseError) (index : Nat), ∀ text, Spacing tokens text.toList → ∃ item,
      (Lexer.ofText text).remaining[index]? = some item ∧
        parse text = .error (error.moveTo item.position)
  finds : ∀ {State : Type} (store : Store State), store.AnnouncesAside →
    ∀ words others strict state, Splits tokens words → Splits tokens others →
      Agrees (matchWords store words strict state).1 (matchWords store others strict state).1

/-- Tokens that can come from texts mean the same in every text of them, and in all words
that such a text is split into, whether the store is in memory or on a disk, with or
without a journal. -/
theorem ignoresSpacing {tokens : List Token} (lexable : ∀ token ∈ tokens, token.IsLexable) :
    IgnoresSpacing tokens ∧ Memory.store.AnnouncesAside ∧
      ∀ path, (OnDisk.store path).AnnouncesAside ∧ (Workspace.store path).AnnouncesAside := by
  have divides : ∀ text : String, Spacing tokens text.toList → Divides text tokens :=
    fun text spacing => spacing.divides lexable
  refine ⟨⟨divides, ?_, ?_⟩, (Memory.asksSilently).announcesAside,
    fun path => ⟨(OnDisk.asksSilently path).announcesAside, Store.announcesAside_journaled path⟩⟩
  · rcases exists_outcome tokens with ⟨filter, parsed⟩ | ⟨error, index, failed⟩
    · exact .inl ⟨filter, fun text spacing => parsed text (divides text spacing)⟩
    · exact .inr ⟨error, index, fun text spacing => failed text (divides text spacing)⟩
  · intro State store aside words others strict state splits otherSplits
    have divided := divides _ splits.spacing
    have otherDivided := divides _ otherSplits.spacing
    rcases exists_outcome tokens with ⟨filter, parsed⟩ | ⟨error, index, failed⟩
    · rw [matchWords_of_parse aside (parsed _ divided),
        matchWords_of_parse aside (parsed _ otherDivided)]
      exact .same _
    · obtain ⟨item, -, stopped⟩ := failed _ divided
      obtain ⟨other, -, otherStopped⟩ := failed _ otherDivided
      rw [matchWords_of_error stopped, matchWords_of_error otherStopped]
      exact .moved _ _ _

theorem ignoresSpacing_comparison :
    IgnoresSpacing [.identifier "role", .comparator .greaterOrEqual, .integer (-1)] ∧
      Divides "role>=\t-1" [.identifier "role", .comparator .greaterOrEqual, .integer (-1)] ∧
      Agrees (matchWords (Workspace.store "db.json") ["role", ">=\t-1"] false ⟨⟨[], .empty⟩, []⟩).1
        (matchWords (Workspace.store "db.json") ["role>=\t-1"] false ⟨⟨[], .empty⟩, []⟩).1 := by
  have free : Tag.Name.fault? "role" = none := by decide
  have lexable : ∀ token ∈ [Token.identifier "role", .comparator .greaterOrEqual, .integer (-1)],
      token.IsLexable := by
    simp [Token.IsLexable, free]
  obtain ⟨ignores, -, aside⟩ := ignoresSpacing lexable
  have noGap : ∀ character ∈ ([] : List Char), Text.isBlank character = true := by simp
  have tail : Spacing [.comparator .greaterOrEqual, .integer (-1)] ">=\t-1".toList := by
    have characters : ">=\t-1".toList = (Token.comparator .greaterOrEqual).text ++
        (['\t'] ++ ((Token.integer (-1)).text ++ [])) := by decide +kernel
    rw [characters]
    have tab : ∀ character ∈ ['\t'], Text.isBlank character = true :=
      List.forall_mem_singleton.mpr rfl
    have number := @Spacing.token _ [] (.integer (-1)) [] tab (by simp) (.blank noGap)
    exact .token noGap (by simp [NeedsBlank, Token.kind, TokenKind.isWord]) number
  have name : Spacing [.identifier "role"] "role".toList := by
    simpa [Token.text] using
      @Spacing.token [] [] (.identifier "role") [] noGap (by simp) (.blank noGap)
  have whole : Spacing [.identifier "role", .comparator .greaterOrEqual, .integer (-1)]
      "role>=\t-1".toList := by
    have characters : "role>=\t-1".toList =
        (Token.identifier "role").text ++ ">=\t-1".toList := by decide +kernel
    rw [characters]
    exact .token noGap (by simp [NeedsBlank, Token.kind, TokenKind.isWord]) tail
  have splits : Splits ([.identifier "role"] ++ ([.comparator .greaterOrEqual, .integer (-1)] ++ []))
      ["role", ">=\t-1"] := .cons name (.cons tail .nil)
  have together : Splits ([.identifier "role", .comparator .greaterOrEqual, .integer (-1)] ++ [])
      ["role>=\t-1"] := .cons whole .nil
  exact ⟨ignores, ignores.divides _ whole,
    ignores.finds _ (aside "db.json").2 _ _ _ _ splits together⟩

end Command

end TagCatalog
