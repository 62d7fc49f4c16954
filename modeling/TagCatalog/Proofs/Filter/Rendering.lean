import TagCatalog.Proofs.Filter.Items
import TagCatalog.Proofs.Filter.Run

/-!
# Texts of token lists

A rendering of tokens is a text in which the tokens stand one behind the other,
with blanks where two of them would run together and wherever else one likes.
The division of a rendering gives back the tokens (`Rendering.tokens?`).
-/

namespace TagCatalog.Filter

open Text

/-- The texts of a list of tokens. -/
inductive Rendering : List Token → List Char → Prop where
  | blank {gap : List Char} :
      (∀ character ∈ gap, isBlank character = true) → Rendering [] gap
  | token {gap behind : List Char} {token : Token} {rest : List Token} :
      (∀ character ∈ gap, isBlank character = true) → token.EndsBefore behind →
      Rendering rest behind → Rendering (token :: rest) (gap ++ (token.text ++ behind))

theorem Rendering.tokens? {tokens : List Token} {text : List Char}
    (rendering : Rendering tokens text) (lexable : ∀ token ∈ tokens, token.IsLexable)
    (position : Nat) : (Lexed.ofCursor ⟨position, text⟩).tokens? = some tokens := by
  induction rendering generalizing position with
  | blank blank =>
      rw [Lexed.ofCursor_finish (Cursor.next_finish blank)]
      rfl
  | token blank ends _ inductionHypothesis =>
      obtain ⟨first, others⟩ := List.forall_mem_cons.mp lexable
      rw [Lexed.ofCursor_lexeme (Cursor.next_token blank first ends), Lexed.tokens?,
        inductionHypothesis others]
      rfl

theorem isWordCharacter_of_isBlank {character : Char} (blank : isBlank character = true) :
    Word.isWordCharacter character = false := by
  simp [Word.isWordCharacter, blank]

/-- Blanks, or the end of the text, end every token. -/
theorem Token.endsBefore_of_blank {behind : List Char}
    (blank : ∀ character ∈ behind.head?, isBlank character = true) (token : Token) :
    token.EndsBefore behind := by
  have noWord : ∀ character ∈ behind.head?, Word.isWordCharacter character = false :=
    fun character head => isWordCharacter_of_isBlank (blank character head)
  cases token with
  | comparator =>
      intro head
      exact absurd (blank '=' head) (by decide)
  | openGroup => trivial
  | closeGroup => trivial
  | _ => exact noWord

def spaced (tokens : List Token) : List Char :=
  tokens.flatMap fun token => ' ' :: token.text

theorem rendering_spaced (tokens : List Token) : Rendering tokens (spaced tokens) := by
  induction tokens with
  | nil => exact .blank nofun
  | cons token rest inductionHypothesis =>
      have ends : token.EndsBefore (spaced rest) := by
        refine token.endsBefore_of_blank ?_
        cases rest with
        | nil => nofun
        | cons => exact forall_head?_cons (by decide : isBlank ' ' = true) _
      have space : ∀ character ∈ [' '], isBlank character = true :=
        List.forall_mem_singleton.mpr rfl
      exact .token space ends inductionHypothesis

theorem isLexable_of_tokens? {text : String} {tokens : List Token}
    (found : (Lexed.ofText text).tokens? = some tokens) :
    ∀ token ∈ tokens, token.IsLexable := by
  obtain ⟨lexemes, position, items, rfl⟩ := Lexed.exists_items_of_tokens? found
  intro token membership
  obtain ⟨lexeme, inLexemes, rfl⟩ := List.mem_map.mp membership
  have inItems : .lexeme lexeme ∈ (Lexed.ofText text).items := by
    rw [items]
    exact List.mem_append_left _ (List.mem_map_of_mem inLexemes)
  exact Lexed.isLexable_of_mem_items inItems

theorem exists_text_of_isLexable {tokens : List Token}
    (lexable : ∀ token ∈ tokens, token.IsLexable) :
    ∃ text, (Lexed.ofText text).tokens? = some tokens := by
  refine ⟨String.ofList (spaced tokens), ?_⟩
  rw [Lexed.ofText, String.toList_ofList]
  exact (rendering_spaced tokens).tokens? lexable 0

end TagCatalog.Filter
