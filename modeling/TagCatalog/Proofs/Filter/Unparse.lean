import TagCatalog.Proofs.Filter.Parse
import TagCatalog.Proofs.Filter.Rendering

/-!
# Filters as text

`unparse` writes a filter with parentheses only around the operands that need
them: around connectives below `AND`, and around disjunctions below `OR`.  That
text is parsed as the filter, and every filter that comes from a text can be
written so, because no text of a filter nests its groups less deep.
-/

namespace TagCatalog.Filter

open Text

/-- Whether a filter needs parentheses where a symbol of the grammar stands. -/
def needsGroup : Symbol → Filter → Bool
  | .atom, all _ | .atom, any _ | .conjunction, any _ => true
  | _, _ => false

mutual

def unparse : Filter → String
  | present name => name
  | compare name comparator literal => comparisonText name comparator literal
  | all conditions => String.intercalate " AND " (unparsed .atom conditions)
  | any alternatives => String.intercalate " OR " (unparsed .conjunction alternatives)

def unparsed (symbol : Symbol) : List Filter → List String
  | [] => []
  | filter :: rest =>
      (if needsGroup symbol filter then "(" ++ unparse filter ++ ")" else unparse filter) ::
        unparsed symbol rest

end

mutual

/-- How many groups are nested in the text of a filter. -/
def depth : Filter → Nat
  | present _ | compare _ _ _ => 0
  | all conditions => depthOf .atom conditions
  | any alternatives => depthOf .conjunction alternatives

def depthOf (symbol : Symbol) : List Filter → Nat
  | [] => 0
  | filter :: rest =>
      max (if needsGroup symbol filter then depth filter + 1 else depth filter)
        (depthOf symbol rest)

end

def unparseAs (symbol : Symbol) (filter : Filter) : String :=
  if needsGroup symbol filter then "(" ++ unparse filter ++ ")" else unparse filter

def depthAs (symbol : Symbol) (filter : Filter) : Nat :=
  if needsGroup symbol filter then depth filter + 1 else depth filter

theorem unparsed_eq_map (symbol : Symbol) (filters : List Filter) :
    unparsed symbol filters = filters.map (unparseAs symbol) := by
  induction filters with
  | nil => rfl
  | cons filter rest inductionHypothesis => rw [unparsed, inductionHypothesis]; rfl

theorem depthOf_le_iff {symbol : Symbol} {filters : List Filter} {limit : Nat} :
    depthOf symbol filters ≤ limit ↔ ∀ filter ∈ filters, depthAs symbol filter ≤ limit := by
  induction filters with
  | nil => simp [depthOf]
  | cons filter rest inductionHypothesis =>
      rw [depthOf, Nat.max_le, inductionHypothesis, List.forall_mem_cons]
      rfl

/-- Whether something holds of a filter and of all filters in it. -/
inductive Everywhere (holds : Filter → Prop) : Filter → Prop where
  | present {name : String} : holds (.present name) → Everywhere holds (.present name)
  | compare {name : String} {comparator : Comparator} {literal : Int64} :
      holds (.compare name comparator literal) →
      Everywhere holds (.compare name comparator literal)
  | all {conditions : List Filter} : holds (.all conditions) →
      (∀ condition ∈ conditions, Everywhere holds condition) → Everywhere holds (.all conditions)
  | any {alternatives : List Filter} : holds (.any alternatives) →
      (∀ alternative ∈ alternatives, Everywhere holds alternative) →
      Everywhere holds (.any alternatives)

/-- Whether a filter joins at least two operands, if it is a connective. -/
def JoinsSeveral : Filter → Prop
  | all operands | any operands => 2 ≤ operands.length
  | present _ | compare _ _ _ => True

/-- Whether a filter asks for a name that a tag may have, if it asks for one. -/
def AsksForTag : Filter → Prop
  | present name | compare name _ _ => Tag.Name.fault? name = none
  | all _ | any _ => True

def TextNestsWithin (limit : Nat) (text : String) : Prop :=
  ∃ tokens, Divides text tokens ∧ NestsWithin limit tokens

section Nesting

variable {symbol : Symbol} {limit : Nat}

/-- The groups inside a group have one level less to nest in. -/
theorem NestsWithin.exists_of_group {inner : Derivation .expression}
    (nests : NestsWithin limit (Derivation.group inner).tokens) :
    ∃ inside, limit = inside + 1 ∧ NestsWithin inside inner.tokens := by
  have opened : openGroups [.openGroup] ≤ limit := nests _ ⟨_, rfl⟩
  have single : openGroups [.openGroup] = 1 := rfl
  refine ⟨limit - 1, by omega, ?_⟩
  intro part isPrefix
  have bound : openGroups (.openGroup :: part) ≤ limit := by
    apply nests
    exact List.cons_prefix_cons.mpr ⟨rfl, isPrefix.trans (List.prefix_append _ _)⟩
  simp only [openGroups, List.count_cons_self, List.count_cons, beq_iff_eq, reduceCtorEq,
    if_false] at bound ⊢
  omega

theorem NestsWithin.of_front {front back : List Token}
    (nests : NestsWithin limit (front ++ back)) : NestsWithin limit front := by
  intro part isPrefix
  exact nests part (isPrefix.trans (List.prefix_append front back))

/-- What follows a derivation and a connective nests as if it stood alone. -/
theorem NestsWithin.of_behind {front : Derivation symbol} {token : Token} {back : List Token}
    (noGroup : token ≠ .openGroup ∧ token ≠ .closeGroup)
    (nests : NestsWithin limit (front.tokens ++ token :: back)) : NestsWithin limit back := by
  intro part isPrefix
  have bound : openGroups (front.tokens ++ token :: part) ≤ limit := by
    apply nests
    exact (List.prefix_append_right_inj _).mpr (List.cons_prefix_cons.mpr ⟨rfl, isPrefix⟩)
  have balanced := front.count_openGroup
  simp only [openGroups, List.count_append, List.count_cons, beq_iff_eq, if_neg noGroup.1,
    if_neg noGroup.2] at bound ⊢
  omega

theorem depthAs_le (symbol : Symbol) (filter : Filter) :
    depthAs symbol filter ≤ depth filter + 1 := by
  unfold depthAs
  split
  · exact Nat.le_refl _
  · exact Nat.le_succ _

theorem depthAs_conjunction_le (filter : Filter) :
    depthAs .conjunction filter ≤ depthAs .atom filter := by
  cases filter <;> simp [depthAs, needsGroup]

theorem depth_le_depthAs (symbol : Symbol) (filter : Filter) :
    depth filter ≤ depthAs symbol filter := by
  unfold depthAs
  split
  · exact Nat.le_succ _
  · exact Nat.le_refl _

theorem depthAs_chain_all_le {operands : List Filter}
    (bounded : ∀ operand ∈ operands, depthAs .atom operand ≤ limit) :
    depthAs .conjunction (chain .all operands) ≤ limit := by
  match operands with
  | [] => exact Nat.zero_le limit
  | [only] =>
      exact Nat.le_trans (depthAs_conjunction_le only) (bounded only (List.mem_singleton_self _))
  | _ :: _ :: _ => exact depthOf_le_iff.mpr bounded

theorem depth_chain_any_le {operands : List Filter}
    (bounded : ∀ operand ∈ operands, depthAs .conjunction operand ≤ limit) :
    depth (chain .any operands) ≤ limit := by
  match operands with
  | [] => exact Nat.zero_le limit
  | [only] =>
      exact Nat.le_trans (depth_le_depthAs _ only) (bounded only (List.mem_singleton_self _))
  | _ :: _ :: _ => exact depthOf_le_iff.mpr bounded

/-- The place of an operand in a chain of a symbol; an atom is a chain of itself. -/
def Symbol.operand : Symbol → Symbol
  | .expression => .conjunction
  | .conjunction | .atom => .atom

/-- No text nests the groups of its operands less deep than `unparse` does. -/
theorem Derivation.depthAs_le_of_nestsWithin {derivation : Derivation symbol}
    (nests : NestsWithin limit derivation.tokens) :
    ∀ operand ∈ derivation.operands, depthAs symbol.operand operand ≤ limit := by
  induction derivation generalizing limit with
  | name tagName => simp [operands, depthAs, needsGroup, depth, Symbol.operand]
  | comparison tagName comparator literal =>
      simp [operands, depthAs, needsGroup, depth, Symbol.operand]
  | group inner inductionHypothesis =>
      obtain ⟨inside, rfl, innerNests⟩ := nests.exists_of_group
      intro operand membership
      rw [List.mem_singleton.mp membership]
      apply Nat.le_trans (depthAs_le _ _)
      exact Nat.succ_le_succ (depth_chain_any_le (inductionHypothesis innerNests))
  | condition only inductionHypothesis => exact inductionHypothesis nests
  | and front last frontHypothesis lastHypothesis =>
      intro operand membership
      rcases List.mem_append.mp membership with inFront | inLast
      · exact frontHypothesis nests.of_front operand inFront
      · exact lastHypothesis (nests.of_behind (by simp)) operand inLast
  | alternative only inductionHypothesis =>
      intro operand membership
      rw [List.mem_singleton.mp membership]
      exact depthAs_chain_all_le (inductionHypothesis nests)
  | or front last frontHypothesis lastHypothesis =>
      intro operand membership
      rcases List.mem_append.mp membership with inFront | inLast
      · exact frontHypothesis nests.of_front operand inFront
      · rw [List.mem_singleton.mp inLast]
        exact depthAs_chain_all_le (lastHypothesis (nests.of_behind (by simp)))

end Nesting

section Image

variable {symbol : Symbol} {holds : Filter → Prop}

theorem Derivation.operands_ne_nil (derivation : Derivation symbol) :
    derivation.operands ≠ [] := by
  induction derivation with
  | name | comparison | group | alternative => exact List.cons_ne_nil _ _
  | condition only inductionHypothesis => exact inductionHypothesis
  | and front last frontHypothesis => exact List.append_ne_nil_of_left_ne_nil frontHypothesis _
  | or front last frontHypothesis => exact List.append_ne_nil_of_left_ne_nil frontHypothesis _

theorem everywhere_chain {connective : List Filter → Filter} {operands : List Filter}
    (joins : 2 ≤ operands.length → (∀ operand ∈ operands, Everywhere holds operand) →
      Everywhere holds (connective operands))
    (nonempty : operands ≠ []) (below : ∀ operand ∈ operands, Everywhere holds operand) :
    Everywhere holds (chain connective operands) := by
  match operands with
  | [] => exact absurd rfl nonempty
  | [only] => exact below only (List.mem_singleton_self _)
  | _ :: _ :: rest => exact joins (by simp) below

theorem everywhere_of_chain {connective : List Filter → Filter} {operands : List Filter}
    (parts : Everywhere holds (connective operands) →
      ∀ operand ∈ operands, Everywhere holds operand)
    (whole : Everywhere holds (chain connective operands)) :
    ∀ operand ∈ operands, Everywhere holds operand := by
  match operands with
  | [] => exact nofun
  | [only] => exact List.forall_mem_singleton.mpr whole
  | _ :: _ :: _ => exact parts whole

theorem Everywhere.of_all {operands : List Filter} (whole : Everywhere holds (.all operands)) :
    ∀ operand ∈ operands, Everywhere holds operand := by
  cases whole with
  | all _ below => exact below

theorem Everywhere.of_any {operands : List Filter} (whole : Everywhere holds (.any operands)) :
    ∀ operand ∈ operands, Everywhere holds operand := by
  cases whole with
  | any _ below => exact below

/-- What holds of the leaves that a text names, and of connectives of several
operands, holds everywhere in its operands. -/
theorem Derivation.everywhere {derivation : Derivation symbol}
    (leaves : ∀ name, .identifier name ∈ derivation.tokens → holds (.present name) ∧
      ∀ comparator literal, holds (.compare name comparator literal))
    (connectives : ∀ operands, 2 ≤ operands.length →
      holds (.all operands) ∧ holds (.any operands)) :
    ∀ operand ∈ derivation.operands, Everywhere holds operand := by
  have all : ∀ {operands : List Filter}, 2 ≤ operands.length →
      (∀ operand ∈ operands, Everywhere holds operand) → Everywhere holds (.all operands) :=
    fun long below => .all (connectives _ long).1 below
  have any : ∀ {operands : List Filter}, 2 ≤ operands.length →
      (∀ operand ∈ operands, Everywhere holds operand) → Everywhere holds (.any operands) :=
    fun long below => .any (connectives _ long).2 below
  induction derivation with
  | name tagName =>
      intro operand membership
      rw [List.mem_singleton.mp membership]
      exact .present (leaves tagName List.mem_cons_self).1
  | comparison tagName comparator literal =>
      intro operand membership
      rw [List.mem_singleton.mp membership]
      exact .compare ((leaves tagName List.mem_cons_self).2 _ _)
  | group inner inductionHypothesis =>
      intro operand membership
      rw [List.mem_singleton.mp membership]
      apply everywhere_chain any inner.operands_ne_nil
      apply inductionHypothesis
      intro tagName named
      exact leaves tagName (List.mem_cons_of_mem _ (List.mem_append_left _ named))
  | condition only inductionHypothesis => exact inductionHypothesis leaves
  | and front last frontHypothesis lastHypothesis =>
      intro operand membership
      rcases List.mem_append.mp membership with inFront | inLast
      · apply frontHypothesis _ operand inFront
        intro tagName named
        exact leaves tagName (List.mem_append_left _ named)
      · apply lastHypothesis _ operand inLast
        intro tagName named
        exact leaves tagName (List.mem_append_right _ (List.mem_cons_of_mem _ named))
  | alternative only inductionHypothesis =>
      intro operand membership
      rw [List.mem_singleton.mp membership]
      exact everywhere_chain all only.operands_ne_nil (inductionHypothesis leaves)
  | or front last frontHypothesis lastHypothesis =>
      intro operand membership
      rcases List.mem_append.mp membership with inFront | inLast
      · apply frontHypothesis _ operand inFront
        intro tagName named
        exact leaves tagName (List.mem_append_left _ named)
      · rw [List.mem_singleton.mp inLast]
        apply everywhere_chain all last.operands_ne_nil
        apply lastHypothesis
        intro tagName named
        exact leaves tagName (List.mem_append_right _ (List.mem_cons_of_mem _ named))

theorem Derivation.isLexable_of_everywhere {derivation : Derivation symbol}
    (asks : ∀ operand ∈ derivation.operands, Everywhere AsksForTag operand) :
    ∀ token ∈ derivation.tokens, token.IsLexable := by
  induction derivation with
  | name tagName =>
      cases asks _ (List.mem_singleton_self _) with
      | present free => exact List.forall_mem_singleton.mpr free
  | comparison tagName comparator literal =>
      cases asks _ (List.mem_singleton_self _) with
      | compare free =>
          intro token membership
          simp only [tokens, List.mem_cons, List.not_mem_nil, or_false] at membership
          rcases membership with rfl | rfl | rfl
          · exact free
          · trivial
          · trivial
  | group inner inductionHypothesis =>
      have parts := everywhere_of_chain Everywhere.of_any (List.forall_mem_singleton.mp asks)
      have closes : Token.closeGroup.IsLexable := trivial
      have behind := List.forall_mem_append.mpr
        ⟨inductionHypothesis parts, List.forall_mem_singleton.mpr closes⟩
      exact List.forall_mem_cons.mpr ⟨trivial, behind⟩
  | condition only inductionHypothesis => exact inductionHypothesis asks
  | and front last frontHypothesis lastHypothesis =>
      obtain ⟨frontAsks, lastAsks⟩ := List.forall_mem_append.mp asks
      have joins : Token.and.IsLexable := trivial
      have behind := List.forall_mem_cons.mpr ⟨joins, lastHypothesis lastAsks⟩
      exact List.forall_mem_append.mpr ⟨frontHypothesis frontAsks, behind⟩
  | alternative only inductionHypothesis =>
      apply inductionHypothesis
      exact everywhere_of_chain Everywhere.of_all (List.forall_mem_singleton.mp asks)
  | or front last frontHypothesis lastHypothesis =>
      obtain ⟨frontAsks, lastAsks⟩ := List.forall_mem_append.mp asks
      have parts := everywhere_of_chain Everywhere.of_all (List.forall_mem_singleton.mp lastAsks)
      have joins : Token.or.IsLexable := trivial
      have behind := List.forall_mem_cons.mpr ⟨joins, lastHypothesis parts⟩
      exact List.forall_mem_append.mpr ⟨frontHypothesis frontAsks, behind⟩

end Image

end TagCatalog.Filter
