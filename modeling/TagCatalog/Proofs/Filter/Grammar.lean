import TagCatalog.Filter.Automaton

/-!
# The grammar of filter texts

A filter text is an expression of the grammar

    expression  := conjunction | expression OR conjunction
    conjunction := atom | conjunction AND atom
    atom        := name | name comparator integer | ( expression )

`Derivation` has the derivation trees of the three symbols.  The tokens of a
derivation are the text that it derives and its operands are the filters that
stand in its chain.  A chain of one operand stands for that operand; a group is
one operand of the chain around it, whatever it holds.  `tokens_injective` says
that no text has two derivations.
-/

namespace TagCatalog.Filter

inductive Symbol where
  | atom
  | conjunction
  | expression

inductive Derivation : Symbol → Type where
  | name (name : String) : Derivation .atom
  | comparison (name : String) (comparator : Comparator) (literal : Int64) : Derivation .atom
  | group (inner : Derivation .expression) : Derivation .atom
  | condition (only : Derivation .atom) : Derivation .conjunction
  | and (front : Derivation .conjunction) (last : Derivation .atom) : Derivation .conjunction
  | alternative (only : Derivation .conjunction) : Derivation .expression
  | or (front : Derivation .expression) (last : Derivation .conjunction) :
      Derivation .expression

/-- One node for a chain of operands, unless there is only one of them. -/
def chain (connective : List Filter → Filter) : List Filter → Filter
  | [only] => only
  | operands => connective operands

def openGroups (tokens : List Token) : Nat :=
  tokens.count .openGroup - tokens.count .closeGroup

/-- Whether no more than `limit` groups are open at any of some tokens. -/
def NestsWithin (limit : Nat) (tokens : List Token) : Prop :=
  ∀ front, front <+: tokens → openGroups front ≤ limit

theorem openGroups_append_le (front back : List Token) :
    openGroups (front ++ back) ≤ openGroups front + openGroups back := by
  simp only [openGroups, List.count_append]
  omega

theorem NestsWithin.append {limit : Nat} {front back : List Token}
    (frontNests : NestsWithin limit front) (closed : openGroups front = 0)
    (backNests : NestsWithin limit back) : NestsWithin limit (front ++ back) := by
  intro part isPrefix
  rcases List.prefix_or_prefix_of_prefix isPrefix (List.prefix_append front back) with
    inFront | ⟨others, rfl⟩
  · exact frontNests part inFront
  · have sum := openGroups_append_le front others
    have bound := backNests others ((List.prefix_append_right_inj front).mp isPrefix)
    omega

theorem openGroups_cons_le {token : Token} (other : token ≠ .openGroup) (tokens : List Token) :
    openGroups (token :: tokens) ≤ openGroups tokens := by
  simp only [openGroups, List.count_cons, beq_iff_eq, if_neg other]
  omega

theorem NestsWithin.cons {limit : Nat} {token : Token} {tokens : List Token}
    (other : token ≠ .openGroup) (nests : NestsWithin limit tokens) :
    NestsWithin limit (token :: tokens) := by
  intro part isPrefix
  cases part with
  | nil => exact Nat.zero_le limit
  | cons first part =>
      obtain ⟨rfl, restPrefix⟩ := List.cons_prefix_cons.mp isPrefix
      exact Nat.le_trans (openGroups_cons_le other part) (nests part restPrefix)

theorem NestsWithin.append_noGroup {limit : Nat} {front back : List Token}
    (nests : NestsWithin limit front) (noGroup : .openGroup ∉ back) :
    NestsWithin limit (front ++ back) := by
  intro part isPrefix
  rcases List.prefix_or_prefix_of_prefix isPrefix (List.prefix_append front back) with
    inFront | ⟨others, rfl⟩
  · exact nests part inFront
  · have othersPrefix : others <+: back := (List.prefix_append_right_inj front).mp isPrefix
    have noneOpens : others.count .openGroup = 0 :=
      List.count_eq_zero.mpr fun membership => noGroup (othersPrefix.subset membership)
    have bound := openGroups_append_le front others
    have whole := nests front (List.prefix_refl front)
    simp only [openGroups] at bound whole ⊢
    omega

theorem nestsWithin_nil (limit : Nat) : NestsWithin limit [] := by
  intro part isPrefix
  rw [List.prefix_nil.mp isPrefix]
  exact Nat.zero_le limit

theorem nestsWithin_of_noGroup {limit : Nat} {tokens : List Token}
    (noGroup : .openGroup ∉ tokens) : NestsWithin limit tokens :=
  (nestsWithin_nil limit).append_noGroup noGroup

namespace Derivation

variable {symbol : Symbol}

@[simp]
def tokens : {symbol : Symbol} → Derivation symbol → List Token
  | _, .name tagName => [.identifier tagName]
  | _, comparison tagName comparator literal =>
      [.identifier tagName, .comparator comparator, .integer literal]
  | _, group inner => .openGroup :: inner.tokens ++ [.closeGroup]
  | _, condition only => only.tokens
  | _, and front last => front.tokens ++ .and :: last.tokens
  | _, alternative only => only.tokens
  | _, or front last => front.tokens ++ .or :: last.tokens

def operands : {symbol : Symbol} → Derivation symbol → List Filter
  | _, .name tagName => [.present tagName]
  | _, comparison tagName comparator literal => [.compare tagName comparator literal]
  | _, group inner => [chain .any inner.operands]
  | _, condition only => only.operands
  | _, and front last => front.operands ++ last.operands
  | _, alternative only => [chain .all only.operands]
  | _, or front last => front.operands ++ [chain .all last.operands]

def filter (derivation : Derivation .expression) : Filter :=
  chain .any derivation.operands

/-- Whether a derivation of a symbol starts behind some tokens, as far as they
tell: a chain does not start behind its own connective. -/
def StartsBehind : Symbol → List Token → Prop
  | .atom, _ => True
  | .conjunction, front => front.getLast? ≠ some .and
  | .expression, front => front.getLast? ≠ some .and ∧ front.getLast? ≠ some .or

/-- Whether texts that end with a derivation end with no other of its symbol, as
far as it starts where it may. -/
def EndsUniquely (first : Derivation symbol) : Prop :=
  ∀ {second : Derivation symbol} {front otherFront : List Token},
    StartsBehind symbol front → StartsBehind symbol otherFront →
    front ++ first.tokens = otherFront ++ second.tokens → first = second ∧ front = otherFront

theorem endsUniquely_name (tagName : String) : EndsUniquely (.name tagName) := by
  intro second front otherFront _ _ same
  cases second with
  | name otherName =>
      obtain ⟨fronts, last⟩ := List.append_inj' same rfl
      simp only [tokens, List.cons.injEq, Token.identifier.injEq, and_true] at last
      exact ⟨congrArg Derivation.name last, fronts⟩
  | comparison => simpa [tokens] using congrArg List.getLast? same
  | group => simpa [tokens, List.getLast?_cons] using congrArg List.getLast? same

theorem endsUniquely_comparison (tagName : String) (comparator : Comparator) (literal : Int64) :
    EndsUniquely (comparison tagName comparator literal) := by
  intro second front otherFront _ _ same
  cases second with
  | name => simpa [tokens] using congrArg List.getLast? same
  | comparison otherName otherComparator otherLiteral =>
      obtain ⟨fronts, last⟩ := List.append_inj' same rfl
      simp only [tokens, List.cons.injEq, Token.identifier.injEq, Token.comparator.injEq,
        Token.integer.injEq, and_true] at last
      obtain ⟨rfl, rfl, rfl⟩ := last
      exact ⟨rfl, fronts⟩
  | group => simpa [tokens, List.getLast?_cons] using congrArg List.getLast? same

theorem EndsUniquely.group {inner : Derivation .expression} (unique : EndsUniquely inner) :
    EndsUniquely (group inner) := by
  intro second front otherFront _ _ same
  cases second with
  | name => simpa [tokens, List.getLast?_cons] using congrArg List.getLast? same
  | comparison => simpa [tokens, List.getLast?_cons] using congrArg List.getLast? same
  | group otherInner =>
      have opened : (front ++ [.openGroup]) ++ inner.tokens =
          (otherFront ++ [.openGroup]) ++ otherInner.tokens := by
        have ended : (front ++ .openGroup :: inner.tokens) ++ [Token.closeGroup] =
            (otherFront ++ .openGroup :: otherInner.tokens) ++ [.closeGroup] := by
          rw [List.append_assoc, List.append_assoc]
          exact same
        rw [List.append_assoc, List.append_assoc]
        exact List.append_cancel_right ended
      obtain ⟨rfl, fronts⟩ := unique (by simp [StartsBehind]) (by simp [StartsBehind]) opened
      exact ⟨rfl, List.append_cancel_right fronts⟩

theorem EndsUniquely.condition {only : Derivation .atom} (unique : EndsUniquely only) :
    EndsUniquely (condition only) := by
  intro second front otherFront starts _ same
  cases second with
  | condition other =>
      obtain ⟨rfl, fronts⟩ := unique trivial trivial same
      exact ⟨rfl, fronts⟩
  | and otherChainFront otherLast =>
      have joined : front ++ only.tokens =
          (otherFront ++ otherChainFront.tokens ++ [.and]) ++ otherLast.tokens := by
        simpa [tokens] using same
      obtain ⟨-, fronts⟩ := unique trivial trivial joined
      simp [StartsBehind, fronts] at starts

theorem EndsUniquely.and {chainFront : Derivation .conjunction} {last : Derivation .atom}
    (uniqueFront : EndsUniquely chainFront) (unique : EndsUniquely last) :
    EndsUniquely (and chainFront last) := by
  intro second front otherFront starts otherStarts same
  cases second with
  | condition other =>
      have joined : (front ++ chainFront.tokens ++ [.and]) ++ last.tokens =
          otherFront ++ other.tokens := by
        simpa [tokens] using same
      obtain ⟨-, fronts⟩ := unique trivial trivial joined
      simp [StartsBehind, ← fronts] at otherStarts
  | and otherChainFront otherLast =>
      have joined : (front ++ chainFront.tokens ++ [.and]) ++ last.tokens =
          (otherFront ++ otherChainFront.tokens ++ [.and]) ++ otherLast.tokens := by
        simpa [tokens] using same
      obtain ⟨rfl, connectives⟩ := unique trivial trivial joined
      obtain ⟨rfl, fronts⟩ :=
        uniqueFront starts otherStarts (List.append_cancel_right connectives)
      exact ⟨rfl, fronts⟩

theorem EndsUniquely.alternative {only : Derivation .conjunction} (unique : EndsUniquely only) :
    EndsUniquely (alternative only) := by
  intro second front otherFront starts otherStarts same
  cases second with
  | alternative other =>
      obtain ⟨rfl, fronts⟩ := unique starts.1 otherStarts.1 same
      exact ⟨rfl, fronts⟩
  | or otherChainFront otherLast =>
      have joined : front ++ only.tokens =
          (otherFront ++ otherChainFront.tokens ++ [.or]) ++ otherLast.tokens := by
        simpa [tokens] using same
      obtain ⟨-, fronts⟩ := unique starts.1 (by simp [StartsBehind]) joined
      simp [StartsBehind, fronts] at starts

theorem EndsUniquely.or {chainFront : Derivation .expression} {last : Derivation .conjunction}
    (uniqueFront : EndsUniquely chainFront) (unique : EndsUniquely last) :
    EndsUniquely (or chainFront last) := by
  intro second front otherFront starts otherStarts same
  cases second with
  | alternative other =>
      have joined : (front ++ chainFront.tokens ++ [.or]) ++ last.tokens =
          otherFront ++ other.tokens := by
        simpa [tokens] using same
      obtain ⟨-, fronts⟩ := unique (by simp [StartsBehind]) otherStarts.1 joined
      simp [StartsBehind, ← fronts] at otherStarts
  | or otherChainFront otherLast =>
      have joined : (front ++ chainFront.tokens ++ [.or]) ++ last.tokens =
          (otherFront ++ otherChainFront.tokens ++ [.or]) ++ otherLast.tokens := by
        simpa [tokens] using same
      obtain ⟨rfl, connectives⟩ :=
        unique (by simp [StartsBehind]) (by simp [StartsBehind]) joined
      obtain ⟨rfl, fronts⟩ :=
        uniqueFront starts otherStarts (List.append_cancel_right connectives)
      exact ⟨rfl, fronts⟩

/-- Read from its end, a text has one derivation of a symbol and one place where
that derivation starts. -/
theorem endsUniquely (derivation : Derivation symbol) : EndsUniquely derivation := by
  -- The last token decides between the productions; what is in front of the last
  -- operand then ends in the same way.
  induction derivation with
  | name tagName => exact endsUniquely_name tagName
  | comparison tagName comparator literal => exact endsUniquely_comparison _ _ _
  | group inner unique => exact unique.group
  | condition only unique => exact unique.condition
  | and chainFront last uniqueFront unique => exact uniqueFront.and unique
  | alternative only unique => exact unique.alternative
  | or chainFront last uniqueFront unique => exact uniqueFront.or unique

/-- The grammar is unambiguous. -/
theorem tokens_injective :
    Function.Injective (tokens : Derivation .expression → List Token) := by
  intro first second same
  have starts : StartsBehind .expression [] := by simp [StartsBehind]
  have behindNothing : [] ++ first.tokens = [] ++ second.tokens := same
  exact (endsUniquely first starts starts behindNothing).1

/-- Every group is closed. -/
theorem count_openGroup (derivation : Derivation symbol) :
    derivation.tokens.count .openGroup = derivation.tokens.count .closeGroup := by
  induction derivation with
  | name | comparison => rfl
  | group inner inductionHypothesis =>
      simp [tokens, inductionHypothesis]
  | condition only inductionHypothesis => exact inductionHypothesis
  | and front last frontHypothesis lastHypothesis =>
      simp [tokens, frontHypothesis, lastHypothesis]
  | alternative only inductionHypothesis => exact inductionHypothesis
  | or front last frontHypothesis lastHypothesis =>
      simp [tokens, frontHypothesis, lastHypothesis]

theorem openGroups_tokens (derivation : Derivation symbol) :
    openGroups derivation.tokens = 0 := by
  rw [openGroups, count_openGroup, Nat.sub_self]

theorem nestsWithin_group {limit : Nat} {inner : Derivation .expression}
    (nests : NestsWithin limit inner.tokens) :
    NestsWithin (limit + 1) (group inner).tokens := by
  intro part isPrefix
  rcases List.prefix_concat_iff.mp isPrefix with rfl | isPrefix
  · exact Nat.le_trans (Nat.le_of_eq (group inner).openGroups_tokens) (Nat.zero_le _)
  · cases part with
    | nil => exact Nat.zero_le _
    | cons first part =>
        have opened := openGroups_append_le [first] part
        have single : openGroups [first] ≤ 1 :=
          Nat.le_trans (Nat.sub_le _ _) List.count_le_length
        have bound := nests part (List.cons_prefix_cons.mp isPrefix).2
        exact Nat.le_trans opened (by omega)

/-- The expression whose last conjunction goes on with an atom. -/
def andLast : Derivation .expression → Derivation .atom → Derivation .expression
  | alternative only, last => alternative (and only last)
  | or front conjunction, last => or front (and conjunction last)

theorem tokens_andLast (front : Derivation .expression) (last : Derivation .atom) :
    (front.andLast last).tokens = front.tokens ++ .and :: last.tokens := by
  cases front <;> simp [andLast, tokens]

end Derivation

/-- The tokens of groups side by side, with a connective in front of each but the
first. -/
def groupRow (first : Derivation .expression)
    (others : List (Token × Derivation .expression)) : List Token :=
  (Derivation.group first).tokens ++
    others.flatMap fun other => other.1 :: (Derivation.group other.2).tokens

/-- An expression goes on with any number of groups, however many groups it has
already. -/
theorem Derivation.exists_row {limit : Nat} {others : List (Token × Derivation .expression)}
    (joined : ∀ other ∈ others, other.1 = .and ∨ other.1 = .or)
    (nest : ∀ other ∈ others, NestsWithin limit other.2.tokens)
    (front : Derivation .expression) (frontNests : NestsWithin (limit + 1) front.tokens) :
    ∃ whole : Derivation .expression, NestsWithin (limit + 1) whole.tokens ∧
      whole.tokens = front.tokens ++
        others.flatMap fun other => other.1 :: (group other.2).tokens := by
  induction others generalizing front with
  | nil => exact ⟨front, frontNests, by simp⟩
  | cons other others inductionHypothesis =>
      obtain ⟨connective, inner⟩ := other
      obtain ⟨isConnective, othersJoined⟩ := List.forall_mem_cons.mp joined
      obtain ⟨innerNests, othersNest⟩ := List.forall_mem_cons.mp nest
      have longer : ∃ next : Derivation .expression,
          next.tokens = front.tokens ++ connective :: (group inner).tokens := by
        rcases isConnective with rfl | rfl
        · exact ⟨front.andLast (group inner), front.tokens_andLast _⟩
        · exact ⟨or front (condition (group inner)), rfl⟩
      obtain ⟨next, nextTokens⟩ := longer
      have notOpen : connective ≠ .openGroup := by
        rcases isConnective with rfl | rfl <;> nofun
      have nextNests : NestsWithin (limit + 1) next.tokens := by
        rw [nextTokens]
        exact frontNests.append front.openGroups_tokens
          (.cons notOpen (nestsWithin_group innerNests))
      obtain ⟨whole, wholeNests, wholeTokens⟩ :=
        inductionHypothesis othersJoined othersNest next nextNests
      exact ⟨whole, wholeNests, by simp [wholeTokens, nextTokens]⟩

end TagCatalog.Filter
