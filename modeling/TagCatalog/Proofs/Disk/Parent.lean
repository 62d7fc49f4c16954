import TagCatalog.Disk.Path

/-!
# The path of a parent

The path of a parent is the front of a path, up to a component that names
something.
-/

namespace TagCatalog.Text

theorem not_mem_of_mem_divide {separator : Char} {text part : List Char}
    (membership : part ∈ divide separator text) : separator ∉ part := by
  induction text generalizing part with
  | nil =>
      rw [List.mem_singleton.mp membership]
      exact List.not_mem_nil
  | cons first rest inductionHypothesis =>
      simp only [divide] at membership
      split at membership
      next =>
        rcases List.mem_cons.mp membership with rfl | inRest
        · exact List.not_mem_nil
        · exact inductionHypothesis inRest
      next other =>
        split at membership
        next empty => exact absurd empty (divide_ne_nil separator rest)
        next head parts found =>
          rw [found] at inductionHypothesis
          rcases List.mem_cons.mp membership with rfl | inParts
          · intro inPart
            rcases List.mem_cons.mp inPart with same | inHead
            · exact other same.symm
            · exact inductionHypothesis List.mem_cons_self inHead
          · exact inductionHypothesis (List.mem_cons_of_mem _ inParts)

theorem divide_append_cons (separator : Char) (front rest : List Char) :
    divide separator (front ++ separator :: rest) =
      divide separator front ++ divide separator rest := by
  induction front with
  | nil => simp [divide]
  | cons first front inductionHypothesis =>
      rw [List.cons_append, divide, divide, inductionHypothesis]
      split
      next => rfl
      next =>
        obtain ⟨part, parts, found⟩ :=
          List.exists_cons_of_ne_nil (divide_ne_nil separator front)
        rw [found]
        rfl

theorem divide_of_not_mem {separator : Char} {part : List Char} (free : separator ∉ part) :
    divide separator part = [part] := by
  induction part with
  | nil => rfl
  | cons first part inductionHypothesis =>
      simp only [List.mem_cons, not_or] at free
      obtain ⟨other, partFree⟩ := free
      rw [divide, if_neg (Ne.symm other), inductionHypothesis partFree]

theorem divide_append {separator : Char} {part : List Char} (rest : List Char)
    (free : separator ∉ part) :
    divide separator (part ++ separator :: rest) = part :: divide separator rest := by
  rw [divide_append_cons, divide_of_not_mem free]
  rfl

theorem divide_join {separator : Char} {parts : List (List Char)} (nonempty : parts ≠ [])
    (free : ∀ part ∈ parts, separator ∉ part) :
    divide separator (join separator parts) = parts := by
  induction parts with
  | nil => exact absurd rfl nonempty
  | cons part rest inductionHypothesis =>
      obtain ⟨partFree, restFree⟩ := List.forall_mem_cons.mp free
      cases rest with
      | nil => exact divide_of_not_mem partFree
      | cons second more =>
          rw [join, divide_append _ partFree, inductionHypothesis (List.cons_ne_nil _ _) restFree]
          exact List.cons_ne_nil _ _

theorem join_append (separator : Char) {front back : List (List Char)}
    (frontNonempty : front ≠ []) (backNonempty : back ≠ []) :
    join separator (front ++ back) = join separator front ++ separator :: join separator back := by
  induction front with
  | nil => exact absurd rfl frontNonempty
  | cons part rest inductionHypothesis =>
      cases rest with
      | nil =>
          obtain ⟨second, more, rfl⟩ := List.exists_cons_of_ne_nil backNonempty
          rfl
      | cons second more =>
          have others := inductionHypothesis (List.cons_ne_nil _ _)
          simp only [List.cons_append, join, List.append_assoc] at others ⊢
          rw [others]

end TagCatalog.Text

namespace TagCatalog.Path

open Text

variable {path parent : String}

def isNamed (component : String) : Bool :=
  component ≠ "" && component ≠ "."

theorem exists_dropUnnamed (components : List (List Char)) :
    ∃ dropped, components = dropped ++ dropUnnamed components := by
  fun_induction dropUnnamed components with
  | case1 => exact ⟨[], rfl⟩
  | case2 only => exact ⟨[], rfl⟩
  | case3 earlier _ inductionHypothesis =>
      obtain ⟨dropped, rest⟩ := inductionHypothesis
      exact ⟨[] :: dropped, congrArg _ rest⟩
  | case4 earlier _ inductionHypothesis =>
      obtain ⟨dropped, rest⟩ := inductionHypothesis
      exact ⟨['.'] :: dropped, congrArg _ rest⟩
  | case5 named earlier => exact ⟨[], rfl⟩

theorem dropUnnamed_ne_nil {components : List (List Char)} (nonempty : components ≠ []) :
    dropUnnamed components ≠ [] := by
  fun_induction dropUnnamed components with
  | case1 => exact absurd rfl nonempty
  | case2 only => exact List.cons_ne_nil _ _
  | case3 earlier several inductionHypothesis => exact inductionHypothesis several
  | case4 earlier several inductionHypothesis => exact inductionHypothesis several
  | case5 named earlier => exact List.cons_ne_nil _ _

theorem isNamed_of_dropUnnamed {components earlier : List (List Char)} {last second : List Char}
    (left : dropUnnamed components = last :: second :: earlier) :
    isNamed (String.ofList last) = true := by
  fun_induction dropUnnamed components with
  | case1 => cases left
  | case2 only => cases left
  | case3 earlier _ inductionHypothesis => exact inductionHypothesis left
  | case4 earlier _ inductionHypothesis => exact inductionHypothesis left
  | case5 named earlier _ notEmpty notDot =>
      cases left
      have notEmptyText : String.ofList last ≠ "" :=
        fun same => notEmpty (String.ofList_injective same)
      have notDotText : String.ofList last ≠ "." :=
        fun same => notDot (String.ofList_injective same)
      simp [isNamed, notEmptyText, notDotText]

theorem exists_components_eq_inFront_append (path : String) :
    ∃ rest, components path = inFront path ++ rest := by
  obtain ⟨dropped, parts⟩ := exists_dropUnnamed (divide '/' path.toList).reverse
  have nonempty : named path ≠ [] :=
    dropUnnamed_ne_nil (mt List.reverse_eq_nil_iff.mp (divide_ne_nil '/' path.toList))
  obtain ⟨last, earlier, found⟩ := List.exists_cons_of_ne_nil nonempty
  rw [← named, found, List.reverse_eq_iff] at parts
  refine ⟨((last :: dropped.reverse).map String.ofList), ?_⟩
  rw [components, parts, inFront, found]
  simp

theorem exists_components_eq_makeable_append (path : String) :
    ∃ rest, components path = makeable path ++ rest := by
  unfold makeable
  split
  next => exact exists_components_eq_inFront_append path
  next => exact ⟨[], (List.append_nil _).symm⟩

/-- Behind a dot at the end there is nothing that names anything. -/
theorem exists_components_of_endsInDot (ends : endsInDot path = true) :
    ∃ front unnamed, components path = front ++ "." :: unnamed ∧
      ∀ component ∈ unnamed, component = "" := by
  obtain ⟨-, behind, front, parts, unnamed⟩ :=
    List.find?_eq_some_iff_append.mp (of_decide_eq_true ends)
  refine ⟨front.reverse, behind.reverse, ?_, fun component membership => ?_⟩
  · rw [List.reverse_eq_iff.mp parts]
    simp
  · simpa using unnamed component (List.mem_reverse.mp membership)

theorem components_ofReversed {kept : List (List Char)} (nonempty : kept ≠ [])
    (free : ∀ part ∈ kept, '/' ∉ part) :
    components (ofReversed kept) = kept.reverse.map String.ofList ∨
      ofReversed kept = "/" ∧ kept.reverse.map String.ofList = [""] := by
  by_cases root : kept = [[]]
  · right
    rw [root]
    exact ⟨rfl, rfl⟩
  · left
    have divided : divide '/' (Text.join '/' kept.reverse) = kept.reverse := by
      apply divide_join (mt List.reverse_eq_nil_iff.mp nonempty)
      intro part membership
      exact free part (List.mem_reverse.mp membership)
    rw [components, ofReversed, if_neg root, String.toList_ofList, divided]

/-- A path is the front of every text that goes on with its components. -/
theorem exists_toList_ofReversed (kept : List (List Char)) (more : List Char) :
    ∃ rest, Text.join '/' kept.reverse ++ '/' :: more = (ofReversed kept).toList ++ rest := by
  by_cases root : kept = [[]]
  · rw [root]
    exact ⟨more, rfl⟩
  · refine ⟨'/' :: more, ?_⟩
    rw [ofReversed, if_neg root, String.toList_ofList]

/-- How a path goes on from that of its parent. -/
structure GoesOn (parent path : String) (front middle : List String) : Prop where
  components : components path = front ++ middle
  front : Path.components parent = front ∨ parent = "/" ∧ front = [""]
  named : ∃ component ∈ middle, isNamed component = true
  text : ∃ rest, path.toList = parent.toList ++ rest

theorem exists_goesOn (isParent : parent? path = some parent) (nonempty : parent ≠ "") :
    ∃ front middle, GoesOn parent path front middle := by
  unfold parent? at isParent
  split at isParent
  next => cases isParent
  next => cases isParent
  next =>
    cases isParent
    exact absurd rfl nonempty
  next last earlier _ several found =>
    cases isParent
    obtain ⟨second, more, rfl⟩ := List.exists_cons_of_ne_nil several
    obtain ⟨trailing, parts⟩ := exists_dropUnnamed (divide '/' path.toList).reverse
    obtain ⟨dropped, earlierParts⟩ := exists_dropUnnamed (second :: more)
    have keptNonempty := dropUnnamed_ne_nil (List.cons_ne_nil second more)
    rw [← named, found, earlierParts, List.reverse_eq_iff] at parts
    have lastNamed := isNamed_of_dropUnnamed found
    generalize dropUnnamed (second :: more) = kept at parts keptNonempty
    -- What is dropped stands around the last component that names something.
    let middle := dropped.reverse ++ last :: trailing.reverse
    have divided : divide '/' path.toList = kept.reverse ++ middle := by
      rw [parts]
      simp [middle]
    have free : ∀ part ∈ kept, '/' ∉ part := by
      intro part membership
      apply not_mem_of_mem_divide
      rw [divided]
      exact List.mem_append_left _ (List.mem_reverse.mpr membership)
    refine ⟨kept.reverse.map String.ofList, middle.map String.ofList, ?_, ?_, ?_, ?_⟩
    · rw [components, divided, List.map_append]
    · exact components_ofReversed keptNonempty free
    · refine ⟨String.ofList last, List.mem_map_of_mem ?_, lastNamed⟩
      exact List.mem_append_right _ List.mem_cons_self
    · have droppedNonempty := List.append_ne_nil_of_right_ne_nil dropped.reverse
        (List.cons_ne_nil last trailing.reverse)
      have joined := join_append '/' (mt List.reverse_eq_nil_iff.mp keptNonempty) droppedNonempty
      rw [← divided, join_divide] at joined
      rw [joined]
      exact exists_toList_ofReversed kept _

end TagCatalog.Path
