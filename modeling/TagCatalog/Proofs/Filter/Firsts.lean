import TagCatalog.Filter

/-!
# First tags

A filter looks at the first tag of each name only, and a tag that comes to a list as the
first of its name takes nothing away from what is accepted.
-/

namespace TagCatalog.Filter

variable {name : String} {tag : Tag} {tags others : List Tag} {filter : Filter}

/-- Whether the first tag of each name in a list is the first of that name in another. -/
def FirstsIn (tags others : List Tag) : Prop :=
  ∀ name, (∃ tag ∈ tags, tag.name = name) → firstNamed name tags = firstNamed name others

theorem FirstsIn.firstNamed (firstsIn : FirstsIn tags others)
    (found : Filter.firstNamed name tags = some tag) :
    Filter.firstNamed name others = some tag := by
  have named : tag.name = name := by simpa using List.find?_some found
  rw [← firstsIn name ⟨tag, List.mem_of_find?_eq_some found, named⟩, found]

mutual

theorem FirstsIn.accepts (firstsIn : FirstsIn tags others) :
    ∀ filter : Filter, filter.accepts tags = true → filter.accepts others = true
  | present _, accepted => by
      obtain ⟨tag, found⟩ := Option.isSome_iff_exists.mp accepted
      exact Option.isSome_iff_exists.mpr ⟨tag, firstsIn.firstNamed found⟩
  | compare _ _ _, accepted => by
      obtain ⟨tag, found, holds⟩ := (Option.any_eq_true _ _).mp accepted
      exact (Option.any_eq_true _ _).mpr ⟨tag, firstsIn.firstNamed found, holds⟩
  | all conditions, accepted => firstsIn.allAccept conditions accepted
  | any alternatives, accepted => firstsIn.anyAccepts alternatives accepted

theorem FirstsIn.allAccept (firstsIn : FirstsIn tags others) :
    ∀ filters : List Filter, Filter.allAccept filters tags = true →
      Filter.allAccept filters others = true
  | [], _ => rfl
  | filter :: rest, accepted => by
      obtain ⟨first, later⟩ := Bool.and_eq_true_iff.mp accepted
      exact Bool.and_eq_true_iff.mpr ⟨firstsIn.accepts filter first, firstsIn.allAccept rest later⟩

theorem FirstsIn.anyAccepts (firstsIn : FirstsIn tags others) :
    ∀ filters : List Filter, Filter.anyAccepts filters tags = true →
      Filter.anyAccepts filters others = true
  | filter :: rest, accepted =>
      Bool.or_eq_true_iff.mpr ((Bool.or_eq_true_iff.mp accepted).imp
        (firstsIn.accepts filter) (firstsIn.anyAccepts rest))

end

theorem firstsIn_of_eq (same : ∀ name, firstNamed name tags = firstNamed name others) :
    FirstsIn tags others :=
  fun name _ => same name

/-- Only the first tag of each name counts. -/
theorem accepts_congr (same : ∀ name, firstNamed name tags = firstNamed name others)
    (filter : Filter) : filter.accepts tags = filter.accepts others :=
  Bool.eq_iff_iff.mpr ⟨(firstsIn_of_eq same).accepts filter,
    (firstsIn_of_eq fun name => (same name).symm).accepts filter⟩

section Firsts

theorem firstNamed_cons (tag : Tag) (tags : List Tag) (name : String) :
    firstNamed name (tag :: tags) = if tag.name = name then some tag else firstNamed name tags := by
  by_cases named : tag.name = name <;> simp [firstNamed, named]

theorem firstNamed_append_cons {front back : List Tag} {earlier tag : Tag}
    (isEarlier : earlier ∈ front) (sameName : earlier.name = tag.name) (name : String) :
    firstNamed name (front ++ tag :: back) = firstNamed name (front ++ back) := by
  unfold firstNamed
  rw [List.find?_append, List.find?_append]
  by_cases named : tag.name = name
  · have found : (front.find? fun tag => tag.name = name).isSome = true :=
      List.find?_isSome.mpr ⟨earlier, isEarlier, by simpa [sameName] using named⟩
    obtain ⟨first, isFirst⟩ := Option.isSome_iff_exists.mp found
    rw [isFirst, Option.some_or, Option.some_or]
  · rw [List.find?_cons_of_neg (by simpa using named)]

theorem firstNamed_filter_of_ne {other : String} (differs : name ≠ other) (tags : List Tag) :
    firstNamed name (tags.filter fun tag => (tag.name == other) = false) =
      firstNamed name tags := by
  unfold firstNamed
  rw [List.find?_filter]
  congr 1
  funext tag
  by_cases named : tag.name = name <;> simp [named, differs]

theorem firstNamed_eraseDupsBy (tags : List Tag) (name : String) :
    firstNamed name (tags.eraseDupsBy fun tag earlier => tag.name == earlier.name) =
      firstNamed name tags := by
  match tags with
  | [] => rfl
  | tag :: rest =>
      rw [List.eraseDupsBy_cons, firstNamed_cons, firstNamed_cons]
      split
      next => rfl
      next differs =>
        rw [firstNamed_eraseDupsBy, firstNamed_filter_of_ne (Ne.symm differs)]
termination_by tags.length
decreasing_by
  exact Nat.lt_succ_of_le (List.length_filter_le _ rest)

theorem firstNamed_eq_some_iff
    (distinct : tags.Pairwise fun first second => first.name ≠ second.name) :
    firstNamed name tags = some tag ↔ tag ∈ tags ∧ tag.name = name := by
  constructor
  · intro found
    exact ⟨List.mem_of_find?_eq_some found, by simpa using List.find?_some found⟩
  · rintro ⟨membership, rfl⟩
    unfold firstNamed
    induction tags with
    | nil => cases membership
    | cons first rest inductionHypothesis =>
        obtain ⟨apart, restDistinct⟩ := List.pairwise_cons.mp distinct
        rcases List.mem_cons.mp membership with rfl | later
        · exact List.find?_cons_of_pos (by simp)
        · rw [List.find?_cons_of_neg (by simpa using apart tag later)]
          exact inductionHypothesis restDistinct later

theorem firstNamed_of_perm (perm : others.Perm tags)
    (distinct : tags.Pairwise fun first second => first.name ≠ second.name) (name : String) :
    firstNamed name others = firstNamed name tags := by
  have othersDistinct := perm.symm.pairwise distinct fun differs => differs.symm
  refine Option.ext fun tag => ?_
  rw [firstNamed_eq_some_iff distinct, firstNamed_eq_some_iff othersDistinct, perm.mem_iff]

end Firsts

end TagCatalog.Filter
