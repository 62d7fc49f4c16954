import TagCatalog.File
import TagCatalog.Proofs.Filter.Unbroken

/-!
# Tags as texts

The text of a tag is its name with what stands behind it: nothing, or an equals sign and the
value.  A name without a fault is a word, and an equals sign ends a word.  So the name is the
word at the start of the text, which has no blanks in it, and no other tag has that text.
-/

namespace TagCatalog.Tag

open TagCatalog.Filter Text

variable {tag other : Tag}

def behindName : Option Int64 → List Char
  | none => []
  | some value => '=' :: Decimal.integer value

theorem toList_text (tag : Tag) :
    tag.text.toList = tag.name.toList ++ behindName tag.value := by
  cases valued : tag.value with
  | none => simp [text, behindName, valued]
  | some value => simp [text, behindName, valued]

theorem behindName_injective : Function.Injective behindName := by
  intro first second same
  cases first with
  | none =>
      cases second with
      | none => rfl
      | some => cases same
  | some first =>
      cases second with
      | none => cases same
      | some second =>
          have digits : Decimal.integer first = Decimal.integer second := (List.cons.inj same).2
          have read := Token.ofWord_integer first
          rw [digits, Token.ofWord_integer second] at read
          cases read
          rfl

theorem takeWhile_text (free : Name.fault? tag.name = none) :
    tag.text.toList.takeWhile Word.isWordCharacter = tag.name.toList := by
  rw [toList_text]
  apply takeWhile_run (Token.isWord_identifier free).isWordCharacter
  cases tag.value with
  | none => nofun
  | some value => exact forall_head?_cons (by decide) _

theorem eq_of_text_eq (free : Name.fault? tag.name = none)
    (otherFree : Name.fault? other.name = none) (same : tag.text = other.text) : tag = other := by
  have sameName : tag.name = other.name := by
    rw [← String.toList_inj, ← takeWhile_text free, ← takeWhile_text otherFree, same]
  have sameValue : tag.value = other.value := by
    have whole := congrArg String.toList same
    rw [toList_text, toList_text, sameName] at whole
    exact behindName_injective (List.append_cancel_left whole)
  rw [← Option.some.injEq, ← of?_self tag, ← of?_self other, sameName, sameValue]

theorem eq_of_map_text_eq {tags others : List Tag}
    (free : ∀ tag ∈ tags, Name.fault? tag.name = none)
    (otherFree : ∀ tag ∈ others, Name.fault? tag.name = none)
    (same : tags.map text = others.map text) : tags = others := by
  induction tags generalizing others with
  | nil => exact (List.map_eq_nil_iff.mp same.symm).symm
  | cons tag rest inductionHypothesis =>
      cases others with
      | nil => cases same
      | cons other more =>
          obtain ⟨tagFree, restFree⟩ := List.forall_mem_cons.mp free
          obtain ⟨isFree, moreFree⟩ := List.forall_mem_cons.mp otherFree
          obtain ⟨sameText, sameRest⟩ := List.cons.inj same
          rw [eq_of_text_eq tagFree isFree sameText, inductionHypothesis restFree moreFree sameRest]

theorem unbroken_text (free : Name.fault? tag.name = none) : Unbroken tag.text.toList := by
  rw [toList_text]
  refine List.forall_mem_append.mpr
    ⟨unbroken_of_isWord (Token.isWord_identifier free).isWordCharacter, ?_⟩
  cases tag.value with
  | none => exact List.forall_mem_nil _
  | some value =>
      have digits := unbroken_of_isWord fun _ => @Word.isWordCharacter_of_mem_integer value _
      exact List.forall_mem_cons.mpr ⟨by decide, digits⟩

end TagCatalog.Tag
