import TagCatalog.Text.Bytes

/-!
# Places in a text

The count of bytes is additive and is that of the core library.  A boundary is a
place in front of, between or behind the characters of a text.
-/

namespace TagCatalog.Text

theorem byteLength_nil : byteLength [] = 0 := rfl

theorem byteLength_append (front behind : List Char) :
    byteLength (front ++ behind) = byteLength front + byteLength behind := by
  rw [byteLength, List.foldl_append, foldl_byteLength]
  rfl

theorem byteLength_eq_utf8ByteSize (text : List Char) :
    byteLength text = (String.ofList text).utf8ByteSize := by
  induction text with
  | nil => rfl
  | cons first rest inductionHypothesis =>
      rw [byteLength_cons, String.ofList_cons, String.utf8ByteSize_append,
        String.utf8ByteSize_singleton, inductionHypothesis]

theorem byteLength_toList (text : String) : byteLength text.toList = text.utf8ByteSize := by
  rw [byteLength_eq_utf8ByteSize, String.ofList_toList]

/-- Whether a text has a boundary of characters behind some count of bytes. -/
def IsBoundary (text : String) (position : Nat) : Prop :=
  (⟨position⟩ : String.Pos.Raw).IsValid text

theorem isBoundary_of_append {front behind : List Char} {text : String}
    (parts : text.toList = front ++ behind) : IsBoundary text (byteLength front) := by
  refine String.Pos.Raw.isValid_iff_exists_append.mpr
    ⟨String.ofList front, String.ofList behind, ?_, ?_⟩
  · rw [← String.ofList_append, ← parts, String.ofList_toList]
  · rw [byteLength_eq_utf8ByteSize]
    rfl

theorem IsBoundary.le {text : String} {position : Nat} (boundary : IsBoundary text position) :
    position ≤ text.utf8ByteSize :=
  boundary.le_rawEndPos

def HasAt (text : List Char) (offset : Nat) (character : Char) : Prop :=
  ∃ front behind, text = front ++ character :: behind ∧ byteLength front ≤ offset ∧
    offset < byteLength front + character.utf8Size

section HasAt

variable {text : List Char} {offset : Nat} {character : Char}

theorem HasAt.mem (has : HasAt text offset character) : character ∈ text := by
  obtain ⟨front, behind, rfl, -⟩ := has
  simp

theorem HasAt.lt (has : HasAt text offset character) : offset < byteLength text := by
  obtain ⟨front, behind, rfl, -, below⟩ := has
  rw [byteLength_append, byteLength_cons]
  omega

/-- Every byte of a text belongs to a character. -/
theorem exists_hasAt (below : offset < byteLength text) :
    ∃ character, HasAt text offset character := by
  induction text generalizing offset with
  | nil => exact absurd below (Nat.not_lt_zero _)
  | cons first rest inductionHypothesis =>
      by_cases here : offset < first.utf8Size
      · exact ⟨first, [], rest, rfl, Nat.zero_le _, by simpa [byteLength_nil] using here⟩
      · rw [byteLength_cons] at below
        obtain ⟨found, front, behind, rfl, above, below⟩ :=
          @inductionHypothesis (offset - first.utf8Size) (by omega)
        refine ⟨found, first :: front, behind, rfl, ?_, ?_⟩
        · rw [byteLength_cons]
          omega
        · rw [byteLength_cons]
          omega

theorem hasAt_append {front behind : List Char} : HasAt (front ++ behind) offset character ↔
    HasAt front offset character ∨
      byteLength front ≤ offset ∧ HasAt behind (offset - byteLength front) character := by
  constructor
  · rintro ⟨before, after, parts, above, below⟩
    obtain ⟨between, rfl, rest⟩ | ⟨between, rfl, rest⟩ := List.append_eq_append_iff.mp parts
    · right
      rw [byteLength_append] at above below
      exact ⟨by omega, between, after, rest, by omega, by omega⟩
    · cases between with
      | nil =>
          right
          rw [List.append_nil]
          exact ⟨above, [], after, rest.symm, Nat.zero_le _, by
            rw [byteLength_nil]
            omega⟩
      | cons first others =>
          obtain ⟨rfl, -⟩ := List.cons.inj rest
          exact .inl ⟨before, others, rfl, above, below⟩
  · rintro (⟨before, after, rfl, above, below⟩ | ⟨beyond, before, after, rfl, above, below⟩)
    · exact ⟨before, after ++ behind, by simp, above, below⟩
    · refine ⟨front ++ before, after, by simp, ?_, ?_⟩
      · rw [byteLength_append]
        omega
      · rw [byteLength_append]
        omega

end HasAt

end TagCatalog.Text
