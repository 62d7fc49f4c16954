import TagCatalog.Json.Quotation
import TagCatalog.Json.Typed
import TagCatalog.Proofs.Json.Number
import TagCatalog.Proofs.Json.Quotation

/-!
# Values are read as they were written

`Takes` says that a reader takes a text for a value, whatever stands behind it.
Strings, integers, arrays and objects in lines are taken for what they were
written for, provided that their parts are.
-/

namespace TagCatalog.Json

open Text

theorem skipSpace_append {gap : List Char} {first : Char}
    (space : ∀ character ∈ gap, isSpace character = true) (solid : isSpace first = false)
    (rest : List Char) : skipSpace (gap ++ first :: rest) = first :: rest :=
  dropWhile_run space (forall_head?_cons solid rest)

/-- Whether a reader takes a text, behind any space, for a value.  What stands
behind the text must not go on with a number. -/
structure Takes {Result : Type} (reader : Reader Result) (text : List Char) (value : Result) :
    Prop where
  solid : ∃ first rest, text = first :: rest ∧ isSpace first = false ∧ first ≠ ',' ∧ first ≠ ']'
  read : ∀ gap behind, (∀ character ∈ gap, isSpace character = true) → EndsNumber behind →
    reader (gap ++ (text ++ behind)) = .ok (value, behind)

section Values

variable {Result : Type} {reader : Reader Result} {text : List Char} {value : Result}

theorem Takes.read_behind_nothing (takes : Takes reader text value) {behind : List Char}
    (ends : EndsNumber behind) : reader (text ++ behind) = .ok (value, behind) :=
  takes.read [] behind nofun ends

theorem Takes.skipSpace_eq (takes : Takes reader text value) {gap : List Char}
    (space : ∀ character ∈ gap, isSpace character = true) (behind : List Char) :
    skipSpace (gap ++ (text ++ behind)) = text ++ behind := by
  obtain ⟨first, rest, rfl, notSpace, -⟩ := takes.solid
  exact skipSpace_append space notSpace _

theorem Takes.of_string {content : List Char}
    (body : ∀ behind, Quotation.body false (content ++ '"' :: behind) = .ok (text, behind)) :
    Takes string ('"' :: content ++ ['"']) (String.ofList text) where
  solid := ⟨'"', _, rfl, by decide, by decide, by decide⟩
  read gap behind space _ := by
    have skipped : skipSpace (gap ++ ('"' :: content ++ ['"'] ++ behind)) =
        '"' :: (content ++ '"' :: behind) := by
      have quote : isSpace '"' = false := rfl
      simpa using skipSpace_append space quote (content ++ '"' :: behind)
    rw [string, skipped]
    simp [body, Except.map]

theorem takes_write (text : String) : Takes string (Quotation.write text) text := by
  have takes := Takes.of_string (Quotation.body_flatMap_writeCharacter text.toList)
  rwa [String.ofList_toList] at takes

theorem run_of_step {characters start behind : List Char} (nonempty : characters ≠ [])
    (step : Ignored.step ⟨.value, [], start⟩ = .ok ⟨.behind, [], behind⟩) :
    Ignored.run characters ⟨.value, [], start⟩ = .ok behind := by
  obtain ⟨_, others, rfl⟩ := List.exists_cons_of_ne_nil nonempty
  have incomplete : (⟨.value, [], start⟩ : Ignored.Position).isComplete = false := rfl
  rw [Ignored.run, incomplete, step]
  cases others <;> rfl

/-- A string is passed over, whatever is done with what stands behind it. -/
theorem takes_skipValue {State : Type} (state : State) (text : String) :
    Takes (fun text => (skipValue text).map fun rest => (state, rest)) (Quotation.write text)
      state where
  solid := (takes_write text).solid
  read gap behind space _ := by
    have quoted : Quotation.write text ++ behind =
        '"' :: (text.toList.flatMap Quotation.writeCharacter ++ '"' :: behind) := by
      simp [Quotation.write]
    have skipped := (takes_write text).skipSpace_eq space behind
    obtain ⟨read, body⟩ := Quotation.exists_body_flatMap_writeCharacter true text.toList behind
    have step : Ignored.step ⟨.value, [], gap ++ (Quotation.write text ++ behind)⟩ =
        .ok ⟨.behind, [], behind⟩ := by
      rw [Ignored.step, skipped, quoted]
      simp [Ignored.startValue, Ignored.skipString, body, Except.map]
    rw [skipValue, run_of_step (by simp [quoted]) step]
    rfl

theorem Takes.parsed {content : String} {ofText? : List Char → Option Result}
    (takes : Takes string text content) (found : ofText? content.toList = some value) :
    Takes (parsed ofText?) text value where
  solid := takes.solid
  read gap behind space ends := by
    rw [Json.parsed, takes.read gap behind space ends]
    simp [found]

theorem Takes.map {Other : Type} (takes : Takes reader text value) (change : Result → Other) :
    Takes (fun text => (reader text).map fun (result, rest) => (change result, rest)) text
      (change value) where
  solid := takes.solid
  read gap behind space ends := by
    rw [takes.read gap behind space ends]
    rfl

theorem Takes.optional (takes : Takes reader text value) (notNull : text.head? ≠ some 'n') :
    Takes (optional reader) text (some value) where
  solid := takes.solid
  read gap behind space ends := by
    have skipped := takes.skipSpace_eq space behind
    have read := takes.read_behind_nothing ends
    obtain ⟨first, rest, rfl, -⟩ := takes.solid
    rw [Json.optional, skipped]
    split
    next null => simp_all
    next =>
      rw [read]
      rfl

end Values

theorem isSpace_of_isDigit {character : Char} (isDigit : character.isDigit = true) :
    isSpace character = false := by
  cases space : isSpace character with
  | false => rfl
  | true =>
      simp only [isSpace, Bool.or_eq_true, decide_eq_true_eq] at space
      rcases space with ((rfl | rfl) | rfl) | rfl <;> revert isDigit <;> decide

theorem integer_eq_cons (value : Int64) : ∃ first rest,
    Decimal.integer value = first :: rest ∧ (first = '-' ∨ first.isDigit = true) := by
  rcases Decimal.integer_eq value with ⟨-, text, -⟩ | ⟨-, text, -⟩
  · exact ⟨'-', _, text, .inl rfl⟩
  · obtain ⟨nonempty, areDigits⟩ :=
      Decimal.isNumeral_iff.mp (Decimal.isNumeral_natural value.toInt.natAbs)
    obtain ⟨first, rest, digits⟩ := List.exists_cons_of_ne_nil nonempty
    exact ⟨first, rest, text.trans digits, .inr (areDigits first (digits ▸ List.mem_cons_self))⟩

theorem integer_head_ne {character : Char} (notMinus : character ≠ '-')
    (notDigit : character.isDigit = false) (value : Int64) :
    (Decimal.integer value).head? ≠ some character := by
  obtain ⟨first, rest, text, start⟩ := integer_eq_cons value
  rw [text]
  rintro ⟨⟩
  rcases start with minus | isDigit
  · exact notMinus minus
  · rw [notDigit] at isDigit
    cases isDigit

theorem takes_integer (value : Int64) : Takes integer (Decimal.integer value) value := by
  obtain ⟨first, rest, text, start⟩ := integer_eq_cons value
  have notSpace : isSpace first = false := by
    rcases start with rfl | isDigit
    · decide
    · exact isSpace_of_isDigit isDigit
  have notComma := @integer_head_ne ',' (by decide) (by decide) value
  have notClosing := @integer_head_ne ']' (by decide) (by decide) value
  refine ⟨⟨first, rest, text, notSpace, ?_, ?_⟩, fun gap behind space ends => ?_⟩
  · rintro rfl
    exact notComma (by rw [text]; rfl)
  · rintro rfl
    exact notClosing (by rw [text]; rfl)
  · have skipped : skipSpace (gap ++ (Decimal.integer value ++ behind)) =
        Decimal.integer value ++ behind := by
      rw [text]
      exact skipSpace_append space notSpace _
    have starts : startsNumber (Decimal.integer value ++ behind) = true := by
      rw [text]
      simpa [startsNumber] using start
    obtain ⟨numeral, read, found⟩ := number_integer value ends
    simp [integer, skipped, starts, read, found]

namespace Lines

/-- What stands behind an element of a bracket: the other elements and the
closing mark. -/
def following (closing : Char) (depth : Nat) : List (List Char) → List Char
  | [] => start depth ++ [closing]
  | element :: rest => ',' :: start (depth + 1) ++ element ++ following closing depth rest

theorem separated_eq (closing : Char) (depth : Nat) (first : List Char)
    (rest : List (List Char)) :
    separated (depth + 1) (first :: rest) ++ start depth ++ [closing] =
      start (depth + 1) ++ first ++ following closing depth rest := by
  induction rest generalizing first with
  | nil => simp [separated, following]
  | cons second rest inductionHypothesis =>
      have others := inductionHypothesis second
      rw [separated, following]
      simp only [List.append_assoc, List.cons_append] at others ⊢
      rw [others]
      simp

theorem bracket_cons (opening closing : Char) (depth : Nat) (first : List Char)
    (rest : List (List Char)) : bracket opening closing depth (first :: rest) =
      opening :: (start (depth + 1) ++ (first ++ following closing depth rest)) := by
  have elements := separated_eq closing depth first rest
  simp only [List.append_assoc] at elements
  simp [bracket, elements]

theorem length_le_following (closing : Char) (depth : Nat) (elements : List (List Char)) :
    elements.length < (following closing depth elements).length := by
  induction elements with
  | nil => simp [following, start]
  | cons first rest inductionHypothesis =>
      simp only [following, List.length_append, List.length_cons]
      omega

theorem isSpace_of_mem_start {depth : Nat} {character : Char}
    (membership : character ∈ start depth) : isSpace character = true := by
  rcases List.mem_cons.mp membership with rfl | space
  · decide
  · rw [(List.mem_replicate.mp space).2]
    decide

theorem endsNumber_following (closing : Char) (depth : Nat) (elements : List (List Char))
    (behind : List Char) : EndsNumber (following closing depth elements ++ behind) := by
  cases elements with
  | nil | cons => exact forall_head?_cons (by decide) _

end Lines

section Lists

variable {Result : Type} {element : Reader Result} {text : List Char} {value : Result}

theorem Takes.nextElement_eq (takes : Takes element text value) (depth : Nat)
    (behind : List Char) :
    nextElement true (Lines.start depth ++ (text ++ behind)) = .ok (true, text ++ behind) ∧
      nextElement false (',' :: (Lines.start depth ++ (text ++ behind))) =
        .ok (true, text ++ behind) := by
  have space : ∀ character ∈ Lines.start depth, isSpace character = true :=
    fun _ => Lines.isSpace_of_mem_start
  have skipped := takes.skipSpace_eq space behind
  obtain ⟨first, rest, rfl, notSpace, notComma, notClosing⟩ := takes.solid
  constructor
  · rw [nextElement, skipped]
    split <;> simp_all
  · have comma : ∀ text, skipSpace (',' :: text) = ',' :: text := fun _ => rfl
    rw [nextElement, comma]
    simp only [skipped]
    split <;> simp_all

theorem elements_cons {first : Bool} {character : Char} {characters start rest behind : List Char}
    {values : List Result} (next : nextElement first start = .ok (true, text ++ rest))
    (takes : Takes element text value) (ends : EndsNumber rest)
    (others : elements element characters false rest = .ok (values, behind)) :
    elements element (character :: characters) first start = .ok (value :: values, behind) := by
  simp only [elements, next, takes.read_behind_nothing ends, others]
  rfl

variable {write : Result → List Char} {values : List Result}

theorem elements_following {depth : Nat}
    (takes : ∀ value ∈ values, Takes element (write value) value) {characters : List Char}
    (enough : values.length < characters.length) (behind : List Char) :
    elements element characters false (Lines.following ']' depth (values.map write) ++ behind) =
      .ok (values, behind) := by
  -- The characters only count the steps of the reader, one for each element.
  induction values generalizing characters with
  | nil =>
      cases characters with
      | nil => cases enough
      | cons _ characters =>
          have skipped : skipSpace (Lines.start depth ++ ']' :: behind) = ']' :: behind :=
            skipSpace_append (fun _ => Lines.isSpace_of_mem_start) (by decide) _
          have closes : closeArray (']' :: behind) = .ok behind := rfl
          simp [elements, nextElement, Lines.following, skipped, closes, Except.map]
  | cons value values inductionHypothesis =>
      cases characters with
      | nil => cases enough
      | cons _ characters =>
          obtain ⟨first, rest⟩ := List.forall_mem_cons.mp takes
          have others := inductionHypothesis rest (Nat.lt_of_succ_lt_succ enough)
          have next := (first.nextElement_eq (depth + 1)
            (Lines.following ']' depth (values.map write) ++ behind)).2
          simp only [List.map_cons, Lines.following, List.cons_append, List.append_assoc]
          exact elements_cons next first (Lines.endsNumber_following _ _ _ _) others

theorem takes_array {depth : Nat}
    (takes : ∀ value ∈ values, Takes element (write value) value) :
    Takes (list element) (Lines.array depth (values.map write)) values := by
  obtain ⟨inner, text⟩ : ∃ inner, Lines.array depth (values.map write) = '[' :: inner := by
    cases values with
    | nil => exact ⟨_, rfl⟩
    | cons => exact ⟨_, Lines.bracket_cons '[' ']' depth _ _⟩
  refine ⟨⟨'[', inner, text, by decide, by decide, by decide⟩, fun gap behind space _ => ?_⟩
  have skipped : skipSpace (gap ++ (Lines.array depth (values.map write) ++ behind)) =
      '[' :: (inner ++ behind) := by
    rw [text]
    exact skipSpace_append space (by decide) _
  rw [list, skipped]
  cases values with
  | nil =>
      cases text
      rfl
  | cons value values =>
      obtain ⟨first, rest⟩ := List.forall_mem_cons.mp takes
      rw [List.map_cons, Lines.array, Lines.bracket_cons] at text
      obtain ⟨-, rfl⟩ := List.cons.inj text
      have next := (first.nextElement_eq (depth + 1)
        (Lines.following ']' depth (values.map write) ++ behind)).1
      have enough := Lines.length_le_following ']' depth (values.map write)
      have others : ∀ characters : List Char, values.length < characters.length →
          elements element characters false
            (Lines.following ']' depth (values.map write) ++ behind) = .ok (values, behind) :=
        fun _ enough => elements_following rest enough behind
      simp only [Lines.start, List.cons_append, List.append_assoc] at next ⊢
      refine elements_cons next first (Lines.endsNumber_following _ _ _ _) (others _ ?_)
      simp only [List.length_append, List.length_map] at enough ⊢
      omega

end Lists

section Objects

variable {State : Type} {member : String → State → Except Fault (Reader State)}
  {before middle after : State} {texts : List (List Char)}

/-- Whether members are taken one after the other, each under its key. -/
inductive TakesMembers (member : String → State → Except Fault (Reader State)) :
    State → List (List Char) → State → Prop where
  | nil (state : State) : TakesMembers member state [] state
  | cons {before middle after : State} {key : String} {reader : Reader State}
      {text : List Char} {rest : List (List Char)} :
      member key before = .ok reader → Takes reader text middle →
      TakesMembers member middle rest after →
      TakesMembers member before (Lines.member key text :: rest) after

theorem nextKey_write (key : String) (depth : Nat) (behind : List Char) :
    nextKey true (Lines.start depth ++ (Quotation.write key ++ behind)) =
        .ok (some key, behind) ∧
      nextKey false (',' :: (Lines.start depth ++ (Quotation.write key ++ behind))) =
        .ok (some key, behind) := by
  have quoted : Quotation.write key ++ behind =
      '"' :: (key.toList.flatMap Quotation.writeCharacter ++ '"' :: behind) := by
    simp [Quotation.write]
  have skipped : skipSpace (Lines.start depth ++ (Quotation.write key ++ behind)) =
      '"' :: (key.toList.flatMap Quotation.writeCharacter ++ '"' :: behind) := by
    rw [quoted]
    exact skipSpace_append (fun _ => Lines.isSpace_of_mem_start) (by decide) _
  have comma : ∀ text, skipSpace (',' :: text) = ',' :: text := fun _ => rfl
  have body := Quotation.body_flatMap_writeCharacter key.toList behind
  constructor
  · simp [nextKey, skipped, body, Except.map]
  · simp [nextKey, comma, skipped, body, Except.map]

theorem members_cons {first : Bool} {character : Char}
    {characters start rest behind : List Char} {key : String} {reader : Reader State}
    {text : List Char} (next : nextKey first start = .ok (some key, ':' :: ' ' :: (text ++ rest)))
    (means : member key before = .ok reader) (takes : Takes reader text middle)
    (ends : EndsNumber rest)
    (others : members member characters false middle rest = .ok (after, behind)) :
    members member (character :: characters) first before start = .ok (after, behind) := by
  have marked : mark ':' (':' :: ' ' :: (text ++ rest)) = .ok (' ' :: (text ++ rest)) := rfl
  have space : ∀ character ∈ [' '], isSpace character = true :=
    List.forall_mem_singleton.mpr rfl
  have read : reader (' ' :: (text ++ rest)) = .ok (middle, rest) :=
    takes.read [' '] rest space ends
  simp only [members, next, means, marked, read, others]

theorem members_following (depth : Nat) (takes : TakesMembers member before texts after)
    {characters : List Char} (enough : texts.length < characters.length) (behind : List Char) :
    members member characters false before (Lines.following '}' depth texts ++ behind) =
      .ok (after, behind) := by
  induction takes generalizing characters with
  | nil state =>
      cases characters with
      | nil => cases enough
      | cons _ characters =>
          have skipped : skipSpace (Lines.start depth ++ '}' :: behind) = '}' :: behind :=
            skipSpace_append (fun _ => Lines.isSpace_of_mem_start) (by decide) _
          simp [members, nextKey, Lines.following, skipped]
  | @cons _ _ _ key _ text rest means takes _ inductionHypothesis =>
      cases characters with
      | nil => cases enough
      | cons _ characters =>
          have others := inductionHypothesis (Nat.lt_of_succ_lt_succ enough)
          have next := (nextKey_write key (depth + 1)
            (':' :: ' ' :: (text ++ (Lines.following '}' depth rest ++ behind)))).2
          simp only [Lines.member, Lines.following, List.cons_append, List.append_assoc]
          exact members_cons next means takes (Lines.endsNumber_following _ _ _ _) others

theorem members_object (depth : Nat) (takes : TakesMembers member before texts after) :
    ∃ inner, Lines.object depth texts = '{' :: inner ∧ ∀ behind,
      members member (inner ++ behind) true before (inner ++ behind) = .ok (after, behind) := by
  cases takes with
  | nil => exact ⟨['}'], rfl, fun behind => rfl⟩
  | @cons _ _ _ key _ text rest means takes others =>
      refine ⟨_, Lines.bracket_cons '{' '}' depth _ _, fun behind => ?_⟩
      have next := (nextKey_write key (depth + 1)
        (':' :: ' ' :: (text ++ (Lines.following '}' depth rest ++ behind)))).1
      have enough := Lines.length_le_following '}' depth rest
      simp only [Lines.start, Lines.member, List.cons_append, List.append_assoc] at next ⊢
      refine members_cons next means takes (Lines.endsNumber_following _ _ _ _)
        (members_following depth others ?_ behind)
      simp only [List.length_append, List.length_cons]
      omega

/-- A record is taken for what its members complete. -/
theorem takes_record {Draft Result : Type} {fields : Fields Draft Result} {draft : Draft}
    {result : Result} (depth : Nat) (takes : TakesMembers fields.member fields.empty texts draft)
    (complete : fields.complete draft = some result) :
    Takes fields.read (Lines.object depth texts) result := by
  obtain ⟨inner, text, read⟩ := members_object depth takes
  refine ⟨⟨'{', inner, text, by decide, by decide, by decide⟩, fun gap behind space _ => ?_⟩
  have skipped : skipSpace (gap ++ (Lines.object depth texts ++ behind)) =
      '{' :: (inner ++ behind) := by
    rw [text]
    exact skipSpace_append space (by decide) _
  simp [Fields.read, skipped, read behind, Fields.finish, complete, bind, Except.bind, pure,
    Except.pure]

/-- How a dictionary reads the value of a member. -/
def entryMember {Key Value : Type} (ofKey? : List Char → Option Key) (value : Reader Value)
    (key : String) (before : List (Key × Value)) :
    Except Fault (Reader (List (Key × Value))) :=
  match ofKey? key.toList with
  | some key => .ok fun text => (value text).map fun (result, rest) =>
      ((key, result) :: before, rest)
  | none => .error .mismatched

theorem takes_dictionary {Key Value : Type} {ofKey? : List Char → Option Key}
    {value : Reader Value} {entries : List (Key × Value)} {writeKey : Key → String}
    {writeValue : Value → List Char} (depth : Nat)
    (keys : ∀ key, ofKey? (writeKey key).toList = some key)
    (takes : ∀ entry ∈ entries, Takes value (writeValue entry.2) entry.2) :
    Takes (dictionary ofKey? value)
      (Lines.object depth (entries.map fun entry =>
        Lines.member (writeKey entry.1) (writeValue entry.2))) entries := by
  have all : ∀ before, TakesMembers (entryMember ofKey? value) before
      (entries.map fun entry => Lines.member (writeKey entry.1) (writeValue entry.2))
      (entries.reverse ++ before) := by
    induction entries with
    | nil => exact fun before => .nil before
    | cons entry entries inductionHypothesis =>
        obtain ⟨first, rest⟩ := List.forall_mem_cons.mp takes
        intro before
        rw [List.reverse_cons, List.append_assoc]
        refine .cons ?_ (first.map fun result => (entry.1, result) :: before)
          (inductionHypothesis rest _)
        rw [entryMember, keys]
  obtain ⟨inner, text, read⟩ := members_object depth (all [])
  refine ⟨⟨'{', inner, text, by decide, by decide, by decide⟩, fun gap behind space _ => ?_⟩
  have skipped : skipSpace (gap ++ (Lines.object depth (entries.map fun entry =>
      Lines.member (writeKey entry.1) (writeValue entry.2)) ++ behind)) =
      '{' :: (inner ++ behind) := by
    rw [text]
    exact skipSpace_append space (by decide) _
  have entriesRead :
      (members (entryMember ofKey? value) (inner ++ behind) true [] (inner ++ behind)).map
        (fun read => (read.1.reverse, read.2)) = .ok (entries, behind) := by
    rw [read, Except.map, List.append_nil, List.reverse_reverse]
  rw [dictionary, skipped]
  exact entriesRead

end Objects

end TagCatalog.Json
