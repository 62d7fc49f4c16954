import TagCatalog.Instant.Text
import TagCatalog.Proofs.Text.Decimal

/-!
# Instants are read as they were written

Each part of the text of an instant is read back: the date with its year of four
digits or with a sign, the time with a leap second as the sixtieth, and the
fraction in groups of three digits (`ofText?_text`).
-/

namespace TagCatalog.Instant

open Text

namespace Reading

theorem trimStart_of_isDigit {first : Char} (isDigit : first.isDigit = true) (rest : List Char) :
    trimStart (first :: rest) = first :: rest := by
  have word := Word.isWordCharacter_of_isDigit isDigit
  simp only [Word.isWordCharacter, Bool.and_eq_true, Bool.not_eq_true'] at word
  simp [trimStart, word.1]

theorem trimStart_numeral {run : List Char} (isNumeral : Decimal.isNumeral run = true)
    (behind : List Char) : trimStart (run ++ behind) = run ++ behind := by
  obtain ⟨nonempty, areDigits⟩ := Decimal.isNumeral_iff.mp isNumeral
  obtain ⟨first, rest, rfl⟩ := List.exists_cons_of_ne_nil nonempty
  exact trimStart_of_isDigit (areDigits first List.mem_cons_self) _

theorem digits_run {run behind : List Char} {most : Nat} (isNumeral : Decimal.isNumeral run = true)
    (fits : run.length ≤ most) (ends : ∀ character ∈ behind.head?, character.isDigit = false) :
    digits most (run ++ behind) = some (Decimal.value run, behind) := by
  obtain ⟨nonempty, areDigits⟩ := Decimal.isNumeral_iff.mp isNumeral
  have taken : ((run ++ behind).take most).takeWhile Char.isDigit = run := by
    rw [List.take_append, List.take_of_length_le fits]
    refine takeWhile_run areDigits fun character head => ?_
    refine ends character ?_
    cases behind with
    | nil => simp at head
    | cons first rest =>
        cases room : most - run.length with
        | zero => simp [room] at head
        | succ => simpa [room] using head
  simp [digits, taken, nonempty]

theorem twoDigits_padded {number : Nat} (bound : number < 100) {behind : List Char}
    (ends : ∀ character ∈ behind.head?, character.isDigit = false) :
    twoDigits (Decimal.padded 2 number ++ behind) = some (number, behind) := by
  have isNumeral := Decimal.isNumeral_padded 2 number
  have length := @Decimal.length_padded 2 number (by decide) bound
  rw [twoDigits, trimStart_numeral isNumeral, digits_run isNumeral (Nat.le_of_eq length) ends,
    Decimal.value_padded]

theorem mark_self {character : Char} (notBlank : isBlank character = false) (rest : List Char) :
    mark character (character :: rest) = some rest := by
  simp [mark, trimStart, notBlank]

theorem year_yearText (number : Int) {behind : List Char}
    (ends : ∀ character ∈ behind.head?, character.isDigit = false) :
    year (Date.yearText number ++ behind) = some (number, behind) := by
  have isNumeral := Decimal.isNumeral_padded 4 number.natAbs
  have value := Decimal.value_padded 4 number.natAbs
  have signed : digits (Decimal.padded 4 number.natAbs ++ behind).length
      (Decimal.padded 4 number.natAbs ++ behind) = some (number.natAbs, behind) := by
    rw [digits_run isNumeral (by simp) ends, value]
  by_cases negative : number < 0
  · have text : Date.yearText number = '-' :: Decimal.padded 4 number.natAbs := if_pos negative
    have trimmed : trimStart ('-' :: (Decimal.padded 4 number.natAbs ++ behind)) =
        '-' :: (Decimal.padded 4 number.natAbs ++ behind) := rfl
    have magnitude : (-(number.natAbs : Int)) = number := by omega
    simp only [year, text, List.cons_append, trimmed, signed, Option.map_some, magnitude]
  · have magnitude : (number.natAbs : Int) = number := by omega
    by_cases long : 9999 < number
    · have text : Date.yearText number = '+' :: Decimal.padded 4 number.natAbs := by
        simp [Date.yearText, negative, long]
      have trimmed : trimStart ('+' :: (Decimal.padded 4 number.natAbs ++ behind)) =
          '+' :: (Decimal.padded 4 number.natAbs ++ behind) := rfl
      simp only [year, text, List.cons_append, trimmed, signed, Option.map_some, magnitude]
    · have text : Date.yearText number = Decimal.padded 4 number.natAbs := by
        simp [Date.yearText, negative, long]
      have fourDigits : number.natAbs < 10000 := by omega
      have length := @Decimal.length_padded 4 number.natAbs (by decide) fourDigits
      have unsigned : digits 4 (Decimal.padded 4 number.natAbs ++ behind) =
          some (number.natAbs, behind) := by
        rw [digits_run isNumeral (Nat.le_of_eq length) ends, value]
      have noSign : ∀ sign rest, sign.isDigit = false →
          Decimal.padded 4 number.natAbs ++ behind ≠ sign :: rest := by
        intro sign rest notDigit same
        obtain ⟨nonempty, areDigits⟩ := Decimal.isNumeral_iff.mp isNumeral
        obtain ⟨first, others, padded⟩ := List.exists_cons_of_ne_nil nonempty
        rw [padded] at same
        obtain ⟨rfl, -⟩ := List.cons.inj same
        rw [areDigits first (padded ▸ List.mem_cons_self)] at notDigit
        cases notDigit
      rw [text, year, trimStart_numeral isNumeral]
      split
      next same => exact absurd same (noSign '-' _ rfl)
      next same => exact absurd same (noSign '+' _ rfl)
      next => simp only [unsigned, Option.map_some, magnitude]

theorem date_text (day : Date) {behind : List Char}
    (ends : ∀ character ∈ behind.head?, character.isDigit = false) :
    date (day.text ++ behind) = some (day, behind) := by
  have month : day.month < 100 := Nat.lt_of_le_of_lt day.month_valid.2 (by decide)
  have longest : daysIn day.year day.month ≤ 31 := by
    unfold daysIn
    split
    · split <;> decide
    all_goals decide
  have monthDay : day.day < 100 :=
    Nat.lt_of_le_of_lt (Nat.le_trans day.day_valid.2 longest) (by decide)
  have hyphen : ∀ rest, mark '-' ('-' :: rest) = some rest := mark_self (by decide)
  have hyphenEnds : ∀ rest : List Char, ∀ character ∈ ('-' :: rest).head?,
      character.isDigit = false := forall_head?_cons rfl
  simp only [Date.text, List.append_assoc, List.cons_append, date,
    year_yearText day.year (hyphenEnds _), hyphen, twoDigits_padded month (hyphenEnds _),
    twoDigits_padded monthDay ends, Date.of?_self, Option.bind_eq_bind, Option.bind_some,
    Option.pure_def]

theorem fraction_padded {width number : Nat} (positive : 0 < width) (short : width ≤ 9)
    (bound : number < Nat.pow 10 width) {behind : List Char}
    (ends : ∀ character ∈ behind.head?, character.isDigit = false) :
    fraction ('.' :: (Decimal.padded width number ++ behind)) =
      some (number * Nat.pow 10 (9 - width), behind) := by
  have length := Decimal.length_padded positive bound
  have value := Decimal.value_padded width number
  obtain ⟨nonempty, areDigits⟩ := Decimal.isNumeral_iff.mp (Decimal.isNumeral_padded width number)
  have taken : (Decimal.padded width number ++ behind).takeWhile Char.isDigit =
      Decimal.padded width number := takeWhile_run areDigits ends
  have whole : (Decimal.padded width number).take 9 = Decimal.padded width number :=
    List.take_of_length_le (by omega)
  have notEmpty : (Decimal.padded width number).isEmpty = false := by
    rw [List.isEmpty_eq_false_iff]
    exact nonempty
  have left : (Decimal.padded width number ++ behind).drop width = behind :=
    List.drop_left' length
  simp only [fraction, taken, whole, Decimal.value_append_zeros, value, length, notEmpty, left,
    Bool.false_eq_true, if_false]

theorem fraction_fractionText {nanosecond : Nat} (bound : nanosecond < nanosecondsPerSecond)
    {behind : List Char} (ends : ∀ character ∈ behind.head?, character.isDigit = false ∧
      character ≠ '.') :
    fraction (fractionText nanosecond ++ behind) = some (nanosecond, behind) := by
  have noDigit : ∀ character ∈ behind.head?, character.isDigit = false :=
    fun character head => (ends character head).1
  unfold nanosecondsPerSecond at bound
  unfold fractionText
  split
  next zero =>
    subst zero
    cases behind with
    | nil => rfl
    | cons first rest =>
        have noPoint := (ends first rfl).2
        rw [List.nil_append, fraction]
        rintro rest ⟨⟩
        exact noPoint rfl
  next =>
    split
    next whole =>
      have small : nanosecond / 1000000 < 1000 := by omega
      have scaled : nanosecond / 1000000 * 1000000 = nanosecond := by omega
      rw [List.cons_append, fraction_padded (by decide) (by decide) small noDigit]
      exact congrArg (fun number => some (number, behind)) scaled
    next =>
      split
      next whole =>
        have small : nanosecond / 1000 < 1000000 := by omega
        have scaled : nanosecond / 1000 * 1000 = nanosecond := by omega
        rw [List.cons_append, fraction_padded (by decide) (by decide) small noDigit]
        exact congrArg (fun number => some (number, behind)) scaled
      next =>
        have scaled : nanosecond * 1 = nanosecond := Nat.mul_one _
        rw [List.cons_append, fraction_padded (by decide) (by decide) bound noDigit]
        exact congrArg (fun number => some (number, behind)) scaled

/-- A time is read from its text; a leap second is shown as the sixtieth. -/
theorem time_text (instant : Instant) {behind : List Char}
    (ends : ∀ character ∈ behind.head?, character.isDigit = false ∧ character ≠ '.') :
    time (instant.minuteText ++ ':' :: Decimal.padded 2 instant.shownSecond ++
        fractionText instant.shownNanosecond ++ behind) =
      some ((instant.second, instant.nanosecond), behind) := by
  have inDay := instant.second_lt
  have inSecond := instant.nanosecond_lt
  have leap := instant.leap_second
  have colon : ∀ rest, mark ':' (':' :: rest) = some rest := mark_self (by decide)
  have colonEnds : ∀ rest : List Char, ∀ character ∈ (':' :: rest).head?,
      character.isDigit = false := forall_head?_cons rfl
  have fractionEnds : ∀ character ∈ (fractionText instant.shownNanosecond ++ behind).head?,
      character.isDigit = false := by
    unfold fractionText
    repeat' split
    · exact fun character head => (ends character head).1
    all_goals exact forall_head?_cons (by decide) _
  have fraction : Reading.fraction (fractionText instant.shownNanosecond ++ behind) =
      some (instant.shownNanosecond, behind) :=
    fraction_fractionText (Nat.mod_lt _ (by decide)) ends
  have hour : instant.second / 3600 < 24 := by
    unfold secondsPerDay at inDay
    omega
  have minute : instant.second / 60 % 60 < 60 := Nat.mod_lt _ (by decide)
  have second : instant.shownSecond ≤ 60 := by
    unfold shownSecond nanosecondsPerSecond at *
    omega
  have start : ∀ rest, twoDigits (Decimal.padded 2 (instant.second / 3600) ++ ':' :: rest) =
      some (instant.second / 3600, ':' :: rest) := fun rest =>
    twoDigits_padded (Nat.lt_trans hour (by decide)) (colonEnds rest)
  have middle : ∀ rest, twoDigits (Decimal.padded 2 (instant.second / 60 % 60) ++ ':' :: rest) =
      some (instant.second / 60 % 60, ':' :: rest) := fun rest =>
    twoDigits_padded (Nat.lt_trans minute (by decide)) (colonEnds rest)
  have last := twoDigits_padded (Nat.lt_of_le_of_lt second (by decide)) fractionEnds
  have parts : 3600 * (instant.second / 3600) + 60 * (instant.second / 60 % 60) +
      instant.second % 60 = instant.second := by omega
  simp only [minuteText, List.append_assoc, List.cons_append, time, start, colon, middle, last,
    fraction, hour, minute, second, and_self, if_true, Option.bind_eq_bind, Option.bind_some,
    Option.pure_def]
  unfold shownSecond shownNanosecond nanosecondsPerSecond at *
  split
  next sixtieth =>
    have last : instant.second % 60 = 59 := by omega
    have nanosecond : 1000000000 + instant.nanosecond % 1000000000 = instant.nanosecond := by omega
    rw [last] at parts
    rw [parts, nanosecond]
  next ordinary =>
    have last : instant.second % 60 + instant.nanosecond / 1000000000 = instant.second % 60 := by
      omega
    have nanosecond : instant.nanosecond % 1000000000 = instant.nanosecond := by omega
    rw [last, parts, nanosecond]

end Reading

theorem ofText?_of_parts {text dated separated timed behind : List Char} {day : Date}
    {second nanosecond : Nat} {ahead : Int} (date : Reading.date text = some (day, dated))
    (separator : Reading.separator dated = some separated)
    (time : Reading.time separated = some ((second, nanosecond), timed))
    (offset : Reading.offset timed = some (ahead, behind))
    (blank : (trimStart behind).isEmpty = true) :
    ofText? text = ofOffset? day second nanosecond ahead := by
  simp only [ofText?, date, separator, time, offset, blank, if_true, Option.bind_eq_bind,
    Option.bind_some]

/-- An instant is read from its text. -/
theorem ofText?_text (instant : Instant) : ofText? instant.text = some instant := by
  have letterEnds : ∀ rest : List Char, ∀ character ∈ ('T' :: rest).head?,
      character.isDigit = false := forall_head?_cons rfl
  have zoneEnds : ∀ character ∈ ['Z'].head?, character.isDigit = false ∧ character ≠ '.' :=
    forall_head?_cons (by decide) []
  have time := Reading.time_text instant zoneEnds
  generalize clock : instant.minuteText ++ ':' :: Decimal.padded 2 instant.shownSecond ++
    fractionText instant.shownNanosecond ++ ['Z'] = timed at time
  have parts : instant.text = instant.date.text ++ 'T' :: timed := by
    rw [text, secondText, ← clock]
    simp only [List.append_assoc, List.cons_append]
  have date := Reading.date_text instant.date (letterEnds timed)
  rw [← parts] at date
  have read := ofText?_of_parts date rfl time rfl rfl
  exact read.trans (ofOffset?_zero instant)

/-- Whether a text has only characters of the text of an instant. -/
def IsClockText (text : List Char) : Prop :=
  ∀ character ∈ text, character.isDigit = true ∨ character ∈ ['-', '+', 'T', ':', '.', 'Z']

theorem isClockText_padded (width number : Nat) : IsClockText (Decimal.padded width number) :=
  fun _ membership => .inl (Decimal.isDigit_of_mem_padded membership)

theorem IsClockText.append {front behind : List Char} (first : IsClockText front)
    (second : IsClockText behind) : IsClockText (front ++ behind) :=
  List.forall_mem_append.mpr ⟨first, second⟩

theorem IsClockText.cons {mark : Char} {rest : List Char}
    (isMark : mark ∈ ['-', '+', 'T', ':', '.', 'Z']) (others : IsClockText rest) :
    IsClockText (mark :: rest) :=
  List.forall_mem_cons.mpr ⟨.inr isMark, others⟩

theorem isClockText_yearText (year : Int) : IsClockText (Date.yearText year) := by
  simp only [Date.yearText]
  split
  · exact .cons (by decide) (isClockText_padded _ _)
  · split
    · exact .cons (by decide) (isClockText_padded _ _)
    · exact isClockText_padded _ _

theorem isClockText_fractionText (nanosecond : Nat) : IsClockText (fractionText nanosecond) := by
  unfold fractionText
  repeat' split
  · exact nofun
  all_goals exact .cons (by decide) (isClockText_padded _ _)

theorem isClockText_text (instant : Instant) : IsClockText instant.text := by
  have date : IsClockText instant.date.text :=
    ((isClockText_yearText _).append (.cons (by decide) (isClockText_padded _ _))).append
      (.cons (by decide) (isClockText_padded _ _))
  have minute : IsClockText instant.minuteText :=
    (isClockText_padded _ _).append (.cons (by decide) (isClockText_padded _ _))
  have second : IsClockText instant.secondText :=
    (date.append (.cons (by decide) minute)).append (.cons (by decide) (isClockText_padded _ _))
  exact (second.append (isClockText_fractionText _)).append (.cons (by decide) nofun)

end TagCatalog.Instant
