import Intake.Calendar.LetterFormat
import Intake.Proofs.Calendar.Items
import Mathlib.Data.Bool.AllAny

/-! # Letter formats accept what is written in them

A letter format translates its characters one by one, each to an item of a layout, but for backslashes.
If its letters tell enough of a date, of a time of day or of both, a moment that is written letter by
letter is accepted, whatever stands between the letters and however often a part of it is told.
-/

namespace Intake.LetterFormat

open Layout (nameChars halfChars numberChars pairChars yearChars zeros)

/-- A character of a format: a bare one, which may be a letter, or one that a backslash precedes. -/
inductive Mark where
  | bare (c : Char)
  | escaped (c : Char)
deriving DecidableEq

/-- The characters of a format. A backslash is a bare character only if nothing follows it. -/
def marks : List Char → List Mark
  | [] => []
  | '\\' :: c :: rest => .escaped c :: marks rest
  | c :: rest => .bare c :: marks rest

/-- The item of a character with what it names a part of. -/
def Mark.entry : Mark → Option LetterScope × LayoutItem
  | .escaped c => (none, plain c)
  | .bare c =>
    match letter? c with
    | some (scope, item) => (some scope, item)
    | none => (none, plain c)

/-- The items of a format are those of its characters, unless the last backslash is left over. -/
theorem items_eq (format : List Char) (closed : .bare '\\' ∉ marks format) :
    items format = .ok ((marks format).map Mark.entry) := by
  induction format using items.induct with
  | case1 => rfl
  | case2 => exact absurd (List.mem_singleton_self _) closed
  | case3 c rest ih =>
    rw [marks, List.mem_cons, not_or] at closed
    rw [items, ih closed.2]
    rfl
  | case4 c rest last escape ih =>
    have bare : marks (c :: rest) = .bare c :: marks rest := by
      rw [marks]
      exact escape
    rw [bare, List.mem_cons, not_or] at closed
    rw [items, ih closed.2, bare]
    · rfl
    · exact last
    · exact escape

/-- How a moment is written by a letter. Every other character stands for itself. -/
def letterChars (moment : DateTime) (c : Char) : List Char :=
  match c with
  | 'Y' => yearChars .zeros moment.date.year
  | 'y' => pairChars .zeros (moment.date.year % 100).toNat
  | 'm' => pairChars .zeros moment.date.month
  | 'n' => pairChars .zeros moment.date.month
  | 'd' => pairChars .zeros moment.date.day
  | 'j' => pairChars .zeros moment.date.day
  | 'D' => nameChars Date.weekdayNames moment.date.weekday false
  | 'l' => nameChars Date.weekdayNames moment.date.weekday true
  | 'M' => nameChars Date.monthNames (moment.date.month - 1) false
  | 'F' => nameChars Date.monthNames (moment.date.month - 1) true
  | 'H' => pairChars .zeros moment.time.hour
  | 'G' => pairChars .zeros moment.time.hour
  | 'h' => pairChars .zeros moment.time.hour12
  | 'g' => pairChars .zeros moment.time.hour12
  | 'i' => pairChars .zeros moment.time.minute
  | 's' => pairChars .zeros moment.time.shownSecond
  | 'A' => halfChars false moment.time.isAfternoon
  | 'a' => halfChars false moment.time.isAfternoon
  | 'U' => numberChars .nothing 9 false moment.timestamp
  | c => [c]

/-- How a moment is written by a character of a format. -/
def Mark.chars (moment : DateTime) : Mark → List Char
  | .bare c => letterChars moment c
  | .escaped c => [c]

/-- How a moment is written in a format. -/
def written (moment : DateTime) (format : List Char) : List Char :=
  (marks format).flatMap (Mark.chars moment)

private theorem item?_plain (moment : DateTime) (c : Char) :
    Layout.item? (some moment.date) (some moment.time) (plain c) = some [c] := by
  rw [plain]
  split_ifs <;> rfl

private theorem letterChars_of_letter?_eq_none {c : Char} (none : letter? c = none)
    (moment : DateTime) : letterChars moment c = [c] := by
  unfold letterChars
  split
  case h_20 => rfl
  all_goals cases none

/-- A letter is written as the item that it stands for. -/
theorem item?_letter {c : Char} {scope : LetterScope} {item : LayoutItem}
    (read : letter? c = some (scope, item)) (moment : DateTime) :
    Layout.item? (some moment.date) (some moment.time) item = some (letterChars moment c) := by
  unfold letter? at read
  split at read
  all_goals cases read
  all_goals rfl

private theorem item?_entry (moment : DateTime) (mark : Mark) :
    Layout.item? (some moment.date) (some moment.time) mark.entry.2 = some (mark.chars moment) := by
  cases mark with
  | escaped c => exact item?_plain moment c
  | bare c =>
    rw [Mark.entry, Mark.chars]
    cases read : letter? c with
    | none =>
      rw [letterChars_of_letter?_eq_none read]
      exact item?_plain moment c
    | some letter => exact item?_letter read moment

/-- A moment can be written along the layout of every format. -/
theorem render?_entries (moment : DateTime) (format : List Char) :
    Layout.render? ((marks format).map (·.entry.2)) (some moment.date) (some moment.time) =
      some (written moment format) := by
  rw [Layout.render?, written]
  induction marks format with
  | nil => rfl
  | cons mark marks ih =>
    obtain ⟨texts, rendered, same⟩ := Option.map_eq_some_iff.mp ih
    rw [List.map_cons, List.mapM_cons, item?_entry, rendered, List.flatMap_cons, ← same]
    rfl

/-- The letters that name a part of a date and are read back, which the year of a century is not. -/
def dateLetters : List Char := ['Y', 'm', 'n', 'd', 'j', 'D', 'l', 'M', 'F']

/-- The letters that name a part of a time of day. -/
def timeLetters : List Char := ['H', 'G', 'h', 'g', 'i', 's', 'A', 'a']

/-- One of the letters is a bare character of the format. -/
def Names (format letters : List Char) : Prop := ∃ c ∈ letters, .bare c ∈ marks format

instance (format letters : List Char) : Decidable (Names format letters) :=
  decidable_of_iff (letters.any (.bare · ∈ marks format)) (by simp [Names])

/-- The letters of a format tell enough of what they name a part of: a date needs the year, the month and
the day, a time of day needs the hour, with the half of the day if it counts to twelve, and the minute. -/
structure IsComplete (format : List Char) : Prop where
  closed : .bare '\\' ∉ marks format
  noTimestamp : .bare 'U' ∉ marks format
  noYearOfCentury : .bare 'y' ∉ marks format
  named : Names format (dateLetters ++ timeLetters)
  date : Names format dateLetters →
    Names format ['Y'] ∧ Names format ['m', 'n', 'M', 'F'] ∧ Names format ['d', 'j']
  time : Names format timeLetters →
    (Names format ['H', 'G'] ∨ Names format ['h', 'g'] ∧ Names format ['A', 'a']) ∧ Names format ['i']

/-- What a letter names a part of. -/
theorem scope_cases {c : Char} {scope : LetterScope} (names : (letter? c).map (·.1) = some scope) :
    (scope = .date ∧ (c = 'y' ∨ c ∈ dateLetters)) ∨ (scope = .time ∧ c ∈ timeLetters) ∨
      (scope = .timestamp ∧ c = 'U') := by
  unfold letter? at names
  split at names
  all_goals cases names
  all_goals decide

private theorem isReadBack_letter {c : Char} {scope : LetterScope} {item : LayoutItem}
    (read : letter? c = some (scope, item)) (noTimestamp : c ≠ 'U') (noYearOfCentury : c ≠ 'y') :
    item.IsReadBack := by
  unfold letter? at read
  split at read
  case h_2 => exact absurd rfl noYearOfCentury
  case h_19 => exact absurd rfl noTimestamp
  all_goals cases read
  all_goals constructor

private theorem isReadBack_plain (c : Char) : (plain c).IsReadBack := by
  rw [plain]
  split_ifs with blank
  · exact .blank [c] (List.forall_mem_singleton.mpr blank)
  · exact .literal c blank

variable {format : List Char}

private theorem isReadBack_entry (complete : IsComplete format) :
    ∀ item ∈ (marks format).map (·.entry.2), item.IsReadBack := by
  rw [List.forall_mem_map]
  rintro (c | c) member
  · cases read : letter? c with
    | none =>
      rw [Mark.entry, read]
      exact isReadBack_plain c
    | some letter =>
      rw [Mark.entry, read]
      refine isReadBack_letter read ?_ ?_
      · rintro rfl
        exact complete.noTimestamp member
      · rintro rfl
        exact complete.noYearOfCentury member
  · exact isReadBack_plain c

private theorem mem_layout {c : Char} (member : .bare c ∈ marks format) {item : LayoutItem}
    (read : (letter? c).map (·.2) = some item) : item ∈ (marks format).map (·.entry.2) := by
  obtain ⟨letter, isLetter, rfl⟩ := Option.map_eq_some_iff.mp read
  refine List.mem_map.mpr ⟨_, member, ?_⟩
  rw [Mark.entry, isLetter]

private theorem mem_scopes_iff {scope : LetterScope} :
    scope ∈ (marks format).filterMap (·.entry.1) ↔
      ∃ c, .bare c ∈ marks format ∧ (letter? c).map (·.1) = some scope := by
  rw [List.mem_filterMap]
  constructor
  · rintro ⟨c | c, member, names⟩
    · refine ⟨c, member, ?_⟩
      rw [← names, Mark.entry]
      cases letter? c <;> rfl
    · cases names
  · rintro ⟨c, member, names⟩
    refine ⟨_, member, ?_⟩
    rw [← names, Mark.entry]
    cases letter? c <;> rfl

private theorem Names.mem_layout {letters : List Char} (names : Names format letters)
    {item : LayoutItem} (tell : letters.all fun c => (letter? c).map (·.2) = some item) :
    item ∈ (marks format).map (·.entry.2) := by
  obtain ⟨c, listed, member⟩ := names
  exact LetterFormat.mem_layout member (List.all_iff_forall_prop.mp tell c listed)

private theorem Names.mem_scopes {letters : List Char} (names : Names format letters)
    {scope : LetterScope} (tell : letters.all fun c => (letter? c).map (·.1) = some scope) :
    scope ∈ (marks format).filterMap (·.entry.1) := by
  obtain ⟨c, listed, member⟩ := names
  exact mem_scopes_iff.mpr ⟨c, member, List.all_iff_forall_prop.mp tell c listed⟩

private theorem tellsDate (complete : IsComplete format) (names : Names format dateLetters) :
    Layout.TellsDate ((marks format).map (·.entry.2)) := by
  obtain ⟨year, ⟨c, listed, member⟩, day⟩ := complete.date names
  refine ⟨year.mem_layout (by decide), ?_, day.mem_layout (by decide)⟩
  simp only [List.mem_cons, List.not_mem_nil, or_false] at listed
  rcases listed with rfl | rfl | rfl | rfl
  all_goals exact ⟨_, mem_layout member rfl, by decide⟩

private theorem tellsTime (complete : IsComplete format) (names : Names format timeLetters) :
    Layout.TellsTime ((marks format).map (·.entry.2)) := by
  obtain ⟨hour, minute⟩ := complete.time names
  exact ⟨hour.imp (·.mem_layout (by decide)) fun ⟨hour, half⟩ =>
    ⟨hour.mem_layout (by decide), half.mem_layout (by decide)⟩, minute.mem_layout (by decide)⟩

private theorem date_mem_scopes_iff (complete : IsComplete format) :
    .date ∈ (marks format).filterMap (·.entry.1) ↔ Names format dateLetters := by
  refine ⟨fun scope => ?_, fun names => names.mem_scopes (by decide)⟩
  obtain ⟨c, member, names⟩ := mem_scopes_iff.mp scope
  rcases scope_cases names with ⟨-, rfl | listed⟩ | ⟨same, -⟩ | ⟨same, -⟩
  · exact absurd member complete.noYearOfCentury
  · exact ⟨c, listed, member⟩
  · cases same
  · cases same

private theorem time_mem_scopes_iff :
    .time ∈ (marks format).filterMap (·.entry.1) ↔ Names format timeLetters := by
  refine ⟨fun scope => ?_, fun names => names.mem_scopes (by decide)⟩
  obtain ⟨c, member, names⟩ := mem_scopes_iff.mp scope
  rcases scope_cases names with ⟨same, -⟩ | ⟨-, listed⟩ | ⟨same, -⟩
  · cases same
  · exact ⟨c, listed, member⟩
  · cases same

private theorem timestamp_not_mem_scopes (complete : IsComplete format) :
    .timestamp ∉ (marks format).filterMap (·.entry.1) := by
  rw [mem_scopes_iff]
  rintro ⟨c, member, names⟩
  rcases scope_cases names with ⟨same, -⟩ | ⟨same, -⟩ | ⟨-, rfl⟩
  · cases same
  · cases same
  · exact complete.noTimestamp member

private theorem Names.append {first second : List Char} (names : Names format (first ++ second)) :
    Names format first ∨ Names format second := by
  obtain ⟨c, listed, member⟩ := names
  exact (List.mem_append.mp listed).imp (⟨c, ·, member⟩) (⟨c, ·, member⟩)

private theorem ofText_of_isComplete {text : String} (complete : IsComplete text.toList) :
    ofText text =
      .ok ⟨(marks text.toList).map (·.entry.2), (marks text.toList).filterMap (·.entry.1)⟩ := by
  have nonempty : (marks text.toList).filterMap (·.entry.1) ≠ [] := by
    rcases complete.named.append with date | time
    · exact List.ne_nil_of_mem ((date_mem_scopes_iff complete).mpr date)
    · exact List.ne_nil_of_mem (time_mem_scopes_iff.mpr time)
  simp only [ofText, items_eq _ complete.closed, bind, Except.bind, List.map_map, List.filterMap_map]
  exact if_neg (mt List.isEmpty_iff.mp nonempty)

/-- A moment that is written in a complete format, each letter by what it names and every other character
as it is, is accepted by it, if its year has no more than four digits. -/
theorem matchesText_written {text : String} (complete : IsComplete text.toList) {moment : DateTime}
    (sound : moment.Sound) (least : 0 ≤ moment.date.year) (most : moment.date.year ≤ 9999) :
    ∃ format, ofText text = .ok format ∧
      format.layout.render? (some moment.date) (some moment.time) = some (written moment text.toList) ∧
      format.matchesText (String.ofList (written moment text.toList)) := by
  have fourDigits : 0 ≤ moment.date.year ∧ moment.date.year < 10000 := ⟨least, by omega⟩
  have readBack := isReadBack_entry complete
  have render := render?_entries moment text.toList
  have timestamp := timestamp_not_mem_scopes complete
  have hasDate := date_mem_scopes_iff complete
  have hasTime := @time_mem_scopes_iff text.toList
  refine ⟨_, ofText_of_isComplete complete, render, ?_⟩
  rw [matchesText, String.toList_ofList]
  by_cases date : Names text.toList dateLetters <;> by_cases time : Names text.toList timeLetters
  · have read := DateTime.read?_render sound fourDigits readBack render (tellsDate complete date)
      (tellsTime complete time)
    simp [hasDate, hasTime, date, time, read]
  · have read := Date.read?_render sound fourDigits readBack render (tellsDate complete date)
    simp [hasDate, hasTime, timestamp, date, time, read]
  · have read := Time.read?_render sound fourDigits readBack render (tellsTime complete time)
    simp [hasDate, timestamp, date, read]
  · exact absurd complete.named.append (not_or.mpr ⟨date, time⟩)

/-- A leap day written with names that are told twice, escaped letters and a percent sign, a clock of
twelve hours beside one of twenty-four, and numbers that are not apart. -/
theorem matchesText_written_leapDay :
    let text := "l, D \\t\\h\\e j F (M)  % YmdHis\\\\ g A"
    let moment : DateTime := ⟨⟨2024, 2, 29⟩, ⟨0, 5, 9, 0⟩⟩
    IsComplete text.toList ∧ moment.Sound ∧ 0 ≤ moment.date.year ∧ moment.date.year ≤ 9999 ∧
      written moment text.toList =
        "Thursday, Thu the 29 February (Feb)  % 20240229000509\\ 12 AM".toList ∧
      ∃ format, ofText text = .ok format ∧
        format.layout.render? (some moment.date) (some moment.time) = some (written moment text.toList) ∧
        format.matchesText (String.ofList (written moment text.toList)) := by
  intro text moment
  have complete : IsComplete text.toList :=
    ⟨by decide, by decide, by decide, by decide, by decide, by decide⟩
  have sound : moment.Sound := ⟨by decide, by decide, by decide, by decide, by decide, by decide⟩
  exact ⟨complete, sound, by decide, by decide, by decide,
    matchesText_written complete sound (by decide) (by decide)⟩

end Intake.LetterFormat
