import Intake.Proofs.Calendar.RoundTrip

/-! # Layouts that are read back

Numbers filled up with zeros, names, halves of the day and characters that stand for themselves take
what was written of them when they are read, whatever follows. So a moment that is written along a
layout of such items is read back item by item, in any order: every item tells a part of the moment, and
what several items tell of one part agrees.
-/

namespace Intake

open Layout (nameChars halfChars pairChars zeros startsVisibly_pairChars startsVisibly_yearChars)
open Text (StartsVisibly)

namespace Fields

private theorem startsWith_append (letters rest : List Char) :
    startsWith letters (letters ++ rest) := by
  rw [startsWith, List.map_append, List.isPrefixOf_iff_prefix]
  exact List.prefix_append _ _

private theorem eq_of_startsWith {letters start rest : List Char} (same : letters.length = start.length)
    (starts : startsWith letters (start ++ rest)) :
    letters.map Char.toLower = start.map Char.toLower := by
  rw [startsWith, List.map_append, List.isPrefixOf_iff_prefix] at starts
  obtain ⟨after, whole⟩ := starts
  exact (List.append_inj whole (by rw [List.length_map, List.length_map, same])).1

/-- Each name is known by its first three letters, in whatever case. -/
structure Distinguished (names : List String) : Prop where
  three : ∀ name ∈ names, (name.toList.take 3).length = 3
  distinct : names.Pairwise fun name other =>
    (name.toList.take 3).map Char.toLower ≠ (other.toList.take 3).map Char.toLower

private theorem distinguished_monthNames : Distinguished Date.monthNames := ⟨by decide, by decide⟩

private theorem distinguished_weekdayNames : Distinguished Date.weekdayNames := ⟨by decide, by decide⟩

/-- A name is read back from its letters. -/
theorem name?_nameChars {names : List String} (distinguished : Distinguished names) (full : Bool)
    {place : Nat} (listed : place < names.length) (rest : List Char) :
    name? names full (nameChars names place full ++ rest) = some (place, rest) := by
  have named : (names[place]?.getD "") = names[place] := by
    rw [List.getElem?_eq_getElem listed, Option.getD_some]
  have three (place : Nat) (listed : place < names.length) :
      (names[place].toList.take 3).length = 3 := distinguished.three _ (List.getElem_mem listed)
  let ending := if full then names[place].toList.drop 3 else []
  have whole : nameChars names place full ++ rest = names[place].toList.take 3 ++ (ending ++ rest) := by
    cases full with
    | false => simp only [nameChars, named, ending, Bool.false_eq_true, if_false, List.nil_append]
    | true => simp only [nameChars, named, ending, if_true, ← List.append_assoc, List.take_append_drop]
  have found : names.findIdx? (fun name => startsWith (name.toList.take 3)
      (names[place].toList.take 3 ++ (ending ++ rest))) = some place := by
    refine List.findIdx?_eq_some_iff_getElem.mpr ⟨listed, startsWith_append _ _, ?_⟩
    intro other before starts
    have earlier : other < names.length := before.trans listed
    have same := eq_of_startsWith ((three other earlier).trans (three place listed).symm) starts
    exact List.pairwise_iff_getElem.mp distinguished.distinct other place earlier listed before same
  rw [whole, name?, found]
  simp only [Option.bind_eq_bind, Option.bind_some, named, List.drop_left' (three place listed)]
  cases full with
  | false => rfl
  | true => simp only [ending, Bool.true_and, if_true, startsWith_append, List.drop_left]

end Fields

private theorem startsVisibly_monthName : ∀ place < Date.monthNames.length, ∀ full,
    StartsVisibly (nameChars Date.monthNames place full) := by decide

private theorem startsVisibly_weekdayName : ∀ place < Date.weekdayNames.length, ∀ full,
    StartsVisibly (nameChars Date.weekdayNames place full) := by decide

private theorem startsVisibly_halfChars :
    ∀ afternoon, StartsVisibly (halfChars false afternoon) := by decide

private theorem Date.weekday_lt (date : Date) : date.weekday < weekdayNames.length := by
  have seven : weekdayNames.length = 7 := rfl
  rw [weekday, weekdayOfDay, seven]
  omega

private theorem Time.hour12_range (time : Time) : 1 ≤ time.hour12 ∧ time.hour12 ≤ 12 := by
  rw [hour12]
  split_ifs <;> omega

private theorem Time.hour12_mod (time : Time) : time.hour12 % 12 = time.hour % 12 := by
  rw [hour12]
  split_ifs <;> omega

private theorem Fields.readHalf?_halfChars (fields : Fields) (afternoon : Bool) (rest : List Char) :
    fields.readHalf? (halfChars false afternoon ++ rest) =
      (fields.setAfternoon? afternoon).map (·, rest) := by
  cases afternoon <;> rfl

/-- The item takes what was written of it when it is read, whatever follows. -/
inductive LayoutItem.IsReadBack : LayoutItem → Prop
  | literal (c : Char) (visible : ¬Text.isBlank c) : IsReadBack (.literal c)
  | blank (text : List Char) (blank : ∀ c ∈ text, Text.isBlank c) : IsReadBack (.blank text)
  | year : IsReadBack (zeros .year)
  | month : IsReadBack (zeros .month)
  | monthName (full : Bool) : IsReadBack (.monthName full)
  | day : IsReadBack (zeros .day)
  | weekdayName (full : Bool) : IsReadBack (.weekdayName full)
  | hour : IsReadBack (zeros .hour)
  | hour12 : IsReadBack (zeros .hour12)
  | half : IsReadBack (.half false)
  | minute : IsReadBack (zeros .minute)
  | second : IsReadBack (zeros .second)

namespace Layout

/-- A value that is known once one of the tellers is among the items. -/
def told {α : Type} (items tellers : List LayoutItem) (value : α) : Option α :=
  if items.any (· ∈ tellers) then some value else none

/-- What the items tell of a moment. -/
def known (moment : DateTime) (items : Layout) : Fields where
  year := told items [zeros .year] moment.date.year
  month := told items [zeros .month, .monthName false, .monthName true] moment.date.month
  day := told items [zeros .day] moment.date.day
  weekday := told items [.weekdayName false, .weekdayName true] moment.date.weekday
  afternoon := told items [zeros .hour, .half false] moment.time.isAfternoon
  hourOfHalf := told items [zeros .hour, zeros .hour12] (moment.time.hour % 12)
  minute := told items [zeros .minute] moment.time.minute
  second := told items [zeros .second] moment.time.shownSecond

variable {α : Type} {items tellers : List LayoutItem} {item : LayoutItem}

private theorem told_of_mem (member : item ∈ items) (tells : item ∈ tellers) (value : α) :
    told items tellers value = some value :=
  if_pos (List.any_eq_true.mpr ⟨item, member, decide_eq_true tells⟩)

private theorem told_append (value : α) :
    told (items ++ [item]) tellers value =
      if item ∈ tellers then some value else told items tellers value := by
  by_cases tells : item ∈ tellers <;> simp [told, tells]

private theorem agrees_told [DecidableEq α] (value : α) :
    Fields.agrees (told items tellers value) value := by
  rw [told]
  split_ifs
  · exact decide_eq_true rfl
  · rfl

end Layout

namespace Fields

open Layout (known told_append agrees_told)

variable {moment : DateTime}

/-- Nothing but blanks at the front is missing from the text. -/
def IsRest (text written : List Char) : Prop := text = written ∨ text = Text.trimStart written

private theorem IsRest.eq_of_startsVisibly {text chars rest : List Char}
    (remains : IsRest text (chars ++ rest))
    (visible : StartsVisibly chars) : text = chars ++ rest := by
  rw [IsRest, visible.trimStart_append, or_self] at remains
  exact remains

private theorem IsRest.trimStart {text chars rest : List Char} (remains : IsRest text (chars ++ rest))
    (blank : ∀ c ∈ chars, Text.isBlank c) : IsRest (Text.trimStart text) rest := by
  have dropped : Text.trimStart (chars ++ rest) = Text.trimStart rest :=
    List.dropWhile_append_of_pos blank
  rcases remains with rfl | rfl
  · exact .inr dropped
  · rw [dropped, Text.trimStart_eq_self (Text.head?_trimStart rest)]
    exact .inr rfl

/-- An item that takes what was written of it takes it as well from what remains of the text. -/
theorem IsRest.reads {fields fields' : Fields} {item : LayoutItem} {text chars rest : List Char}
    (remains : IsRest text (chars ++ rest)) (visible : StartsVisibly chars)
    (reads : fields.readItem? item (chars ++ rest) = some (fields', rest)) :
    ∃ text', fields.readItem? item text = some (fields', text') ∧ IsRest text' rest := by
  rw [remains.eq_of_startsVisibly visible]
  exact ⟨rest, reads, .inl rfl⟩

private theorem IsRest.reads_pair {fields fields' : Fields} {part : NumericPart} {value : Nat}
    {text rest : List Char} (remains : IsRest text (pairChars .zeros value ++ rest)) (pair : IsPair part)
    (small : value < 100) (set : fields.setNumber? part value = some fields') :
    ∃ text', fields.readItem? (zeros part) text = some (fields', text') ∧ IsRest text' rest := by
  refine remains.reads (startsVisibly_pairChars small) ?_
  rw [zeros, readItem?_pair pair small, set]
  rfl

/-- Reading an item that is read back tells what the item tells of the moment. -/
theorem readItem?_known {item : LayoutItem} (readBack : item.IsReadBack) (sound : moment.Sound)
    (fourDigits : 0 ≤ moment.date.year ∧ moment.date.year < 10000) {chars : List Char}
    (written : Layout.item? (some moment.date) (some moment.time) item = some chars) (seen : Layout)
    {text rest : List Char} (remains : IsRest text (chars ++ rest)) :
    ∃ text', (known moment seen).readItem? item text = some (known moment (seen ++ [item]), text') ∧
      IsRest text' rest := by
  obtain ⟨calendar, ⟨january, december⟩, first, last⟩ := Date.isValid_iff.mp sound.date
  have mostDays := last.trans (Date.daysInMonth_le _ _)
  have hour := sound.time.hour
  have minute := sound.time.minute
  -- What the items before have told of the same part agrees, so the part can be entered once more.
  cases readBack <;> cases written
  case literal c visible =>
    have starts : StartsVisibly [c] := visible
    refine remains.reads starts ?_
    rw [List.singleton_append, readItem?_literal]
    simp [known, told_append, zeros]
  case blank blank =>
    exact ⟨_, by simp [readItem?, known, told_append, zeros], remains.trimStart blank⟩
  case year =>
    refine remains.reads (startsVisibly_yearChars _) ?_
    rw [zeros, readItem?_year (agrees_told _) calendar (absurd fourDigits)]
    simp [known, told_append, zeros]
  case month =>
    refine remains.reads_pair (by simp [IsPair]) (by omega) ?_
    rw [setNumber?, setMonth?_of_agrees (agrees_told _) january december]
    simp [known, told_append, zeros]
  case monthName full =>
    have listed : moment.date.month - 1 < Date.monthNames.length := by
      have twelve : Date.monthNames.length = 12 := rfl
      omega
    have same : moment.date.month - 1 + 1 = moment.date.month := by omega
    refine remains.reads (startsVisibly_monthName _ listed full) ?_
    simp only [readItem?, name?_nameChars distinguished_monthNames full listed, Option.bind_eq_bind,
      Option.bind_some, same]
    rw [setMonth?_of_agrees (agrees_told _) january december]
    cases full <;> simp [known, told_append, zeros]
  case day =>
    refine remains.reads_pair (by simp [IsPair]) (by omega) ?_
    rw [setNumber?, setDay?_of_agrees (agrees_told _) first mostDays]
    simp [known, told_append, zeros]
  case weekdayName full =>
    have listed := moment.date.weekday_lt
    refine remains.reads (startsVisibly_weekdayName _ listed full) ?_
    simp only [readItem?, name?_nameChars distinguished_weekdayNames full listed, Option.bind_eq_bind,
      Option.bind_some]
    rw [setWeekday?_of_agrees (agrees_told _)]
    cases full <;> simp [known, told_append, zeros]
  case hour =>
    refine remains.reads_pair (by simp [IsPair]) (by omega) ?_
    rw [setNumber?, setHour?_of_agrees (agrees_told _) (agrees_told _) hour]
    simp [known, told_append, zeros, Time.isAfternoon]
  case hour12 =>
    obtain ⟨least, most⟩ := moment.time.hour12_range
    have same : agrees (known moment seen).hourOfHalf (moment.time.hour12 % 12) := by
      rw [Time.hour12_mod]
      exact agrees_told _
    refine remains.reads_pair (by simp [IsPair]) (by omega) ?_
    rw [setNumber?, setHour12?_of_agrees same least most, Time.hour12_mod]
    simp [known, told_append, zeros]
  case half =>
    refine remains.reads (startsVisibly_halfChars _) ?_
    rw [readItem?, readHalf?_halfChars, setAfternoon?_of_agrees (agrees_told _)]
    simp [known, told_append, zeros]
  case minute =>
    refine remains.reads_pair (by simp [IsPair]) (by omega) ?_
    rw [setNumber?, setMinute?_of_agrees (agrees_told _) minute]
    simp [known, told_append, zeros]
  case second =>
    have second := Time.shownSecond_le sound.time
    refine remains.reads_pair (by simp [IsPair]) (by omega) ?_
    rw [setNumber?, setSecond?_of_agrees (agrees_told _) second]
    simp [known, told_append, zeros]

/-- A moment is read back item by item: what is known afterwards is what all items tell. -/
theorem readItems?_known (sound : moment.Sound)
    (fourDigits : 0 ≤ moment.date.year ∧ moment.date.year < 10000) {items : Layout}
    (readBack : ∀ item ∈ items, item.IsReadBack) {written : List (List Char)}
    (render : items.mapM (Layout.item? (some moment.date) (some moment.time)) = some written)
    (seen : Layout) {text : List Char} (remains : IsRest text written.flatten) :
    (known moment seen).readItems? items text = some (known moment (seen ++ items), []) := by
  -- A blank item takes the blanks of all items after it as well, so the text may lack some of them.
  induction items generalizing seen written text with
  | nil =>
    cases render
    have used : text = [] := remains.elim id id
    rw [used, List.append_nil]
    rfl
  | cons item items ih =>
    obtain ⟨first, others⟩ := List.forall_mem_cons.mp readBack
    rw [List.mapM_cons] at render
    obtain ⟨chars, shown, render⟩ := Option.bind_eq_some_iff.mp render
    obtain ⟨written, rendered, same⟩ := Option.bind_eq_some_iff.mp render
    cases same
    obtain ⟨text', read, remains⟩ := readItem?_known first sound fourDigits shown seen remains
    have rest := ih others rendered (seen ++ [item]) remains
    rw [List.append_assoc, List.singleton_append] at rest
    rw [readItems?, read]
    exact rest

/-- What is written of a moment along a layout of items that are read back tells what they tell. -/
theorem read?_render (sound : moment.Sound)
    (fourDigits : 0 ≤ moment.date.year ∧ moment.date.year < 10000) {layout : Layout}
    (readBack : ∀ item ∈ layout, item.IsReadBack) {text : List Char}
    (render : layout.render? (some moment.date) (some moment.time) = some text) :
    read? layout text = some (known moment layout) := by
  obtain ⟨written, rendered, rfl⟩ := Option.map_eq_some_iff.mp render
  exact read?_of_readItems? (readItems?_known sound fourDigits readBack rendered [] (.inl rfl))

end Fields

namespace Layout

/-- The items tell the year, the month and the day. -/
structure TellsDate (items : Layout) : Prop where
  year : zeros .year ∈ items
  month : ∃ item ∈ items, item ∈ [zeros .month, .monthName false, .monthName true]
  day : zeros .day ∈ items

/-- The items tell the hour, or its number on a clock of twelve hours and the half of the day, and the
minute. -/
structure TellsTime (items : Layout) : Prop where
  hour : zeros .hour ∈ items ∨ zeros .hour12 ∈ items ∧ .half false ∈ items
  minute : zeros .minute ∈ items

variable {moment : DateTime} {items : Layout}

private theorem toDate_known (tells : items.TellsDate) (valid : moment.date.isValid) :
    (known moment items).toDate = .ok moment.date := by
  obtain ⟨item, month, tellsMonth⟩ := tells.month
  simp only [known, told_of_mem tells.year (List.mem_singleton_self _), told_of_mem month tellsMonth,
    told_of_mem tells.day (List.mem_singleton_self _)]
  exact Fields.toDate_of_isValid valid (agrees_told _) _ _ _ _ _ _

/-- What is told of a time of day: no fraction of the second, and no second unless an item tells it. -/
def toldTime (items : Layout) (time : Time) : Time :=
  if zeros .second ∈ items then time.whole else ⟨time.hour, time.minute, 0, 0⟩

private theorem toTime_known (tells : items.TellsTime) (sound : moment.time.Sound) :
    (known moment items).toTime = .ok (items.toldTime moment.time) := by
  have afternoon : (known moment items).afternoon = some moment.time.isAfternoon := by
    rcases tells.hour with hour | ⟨-, half⟩
    · exact told_of_mem hour (by simp) _
    · exact told_of_mem half (by simp) _
  have hourOfHalf : (known moment items).hourOfHalf = some (moment.time.hour % 12) := by
    rcases tells.hour with hour | ⟨hour, -⟩
    · exact told_of_mem hour (by simp) _
    · exact told_of_mem hour (by simp) _
  have minute : (known moment items).minute = some moment.time.minute :=
    told_of_mem tells.minute (List.mem_singleton_self _) _
  rw [toldTime]
  split_ifs with told
  · have second : (known moment items).second = some moment.time.shownSecond :=
      told_of_mem told (List.mem_singleton_self _) _
    have same : (known moment items).withClock moment.time = known moment items := by
      rw [Fields.withClock, ← Time.isAfternoon, ← afternoon, ← hourOfHalf, ← minute, ← second]
    rw [← same, Fields.toTime_withClock_of_none sound rfl]
  · have second : (known moment items).second = none := by
      simp [known, Layout.told, told]
    have nanosecond : (known moment items).nanosecond = none := rfl
    simp only [Fields.toTime, afternoon, hourOfHalf, minute, second, nanosecond,
      Fields.hour_of_half sound]
    rfl

end Layout

section Render

variable {moment : DateTime} (sound : moment.Sound)
  (fourDigits : 0 ≤ moment.date.year ∧ moment.date.year < 10000) {layout : Layout}
  (readBack : ∀ item ∈ layout, item.IsReadBack) {text : List Char}
  (render : layout.render? (some moment.date) (some moment.time) = some text)

include sound fourDigits readBack render

/-- A date is read back from what is written of it. -/
theorem Date.read?_render (tells : layout.TellsDate) : Date.read? layout text = some moment.date := by
  rw [read?, Fields.read?_render sound fourDigits readBack render, Option.bind_eq_bind, Option.bind_some,
    Layout.toDate_known tells sound.date]
  rfl

/-- A time of day is read back from what is written of it. -/
theorem Time.read?_render (tells : layout.TellsTime) :
    Time.read? layout text = some (layout.toldTime moment.time) := by
  rw [read?, Fields.read?_render sound fourDigits readBack render, Option.bind_eq_bind, Option.bind_some,
    Layout.toTime_known tells sound.time]
  rfl

/-- A moment is read back from what is written of it. -/
theorem DateTime.read?_render (tellsDate : layout.TellsDate) (tellsTime : layout.TellsTime) :
    DateTime.read? layout text = some ⟨moment.date, layout.toldTime moment.time⟩ := by
  rw [read?, Fields.read?_render sound fourDigits readBack render, Option.bind_eq_bind, Option.bind_some]
  exact Fields.toMoment?_of_ok 0 (Layout.toDate_known tellsDate sound.date)
    (Layout.toTime_known tellsTime sound.time) rfl

end Render

end Intake
