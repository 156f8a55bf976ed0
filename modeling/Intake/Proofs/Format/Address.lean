import Intake.Format.Address
import Intake.Proofs.Format.Uuid
import Intake.Proofs.Text.Numeric
import Mathlib.Algebra.Order.Ring.Nat
import Mathlib.Data.Bool.AllAny
import Mathlib.Data.List.TakeWhile

/-! # Addresses and their text

The canonical text of an address is read as an address. That of version 4 is read octet by octet;
that of version 6 group by group, up to the double colon if there is one, and from there to the end.
-/

namespace Intake.Address

open Document (hexDigit?)

section Digits

variable {digitOf : Char → Option Nat} {base : Nat}

private theorem exists_of_mem_toDigits (large : 1 < base) {n : Nat} :
    ∀ c ∈ Nat.toDigits base n, ∃ digit < base, c = digit.digitChar := by
  induction n using Nat.strongRecOn with
  | ind n ih =>
    rw [Nat.toDigits_eq_if large]
    split_ifs with small
    · exact List.forall_mem_singleton.mpr ⟨n, small, rfl⟩
    · rw [List.forall_mem_append, List.forall_mem_singleton]
      exact ⟨ih _ (Nat.div_lt_self (by omega) large), _, Nat.mod_lt _ (by omega), rfl⟩

private theorem foldl_toDigits (large : 1 < base)
    (reads : ∀ digit < base, digitOf digit.digitChar = some digit) (n : Nat) :
    (Nat.toDigits base n).foldl (fun value c => value * base + (digitOf c).getD 0) 0 = n := by
  induction n using Nat.strongRecOn with
  | ind n ih =>
    rw [Nat.toDigits_eq_if large]
    split_ifs with small
    · rw [List.foldl_cons, List.foldl_nil, reads n small, Option.getD_some, Nat.zero_mul, Nat.zero_add]
    · have last := reads _ (Nat.mod_lt n (Nat.lt_trans Nat.one_pos large))
      rw [List.foldl_append, ih _ (Nat.div_lt_self (by omega) large), List.foldl_cons, List.foldl_nil,
        last, Option.getD_some, Nat.div_add_mod']

/-- Only zero is written with a zero in front. -/
theorem eq_zero_of_head?_toDigits (large : 1 < base) {n : Nat}
    (first : (Nat.toDigits base n).head? = some '0') : n = 0 := by
  induction n using Nat.strongRecOn with
  | ind n ih =>
    rw [Nat.toDigits_eq_if large] at first
    split_ifs at first with small
    · exact Nat.digitChar_eq_zero.mp (Option.some.inj first)
    · rw [List.head?_append_of_ne_nil _ Nat.toDigits_ne_nil] at first
      have none := ih _ (Nat.div_lt_self (by omega) large) first
      exact absurd none (Nat.div_pos (by omega) (by omega)).ne'

/-- A number is read back from its digits. -/
theorem number?_toDigits {width n : Nat} {leadingZeros : Bool} {rest : List Char} (large : 1 < base)
    (reads : ∀ digit < base, digitOf digit.digitChar = some digit) (wide : 0 < width)
    (fits : n < base ^ width) (stops : ∀ c ∈ rest.head?, digitOf c = none) :
    number? digitOf base width leadingZeros (Nat.toDigits base n ++ rest) = some (n, rest) := by
  have all : ∀ c ∈ Nat.toDigits base n, (digitOf c).isSome := by
    intro c member
    obtain ⟨digit, small, rfl⟩ := exists_of_mem_toDigits large c member
    rw [reads digit small]
    rfl
  have taken : (Nat.toDigits base n ++ rest).takeWhile (fun c => (digitOf c).isSome) =
      Nat.toDigits base n := by
    rw [List.takeWhile_append_of_pos all]
    cases rest with
    | nil => simp
    | cons c rest => simp [stops c rfl]
  have length : ¬width < (Nat.toDigits base n).length :=
    Nat.not_lt.mpr ((Nat.length_toDigits_le_iff large wide).mpr fits)
  have some : (Nat.toDigits base n).isEmpty = false := by simp [Nat.toDigits_ne_nil]
  have zeros : (!leadingZeros && (Nat.toDigits base n).head? == Option.some '0' &&
      decide (1 < (Nat.toDigits base n).length)) = false := by
    by_cases first : (Nat.toDigits base n).head? = Option.some '0'
    · rw [eq_zero_of_head?_toDigits large first, Nat.toDigits_zero]
      simp
    · simp [first]
  rw [number?, taken, foldl_toDigits large reads, List.drop_left]
  simp [length, some, zeros]

/-- A number that was read has no more digits than it may. -/
theorem lt_of_number? {width n : Nat} {leadingZeros : Bool} {text rest : List Char}
    (positive : 0 < base) (below : ∀ c, ∀ digit ∈ digitOf c, digit < base)
    (read : number? digitOf base width leadingZeros text = some (n, rest)) : n < base ^ width := by
  have digit (c : Char) : (digitOf c).getD 0 < base := by
    cases stands : digitOf c with
    | none => exact positive
    | some digit => exact below c digit stands
  rw [number?] at read
  split_ifs at read with wide zeros
  cases read
  rw [Bool.or_eq_true, not_or, decide_eq_true_iff, Nat.not_lt] at wide
  have value := foldl_digits_lt (fun c (_ : c ∈ text.takeWhile fun c => (digitOf c).isSome) => digit c) 0
  rw [Nat.zero_add, Nat.one_mul] at value
  exact value.trans_le (Nat.pow_le_pow_right positive wide.2)

end Digits

private theorem decimalDigit?_digitChar :
    ∀ digit < 10, decimalDigit? digit.digitChar = some digit := by decide

private theorem decimalDigit?_eq_none {c : Char} (other : ¬c.isDigit) : decimalDigit? c = none :=
  if_neg other

/-- An octet is read back from its digits. -/
theorem octet?_toDigits {n : Nat} {rest : List Char} (small : n < 256)
    (stops : ∀ c ∈ rest.head?, ¬c.isDigit) :
    octet? (Nat.toDigits 10 n ++ rest) = some (n, rest) := by
  have read := @number?_toDigits decimalDigit? 10 3 n false rest (by decide) decimalDigit?_digitChar
    (by decide) (by omega) fun c first => decimalDigit?_eq_none (stops c first)
  rw [octet?, read]
  simp [small]

theorem octetChars_eq (a b c d : Nat) :
    octetChars [a, b, c, d] = Nat.toDigits 10 a ++ '.' :: (Nat.toDigits 10 b ++ '.' ::
      (Nat.toDigits 10 c ++ '.' :: Nat.toDigits 10 d)) := rfl

/-- Four octets are read back from their text. -/
theorem octets?_octetChars {a b c d : Nat} {rest : List Char} (first : a < 256) (second : b < 256)
    (third : c < 256) (fourth : d < 256) (stops : ∀ c ∈ rest.head?, ¬c.isDigit) :
    octets? (octetChars [a, b, c, d] ++ rest) = some ([a, b, c, d], rest) := by
  have point (text : List Char) : ∀ c ∈ ('.' :: text).head?, ¬c.isDigit := by
    rintro c ⟨⟩
    decide
  simp only [octetChars_eq, List.append_assoc, List.cons_append, octets?,
    octet?_toDigits first (point _), octet?_toDigits second (point _), octet?_toDigits third (point _),
    octet?_toDigits fourth stops, given?, if_true, Option.bind_eq_bind, Option.bind_some]

private theorem given?_eq_some_iff {c : Char} {text rest : List Char} :
    given? c text = some rest ↔ text = c :: rest := by
  cases text with
  | nil => simp [given?]
  | cons first others => simp [given?]

private theorem lt_of_octet? {text rest : List Char} {n : Nat} (read : octet? text = some (n, rest)) :
    n < 256 := by
  rw [octet?, Option.filter_eq_some_iff] at read
  simpa using read.2

private theorem suffix_of_number? {digitOf : Char → Option Nat} {base width n : Nat}
    {leadingZeros : Bool}
    {text rest : List Char} (read : number? digitOf base width leadingZeros text = some (n, rest)) :
    rest <:+ text := by
  rw [number?] at read
  split_ifs at read
  cases read
  exact List.drop_suffix _ _

/-- Octets are four, and there are points between them. -/
theorem octets?_eq_some {text rest : List Char} {octets : List Nat}
    (read : octets? text = some (octets, rest)) :
    octets.length = 4 ∧ (∀ octet ∈ octets, octet < 256) ∧ '.' ∈ text := by
  simp only [octets?, Option.bind_eq_bind, Option.bind_eq_some_iff, Prod.exists,
    given?_eq_some_iff] at read
  obtain ⟨a, text₁, first, b, text₂, ⟨text₁', rfl, second⟩, c, text₃, ⟨_, -, third⟩, d, text₄,
    ⟨_, -, fourth⟩, same⟩ := read
  cases same
  have number : number? decimalDigit? 10 3 false text = some (a, '.' :: text₁') := by
    rw [octet?, Option.filter_eq_some_iff] at first
    exact first.1
  refine ⟨rfl, ?_, (suffix_of_number? number).subset (List.mem_cons_self ..)⟩
  simp only [List.forall_mem_cons]
  exact ⟨lt_of_octet? first, lt_of_octet? second, lt_of_octet? third, lt_of_octet? fourth,
    List.forall_mem_nil _⟩

private theorem hexDigit?_digitChar : ∀ digit < 16, hexDigit? digit.digitChar = some digit :=
  fun _ small => Document.hexDigit?_digitChar small

private theorem group?_toDigits {n : Nat} {rest : List Char} (small : n < 65536)
    (stops : ∀ c ∈ rest.head?, hexDigit? c = none) :
    number? hexDigit? 16 4 true (Nat.toDigits 16 n ++ rest) = some (n, rest) :=
  number?_toDigits (by decide) hexDigit?_digitChar (by decide) small stops

/-- Groups with a colon in front of each. -/
def colonGroups (groups : List Nat) : List Char :=
  groups.flatMap fun group => ':' :: Nat.toDigits 16 group

private theorem groupChars_cons (group : Nat) (groups : List Nat) :
    groupChars (group :: groups) = Nat.toDigits 16 group ++ colonGroups groups := by
  rw [groupChars]
  induction groups generalizing group with
  | nil => simp [separated, colonGroups]
  | cons next groups ih =>
    rw [List.map_cons, List.map_cons, separated, ← List.map_cons, ih]
    · simp [colonGroups]
    · exact nofun

/-- Where no group follows: at the end and at a double colon. -/
def Stops (rest : List Char) : Prop := rest = [] ∨ ∃ more, rest = ':' :: ':' :: more

private theorem octets?_eq_none {text : List Char} (noPoint : '.' ∉ text) : octets? text = none := by
  cases read : octets? text with
  | none => rfl
  | some result => exact absurd (octets?_eq_some read).2.2 noPoint

private theorem octets?_colon (text : List Char) : octets? (':' :: text) = none := rfl

private theorem group?_colon (text : List Char) :
    number? hexDigit? 16 4 true (':' :: text) = none := rfl

private theorem groups_of_stops {rest : List Char} (stops : Stops rest) (room : Nat) :
    groups rest false room = ([], false, rest) := by
  cases room with
  | zero => rfl
  | succ room =>
    rcases stops with rfl | ⟨more, rfl⟩
    · simp [groups, given?]
    · simp [groups, given?, octets?_colon, group?_colon]

private theorem head?_colonGroups_append {groups : List Nat} {rest : List Char} (stops : Stops rest) :
    ∀ c ∈ (colonGroups groups ++ rest).head?, hexDigit? c = none := by
  have colon : hexDigit? ':' = none := by decide
  cases groups with
  | nil =>
    rcases stops with rfl | ⟨more, rfl⟩
    · exact fun c first => nomatch first
    · rintro c ⟨⟩
      exact colon
  | cons group groups =>
    rintro c ⟨⟩
    exact colon

/-- Groups are read back from their text up to where no group follows. -/
theorem groups_colonGroups {written : List Nat} {rest : List Char} {room : Nat}
    (fits : written.length ≤ room) (small : ∀ group ∈ written, group < 65536)
    (noPoint : '.' ∉ colonGroups written ++ rest) (stops : Stops rest) :
    groups (colonGroups written ++ rest) false room = (written, false, rest) := by
  induction written generalizing room with
  | nil => exact groups_of_stops stops room
  | cons group written ih =>
    cases room with
    | zero => cases fits
    | succ room =>
      obtain ⟨first, others⟩ := List.forall_mem_cons.mp small
      have text : colonGroups (group :: written) ++ rest =
          ':' :: (Nat.toDigits 16 group ++ (colonGroups written ++ rest)) := by
        simp [colonGroups]
      rw [text] at noPoint ⊢
      have noOctets := octets?_eq_none (List.not_mem_of_not_mem_cons noPoint)
      have later : '.' ∉ colonGroups written ++ rest := by
        intro member
        exact noPoint (List.mem_cons_of_mem _ (List.mem_append_right _ member))
      have read := @group?_toDigits group (colonGroups written ++ rest) first
        (head?_colonGroups_append stops)
      have more := ih (Nat.le_of_succ_le_succ fits) others later
      simp [groups, given?, noOctets, read, more]

private theorem groups_groupChars {written : List Nat} {rest : List Char} {room : Nat}
    (fits : written.length ≤ room) (small : ∀ group ∈ written, group < 65536)
    (noPoint : '.' ∉ groupChars written ++ rest) (stops : Stops rest) :
    groups (groupChars written ++ rest) true room = (written, false, rest) := by
  cases room with
  | zero =>
    rw [List.eq_nil_of_length_eq_zero (Nat.le_zero.mp fits)]
    rfl
  | succ room =>
    have noOctets := octets?_eq_none noPoint
    cases written with
    | nil =>
      have none : number? hexDigit? 16 4 true rest = none := by
        rcases stops with rfl | ⟨more, rfl⟩ <;> rfl
      simp [groupChars, separated] at noOctets
      simp [groups, groupChars, separated, noOctets, none]
    | cons group written =>
      obtain ⟨first, others⟩ := List.forall_mem_cons.mp small
      rw [groupChars_cons, List.append_assoc] at noPoint noOctets ⊢
      have later : '.' ∉ colonGroups written ++ rest :=
        fun member => noPoint (List.mem_append_right _ member)
      have read := @group?_toDigits group (colonGroups written ++ rest) first
        (head?_colonGroups_append stops)
      have more := groups_colonGroups (Nat.le_of_succ_le_succ fits) others later stops
      simp [groups, noOctets, read, more]

private theorem isGroupChar_of_mem {written : List Nat} :
    ∀ c ∈ groupChars written, (hexDigit? c).isSome ∨ c = ':' := by
  have digits (group : Nat) : ∀ c ∈ Nat.toDigits 16 group, (hexDigit? c).isSome ∨ c = ':' := by
    intro c member
    obtain ⟨digit, small, rfl⟩ := exists_of_mem_toDigits (by decide) c member
    rw [hexDigit?_digitChar digit small]
    exact .inl rfl
  cases written with
  | nil => exact List.forall_mem_nil _
  | cons group written =>
    rw [groupChars_cons, List.forall_mem_append, colonGroups, List.forall_mem_flatMap]
    refine ⟨digits group, fun group _ => List.forall_mem_cons.mpr ⟨.inr rfl, digits group⟩⟩

private theorem point_not_mem_groupChars (written : List Nat) : '.' ∉ groupChars written := by
  intro member
  rcases isGroupChar_of_mem '.' member with digit | colon
  · revert digit
    decide
  · revert colon
    decide

/-- Eight groups are read back from their text. -/
theorem allGroups?_groupChars {written : List Nat} (all : written.length = 8)
    (small : ∀ group ∈ written, group < 65536) :
    allGroups? (groupChars written) = some (written, []) := by
  have read := @groups_groupChars written [] 8 all.le small
    (by simpa using point_not_mem_groupChars written) (.inl rfl)
  rw [List.append_nil] at read
  simp [allGroups?, read, all]

/-- Fewer groups are read back from around a double colon, with zeros where it stands. -/
theorem allGroups?_gap {head tail : List Nat} (gap : head.length + tail.length ≤ 7)
    (small : ∀ group ∈ head, group < 65536) (small' : ∀ group ∈ tail, group < 65536) :
    allGroups? (groupChars head ++ "::".toList ++ groupChars tail) =
      some (head ++ List.replicate (8 - head.length - tail.length) 0 ++ tail, []) := by
  have colons : "::".toList = [':', ':'] := rfl
  have noPoint : '.' ∉ groupChars head ++ ':' :: ':' :: groupChars tail := by
    simp [point_not_mem_groupChars]
  have first := @groups_groupChars head (':' :: ':' :: groupChars tail) 8 (by omega) small noPoint
    (.inr ⟨_, rfl⟩)
  have second := @groups_groupChars tail [] (7 - head.length) (by omega) small'
    (by simpa using point_not_mem_groupChars tail) (.inl rfl)
  have fewer : head.length ≠ 8 := by omega
  rw [List.append_nil] at second
  rw [colons, List.append_assoc, List.cons_append, List.cons_append, List.nil_append]
  simp [allGroups?, first, second, fewer, given?]

private theorem take_leadingZeroGroups (groups : List Nat) :
    groups.take (leadingZeroGroups groups) = List.replicate (leadingZeroGroups groups) 0 := by
  rw [leadingZeroGroups, List.eq_replicate_iff]
  have start : groups.take (groups.takeWhile (· == 0)).length = groups.takeWhile (· == 0) :=
    (List.prefix_iff_eq_take.mp (List.takeWhile_prefix _)).symm
  rw [start]
  refine ⟨rfl, fun group member => ?_⟩
  simpa using List.mem_takeWhile_imp member

/-- The longest run is one that starts somewhere, if there is any. -/
theorem longestZeroRun_eq (groups : List Nat) :
    longestZeroRun groups = (0, 0) ∨
      ∃ start, longestZeroRun groups = (start, leadingZeroGroups (groups.drop start)) := by
  have found (starts : List Nat) (best : Nat × Nat)
      (known : best = (0, 0) ∨ ∃ start, best = (start, leadingZeroGroups (groups.drop start))) :
      let result := starts.foldl (fun best start =>
        let length := leadingZeroGroups (groups.drop start)
        if best.2 < length then (start, length) else best) best
      result = (0, 0) ∨ ∃ start, result = (start, leadingZeroGroups (groups.drop start)) := by
    induction starts generalizing best with
    | nil => exact known
    | cons start starts ih =>
      rw [List.foldl_cons]
      apply ih
      dsimp only
      split_ifs
      · exact .inr ⟨start, rfl⟩
      · exact known
  exact found _ _ (.inl rfl)

/-- A run of zero groups lies within the groups. -/
theorem split_longestZeroRun {groups : List Nat} {start length : Nat}
    (found : longestZeroRun groups = (start, length)) (long : 1 < length) :
    groups = groups.take start ++ List.replicate length 0 ++ groups.drop (start + length) := by
  rcases longestZeroRun_eq groups with none | ⟨start', some⟩
  · rw [found] at none
    cases none
    cases long
  · rw [found] at some
    cases some
    rw [← take_leadingZeroGroups, List.append_assoc, ← List.drop_drop, List.take_append_drop,
      List.take_append_drop]

/-- The parts of an address are as many and as large as they should be. -/
def Sound : Address → Prop
  | .v4 octets => octets.length = 4 ∧ ∀ octet ∈ octets, octet < 256
  | .v6 groups => groups.length = 8 ∧ ∀ group ∈ groups, group < 65536

private theorem groups_sound (text : List Char) (first : Bool) (room : Nat) :
    (groups text first room).1.length ≤ room ∧
      ∀ group ∈ (groups text first room).1, group < 65536 := by
  induction room generalizing text first with
  | zero => exact ⟨Nat.le_refl 0, List.forall_mem_nil _⟩
  | succ room ih =>
    rw [groups]
    dsimp only
    split
    · next octets rest found =>
      have last : room ≠ 0 := by
        rintro rfl
        cases found
      rw [if_neg last] at found
      obtain ⟨start, -, read⟩ := Option.bind_eq_some_iff.mp found
      obtain ⟨length, small, -⟩ := octets?_eq_some read
      obtain ⟨a, b, c, d, rfl⟩ := List.length_eq_four.mp length
      simp only [List.forall_mem_cons] at small
      simp only [pairOctets, List.length_cons, List.length_nil, List.forall_mem_cons]
      exact ⟨by omega, by omega, by omega, List.forall_mem_nil _⟩
    · split
      · exact ⟨Nat.zero_le _, List.forall_mem_nil _⟩
      · next group rest found =>
        obtain ⟨start, -, read⟩ := Option.bind_eq_some_iff.mp found
        have small : group < 16 ^ 4 :=
          lt_of_number? (by decide) (fun c digit known => Document.lt_of_hexDigit? known) read
        obtain ⟨fewer, others⟩ := ih rest false
        exact ⟨Nat.succ_le_succ fewer, List.forall_mem_cons.mpr ⟨small, others⟩⟩

private theorem allGroups?_sound {text rest : List Char} {groups : List Nat}
    (read : allGroups? text = some (groups, rest)) : (v6 groups).Sound := by
  obtain ⟨fewer, small⟩ := groups_sound text true 8
  rw [allGroups?] at read
  dsimp only at read
  split_ifs at read with all octets
  · cases read
    exact ⟨all, small⟩
  · obtain ⟨rest', -, tail⟩ := Option.bind_eq_some_iff.mp read
    cases tail
    obtain ⟨fewer', small'⟩ := groups_sound rest' true (7 - (Address.groups text true 8).1.length)
    constructor
    · simp only [List.length_append, List.length_replicate]
      omega
    · simp only [List.forall_mem_append]
      refine ⟨⟨small, fun group member => ?_⟩, small'⟩
      rw [List.eq_of_mem_replicate member]
      decide

/-- What is read is sound. -/
theorem ofChars?_sound {text : List Char} {address : Address} (read : ofChars? text = some address) :
    address.Sound := by
  rw [ofChars?] at read
  split at read
  · next octets rest found =>
    split_ifs at read
    cases read
    obtain ⟨length, small, -⟩ := octets?_eq_some found
    exact ⟨length, small⟩
  · split at read
    · next groups rest found =>
      split_ifs at read
      cases read
      exact allGroups?_sound found
    · cases read

/-- The text of an address of version 4 that is embedded into version 6. -/
theorem allGroups?_mapped {high low : Nat} (small : high < 65536) (small' : low < 65536) :
    allGroups? ("::ffff:".toList ++ octetChars [high / 256, high % 256, low / 256, low % 256]) =
      some ([0, 0, 0, 0, 0, 0xFFFF, high, low], []) := by
  have octets := @octets?_octetChars (high / 256) (high % 256) (low / 256) (low % 256) []
    (by omega) (by omega) (by omega) (by omega) nofun
  rw [List.append_nil] at octets
  generalize octetChars [high / 256, high % 256, low / 256, low % 256] = text at octets ⊢
  have colons : "::ffff:".toList = [':', ':', 'f', 'f', 'f', 'f', ':'] := by decide
  have pair (n : Nat) : n / 256 * 256 + n % 256 = n := Nat.div_add_mod' n 256
  have group : number? hexDigit? 16 4 true ('f' :: 'f' :: 'f' :: 'f' :: ':' :: text) =
      some (0xFFFF, ':' :: text) := rfl
  have noOctets : octets? ('f' :: 'f' :: 'f' :: 'f' :: ':' :: text) = none := rfl
  have none : groups (':' :: ':' :: 'f' :: 'f' :: 'f' :: 'f' :: ':' :: text) true 8 =
      ([], false, ':' :: ':' :: 'f' :: 'f' :: 'f' :: 'f' :: ':' :: text) := rfl
  have some : groups ('f' :: 'f' :: 'f' :: 'f' :: ':' :: text) true 7 =
      ([0xFFFF, high, low], true, []) := by
    simp [groups, noOctets, group, given?, octets, pairOctets, pair]
  simp [colons, allGroups?, none, some, given?, List.replicate]

theorem chars_v4 (octets : List Nat) : chars (.v4 octets) = octetChars octets := rfl

/-- The shortest way to write the groups of an address. -/
theorem chars_v6 (groups : List Nat) :
    (∃ high low, groups = [0, 0, 0, 0, 0, 0xFFFF, high, low] ∧ chars (.v6 groups) =
        "::ffff:".toList ++ octetChars [high / 256, high % 256, low / 256, low % 256]) ∨
      (∃ start length, longestZeroRun groups = (start, length) ∧ 1 < length ∧
        chars (.v6 groups) = groupChars (groups.take start) ++ "::".toList ++
          groupChars (groups.drop (start + length))) ∨
      chars (.v6 groups) = groupChars groups := by
  unfold chars
  split
  · next same => cases same
  · next high low same =>
    cases same
    exact .inl ⟨high, low, rfl, rfl⟩
  · next same =>
    cases same
    dsimp only
    split_ifs with long
    · exact .inr (.inl ⟨_, _, rfl, long, rfl⟩)
    · exact .inr (.inr rfl)

/-- The characters of an address of version 4. -/
theorem isDigit_or_of_mem_octetChars {octets : List Nat} :
    ∀ c ∈ octetChars octets, c.isDigit ∨ c = '.' := by
  rw [octetChars]
  induction octets with
  | nil => exact List.forall_mem_nil _
  | cons octet octets ih =>
    have digits : ∀ c ∈ Nat.toDigits 10 octet, c.isDigit ∨ c = '.' :=
      fun c member => .inl (isDigit_of_mem_toDigits member)
    cases octets with
    | nil => exact digits
    | cons next octets =>
      rw [List.map_cons, List.map_cons, separated, ← List.map_cons]
      · exact List.forall_mem_append.mpr ⟨digits, List.forall_mem_cons.mpr ⟨.inr rfl, ih⟩⟩
      · exact nofun

private theorem hexDigit?_of_isDigit {c : Char} (digit : c.isDigit) : (hexDigit? c).isSome := by
  rw [Char.isDigit, Bool.and_eq_true, decide_eq_true_iff, decide_eq_true_iff] at digit
  have decimal : '0' ≤ c ∧ c ≤ '9' := digit
  rw [hexDigit?, if_pos decimal]
  rfl

/-- The character is a hexadecimal digit or one that stands between the parts of an address. -/
def IsPart (c : Char) : Prop := (hexDigit? c).isSome ∨ c = ':' ∨ c = '.'

instance (c : Char) : Decidable (IsPart c) := inferInstanceAs (Decidable (_ ∨ _ ∨ _))

private theorem isPart_of_mem_octetChars {octets : List Nat} : ∀ c ∈ octetChars octets, IsPart c := by
  intro c member
  rcases isDigit_or_of_mem_octetChars c member with digit | point
  · exact .inl (hexDigit?_of_isDigit digit)
  · exact .inr (.inr point)

theorem isPart_of_mem_chars {address : Address} : ∀ c ∈ address.chars, IsPart c := by
  have group {c : Char} (known : (hexDigit? c).isSome ∨ c = ':') : IsPart c := known.imp_right .inl
  cases address with
  | v4 octets => exact isPart_of_mem_octetChars
  | v6 groups =>
    have written (groups : List Nat) : ∀ c ∈ groupChars groups, IsPart c :=
      fun c member => group (isGroupChar_of_mem c member)
    rcases chars_v6 groups with ⟨high, low, -, same⟩ | ⟨start, length, -, -, same⟩ | same
    · have mapped : ∀ c ∈ "::ffff:".toList, (hexDigit? c).isSome ∨ c = ':' :=
        List.all_iff_forall_prop.mp (by decide)
      rw [same, List.forall_mem_append]
      exact ⟨fun c member => group (mapped c member), isPart_of_mem_octetChars⟩
    · have colons : ∀ c ∈ "::".toList, (hexDigit? c).isSome ∨ c = ':' :=
        List.all_iff_forall_prop.mp (by decide)
      rw [same, List.forall_mem_append, List.forall_mem_append]
      exact ⟨⟨written _, fun c member => group (colons c member)⟩, written _⟩
    · rw [same]
      exact written _

/-- A version 6 address holds two colons in a row, or at least seven of them. -/
theorem colons_of_chars {groups : List Nat} (all : groups.length = 8) :
    [':', ':'] <:+: chars (.v6 groups) ∨ 7 ≤ (chars (.v6 groups)).count ':' := by
  rcases chars_v6 groups with ⟨high, low, -, same⟩ | ⟨start, length, -, -, same⟩ | same
  · rw [same]
    exact .inl ⟨[], 'f' :: 'f' :: 'f' :: 'f' :: ':' :: octetChars [high / 256, high % 256, low / 256, low % 256], rfl⟩
  · rw [same]
    exact .inl ⟨_, _, rfl⟩
  · rw [same]
    right
    have colons (groups : List Nat) : groups.length ≤ (colonGroups groups).count ':' := by
      induction groups with
      | nil => exact Nat.zero_le _
      | cons group groups ih =>
        rw [colonGroups, List.flatMap_cons, List.cons_append, List.count_cons_self, List.count_append, ← colonGroups,
          List.length_cons]
        omega
    cases groups with
    | nil => cases all
    | cons group groups =>
      rw [groupChars_cons, List.count_append]
      have := colons groups
      rw [List.length_cons] at all
      omega

/-- An address is read back from its canonical text. -/
theorem ofChars?_chars {address : Address} (sound : address.Sound) :
    ofChars? address.chars = some address := by
  cases address with
  | v4 octets =>
    obtain ⟨length, small⟩ : octets.length = 4 ∧ ∀ octet ∈ octets, octet < 256 := sound
    obtain ⟨a, b, c, d, rfl⟩ := List.length_eq_four.mp length
    simp only [List.forall_mem_cons] at small
    have read := @octets?_octetChars a b c d [] small.1 small.2.1 small.2.2.1 small.2.2.2.1 nofun
    rw [List.append_nil] at read
    simp only [chars_v4, ofChars?, read, List.isEmpty_nil, if_true]
  | v6 groups =>
    obtain ⟨all, small⟩ : groups.length = 8 ∧ ∀ group ∈ groups, group < 65536 := sound
    rcases chars_v6 groups with ⟨high, low, rfl, same⟩ | ⟨start, length, found, long, same⟩ | same
    · simp only [List.forall_mem_cons] at small
      have read := allGroups?_mapped small.2.2.2.2.2.2.1 small.2.2.2.2.2.2.2.1
      have noOctets : octets? ("::ffff:".toList ++ octetChars
          [high / 256, high % 256, low / 256, low % 256]) = none := rfl
      simp only [same, ofChars?, noOctets, read, List.isEmpty_nil, if_true]
    · have split := split_longestZeroRun found long
      have lengths := congrArg List.length split
      simp only [List.length_append, List.length_replicate, all, List.length_take,
        List.length_drop] at lengths
      have read := @allGroups?_gap (groups.take start) (groups.drop (start + length))
        (by simp only [List.length_take, List.length_drop]; omega)
        (fun group member => small group (List.mem_of_mem_take member))
        (fun group member => small group (List.mem_of_mem_drop member))
      -- The groups that the gap leaves out are as many as the run of zeros is long.
      have gap : 8 - (groups.take start).length - (groups.drop (start + length)).length = length := by
        simp only [List.length_take, List.length_drop]
        omega
      rw [gap, ← split] at read
      have noOctets : octets? (groupChars (groups.take start) ++ "::".toList ++
          groupChars (groups.drop (start + length))) = none := by
        apply octets?_eq_none
        simp [point_not_mem_groupChars]
      simp only [same, ofChars?, noOctets, read, List.isEmpty_nil, if_true]
    · have noOctets := octets?_eq_none (point_not_mem_groupChars groups)
      have read := allGroups?_groupChars all small
      simp only [same, ofChars?, noOctets, read, List.isEmpty_nil, if_true]

end Intake.Address
