import Intake.Format.Email
import Intake.Proofs.Text.Printable
import Mathlib.Data.Bool.AllAny
import Mathlib.Data.String.Basic

/-! # Host names and mail addresses in lower case

Host names and mail addresses are made of printable characters, so lower case leaves their points,
hyphens and at signs where they are, and with them the parts between those. A host name or a mail
address in lower case is one as well.
-/

namespace Intake

namespace Text

variable {separator : Char}

/-- Where a text is cut at a single character. -/
theorem splitFrom_cons (segment : List Char) (c : Char) (rest : List Char) :
    splitFrom [separator] 0 segment (c :: rest) =
      if c = separator then segment.reverse :: splitFrom [separator] 0 [] rest
      else splitFrom [separator] 0 (c :: segment) rest := by
  rw [splitFrom]
  by_cases same : c = separator
  · simp [same]
  · simp [same, Ne.symm same]

/-- A text is cut at the same places if its characters change but the separators stay. -/
theorem splitAt_map {change : Char → Char} {text : List Char}
    (keeps : ∀ c ∈ text, change c = separator ↔ c = separator) :
    splitAt [separator] (text.map change) = (splitAt [separator] text).map (List.map change) := by
  have each (segment : List Char) :
      splitFrom [separator] 0 (segment.map change) (text.map change) =
        (splitFrom [separator] 0 segment text).map (List.map change) := by
    induction text generalizing segment with
    | nil => simp [splitFrom]
    | cons c rest ih =>
      obtain ⟨first, others⟩ := List.forall_mem_cons.mp keeps
      rw [List.map_cons, splitFrom_cons, splitFrom_cons]
      by_cases same : c = separator
      · rw [if_pos same, if_pos (first.mpr same), List.map_cons, List.map_reverse]
        exact congrArg _ (ih others [])
      · rw [if_neg same, if_neg (mt first.mp same)]
        exact ih others (c :: segment)
  exact each []

/-- Every character of a text is a separator or stands in a part. -/
theorem eq_or_exists_of_mem {text : List Char} {c : Char} (member : c ∈ text) :
    c = separator ∨ ∃ part ∈ splitAt [separator] text, c ∈ part := by
  have each {text : List Char} (segment : List Char) (member : c ∈ segment ∨ c ∈ text) :
      c = separator ∨ ∃ part ∈ splitFrom [separator] 0 segment text, c ∈ part := by
    induction text generalizing segment with
    | nil => exact .inr (by simpa [splitFrom] using member)
    | cons first rest ih =>
      rw [splitFrom_cons]
      split_ifs with same
      · rcases member with before | now
        · exact .inr ⟨_, List.mem_cons_self .., List.mem_reverse.mpr before⟩
        · rcases List.mem_cons.mp now with rfl | later
          · exact .inl same
          · refine (ih [] (.inr later)).imp_right ?_
            rintro ⟨part, inside, member⟩
            exact ⟨part, List.mem_cons_of_mem _ inside, member⟩
      · apply ih
        rcases member with before | now
        · exact .inl (List.mem_cons_of_mem _ before)
        · rcases List.mem_cons.mp now with rfl | later
          · exact .inl (List.mem_cons_self ..)
          · exact .inr later
  exact each [] (.inr member)

/-- Lower case changes neither points nor hyphens nor at signs. -/
theorem IsPrintable.toLower_eq_iff {c sign : Char} (printable : IsPrintable c)
    (plain : sign ∈ ['.', '-', '@']) : c.toLower = sign ↔ c = sign := by
  simp only [List.mem_cons, List.not_mem_nil, or_false] at plain
  rcases plain with rfl | rfl | rfl <;>
    exact printable.check (motive := fun c => c.toLower = _ ↔ c = _) (by decide)

/-- A printable character takes up one octet. -/
theorem utf8ByteSize_of_isPrintable {text : String} (printable : ∀ c ∈ text.toList, IsPrintable c) :
    text.utf8ByteSize = text.toList.length := by
  have each {text : List Char} (printable : ∀ c ∈ text, IsPrintable c) :
      String.utf8Len text = text.length := by
    induction text with
    | nil => rfl
    | cons c rest ih =>
      obtain ⟨first, others⟩ := List.forall_mem_cons.mp printable
      have octet : c.utf8Size = 1 :=
        Char.utf8Size_eq_one_iff.mpr (UInt32.le_iff_toNat_le.mpr (Nat.le_succ_of_le first.2))
      rw [String.utf8Len_cons, ih others, octet, List.length_cons]
  rw [← each printable, ← String.utf8ByteSize_ofList, String.ofList_toList]

end Text

open Text

namespace Hostname

theorem isPrintable_of_isLabelChar {c : Char} (label : isLabelChar c) : IsPrintable c := by
  rw [isLabelChar, Bool.or_eq_true, beq_iff_eq] at label
  rcases label with alphanum | rfl
  · exact isPrintable_of_isAlphanum alphanum
  · decide

private theorem isLabelChar_toLower {c : Char} (label : isLabelChar c) : isLabelChar c.toLower := by
  have checked : ∀ code < 0x7F, isLabelChar (Char.ofNat code) → isLabelChar (Char.ofNat code).toLower := by
    decide
  exact (isPrintable_of_isLabelChar label).check
    (motive := fun c => isLabelChar c → isLabelChar c.toLower) checked label

variable {text : List Char}

theorem isLabel_iff :
    isLabel text ↔ (text ≠ [] ∧ text.length ≤ greatestLabelLength) ∧ (∀ c ∈ text, isLabelChar c) ∧
      text.head? ≠ some '-' ∧ text.getLast? ≠ some '-' := by
  simp [isLabel, and_assoc]

/-- A label in lower case is a label. -/
theorem isLabel_map_toLower (label : isLabel text) : isLabel (text.map Char.toLower) := by
  obtain ⟨⟨nonempty, short⟩, all, first, last⟩ := isLabel_iff.mp label
  have hyphen {c : Char} (member : c ∈ text) : c.toLower = '-' ↔ c = '-' :=
    (isPrintable_of_isLabelChar (all c member)).toLower_eq_iff (by decide)
  refine isLabel_iff.mpr ⟨⟨by simpa using nonempty, by simpa using short⟩, ?_, ?_, ?_⟩
  · exact List.forall_mem_map.mpr fun c member => isLabelChar_toLower (all c member)
  · rw [List.head?_map, Ne, Option.map_eq_some_iff]
    rintro ⟨c, known, lowered⟩
    rw [hyphen (List.mem_of_head? known)] at lowered
    exact first (lowered ▸ known)
  · rw [List.getLast?_map, Ne, Option.map_eq_some_iff]
    rintro ⟨c, known, lowered⟩
    rw [hyphen (List.mem_of_getLast? known)] at lowered
    exact last (lowered ▸ known)

/-- Labels and the points between them are made of few characters. -/
theorem isLabelChar_or_of_mem (dotted : isDotted text) : ∀ c ∈ text, isLabelChar c ∨ c = '.' := by
  intro c member
  rcases eq_or_exists_of_mem member with point | ⟨part, inside, member⟩
  · exact .inr point
  · exact .inl ((isLabel_iff.mp (List.all_eq_true.mp dotted part inside)).2.1 c member)

theorem isPrintable_of_mem (dotted : isDotted text) : ∀ c ∈ text, IsPrintable c := by
  intro c member
  rcases isLabelChar_or_of_mem dotted c member with label | rfl
  · exact isPrintable_of_isLabelChar label
  · decide

private theorem labels_map_toLower (dotted : isDotted text) :
    labels (text.map Char.toLower) = (labels text).map (List.map Char.toLower) :=
  splitAt_map fun c member => (isPrintable_of_mem dotted c member).toLower_eq_iff (by decide)

private theorem isDotted_map_toLower (dotted : isDotted text) : isDotted (text.map Char.toLower) := by
  rw [isDotted, labels_map_toLower dotted, List.all_map, List.all_eq_true]
  exact fun label member => isLabel_map_toLower (List.all_eq_true.mp dotted label member)

/-- A host name in lower case is a host name. -/
theorem isValid_lower {text : String} (valid : isValid text) : isValid (lower text) := by
  rw [isValid, Bool.and_eq_true, decide_eq_true_iff] at valid ⊢
  obtain ⟨short, dotted⟩ := valid
  have printable := isPrintable_of_mem dotted
  have lowered := lower_of_isPrintable printable
  rw [utf8ByteSize_of_isPrintable (isPrintable_of_mem_lower printable), lowered, lowerAscii,
    String.toList_ofList, List.length_map, ← utf8ByteSize_of_isPrintable printable]
  exact ⟨short, isDotted_map_toLower dotted⟩

end Hostname

namespace Email

theorem isPrintable_of_isLocalChar {c : Char} (known : isLocalChar c) : IsPrintable c := by
  rw [isLocalChar, Bool.or_eq_true, List.contains_iff_mem] at known
  rcases known with alphanum | sign
  · exact isPrintable_of_isAlphanum alphanum
  · exact List.all_iff_forall_prop.mp (by decide : localSigns.all (IsPrintable ·)) c sign

private theorem isLocalChar_toLower {c : Char} (known : isLocalChar c) : isLocalChar c.toLower := by
  have checked : ∀ code < 0x7F, isLocalChar (Char.ofNat code) → isLocalChar (Char.ofNat code).toLower := by
    decide +kernel
  exact (isPrintable_of_isLocalChar known).check
    (motive := fun c => isLocalChar c → isLocalChar c.toLower) checked known

theorem isLocalPart_iff {text : List Char} :
    isLocalPart text ↔ text ≠ [] ∧ ∀ c ∈ text, isLocalChar c := by
  simp [isLocalPart]

/-- A mail address is a local part and a domain with an at sign between them. -/
theorem isValid_iff {text : String} :
    isValid text ↔ ∃ front domain, text.toList = front ++ '@' :: domain ∧ isLocalPart front ∧
      isDomain domain := by
  rw [isValid, Bool.and_eq_true]
  constructor
  · rintro ⟨known, valid⟩
    have whole := text.toList.takeWhile_append_dropWhile (p := (· != '@'))
    have stopped := text.toList.head?_dropWhile_not (· != '@')
    split at valid
    · cases valid
    · next c domain rest =>
      rw [rest] at whole stopped
      obtain rfl : c = '@' := by simpa using stopped
      exact ⟨_, _, whole.symm, known, valid⟩
  · rintro ⟨front, domain, whole, known, valid⟩
    have other : ∀ c ∈ front, (c != '@') = true := by
      intro c member
      rw [bne_iff_ne]
      rintro rfl
      have inside := (isLocalPart_iff.mp known).2 '@' member
      revert inside
      decide
    have start : text.toList.takeWhile (· != '@') = front := by
      rw [whole, List.takeWhile_append_of_pos other, List.takeWhile_cons_of_neg (by decide), List.append_nil]
    have behind : text.toList.dropWhile (· != '@') = '@' :: domain := by
      rw [whole, List.dropWhile_append_of_pos other, List.dropWhile_cons_of_neg (by decide)]
    rw [start, behind]
    exact ⟨known, valid⟩

theorem isPrintable_of_mem {text : String} (valid : isValid text) : ∀ c ∈ text.toList, IsPrintable c := by
  obtain ⟨front, domain, whole, known, dotted⟩ := isValid_iff.mp valid
  rw [isDomain, Bool.and_eq_true] at dotted
  rw [whole, List.forall_mem_append, List.forall_mem_cons]
  exact ⟨fun c member => isPrintable_of_isLocalChar ((isLocalPart_iff.mp known).2 c member), by decide,
    Hostname.isPrintable_of_mem dotted.1⟩

/-- A mail address in lower case is a mail address. -/
theorem isValid_lower {text : String} (valid : isValid text) : isValid (lower text) := by
  rw [lower_of_isPrintable (isPrintable_of_mem valid), lowerAscii]
  obtain ⟨front, domain, whole, known, dotted⟩ := isValid_iff.mp valid
  obtain ⟨nonempty, all⟩ := isLocalPart_iff.mp known
  rw [isDomain, Bool.and_eq_true, decide_eq_true_iff] at dotted
  refine isValid_iff.mpr ⟨front.map Char.toLower, domain.map Char.toLower, ?_, ?_, ?_⟩
  · rw [String.toList_ofList, whole, List.map_append, List.map_cons]
    rfl
  · exact isLocalPart_iff.mpr ⟨by simpa using nonempty,
      List.forall_mem_map.mpr fun c member => isLocalChar_toLower (all c member)⟩
  · rw [isDomain, Bool.and_eq_true, decide_eq_true_iff, Hostname.labels_map_toLower dotted.1,
      List.length_map]
    exact ⟨Hostname.isDotted_map_toLower dotted.1, dotted.2⟩

end Email

end Intake
