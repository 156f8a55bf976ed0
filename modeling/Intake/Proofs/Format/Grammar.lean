import Intake.Engine.Validator
import Intake.Proofs.Engine.Meaning
import Intake.Proofs.Format.Name
import Intake.Proofs.Pattern.Compile
import Intake.Proofs.Pattern.Language
import Intake.Proofs.Text.Splitting
import Intake.ValueType.Casting

/-! # The grammar of host names and mail addresses

Host names and mail addresses are given three times over: by a grammar of labels, by a pattern, and by
the way in which texts are checked. All three have the same texts. The pattern makes up a label from
its ends and what stands between them; the check cuts a text at its points.
-/

namespace Intake

open Unicode

namespace Hostname

/-- A label: one to 63 letters, digits and hyphens of ASCII, with a hyphen at neither end. -/
structure Label (text : List Char) : Prop where
  length : 1 ≤ text.length ∧ text.length ≤ 63
  chars : ∀ c ∈ text, c.isAlphanum ∨ c = '-'
  first : text.head? ≠ some '-'
  last : text.getLast? ≠ some '-'

/-- Labels with points between them, at least so many. -/
def Dotted (least : Nat) (text : List Char) : Prop :=
  ∃ labels : List (List Char), least ≤ labels.length ∧ (∀ label ∈ labels, Label label) ∧
    text = List.intercalate ['.'] labels

/-- A host name: labels with points between them, of at most 253 octets. -/
structure IsName (text : String) : Prop where
  dotted : Dotted 1 text.toList
  short : text.utf8ByteSize ≤ 253

end Hostname

namespace Email

/-- A mail address: letters, digits and signs, an at sign, and two or more labels with points between
them. -/
def IsAddress (text : String) : Prop :=
  ∃ front domain, text.toList = front ++ '@' :: domain ∧ front ≠ [] ∧
    (∀ c ∈ front, c.isAlphanum ∨ c ∈ localSigns) ∧ Hostname.Dotted 2 domain

end Email

/-- What holds of printable characters only can be compared with a set of ASCII one by one. -/
private theorem Unicode.CodeRanges.contains_eq {set : CodeRanges} {known : Char → Bool}
    (printable : ∀ c, known c → Text.IsPrintable c) (ascii : ∀ range ∈ set.ranges, range.2 < 0x7F)
    (checked : ∀ code < 0x7F, set.contains (Char.ofNat code) = known (Char.ofNat code)) (c : Char) :
    set.contains c = known c := by
  by_cases small : c.toNat < 0x7F
  · exact Text.char_of_lt (motive := fun c => set.contains c = known c) checked small
  · have outside : set.contains c = false := by
      rw [CodeRanges.contains, CodeRanges.containsCode, List.any_eq_false]
      intro range member
      have last := ascii range member
      simp only [Bool.and_eq_true, decide_eq_true_eq]
      omega
    have unknown : ¬known c := fun holds => small (Nat.lt_succ_of_le (printable c holds).2)
    rw [outside, Bool.eq_false_iff.mpr unknown]

namespace Hostname

variable {text : List Char}

/-- A letter or a digit. -/
def endPattern : Pattern := .char ⟨[(48, 57), (65, 90), (97, 122)]⟩

/-- A letter, a digit or a hyphen. -/
def innerPattern : Pattern := .char ⟨[(45, 45), (48, 57), (65, 90), (97, 122)]⟩

/-- What may follow the first character of a label. -/
def restPattern : Pattern :=
  .repeated 0 (some 1) (.sequence (.repeated 0 (some 61) innerPattern) endPattern)

/-- A label. -/
def labelPattern : Pattern := .sequence endPattern restPattern

/-- A label after a point. -/
def pointedPattern : Pattern := .sequence (.char (.single '.'.toNat)) labelPattern

private theorem endPattern_contains (c : Char) :
    CodeRanges.contains ⟨[(48, 57), (65, 90), (97, 122)]⟩ c = c.isAlphanum :=
  CodeRanges.contains_eq (fun _ => Text.isPrintable_of_isAlphanum) (by decide) (by decide) c

private theorem innerPattern_contains (c : Char) :
    CodeRanges.contains ⟨[(45, 45), (48, 57), (65, 90), (97, 122)]⟩ c = isLabelChar c :=
  CodeRanges.contains_eq (fun _ => isPrintable_of_isLabelChar) (by decide) (by decide) c

private theorem mem_endPattern : text ∈ endPattern.language ↔ ∃ c, c.isAlphanum ∧ text = [c] := by
  rw [endPattern, Pattern.language]
  constructor
  · rintro ⟨c, member, same⟩
    exact ⟨c, endPattern_contains c ▸ member, same⟩
  · rintro ⟨c, alphanum, same⟩
    exact ⟨c, (endPattern_contains c).trans alphanum, same⟩

/-- What may follow the first character of a label is empty, or ends in a letter or a digit. -/
theorem mem_restPattern : text ∈ restPattern.language ↔ text = [] ∨
    ∃ inner c, text = inner ++ [c] ∧ inner.length ≤ 61 ∧ (∀ d ∈ inner, isLabelChar d) ∧
      c.isAlphanum := by
  rw [restPattern, Pattern.mem_optional, Pattern.language, Language.mem_mul]
  refine or_congr_right ?_
  constructor
  · rintro ⟨inner, between, back, final, rfl⟩
    obtain ⟨-, short, all⟩ := Pattern.mem_repeated_char.mp between
    obtain ⟨c, alphanum, rfl⟩ := mem_endPattern.mp final
    exact ⟨inner, c, rfl, short 61 rfl, fun d member => innerPattern_contains d ▸ all d member,
      alphanum⟩
  · rintro ⟨inner, c, rfl, short, all, alphanum⟩
    refine ⟨inner, Pattern.mem_repeated_char.mpr ⟨Nat.zero_le _, ?_, fun d member =>
      (innerPattern_contains d).trans (all d member)⟩, [c], mem_endPattern.mpr ⟨c, alphanum, rfl⟩, rfl⟩
    rintro most ⟨⟩
    exact short

private theorem isAlphanum_of_ne {c : Char} (known : c.isAlphanum ∨ c = '-')
    (other : some c ≠ some '-') :
    c.isAlphanum := known.resolve_right fun same => other (congrArg some same)

private theorem isLabelChar_iff {c : Char} : isLabelChar c ↔ c.isAlphanum ∨ c = '-' := by
  rw [isLabelChar, Bool.or_eq_true, beq_iff_eq]

private theorem ne_hyphen_of_isAlphanum {c : Char} (alphanum : c.isAlphanum) : some c ≠ some '-' := by
  rintro ⟨⟩
  revert alphanum
  decide

/-- The pattern of a label makes up the labels. -/
theorem mem_labelPattern : text ∈ labelPattern.language ↔ Label text := by
  rw [labelPattern, Pattern.language, Language.mem_mul]
  constructor
  · rintro ⟨front, start, rest, follows, rfl⟩
    obtain ⟨c, alphanum, rfl⟩ := mem_endPattern.mp start
    have first := ne_hyphen_of_isAlphanum alphanum
    rcases mem_restPattern.mp follows with rfl | ⟨inner, d, rfl, short, all, final⟩
    · exact ⟨⟨le_refl 1, Nat.le_add_left 1 62⟩, by simp [alphanum], first, first⟩
    · refine ⟨by simp only [List.length_append, List.length_singleton]; omega, ?_, first, ?_⟩
      · simp only [List.forall_mem_append, List.forall_mem_singleton]
        exact ⟨.inl alphanum, fun e member => isLabelChar_iff.mp (all e member), .inl final⟩
      · rw [← List.append_assoc, List.getLast?_append_cons]
        exact ne_hyphen_of_isAlphanum final
  · rintro ⟨⟨filled, short⟩, all, first, last⟩
    obtain ⟨c, rest, rfl⟩ := List.exists_cons_of_length_pos filled
    obtain ⟨known, others⟩ := List.forall_mem_cons.mp all
    refine ⟨[c], mem_endPattern.mpr ⟨c, isAlphanum_of_ne known first, rfl⟩, rest,
      mem_restPattern.mpr ?_, rfl⟩
    rcases List.eq_nil_or_concat rest with rfl | ⟨inner, d, rfl⟩
    · exact .inl rfl
    · rw [List.concat_eq_append] at others short last ⊢
      obtain ⟨between, final⟩ := List.forall_mem_append.mp others
      rw [← List.cons_append, List.getLast?_append_cons] at last
      simp only [List.length_cons, List.length_append, List.length_nil] at short
      exact .inr ⟨inner, d, rfl, by omega, fun e member => isLabelChar_iff.mpr (between e member),
        isAlphanum_of_ne (final d (List.mem_singleton_self d)) last⟩

/-- A label with so many pointed ones behind it is one more label, with points between them. -/
theorem mem_labels_iff {count : Nat} :
    text ∈ labelPattern.language * pointedPattern.language ^ count ↔
      ∃ labels : List (List Char), labels.length = count + 1 ∧ (∀ label ∈ labels, Label label) ∧
        text = List.intercalate ['.'] labels := by
  induction count generalizing text with
  | zero =>
    rw [pow_zero, mul_one, mem_labelPattern]
    constructor
    · intro label
      exact ⟨[text], rfl, List.forall_mem_singleton.mpr label, List.intercalate_singleton.symm⟩
    · rintro ⟨labels, one, all, rfl⟩
      obtain ⟨label, rfl⟩ := List.length_eq_one_iff.mp one
      rw [List.intercalate_singleton]
      exact all label (List.mem_singleton_self label)
  | succ count ih =>
    -- The point is moved from the next part to the first label, so that the rest is as before.
    have split : labelPattern.language * pointedPattern.language ^ (count + 1) =
        labelPattern.language * ((Pattern.char (.single '.'.toNat)).language *
          (labelPattern.language * pointedPattern.language ^ count)) := by
      rw [pow_succ']
      exact congrArg _ (mul_assoc _ _ _)
    rw [split, Language.mem_mul]
    constructor
    · rintro ⟨first, start, _, ⟨_, point, others, follow, rfl⟩, rfl⟩
      obtain rfl := Pattern.mem_char_single.mp point
      obtain ⟨labels, long, all, rfl⟩ := ih.mp follow
      obtain ⟨next, labels, rfl⟩ := List.exists_cons_of_length_eq_add_one long
      refine ⟨first :: next :: labels, by rw [List.length_cons, long],
        List.forall_mem_cons.mpr ⟨mem_labelPattern.mp start, all⟩, ?_⟩
      rw [List.intercalate_cons_cons, List.append_assoc]
    · rintro ⟨labels, long, all, rfl⟩
      obtain ⟨first, labels, rfl⟩ := List.exists_cons_of_length_eq_add_one long
      obtain ⟨next, labels, rfl⟩ := List.exists_cons_of_length_eq_add_one (Nat.succ.inj long)
      obtain ⟨label, others⟩ := List.forall_mem_cons.mp all
      refine ⟨first, mem_labelPattern.mpr label, _, ⟨['.'], Pattern.mem_char_single.mpr rfl, _,
        ih.mpr ⟨next :: labels, Nat.succ.inj long, others, rfl⟩, rfl⟩, ?_⟩
      rw [List.intercalate_cons_cons, List.append_assoc]

/-- A label with pointed ones behind it, at least so many of them. -/
theorem mem_dotted_iff {least : Nat} :
    text ∈ labelPattern.language * (Pattern.repeated least none pointedPattern).language ↔
      Dotted (least + 1) text := by
  rw [Language.mem_mul]
  constructor
  · rintro ⟨front, start, back, ⟨extra, -, power⟩, rfl⟩
    obtain ⟨labels, long, all, same⟩ :=
      mem_labels_iff.mp (Language.mem_mul.mpr ⟨front, start, back, power, rfl⟩)
    exact ⟨labels, by omega, all, same⟩
  · rintro ⟨labels, long, all, same⟩
    obtain ⟨front, start, back, power, rfl⟩ := Language.mem_mul.mp
      (mem_labels_iff.mpr ⟨labels, (by omega : labels.length = least + (labels.length - least - 1) + 1),
        all, same⟩)
    exact ⟨front, start, back, ⟨_, by simp, power⟩, rfl⟩

private theorem ends_normalized : CodeRanges.normalize ⟨[(65, 90), (97, 122), (48, 57)]⟩ =
    ⟨[(48, 57), (65, 90), (97, 122)]⟩ :=
  CodeRanges.normalize_eq_of_perm 48 57 [(65, 90), (97, 122)] (by decide) (by decide)

private theorem inner_normalized : CodeRanges.normalize ⟨[(65, 90), (97, 122), (48, 57), (45, 45)]⟩ =
    ⟨[(45, 45), (48, 57), (65, 90), (97, 122)]⟩ :=
  CodeRanges.normalize_eq_of_perm 45 45 [(48, 57), (65, 90), (97, 122)] (by decide) (by decide)

private theorem read?_source : Pattern.read? source.toList =
    some (.anchored [labelPattern, .repeated 0 none pointedPattern]) := by
  simp only [source, String.toList_append, pointedPattern, labelPattern, restPattern, innerPattern,
    endPattern, ← ends_normalized, ← inner_normalized]
  rfl

/-- The pattern of host names, read from its text. -/
theorem ofText_source : Pattern.ofText source =
    .ok (.anchored [labelPattern, .repeated 0 none pointedPattern]) :=
  Pattern.ofText_eq_ok_iff.mpr ⟨read?_source, by decide⟩

/-- The pattern of host names is found in labels with points between them. -/
theorem source_isFoundIn_iff {name : String} :
    (∃ pattern, Pattern.ofText source = .ok pattern ∧ pattern.isFoundIn name) ↔
      Dotted 1 name.toList := by
  simp only [ofText_source, Except.ok.injEq, exists_eq_left']
  rw [Pattern.isFoundIn_anchored_iff rfl, List.map_cons, List.map_cons, List.map_nil, List.prod_cons,
    List.prod_singleton]
  exact mem_dotted_iff

end Hostname

namespace Email

open Hostname

/-- The characters of a local part. -/
def localRanges : CodeRanges :=
  ⟨[(33, 33), (35, 39), (42, 43), (45, 57), (61, 61), (63, 63), (65, 90), (94, 126)]⟩

/-- The parts of a mail address. -/
def addressParts : List Pattern :=
  [.repeated 1 none (.char localRanges), .char (.single '@'.toNat), endPattern, restPattern,
    .repeated 1 none pointedPattern]

private theorem localRanges_contains (c : Char) : localRanges.contains c = isLocalChar c := by
  -- The signs are spelled out, so that they are not read from their text for every character.
  have signs : localSigns = ['.', '!', '#', '$', '%', '&', '\x27', '*', '+', '/', '=', '?', '^', '_',
      '\x60', '\x7b', '|', '\x7d', '~', '-'] := rfl
  refine CodeRanges.contains_eq (fun _ => isPrintable_of_isLocalChar) (by decide) ?_ c
  simp only [isLocalChar, signs]
  decide

private theorem local_normalized :
    CodeRanges.normalize ⟨[(65, 90), (97, 122), (48, 57), (46, 46), (33, 33),
    (35, 35), (36, 36), (37, 37), (38, 38), (39, 39), (42, 42), (43, 43), (47, 47), (61, 61), (63, 63),
    (94, 94), (95, 95), (96, 96), (123, 123), (124, 124), (125, 125), (126, 126), (45, 45)]⟩ =
      localRanges :=
  CodeRanges.normalize_eq_of_perm 33 33 [(35, 35), (36, 36), (37, 37), (38, 38), (39, 39),
    (42, 42), (43, 43), (45, 45), (46, 46), (47, 47), (48, 57), (61, 61), (63, 63), (65, 90), (94, 94),
    (95, 95), (96, 96), (97, 122), (123, 123), (124, 124), (125, 125), (126, 126)] (by decide) (by decide)

private theorem toList_source : source.toList = "^[A-Za-z0-9".toList ++ localSigns ++ "]+@".toList
    ++ labelSource.toList ++ "(?:\\.".toList ++ labelSource.toList ++ ")+$".toList := by
  -- An equation for the definition would read the whole text.
  delta source
  simp only [String.toList_append, String.toList_ofList]

private theorem read?_source : Pattern.read? source.toList = some (.anchored addressParts) := by
  rw [toList_source, addressParts, pointedPattern, labelPattern, restPattern, innerPattern, endPattern,
    ← ends_normalized, ← inner_normalized, ← local_normalized]
  set_option maxRecDepth 2000 in rfl

/-- The pattern of mail addresses, read from its text. -/
theorem ofText_source : Pattern.ofText source = .ok (.anchored addressParts) :=
  Pattern.ofText_eq_ok_iff.mpr ⟨read?_source, by decide⟩

private theorem isLocalChar_iff {c : Char} : isLocalChar c ↔ c.isAlphanum ∨ c ∈ localSigns := by
  rw [isLocalChar, Bool.or_eq_true, List.contains_iff_mem]

/-- The pattern of mail addresses is found in mail addresses. -/
theorem source_isFoundIn_iff {text : String} :
    (∃ pattern, Pattern.ofText source = .ok pattern ∧ pattern.isFoundIn text) ↔ IsAddress text := by
  have parts : (addressParts.map Pattern.language).prod =
      (Pattern.repeated 1 none (.char localRanges)).language *
        ((Pattern.char (.single '@'.toNat)).language *
          (labelPattern.language * (Pattern.repeated 1 none pointedPattern).language)) := by
    have label : labelPattern.language = endPattern.language * restPattern.language := rfl
    rw [label, mul_assoc]
    simp [addressParts]
  simp only [ofText_source, Except.ok.injEq, exists_eq_left']
  rw [Pattern.isFoundIn_anchored_iff rfl, parts, Language.mem_mul]
  constructor
  · rintro ⟨front, known, rest, follow, whole⟩
    obtain ⟨_, sign, domain, dotted, rfl⟩ := Language.mem_mul.mp follow
    obtain rfl := Pattern.mem_char_single.mp sign
    obtain ⟨filled, -, all⟩ := Pattern.mem_repeated_char.mp known
    refine ⟨front, domain, whole.symm, List.ne_nil_of_length_pos filled, fun c member => ?_,
      mem_dotted_iff.mp dotted⟩
    exact isLocalChar_iff.mp (localRanges_contains c ▸ all c member)
  · rintro ⟨front, domain, whole, filled, all, dotted⟩
    refine ⟨front, Pattern.mem_repeated_char.mpr ⟨List.length_pos_iff.mpr filled, nofun,
      fun c member => ?_⟩, _, Language.mem_mul.mpr ⟨['@'], Pattern.mem_char_single.mpr rfl, domain,
        mem_dotted_iff.mpr dotted, rfl⟩, whole.symm⟩
    exact (localRanges_contains c).trans (isLocalChar_iff.mpr (all c member))

end Email

namespace Hostname

variable {text : List Char}

private theorem isLabel_iff_label : isLabel text ↔ Label text := by
  rw [isLabel_iff]
  constructor
  · rintro ⟨⟨filled, short⟩, all, first, last⟩
    exact ⟨⟨List.length_pos_iff.mpr filled, short⟩, fun c member => isLabelChar_iff.mp (all c member),
      first, last⟩
  · rintro ⟨⟨filled, short⟩, all, first, last⟩
    exact ⟨⟨List.length_pos_iff.mp filled, short⟩, fun c member => isLabelChar_iff.mpr (all c member),
      first, last⟩

private theorem Label.not_mem_point (label : Label text) : '.' ∉ text := by
  intro member
  have known := label.chars '.' member
  revert known
  decide

/-- Labels have no points, so a text is cut into the labels that it was put together from. -/
theorem dotted_iff {least : Nat} (positive : 1 ≤ least) :
    Dotted least text ↔ isDotted text ∧ least ≤ (labels text).length := by
  rw [isDotted, List.all_eq_true]
  constructor
  · rintro ⟨parts, enough, all, rfl⟩
    have filled : parts ≠ [] := List.ne_nil_of_length_pos (by omega)
    have cut : labels (List.intercalate ['.'] parts) = parts :=
      Text.splitAt_intercalate filled fun part member => (all part member).not_mem_point
    rw [cut]
    exact ⟨fun part member => isLabel_iff_label.mpr (all part member), enough⟩
  · rintro ⟨all, enough⟩
    exact ⟨labels text, enough, fun part member => isLabel_iff_label.mp (all part member),
      (Text.replaceAll_self (List.cons_ne_nil _ _) text).symm⟩

private theorem isValid_iff_isName {name : String} : isValid name ↔ IsName name := by
  have one : 1 ≤ (labels name.toList).length :=
    List.length_pos_iff.mpr (Text.splitFrom_ne_nil _ _ _ _)
  rw [isValid, Bool.and_eq_true, decide_eq_true_iff]
  constructor
  · rintro ⟨short, dotted⟩
    exact ⟨(dotted_iff (le_refl 1)).mpr ⟨dotted, one⟩, short⟩
  · rintro ⟨dotted, short⟩
    exact ⟨short, ((dotted_iff (le_refl 1)).mp dotted).1⟩

end Hostname

private theorem Email.isValid_iff_isAddress {text : String} : isValid text ↔ IsAddress text := by
  have domain_iff (domain : List Char) : isDomain domain ↔ Hostname.Dotted 2 domain := by
    rw [isDomain, Bool.and_eq_true, decide_eq_true_iff, Hostname.dotted_iff (by decide)]
  simp only [isValid_iff, IsAddress, isLocalPart_iff, isLocalChar_iff, domain_iff, and_assoc]

/-- The validator of the name passes the value. -/
def Validator.Accepts (name : String) (argument? : Option String) (value : Document) : Prop :=
  ∃ validator, Validator.find? name = some validator ∧ validator argument? value = .ok none

private theorem Validator.accepts_iff {name : String} {passes : String → Bool} {complaint : Complaint}
    (known : Validator.find? name = some (.ofString passes complaint)) {argument? : Option String}
    {text : String} : Accepts name argument? (.string text) ↔ passes text := by
  simp only [Accepts, known, Option.some.injEq, exists_eq_left', ofString_passes_iff]

/-- The validator, the type and, for short texts, the pattern of host names accept the host names. The
validator, the type and the pattern of mail addresses accept the mail addresses, where the type looks
past blanks at the ends. -/
theorem accepted_iff_grammar (text : String) (argument? : Option String) (overrides : Members) :
    ((Validator.Accepts "hostname" argument? (.string text) ↔ Hostname.IsName text) ∧
      ((ValueType.ofBuiltin .hostname overrides).validate (.string text) ↔ Hostname.IsName text) ∧
      (text.utf8ByteSize ≤ 253 ∧
          (∃ pattern, Pattern.ofText Hostname.source = .ok pattern ∧ pattern.isFoundIn text) ↔
        Hostname.IsName text)) ∧
    (Validator.Accepts "email" argument? (.string text) ↔ Email.IsAddress text) ∧
    ((ValueType.ofBuiltin .email overrides).validate (.string text) ↔
      Email.IsAddress (Text.trim text)) ∧
    ((∃ pattern, Pattern.ofText Email.source = .ok pattern ∧ pattern.isFoundIn text) ↔
      Email.IsAddress text) := by
  refine ⟨⟨?_, ?_, ?_⟩, ?_, ?_, Email.source_isFoundIn_iff⟩
  · rw [Validator.accepts_iff rfl, Hostname.isValid_iff_isName]
  · change (Option.filter Hostname.isValid (some text)).isSome ↔ _
    rw [Option.isSome_filter, Option.any_some, Hostname.isValid_iff_isName]
  · rw [Hostname.source_isFoundIn_iff]
    exact ⟨fun ⟨short, dotted⟩ => ⟨dotted, short⟩, fun name => ⟨name.short, name.dotted⟩⟩
  · rw [Validator.accepts_iff rfl, Email.isValid_iff_isAddress]
  · change (Option.filter Email.isValid (some (Text.trim text))).isSome ↔ _
    rw [Option.isSome_filter, Option.any_some, Email.isValid_iff_isAddress]

end Intake
