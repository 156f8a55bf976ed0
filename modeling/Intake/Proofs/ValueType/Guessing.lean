import Intake.Proofs.Calendar.Taking
import Intake.Proofs.Document.NumberText
import Intake.Proofs.ValueType.Canonical
import Intake.ValueType.Registry

/-! # Guessing again after casting

The type that is guessed for a value casts the value, and for what it casts it to the same type is
guessed. A text is that of the first type that takes it, so what has to be seen is that no earlier type
takes a canonical text: the texts that a type takes hold some character, or are of some length, that
the canonical texts of the later types are not.
-/

namespace Intake

-- Powers are those of natural numbers, whatever algebra is in scope.
attribute [local instance (high)] instPowNat

namespace Text

variable {text digits : List Char}

/-- A run of digits has a sign at most in front of it. -/
theorem isSigned_of_isDigitRun (run : isDigitRun text) :
    (∀ c ∈ text, Layout.IsSigned c) ∧ ∀ c ∈ text.tail, c.isDigit := by
  have digits {digits : List Char} (all : (!digits.isEmpty && digits.all Char.isDigit) = true) :
      ∀ c ∈ digits, c.isDigit := by
    rw [Bool.and_eq_true] at all
    exact List.all_eq_true.mp all.2
  have signed {digits : List Char} (all : ∀ c ∈ digits, c.isDigit) : ∀ c ∈ digits, Layout.IsSigned c :=
    fun c member => .inl (all c member)
  unfold isDigitRun at run
  dsimp only at run
  split at run
  · exact ⟨List.forall_mem_cons.mpr ⟨.inr (.inr rfl), signed (digits run)⟩, digits run⟩
  · exact ⟨List.forall_mem_cons.mpr ⟨.inr (.inl rfl), signed (digits run)⟩, digits run⟩
  · exact ⟨signed (digits run), fun c member => digits run c (List.mem_of_mem_tail member)⟩

private theorem isDigitRun_signOf (negative : Bool) (all : ∀ c ∈ digits, c.isDigit)
    (nonempty : digits ≠ []) : isDigitRun (signOf negative ++ digits) := by
  have run : (!digits.isEmpty && digits.all Char.isDigit) = true := by
    rw [Bool.and_eq_true, List.all_eq_true]
    exact ⟨by simpa using nonempty, all⟩
  cases negative with
  | true => exact run
  | false =>
    have plain : isDigitRun digits = (!digits.isEmpty && digits.all Char.isDigit) := by
      unfold isDigitRun
      dsimp only
      split
      · exact absurd (all '+' (List.mem_cons_self ..)) (by decide)
      · exact absurd (all '-' (List.mem_cons_self ..)) (by decide)
      · rfl
    exact plain.trans run

private theorem magnitudeWithin_eq {limit value n : Nat} {beyond : IntegerFault}
    (read : magnitudeWithin limit beyond value digits = .ok n) :
    n = digits.foldl (fun value c => value * 10 + digitValue c) value := by
  induction digits generalizing value with
  | nil =>
    cases read
    rfl
  | cons c rest ih =>
    rw [magnitudeWithin] at read
    split_ifs at read
    exact ih read

/-- An integer that is read from the digits of one is that one. -/
theorem eq_of_signed?_chars {whole other : Int}
    (read : signed? (Number.chars (.integer whole)) = some other) : other = whole := by
  have all : ∀ c ∈ Nat.toDigits 10 whole.natAbs, c.isDigit := fun c => isDigit_of_mem_toDigits
  have value {limit n : Nat} {beyond : IntegerFault}
      (read : magnitudeWithin limit beyond 0 (Nat.toDigits 10 whole.natAbs) = .ok n) : n = whole.natAbs :=
    (magnitudeWithin_eq read).trans (digitsValue_toDigits _)
  rw [Number.chars_integer] at read
  generalize Nat.toDigits 10 whole.natAbs = digits at all value read
  rw [signed?] at read
  have stands : signed (signOf (whole < 0) ++ digits) = .ok other := by
    cases parsed : signed (signOf (whole < 0) ++ digits) with
    | error fault =>
      rw [parsed] at read
      cases read
    | ok result =>
      rw [parsed] at read
      cases read
      rfl
  by_cases negative : whole < 0
  · rw [signOf, if_pos (decide_eq_true negative), List.singleton_append] at stands
    unfold signed at stands
    split at stands
    · cases stands
    · cases stands
    · cases stands
    · next different => cases different
    · next rest same =>
      cases same
      obtain ⟨n, magnitude, rfl⟩ := except_map_eq_ok.mp stands
      have same := value magnitude
      omega
    · next other =>
      exact absurd rfl (other digits)
  · rw [signOf, if_neg (by simpa using negative), List.nil_append] at stands
    unfold signed at stands
    split at stands
    · cases stands
    · cases stands
    · cases stands
    · exact absurd (all '+' (List.mem_cons_self ..)) (by decide)
    · exact absurd (all '-' (List.mem_cons_self ..)) (by decide)
    · obtain ⟨_, lifted, rfl⟩ := except_map_eq_ok.mp stands
      obtain ⟨n, magnitude, ⟨⟩⟩ := except_bind_eq_ok.mp lifted
      have same := value magnitude
      omega

end Text

/-- An address of a resource starts with its scheme, a colon and slashes. -/
theorem Url.exists_of_scheme? {text scheme : String} (read : Url.scheme? text = some scheme) :
    ∃ rest, text.toList = scheme.toList ++ ':' :: '/' :: '/' :: rest ∧ Url.isScheme scheme.toList := by
  have whole := text.toList.takeWhile_append_dropWhile (p := (· != ':'))
  rw [Url.scheme?] at read
  split at read
  · next rest same =>
    split_ifs at read with known
    cases read
    rw [Bool.and_eq_true] at known
    rw [String.toList_ofList]
    exact ⟨rest, by rw [← same, whole], known.1⟩
  · cases read

private theorem Url.at_not_mem_of_isScheme {scheme : List Char} (known : Url.isScheme scheme) :
    '@' ∉ scheme := by
  intro member
  cases scheme with
  | nil => cases member
  | cons first rest =>
    rw [Url.isScheme, Bool.and_eq_true, List.all_eq_true] at known
    rcases List.mem_cons.mp member with rfl | later
    · exact absurd known.1 (by decide)
    · exact absurd (known.2 '@' later) (by decide)

namespace ValueType

/-- A built-in type with its default options takes the text. -/
def Takes (type : BuiltinType) (text : String) : Prop :=
  validateBuiltin type type.defaultOptions (.string text)

variable {text : String}

private theorem trimmed?_of_trim (trimmed : Text.trim text = text) :
    Reading.trimmed? (.string text) = some text := congrArg some trimmed

private theorem uuid_of_takes (trimmed : Text.trim text = text) (takes : Takes .uuid text) :
    32 ≤ text.toList.length ∧ (∀ c ∈ text.toList, Uuid.IsPart c ∨ Uuid.IsWrapping c) ∧
      (¬Uuid.IsWrapped text.toList → ∀ c ∈ text.toList, Uuid.IsPart c) := by
  have taken : (Reading.uuid? BuiltinType.uuid.defaultOptions (.string text)).isSome := takes
  obtain ⟨uuid, read⟩ := Option.isSome_iff_exists.mp taken
  obtain ⟨known, -⟩ := Option.filter_eq_some_iff.mp read
  rw [trimmed?_of_trim trimmed, Option.bind_some] at known
  exact (Uuid.ofChars?_eq_some known).2

private theorem email_of_takes (trimmed : Text.trim text = text) (takes : Takes .email text) :
    Email.isValid text := by
  have taken : (Reading.email? (.string text)).isSome := takes
  obtain ⟨mail, read⟩ := Option.isSome_iff_exists.mp taken
  obtain ⟨known, valid⟩ := Option.filter_eq_some_iff.mp read
  cases (trimmed?_of_trim trimmed).symm.trans known
  exact valid

private theorem mem_of_isValid (valid : Email.isValid text) : '@' ∈ text.toList := by
  obtain ⟨front, domain, whole, -⟩ := Email.isValid_iff.mp valid
  rw [whole]
  exact List.mem_append_right _ (List.mem_cons_self ..)

/-- An address of a resource starts with a scheme, a colon and slashes. -/
theorem url_of_takes (trimmed : Text.trim text = text) (takes : Takes .url text) :
    ∃ scheme rest, text.toList = scheme ++ ':' :: '/' :: '/' :: rest ∧ Url.isScheme scheme := by
  have taken : (Reading.url? BuiltinType.url.defaultOptions (.string text)).isSome := takes
  obtain ⟨url, read⟩ := Option.isSome_iff_exists.mp taken
  obtain ⟨known, admitted⟩ := Option.filter_eq_some_iff.mp read
  cases (trimmed?_of_trim trimmed).symm.trans known
  rw [Option.any_eq_true] at admitted
  obtain ⟨scheme, stands, -⟩ := admitted
  obtain ⟨rest, whole, known⟩ := Url.exists_of_scheme? stands
  exact ⟨_, rest, whole, known⟩

private theorem moment_of_takes (trimmed : Text.trim text = text) (takes : Takes .datetime text) :
    '-' ∈ text.toList ∧ ':' ∈ text.toList := by
  have taken : (Reading.moment? BuiltinType.datetime.defaultOptions (.string text)).isSome := takes
  obtain ⟨moment, read⟩ := Option.isSome_iff_exists.mp taken
  rw [Reading.moment?, trimmed?_of_trim trimmed, Option.bind_some] at read
  split at read
  · next known => exact ZonedDateTime.mem_of_read? known
  · obtain ⟨plain, known, -⟩ := Option.map_eq_some_iff.mp read
    rw [layout_moment] at known
    obtain ⟨fields, filled, -⟩ := Option.bind_eq_some_iff.mp known
    exact ⟨Fields.mem_of_read? (by decide) filled, Fields.mem_of_read? (by decide) filled⟩

private theorem date_of_takes (trimmed : Text.trim text = text) (takes : Takes .date text) :
    '-' ∈ text.toList := by
  have taken : (Reading.date? BuiltinType.date.defaultOptions (.string text)).isSome := takes
  obtain ⟨date, read⟩ := Option.isSome_iff_exists.mp taken
  rw [Reading.date?, trimmed?_of_trim trimmed, Option.bind_some, layout_date] at read
  obtain ⟨fields, filled, -⟩ := Option.bind_eq_some_iff.mp read
  exact Fields.mem_of_read? (by decide) filled

private theorem time_of_takes (trimmed : Text.trim text = text) (takes : Takes .time text) :
    Fields.SingleColons text.toList := by
  have taken : (Reading.time? BuiltinType.time.defaultOptions (.string text)).isSome := takes
  obtain ⟨time, read⟩ := Option.isSome_iff_exists.mp taken
  rw [Reading.time?, trimmed?_of_trim trimmed, Option.bind_some, layout_time] at read
  rcases option_orElse_eq_some read with known | known
  · obtain ⟨fields, filled, -⟩ := Option.bind_eq_some_iff.mp known
    exact Fields.singleColons_of_read? (.inl rfl) filled
  · obtain ⟨fields, filled, -⟩ := Option.bind_eq_some_iff.mp known
    exact Fields.singleColons_of_read? (.inr rfl) filled

private theorem not_takes_uuid (trimmed : Text.trim text = text) {c : Char} (member : c ∈ text.toList)
    (other : ¬(Uuid.IsPart c ∨ Uuid.IsWrapping c)) : ¬Takes .uuid text :=
  fun takes => other ((uuid_of_takes trimmed takes).2.1 c member)

private theorem not_takes_uuid_of_colon (trimmed : Text.trim text = text) (colon : ':' ∈ text.toList)
    (bare : ¬Uuid.IsWrapped text.toList) : ¬Takes .uuid text := by
  intro takes
  have foreign : ¬Uuid.IsPart ':' := by decide
  exact foreign ((uuid_of_takes trimmed takes).2.2 bare ':' colon)

private theorem not_takes_email (trimmed : Text.trim text = text) (none : '@' ∉ text.toList) :
    ¬Takes .email text :=
  fun takes => none (mem_of_isValid (email_of_takes trimmed takes))

private theorem not_takes_url (trimmed : Text.trim text = text) (none : '/' ∉ text.toList) :
    ¬Takes .url text := by
  intro takes
  obtain ⟨scheme, rest, whole, -⟩ := url_of_takes trimmed takes
  apply none
  rw [whole]
  exact List.mem_append_right _ (List.mem_cons_of_mem _ (List.mem_cons_self ..))

/-- The character may stand in a date, a time of day, a moment or a network address. -/
def IsPlainPart (c : Char) : Prop := (Document.hexDigit? c).isSome ∨ IsMomentPart c ∨ c = ' '

instance (c : Char) : Decidable (IsPlainPart c) := inferInstanceAs (Decidable (_ ∨ _ ∨ _))

private theorem IsPlainPart.of_isDigit {c : Char} (digit : c.isDigit) :
    IsPlainPart c := .inr (.inl (.of_isDigit digit))

private theorem IsPlainPart.not_wraps {c : Char} (part : IsPlainPart c) :
    ¬(c.toLower = 'u' ∨ c = '\x7b') := by
  rcases part with digit | moment | rfl
  · exact Document.not_wraps_of_hexDigit? digit
  · have checked : ∀ code < 0x7F, IsMomentPart (Char.ofNat code) →
        ¬((Char.ofNat code).toLower = 'u' ∨ Char.ofNat code = '\x7b') := by decide
    exact moment.isPrintable.check
      (motive := fun c => IsMomentPart c → ¬(c.toLower = 'u' ∨ c = '\x7b')) checked moment
  · decide

/-- A text of such characters is no mail address and no address of a resource, and with a colon no
identifier. -/
theorem not_takes_of_isPlainPart (trimmed : Text.trim text = text) (all : ∀ c ∈ text.toList, IsPlainPart c) :
    ¬Takes .email text ∧ ¬Takes .url text ∧ (':' ∈ text.toList → ¬Takes .uuid text) := by
  have other {c : Char} (foreign : ¬IsPlainPart c) : c ∉ text.toList := fun member => foreign (all c member)
  refine ⟨not_takes_email trimmed (other (by decide)), not_takes_url trimmed (other (by decide)),
    fun colon => not_takes_uuid_of_colon trimmed colon ?_⟩
  rintro ⟨c, first, wraps⟩
  exact (all c (List.mem_of_head? first)).not_wraps wraps

/-- The types that are tried on a text, in this order. -/
def tried : List BuiltinType := BuiltinType.all.filter BuiltinType.isGuessable

/-- The types that are tried before another one. -/
def earlier (type : BuiltinType) : List BuiltinType := tried.takeWhile (· != type)

private theorem exists_later {type : BuiltinType} (guessable : type.isGuessable) :
    ∃ later, tried = earlier type ++ type :: later := by
  cases type <;> first | exact ⟨_, rfl⟩ | cases guessable

private theorem guessable_builtin : TypeRegistry.builtin.guessable = tried.map (ofBuiltin · []) := rfl

private theorem get_builtin (type : BuiltinType) :
    TypeRegistry.builtin.get type.name = .ok (ofBuiltin type []) := by
  cases type <;> rfl

private theorem not_isWideInteger (trimmed : Text.trim text = text)
    (foreign : (∃ c ∈ text.toList, ¬Layout.IsSigned c) ∨ ∃ c ∈ text.toList.tail, ¬c.isDigit) :
    ¬TypeRegistry.isWideInteger text := by
  intro wide
  rw [TypeRegistry.isWideInteger, Bool.and_eq_true,
    Text.trimChars_of_isTrimmed (Text.trim_eq_self_iff.mp trimmed)] at wide
  obtain ⟨signed, digits⟩ := Text.isSigned_of_isDigitRun wide.1
  rcases foreign with ⟨c, member, other⟩ | ⟨c, member, other⟩
  · exact other (signed c member)
  · exact other (digits c member)

/-- The type that is guessed for a text is the first one that takes it. -/
theorem guess_of_first {type : BuiltinType} (guessable : type.isGuessable)
    (narrow : ¬TypeRegistry.isWideInteger text) (untaken : ∀ other ∈ earlier type, ¬Takes other text)
    (taken : Takes type text) :
    TypeRegistry.builtin.guess (.string text) = .ok (ofBuiltin type []) := by
  obtain ⟨later, split⟩ := exists_later guessable
  have none : (earlier type).find? (fun other => (ofBuiltin other []).validate (.string text)) = none := by
    rw [List.find?_eq_none]
    intro other member
    rw [validate_ofBuiltin]
    exact untaken other member
  have taken : (ofBuiltin type []).validate (.string text) = true := (validate_ofBuiltin _ _).trans taken
  have found :
      TypeRegistry.builtin.guessable.find? (fun type => RegisteredType.validate type (.string text)) =
        some (ofBuiltin type []) := by
    rw [guessable_builtin, split, List.find?_map, List.find?_append]
    change Option.map _ (((earlier type).find? fun other => (ofBuiltin other []).validate (.string text)).or _) = _
    rw [none, Option.none_or, List.find?_cons_of_pos]
    · rfl
    · exact taken
  rw [TypeRegistry.guess, if_neg narrow, TypeRegistry.guessText, found]

variable {chars : List Char}

private theorem guess_uuid {uuid : Uuid} (sound : uuid.Sound) :
    TypeRegistry.builtin.guess (.string uuid.text) = .ok (ofBuiltin .uuid []) := by
  obtain ⟨a, b, c, d, e, ⟨whole, length, -⟩, -⟩ := Uuid.exists_grouping_chars sound
  have trimmed := Text.trim_ofList
    (Text.isTrimmed_of_isPrintable fun c member => ((Uuid.isPart_of_mem_chars sound).2 c member).isPrintable)
  have hyphen : '-' ∈ uuid.text.toList.tail := by
    rw [Uuid.text, String.toList_ofList, whole]
    cases a with
    | nil => cases length
    | cons first rest => exact List.mem_append_right _ (List.mem_cons_self ..)
  exact guess_of_first rfl
    (not_isWideInteger trimmed (.inr ⟨'-', hyphen, by decide⟩)) (List.forall_mem_nil _)
    (IsCanonical.uuid sound).validateBuiltin

private theorem guess_email (valid : Email.isValid text) (lowered : Text.lower text = text) :
    TypeRegistry.builtin.guess (.string text) = .ok (ofBuiltin .email []) := by
  have trimmed : Text.trim text = text :=
    Text.trim_eq_self_iff.mpr (Text.isTrimmed_of_isPrintable (Email.isPrintable_of_mem valid))
  have sign := mem_of_isValid valid
  exact guess_of_first rfl
    (not_isWideInteger trimmed (.inl ⟨'@', sign, by decide⟩))
    (List.forall_mem_singleton.mpr (not_takes_uuid trimmed sign (by decide)))
    (IsCanonical.email valid lowered).validateBuiltin

/-- The scheme of an address of a resource ends before any at sign, in a colon. -/
theorem guess_url (trimmed : Text.trim text = text) (takes : Takes .url text) :
    TypeRegistry.builtin.guess (.string text) = .ok (ofBuiltin .url []) := by
  obtain ⟨scheme, rest, whole, known⟩ := url_of_takes trimmed takes
  have colon : ':' ∈ text.toList := by
    rw [whole]
    exact List.mem_append_right _ (List.mem_cons_self ..)
  have slash : '/' ∈ text.toList := by
    rw [whole]
    exact List.mem_append_right _ (List.mem_cons_of_mem _ (List.mem_cons_self ..))
  have mail : ¬Takes .email text := by
    intro takes
    obtain ⟨front, domain, whole', known', -⟩ := Email.isValid_iff.mp (email_of_takes trimmed takes)
    have noColon : ':' ∉ front := fun member =>
      absurd ((Email.isLocalPart_iff.mp known').2 ':' member) (by decide)
    have noSign := Url.at_not_mem_of_isScheme known
    rcases List.append_eq_append_iff.mp (whole.symm.trans whole') with
      ⟨between, rfl, rest'⟩ | ⟨between, rfl, rest'⟩
    · cases between with
      | nil => cases rest'
      | cons first between =>
        obtain rfl : ':' = first := (List.cons.inj rest').1
        exact noColon (List.mem_append_right _ (List.mem_cons_self ..))
    · cases between with
      | nil => cases rest'
      | cons first between =>
        obtain rfl : '@' = first := (List.cons.inj rest').1
        exact noSign (List.mem_append_right _ (List.mem_cons_self ..))
  refine guess_of_first rfl
    (not_isWideInteger trimmed (.inl ⟨':', colon, by decide⟩)) ?_ takes
  rw [(by decide : earlier .url = [.uuid, .email]), List.forall_mem_cons, List.forall_mem_singleton]
  exact ⟨not_takes_uuid trimmed slash (by decide), mail⟩

private theorem guess_moment (trimmed : Text.trim text = text) (all : ∀ c ∈ text.toList, IsPlainPart c)
    (colon : ':' ∈ text.toList) (takes : Takes .datetime text) :
    TypeRegistry.builtin.guess (.string text) = .ok (ofBuiltin .datetime []) := by
  obtain ⟨mail, url, uuid⟩ := not_takes_of_isPlainPart trimmed all
  refine guess_of_first rfl
    (not_isWideInteger trimmed (.inl ⟨':', colon, by decide⟩)) ?_ takes
  rw [(by decide : earlier .datetime = [.uuid, .email, .url])]
  simp only [List.forall_mem_cons]
  exact ⟨uuid colon, mail, url, List.forall_mem_nil _⟩

private theorem length_isoChars_lt {date : Date} (valid : date.isValid) :
    date.isoChars.length < 32 := by
  obtain ⟨known, ⟨-, december⟩, -, last⟩ := Date.isValid_iff.mp valid
  rw [Date.isYear, Bool.and_eq_true, decide_eq_true_iff, decide_eq_true_iff] at known
  have range : -262143 ≤ date.year ∧ date.year ≤ 262142 := known
  have days := Date.daysInMonth_le date.year date.month
  have digits : (Nat.toDigits 10 date.year.natAbs).length ≤ 6 :=
    (Nat.length_toDigits_le_iff (by decide) (by decide)).mpr (by omega)
  have year : (Layout.yearChars .zeros date.year).length ≤ 7 := by
    have filled : (Layout.filled .zeros 4 (Nat.toDigits 10 date.year.natAbs)).length ≤ 6 := by
      rw [Layout.filled, List.length_append, List.length_replicate]
      omega
    rcases Layout.yearChars_zeros date.year with ⟨-, -, same⟩ | ⟨-, same⟩ | ⟨-, same⟩ <;> rw [same]
    · omega
    all_goals exact Nat.succ_le_succ filled
  have month := @Layout.length_pairChars date.month (by omega)
  have day := @Layout.length_pairChars date.day (by omega)
  simp only [Date.isoChars, List.length_append, List.length_cons, month, day]
  omega

private theorem guess_date {date : Date} (valid : date.isValid) :
    TypeRegistry.builtin.guess (.string (.ofList date.isoChars)) = .ok (ofBuiltin .date []) := by
  have signed := Date.isSigned_of_mem_isoChars valid
  have trimmed := Text.trim_ofList (Text.isTrimmed_of_isPrintable fun c member =>
    (IsMomentPart.of_isSigned (signed c member)).isPrintable)
  have short := length_isoChars_lt valid
  have hyphen : '-' ∈ date.isoChars.tail := by
    rw [Date.isoChars]
    cases year : Layout.yearChars .zeros date.year with
    | nil => exact absurd year (Layout.yearChars_ne_nil _)
    | cons first rest => exact List.mem_append_right _ (List.mem_cons_self ..)
  have takes : Takes .date (.ofList date.isoChars) := (IsCanonical.date valid).validateBuiltin
  have toList := String.toList_ofList (l := date.isoChars)
  have colon : ':' ∉ date.isoChars := fun member => absurd (signed ':' member) (by decide)
  rw [← toList] at signed short hyphen colon
  generalize String.ofList date.isoChars = text at signed trimmed short hyphen takes colon ⊢
  obtain ⟨mail, url, -⟩ := not_takes_of_isPlainPart trimmed fun c member => .inr (.inl (.inl (signed c member)))
  refine guess_of_first rfl
    (not_isWideInteger trimmed (.inr ⟨'-', hyphen, by decide⟩)) ?_ takes
  rw [(by decide : earlier .date = [.uuid, .email, .url, .datetime])]
  simp only [List.forall_mem_cons]
  exact ⟨fun takes => Nat.not_le.mpr short (uuid_of_takes trimmed takes).1, mail, url,
    fun takes => colon (moment_of_takes trimmed takes).2, List.forall_mem_nil _⟩

private theorem guess_time (trimmed : Text.trim text = text)
    (all : ∀ c ∈ text.toList, c.isDigit ∨ c = ':')
    (colon : ':' ∈ text.toList) (takes : Takes .time text) :
    TypeRegistry.builtin.guess (.string text) = .ok (ofBuiltin .time []) := by
  obtain ⟨mail, url, uuid⟩ := not_takes_of_isPlainPart trimmed fun c member => by
    rcases all c member with digit | rfl
    · exact .of_isDigit digit
    · decide
  have hyphen : '-' ∉ text.toList := fun member => absurd (all '-' member) (by decide)
  refine guess_of_first rfl
    (not_isWideInteger trimmed (.inl ⟨':', colon, by decide⟩)) ?_ takes
  rw [(by decide : earlier .time = [.uuid, .email, .url, .datetime, .date])]
  simp only [List.forall_mem_cons]
  exact ⟨uuid colon, mail, url, fun takes => hyphen (moment_of_takes trimmed takes).1,
    fun takes => hyphen (date_of_takes trimmed takes), List.forall_mem_nil _⟩

/-- An address of version 4 has no colons, and one of version 6 has more than a time of day. -/
theorem colons_of_sound {address : Address} (sound : address.Sound) :
    ('.' ∈ address.chars ∧ ':' ∉ address.chars) ∨
      (':' ∈ address.chars ∧ ¬Fields.SingleColons address.chars) := by
  cases address with
  | v4 octets =>
    left
    obtain ⟨a, b, c, d, rfl⟩ := List.length_eq_four.mp (And.left sound)
    refine ⟨?_, fun member => ?_⟩
    · simp [Address.chars_v4, Address.octetChars_eq]
    · exact absurd (Address.isDigit_or_of_mem_octetChars ':' member) (by decide)
  | v6 groups =>
    right
    rcases Address.colons_of_chars (And.left sound) with double | many
    · exact ⟨double.subset (List.mem_cons_self ..), fun single => single.apart double⟩
    · exact ⟨List.count_pos_iff.mp (Nat.lt_of_lt_of_le (by decide) many), fun single => by
        have few := single.few
        omega⟩

private theorem guess_address {address : Address} (sound : address.Sound) :
    TypeRegistry.builtin.guess (.string address.text) = .ok (ofBuiltin .ip []) := by
  have trimmed := Text.trim_ofList (Text.isTrimmed_of_isPrintable address.isPrintable_of_mem_chars)
  have takes : Takes .ip address.text := (IsCanonical.ip sound).validateBuiltin
  have colons := colons_of_sound sound
  have parts := address.isPart_of_mem_chars
  rw [Address.text] at takes ⊢
  rw [← String.toList_ofList (l := address.chars)] at colons parts
  generalize String.ofList address.chars = text at trimmed takes colons parts ⊢
  have all : ∀ c ∈ text.toList, IsPlainPart c := by
    intro c member
    rcases parts c member with digit | rfl | rfl
    · exact .inl digit
    · decide
    · decide
  obtain ⟨mail, url, uuid⟩ := not_takes_of_isPlainPart trimmed all
  have hyphen : '-' ∉ text.toList := fun member => absurd (parts '-' member) (by decide)
  have before (uuid : ¬Takes .uuid text) (time : ¬Takes .time text) :
      ∀ other ∈ earlier .ip, ¬Takes other text := by
    rw [(by decide : earlier .ip = [.uuid, .email, .url, .datetime, .date, .time])]
    simp only [List.forall_mem_cons]
    exact ⟨uuid, mail, url, fun takes => hyphen (moment_of_takes trimmed takes).1,
      fun takes => hyphen (date_of_takes trimmed takes), time, List.forall_mem_nil _⟩
  rcases colons with ⟨point, none⟩ | ⟨colon, several⟩
  · exact guess_of_first rfl (not_isWideInteger trimmed (.inl ⟨'.', point, by decide⟩))
      (before (not_takes_uuid trimmed point (by decide)) fun takes => none (time_of_takes trimmed takes).some)
      takes
  · exact guess_of_first rfl (not_isWideInteger trimmed (.inl ⟨':', colon, by decide⟩))
      (before (uuid colon) fun takes => several (time_of_takes trimmed takes)) takes

/-- A canonical value of a type that is tried on texts is guessed to be of that type. -/
theorem IsCanonical.guess {type : BuiltinType} {value : Document} (canonical : IsCanonical type value)
    (guessable : type.isGuessable) : TypeRegistry.builtin.guess value = .ok (ofBuiltin type []) := by
  have taken := canonical.validateBuiltin
  cases canonical with
  | text | hostname | array | object => cases guessable
  | float number => rfl
  | boolean flag => rfl
  | @integer whole fits =>
    rw [Document.ofInt, TypeRegistry.guess, if_pos fits]
    rfl
  | uuid sound => exact guess_uuid sound
  | email valid lowered => exact guess_email valid lowered
  | url trimmed admitted => exact guess_url trimmed taken
  | ip sound => exact guess_address sound
  | date valid => exact guess_date valid
  | @zoned zoned sound =>
    have parts := ZonedDateTime.isMomentPart_of_mem_chars sound
    apply guess_moment (Text.trim_ofList (Text.isTrimmed_of_isPrintable fun c member =>
      (parts c member).isPrintable)) _ _ taken
    · rw [String.toList_ofList]
      exact fun c member => .inr (.inl (parts c member))
    · rw [String.toList_ofList, ZonedDateTime.chars_eq]
      simp [Time.clockChars]
  | @moment moment sound =>
    apply guess_moment (Text.trim_ofList (DateTime.isTrimmed_chars sound)) _ _ taken
    · rw [String.toList_ofList]
      exact fun c member => .inr (DateTime.mem_chars sound c member)
    · simp [DateTime.chars, Time.clockChars]
  | @time time sound =>
    have parts := Time.isMomentPart_of_mem_clockChars sound
    apply guess_time (Text.trim_ofList (Text.isTrimmed_of_isPrintable fun c member =>
      (parts c member).isPrintable)) _ _ taken
    · rw [String.toList_ofList]
      exact Time.isDigit_or_of_mem_clockChars sound
    · simp [Time.clockChars]

/-- A text is guessed to be text unless some other type takes it. -/
theorem guess_string (text : String) :
    TypeRegistry.builtin.guess (.string text) = .ok (ofBuiltin .text []) ∨
      ∃ type : BuiltinType, type.isGuessable ∧ Takes type text ∧
        TypeRegistry.builtin.guess (.string text) = .ok (ofBuiltin type []) := by
  rw [TypeRegistry.guess]
  split_ifs with wide
  · exact .inl (get_builtin .text)
  · rw [TypeRegistry.guessText, guessable_builtin, List.find?_map]
    cases found : tried.find? ((fun type => type.validate (.string text)) ∘ (ofBuiltin · [])) with
    | none => exact .inl (get_builtin .text)
    | some type =>
      right
      have taken := List.find?_some found
      rw [Function.comp_apply, validate_ofBuiltin] at taken
      exact ⟨type, (List.mem_filter.mp (List.mem_of_find?_eq_some found)).2, taken, rfl⟩

/-- A type with its default options casts the texts that it takes. -/
theorem exists_castBuiltin {type : BuiltinType} (takes : Takes type text) :
    ∃ result, castBuiltin type type.defaultOptions (.string text) = .ok result := by
  have settles {cast : Except TypeError Document} (never : ∀ fault, cast ≠ .error fault) :
      ∃ result, cast = .ok result := by
    cases cast with
    | error fault => exact absurd rfl (never fault)
    | ok result => exact ⟨result, rfl⟩
  by_cases date : type = .date
  · subst date
    refine settles fun fault fails => ?_
    have loses : ¬(Layout.ofText (Reading.format .date _)).isWritable true false :=
      ((castDate_eq_error_iff takes).mp fails).1
    rw [layout_date] at loses
    exact loses (by decide)
  by_cases datetime : type = .datetime
  · subst datetime
    refine settles fun fault fails => ?_
    have loses : ¬(Layout.ofText (Reading.format .datetime _)).isWritable true true :=
      ((castMoment_eq_error_iff takes).mp fails).1.2
    rw [layout_moment] at loses
    exact loses (by decide)
  by_cases time : type = .time
  · subst time
    refine settles fun fault fails => ?_
    have loses : ¬(Layout.ofText (Reading.format .time _)).isWritable false true :=
      ((castTime_eq_error_iff takes).mp fails).1
    rw [layout_time] at loses
    exact loses (by decide)
  by_cases float : type = .float
  · subst float
    refine settles fun fault fails => ?_
    have wellFormed : Document.wellFormed (.string text) := rfl
    obtain ⟨places, precise, -⟩ := ((castFloat_eq_error_iff wellFormed takes).mp fails).1
    cases precise
  exact castBuiltin_eq_ok takes date datetime time float

/-- The digits of an integer too large for a signed word are kept as text. -/
theorem isWideInteger_text {whole : Int} (wide : ¬fitsSigned whole) :
    TypeRegistry.isWideInteger (Number.text (.integer whole)) := by
  have numeral : ∀ c ∈ Number.chars (.integer whole), Text.isNumeral c := by
    rw [Number.chars_integer, List.forall_mem_append]
    exact ⟨Binary64.isNumeral_of_mem_signOf _, Binary64.isNumeral_of_mem_toDigits⟩
  have trimmed := Text.trimChars_of_isNumeral numeral
  have run : Text.isDigitRun (Number.chars (.integer whole)) := by
    rw [Number.chars_integer]
    exact Text.isDigitRun_signOf _ (fun c => isDigit_of_mem_toDigits) Nat.toDigits_ne_nil
  rw [TypeRegistry.isWideInteger, Number.text, String.toList_ofList, trimmed, Bool.and_eq_true,
    Option.isNone_iff_eq_none]
  refine ⟨run, ?_⟩
  cases read : Text.signed? (Number.chars (.integer whole)) with
  | none => rfl
  | some other =>
    have fits := Text.fitsSigned_of_signed? read
    rw [Text.eq_of_signed?_chars read] at fits
    exact absurd fits wide

/-- Every value but null has a guessed type, which casts it to a value that the same type is guessed
for. -/
theorem guess_cast {value : Document} (filled : value ≠ .null) :
    ∃ type result, TypeRegistry.builtin.guess value = .ok type ∧ type.cast value = .ok result ∧
      TypeRegistry.builtin.guess result = .ok type := by
  have settled (type : BuiltinType) {result : Document}
      (guessed : TypeRegistry.builtin.guess value = .ok (ofBuiltin type []))
      (casts : castBuiltin type type.defaultOptions value = .ok result)
      (again : TypeRegistry.builtin.guess result = .ok (ofBuiltin type [])) :
      ∃ type result, TypeRegistry.builtin.guess value = .ok type ∧ type.cast value = .ok result ∧
        TypeRegistry.builtin.guess result = .ok type :=
    ⟨ofBuiltin type [], result, guessed, (cast_ofBuiltin _ _).trans casts, again⟩
  cases value with
  | null => exact absurd rfl filled
  | bool flag => exact settled .boolean rfl rfl rfl
  | array items => exact settled .array rfl rfl rfl
  | object members => exact settled .object rfl rfl rfl
  | number number =>
    cases number with
    | real x => exact settled .float rfl rfl rfl
    | integer whole =>
      by_cases fits : fitsSigned whole
      · have guessed := (IsCanonical.integer fits).guess rfl
        exact settled .integer guessed (IsCanonical.integer fits).castBuiltin guessed
      · have guessed : TypeRegistry.builtin.guess (.number (.integer whole)) = .ok (ofBuiltin .text []) := by
          rw [TypeRegistry.guess, if_neg fits]
          exact get_builtin .text
        have again : TypeRegistry.builtin.guess (.string (Number.text (.integer whole))) =
            .ok (ofBuiltin .text []) := by
          rw [TypeRegistry.guess, if_pos (isWideInteger_text fits)]
          exact get_builtin .text
        exact settled .text guessed rfl again
  | string text =>
    rcases guess_string text with guessed | ⟨type, guessable, takes, guessed⟩
    · exact settled .text guessed rfl guessed
    · obtain ⟨result, casts⟩ := exists_castBuiltin takes
      exact settled type guessed casts ((isCanonical_of_castBuiltin casts).guess guessable)

/-- An address of version 6 is shortened until it looks much like a time of day, and stays an
address. -/
theorem guess_cast_address :
    let value := Document.string " 0:0:0:0:0:0:12:30 "
    (TypeRegistry.builtin.guess value).toOption.map ValueType.name = some "ip" ∧ value ≠ .null ∧
      ∃ type result, TypeRegistry.builtin.guess value = .ok type ∧ type.cast value = .ok result ∧
        TypeRegistry.builtin.guess result = .ok type :=
  ⟨by decide +kernel, nofun, guess_cast nofun⟩

end ValueType

end Intake
