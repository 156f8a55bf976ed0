import Intake.Proofs.Document.NumberText
import Intake.Proofs.Document.Writing
import Mathlib.Data.List.Chain

/-! # Documents told apart by their text

No two documents have the same text. A number is written in characters that start no other token, and
no two numbers follow each other, so the text of a document tells where each of its tokens ends, and
the tokens tell the document. The text thus also tells apart two documents that are the same up to the
order of members: those in which the members of an object come in another order, or a zero has another
sign.
-/

namespace Intake

open Text (isNumeral signOf)

private theorem Binary64.mark_mem_positional (digits : List Char) (point : Int) :
    '.' ∈ positional digits point := by
  rw [positional]
  split_ifs <;> simp

private theorem Binary64.mark_mem_scientific (layout : Layout) (digits : List Char) (exponent : Int) :
    'e' ∈ scientific layout digits exponent := by
  simp [scientific]

/-- In the text of a binary64 number stands a point or an exponent. -/
theorem Binary64.exists_mark_mem_render (layout : Layout) (x : Binary64) :
    ∃ mark ∈ x.render layout, mark = '.' ∨ mark = 'e' := by
  rw [render, ← signOf]
  split_ifs
  · exact ⟨'.', by simp, .inl rfl⟩
  · dsimp only
    split_ifs
    · exact ⟨'.', List.mem_append_right _ (mark_mem_positional _ _), .inl rfl⟩
    · exact ⟨'e', List.mem_append_right _ (mark_mem_scientific _ _ _), .inr rfl⟩

namespace Number

private theorem chars_integer_inj {value other : Int}
    (same : chars (.integer value) = chars (.integer other)) : value = other := by
  have digits (n : Nat) : '-' ∉ Nat.toDigits 10 n := by
    intro minus
    exact absurd (isDigit_of_mem_toDigits minus) (by decide)
  have read {n m : Nat} (same : Nat.toDigits 10 n = Nat.toDigits 10 m) : n = m := by
    rw [← digitsValue_toDigits n, same, digitsValue_toDigits]
  simp only [chars, integerChars] at same
  split_ifs at same
  · have size := read (List.cons.inj same).2
    omega
  · exact absurd (same ▸ List.mem_cons_self ..) (digits other.natAbs)
  · exact absurd (same ▸ List.mem_cons_self ..) (digits value.natAbs)
  · have size := read same
    omega

/-- No two numbers have the same text. -/
theorem chars_injective : Function.Injective chars := by
  have apart {value : Int} {x : Binary64} : chars (.integer value) ≠ chars (.real x) := by
    intro same
    obtain ⟨mark, member, spelled⟩ := x.exists_mark_mem_render layout
    have written : mark ∈ chars (.integer value) := same ▸ member
    rcases mem_chars_integer written with digit | minus
    · rcases spelled with rfl | rfl <;> exact absurd digit (by decide)
    · rcases spelled with rfl | rfl <;> exact absurd minus (by decide)
  intro number other same
  cases number with
  | integer value =>
    cases other with
    | integer other => rw [chars_integer_inj same]
    | real y => exact absurd same apart
  | real x =>
    cases other with
    | integer other => exact absurd same.symm apart
    | real y =>
      have read := Binary64.decimal?_render layout x
      have same : x.render layout = y.render layout := same
      rw [same, Binary64.decimal?_render] at read
      rw [Option.some.inj read]

private theorem isNumeral_of_mem_chars (number : Number) : ∀ c ∈ number.chars, isNumeral c := by
  cases number with
  | integer value =>
    rw [chars_integer]
    exact List.forall_mem_append.mpr
      ⟨Binary64.isNumeral_of_mem_signOf _, Binary64.isNumeral_of_mem_toDigits⟩
  | real x => exact Binary64.isNumeral_of_mem_render

private theorem chars_ne_nil (number : Number) : number.chars ≠ [] := by
  cases number with
  | integer value =>
    rw [chars_integer]
    exact List.append_ne_nil_of_right_ne_nil _ Nat.toDigits_ne_nil
  | real x =>
    obtain ⟨mark, member, -⟩ := x.exists_mark_mem_render layout
    exact List.ne_nil_of_mem member

end Number

namespace Document

namespace Token

/-- The two tokens are not both numbers. -/
def Apart (token next : Token) : Prop := token.isNumber → next.isNumber = false

/-- A token that is no number starts with none of the characters of numbers. -/
theorem head?_spelling {token : Token} (noNumber : token.isNumber = false) :
    ∃ c chars, token.spelling = c :: chars ∧ isNumeral c = false := by
  cases token with
  | number value => cases noNumber
  | bool value => cases value <;> exact ⟨_, _, rfl, rfl⟩
  | _ => exact ⟨_, _, rfl, rfl⟩

/-- What is spelled from a token that is no number is no part of a number. -/
theorem takeWhile_spelling {token : Token} (noNumber : token.isNumber = false) (rest : List Char) :
    (token.spelling ++ rest).takeWhile isNumeral = [] := by
  obtain ⟨c, chars, spelled, other⟩ := head?_spelling noNumber
  rw [spelled, List.cons_append, List.takeWhile_cons_of_neg (by simp [other])]

/-- A number ends where the next token, which is no number, starts. -/
theorem takeWhile_chars (value : Number) {tokens : List Token}
    (apart : ∀ next ∈ tokens.head?, next.isNumber = false) :
    (value.chars ++ tokens.flatMap spelling).takeWhile isNumeral = value.chars := by
  have stops : (tokens.flatMap spelling).takeWhile isNumeral = [] := by
    cases tokens with
    | nil => rfl
    | cons next tokens => exact takeWhile_spelling (apart next rfl) _
  rw [List.takeWhile_append_of_pos value.isNumeral_of_mem_chars, stops, List.append_nil]

private theorem eq_number_of_isNumber {token : Token} (number : token.isNumber) :
    ∃ value, token = .number value := by
  cases token with
  | number value => exact ⟨value, rfl⟩
  | _ => cases number

private theorem spelling_ne_nil (token : Token) : token.spelling ≠ [] := by
  cases number : token.isNumber with
  | false =>
    obtain ⟨c, chars, whole, -⟩ := head?_spelling number
    exact whole ▸ List.cons_ne_nil c chars
  | true =>
    obtain ⟨value, rfl⟩ := eq_number_of_isNumber number
    exact value.chars_ne_nil

/-- The first token is told by what it spells with the next ones. -/
theorem eq_of_spelling_append {token other : Token} {tokens others : List Token}
    (apart : ∀ next ∈ tokens.head?, Apart token next) (apart' : ∀ next ∈ others.head?, Apart other next)
    (same : token.spelling ++ tokens.flatMap spelling = other.spelling ++ others.flatMap spelling) :
    token = other ∧ tokens.flatMap spelling = others.flatMap spelling := by
  cases number : token.isNumber with
  | false =>
    cases number' : other.isNumber with
    | false =>
      -- Where neither is a number, each is cut off by itself, whatever follows.
      have cut := (isSpelled_spelling number).cut (tokens.flatMap spelling)
      rw [same, (isSpelled_spelling number').cut] at cut
      obtain ⟨rfl, rest⟩ := Prod.mk.inj (Option.some.inj cut)
      exact ⟨rfl, rest.symm⟩
    | true =>
      obtain ⟨value, rfl⟩ := eq_number_of_isNumber number'
      have digits := takeWhile_chars value fun next first => apart' next first rfl
      have same : token.spelling ++ _ = value.chars ++ _ := same
      rw [← same, takeWhile_spelling number] at digits
      exact absurd digits.symm value.chars_ne_nil
  | true =>
    obtain ⟨value, rfl⟩ := eq_number_of_isNumber number
    -- A number ends where its characters do, as no other number follows.
    have digits := takeWhile_chars value fun next first => apart next first rfl
    have same : value.chars ++ _ = other.spelling ++ _ := same
    rw [same] at digits
    cases number' : other.isNumber with
    | false =>
      rw [takeWhile_spelling number'] at digits
      exact absurd digits.symm value.chars_ne_nil
    | true =>
      obtain ⟨value', rfl⟩ := eq_number_of_isNumber number'
      have digits' := takeWhile_chars value' fun next first => apart' next first rfl
      have equal := Number.chars_injective (digits.symm.trans digits')
      subst equal
      exact ⟨rfl, List.append_cancel_left same⟩

/-- Tokens are told by what they spell, if no two numbers follow each other. -/
theorem flatMap_spelling_inj {tokens others : List Token} (apart : tokens.IsChain Apart)
    (apart' : others.IsChain Apart) (same : tokens.flatMap spelling = others.flatMap spelling) :
    tokens = others := by
  induction tokens generalizing others with
  | nil =>
    cases others with
    | nil => rfl
    | cons other others => exact absurd (List.append_eq_nil_iff.mp same.symm).1 other.spelling_ne_nil
  | cons token tokens ih =>
    cases others with
    | nil => exact absurd (List.append_eq_nil_iff.mp same).1 token.spelling_ne_nil
    | cons other others =>
      rw [List.isChain_cons] at apart apart'
      rw [List.flatMap_cons, List.flatMap_cons] at same
      obtain ⟨rfl, rest⟩ := eq_of_spelling_append apart.1 apart'.1 same
      rw [ih apart.2 apart'.2 rest]

private theorem isChain_cons {token : Token} {tokens : List Token} (noNumber : token.isNumber = false)
    (rest : tokens.IsChain Apart) : (token :: tokens).IsChain Apart := by
  refine List.isChain_cons.mpr ⟨?_, rest⟩
  intro next _ number
  rw [noNumber] at number
  cases number

private theorem isChain_append {token : Token} {tokens others : List Token}
    (noNumber : token.isNumber = false) (first : tokens.IsChain Apart) (rest : others.IsChain Apart) :
    (tokens ++ token :: others).IsChain Apart := by
  refine List.isChain_append.mpr ⟨first, isChain_cons noNumber rest, ?_⟩
  rintro last _ next ⟨⟩ _
  exact noNumber

end Token

mutual

/-- Between two numbers of a document stands another token. -/
theorem tokens_isChain : ∀ document : Document, document.tokens.IsChain Token.Apart
  | .null | .bool _ | .number _ | .string _ => List.isChain_singleton _
  | .array items =>
    Token.isChain_append rfl (Token.isChain_cons rfl (tokensOfItems_isChain items)) List.isChain_nil
  | .object members =>
    Token.isChain_append rfl (Token.isChain_cons rfl (tokensOfMembers_isChain members)) List.isChain_nil

private theorem tokensOfItems_isChain : ∀ items : List Document,
    (tokensOfItems items).IsChain Token.Apart
  | [] => List.isChain_nil
  | [item] => tokens_isChain item
  | item :: next :: items =>
    Token.isChain_append rfl (tokens_isChain item) (tokensOfItems_isChain (next :: items))

private theorem tokensOfMembers_isChain : ∀ members : Members,
    (tokensOfMembers members).IsChain Token.Apart
  | [] => List.isChain_nil
  | [(_, value)] => Token.isChain_cons rfl (Token.isChain_cons rfl (tokens_isChain value))
  | (_, value) :: next :: members =>
    Token.isChain_append rfl (Token.isChain_cons rfl (Token.isChain_cons rfl (tokens_isChain value)))
      (tokensOfMembers_isChain (next :: members))

end

/-- Documents are told by their tokens: with fuel and depth for both, the reader takes either off. -/
theorem tokens_inj {document other : Document} (same : document.tokens = other.tokens) :
    document = other := by
  have read := value?_tokens document (2 * document.tokens.length) [] le_rfl
    (le_max_left document.nesting other.nesting)
  have read' := value?_tokens other (2 * other.tokens.length) [] le_rfl
    (le_max_right document.nesting other.nesting)
  rw [same, read'] at read
  exact (Prod.mk.inj (Option.some.inj read)).1.symm

/-- No two documents have the same text. -/
theorem text_injective : Function.Injective text := by
  intro document other same
  have spelled : document.chars = other.chars := by
    rw [← String.toList_ofList (l := document.chars), ← String.toList_ofList (l := other.chars)]
    exact congrArg String.toList same
  rw [chars_eq_spelling, chars_eq_spelling] at spelled
  exact tokens_inj (Token.flatMap_spelling_inj document.tokens_isChain other.tokens_isChain spelled)

end Document

/-- Two binary64 numbers of one value and one sign are equal. -/
theorem Binary64.eq_of_sameValue {x y : Binary64} (same : x.sameValue y) (sign : x.negative = y.negative) :
    x = y := by
  have size : x.magnitude = y.magnitude := by
    rw [sameValue, beq_iff_eq, units, units, sign] at same
    split_ifs at same <;> omega
  have rank : x.rank = y.rank := magnitudeOfRank_strictMono.injective size
  obtain ⟨negative, rank, bound⟩ := x
  cases sign
  cases rank
  rfl

namespace Document

mutual

/-- Where both documents hold an object in the same place, the members come in the same order; where
both hold a binary64 number, it has the same sign. -/
def aligned : Document → Document → Bool
  | .number (.real left), .number (.real right) => left.negative == right.negative
  | .array left, .array right => alignedItems left right
  | .object left, .object right => alignedMembers left right
  | _, _ => true

/-- The items of two lists are aligned one by one. -/
def alignedItems : List Document → List Document → Bool
  | left :: lefts, right :: rights => aligned left right && alignedItems lefts rights
  | _, _ => true

/-- The members of two objects have the same keys one by one, and their values are aligned. -/
def alignedMembers : List (String × Document) → List (String × Document) → Bool
  | (key, left) :: lefts, (key', right) :: rights =>
    key == key' && aligned left right && alignedMembers lefts rights
  | _, _ => true

end

mutual

private theorem aligned_refl : ∀ document : Document, document.aligned document
  | .null | .bool _ | .number (.integer _) | .string _ => rfl
  | .number (.real _) => beq_self_eq_true _
  | .array items => alignedItems_refl items
  | .object members => alignedMembers_refl members

private theorem alignedItems_refl : ∀ items : List Document, alignedItems items items
  | [] => rfl
  | item :: items => by rw [alignedItems, aligned_refl item, alignedItems_refl items]; rfl

private theorem alignedMembers_refl : ∀ members : Members, alignedMembers members members
  | [] => rfl
  | (key, value) :: members => by
    rw [alignedMembers, aligned_refl value, alignedMembers_refl members, beq_self_eq_true]
    rfl

end

private theorem eq_of_sameNumber {value other : Number} (same : value.same other)
    (aligns : (number value).aligned (number other)) : value = other := by
  cases value with
  | integer value =>
    cases other with
    | integer other => rw [eq_of_beq same]
    | real y => cases same
  | real x =>
    cases other with
    | integer other => cases same
    | real y => rw [Binary64.eq_of_sameValue same (eq_of_beq aligns)]

private theorem keys_eq_of_alignedMembers {members others : Members}
    (size : members.length = others.length)
    (aligns : alignedMembers members others) : Members.keys members = Members.keys others := by
  induction members generalizing others with
  | nil =>
    cases others with
    | nil => rfl
    | cons other others => cases size
  | cons member members ih =>
    cases others with
    | nil => cases size
    | cons other others =>
      rw [alignedMembers, Bool.and_eq_true, Bool.and_eq_true, beq_iff_eq] at aligns
      have rest := ih (Nat.succ.inj size) aligns.2
      simp only [Members.keys, List.map_cons] at rest ⊢
      rw [aligns.1.1, rest]

mutual

/-- Documents that are the same are equal if they are aligned. -/
theorem eq_of_same : ∀ {document other : Document}, document.wellFormed → document.same other →
    document.aligned other → document = other
  | .null, other, _, same, _ => by cases other <;> first | rfl | cases same
  | .bool value, other, _, same, _ => by
    cases other with
    | bool value' => rw [eq_of_beq same]
    | _ => cases same
  | .number value, other, _, same, aligns => by
    cases other with
    | number value' => rw [eq_of_sameNumber same aligns]
    | _ => cases same
  | .string value, other, _, same, _ => by
    cases other with
    | string value' => rw [eq_of_beq same]
    | _ => cases same
  | .array items, other, sound, same, aligns => by
    cases other with
    | array others => rw [eq_of_sameItems (wellFormed_array.mp sound) same aligns]
    | _ => cases same
  | .object members, other, sound, same, aligns => by
    cases other with
    | object others =>
      obtain ⟨distinct, values⟩ := wellFormed_object.mp sound
      rw [Document.same, Bool.and_eq_true, beq_iff_eq] at same
      rw [keys_eq_of_alignedMembers same.1 aligns] at distinct
      have found : ∀ member ∈ others, Members.find? others member.1 = some member.2 :=
        fun member present => Members.find?_eq_some_of_mem distinct present
      rw [eq_of_membersWithin values same.1 same.2 aligns found]
    | _ => cases same

private theorem eq_of_sameItems : ∀ {items others : List Document}, (∀ item ∈ items, item.wellFormed) →
    sameItems items others → alignedItems items others → items = others
  | [], others, _, same, _ => by cases others <;> first | rfl | cases same
  | item :: items, others, sound, same, aligns => by
    cases others with
    | nil => cases same
    | cons other others =>
      rw [sameItems, Bool.and_eq_true] at same
      rw [alignedItems, Bool.and_eq_true] at aligns
      obtain ⟨first, rest⟩ := List.forall_mem_cons.mp sound
      rw [eq_of_same first same.1 aligns.1, eq_of_sameItems rest same.2 aligns.2]

/-- Members that are the same in an object come from its part that they are aligned with. -/
theorem eq_of_membersWithin : ∀ {members others all : Members},
    (∀ member ∈ members, member.2.wellFormed) → members.length = others.length →
    membersWithin members all → alignedMembers members others →
    (∀ member ∈ others, Members.find? all member.1 = some member.2) → members = others
  | [], others, _, _, size, _, _, _ => by
    cases others with
    | nil => rfl
    | cons other others => cases size
  | (key, value) :: members, others, all, sound, size, same, aligns, found => by
    cases others with
    | nil => cases size
    | cons other others =>
      obtain ⟨key', value'⟩ := other
      rw [alignedMembers, Bool.and_eq_true, Bool.and_eq_true, beq_iff_eq] at aligns
      obtain ⟨⟨rfl, alignsFirst⟩, alignsRest⟩ := aligns
      obtain ⟨here, later⟩ := List.forall_mem_cons.mp found
      obtain ⟨first, rest⟩ := List.forall_mem_cons.mp sound
      rw [membersWithin, here, Bool.and_eq_true] at same
      have equal : value = value' := eq_of_same first same.1 alignsFirst
      rw [equal, eq_of_membersWithin rest (Nat.succ.inj size) same.2 alignsRest later]

end

/-- Documents are equal exactly if they are the same and aligned. -/
theorem same_and_aligned_iff {document other : Document} (sound : document.wellFormed) :
    document.same other ∧ document.aligned other ↔ document = other := by
  constructor
  · exact fun ⟨same, aligns⟩ => eq_of_same sound same aligns
  · rintro rfl
    exact ⟨same_refl sound, aligned_refl document⟩

end Document

end Intake
