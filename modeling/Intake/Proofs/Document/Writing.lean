import Intake.Document.Reader
import Intake.Document.Writer
import Intake.Proofs.Document.Nesting
import Intake.Proofs.Document.WellFormed

/-! # Documents read back from their text

The text of a document spells its tokens one after the other, with nothing between them. The reader
cuts it into the same tokens, since a string is unescaped to what was escaped and every other token
says itself where it ends; numbers alone are left out here, as their end depends on what follows. From
the tokens the document is read back as far as lists and objects nest no deeper than the reader goes.
-/

namespace Intake.Document

namespace Token

/-- A token as it is written. -/
def spelling : Token → List Char
  | .openList => ['[']
  | .closeList => [']']
  | .openObject => ['\x7b']
  | .closeObject => ['\x7d']
  | .colon => [':']
  | .comma => [',']
  | .null => ['n', 'u', 'l', 'l']
  | .bool true => ['t', 'r', 'u', 'e']
  | .bool false => ['f', 'a', 'l', 's', 'e']
  | .number value => value.chars
  | .string value => quoted value

/-- The token is a number. -/
def isNumber : Token → Bool
  | .number _ => true
  | _ => false

end Token

mutual

/-- The tokens of a document. -/
def tokens : Document → List Token
  | .null => [.null]
  | .bool value => [.bool value]
  | .number value => [.number value]
  | .string value => [.string value]
  | .array items => .openList :: tokensOfItems items ++ [.closeList]
  | .object members => .openObject :: tokensOfMembers members ++ [.closeObject]

/-- The tokens of the items of a list, with commas between the items. -/
def tokensOfItems : List Document → List Token
  | [] => []
  | [item] => tokens item
  | item :: items => tokens item ++ .comma :: tokensOfItems items

/-- The tokens of the members of an object, with commas between the members. -/
def tokensOfMembers : List (String × Document) → List Token
  | [] => []
  | [(key, value)] => .string key :: .colon :: tokens value
  | (key, value) :: members => .string key :: .colon :: tokens value ++ .comma :: tokensOfMembers members

end

mutual

/-- The text of a document spells its tokens. -/
theorem chars_eq_spelling : ∀ document : Document, document.chars = document.tokens.flatMap Token.spelling
  | .null | .bool true | .bool false | .number _ | .string _ => by simp [chars, tokens, Token.spelling]
  | .array items => by simp [chars, tokens, Token.spelling, itemChars_eq_spelling items]
  | .object members => by simp [chars, tokens, Token.spelling, memberChars_eq_spelling members]

private theorem itemChars_eq_spelling : ∀ items : List Document,
    itemChars items = (tokensOfItems items).flatMap Token.spelling
  | [] => rfl
  | [item] => chars_eq_spelling item
  | item :: next :: items => by
    rw [itemChars, tokensOfItems, chars_eq_spelling item, itemChars_eq_spelling (next :: items)]
    · simp [Token.spelling]
    · nofun
    · nofun

private theorem memberChars_eq_spelling : ∀ members : Members,
    memberChars members = (tokensOfMembers members).flatMap Token.spelling
  | [] => rfl
  | [(key, value)] => by
    simp [memberChars, tokensOfMembers, Token.spelling, chars_eq_spelling value]
  | (key, value) :: next :: members => by
    rw [memberChars, tokensOfMembers, chars_eq_spelling value, memberChars_eq_spelling (next :: members)]
    · simp [Token.spelling]
    · nofun
    · nofun

end

private theorem hexValue?_hexChars : ∀ n < 0xA0,
    ∃ a b c d, hexChars 4 n = [a, b, c, d] ∧ hexValue? [a, b, c, d] = some n := by
  have digits : ∀ n < 0xA0, (hexChars 4 n).length = 4 ∧ hexValue? (hexChars 4 n) = some n := by
    decide +kernel
  intro n small
  obtain ⟨four, value⟩ := digits n small
  match written : hexChars 4 n, four with
  | [a, b, c, d], _ => exact ⟨a, b, c, d, rfl, written ▸ value⟩

/-- The characters stand for a character: they are taken off the front of a string as it. -/
def IsEscape (chars : List Char) (c : Char) : Prop :=
  ∀ rest, stringBody? (chars ++ rest) = consChar c (stringBody? rest)

theorem isEscape_hexChars {c : Char} (small : c.toNat < 0xA0) :
    IsEscape ('\\' :: 'u' :: hexChars 4 c.toNat) c := by
  intro rest
  obtain ⟨a, b, d, e, digits, value⟩ := hexValue?_hexChars c.toNat small
  have notLeading : isLeadingSurrogate c.toNat = false := by
    simp only [isLeadingSurrogate, Bool.and_eq_false_iff, decide_eq_false_iff_not]
    omega
  have notTrailing : isTrailingSurrogate c.toNat = false := by
    simp only [isTrailingSurrogate, Bool.and_eq_false_iff, decide_eq_false_iff_not]
    omega
  simp [digits, stringBody?, value, notLeading, notTrailing]

theorem isEscape_self {c : Char} (quote : c ≠ '"') (backslash : c ≠ '\\') (visible : ¬c.toNat < 0x20) :
    IsEscape [c] c := by
  intro rest
  rw [List.singleton_append, stringBody?]
  · simp [visible, backslash]
  all_goals simp_all

/-- An escaped character is taken off the front of a string as itself. -/
theorem isEscape_escapeChar (c : Char) : IsEscape (escapeChar c) c := by
  unfold escapeChar
  split_ifs with quote backslash backspace feed newline return_ tab control
  · subst quote; exact fun _ => rfl
  · subst backslash; exact fun _ => rfl
  · subst backspace; exact fun _ => rfl
  · subst feed; exact fun _ => rfl
  · subst newline; exact fun _ => rfl
  · subst return_; exact fun _ => rfl
  · subst tab; exact fun _ => rfl
  · exact isEscape_hexChars (Nat.lt_trans control (by decide))
  · exact isEscape_self quote backslash control

/-- A string is unescaped to what was escaped, character by character. -/
theorem stringBody?_flatMap {escape : Char → List Char} (escapes : ∀ c, IsEscape (escape c) c)
    (body rest : List Char) : stringBody? (body.flatMap escape ++ '"' :: rest) = some (body, rest) := by
  induction body with
  | nil => rfl
  | cons c body ih =>
    rw [List.flatMap_cons, List.append_assoc, escapes c, ih]
    rfl

/-- The characters spell a token: it is cut off where they end, and no blank stands in front. -/
structure Token.IsSpelled (token : Token) (chars : List Char) : Prop where
  cut : ∀ rest, token? (chars ++ rest) = some (token, rest)
  starts : ∃ c others, chars = c :: others ∧ isBlank c = false

/-- A string is spelled by its escaped characters between quotes. -/
theorem Token.isSpelled_string {escape : Char → List Char} (escapes : ∀ c, IsEscape (escape c) c)
    (value : String) : (string value).IsSpelled ('"' :: value.toList.flatMap escape ++ ['"']) := by
  refine ⟨fun rest => ?_, _, _, rfl, rfl⟩
  simp [token?, stringBody?_flatMap escapes value.toList rest]

/-- A token that is no number is spelled as it is written. -/
theorem Token.isSpelled_spelling {token : Token} (noNumber : token.isNumber = false) :
    token.IsSpelled token.spelling := by
  cases token with
  | number value => cases noNumber
  | bool value => cases value <;> exact ⟨fun _ => rfl, _, _, rfl, rfl⟩
  | string value => exact isSpelled_string isEscape_escapeChar value
  | _ => exact ⟨fun _ => rfl, _, _, rfl, rfl⟩

/-- Tokens are cut out of the text that spells them. -/
theorem tokensWithin_spelled {spelling : Token → List Char} {tokens : List Token}
    (spelled : ∀ token ∈ tokens, token.IsSpelled (spelling token)) (fuel : Nat)
    (enough : (tokens.flatMap spelling).length < fuel) :
    tokensWithin fuel (tokens.flatMap spelling) = some tokens := by
  induction tokens generalizing fuel with
  | nil =>
    obtain ⟨fuel, rfl⟩ := Nat.exists_eq_succ_of_ne_zero (Nat.ne_zero_of_lt enough)
    rfl
  | cons token tokens ih =>
    obtain ⟨first, others⟩ := List.forall_mem_cons.mp spelled
    obtain ⟨fuel, rfl⟩ := Nat.exists_eq_succ_of_ne_zero (Nat.ne_zero_of_lt enough)
    obtain ⟨c, chars, starts, notBlank⟩ := first.starts
    have cut := first.cut (tokens.flatMap spelling)
    rw [List.flatMap_cons, starts, List.cons_append] at enough ⊢
    rw [starts, List.cons_append] at cut
    have rest := ih others fuel (by
      simp only [List.length_cons, List.length_append] at enough
      omega)
    rw [tokensWithin, List.dropWhile_cons_of_neg (by simp [notBlank])]
    simp [cut, rest]

private theorem tokens_length_pos (document : Document) : 0 < document.tokens.length := by
  cases document <;> simp [tokens]

/-- The items of a list do not start with the token that closes it. -/
theorem head?_tokensOfItems (item : Document) (items : List Document) (rest : List Token) :
    (tokensOfItems (item :: items) ++ rest).head? ≠ some .closeList := by
  cases items <;> cases item <;> simp [tokensOfItems, tokens]

private theorem value?_openList {fuel spare : Nat} {tokens : List Token}
    (notClosed : tokens.head? ≠ some .closeList) :
    value? (fuel + 1) (spare + 1) (.openList :: tokens) =
      (itemsAfter? fuel spare tokens).map fun (items, rest) => (.array items, rest) := by
  unfold value?
  dsimp only
  split
  · next same => cases same
  · exact absurd rfl notClosed
  · next same _ => cases same; rfl

/-- The members of an object start with a key. -/
theorem exists_tokensOfMembers_cons (member : String × Document) (members : Members) :
    ∃ rest, tokensOfMembers (member :: members) = .string member.1 :: rest := by
  cases members <;> exact ⟨_, rfl⟩

private theorem value?_openObject {fuel spare : Nat} {key : String} {tokens : List Token} :
    value? (fuel + 1) (spare + 1) (.openObject :: .string key :: tokens) =
      (membersAfter? fuel spare (.string key :: tokens)).map
        fun (members, rest) => (.object members, rest) := rfl

mutual

/-- A document is read off the front of its tokens, with twice as much fuel as there are tokens. -/
theorem value?_tokens : ∀ (document : Document) (fuel : Nat) {spare : Nat} (rest : List Token),
    2 * document.tokens.length ≤ fuel → document.nesting ≤ spare →
      value? fuel spare (document.tokens ++ rest) = some (document, rest)
  | document, 0, _, _, enough, _ => by
    have some := tokens_length_pos document
    omega
  | .null, _ + 1, _, _, _, _ | .bool _, _ + 1, _, _, _, _ | .number _, _ + 1, _, _, _, _
  | .string _, _ + 1, _, _, _, _ => rfl
  | .array items, fuel + 1, 0, rest, enough, deep => by
    rw [nesting] at deep
    omega
  | .array [], fuel + 1, spare + 1, rest, enough, deep => rfl
  | .array (item :: items), fuel + 1, spare + 1, rest, enough, deep => by
    rw [nesting, Nat.add_le_add_iff_right, nestingOfItems_le_iff] at deep
    simp only [tokens, List.length_append, List.length_cons, List.length_nil] at enough
    have inner := itemsAfter?_tokens item items fuel rest (by omega) deep
    rw [tokens, List.append_assoc, List.cons_append, List.singleton_append,
      value?_openList (head?_tokensOfItems _ _ _), inner]
    rfl
  | .object members, fuel + 1, 0, rest, enough, deep => by
    rw [nesting] at deep
    omega
  | .object [], fuel + 1, spare + 1, rest, enough, deep => rfl
  | .object (member :: members), fuel + 1, spare + 1, rest, enough, deep => by
    rw [nesting, Nat.add_le_add_iff_right, nestingOfMembers_le_iff] at deep
    simp only [tokens, List.length_append, List.length_cons, List.length_nil] at enough
    have inner := membersAfter?_tokens member members fuel rest (by omega) deep
    obtain ⟨more, starts⟩ := exists_tokensOfMembers_cons member members
    rw [starts, List.cons_append] at inner
    rw [tokens, List.append_assoc, List.cons_append, List.singleton_append, starts, List.cons_append,
      value?_openObject, inner]
    rfl

private theorem itemsAfter?_tokens :
    ∀ (item : Document) (items : List Document) (fuel : Nat) {spare : Nat} (rest : List Token),
      2 * (tokensOfItems (item :: items)).length + 1 ≤ fuel →
      (∀ inner ∈ item :: items, inner.nesting ≤ spare) →
      itemsAfter? fuel spare (tokensOfItems (item :: items) ++ .closeList :: rest) =
        some (item :: items, rest)
  | item, items, 0, _, _, enough, _ => by omega
  | item, [], fuel + 1, spare, rest, enough, deep => by
    have first := value?_tokens item fuel (.closeList :: rest)
      (by rw [tokensOfItems] at enough; omega) (deep item (List.mem_singleton_self _))
    rw [tokensOfItems, itemsAfter?, first]
  | item, next :: items, fuel + 1, spare, rest, enough, deep => by
    have enough : 2 * (item.tokens.length + (tokensOfItems (next :: items)).length + 1) ≤ fuel := by
      rw [tokensOfItems] at enough
      · simp only [List.length_append, List.length_cons] at enough
        omega
      · nofun
    have first := value?_tokens item fuel
      (.comma :: (tokensOfItems (next :: items) ++ .closeList :: rest)) (by omega)
      (deep item (List.mem_cons_self ..))
    have others := itemsAfter?_tokens next items fuel rest (by omega)
      fun inner member => deep inner (List.mem_cons_of_mem _ member)
    rw [tokensOfItems, List.append_assoc, List.cons_append, itemsAfter?, first]
    · simp [others]
    · nofun

private theorem membersAfter?_tokens :
    ∀ (member : String × Document) (members : Members) (fuel : Nat) {spare : Nat} (rest : List Token),
      2 * (tokensOfMembers (member :: members)).length + 1 ≤ fuel →
      (∀ inner ∈ member :: members, inner.2.nesting ≤ spare) →
      membersAfter? fuel spare (tokensOfMembers (member :: members) ++ .closeObject :: rest) =
        some (member :: members, rest)
  | member, members, 0, _, _, enough, _ => by omega
  | (key, value), [], fuel + 1, spare, rest, enough, deep => by
    have first := value?_tokens value fuel (.closeObject :: rest)
      (by simp only [tokensOfMembers, List.length_cons] at enough; omega)
      (deep (key, value) (List.mem_singleton_self _))
    rw [tokensOfMembers, List.cons_append, List.cons_append, membersAfter?, first]
  | (key, value), next :: members, fuel + 1, spare, rest, enough, deep => by
    have enough : 2 * (value.tokens.length + (tokensOfMembers (next :: members)).length + 1) ≤ fuel := by
      rw [tokensOfMembers] at enough
      · simp only [List.length_append, List.length_cons] at enough
        omega
      · nofun
    have first := value?_tokens value fuel
      (.comma :: (tokensOfMembers (next :: members) ++ .closeObject :: rest)) (by omega)
      (deep (key, value) (List.mem_cons_self ..))
    have others := membersAfter?_tokens next members fuel rest (by omega)
      fun inner member => deep inner (List.mem_cons_of_mem _ member)
    rw [tokensOfMembers]
    · simp only [List.cons_append, List.append_assoc]
      rw [membersAfter?, first]
      simp [others]
    · nofun

end

/-- No number stands in the document. -/
def WithoutNumbers (document : Document) : Prop :=
  ∀ token ∈ document.tokens, token.isNumber = false

theorem withoutNumbers_string (value : String) : (string value).WithoutNumbers :=
  List.forall_mem_singleton.mpr rfl

private theorem mem_tokensOfItems {items : List Document} {token : Token}
    (member : token ∈ tokensOfItems items) :
    token = .comma ∨ ∃ item ∈ items, token ∈ item.tokens := by
  induction items with
  | nil => cases member
  | cons item items ih =>
    cases items with
    | nil => exact .inr ⟨item, List.mem_singleton_self _, member⟩
    | cons next items =>
      rw [tokensOfItems, List.mem_append, List.mem_cons] at member
      · rcases member with first | comma | later
        · exact .inr ⟨item, List.mem_cons_self .., first⟩
        · exact .inl comma
        · exact (ih later).imp_right fun ⟨other, present, inside⟩ =>
            ⟨other, List.mem_cons_of_mem _ present, inside⟩
      · nofun

private theorem mem_tokensOfMembers {members : Members} {token : Token}
    (found : token ∈ tokensOfMembers members) :
    token.isNumber = false ∨ ∃ member ∈ members, token ∈ member.2.tokens := by
  induction members with
  | nil => cases found
  | cons member members ih =>
    obtain ⟨key, value⟩ := member
    cases members with
    | nil =>
      rw [tokensOfMembers, List.mem_cons, List.mem_cons] at found
      rcases found with rfl | rfl | inside
      · exact .inl rfl
      · exact .inl rfl
      · exact .inr ⟨_, List.mem_singleton_self _, inside⟩
    | cons next members =>
      rw [tokensOfMembers, List.cons_append, List.cons_append, List.mem_cons, List.mem_cons,
        List.mem_append, List.mem_cons] at found
      · rcases found with rfl | rfl | inside | rfl | later
        · exact .inl rfl
        · exact .inl rfl
        · exact .inr ⟨_, List.mem_cons_self .., inside⟩
        · exact .inl rfl
        · exact (ih later).imp_right fun ⟨other, present, inside⟩ =>
            ⟨other, List.mem_cons_of_mem _ present, inside⟩
      · nofun

theorem withoutNumbers_array {items : List Document} (without : ∀ item ∈ items, item.WithoutNumbers) :
    (array items).WithoutNumbers := by
  intro token member
  simp only [tokens, List.mem_append, List.mem_cons, List.not_mem_nil, or_false] at member
  rcases member with (rfl | inside) | rfl
  · rfl
  · rcases mem_tokensOfItems inside with rfl | ⟨item, present, within⟩
    · rfl
    · exact without item present token within
  · rfl

theorem withoutNumbers_object {members : Members}
    (without : ∀ member ∈ members, member.2.WithoutNumbers) : (object members).WithoutNumbers := by
  intro token member
  simp only [tokens, List.mem_append, List.mem_cons, List.not_mem_nil, or_false] at member
  rcases member with (rfl | inside) | rfl
  · rfl
  · rcases mem_tokensOfMembers inside with other | ⟨inner, present, within⟩
    · exact other
    · exact without inner present token within
  · rfl

/-- A document is read from any text that spells its tokens. -/
theorem written?_spelled {document : Document} {spelling : Token → List Char}
    (spelled : ∀ token ∈ document.tokens, token.IsSpelled (spelling token))
    (nests : document.nesting ≤ nestingLimit) :
    written? (document.tokens.flatMap spelling) = some document := by
  have cut : tokens? (document.tokens.flatMap spelling) = some document.tokens :=
    tokensWithin_spelled spelled _ (Nat.lt_succ_self _)
  have read := value?_tokens document (2 * document.tokens.length + 2) []
    (Nat.le_add_right _ 2) nests
  rw [List.append_nil] at read
  simp [written?, cut, read]

/-- A document without numbers is read from its text as it was written. -/
theorem written?_chars {document : Document} (noNumbers : document.WithoutNumbers)
    (nests : document.nesting ≤ nestingLimit) : written? document.chars = some document := by
  rw [chars_eq_spelling]
  exact written?_spelled (fun token member => Token.isSpelled_spelling (noNumbers token member)) nests

mutual

/-- Nothing is to be settled where all keys are distinct. -/
theorem settled_of_wellFormed : ∀ {document : Document}, document.wellFormed → document.settled = document
  | .null, _ | .bool _, _ | .number _, _ | .string _, _ => rfl
  | .array items, sound => by
    rw [settled, settledItems_of_wellFormed (wellFormed_array.mp sound)]
  | .object members, sound => by
    obtain ⟨distinct, values⟩ := wellFormed_object.mp sound
    rw [settled, settledMembers_of_wellFormed values, Members.ofList_of_nodup distinct]

private theorem settledItems_of_wellFormed : ∀ {items : List Document},
    (∀ item ∈ items, item.wellFormed) →
    settledItems items = items
  | [], _ => rfl
  | item :: items, sound => by
    obtain ⟨first, others⟩ := List.forall_mem_cons.mp sound
    rw [settledItems, settled_of_wellFormed first, settledItems_of_wellFormed others]

private theorem settledMembers_of_wellFormed : ∀ {members : Members},
    (∀ member ∈ members, member.2.wellFormed) →
    settledMembers members = members
  | [], _ => rfl
  | (key, value) :: members, sound => by
    obtain ⟨first, others⟩ := List.forall_mem_cons.mp sound
    rw [settledMembers, settled_of_wellFormed first, settledMembers_of_wellFormed others]

end

/-- A well-formed document without numbers is what its text stands for. -/
theorem ofText?_text {document : Document} (sound : document.wellFormed)
    (noNumbers : document.WithoutNumbers) (nests : document.nesting ≤ nestingLimit) :
    ofText? document.text = some document := by
  rw [ofText?, read?, text, String.toList_ofList, written?_chars noNumbers nests, Option.map_some,
    settled_of_wellFormed sound]

end Intake.Document
