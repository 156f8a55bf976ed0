import Intake.Journal.Basic
import Intake.Proofs.Document.Writing
import Intake.Proofs.Text.Trimming
import Mathlib.Data.Bool.AllAny

/-! # Lines of a journal

A line of a journal is the text of an object whose values are strings, in a spelling of its own: more
characters are escaped than need be, among them all line breaks. So whatever a line quotes it is one
line, and its members are read back as they were noted, the fields in the order of their keys. A journal
keeps one such line for each entry that is severe enough.
-/

namespace Intake.Journal

open Document (IsEscape written?)

/-- The character controls a device and is not shown. -/
def IsControl (c : Char) : Prop := c.toNat < 0x20 ∨ 0x7F ≤ c.toNat ∧ c.toNat < 0xA0

instance (c : Char) : Decidable (IsControl c) := inferInstanceAs (Decidable (_ ∨ _))

private theorem isEscape_escapeChar (c : Char) : IsEscape (escapeChar c) c := by
  unfold escapeChar
  split_ifs with quote backslash newline return_ tab control
  · subst quote; exact fun _ => rfl
  · subst backslash; exact fun _ => rfl
  · subst newline; exact fun _ => rfl
  · subst return_; exact fun _ => rfl
  · subst tab; exact fun _ => rfl
  · simp only [Bool.or_eq_true, Bool.and_eq_true, decide_eq_true_iff] at control
    exact Document.isEscape_hexChars (by omega)
  · simp only [Bool.or_eq_true, Bool.and_eq_true, decide_eq_true_iff] at control
    exact Document.isEscape_self quote backslash (by omega)

private theorem not_isControl_hexChars {n : Nat} (small : n < 0xA0) :
    ∀ c ∈ hexChars 4 n, ¬IsControl c := by
  have all : ∀ n < 0xA0, (hexChars 4 n).all (¬IsControl ·) := by decide +kernel
  exact List.all_iff_forall_prop.mp (all n small)

private theorem not_isControl_of_mem_escapeChar {c : Char} :
    ∀ shown ∈ escapeChar c, ¬IsControl shown := by
  unfold escapeChar
  split_ifs with quote backslash newline return_ tab control
  iterate 5 exact List.all_iff_forall_prop.mp (by decide)
  · simp only [Bool.or_eq_true, Bool.and_eq_true, decide_eq_true_iff] at control
    have digits := @not_isControl_hexChars c.toNat (by omega)
    exact List.forall_mem_cons.mpr ⟨by decide, List.forall_mem_cons.mpr ⟨by decide, digits⟩⟩
  · simp only [Bool.or_eq_true, Bool.and_eq_true, decide_eq_true_iff] at control
    exact List.forall_mem_singleton.mpr control

private theorem not_isControl_of_mem_quoted {value : String} : ∀ c ∈ quoted value, ¬IsControl c := by
  rw [quoted, List.cons_append, List.forall_mem_cons, List.forall_mem_append, List.forall_mem_flatMap,
    List.forall_mem_singleton]
  exact ⟨by decide, fun c _ => not_isControl_of_mem_escapeChar, by decide⟩

/-- The members with their values as documents. -/
def documents (members : List (String × String)) : Members :=
  members.map fun member => (member.1, .string member.2)

/-- A token as a line of a journal spells it. -/
def spelling : Document.Token → List Char
  | .string value => quoted value
  | token => token.spelling

private theorem isSpelled_spelling {token : Document.Token} (noNumber : token.isNumber = false) :
    token.IsSpelled (spelling token) := by
  cases token with
  | string value => exact Document.Token.isSpelled_string isEscape_escapeChar value
  | _ => exact Document.Token.isSpelled_spelling noNumber

/-- The members of a line spell those of an object. -/
theorem memberChars_eq_spelling : ∀ members : List (String × String),
    memberChars members = (Document.tokensOfMembers (documents members)).flatMap spelling
  | [] => rfl
  | [(key, value)] => by
    simp [memberChars, documents, Document.tokensOfMembers, Document.tokens, spelling,
      Document.Token.spelling]
  | (key, value) :: next :: members => by
    have tokens : Document.tokensOfMembers (documents ((key, value) :: next :: members)) =
        .string key :: .colon :: .string value :: .comma ::
          Document.tokensOfMembers (documents (next :: members)) := rfl
    rw [memberChars, memberChars_eq_spelling (next :: members), tokens]
    · simp [spelling, Document.Token.spelling]
    · nofun

private theorem withoutNumbers_documents (members : List (String × String)) :
    (Document.object (documents members)).WithoutNumbers :=
  Document.withoutNumbers_object (List.forall_mem_map.mpr fun member _ =>
    Document.withoutNumbers_string member.2)

private theorem nesting_documents_le (members : List (String × String)) :
    (Document.object (documents members)).nesting ≤ Document.nestingLimit := by
  have flat : (Document.object (documents members)).nesting ≤ 0 + 1 :=
    Document.nesting_object_le_iff.mpr (List.forall_mem_map.mpr fun _ _ => Nat.le_refl 0)
  exact flat.trans (by decide)

/-- Members are read back from their spelling between braces. -/
theorem written?_memberChars (members : List (String × String)) :
    written? ('\x7b' :: memberChars members ++ ['\x7d']) = some (.object (documents members)) := by
  have spelled : '\x7b' :: memberChars members ++ ['\x7d'] =
      (Document.object (documents members)).tokens.flatMap spelling := by
    simp [memberChars_eq_spelling, Document.tokens, spelling, Document.Token.spelling]
  rw [spelled]
  exact Document.written?_spelled
    (fun token member => isSpelled_spelling (withoutNumbers_documents members token member))
    (nesting_documents_le members)

private theorem not_isControl_of_mem_memberChars : ∀ {members : List (String × String)},
    ∀ c ∈ memberChars members, ¬IsControl c
  | [] => List.forall_mem_nil _
  | [(key, value)] => by
    rw [memberChars, List.forall_mem_append, List.forall_mem_cons]
    exact ⟨not_isControl_of_mem_quoted, by decide, not_isControl_of_mem_quoted⟩
  | (key, value) :: next :: members => by
    rw [memberChars, List.append_assoc, List.forall_mem_append, List.cons_append, List.forall_mem_cons,
      List.forall_mem_append, List.forall_mem_cons]
    · exact ⟨not_isControl_of_mem_quoted, by decide, not_isControl_of_mem_quoted, by decide,
        not_isControl_of_mem_memberChars⟩
    · nofun

/-- The key of the first field is not greater than that of the second. -/
def keyLe (left right : String × String) : Bool := decide (left.1 ≤ right.1)

private theorem keyLe_trans (first second third : String × String) (before : keyLe first second)
    (after : keyLe second third) : keyLe first third :=
  decide_eq_true (String.le_trans (of_decide_eq_true before) (of_decide_eq_true after))

private theorem keyLe_total (left right : String × String) : keyLe left right || keyLe right left := by
  simpa [keyLe] using String.le_total left.1 right.1

variable {fields : List (String × String)}

private theorem pairwise_mergeSort_keyLe :
    (fields.mergeSort keyLe).Pairwise fun left right => left.1 ≤ right.1 :=
  (List.pairwise_mergeSort keyLe_trans keyLe_total fields).imp of_decide_eq_true

/-- Sorting leaves the fields of one key in the order in which they were given. -/
theorem filter_mergeSort_keyLe (key : String) :
    (fields.mergeSort keyLe).filter (·.1 == key) = fields.filter (·.1 == key) := by
  have perm : ((fields.mergeSort keyLe).filter (·.1 == key)).Perm (fields.filter (·.1 == key)) :=
    (List.mergeSort_perm fields keyLe).filter _
  have alike : (fields.filter (·.1 == key)).Pairwise fun left right => keyLe left right := by
    refine List.pairwise_of_forall_mem_list fun left first right second => ?_
    have left' := (List.mem_filter.mp first).2
    have right' := (List.mem_filter.mp second).2
    rw [beq_iff_eq] at left' right'
    rw [keyLe, left', right']
    exact decide_eq_true (String.le_refl key)
  have kept : (fields.filter (·.1 == key)).Sublist (fields.mergeSort keyLe) :=
    List.sublist_mergeSort keyLe_trans keyLe_total alike List.filter_sublist
  have kept' := kept.filter (·.1 == key)
  rw [List.filter_filter] at kept'
  simp only [Bool.and_self] at kept'
  exact (kept'.eq_of_length perm.length_eq.symm).symm

/-- The object of a line, without the line break. -/
def objectChars (severity : Severity) (event : String) (fields : List (String × String)) : List Char :=
  '\x7b' :: memberChars (members severity event fields) ++ ['\x7d']

private theorem lineChars_eq (severity : Severity) (event : String) (fields : List (String × String)) :
    lineChars severity event fields = objectChars severity event fields ++ ['\n'] := by
  simp [lineChars, objectChars]

/-- Of a line only the line break is trimmed. -/
theorem trimEnd_lineChars (severity : Severity) (event : String) (fields : List (String × String)) :
    Text.trimEnd (lineChars severity event fields) = objectChars severity event fields := by
  have closed : Text.trimEnd (objectChars severity event fields) = objectChars severity event fields := by
    apply Text.trimEnd_eq_self
    rw [objectChars, List.getLast?_concat]
    rintro _ ⟨⟩
    decide
  rw [lineChars_eq, Text.trimEnd, List.reverse_concat, List.dropWhile_cons_of_pos (by decide)]
  exact closed

/-- Whatever is noted, its line is one line, and what stands before the line break is the text of an
object: the event, the severity and the fields, which are in ascending order of their keys and, where keys
are equal, in the order given. No member is lost, and each key and value is read back as it was. -/
theorem lineChars_written (severity : Severity) (event : String) (fields : List (String × String)) :
    ∃ (line : List Char) (sorted : List (String × String)),
      lineChars severity event fields = line ++ ['\n'] ∧ '\n' ∉ line ∧
      written? line = some (.object (("event", .string event) :: ("severity", .string severity.text) ::
        sorted.map fun field => (field.1, .string field.2))) ∧
      sorted.Pairwise (fun left right => left.1 ≤ right.1) ∧
      ∀ key, sorted.filter (·.1 == key) = fields.filter (·.1 == key) := by
  refine ⟨objectChars severity event fields, fields.mergeSort keyLe, lineChars_eq .., ?_,
    written?_memberChars _, pairwise_mergeSort_keyLe, filter_mergeSort_keyLe⟩
  have shown : ∀ c ∈ objectChars severity event fields, ¬IsControl c := by
    rw [objectChars, List.cons_append, List.forall_mem_cons, List.forall_mem_append,
      List.forall_mem_singleton]
    exact ⟨by decide, not_isControl_of_mem_memberChars, by decide⟩
  exact fun member => shown '\n' member (by decide)

/-- A value that quotes the end of a line and the start of another is one value of one line. -/
example : written? (lineChars .warn "NOTE" [("b", "1\n\x7b\"event\":\"B\"\x7d"), ("a", "\u0085")]).dropLast =
    some (.object [("event", .string "NOTE"), ("severity", .string "WARN"), ("a", .string "\u0085"),
      ("b", .string "1\n\x7b\"event\":\"B\"\x7d")]) := by
  cbv

/-- The line of an entry, as it is kept. -/
def line (entry : Entry) : String :=
  String.ofList (objectChars entry.event.severity entry.event.name entry.fields)

private theorem record_eq (journal : Journal) (entry : Entry) :
    journal.record entry = if journal.minimum ≤ entry.event.severity
      then { journal with lines := journal.lines ++ [line entry] } else journal := by
  simp [record, note, isEnabled, trimEnd_lineChars, line]

/-- Of several entries the journal keeps the lines of those that are severe enough, in their order. -/
theorem recordAll_eq (journal : Journal) (entries : List Entry) :
    journal.recordAll entries = { journal with
      lines := journal.lines ++
        (entries.filter fun entry => journal.minimum ≤ entry.event.severity).map line } := by
  induction entries generalizing journal with
  | nil => simp [recordAll]
  | cons entry entries ih =>
    have step : journal.recordAll (entry :: entries) = (journal.record entry).recordAll entries := rfl
    rw [step, ih, record_eq]
    split_ifs with kept
    · rw [List.filter_cons_of_pos (by simpa using kept), List.map_cons, List.append_assoc]
      rfl
    · rw [List.filter_cons_of_neg (by simpa using kept)]

end Intake.Journal
