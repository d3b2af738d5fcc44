import QueryTrace.Proofs.Opcode.Grammar

/-!
# Reading a summary back

The numbers that lead a request can be read back from its summary: the first one is that of its
type, and every segment of the path behind the root stands for one of the others
(`Summary.leads_iff_eq_codes`). The root is known, so it does not matter what it looks like, even if
it holds slashes.

Three things keep the segments apart. The names of terms are unique, no name is a decimal number,
and neither a name nor a number is the word for a type, which stands alone in the path of a request
without terms. So two requests have one summary if and only if the same numbers lead them
(`summary_eq_iff`).
-/

namespace QueryTrace

/-! ## Segments -/

namespace Term

/-- The word is no decimal number, and no slash splits it. -/
structure Plain (word : String) : Prop where
  letter : word.toList.all Char.isDigit = false
  whole : '/' ∉ word.toList

theorem plain_of_mem : ∀ term ∈ table, Plain term.2 := by
  have hletter : ∀ term ∈ table, term.2.toList.all Char.isDigit = false := by decide +kernel
  have hwhole : ∀ term ∈ table, '/' ∉ term.2.toList := by decide +kernel
  exact fun term hterm => ⟨hletter term hterm, hwhole term hterm⟩

theorem plain_type (type : QueryType) : Plain type.name := by
  cases type <;> exact ⟨by decide +kernel, by decide +kernel⟩

/-- No name belongs to two terms. -/
theorem code?_of_mem : ∀ term ∈ table, code? term.2 = some term.1 := by
  decide +kernel

/-- The word for a type is no name of a term. -/
theorem code?_type (type : QueryType) : code? type.name = none := by
  cases type <;> decide +kernel

end Term

namespace Opcode

/-- The number that a segment of a path stands for: that of a term, or the number itself. -/
def ofSegment (word : String) : Nat :=
  (Term.code? word).getD (Nat.ofDigitChars 10 word.toList 0)

/-- A term is shown by its name, or by its number. -/
theorem segment_cases (code : Nat) :
    ((code, segment code) ∈ Term.table) ∨
      (segment code).toList = Nat.toDigits 10 code := by
  have hsegment := (segment_iff code _).mpr rfl
  generalize segment code = word at hsegment ⊢
  cases hsegment with
  | term hmem => exact .inl hmem
  | number _ => exact .inr String.toList_ofList

/-- A text of digits is no name of a term. -/
theorem code?_of_digits {word : String} (h : word.toList.all Char.isDigit = true) :
    Term.code? word = none := by
  rw [Term.code?, Option.map_eq_none_iff, List.find?_eq_none]
  intro term hterm hword
  obtain rfl : term.2 = word := by simpa using hword
  rw [(Term.plain_of_mem term hterm).letter] at h
  cases h

theorem all_toDigits (code : Nat) : (Nat.toDigits 10 code).all Char.isDigit = true :=
  List.all_eq_true.mpr fun _ => Nat.isDigit_of_mem_toDigits (by decide) (by decide)

/-- Every segment leads back to its number. -/
theorem ofSegment_segment (code : Nat) : ofSegment (segment code) = code := by
  rcases segment_cases code with hmem | hdigits
  · rw [ofSegment, Term.code?_of_mem _ hmem, Option.getD_some]
  · rw [ofSegment, code?_of_digits (by rw [hdigits, all_toDigits]), Option.getD_none, hdigits,
      Nat.ofDigitChars_ten_toDigits]

theorem slash_segment (code : Nat) : '/' ∉ (segment code).toList := by
  rcases segment_cases code with hmem | hdigits
  · exact (Term.plain_of_mem _ hmem).whole
  · intro hslash
    have hdigit := List.all_eq_true.mp (all_toDigits code) '/' (hdigits ▸ hslash)
    exact absurd hdigit (by decide)

/-- The word for a type is no segment of a term. -/
theorem segment_ne_name (code : Nat) (type : QueryType) : segment code ≠ type.name := by
  intro hname
  rcases segment_cases code with hmem | hdigits
  · have hcode := Term.code?_of_mem _ hmem
    rw [hname, Term.code?_type] at hcode
    cases hcode
  · have hletter := (Term.plain_type type).letter
    rw [← hname, hdigits, all_toDigits] at hletter
    cases hletter

end Opcode

/-! ## Paths -/

/-- The number of a type on the wire. -/
def QueryType.code? (type : QueryType) : Option Nat :=
  [1, 2, 3, 4, 5].find? (ofCode? · = some type)

theorem QueryType.code?_of_ofCode? {code : Nat} {type : QueryType} (h : ofCode? code = some type) :
    type.code? = some code := by
  obtain ⟨hlow, hhigh⟩ := bounds_of_ofCode? h
  interval_cases code <;> cases h <;> rfl

namespace Summary

open Opcode

/-- What stands in a path behind its root, in parts. -/
def behindRoot (root path : String) : List String :=
  ((path.toList.drop (root.toList.length + 1)).splitOn '/').map String.ofList

/-- The numbers of the terms that the parts of a path stand for. The word for the type stands for
none. -/
def termsOf (type : QueryType) (parts : List String) : List Nat :=
  if parts = [type.name] then [] else parts.map ofSegment

/-- The numbers that a summary tells, under a known root: that of the type, and those of the terms.
-/
def codes (root : String) (summary : Summary) : List Nat :=
  summary.type.code?.toList ++ termsOf summary.type (behindRoot root summary.path)

variable (root : String) (type : QueryType) (terms : List Nat)

theorem segments_ne_nil : segments type terms ≠ [] := by
  cases terms <;> simp [segments]

theorem slash_segments : ∀ word ∈ segments type terms, '/' ∉ word.toList := by
  intro word hword
  unfold segments at hword
  split at hword
  · rw [List.mem_singleton.mp hword]
    exact (Term.plain_type type).whole
  · obtain ⟨code, -, rfl⟩ := List.mem_map.mp hword
    exact slash_segment code

theorem behindRoot_pathOf : behindRoot root (pathOf root type terms) = segments type terms := by
  have hchars : (pathOf root type terms).toList =
      root.toList ++ '/' :: ['/'].intercalate ((segments type terms).map String.toList) := by
    rw [pathOf_eq]
    cases hsegments : segments type terms with
    | nil => exact absurd hsegments (segments_ne_nil type terms)
    | cons word words => simp [String.intercalate_cons_cons, String.toList_intercalate]
  have hdrop : (pathOf root type terms).toList.drop (root.toList.length + 1) =
      ['/'].intercalate ((segments type terms).map String.toList) := by
    rw [hchars, ← List.drop_drop, List.drop_left, List.drop_succ_cons, List.drop_zero]
  rw [behindRoot, hdrop, List.splitOn_intercalate]
  · rw [List.map_map]
    simp
  · intro word hword
    obtain ⟨segment, hsegment, rfl⟩ := List.mem_map.mp hword
    exact slash_segments type terms segment hsegment
  · simpa using segments_ne_nil type terms

theorem termsOf_segments : termsOf type (segments type terms) = terms := by
  unfold segments
  split
  · next hterms => simp [termsOf, hterms]
  · next hterms =>
    have hne : terms.map segment ≠ [type.name] := by
      intro hparts
      obtain ⟨code, rest, rfl⟩ := List.exists_cons_of_ne_nil hterms
      exact segment_ne_name code type (List.head_eq_of_cons_eq hparts)
    rw [termsOf, if_neg hne, List.map_map]
    simp [Function.comp_def, ofSegment_segment]

end Summary

/-! ## Requests -/

/-- These numbers lead the request, in order: they are the values of the maximal runs of digits in
its opening. -/
def Opcode.Leads (request : String) (codes : List Nat) : Prop :=
  ∃ d : Dissection, d.Of request ∧ List.Forall₂ IsWord d.runs codes

namespace Summary

open Opcode

theorem leads_iff {request : String} {codes : List Nat} :
    Leads request codes ↔ List.Forall₂ IsWord (Dissection.ofRequest request).runs codes := by
  constructor
  · rintro ⟨d, hd, hcodes⟩
    rwa [← Dissection.of_iff.mp hd]
  · exact fun hcodes => ⟨_, Dissection.of_iff.mpr rfl, hcodes⟩

/-- A request that is summarised as more than undefined is led by its type and its terms, and the
summary tells of nothing else. -/
theorem exists_leads {request root : String} (h : (ofRequest request root).type ≠ .undefined) :
    ∃ code terms type, Leads request (code :: terms) ∧ QueryType.ofCode? code = some type ∧
      ofRequest request root = ⟨type, pathOf root type terms⟩ := by
  rcases (Dissection.ofRequest request).words_or_refused with
    ⟨code, terms, hcodes, hbounds⟩ | ⟨reason, hreason⟩
  · obtain ⟨type, htype, -⟩ := QueryType.exists_ofCode? hbounds
    exact ⟨code, terms, type, leads_iff.mpr hcodes, htype, ofRequest_of_words hcodes htype root⟩
  · exact absurd (by rw [ofRequest_of_refused hreason]) h

/-- One sequence of numbers leads such a request, and the summary tells it. -/
theorem leads_iff_eq_codes {request root : String}
    (h : (ofRequest request root).type ≠ .undefined) (other : List Nat) :
    Leads request other ↔ other = (ofRequest request root).codes root := by
  obtain ⟨code, terms, type, hcodes, htype, hsummary⟩ := exists_leads h
  have htold : (ofRequest request root).codes root = code :: terms := by
    rw [hsummary, codes, behindRoot_pathOf, termsOf_segments, QueryType.code?_of_ofCode? htype]
    rfl
  rw [htold]
  constructor
  · intro hother
    have hunique : Relator.RightUnique IsWord := fun _ _ _ => IsWord.eq
    exact List.right_unique_forall₂' hunique (leads_iff.mp hother) (leads_iff.mp hcodes)
  · rintro rfl
    exact hcodes

/-- Nothing of what leads a request is lost in its summary. Two requests that are summarised as more
than undefined, under any root, get the same type and the same path if and only if the same sequence
of numbers leads them; and each summary tells this sequence. -/
theorem summary_eq_iff {a b root : String} (ha : (ofRequest a root).type ≠ .undefined)
    (hb : (ofRequest b root).type ≠ .undefined) :
    ∃ codes codes', (∀ other, Leads a other ↔ other = codes) ∧
      (∀ other, Leads b other ↔ other = codes') ∧
      (ofRequest a root).codes root = codes ∧ (ofRequest b root).codes root = codes' ∧
      ((ofRequest a root).type = (ofRequest b root).type ∧
        (ofRequest a root).path = (ofRequest b root).path ↔ codes = codes') := by
  refine ⟨_, _, leads_iff_eq_codes ha, leads_iff_eq_codes hb, rfl, rfl, ?_⟩
  constructor
  · rintro ⟨htype, hpath⟩
    rw [codes, codes, htype, hpath]
  · intro hsame
    obtain ⟨code, terms, type, hcodes, htype, hsummary⟩ := exists_leads ha
    obtain ⟨code', terms', type', hcodes', htype', hsummary'⟩ := exists_leads hb
    rw [← (leads_iff_eq_codes ha _).mp hcodes, ← (leads_iff_eq_codes hb _).mp hcodes'] at hsame
    obtain ⟨rfl, rfl⟩ := List.cons.inj hsame
    obtain rfl := Option.some.inj (htype.symm.trans htype')
    rw [hsummary, hsummary']
    exact ⟨rfl, rfl⟩

/-- Under a root with a slash, a term whose number has no name, and the same number spelled with a
zero in front and among blanks. -/
theorem summary_eq_iff_unknownTerm :
    let a := "[1,[046,[[15,[\"x"
    let b := " [ 1 [46, 15 "
    let root := "r/46"
    ((ofRequest a root).type ≠ .undefined ∧ (ofRequest b root).type ≠ .undefined) ∧
      ∃ codes codes', (∀ other, Leads a other ↔ other = codes) ∧
        (∀ other, Leads b other ↔ other = codes') ∧
        (ofRequest a root).codes root = codes ∧ (ofRequest b root).codes root = codes' ∧
        ((ofRequest a root).type = (ofRequest b root).type ∧
          (ofRequest a root).path = (ofRequest b root).path ↔ codes = codes') := by
  intro a b root
  have ha : (ofRequest a root).type ≠ .undefined := by decide +kernel
  have hb : (ofRequest b root).type ≠ .undefined := by decide +kernel
  exact ⟨⟨ha, hb⟩, summary_eq_iff ha hb⟩

end Summary

end QueryTrace
