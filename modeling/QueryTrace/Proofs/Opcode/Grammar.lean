import Mathlib.Data.List.Forall2
import Mathlib.Data.List.TakeWhile
import QueryTrace.Proofs.Opcode.Requests
import QueryTrace.Proofs.Text.Quoting

/-!
# What the reader of requests accepts

A request is taken apart in three steps: the blanks around it go, the longest opening stands in
front of what is left, and the opening has maximal runs of digits. There is one way to do this, and
it is said here without the functions that do it (`Dissection.Of`).

The reader accepts the request if all runs are numbers of a word and the first one is a query type.
Then the path has one segment for each of the other numbers (`Opcode.Segment`). Otherwise the path
tells the first reason that applies, in a fixed order (`Dissection.Refused`). Both are spelled out
here letter by letter, and there is one such path for every request (`ofRequest_dissection`).
-/

namespace QueryTrace

open Text

/-! ## The parts of a request -/

/-- The text without the blanks around it. -/
structure Text.Trimmed (text trimmed : List Char) : Prop where
  around : ∃ before behind, text = before ++ trimmed ++ behind ∧
    (∀ c ∈ before, isBlank c = true) ∧ ∀ c ∈ behind, isBlank c = true
  first : ∀ c ∈ trimmed.head?, isBlank c = false
  last : ∀ c ∈ trimmed.getLast?, isBlank c = false

namespace Opcode

/-- A character that can stand in an opening: a bracket, a comma, a digit or a blank. -/
def CanOpen (c : Char) : Prop :=
  c = '[' ∨ c = ',' ∨ isDigit c = true ∨ isBlank c = true

/-- The longest start of a text in which no other characters stand. -/
structure LongestOpening (text front : List Char) : Prop where
  starts : front <+: text
  allowed : ∀ c ∈ front, CanOpen c
  longest : ∀ other, other <+: text → (∀ c ∈ other, CanOpen c) → other.length ≤ front.length

/-- The maximal runs of digits of a text, in order: between them and around them stands no digit,
and no run ends where a digit follows. -/
inductive Runs : List Char → List (List Char) → Prop
  | gap {gap : List Char} : (∀ c ∈ gap, isDigit c = false) → Runs gap []
  | run {gap run rest : List Char} {runs : List (List Char)} :
    (∀ c ∈ gap, isDigit c = false) → run ≠ [] → (∀ c ∈ run, isDigit c = true) → Apart rest →
    Runs rest runs → Runs (gap ++ (run ++ rest)) (run :: runs)

/-- The run is made of ASCII digits, and the number that they stand for fits a word. -/
structure IsWord (run : List Char) (code : Nat) : Prop where
  ascii : ∀ c ∈ run, c.isDigit = true
  value : Nat.ofDigitChars 10 run 0 = code
  fits : code ≤ 18446744073709551615

/-- The parts of a request that its reader looks at. -/
structure Dissection where
  /-- The request without the blanks around it. -/
  text : List Char
  /-- The opening of that text. -/
  front : List Char
  /-- The runs of digits in the opening. -/
  runs : List (List Char)

namespace Dissection

/-- The request is taken apart like this. -/
structure Of (d : Dissection) (request : String) : Prop where
  text : Trimmed request.toList d.text
  front : LongestOpening d.text d.front
  runs : Runs d.front d.runs

/-- The opening has digits, all its runs are numbers, and the first number is one of five. -/
structure Accepted (d : Dissection) : Prop where
  digit : ∃ c ∈ d.front, isDigit c = true
  numbers : ∀ run ∈ d.runs, ∃ code, IsWord run code
  first : ∃ run ∈ d.runs.head?, ∃ code, IsWord run code ∧ 1 ≤ code ∧ code ≤ 5

/-- The first reason against a request, in words. Where no number starts the request, the message
quotes its first sixteen characters. -/
inductive Refused (d : Dissection) : String → Prop
  | empty : d.text = [] → Refused d "empty payload"
  | noOpening {quote : String} : d.text ≠ [] → d.front = [] → Quotes (d.text.take 16) quote →
    Refused d ("payload does not start with an opcode sequence: " ++ quote)
  | badRun {before behind : List (List Char)} {run : List Char} :
    d.runs = before ++ run :: behind → (∀ r ∈ before, ∃ code, IsWord r code) →
    (¬∃ code, IsWord run code) →
    Refused d ("opcode `" ++ String.ofList run ++ "` is not a valid number")
  | noRun {quote : String} : d.front ≠ [] → d.runs = [] → Quotes (d.text.take 16) quote →
    Refused d ("payload does not start with an opcode sequence: " ++ quote)
  | unknownType {code : Nat} {codes : List Nat} : List.Forall₂ IsWord d.runs (code :: codes) →
    ¬(1 ≤ code ∧ code ≤ 5) →
    Refused d ("unknown query type " ++ String.ofList (Nat.toDigits 10 code))

end Dissection

/-- What stands for a number in a path: the name of the term, or the number itself if it is that of
no term. -/
inductive Segment (code : Nat) : String → Prop
  | term {name : String} : (code, name) ∈ Term.table → Segment code name
  | number : (∀ term ∈ Term.table, term.1 ≠ code) →
    Segment code (String.ofList (Nat.toDigits 10 code))

end Opcode

/-- The types that a request can have, with their numbers and the words for them. -/
def QueryType.table : List (Nat × QueryType × String) :=
  [(1, .start, "start"), (2, .advance, "continue"), (3, .stop, "stop"),
   (4, .noreplyWait, "noreplyWait"), (5, .serverInfo, "serverInfo")]

/-! ## There is one dissection -/

namespace Text

variable {text trimmed : List Char}

/-- What is left when the blanks in front are gone starts with no blank. -/
theorem head?_dropWhile_isBlank (cs : List Char) :
    ∀ c ∈ (cs.dropWhile isBlank).head?, isBlank c = false := by
  intro c hc
  have hhead := List.head?_dropWhile_not isBlank cs
  rwa [Option.mem_def.mp hc] at hhead

theorem Trimmed.eq (h : Trimmed text trimmed) : trim text = trimmed := by
  obtain ⟨before, behind, rfl, hbefore, hbehind⟩ := h.around
  have hend (cs : List Char) (hlast : ∀ c ∈ cs.getLast?, isBlank c = false) :
      trimEnd (cs ++ behind) = cs := by
    have hreversed : ∀ c ∈ behind.reverse, isBlank c = true := by simpa using hbehind
    rw [trimEnd, List.reverse_append, List.dropWhile_append_of_pos hreversed]
    cases hcs : cs.reverse with
    | nil => simpa using hcs.symm
    | cons c rest =>
      have hc : isBlank c = false := hlast c (by simp [← List.head?_reverse, hcs])
      rw [List.dropWhile_cons_of_neg (by simp [hc]), ← hcs, List.reverse_reverse]
  rw [trim, List.append_assoc, List.dropWhile_append_of_pos hbefore]
  cases trimmed with
  | nil =>
    rw [List.nil_append, List.dropWhile_eq_nil_iff.mpr hbehind]
    rfl
  | cons c rest =>
    have hc : isBlank c = false := h.first c rfl
    rw [List.cons_append, List.dropWhile_cons_of_neg (by simp [hc])]
    exact hend (c :: rest) h.last

theorem trimmed_trim (text : List Char) : Trimmed text (trim text) := by
  let front := text.dropWhile isBlank
  let blanks := front.reverse.takeWhile isBlank
  have hfront : trim text ++ blanks.reverse = front := by
    rw [trim, trimEnd, ← List.reverse_append, List.takeWhile_append_dropWhile, List.reverse_reverse]
  refine ⟨⟨text.takeWhile isBlank, blanks.reverse, ?_, ?_, ?_⟩, ?_, ?_⟩
  · rw [List.append_assoc, hfront, List.takeWhile_append_dropWhile]
  · exact fun c hc => List.mem_takeWhile_imp hc
  · exact fun c hc => List.mem_takeWhile_imp (List.mem_reverse.mp hc)
  · intro c hc
    refine head?_dropWhile_isBlank text c ?_
    show c ∈ front.head?
    rw [← hfront, List.head?_append, Option.mem_def.mp hc]
    rfl
  · intro c hc
    refine head?_dropWhile_isBlank front.reverse c ?_
    rwa [trim, trimEnd, List.getLast?_reverse] at hc

end Text

namespace Opcode

variable {text front run : List Char} {runs : List (List Char)}

theorem isOpening_iff {c : Char} : isOpening c = true ↔ CanOpen c := by
  simp [isOpening, CanOpen, or_assoc]

theorem canOpen_of_mem_opening {c : Char} (h : c ∈ opening text) : CanOpen c :=
  isOpening_iff.mp (List.mem_takeWhile_imp h)

theorem LongestOpening.eq (h : LongestOpening text front) : opening text = front := by
  obtain ⟨rest, rfl⟩ := h.starts
  have hstart : front <+: opening (front ++ rest) := by
    rw [opening, List.takeWhile_append_of_pos fun c hc => isOpening_iff.mpr (h.allowed c hc)]
    exact List.prefix_append ..
  have hle : (opening (front ++ rest)).length ≤ front.length :=
    h.longest _ (List.takeWhile_prefix _) fun c => canOpen_of_mem_opening
  exact (hstart.eq_of_length_le hle).symm

theorem longestOpening_opening (text : List Char) : LongestOpening text (opening text) := by
  refine ⟨List.takeWhile_prefix _, fun c => canOpen_of_mem_opening, ?_⟩
  rintro other ⟨rest, rfl⟩ hother
  rw [opening, List.takeWhile_append_of_pos fun c hc => isOpening_iff.mpr (hother c hc),
    List.length_append]
  omega

theorem digitRuns_gap {gap : List Char} (h : ∀ c ∈ gap, isDigit c = false) (rest : List Char) :
    digitRuns (gap ++ rest) = digitRuns rest := by
  induction gap with
  | nil => rfl
  | cons c gap ih =>
    rw [List.cons_append, digitRuns_cons (h c List.mem_cons_self)]
    exact ih fun d hd => h d (List.mem_cons_of_mem c hd)

theorem Runs.eq (h : Runs text runs) : digitRuns text = runs := by
  induction h with
  | @gap gap hgap =>
    rw [← List.append_nil gap, digitRuns_gap hgap]
    rfl
  | run hgap hrun hdigits hrest _ ih =>
    rw [digitRuns_gap hgap, digitRuns_append hrun hdigits hrest, ih]

theorem apart_of_forall {gap : List Char} (h : ∀ c ∈ gap, isDigit c = false) : Apart gap :=
  fun c hc => h c (List.mem_of_mem_head? hc)

/-- A character more in front extends the first gap, begins a run, or extends the first run. -/
theorem exists_runs (text : List Char) : ∃ runs, Runs text runs := by
  induction text with
  | nil => exact ⟨[], .gap (List.forall_mem_nil _)⟩
  | cons c text ih =>
    obtain ⟨runs, hruns⟩ := ih
    cases hc : isDigit c with
    | false =>
      cases hruns with
      | gap hgap => exact ⟨[], .gap (List.forall_mem_cons.mpr ⟨hc, hgap⟩)⟩
      | run hgap hrun hdigits hrest hruns =>
        exact ⟨_, .run (List.forall_mem_cons.mpr ⟨hc, hgap⟩) hrun hdigits hrest hruns⟩
    | true =>
      -- A digit in front is a run of its own, unless a run follows at once.
      have hnew (happart : Apart text) : Runs (c :: text) ([c] :: runs) :=
        .run (List.forall_mem_nil _) (List.cons_ne_nil c []) (List.forall_mem_singleton.mpr hc)
          happart hruns
      cases hruns with
      | gap hgap => exact ⟨_, hnew (apart_of_forall hgap)⟩
      | @run gap run rest runs hgap hrun hdigits hrest hruns' =>
        cases gap with
        | nil =>
          exact ⟨(c :: run) :: runs, .run (List.forall_mem_nil _) (List.cons_ne_nil c run)
            (List.forall_mem_cons.mpr ⟨hc, hdigits⟩) hrest hruns'⟩
        | cons d gap => exact ⟨_, hnew (apart_cons (hgap d List.mem_cons_self) _)⟩

theorem runs_digitRuns (text : List Char) : Runs text (digitRuns text) := by
  obtain ⟨runs, hruns⟩ := exists_runs text
  rwa [hruns.eq]

namespace Dissection

/-- The dissection that the reader makes. -/
def ofRequest (request : String) : Dissection where
  text := trim request.toList
  front := opening (trim request.toList)
  runs := digitRuns (opening (trim request.toList))

theorem of_iff {d : Dissection} {request : String} : d.Of request ↔ d = ofRequest request := by
  constructor
  · intro h
    obtain ⟨text, front, runs⟩ := d
    obtain rfl : trim request.toList = text := h.text.eq
    obtain rfl : opening (trim request.toList) = front := h.front.eq
    obtain rfl : digitRuns (opening (trim request.toList)) = runs := h.runs.eq
    rfl
  · rintro rfl
    exact ⟨trimmed_trim _, longestOpening_opening _, runs_digitRuns _⟩

end Dissection

/-! ## Numbers -/

theorem isWord_iff {code : Nat} : IsWord run code ↔ ofRun run = .ok code := by
  have hword : Nat.pow 2 64 = 18446744073709551615 + 1 := by decide
  unfold ofRun
  split
  · next h =>
    rw [Bool.and_eq_true, List.all_eq_true, decide_eq_true_eq, hword] at h
    rw [Except.ok.injEq]
    constructor
    · intro hcode
      rw [decimal_eq_ofDigitChars, hcode.value]
    · rintro rfl
      exact ⟨h.1, (decimal_eq_ofDigitChars run).symm, Nat.le_of_lt_succ h.2⟩
  · next h =>
    refine ⟨fun hcode => absurd ?_ h, fun hcode => by cases hcode⟩
    rw [Bool.and_eq_true, List.all_eq_true, decide_eq_true_eq, hword, decimal_eq_ofDigitChars,
      hcode.value]
    exact ⟨hcode.ascii, Nat.lt_succ_of_le hcode.fits⟩

theorem IsWord.eq {code other : Nat} (h : IsWord run code) (h' : IsWord run other) :
    code = other :=
  h.value.symm.trans h'.value

/-- A run that is no number is reported as a whole. -/
theorem ofRun_of_bad (h : ¬∃ code, IsWord run code) :
    ofRun run = .error (.badOpcode (String.ofList run)) := by
  cases hrun : ofRun run with
  | ok code => exact absurd ⟨code, isWord_iff.mpr hrun⟩ h
  | error reason =>
    unfold ofRun at hrun
    split at hrun
    · cases hrun
    · exact hrun.symm

theorem mapM_ofRun_of_words {codes : List Nat} (h : List.Forall₂ IsWord runs codes) :
    runs.mapM ofRun = .ok codes := by
  induction h with
  | nil => rfl
  | cons hcode _ ih =>
    rw [List.mapM_cons, isWord_iff.mp hcode, ih]
    rfl

/-- The first run that is no number is reported, whatever follows it. -/
theorem mapM_ofRun_of_bad {before behind : List (List Char)}
    (hbefore : ∀ r ∈ before, ∃ code, IsWord r code) (hrun : ¬∃ code, IsWord run code) :
    (before ++ run :: behind).mapM ofRun = .error (.badOpcode (String.ofList run)) := by
  induction before with
  | nil =>
    rw [List.nil_append, List.mapM_cons, ofRun_of_bad hrun]
    rfl
  | cons r before ih =>
    obtain ⟨⟨code, hcode⟩, hbefore⟩ := List.forall_mem_cons.mp hbefore
    rw [List.cons_append, List.mapM_cons, isWord_iff.mp hcode, ih hbefore]
    rfl

/-- All runs are numbers, or there is a first one that is none. -/
theorem words_or_bad (runs : List (List Char)) :
    (∃ codes, List.Forall₂ IsWord runs codes) ∨
    ∃ before run behind, runs = before ++ run :: behind ∧
      (∀ r ∈ before, ∃ code, IsWord r code) ∧ ¬∃ code, IsWord run code := by
  induction runs with
  | nil => exact .inl ⟨[], .nil⟩
  | cons run runs ih =>
    by_cases hrun : ∃ code, IsWord run code
    · obtain ⟨code, hcode⟩ := hrun
      rcases ih with ⟨codes, hcodes⟩ | ⟨before, bad, behind, rfl, hbefore, hbad⟩
      · exact .inl ⟨code :: codes, .cons hcode hcodes⟩
      · refine .inr ⟨run :: before, bad, behind, rfl, ?_, hbad⟩
        exact List.forall_mem_cons.mpr ⟨⟨code, hcode⟩, hbefore⟩
    · exact .inr ⟨[], run, runs, rfl, List.forall_mem_nil _, hrun⟩

end Opcode

/-! ## Acceptance -/

namespace QueryType

variable {code : Nat} {type : QueryType}

theorem bounds_of_ofCode? (h : ofCode? code = some type) : 1 ≤ code ∧ code ≤ 5 := by
  unfold ofCode? at h
  split at h
  case h_6 => cases h
  all_goals decide

theorem mem_table (h : ofCode? code = some type) : (code, type, type.name) ∈ table := by
  unfold ofCode? at h
  split at h <;> cases h <;> decide

end QueryType

namespace Opcode

variable {run : List Char} {runs : List (List Char)}

/-- A run is made of digits of the text, and it has some. -/
theorem Runs.exists_digit {text : List Char} (h : Runs text (run :: runs)) :
    ∃ c ∈ text, isDigit c = true := by
  cases h with
  | run hgap hrun hdigits hrest _ =>
    obtain ⟨c, hc⟩ := List.exists_mem_of_ne_nil run hrun
    exact ⟨c, List.mem_append_right _ (List.mem_append_left _ hc), hdigits c hc⟩

theorem Dissection.accepted_iff {d : Dissection} (h : Runs d.front d.runs) :
    d.Accepted ↔ ∃ code codes, List.Forall₂ IsWord d.runs (code :: codes) ∧
      1 ≤ code ∧ code ≤ 5 := by
  constructor
  · rintro ⟨-, hnumbers, run, hrun, code, hcode, hbounds⟩
    obtain ⟨runs, hruns⟩ : ∃ runs, d.runs = run :: runs := List.head?_eq_some_iff.mp hrun
    rcases words_or_bad d.runs with ⟨codes, hcodes⟩ | ⟨before, bad, behind, hsplit, -, hbad⟩
    · rw [hruns] at hcodes
      obtain ⟨first, codes, hfirst, hrest, rfl⟩ := List.forall₂_cons_left_iff.mp hcodes
      obtain rfl := hfirst.eq hcode
      exact ⟨first, codes, hruns ▸ .cons hfirst hrest, hbounds⟩
    · exact absurd (hnumbers bad (by simp [hsplit])) hbad
  · rintro ⟨code, codes, hcodes, hbounds⟩
    obtain ⟨run, runs, hcode, hrest, hruns⟩ := List.forall₂_cons_right_iff.mp hcodes
    have hnumbers : ∀ r ∈ d.runs, ∃ code, IsWord r code :=
      ((List.forall₂_and_left _ _).mp (hcodes.imp fun r code hr => ⟨⟨code, hr⟩, hr⟩)).1
    exact ⟨Runs.exists_digit (hruns ▸ h), hnumbers, run, by simp [hruns], code, hcode, hbounds⟩

/-- The numbers of a dissection start with a type, or there is a reason against it. -/
theorem Dissection.words_or_refused (d : Dissection) :
    (∃ code codes, List.Forall₂ IsWord d.runs (code :: codes) ∧ 1 ≤ code ∧ code ≤ 5) ∨
      ∃ reason, d.Refused reason := by
  by_cases htext : d.text = []
  · exact .inr ⟨_, .empty htext⟩
  by_cases hfront : d.front = []
  · exact .inr ⟨_, .noOpening htext hfront (quotes_iff.mpr rfl)⟩
  rcases words_or_bad d.runs with ⟨codes, hcodes⟩ | ⟨before, run, behind, hruns, hbefore, hrun⟩
  · cases codes with
    | nil =>
      have hruns : d.runs = [] := List.forall₂_nil_right_iff.mp hcodes
      exact .inr ⟨_, .noRun hfront hruns (quotes_iff.mpr rfl)⟩
    | cons code codes =>
      by_cases hbounds : 1 ≤ code ∧ code ≤ 5
      · exact .inl ⟨code, codes, hcodes, hbounds⟩
      · exact .inr ⟨_, .unknownType hcodes hbounds⟩
  · exact .inr ⟨_, .badRun hruns hbefore hrun⟩

end Opcode

/-! ## Paths -/

/-- Words that are appended one by one, each behind a slash. -/
theorem foldl_slash (root : String) (words : List String) :
    words.foldl (fun path word => path ++ "/" ++ word) root =
      String.intercalate "/" (root :: words) := by
  have hfront (front word : String) (rest : List String) :
      String.intercalate "/" ((front ++ word) :: rest) =
        front ++ String.intercalate "/" (word :: rest) := by
    cases rest with
    | nil => simp
    | cons next rest => simp [String.intercalate_cons_cons, String.append_assoc]
  induction words generalizing root with
  | nil => simp
  | cons word words ih =>
    rw [List.foldl_cons, ih, hfront, String.intercalate_cons_cons]

namespace Term

theorem mem_of_name? {code : Nat} {name : String} (h : name? code = some name) :
    (code, name) ∈ table := by
  obtain ⟨⟨number, word⟩, hfound, rfl⟩ := Option.map_eq_some_iff.mp h
  obtain rfl : number = code := by simpa using List.find?_some hfound
  exact List.mem_of_find?_eq_some hfound

/-- The numbers of the known terms grow, so no number has two names. -/
theorem ascending_table : (table.map (·.1)).Pairwise (· < ·) :=
  List.isChain_iff_pairwise.mp (by decide +kernel)

theorem name?_of_mem {code : Nat} {name : String} (member : (code, name) ∈ table) :
    name? code = some name := by
  have ascending := ascending_table
  unfold name?
  generalize table = terms at member ascending
  induction terms with
  | nil => cases member
  | cons term terms ih =>
    rw [List.map_cons, List.pairwise_cons] at ascending
    rcases List.mem_cons.mp member with rfl | member
    · rw [List.find?_cons_of_pos (by simp)]
      rfl
    · have hlt : term.1 < code := ascending.1 code (List.mem_map_of_mem member)
      rw [List.find?_cons_of_neg (by simp [Nat.ne_of_lt hlt])]
      exact ih member ascending.2

theorem name?_eq_none_iff {code : Nat} :
    name? code = none ↔ ∀ term ∈ table, term.1 ≠ code := by
  simp [name?]

end Term

/-- One word stands for a number in a path. -/
theorem Opcode.segment_iff (code : Nat) (word : String) :
    Segment code word ↔ segment code = word := by
  constructor
  · rintro (hmem | hnone)
    · rw [segment, Term.name?_of_mem hmem, Option.getD_some]
    · rw [segment, Term.name?_eq_none_iff.mpr hnone]
      rfl
  · rintro rfl
    unfold segment
    cases hname : Term.name? code with
    | some name => exact .term (Term.mem_of_name? hname)
    | none => exact .number (Term.name?_eq_none_iff.mp hname)

namespace Summary

open Opcode

/-- What stands in a path behind its root. -/
def segments (type : QueryType) (terms : List Nat) : List String :=
  if terms = [] then [type.name] else terms.map Opcode.segment

theorem pathOf_eq (root : String) (type : QueryType) (terms : List Nat) :
    pathOf root type terms = String.intercalate "/" (root :: segments type terms) := by
  cases terms with
  | nil => simp [pathOf, segments]
  | cons code codes =>
    simp only [pathOf, segments, reduceCtorEq, if_false]
    rw [← foldl_slash, List.foldl_map]

/-! ## Reading -/

section Reading

variable {request : String}

theorem opcodes_of_opening {text : List Char} (h : opening text ≠ []) :
    opcodes text = (digitRuns (opening text)).mapM ofRun := by
  have htext : text ≠ [] := by
    rintro rfl
    exact h rfl
  simp [opcodes, numbers, htext, h]

theorem opcodes_of_runs {text : List Char} (h : digitRuns (opening text) ≠ []) :
    opcodes text = (digitRuns (opening text)).mapM ofRun := by
  refine opcodes_of_opening fun hopening => ?_
  rw [hopening] at h
  exact h rfl

theorem opcodes_of_empty {text : List Char} (h : text = []) : opcodes text = .error .empty := by
  simp [opcodes, h]

theorem opcodes_of_no_opening {text : List Char} (htext : text ≠ []) (h : opening text = []) :
    opcodes text = .error (.noOpcodes (excerpt text)) := by
  simp [opcodes, htext, h]

theorem read_of_error {reason : Unreadable} (h : opcodes (trim request.toList) = .error reason)
    (root : String) : read request root = .error reason := by
  simp only [read, h, bind, Except.bind]

theorem read_of_no_codes (h : opcodes (trim request.toList) = .ok []) (root : String) :
    read request root = .error (.noOpcodes (excerpt (trim request.toList))) := by
  simp only [read, h, bind, Except.bind]

theorem read_of_codes {code : Nat} {terms : List Nat}
    (h : opcodes (trim request.toList) = .ok (code :: terms)) (root : String) :
    read request root =
      match QueryType.ofCode? code with
      | none => .error (.unknownType code)
      | some type => .ok ⟨type, pathOf root type terms⟩ := by
  simp only [read, h, bind, Except.bind]
  rfl

theorem opcodes_of_words {text : List Char} {code : Nat} {codes : List Nat}
    (h : List.Forall₂ IsWord (digitRuns (opening text)) (code :: codes)) :
    opcodes text = .ok (code :: codes) := by
  have hruns : digitRuns (opening text) ≠ [] := by
    intro hnone
    rw [hnone] at h
    cases h
  rw [opcodes_of_runs hruns, mapM_ofRun_of_words h]

/-- A request whose numbers start with that of a type is summarised as they say. -/
theorem ofRequest_of_words {code : Nat} {codes : List Nat} {type : QueryType}
    (hcodes : List.Forall₂ IsWord (Dissection.ofRequest request).runs (code :: codes))
    (htype : QueryType.ofCode? code = some type) (root : String) :
    ofRequest request root = ⟨type, pathOf root type codes⟩ := by
  simp only [ofRequest, read_of_codes (opcodes_of_words hcodes), htype]

/-- The first reason against a request becomes its path. -/
theorem ofRequest_of_refused {reason : String}
    (h : (Dissection.ofRequest request).Refused reason) (root : String) :
    ofRequest request root = ⟨.undefined, "could not classify query: " ++ reason⟩ := by
  have hmessage (error : Unreadable) (hread : read request root = .error error) :
      ofRequest request root = ⟨.undefined, "could not classify query: " ++ error.message⟩ := by
    simp only [ofRequest, hread]
  cases h with
  | empty htext =>
    exact hmessage .empty (read_of_error (opcodes_of_empty htext) root)
  | @noOpening quote htext hfront hquote =>
    obtain rfl := quotes_iff.mp hquote
    exact hmessage (.noOpcodes _) (read_of_error (opcodes_of_no_opening htext hfront) root)
  | badRun hruns hbefore hrun =>
    have hopcodes := opcodes_of_runs (hruns.trans_ne (by simp))
    rw [show digitRuns _ = _ from hruns, mapM_ofRun_of_bad hbefore hrun] at hopcodes
    exact hmessage (.badOpcode _) (read_of_error hopcodes root)
  | @noRun quote hfront hruns hquote =>
    obtain rfl := quotes_iff.mp hquote
    have hopcodes := opcodes_of_opening hfront
    rw [show digitRuns _ = [] from hruns] at hopcodes
    exact hmessage (.noOpcodes _) (read_of_no_codes hopcodes root)
  | @unknownType code codes hcodes hbounds =>
    have htype : QueryType.ofCode? code = none :=
      Option.eq_none_iff_forall_ne_some.mpr fun _ htype =>
        hbounds (QueryType.bounds_of_ofCode? htype)
    have hread := read_of_codes (opcodes_of_words hcodes) root
    rw [htype] at hread
    exact hmessage (.unknownType code) hread

theorem refused_unique {reason other : String} (h : (Dissection.ofRequest request).Refused reason)
    (hother : (Dissection.ofRequest request).Refused other) : other = reason := by
  have hpath := (ofRequest_of_refused hother "").symm.trans (ofRequest_of_refused h "")
  exact (String.append_right_inj _).mp (Summary.mk.inj hpath).2

/-- A request that is refused is not accepted. -/
theorem not_accepted_of_refused {reason : String}
    (h : (Dissection.ofRequest request).Refused reason) :
    ¬(Dissection.ofRequest request).Accepted := by
  intro haccepted
  obtain ⟨code, codes, hcodes, hbounds⟩ := (Dissection.accepted_iff (runs_digitRuns _)).mp haccepted
  obtain ⟨type, htype, hknown, -⟩ := QueryType.exists_ofCode? hbounds
  have hsummary := (ofRequest_of_words hcodes htype "").symm.trans (ofRequest_of_refused h "")
  exact hknown (Summary.mk.inj hsummary).1

end Reading

/-- There is one way to take a request apart, and it decides how the request is summarised. The
type of the request is known if and only if the request is accepted. Then its type is that of its
first number, and its path names the other numbers, or the type when there are none. Otherwise it
has no role, there is one first reason against it, and its path tells this reason. -/
theorem ofRequest_dissection (request root : String) :
    ∃ d : Dissection, (∀ other : Dissection, other.Of request ↔ other = d) ∧
      let summary := ofRequest request root
      (summary.type ≠ .undefined ↔ d.Accepted) ∧
      (d.Accepted → ∃ code codes word words, List.Forall₂ IsWord d.runs (code :: codes) ∧
        (code, summary.type, word) ∈ QueryType.table ∧
        (∀ others, List.Forall₂ Segment codes others ↔ others = words) ∧
        summary.path =
          String.intercalate "/" (root :: if codes = [] then [word] else words)) ∧
      (¬d.Accepted → summary.type = .undefined ∧ summary.role? = none ∧
        ∃ reason, (∀ other, d.Refused other ↔ other = reason) ∧
          summary.path = "could not classify query: " ++ reason) := by
  let d := Dissection.ofRequest request
  have hd : d.Of request := Dissection.of_iff.mpr rfl
  refine ⟨d, fun other => Dissection.of_iff, ?_⟩
  rcases d.words_or_refused with ⟨code, codes, hcodes, hbounds⟩ | ⟨reason, hreason⟩
  · have haccepted : d.Accepted :=
      (Dissection.accepted_iff hd.runs).mpr ⟨code, codes, hcodes, hbounds⟩
    obtain ⟨type, htype, hknown, -⟩ := QueryType.exists_ofCode? hbounds
    have hwords (others : List String) :
        List.Forall₂ Segment codes others ↔ others = codes.map segment :=
      (forall₂_iff_map segment_iff).trans eq_comm
    simp only [ofRequest_of_words hcodes htype root]
    refine ⟨iff_of_true hknown haccepted, fun _ => ?_, fun h => absurd haccepted h⟩
    exact ⟨code, codes, type.name, _, hcodes, QueryType.mem_table htype, hwords,
      pathOf_eq root type codes⟩
  · have hrefused : ¬d.Accepted := not_accepted_of_refused hreason
    have hone (other : String) : d.Refused other ↔ other = reason :=
      ⟨refused_unique hreason, fun hother => hother ▸ hreason⟩
    simp only [ofRequest_of_refused hreason root]
    exact ⟨iff_of_false (fun h => h rfl) hrefused, fun h => absurd h hrefused,
      fun _ => ⟨trivial, rfl, reason, hone, rfl⟩⟩

/-- Requests that are refused, each for another reason, and one that is accepted. One message quotes
characters of all kinds, and the last one leaves out the zeros in front of a number. -/
theorem ofRequest_dissection_awkward :
    let told (request reason : String) : Prop := ∃ d : Dissection, d.Of request ∧ ¬d.Accepted ∧
      d.Refused reason ∧ (ofRequest request "r").type = .undefined ∧
        (ofRequest request "r").path = "could not classify query: " ++ reason
    let accepted := "\n[0001,[046,[015 ,[18446744073709551615,[\"16"
    told "\u3000\t" "empty payload" ∧
      told "\u00a0x\"\\\t\x00\u200b\u0301é'\x7b1,15] abcdef"
        ("payload does not start with an opcode sequence: " ++
          "\"x\\\"\\\\\\t\\0\\u\x7b200b\x7d\\u\x7b301\x7dé'\x7b1,15] \"") ∧
      told "[9,[1\u0663,[18446744073709551616" "opcode `1\u0663` is not a valid number" ∧
      told "[[,\n\x7b1" "payload does not start with an opcode sequence: \"[[,\\n\x7b1\"" ∧
      told "[007,15" "unknown query type 7" ∧
      ∃ (d : Dissection) (code : Nat) (codes : List Nat) (word : String) (words : List String),
        d.Of accepted ∧ d.Accepted ∧ List.Forall₂ IsWord d.runs (code :: codes) ∧
        (code, .start, word) ∈ QueryType.table ∧ List.Forall₂ Segment codes words ∧
        "a/b/46/table/18446744073709551615" =
          String.intercalate "/" ("a/b" :: if codes = [] then [word] else words) := by
  intro told accepted
  have htold (request reason : String) (hsummary : ofRequest request "r" =
      ⟨.undefined, "could not classify query: " ++ reason⟩) : told request reason := by
    obtain ⟨d, hd, hknown, -, hrefused⟩ := ofRequest_dissection request "r"
    rw [hsummary] at hknown hrefused
    have hnot : ¬d.Accepted := fun haccepted => hknown.mpr haccepted rfl
    obtain ⟨-, -, first, hfirst, hpath⟩ := hrefused hnot
    obtain rfl : reason = first := (String.append_right_inj _).mp hpath
    exact ⟨d, (hd d).mpr rfl, hnot, (hfirst _).mpr rfl, by rw [hsummary], by rw [hsummary]⟩
  refine ⟨htold _ _ (by decide +kernel), htold _ _ (by decide +kernel),
    htold _ _ (by decide +kernel), htold _ _ (by decide +kernel), htold _ _ (by decide +kernel), ?_⟩
  have hsummary : ofRequest accepted "a/b" = ⟨.start, "a/b/46/table/18446744073709551615"⟩ := by
    decide +kernel
  obtain ⟨d, hd, hknown, haccepted, -⟩ := ofRequest_dissection accepted "a/b"
  rw [hsummary] at hknown haccepted
  have hd' : d.Accepted := hknown.mp nofun
  obtain ⟨code, codes, word, words, hcodes, htype, hwords, hpath⟩ := haccepted hd'
  have hsegments := (hwords words).mpr rfl
  exact ⟨d, code, codes, word, words, (hd d).mpr rfl, hd', hcodes, htype, hsegments, hpath⟩

end Summary

end QueryTrace
