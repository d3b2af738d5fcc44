import QueryTrace.Driver.Request
import QueryTrace.Proofs.Opcode.Opening
import QueryTrace.Proofs.Text.Octets

/-!
# Requests of the driver

The driver sends an array of the query type and its operands, after a header. Whatever the header
holds, short of a bracket, and whatever the operands are, the rendering is the text of the array,
and the summary has the type that was sent (`summary_of_request`). So only the requests for the
next batch of a stream continue a query.
-/

namespace QueryTrace

open Text Opcode

/-! ## The rendering -/

theorem Text.trim_of_ends {c d : Char} (cs : List Char) (hc : isBlank c = false)
    (hd : isBlank d = false) : trim (c :: cs ++ [d]) = c :: cs ++ [d] := by
  simp [trim, trimEnd, hc, hd]

/-- The text of an array has no blanks around it. -/
theorem trim_chars_array (items : List Value) :
    trim (Value.array items).chars = (Value.array items).chars :=
  trim_of_ends (Value.itemChars items) (by decide) (by decide)

/-- A header without a bracket is cut off before the rest is read. -/
theorem afterHeader_ofOctets {header : List UInt8} (hheader : 0x5B ∉ header)
    (rest : List UInt8) :
    Request.afterHeader (ofOctets (header ++ 0x5B :: rest)) = trim (ofOctets (0x5B :: rest)) := by
  have hcut : (ofOctets (header ++ 0x5B :: rest)).dropWhile (· ≠ '[') = ofOctets (0x5B :: rest) :=
    dropWhile_ofOctets (by decide) hheader rest
  rw [Request.afterHeader, hcut]

/-- An array is rendered as its text, behind any header without a bracket. -/
theorem rendered_array {request : Request} {header : List UInt8} (hheader : 0x5B ∉ header)
    {items : List Value}
    (h : request.serialize = .ok (header ++ octets (Value.array items).chars)) :
    request.rendered = (Value.array items).text := by
  -- The bracket is an octet of its own, so what is read from there on is the text alone.
  obtain ⟨rest, hoctets⟩ : ∃ rest, octets (Value.array items).chars = 0x5B :: rest := ⟨_, rfl⟩
  have hread : ofOctets (0x5B :: rest) = (Value.array items).chars := by
    rw [← hoctets, ofOctets_octets]
  calc request.rendered = String.ofList (trim (ofOctets (0x5B :: rest))) := by
        rw [← afterHeader_ofOctets hheader, ← hoctets, Request.rendered, h]
    _ = (Value.array items).text := by rw [hread, trim_chars_array, Value.text]

/-! ## The summary -/

theorem chars_ofWord (code : UInt64) : (Value.ofWord code).chars = Nat.toDigits 10 code.toNat := by
  have hnat : ¬((code.toNat : Int) < 0) := by omega
  simp [Value.ofWord, Value.chars, Number.text, WordInt.ofWord, intText, hnat]

/-- The opening of an array that starts with a natural number starts with that number. -/
theorem reads_chars_array (code : UInt64) (operands : List Value) :
    ∃ terms, Reads (Value.array (.ofWord code :: operands)).chars (code.toNat :: terms) := by
  have hclosing : Readable [']'] := ⟨[], reads_of_not_isOpening isOpening_closing _⟩
  have hapart : Apart [']'] := apart_cons (isDigit_of_not_isOpening isOpening_closing) _
  obtain ⟨rest, hchars, ⟨terms, hterms⟩, hrest⟩ : ∃ rest,
      (Value.array (.ofWord code :: operands)).chars =
        '[' :: (Nat.toDigits 10 code.toNat ++ rest) ∧ Readable rest ∧ Apart rest := by
    cases operands with
    | nil =>
      refine ⟨[']'], ?_, hclosing, hapart⟩
      simp [Value.chars, Value.itemChars, chars_ofWord]
    | cons v operands =>
      refine ⟨',' :: (Value.itemChars (v :: operands) ++ [']']), ?_, ?_, apart_cons isDigit_comma _⟩
      · simp [Value.chars, Value.itemChars, chars_ofWord]
      · exact (readable_itemChars (v :: operands) hclosing hapart).cons (by decide +kernel)
          isDigit_comma
  refine ⟨terms, ?_⟩
  have hcode := hterms.append hrest Nat.toDigits_ne_nil (fun _ => isDigit_of_mem_toDigits)
    (by rw [decimal_toDigits]; exact code.toNat_lt)
  rw [decimal_toDigits] at hcode
  rw [hchars]
  exact hcode.cons (by decide +kernel) isDigit_bracket

/-- The summary of an array tells the numbers of its opening, and nothing else of it. -/
theorem read_of_reads {items : List Value} {code : Nat} {terms : List Nat}
    (h : Reads (Value.array items).chars (code :: terms)) (root : String) :
    Summary.read (Value.array items).text root =
      match QueryType.ofCode? code with
      | none => .error (.unknownType code)
      | some type => .ok ⟨type, Summary.pathOf root type terms⟩ := by
  have hopening : (opening (Value.array items).chars).isEmpty = false := by
    rw [Value.chars, opening, List.cons_append, List.takeWhile_cons_of_pos (by decide +kernel)]
    rfl
  have hcodes : Summary.opcodes (Value.array items).chars = .ok (code :: terms) := by
    unfold Summary.opcodes
    rw [hopening]
    exact h
  simp only [Summary.read, Value.text, String.toList_ofList, trim_chars_array, hcodes, bind,
    Except.bind]
  cases QueryType.ofCode? code <;> rfl

/-- A request whose first number is a query type is read, and has that type. -/
theorem read_text_array {code : UInt64} {type : QueryType}
    (h : QueryType.ofCode? code.toNat = some type) (operands : List Value) (root : String) :
    ∃ path, Summary.read (Value.array (.ofWord code :: operands)).text root = .ok ⟨type, path⟩ := by
  obtain ⟨terms, hreads⟩ := reads_chars_array code operands
  exact ⟨Summary.pathOf root type terms, by rw [read_of_reads hreads, h]⟩

/-- The numbers from one to five are query types, and only a two continues a query. -/
theorem QueryType.exists_ofCode? {code : Nat} (h : 1 ≤ code ∧ code ≤ 5) :
    ∃ type, ofCode? code = some type ∧ type ≠ .undefined ∧
      (type.role? = some .continuation ↔ code = 2) := by
  obtain ⟨hlow, hhigh⟩ := h
  interval_cases code
  · exact ⟨.start, rfl, by decide⟩
  · exact ⟨.advance, rfl, by decide⟩
  · exact ⟨.stop, rfl, by decide⟩
  · exact ⟨.noreplyWait, rfl, by decide⟩
  · exact ⟨.serverInfo, rfl, by decide⟩

/-- A request of the driver is rendered as its text and summarised as what it is, whatever its
header, its operands and the root of the paths. -/
theorem summary_of_request {request : Request} {header : List UInt8} {code : UInt64}
    {operands : List Value} (hheader : 0x5B ∉ header) (hcode : 1 ≤ code ∧ code ≤ 5)
    (hsent : request.serialize =
      .ok (header ++ octets (Value.array (.ofWord code :: operands)).chars)) (root : String) :
    request.rendered = (Value.array (.ofWord code :: operands)).text ∧
      ∃ summary, (Classifier.opcodes root).summarise request.rendered = summary ∧
        QueryType.ofCode? code.toNat = some summary.type ∧ summary.type ≠ .undefined ∧
        (summary.role? = some .continuation ↔ code = 2) := by
  have hrendered := rendered_array hheader hsent
  have hbounds : 1 ≤ code.toNat ∧ code.toNat ≤ 5 :=
    ⟨UInt64.le_iff_toNat_le.mp hcode.1, UInt64.le_iff_toNat_le.mp hcode.2⟩
  have htwo : code.toNat = 2 ↔ code = 2 := by rw [← UInt64.toNat_inj]; rfl
  obtain ⟨type, htype, hknown, hrole⟩ := QueryType.exists_ofCode? hbounds
  obtain ⟨path, hread⟩ := read_text_array htype operands root
  refine ⟨hrendered, ⟨type, path⟩, ?_, htype, hknown, hrole.trans htwo⟩
  simp only [Classifier.opcodes, Summary.ofRequest, hrendered, hread]

/-- Operands that show a large double, a number that fits no signed word and a bracket in a
string. -/
def awkwardOperands : List Value :=
  [.array [.number (.double ⟨false, 5000000000000000, 1, by decide⟩),
    .ofWord 18446744073709551615, .string "[9"], .object []]

theorem summary_of_awkward :
    let header : List UInt8 := [0xE2, 0x28, 0xFF, 0, 0, 0, 0, 0]
    let sent := Value.array (.ofWord 2 :: awkwardOperands)
    let request := Request.octets (header ++ octets sent.chars) "?"
    0x5B ∉ header ∧ request.rendered = sent.text ∧
      ∃ summary, (Classifier.opcodes "r").summarise request.rendered = summary ∧
        summary.type = .advance ∧ summary.role? = some .continuation := by
  intro header sent request
  have hheader : 0x5B ∉ header := by decide
  obtain ⟨hrendered, summary, hsummary, htype, -, hrole⟩ :=
    summary_of_request hheader (by decide) (rfl : request.serialize = _) "r"
  exact ⟨hheader, hrendered, summary, hsummary, (Option.some.inj htype).symm, hrole.mpr rfl⟩

end QueryTrace
