import QueryTrace.Proofs.Opcode.Grammar
import QueryTrace.Proofs.Text.Decoding

/-!
# Requests without their headers

What is rendered of a request starts at its first bracket, whatever octets stand before that: the
header may be no text at all, and may even end in the middle of a character. So the rendering can be
said of the octets: it is what the octets from the first bracket on stand for, without the blanks
around it (`Request.rendered_behind_header`).
-/

namespace QueryTrace

open Text

namespace Request

theorem toList_rendered {request : Request} {bs : List UInt8} (h : request.serialize = .ok bs) :
    request.rendered.toList = afterHeader (ofOctets bs) := by
  simp [rendered, h]

theorem afterHeader_eq_nil {bs : List UInt8} (h : 0x5B ∉ bs) : afterHeader (ofOctets bs) = [] := by
  have hbracket : '[' ∉ ofOctets bs := not_mem_ofOctets (b := 0x5B) (by decide) h
  have hnone : (ofOctets bs).dropWhile (· ≠ '[') = [] := by
    refine List.dropWhile_eq_nil_iff.mpr fun c hc => ?_
    rw [decide_eq_true_eq]
    rintro rfl
    exact hbracket hc
  rw [afterHeader, hnone]
  rfl

/-- Of a text that starts with a bracket, only blanks at its end go. -/
theorem exists_blanks_of_trimmed {text trimmed : List Char} (h : Trimmed ('[' :: text) trimmed) :
    ∃ blanks, '[' :: text = trimmed ++ blanks ∧ ∀ c ∈ blanks, isBlank c = true := by
  obtain ⟨before, behind, htext, hbefore, hbehind⟩ := h.around
  cases before with
  | nil => exact ⟨behind, htext, hbehind⟩
  | cons c before =>
    obtain ⟨rfl, -⟩ := List.cons.inj htext
    exact absurd (hbefore '[' List.mem_cons_self) (by decide)

/-- The rendering of a request is that of the octets that are sent. Without a bracket among them it
is empty. Otherwise it is the text that the octets from the first bracket on stand for, without the
blanks around it. So a text that starts with a bracket is rendered as it is, short of blanks at its
end, behind any header without a bracket. -/
theorem rendered_behind_header {request : Request} {bs : List UInt8}
    (h : request.serialize = .ok bs) :
    (0x5B ∉ bs → request.rendered = "") ∧
      (∀ header rest, bs = header ++ 0x5B :: rest → 0x5B ∉ header →
        ∃ text, (∀ other, Decodes (0x5B :: rest) other ↔ other = text) ∧
          Trimmed text request.rendered.toList) ∧
      ∀ header text, bs = header ++ Text.octets ('[' :: text) → 0x5B ∉ header →
        ∃ blanks, '[' :: text = request.rendered.toList ++ blanks ∧
          (∀ c ∈ blanks, isBlank c = true) ∧
          ∀ c ∈ request.rendered.toList.getLast?, isBlank c = false := by
  have hrendered := toList_rendered h
  have hcut {header rest : List UInt8} (hbs : bs = header ++ 0x5B :: rest)
      (hheader : 0x5B ∉ header) :
      Trimmed (ofOctets (0x5B :: rest)) request.rendered.toList := by
    rw [hrendered, hbs, afterHeader_ofOctets hheader]
    exact trimmed_trim _
  refine ⟨fun hnone => ?_, fun header rest hbs hheader => ?_, fun header text hbs hheader => ?_⟩
  · rw [afterHeader_eq_nil hnone] at hrendered
    exact String.toList_eq_nil_iff.mp hrendered
  · exact ⟨_, fun other => decodes_iff, hcut hbs hheader⟩
  · have hread : ofOctets (Text.octets ('[' :: text)) = '[' :: text := ofOctets_octets _
    have htrimmed : Trimmed ('[' :: text) request.rendered.toList := by
      rw [← hread]
      exact hcut hbs hheader
    obtain ⟨blanks, htext, hblanks⟩ := exists_blanks_of_trimmed htrimmed
    exact ⟨blanks, htext, hblanks, htrimmed.last⟩

/-- Behind a header that ends in the middle of a character. -/
theorem rendered_behind_header_torn :
    let header : List UInt8 := [1, 0xC3, 0xFF, 0xF0, 0x9F, 0x98]
    let text := "1,\"é\"]\u3000\n".toList
    let bs := header ++ Text.octets ('[' :: text)
    let request := Request.octets bs "?"
    request.serialize = .ok bs ∧ 0x5B ∉ header ∧ request.rendered = "[1,\"é\"]" ∧
      (∃ read, (∀ other, Decodes (Text.octets ('[' :: text)) other ↔ other = read) ∧
        Trimmed read request.rendered.toList) ∧
      ∃ blanks, '[' :: text = request.rendered.toList ++ blanks ∧
        (∀ c ∈ blanks, isBlank c = true) ∧
        ∀ c ∈ request.rendered.toList.getLast?, isBlank c = false := by
  intro header text bs request
  have hheader : 0x5B ∉ header := by decide
  obtain ⟨-, hread, htext⟩ := rendered_behind_header (rfl : request.serialize = .ok bs)
  exact ⟨rfl, hheader, by decide +kernel, hread header _ rfl hheader, htext header text rfl hheader⟩

end Request

end QueryTrace
