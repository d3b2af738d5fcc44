import QueryTrace.Proofs.Text.Octets

/-!
# What octets stand for

Any octets stand for one text (`decodes_iff`). Where a character can be read, it is read. Where none
can, a replacement character stands for the longest piece that starts a character, or for a single
octet if not even that one starts a character; behind the piece, reading goes on.

This is said here by the encoding of characters alone, without the machine that reads them. What the
machine knows in the middle of a character is how the character can be finished.
-/

namespace QueryTrace.Text

/-! ## Characters and pieces -/

/-- With more octets, or as they are, the octets are a character. -/
def StartsChar (bs : List UInt8) : Prop :=
  ∃ c, bs <+: String.utf8EncodeChar c

/-- No character can be read here. The piece in front is the longest one that starts a character, or
a single octet. -/
structure Broken (piece rest : List UInt8) : Prop where
  unreadable : ∀ c, ¬String.utf8EncodeChar c <+: piece ++ rest
  nonempty : piece ≠ []
  starts : StartsChar piece ∨ piece.length = 1
  longest : ∀ other, other <+: piece ++ rest → StartsChar other → other.length ≤ piece.length

/-- The octets stand for the text. -/
inductive Decodes : List UInt8 → List Char → Prop
  | nil : Decodes [] []
  | char {rest : List UInt8} {cs : List Char} (c : Char) :
    Decodes rest cs → Decodes (String.utf8EncodeChar c ++ rest) (c :: cs)
  | broken {piece rest : List UInt8} {cs : List Char} :
    Broken piece rest → Decodes rest cs → Decodes (piece ++ rest) (replacement :: cs)

theorem StartsChar.of_append {bs more : List UInt8} (h : StartsChar (bs ++ more)) :
    StartsChar bs := by
  obtain ⟨c, hc⟩ := h
  exact ⟨c, (List.prefix_append bs more).trans hc⟩

/-! ## No octet is lost -/

theorem nextOctet_ne (state : Option OpenChar) (b : Nat) : nextOctet state b ≠ ([], none) := by
  have hfirst : firstOctet b ≠ ([], none) := by
    unfold firstOctet
    split_ifs <;> simp
  cases state with
  | none => exact hfirst
  | some c =>
    simp only [nextOctet]
    split
    · split <;> simp
    · simp

/-- Whatever is read shows in the text. -/
theorem readFrom_eq_nil {state : Option OpenChar} {bs : List UInt8} (h : readFrom state bs = []) :
    state = none ∧ bs = [] := by
  induction bs generalizing state with
  | nil =>
    cases state with
    | none => exact ⟨rfl, rfl⟩
    | some c => cases h
  | cons b bs ih =>
    rw [readFrom] at h
    obtain ⟨hnow, hthen⟩ := List.append_eq_nil_iff.mp h
    exact absurd (Prod.ext hnow (ih hthen).1) (nextOctet_ne state b.toNat)

theorem readFrom_cons_ne (state : Option OpenChar) (b : UInt8) (bs : List UInt8) :
    readFrom state (b :: bs) ≠ [] :=
  fun h => absurd (readFrom_eq_nil h).2 (List.cons_ne_nil b bs)

/-! ## How a character can be finished -/

/-- These octets finish the open character, which then has this number. -/
inductive Finishes : OpenChar → List UInt8 → Nat → Prop
  | last {bits low high : Nat} {b : UInt8} : low ≤ b.toNat ∧ b.toNat ≤ high →
    Finishes ⟨bits, low, high, 0⟩ [b] (bits * 64 + b.toNat % 64)
  | more {bits low high after v : Nat} {b : UInt8} {tail : List UInt8} :
    low ≤ b.toNat ∧ b.toNat ≤ high →
    Finishes ⟨bits * 64 + b.toNat % 64, 0x80, 0xBF, after⟩ tail v →
    Finishes ⟨bits, low, high, after + 1⟩ (b :: tail) v

/-- The piece was read, and whatever finishes the open character makes the piece a character. -/
structure OpenChar.Reached (o : OpenChar) (piece : List UInt8) : Prop where
  bounds : o.low ≤ o.high ∧ o.high < 256
  finishes : ∀ tail v, Finishes o tail v →
    String.utf8EncodeChar (Char.ofNat v) = piece ++ tail

theorem exists_finishes (after bits low high : Nat) (h : low ≤ high ∧ high < 256) :
    ∃ tail v, Finishes ⟨bits, low, high, after⟩ tail v := by
  have hlow : low ≤ (UInt8.ofNat low).toNat ∧ (UInt8.ofNat low).toNat ≤ high := by
    rw [toNat_ofNat_of_lt (by omega)]
    exact ⟨le_rfl, h.1⟩
  induction after generalizing bits low high with
  | zero => exact ⟨_, _, .last hlow⟩
  | succ n ih =>
    obtain ⟨tail, v, htail⟩ :=
      ih (bits * 64 + (UInt8.ofNat low).toNat % 64) 0x80 0xBF (by decide) (by decide)
    exact ⟨_, v, .more hlow htail⟩

/-! ### Characters octet by octet -/

theorem ofNat_eq_octet {n : Nat} {b : UInt8} (h : n = b.toNat) : UInt8.ofNat n = b := by
  rw [h, UInt8.ofNat_toNat]

theorem toNat_val_ofNat {v : Nat} (h : v < 0xD800 ∨ 0xDFFF < v ∧ v < 0x110000) :
    (Char.ofNat v).val.toNat = v := by
  have hvalid : (Char.ofNat v).toNat = if v.isValidChar then v else 0 := Char.toNat_ofNat v
  rwa [if_pos h] at hvalid

section Encode

variable {b c d e : UInt8} {v : Nat}

theorem utf8EncodeChar_one (hb : b.toNat ≤ 0x7F) :
    String.utf8EncodeChar (Char.ofNat b.toNat) = [b] := by
  have hval := toNat_val_ofNat (v := b.toNat) (by omega)
  simp only [String.utf8EncodeChar, hval]
  rw [if_pos hb, ofNat_eq_octet rfl]

theorem utf8EncodeChar_two (hb : 0xC2 ≤ b.toNat ∧ b.toNat ≤ 0xDF)
    (hc : 0x80 ≤ c.toNat ∧ c.toNat ≤ 0xBF) (hv : v = b.toNat % 32 * 64 + c.toNat % 64) :
    String.utf8EncodeChar (Char.ofNat v) = [b, c] := by
  have hval := toNat_val_ofNat (v := v) (by omega)
  simp only [String.utf8EncodeChar, hval]
  rw [if_neg (by omega), if_pos (by omega), ofNat_eq_octet (b := b) (by omega),
    ofNat_eq_octet (b := c) (by omega)]

/-- The second octet keeps clear of the characters that are written shorter, and of the surrogates.
-/
theorem utf8EncodeChar_three (hb : 0xE0 ≤ b.toNat ∧ b.toNat ≤ 0xEF)
    (hc : 0x80 ≤ c.toNat ∧ c.toNat ≤ 0xBF) (hd : 0x80 ≤ d.toNat ∧ d.toNat ≤ 0xBF)
    (hshort : b.toNat = 0xE0 → 0xA0 ≤ c.toNat) (hsurrogate : b.toNat = 0xED → c.toNat ≤ 0x9F)
    (hv : v = (b.toNat % 16 * 64 + c.toNat % 64) * 64 + d.toNat % 64) :
    String.utf8EncodeChar (Char.ofNat v) = [b, c, d] := by
  have hval := toNat_val_ofNat (v := v) (by omega)
  simp only [String.utf8EncodeChar, hval]
  rw [if_neg (by omega), if_neg (by omega), if_pos (by omega), ofNat_eq_octet (b := b) (by omega),
    ofNat_eq_octet (b := c) (by omega), ofNat_eq_octet (b := d) (by omega)]

/-- The second octet keeps clear of the characters that are written shorter, and of what lies beyond
Unicode. -/
theorem utf8EncodeChar_four (hb : 0xF0 ≤ b.toNat ∧ b.toNat ≤ 0xF4)
    (hc : 0x80 ≤ c.toNat ∧ c.toNat ≤ 0xBF) (hd : 0x80 ≤ d.toNat ∧ d.toNat ≤ 0xBF)
    (he : 0x80 ≤ e.toNat ∧ e.toNat ≤ 0xBF) (hshort : b.toNat = 0xF0 → 0x90 ≤ c.toNat)
    (hbeyond : b.toNat = 0xF4 → c.toNat ≤ 0x8F)
    (hv : v = ((b.toNat % 8 * 64 + c.toNat % 64) * 64 + d.toNat % 64) * 64 + e.toNat % 64) :
    String.utf8EncodeChar (Char.ofNat v) = [b, c, d, e] := by
  have hval := toNat_val_ofNat (v := v) (by omega)
  simp only [String.utf8EncodeChar, hval]
  rw [if_neg (by omega), if_neg (by omega), if_neg (by omega), ofNat_eq_octet (b := b) (by omega),
    ofNat_eq_octet (b := c) (by omega), ofNat_eq_octet (b := d) (by omega),
    ofNat_eq_octet (b := e) (by omega)]

end Encode

section First

variable {b : UInt8} {low high : Nat}

theorem reached_two (hb : 0xC2 ≤ b.toNat ∧ b.toNat ≤ 0xDF) :
    OpenChar.Reached ⟨b.toNat % 32, 0x80, 0xBF, 0⟩ [b] where
  bounds := by simp
  finishes
  | _, _, .last hc => utf8EncodeChar_two hb hc rfl

theorem reached_three (hb : 0xE0 ≤ b.toNat ∧ b.toNat ≤ 0xEF)
    (hsecond : 0x80 ≤ low ∧ low ≤ high ∧ high ≤ 0xBF) (hshort : b.toNat = 0xE0 → 0xA0 ≤ low)
    (hsurrogate : b.toNat = 0xED → high ≤ 0x9F) :
    OpenChar.Reached ⟨b.toNat % 16, low, high, 1⟩ [b] where
  bounds := ⟨hsecond.2.1, Nat.lt_of_le_of_lt hsecond.2.2 (by decide)⟩
  finishes
  | _, _, .more hc (.last hd) =>
    utf8EncodeChar_three hb (by omega) hd (by omega) (by omega) rfl

theorem reached_four (hb : 0xF0 ≤ b.toNat ∧ b.toNat ≤ 0xF4)
    (hsecond : 0x80 ≤ low ∧ low ≤ high ∧ high ≤ 0xBF) (hshort : b.toNat = 0xF0 → 0x90 ≤ low)
    (hbeyond : b.toNat = 0xF4 → high ≤ 0x8F) :
    OpenChar.Reached ⟨b.toNat % 8, low, high, 2⟩ [b] where
  bounds := ⟨hsecond.2.1, Nat.lt_of_le_of_lt hsecond.2.2 (by decide)⟩
  finishes
  | _, _, .more hc (.more hd (.last he)) =>
    utf8EncodeChar_four hb (by omega) hd he (by omega) (by omega) rfl

/-- The first octet of a longer character. -/
theorem reached_firstOctet {o : OpenChar} (h : (firstOctet b.toNat).2 = some o) :
    o.Reached [b] := by
  unfold firstOctet at h
  split_ifs at h
  case pos => exact Option.some.inj h ▸ reached_two (by omega)
  case pos => exact Option.some.inj h ▸ reached_three (by omega) (by decide) (by omega) (by omega)
  case pos => exact Option.some.inj h ▸ reached_three (by omega) (by decide) (by omega) (by omega)
  case pos => exact Option.some.inj h ▸ reached_three (by omega) (by decide) (by omega) (by omega)
  all_goals exact Option.some.inj h ▸ reached_four (by omega) (by decide) (by omega) (by omega)

end First

/-! ## The machine in the middle of a character -/

section Pieces

variable {o : OpenChar} {b : UInt8} {piece : List UInt8}

theorem StartsChar.exists_encoded (h : StartsChar (piece ++ [b])) :
    ∃ c rest, String.utf8EncodeChar c = piece ++ b :: rest := by
  obtain ⟨c, rest, hc⟩ := h
  exact ⟨c, rest, by rw [← hc, List.append_assoc, List.singleton_append]⟩

theorem readFrom_encoded (c : Char) : readFrom none (String.utf8EncodeChar c) = [c] := by
  have hread := readFrom_utf8EncodeChar c []
  rwa [List.append_nil] at hread

/-- A character does not start with another one. -/
theorem not_encoded_of_startsChar (h : StartsChar (piece ++ [b])) (c : Char) :
    String.utf8EncodeChar c ≠ piece := by
  rintro rfl
  obtain ⟨d, rest, hd⟩ := h.exists_encoded
  have hread := readFrom_encoded d
  rw [hd, readFrom_utf8EncodeChar] at hread
  exact readFrom_cons_ne none b rest (List.cons.inj hread).2

/-- An octet that continues the open character leaves the start of a character. -/
theorem OpenChar.Reached.startsChar (h : o.Reached piece)
    (hb : o.low ≤ b.toNat ∧ b.toNat ≤ o.high) : StartsChar (piece ++ [b]) := by
  obtain ⟨bits, low, high, after⟩ := o
  cases after with
  | zero => exact ⟨_, by rw [h.finishes _ _ (.last hb)]⟩
  | succ n =>
    obtain ⟨tail, v, htail⟩ :=
      exists_finishes n (bits * 64 + b.toNat % 64) 0x80 0xBF (by decide)
    exact ⟨Char.ofNat v, tail, by rw [h.finishes _ _ (.more hb htail)]; simp⟩

/-- An octet that does not continue the open character breaks it off, and is read at rest. -/
theorem readFrom_breakOff (hb : ¬(o.low ≤ b.toNat ∧ b.toNat ≤ o.high)) (rest : List UInt8) :
    readFrom (some o) (b :: rest) = replacement :: readFrom none (b :: rest) := by
  simp only [readFrom, nextOctet, if_neg hb, List.cons_append]

theorem firstOctet_cases (b : Nat) : (b ≤ 0x7F ∧ firstOctet b = ([Char.ofNat b], none)) ∨
    (∃ o, firstOctet b = ([], some o)) ∨ firstOctet b = ([replacement], none) := by
  unfold firstOctet
  split_ifs with hascii
  case pos => exact .inl ⟨hascii, rfl⟩
  case neg => exact .inr (.inr rfl)
  all_goals exact .inr (.inl ⟨_, rfl⟩)

theorem exists_reached_first (h : StartsChar [b]) (hpart : ∀ c, String.utf8EncodeChar c ≠ [b]) :
    ∃ o : OpenChar, o.Reached [b] ∧
      ∀ rest, readFrom none (b :: rest) = readFrom (some o) rest := by
  rcases firstOctet_cases b.toNat with ⟨hascii, -⟩ | ⟨o, ho⟩ | hlone
  · exact absurd (utf8EncodeChar_one hascii) (hpart _)
  · exact ⟨o, reached_firstOctet (by rw [ho]), fun rest => by simp [readFrom, nextOctet, ho]⟩
  · have hempty : StartsChar ([] ++ [b]) := h
    obtain ⟨c, rest, hc⟩ := hempty.exists_encoded
    have hread := readFrom_encoded c
    rw [hc, List.nil_append, readFrom, nextOctet, hlone] at hread
    obtain ⟨rfl, hrest⟩ := List.cons.inj hread
    obtain rfl := (readFrom_eq_nil hrest).2
    exact absurd hc (hpart replacement)

/-- While a character is read, the machine is in the middle of it. -/
theorem exists_reached (hpiece : piece ≠ []) (h : StartsChar piece)
    (hpart : ∀ c, String.utf8EncodeChar c ≠ piece) :
    ∃ o : OpenChar, o.Reached piece ∧
      ∀ rest, readFrom none (piece ++ rest) = readFrom (some o) rest := by
  induction piece using List.reverseRecOn with
  | nil => exact absurd rfl hpiece
  | append_singleton piece b ih =>
    rcases eq_or_ne piece [] with rfl | hne
    · exact exists_reached_first h hpart
    · obtain ⟨o, ho, hread⟩ := ih hne h.of_append (not_encoded_of_startsChar h)
      have hb : o.low ≤ b.toNat ∧ b.toNat ≤ o.high := by
        by_contra hout
        obtain ⟨c, rest, hc⟩ := h.exists_encoded
        have hone := readFrom_encoded c
        rw [hc, hread, readFrom_breakOff hout] at hone
        exact readFrom_cons_ne none b rest (List.cons.inj hone).2
      obtain ⟨bits, low, high, after⟩ := o
      cases after with
      | zero => exact absurd (ho.finishes _ _ (.last hb)) (hpart _)
      | succ n =>
        refine ⟨⟨bits * 64 + b.toNat % 64, 0x80, 0xBF, n⟩, ⟨by simp, fun tail v htail => ?_⟩,
          fun rest => ?_⟩
        · rw [ho.finishes _ _ (.more hb htail), List.append_assoc, List.singleton_append]
        · rw [List.append_assoc, hread, List.singleton_append, readFrom]
          simp [nextOctet, hb]

end Pieces

/-! ## What the machine reads -/

section Reading

variable {piece rest bs : List UInt8} {cs : List Char}

/-- A piece that starts no character is a single octet that none starts with. -/
theorem readFrom_lone {b : UInt8} (h : ¬StartsChar [b]) (rest : List UInt8) :
    readFrom none (b :: rest) = replacement :: readFrom none rest := by
  rcases firstOctet_cases b.toNat with ⟨hascii, -⟩ | ⟨o, ho⟩ | hlone
  · exact absurd ⟨_, by rw [utf8EncodeChar_one hascii]⟩ h
  · have hreached : o.Reached [b] := reached_firstOctet (by rw [ho])
    obtain ⟨tail, v, htail⟩ := exists_finishes o.after o.bits o.low o.high hreached.bounds
    exact absurd ⟨_, tail, (hreached.finishes _ _ htail).symm⟩ h
  · rw [readFrom, nextOctet, hlone]
    rfl

/-- One replacement character is read from a piece that is no character. -/
theorem readFrom_broken (h : Broken piece rest) :
    readFrom none (piece ++ rest) = replacement :: readFrom none rest := by
  by_cases hstarts : StartsChar piece
  · have hpart (c : Char) : String.utf8EncodeChar c ≠ piece := by
      rintro rfl
      exact h.unreadable c (List.prefix_append ..)
    obtain ⟨o, ho, hread⟩ := exists_reached h.nonempty hstarts hpart
    rw [hread]
    cases rest with
    | nil => rfl
    | cons b rest =>
      refine readFrom_breakOff (fun hb => ?_) rest
      have hlonger := h.longest (piece ++ [b]) ⟨rest, by simp⟩ (ho.startsChar hb)
      simp at hlonger
  · obtain ⟨b, rfl⟩ := List.length_eq_one_iff.mp (h.starts.resolve_left hstarts)
    exact readFrom_lone hstarts rest

theorem eq_of_decodes (h : Decodes bs cs) : cs = ofOctets bs := by
  induction h with
  | nil => rfl
  | char c _ ih => rw [ofOctets, readFrom_utf8EncodeChar, ih, ofOctets]
  | broken hbroken _ ih => rw [ofOctets, readFrom_broken hbroken, ih, ofOctets]

/-- Where no character can be read there is a piece to replace. -/
theorem exists_broken (hbs : bs ≠ []) (h : ∀ c, ¬String.utf8EncodeChar c <+: bs) :
    ∃ piece rest, bs = piece ++ rest ∧ Broken piece rest := by
  classical
  let starts (n : Nat) : Prop := StartsChar (bs.take n)
  let n := max 1 (Nat.findGreatest starts bs.length)
  have hlength : (bs.take n).length = n := by
    have hpos := List.length_pos_iff.mpr hbs
    have hle := Nat.findGreatest_le (P := starts) bs.length
    rw [List.length_take]
    omega
  have hsplit : bs.take n ++ bs.drop n = bs := List.take_append_drop ..
  refine ⟨bs.take n, bs.drop n, hsplit.symm, ?_, ?_, ?_, ?_⟩
  · rwa [hsplit]
  · exact List.ne_nil_of_length_pos (by omega)
  · rw [hlength]
    rcases Nat.lt_or_ge 1 (Nat.findGreatest starts bs.length) with hmore | hone
    · have hstarts : starts n := by
        have hn : n = Nat.findGreatest starts bs.length := by omega
        rw [hn]
        exact Nat.findGreatest_of_ne_zero rfl (by omega)
      exact .inl hstarts
    · exact .inr (by omega)
  · rw [hsplit, hlength]
    intro other hother hstarts
    have htake : bs.take other.length = other := (List.prefix_iff_eq_take.mp hother).symm
    have hthere : starts other.length := by
      show StartsChar (bs.take other.length)
      rwa [htake]
    have hgreatest := Nat.le_findGreatest hother.length_le hthere
    omega

theorem exists_decodes (bs : List UInt8) : ∃ cs, Decodes bs cs := by
  induction hlength : bs.length using Nat.strong_induction_on generalizing bs with
  | _ n ih =>
    rcases eq_or_ne bs [] with rfl | hbs
    · exact ⟨[], .nil⟩
    by_cases hread : ∃ c, String.utf8EncodeChar c <+: bs
    · obtain ⟨c, rest, rfl⟩ := hread
      have hpos : 0 < (String.utf8EncodeChar c).length := by
        rw [String.length_utf8EncodeChar]
        exact Char.utf8Size_pos c
      obtain ⟨cs, hcs⟩ := ih rest.length (by rw [← hlength, List.length_append]; omega) rest rfl
      exact ⟨_, .char c hcs⟩
    · obtain ⟨piece, rest, rfl, hbroken⟩ := exists_broken hbs (not_exists.mp hread)
      have hpos := List.length_pos_iff.mpr hbroken.nonempty
      obtain ⟨cs, hcs⟩ := ih rest.length (by rw [← hlength, List.length_append]; omega) rest rfl
      exact ⟨_, .broken hbroken hcs⟩

/-- Any octets stand for one text, and this is what is read. -/
theorem decodes_iff : Decodes bs cs ↔ cs = ofOctets bs := by
  refine ⟨eq_of_decodes, ?_⟩
  rintro rfl
  obtain ⟨cs, hcs⟩ := exists_decodes bs
  rwa [← eq_of_decodes hcs]

end Reading

end QueryTrace.Text
