import Mathlib
import QueryTrace.Text.Octets

/-!
# Reading octets back

Reading a text that was written gives the text back (`ofOctets_octets`), also behind octets that
are no text: an ASCII octet is always read as its own character, whatever piece of a character
stands open before it, and no other octet is ever read as that character. So a text that starts
with an ASCII character can be cut out of what was read by looking for that character
(`dropWhile_ofOctets`).
-/

namespace QueryTrace.Text

/-! ## What the machine is in the middle of -/

/-- The octets that continue an open character are no ASCII octets, and the character that they
finish is no ASCII character. -/
structure OpenChar.Sound (c : OpenChar) : Prop where
  low : 0x80 ≤ c.low
  high : c.high ≤ 0xBF
  beyond : 0x80 ≤ (c.bits * 64 + (c.low - 0x80)) * 64 ^ c.after

/-- The machine is at rest, or in the middle of a character that is no ASCII character. -/
def SoundState (state : Option OpenChar) : Prop :=
  ∀ c ∈ state, c.Sound

theorem soundState_none : SoundState none := fun _ h => by cases h

theorem soundState_open {bits low high after : Nat} (hlow : 0x80 ≤ low) (hhigh : high ≤ 0xBF)
    (hbeyond : 0x80 ≤ (bits * 64 + (low - 0x80)) * 64 ^ after) :
    SoundState (some ⟨bits, low, high, after⟩) := by
  intro c hc
  obtain rfl := Option.mem_some.mp hc
  exact ⟨hlow, hhigh, hbeyond⟩

theorem soundState_firstOctet (b : Nat) : SoundState (firstOctet b).2 := by
  unfold firstOctet
  split_ifs
  case pos => exact soundState_none
  case neg => exact soundState_none
  all_goals exact soundState_open (by omega) (by omega) (by omega)

/-- An ASCII octet ends whatever stands open, and is read as its own character. -/
theorem nextOctet_ascii {state : Option OpenChar} (h : SoundState state) {b : Nat}
    (hb : b ≤ 0x7F) : nextOctet state b =
      (state.toList.map (fun _ => replacement) ++ [Char.ofNat b], none) := by
  have hfirst : firstOctet b = ([Char.ofNat b], none) := if_pos hb
  cases state with
  | none => exact hfirst
  | some c =>
    have hlow := (h c rfl).low
    have hout : ¬(c.low ≤ b ∧ b ≤ c.high) := by omega
    simp [nextOctet, hout, hfirst]

theorem soundState_nextOctet {state : Option OpenChar} (h : SoundState state) (b : Nat) :
    SoundState (nextOctet state b).2 := by
  cases state with
  | none => exact soundState_firstOctet b
  | some c =>
    obtain ⟨hlow, hhigh, hbeyond⟩ := h c rfl
    simp only [nextOctet]
    split_ifs with hin
    · -- Any octet that continues the character adds at least the bits of the least one.
      have hbits : c.bits * 64 + (c.low - 0x80) ≤ c.bits * 64 + b % 64 := by omega
      cases hafter : c.after with
      | zero => exact soundState_none
      | succ n =>
        rw [hafter] at hbeyond
        refine soundState_open le_rfl le_rfl ?_
        calc 0x80 ≤ (c.bits * 64 + (c.low - 0x80)) * 64 ^ (n + 1) := hbeyond
          _ ≤ (c.bits * 64 + b % 64) * 64 ^ (n + 1) := Nat.mul_le_mul_right _ hbits
          _ = ((c.bits * 64 + b % 64) * 64 + 0) * 64 ^ n := by ring
    · exact soundState_firstOctet b

/-! ## ASCII characters -/

theorem replacement_ne {d : Char} (hd : d.toNat ≤ 0x7F) : d ≠ replacement := by
  rintro rfl
  exact absurd hd (by decide)

/-- A character that is made of a number is that number or, out of range, the character zero. -/
theorem toNat_eq_of_ofNat {n : Nat} {d : Char} (h : Char.ofNat n = d) (hd : 0 < d.toNat) :
    n = d.toNat := by
  subst h
  rw [Char.toNat_ofNat] at hd ⊢
  split_ifs at hd ⊢ with hvalid
  · rfl
  · exact absurd hd (lt_irrefl 0)

theorem eq_of_mem_firstOctet {b : Nat} {d : Char} (hd : 0 < d.toNat ∧ d.toNat ≤ 0x7F)
    (h : d ∈ (firstOctet b).1) : b = d.toNat := by
  unfold firstOctet at h
  split_ifs at h
  case pos => exact toNat_eq_of_ofNat (List.mem_singleton.mp h).symm hd.1
  case neg => exact absurd (List.mem_singleton.mp h) (replacement_ne hd.2)
  all_goals exact absurd h List.not_mem_nil

/-- An ASCII character is read from its own octet only. -/
theorem eq_of_mem_nextOctet {state : Option OpenChar} (hstate : SoundState state) {b : Nat}
    {d : Char} (hd : 0 < d.toNat ∧ d.toNat ≤ 0x7F) (h : d ∈ (nextOctet state b).1) :
    b = d.toNat := by
  cases state with
  | none => exact eq_of_mem_firstOctet hd h
  | some c =>
    obtain ⟨hlow, hhigh, hbeyond⟩ := hstate c rfl
    simp only [nextOctet] at h
    split_ifs at h with hin
    · cases hafter : c.after with
      | zero =>
        -- The character that is finished here lies beyond ASCII.
        rw [hafter] at h hbeyond
        have hnat := toNat_eq_of_ofNat (List.mem_singleton.mp h).symm hd.1
        omega
      | succ n =>
        rw [hafter] at h
        cases h
    · rcases List.mem_cons.mp h with h | h
      · exact absurd h (replacement_ne hd.2)
      · exact eq_of_mem_firstOctet hd h

theorem exists_of_mem_readFrom {bs : List UInt8} {state : Option OpenChar}
    (hstate : SoundState state) {d : Char} (hd : 0 < d.toNat ∧ d.toNat ≤ 0x7F)
    (h : d ∈ readFrom state bs) : ∃ b ∈ bs, b.toNat = d.toNat := by
  induction bs generalizing state with
  | nil =>
    cases state with
    | none => cases h
    | some c => exact absurd (List.mem_singleton.mp h) (replacement_ne hd.2)
  | cons b bs ih =>
    rw [readFrom] at h
    rcases List.mem_append.mp h with h | h
    · exact ⟨b, List.mem_cons_self, eq_of_mem_nextOctet hstate hd h⟩
    · obtain ⟨x, hx, hxd⟩ := ih (soundState_nextOctet hstate b.toNat) h
      exact ⟨x, List.mem_cons_of_mem b hx, hxd⟩

/-- What is read up to an ASCII octet is what is read when the octets end there. -/
theorem readFrom_append_ascii {b : UInt8} (hb : b.toNat ≤ 0x7F) (rest bs : List UInt8)
    {state : Option OpenChar} (hstate : SoundState state) : readFrom state (bs ++ b :: rest) =
      readFrom state bs ++ Char.ofNat b.toNat :: ofOctets rest := by
  induction bs generalizing state with
  | nil =>
    rw [List.nil_append, readFrom, nextOctet_ascii hstate hb]
    cases state <;> rfl
  | cons x bs ih =>
    rw [List.cons_append, readFrom, ih (soundState_nextOctet hstate x.toNat), readFrom,
      List.append_assoc]

/-- An ASCII character is not read where its octet is missing. -/
theorem not_mem_ofOctets {b : UInt8} (hb : 0 < b.toNat ∧ b.toNat ≤ 0x7F) {bs : List UInt8}
    (hbs : b ∉ bs) : Char.ofNat b.toNat ∉ ofOctets bs := by
  intro hmem
  have hchar : (Char.ofNat b.toNat).toNat = b.toNat := by
    rw [Char.toNat_ofNat, if_pos (.inl (by omega))]
  obtain ⟨x, hx, hxb⟩ := exists_of_mem_readFrom soundState_none (by rwa [hchar]) hmem
  rw [hchar] at hxb
  exact hbs (UInt8.toNat_inj.mp hxb ▸ hx)

/-- What is read can be cut at the first octet of an ASCII character, whatever stands before it. -/
theorem dropWhile_ofOctets {b : UInt8} (hb : 0 < b.toNat ∧ b.toNat ≤ 0x7F) {bs : List UInt8}
    (hbs : b ∉ bs) (rest : List UInt8) :
    (ofOctets (bs ++ b :: rest)).dropWhile (· ≠ Char.ofNat b.toNat) =
      Char.ofNat b.toNat :: ofOctets rest := by
  have hbefore (d : Char) (hd : d ∈ ofOctets bs) : (d ≠ Char.ofNat b.toNat : Bool) = true := by
    rw [decide_eq_true_eq]
    rintro rfl
    exact not_mem_ofOctets hb hbs hd
  have hcut : ofOctets (bs ++ b :: rest) = ofOctets bs ++ Char.ofNat b.toNat :: ofOctets rest :=
    readFrom_append_ascii hb.2 rest bs soundState_none
  rw [hcut, List.dropWhile_append_of_pos hbefore]
  simp

/-! ## Characters that were written -/

theorem toNat_ofNat_of_lt {n : Nat} (h : n < 256) : (UInt8.ofNat n).toNat = n := by
  rw [UInt8.toNat_ofNat', Nat.mod_eq_of_lt h]

section Written

variable {v bits low high : Nat} (bs : List UInt8)

/-- The octet that finishes a character. -/
theorem readFrom_last (h : low ≤ v % 64 + 0x80 ∧ v % 64 + 0x80 ≤ high) :
    readFrom (some ⟨bits, low, high, 0⟩) (UInt8.ofNat (v % 64 + 0x80) :: bs) =
      Char.ofNat (bits * 64 + v % 64) :: readFrom none bs := by
  have hbits : (v % 64 + 0x80) % 64 = v % 64 := by omega
  rw [readFrom, toNat_ofNat_of_lt (by omega), nextOctet, if_pos h, hbits]
  rfl

/-- An octet that continues a character. -/
theorem readFrom_more (h : low ≤ v % 64 + 0x80 ∧ v % 64 + 0x80 ≤ high) (n : Nat) :
    readFrom (some ⟨bits, low, high, n + 1⟩) (UInt8.ofNat (v % 64 + 0x80) :: bs) =
      readFrom (some ⟨bits * 64 + v % 64, 0x80, 0xBF, n⟩) bs := by
  have hbits : (v % 64 + 0x80) % 64 = v % 64 := by omega
  rw [readFrom, toNat_ofNat_of_lt (by omega), nextOctet, if_pos h, hbits]
  rfl

/-- An octet that starts a longer character. -/
theorem readFrom_first {b : Nat} {c : OpenChar} (hb : b < 256) (h : firstOctet b = ([], some c)) :
    readFrom none (UInt8.ofNat b :: bs) = readFrom (some c) bs := by
  rw [readFrom, toNat_ofNat_of_lt hb, nextOctet, h]
  rfl

theorem readFrom_two (hv : 0x80 ≤ v ∧ v ≤ 0x7FF) :
    readFrom none (UInt8.ofNat (v / 64 % 32 + 0xC0) :: UInt8.ofNat (v % 64 + 0x80) :: bs) =
      Char.ofNat v :: readFrom none bs := by
  have hfirst : firstOctet (v / 64 % 32 + 0xC0) = ([], some ⟨v / 64, 0x80, 0xBF, 0⟩) := by
    have hbits : (v / 64 % 32 + 0xC0) % 32 = v / 64 := by omega
    rw [firstOctet, if_neg (by omega), if_pos (by omega), hbits]
  have hbits : v / 64 * 64 + v % 64 = v := by omega
  rw [readFrom_first _ (by omega) hfirst, readFrom_last _ (by omega), hbits]

/-- The second octet of a character of three octets tells it from the characters that are written
shorter, and from the surrogates. -/
theorem firstOctet_three (hv : 0x800 ≤ v ∧ v ≤ 0xFFFF) (hvalid : v < 0xD800 ∨ 0xDFFF < v) :
    ∃ low high, firstOctet (v / 4096 % 16 + 0xE0) = ([], some ⟨v / 4096, low, high, 1⟩) ∧
      low ≤ v / 64 % 64 + 0x80 ∧ v / 64 % 64 + 0x80 ≤ high := by
  have hbits : (v / 4096 % 16 + 0xE0) % 16 = v / 4096 := by omega
  unfold firstOctet
  rw [hbits]
  split_ifs
  case pos => omega
  case pos => omega
  case pos => exact ⟨0xA0, 0xBF, rfl, by omega, by omega⟩
  case pos => exact ⟨0x80, 0x9F, rfl, by omega, by omega⟩
  case pos => exact ⟨0x80, 0xBF, rfl, by omega, by omega⟩
  all_goals omega

theorem readFrom_three (hv : 0x800 ≤ v ∧ v ≤ 0xFFFF) (hvalid : v < 0xD800 ∨ 0xDFFF < v) :
    readFrom none (UInt8.ofNat (v / 4096 % 16 + 0xE0) :: UInt8.ofNat (v / 64 % 64 + 0x80) ::
      UInt8.ofNat (v % 64 + 0x80) :: bs) = Char.ofNat v :: readFrom none bs := by
  obtain ⟨low, high, hfirst, hsecond⟩ := firstOctet_three hv hvalid
  have hbits : (v / 4096 * 64 + v / 64 % 64) * 64 + v % 64 = v := by omega
  rw [readFrom_first _ (by omega) hfirst, readFrom_more _ hsecond, readFrom_last _ (by omega),
    hbits]

/-- The second octet of a character of four octets tells it from the characters that are written
shorter, and keeps it in the range of Unicode. -/
theorem firstOctet_four (hv : 0x10000 ≤ v ∧ v < 0x110000) :
    ∃ low high, firstOctet (v / 262144 % 8 + 0xF0) = ([], some ⟨v / 262144, low, high, 2⟩) ∧
      low ≤ v / 4096 % 64 + 0x80 ∧ v / 4096 % 64 + 0x80 ≤ high := by
  have hbits : (v / 262144 % 8 + 0xF0) % 8 = v / 262144 := by omega
  unfold firstOctet
  rw [hbits]
  split_ifs
  case pos => omega
  case pos => omega
  case pos => omega
  case pos => omega
  case pos => omega
  case pos => exact ⟨0x90, 0xBF, rfl, by omega, by omega⟩
  case pos => exact ⟨0x80, 0xBF, rfl, by omega, by omega⟩
  case pos => exact ⟨0x80, 0x8F, rfl, by omega, by omega⟩
  case neg => omega

theorem readFrom_four (hv : 0x10000 ≤ v ∧ v < 0x110000) :
    readFrom none (UInt8.ofNat (v / 262144 % 8 + 0xF0) :: UInt8.ofNat (v / 4096 % 64 + 0x80) ::
      UInt8.ofNat (v / 64 % 64 + 0x80) :: UInt8.ofNat (v % 64 + 0x80) :: bs) =
        Char.ofNat v :: readFrom none bs := by
  obtain ⟨low, high, hfirst, hsecond⟩ := firstOctet_four hv
  have hbits : ((v / 262144 * 64 + v / 4096 % 64) * 64 + v / 64 % 64) * 64 + v % 64 = v := by omega
  rw [readFrom_first _ (by omega) hfirst, readFrom_more _ hsecond, readFrom_more _ (by omega),
    readFrom_last _ (by omega), hbits]

end Written

theorem readFrom_utf8EncodeChar (c : Char) (bs : List UInt8) :
    readFrom none (String.utf8EncodeChar c ++ bs) = c :: readFrom none bs := by
  have hvalid : c.val.toNat < 0xD800 ∨ 0xDFFF < c.val.toNat ∧ c.val.toNat < 0x110000 := c.valid
  have hchar : Char.ofNat c.val.toNat = c := Char.ofNat_toNat c
  conv_rhs => rw [← hchar]
  fun_cases String.utf8EncodeChar c with
  | case1 v hv =>
    rw [List.singleton_append, readFrom, toNat_ofNat_of_lt (by omega),
      nextOctet_ascii soundState_none hv]
    rfl
  | case2 v _ hv => exact readFrom_two bs (by omega)
  | case3 v _ _ hv => exact readFrom_three bs (by omega) (by omega)
  | case4 v _ _ hv => exact readFrom_four bs (by omega)

theorem octets_append (cs ds : List Char) : octets (cs ++ ds) = octets cs ++ octets ds :=
  List.flatMap_append

theorem octets_cons_ascii {c : Char} (hc : c.toNat ≤ 0x7F) (cs : List Char) :
    octets (c :: cs) = UInt8.ofNat c.toNat :: octets cs := by
  have hval : c.val.toNat ≤ 0x7F := hc
  have hone : String.utf8EncodeChar c = [UInt8.ofNat c.toNat] := by
    simp only [String.utf8EncodeChar]
    exact if_pos hval
  rw [octets, List.flatMap_cons, hone]
  rfl

/-- A text that was written is read back. -/
theorem ofOctets_octets (cs : List Char) : ofOctets (octets cs) = cs := by
  induction cs with
  | nil => rfl
  | cons c cs ih =>
    have hcons : octets (c :: cs) = String.utf8EncodeChar c ++ octets cs := List.flatMap_cons
    rw [hcons, ofOctets, readFrom_utf8EncodeChar]
    exact congrArg (c :: ·) ih

end QueryTrace.Text
