import QueryTrace.Call.Chain
import QueryTrace.Proofs.Text.Octets

/-!
# The keys of calls

The key of a call is a number sign, its position in decimal with at least two digits, a point, and
the name of the call. Position and name can be read back (`readKey_key`), so no two positions share
a key, whatever the calls are named.

Texts are ordered by their octets. The order of two keys is decided by their positions alone, since
a point is smaller than any digit: of two numbers the one that is shown first is the one with the
smaller digits in front, not the smaller one (`before_key_iff`). The two orders are the same as long
as both positions show the same number of digits.
-/

namespace QueryTrace

/-- The order of texts by their octets in UTF-8. -/
def Text.Before (a b : String) : Prop :=
  octets a.toList < octets b.toList

namespace Chain

open Text

/-! ## Positions in decimal -/

theorem toList_twoDigits (n : Nat) :
    (twoDigits n).toList = (Nat.toDigits 10 n).leftpad 2 '0' := by
  have hdigits : (toString n).toList = Nat.toDigits 10 n := by simp
  unfold twoDigits
  split
  · next hn =>
    rw [String.toList_append, hdigits, Nat.toDigits_of_lt_base hn]
    rfl
  · next hn =>
    have hlength : ¬(Nat.toDigits 10 n).length ≤ 1 := by
      rw [Nat.length_toDigits_le_iff (by decide) (by decide)]
      omega
    have hnone : 2 - (Nat.toDigits 10 n).length = 0 := by omega
    rw [hdigits, List.leftpad, hnone, List.replicate_zero, List.nil_append]

/-- How many digits the number of a position shows. -/
def width (position : Nat) : Nat :=
  max 2 (Nat.toDigits 10 position).length

theorem length_twoDigits (n : Nat) : (twoDigits n).toList.length = width n := by
  rw [toList_twoDigits, List.length_leftpad, width]

theorem width_le_iff {n k : Nat} (hk : 2 ≤ k) : width n ≤ k ↔ n < 10 ^ k := by
  have hdigits := Nat.length_toDigits_le_iff (b := 10) (n := n) (k := k) (by decide) (by omega)
  rw [width, Nat.max_le, hdigits, and_iff_right hk]

theorem width_mono {i j : Nat} (h : i ≤ j) : width i ≤ width j := by
  have htwo : 2 ≤ width j := Nat.le_max_left ..
  exact (width_le_iff htwo).mpr (Nat.lt_of_le_of_lt h ((width_le_iff htwo).mp le_rfl))

/-- Zeros in front do not change the number. -/
theorem ofDigitChars_twoDigits (n : Nat) : Nat.ofDigitChars 10 (twoDigits n).toList 0 = n := by
  rw [toList_twoDigits, List.leftpad, Nat.ofDigitChars_append, Nat.ofDigitChars_replicate_zero,
    Nat.mul_zero, Nat.ofDigitChars_ten_toDigits]

theorem isDigit_of_mem_twoDigits {n : Nat} {c : Char} (h : c ∈ (twoDigits n).toList) :
    c.isDigit = true := by
  rw [toList_twoDigits, List.leftpad] at h
  rcases List.mem_append.mp h with hzero | hc
  · rw [(List.mem_replicate.mp hzero).2]
    rfl
  · exact Nat.isDigit_of_mem_toDigits (by decide) (by decide) hc

/-! ## Reading a key -/

theorem toList_key (position : Nat) (name : String) : (key position name).toList =
    '#' :: ((twoDigits position).toList ++ '.' :: name.toList) := by
  simp [key]

/-- The position and the name that a key tells: the number behind the number sign, and what follows
the point behind that. -/
def readKey (text : String) : Nat × String :=
  let behindSign := text.toList.drop 1
  (Nat.ofDigitChars 10 (behindSign.takeWhile Char.isDigit) 0,
    String.ofList ((behindSign.dropWhile Char.isDigit).drop 1))

/-- A point ends the digits of the position, whatever the name is. -/
theorem readKey_key (position : Nat) (name : String) :
    readKey (key position name) = (position, name) := by
  have hdigits (c : Char) (hc : c ∈ (twoDigits position).toList) : c.isDigit = true :=
    isDigit_of_mem_twoDigits hc
  have htake : ((twoDigits position).toList ++ '.' :: name.toList).takeWhile Char.isDigit =
      (twoDigits position).toList := by
    rw [List.takeWhile_append_of_pos hdigits]
    simp
  have hdrop : ((twoDigits position).toList ++ '.' :: name.toList).dropWhile Char.isDigit =
      '.' :: name.toList := by
    rw [List.dropWhile_append_of_pos hdigits]
    simp
  simp only [readKey, toList_key, List.drop_succ_cons, List.drop_zero, htake, hdrop,
    ofDigitChars_twoDigits, String.ofList_toList]

/-- A key tells the position of its call, whatever the names of calls are. -/
theorem position_of_key {i j : Nat} {name other : String} (h : key i name = key j other) :
    i = j := by
  have hread := congrArg readKey h
  rw [readKey_key, readKey_key] at hread
  exact congrArg Prod.fst hread

theorem nodup_keys (calls : List (String × Args)) :
    (calls.mapIdx fun i call => key i call.1).Nodup := by
  rw [List.Nodup, List.pairwise_iff_getElem]
  intro i j hi hj hij hkey
  rw [List.getElem_mapIdx, List.getElem_mapIdx] at hkey
  exact hij.ne (position_of_key hkey)

end Chain

/-! ## The order of keys -/

namespace Text

/-! ### Numerals -/

/-- The first digit counts as often as the digits behind it can tell numbers. -/
theorem ofDigitChars_cons_digit (c : Char) (cs : List Char) : Nat.ofDigitChars 10 (c :: cs) 0 =
    10 ^ cs.length * (c.toNat - 48) + Nat.ofDigitChars 10 cs 0 := by
  rw [Nat.ofDigitChars_cons, Nat.ofDigitChars_eq_ofDigitChars_zero, Nat.mul_zero, Nat.zero_add]
  rfl

theorem ofDigitChars_lt {cs : List Char} (h : ∀ c ∈ cs, c.isDigit = true) :
    Nat.ofDigitChars 10 cs 0 < 10 ^ cs.length := by
  induction cs with
  | nil => decide
  | cons c cs ih =>
    obtain ⟨hc, hcs⟩ := List.forall_mem_cons.mp h
    have hdigit : 48 ≤ c.toNat ∧ c.toNat ≤ 57 := Char.isDigit_iff_toNat.mp hc
    rw [ofDigitChars_cons_digit, List.length_cons, Nat.pow_succ]
    calc 10 ^ cs.length * (c.toNat - 48) + Nat.ofDigitChars 10 cs 0
        < 10 ^ cs.length * (c.toNat - 48) + 10 ^ cs.length := Nat.add_lt_add_left (ih hcs) _
      _ = 10 ^ cs.length * (c.toNat - 48 + 1) := (Nat.mul_succ ..).symm
      _ ≤ 10 ^ cs.length * 10 := Nat.mul_le_mul_left _ (by omega)

/-- The number of the digits in front, if the last ones go. -/
theorem ofDigitChars_take {cs : List Char} (h : ∀ c ∈ cs, c.isDigit = true) (n : Nat) :
    Nat.ofDigitChars 10 (cs.take n) 0 =
      Nat.ofDigitChars 10 cs 0 / 10 ^ (cs.length - n) := by
  have hsplit : Nat.ofDigitChars 10 cs 0 = 10 ^ (cs.length - n) *
      Nat.ofDigitChars 10 (cs.take n) 0 + Nat.ofDigitChars 10 (cs.drop n) 0 := by
    conv_lhs => rw [← List.take_append_drop n cs]
    rw [Nat.ofDigitChars_append, Nat.ofDigitChars_eq_ofDigitChars_zero, List.length_drop]
  have hrest : Nat.ofDigitChars 10 (cs.drop n) 0 < 10 ^ (cs.length - n) := by
    rw [← List.length_drop]
    exact ofDigitChars_lt fun c hc => h c (List.mem_of_mem_drop hc)
  rw [hsplit, Nat.mul_add_div (Nat.pow_pos (by decide)), Nat.div_eq_of_lt hrest, Nat.add_zero]

/-- The digit in front decides before the digits behind it. -/
theorem leading_lt {p x y u : Nat} (hu : u < p) (h : x < y) (v : Nat) :
    p * x + u < p * y + v :=
  calc p * x + u < p * x + p := Nat.add_lt_add_left hu _
    _ = p * (x + 1) := (Nat.mul_succ ..).symm
    _ ≤ p * y := Nat.mul_le_mul_left p h
    _ ≤ p * y + v := Nat.le_add_right ..

/-- Of two numerals with the same number of digits, the smaller one comes first. What follows them
counts only if they are equal. -/
theorem octets_lt_iff {cs ds : List Char} (hcs : ∀ c ∈ cs, c.isDigit = true)
    (hds : ∀ d ∈ ds, d.isDigit = true) (hlength : cs.length = ds.length)
    (xs ys : List UInt8) : octets cs ++ xs < octets ds ++ ys ↔
      Nat.ofDigitChars 10 cs 0 < Nat.ofDigitChars 10 ds 0 ∨
        Nat.ofDigitChars 10 cs 0 = Nat.ofDigitChars 10 ds 0 ∧ xs < ys := by
  induction cs generalizing ds with
  | nil =>
    obtain rfl := List.length_eq_zero_iff.mp hlength.symm
    simp [octets]
  | cons c cs ih =>
    obtain ⟨d, ds, rfl⟩ := List.exists_cons_of_length_eq_add_one hlength.symm
    obtain ⟨hc, hcs⟩ := List.forall_mem_cons.mp hcs
    obtain ⟨hd, hds⟩ := List.forall_mem_cons.mp hds
    have hlength : cs.length = ds.length := Nat.succ.inj hlength
    have hcdigit : 48 ≤ c.toNat ∧ c.toNat ≤ 57 := Char.isDigit_iff_toNat.mp hc
    have hddigit : 48 ≤ d.toNat ∧ d.toNat ≤ 57 := Char.isDigit_iff_toNat.mp hd
    have hcless := ofDigitChars_lt hcs
    have hdless := ofDigitChars_lt hds
    rw [hlength] at hcless
    rw [octets_cons_ascii (by omega), octets_cons_ascii (by omega), List.cons_append,
      List.cons_append, List.cons_lt_cons_iff, UInt8.lt_iff_toNat_lt, ← UInt8.toNat_inj,
      toNat_ofNat_of_lt (by omega), toNat_ofNat_of_lt (by omega), ih hcs hds hlength,
      ofDigitChars_cons_digit, ofDigitChars_cons_digit, hlength]
    rcases Nat.lt_trichotomy c.toNat d.toNat with hlt | heq | hgt
    · exact iff_of_true (.inl hlt) (.inl (leading_lt hcless (by omega) _))
    · simp [heq]
    · have hless := leading_lt hdless (show d.toNat - 48 < c.toNat - 48 by omega)
        (Nat.ofDigitChars 10 cs 0)
      refine iff_of_false ?_ ?_
      · rintro (h | ⟨h, -⟩) <;> omega
      · rintro (h | ⟨h, -⟩) <;> omega

end Text

namespace Chain

open Text

theorem octets_key (position : Nat) (name : String) : octets (key position name).toList =
    0x23 :: (octets (twoDigits position).toList ++ 0x2E :: octets name.toList) := by
  rw [toList_key, octets_cons_ascii (by decide), octets_append, octets_cons_ascii (by decide)]
  rfl

/-- Of two keys the one comes first whose position is at most the number that the other position
shows in as many digits. The names of the calls do not count. -/
theorem before_key_iff {i j : Nat} (h : i < j) (name other : String) :
    Before (key i name) (key j other) ↔ i ≤ j / 10 ^ (width j - width i) := by
  have hi (c : Char) (hc : c ∈ (twoDigits i).toList) : c.isDigit = true :=
    isDigit_of_mem_twoDigits hc
  have hj (c : Char) (hc : c ∈ (twoDigits j).toList) : c.isDigit = true :=
    isDigit_of_mem_twoDigits hc
  let front := (twoDigits j).toList.take (width i)
  let behind := (twoDigits j).toList.drop (width i)
  have hlength : (twoDigits i).toList.length = front.length := by
    rw [List.length_take, length_twoDigits, length_twoDigits, Nat.min_eq_left (width_mono h.le)]
  have hfront : Nat.ofDigitChars 10 front 0 = j / 10 ^ (width j - width i) := by
    rw [ofDigitChars_take hj, ofDigitChars_twoDigits, length_twoDigits]
  have hsplit : octets (twoDigits j).toList = octets front ++ octets behind := by
    rw [← octets_append, List.take_append_drop]
  -- Where the digits in front are the same, a point is compared with one more digit.
  have hpoint (heq : i = j / 10 ^ (width j - width i)) :
      0x2E :: octets name.toList < octets behind ++ 0x2E :: octets other.toList := by
    cases hbehind : behind with
    | nil =>
      have hle : width j ≤ width i := by
        rw [← length_twoDigits j]
        exact List.drop_eq_nil_iff.mp hbehind
      rw [Nat.sub_eq_zero_of_le hle, Nat.pow_zero, Nat.div_one] at heq
      exact absurd heq h.ne
    | cons d ds =>
      have hmem : d ∈ behind := hbehind ▸ List.mem_cons_self
      have hd : 48 ≤ d.toNat ∧ d.toNat ≤ 57 :=
        Char.isDigit_iff_toNat.mp (hj d (List.mem_of_mem_drop hmem))
      rw [octets_cons_ascii (by omega), List.cons_append, List.cons_lt_cons_iff,
        UInt8.lt_iff_toNat_lt, toNat_ofNat_of_lt (by omega)]
      exact .inl (Nat.lt_of_lt_of_le (by decide) hd.1)
  rw [Before, octets_key, octets_key, List.cons_lt_cons_iff, hsplit, List.append_assoc,
    octets_lt_iff hi (fun c hc => hj c (List.mem_of_mem_take hc)) hlength, hfront,
    ofDigitChars_twoDigits, Nat.le_iff_lt_or_eq]
  constructor
  · rintro (hsign | ⟨-, hless | ⟨heq, -⟩⟩)
    · exact absurd hsign (by decide)
    · exact .inl hless
    · exact .inr heq
  · rintro (hless | heq)
    · exact .inr ⟨rfl, .inl hless⟩
    · exact .inr ⟨rfl, .inr ⟨heq, hpoint heq⟩⟩

end Chain

end QueryTrace
