import QueryTrace.Driver.Wire
import QueryTrace.Proofs.Opcode.Requests

/-!
# What the opening of a request shows of its query

The opening of a request ends at the first closing bracket, if not before. So the wire form of a
node that is an array shows some numbers and hides all that follows it, and a node that is built on
it shows the same numbers behind its own. Two requests are summarised alike if their wire forms show
the same numbers.
-/

namespace QueryTrace

open Opcode

namespace Value

/-- The value shows these numbers where it stands in an opening, and hides what follows it. -/
def Opens (v : Value) (codes : List Nat) : Prop :=
  ∀ rest, Reads (v.chars ++ rest) codes

/-- The values show the same numbers where they stand in an opening, and hide what follows them. -/
def OpensLike (v v' : Value) : Prop :=
  ∃ codes, v.Opens codes ∧ v'.Opens codes

variable {v : Value} {codes : List Nat}

/-- A value whose text cannot stand in an opening shows nothing. -/
theorem opens_of_head {c : Char} {cs : List Char} (hv : v.chars = c :: cs)
    (hc : isOpening c = false) : v.Opens [] := by
  intro rest
  rw [hv]
  exact reads_of_not_isOpening hc _

theorem opens_string (s : String) : (Value.string s).Opens [] :=
  opens_of_head rfl (by decide +kernel)

/-- The numbers of an array are those of its first items, as far as they are shown. -/
theorem opens_array {items : List Value}
    (h : ∀ rest, Reads (itemChars items ++ ']' :: rest) codes) :
    (Value.array items).Opens codes := by
  intro rest
  have hchars : (Value.array items).chars ++ rest = '[' :: (itemChars items ++ ']' :: rest) := by
    simp [Value.chars]
  rw [hchars]
  exact (h rest).cons (by decide +kernel) isDigit_bracket

theorem reads_closing (rest : List Char) : Reads (']' :: rest) [] :=
  reads_of_not_isOpening isOpening_closing rest

/-- What follows an item that hides it is not read. -/
theorem Opens.items (h : v.Opens codes) (items : List Value) (rest : List Char) :
    Reads (itemChars (v :: items) ++ ']' :: rest) codes := by
  cases items with
  | nil => simpa [itemChars] using h (']' :: rest)
  | cons w items => simpa [itemChars] using h (',' :: (itemChars (w :: items) ++ ']' :: rest))

/-- A word in front of other items is the first number. -/
theorem reads_word_items (code : UInt64) {v : Value} {items : List Value} {rest : List Char}
    (h : Reads (itemChars (v :: items) ++ ']' :: rest) codes) :
    Reads (itemChars (.ofWord code :: v :: items) ++ ']' :: rest) (code.toNat :: codes) := by
  have hcomma : Reads (',' :: (itemChars (v :: items) ++ ']' :: rest)) codes :=
    h.cons (by decide +kernel) isDigit_comma
  have hword := hcomma.append (apart_cons isDigit_comma _) Nat.toDigits_ne_nil
    (fun _ => isDigit_of_mem_toDigits) (by rw [decimal_toDigits]; exact code.toNat_lt)
  rw [decimal_toDigits] at hword
  have hchars : itemChars (.ofWord code :: v :: items) ++ ']' :: rest =
      Nat.toDigits 10 code.toNat ++ ',' :: (itemChars (v :: items) ++ ']' :: rest) := by
    simp [itemChars, chars_ofWord]
  rwa [hchars]

/-- An array of a word and a value that hides what follows. -/
theorem opens_word (code : UInt64) (h : v.Opens codes) (items : List Value) :
    (Value.array (.ofWord code :: v :: items)).Opens (code.toNat :: codes) :=
  opens_array fun rest => reads_word_items code (h.items items rest)

end Value

namespace Wire

variable {node : Value} {codes : List Nat}

theorem exists_term (code : Nat) (operands : List Value) (args : Args) :
    ∃ options, term code operands args =
      .array (.ofWord (.ofNat code) :: .array (operands ++ args.positional) :: options) := by
  unfold term
  dsimp only
  split
  · exact ⟨[], rfl⟩
  · exact ⟨[args.options], rfl⟩

/-- A node shows its own term before those of the node that it is built on. -/
theorem opens_chain (h : node.Opens codes) (method : String) (args : Args) :
    (chain node method args).Opens ((UInt64.ofNat (code method)).toNat :: codes) := by
  obtain ⟨options, hterm⟩ := exists_term (code method) [node] args
  rw [chain, hterm]
  exact Value.opens_word _ (Value.opens_array fun rest => h.items args.positional rest) options

/-- Whatever the arguments of the call are, nodes that are built on like nodes open alike. -/
theorem opensLike_chain {node' : Value} (h : node.OpensLike node') (method : String)
    (args args' : Args) : (chain node method args).OpensLike (chain node' method args') := by
  obtain ⟨codes, hnode, hnode'⟩ := h
  exact ⟨_, opens_chain hnode method args, opens_chain hnode' method args'⟩

/-- A root call without positional arguments, or with one first that shows nothing, shows its own
term alone. -/
theorem opens_root {method : String} (hmethod : method ≠ "expr") {args : Args}
    (h : ∀ v ∈ args.positional.head?, v.Opens []) :
    (root method args).Opens [(UInt64.ofNat (code method)).toNat] := by
  obtain ⟨options, hterm⟩ := exists_term (code method) [] args
  rw [root, if_neg hmethod, hterm]
  refine Value.opens_word _ (Value.opens_array fun rest => ?_) options
  cases hargs : args.positional with
  | nil => exact Value.reads_closing rest
  | cons v items => exact (h v (by simp [hargs])).items items rest

end Wire

namespace Request

/-- The requests are summarised alike by their openings. -/
def Akin (request request' : Request) : Prop :=
  ∀ root, Summary.ofRequest request.rendered root = Summary.ofRequest request'.rendered root

theorem Akin.refl (request : Request) : request.Akin request := fun _ => rfl

/-- A request to evaluate a query is summarised by the numbers that the node shows, whatever the
options. -/
theorem summary_start {wire : Value} {codes : List Nat} (h : wire.Opens codes) (options : Value)
    (root : String) : Summary.ofRequest (start wire options).rendered root =
      ⟨.start, Summary.pathOf root .start codes⟩ := by
  have hrendered : (start wire options).rendered = (Value.array [.ofWord 1, wire, options]).text :=
    rendered_array (by decide : 0x5B ∉ header) rfl
  have hread := read_of_reads (by simpa using Value.opens_word 1 h [options] []) root
  rw [Summary.ofRequest, hrendered, hread]
  rfl

/-- To start queries whose nodes show the same numbers is summarised alike, whatever the options. -/
theorem akin_start {wire wire' : Value} (h : wire.OpensLike wire') (options options' : Value) :
    (start wire options).Akin (start wire' options') := by
  obtain ⟨codes, hwire, hwire'⟩ := h
  intro root
  rw [summary_start hwire, summary_start hwire']

end Request

end QueryTrace
