/-
# Theory.Text — the string operations of Go's `strings` package

Only what the handlers use: `TrimSpace` (Unicode white space on both ends),
`TrimPrefix`, `Trim`, `HasPrefix`, `Contains`, `Split`, and `strconv.Atoi`.  Strings are compared byte for byte,
as Go does.
-/
import Mathlib.Algebra.Ring.Int.Defs
import Mathlib.Data.List.DropRight

namespace NewApi.Theory.Text
open List

def isSpace (c : Char) : Bool :=
  let n := c.toNat
  (9 ≤ n && n ≤ 13) || n == 0x20 || n == 0x85 || n == 0xA0 || n == 0x1680 ||
    (0x2000 ≤ n && n ≤ 0x200a) || n == 0x2028 || n == 0x2029 || n == 0x202f || n == 0x205f ||
    n == 0x3000

variable (s : String)

def trimSpace : String := String.ofList ((s.toList.dropWhile isSpace).rdropWhile isSpace)

def trimPrefix (pre : String) : String :=
  if pre.toList.isPrefixOf s.toList then String.ofList (s.toList.drop pre.toList.length) else s

/-- `strings.Trim` by one character. -/
def trimChar (c : Char) : String := String.ofList ((s.toList.dropWhile (· = c)).rdropWhile (· = c))

def hasPrefix (pre : String) : Bool := pre.toList.isPrefixOf s.toList

def contains (part : String) : Bool := s.toList.tails.any part.toList.isPrefixOf

/-- The parts between separators: the rest of one that was met is skipped. -/
def splitFrom (sep : List Char) : Nat → List Char → List Char → List (List Char)
  | _, part, [] => [part.reverse]
  | skip + 1, part, _ :: rest => splitFrom sep skip part rest
  | 0, part, c :: rest =>
    if sep.isPrefixOf (c :: rest) then part.reverse :: splitFrom sep (sep.length - 1) [] rest
    else splitFrom sep 0 (c :: part) rest

/-- `strings.Split` by a separator that is not empty. -/
def split (sep : String) : List String := (splitFrom sep.toList 0 [] s.toList).map String.ofList

theorem split_ne_nil (sep : String) : split s sep ≠ [] := by
  have some (skip part text) : splitFrom sep.toList skip part text ≠ [] := by
    fun_induction splitFrom sep.toList skip part text <;> simp_all
  simpa [split] using some 0 [] s.toList

/-- The number a row of decimal digits stands for. -/
def digits (text : List Char) : Option Int :=
  if text ≠ [] ∧ text.all Char.isDigit then
    some (text.foldl (fun value c => 10 * value + (c.toNat - '0'.toNat)) 0)
  else none

/-- `strconv.Atoi` with 64 bits. -/
def atoi : Option Int :=
  let signed := match s.toList with
    | '-' :: rest => (digits rest).map (- ·)
    | '+' :: rest => digits rest
    | rest => digits rest
  signed.filter fun value => -2 ^ 63 ≤ value && value < 2 ^ 63

theorem digits_toDigits (n : Nat) : digits (Nat.toDigits 10 n) = some n := by
  have numeric : ∀ c ∈ Nat.toDigits 10 n, c.isDigit = true :=
    fun c => Nat.isDigit_of_mem_toDigits (by decide) (by decide)
  have value (text : List Char) (numeric : ∀ c ∈ text, c.isDigit = true) (start : Nat) :
      text.foldl (fun value c => 10 * value + ((c.toNat : Int) - '0'.toNat)) (start : Int) =
        Nat.ofDigitChars 10 text start := by
    induction text generalizing start with
    | nil => rfl
    | cons c rest step =>
      have least : '0'.toNat ≤ c.toNat := by
        have := numeric c mem_cons_self
        simp only [Char.isDigit, Bool.and_eq_true, decide_eq_true_eq] at this
        exact this.1
      rw [foldl_cons, Nat.ofDigitChars_cons, ← step fun c there => numeric c (mem_cons_of_mem _ there), Nat.cast_add,
        Nat.cast_sub least]
      rfl
  rw [digits, if_pos ⟨Nat.toDigits_ne_nil, all_eq_true.mpr numeric⟩]
  exact congrArg some ((value _ numeric 0).trans (by rw [Nat.ofDigitChars_ten_toDigits]))

/-- `Atoi` reads back what `%d` prints. -/
theorem atoi_toString {n : Int} (least : -2 ^ 63 ≤ n) (most : n < 2 ^ 63) : atoi (toString n) = some n := by
  refine Option.filter_eq_some_iff.mpr ⟨?_, by simpa using ⟨least, most⟩⟩
  cases n with
  | ofNat m =>
    have text : (toString (Int.ofNat m)).toList = Nat.toDigits 10 m := Nat.toList_repr
    rw [text]
    have signless (c : Char) (tail : List Char) (whole : Nat.toDigits 10 m = c :: tail) : c.isDigit = true :=
      Nat.isDigit_of_mem_toDigits (by decide) (by decide) (whole ▸ mem_cons_self)
    split
    · cases signless _ _ ‹_›
    · cases signless _ _ ‹_›
    · exact digits_toDigits m
  | negSucc m =>
    have text : (toString (Int.negSucc m)).toList = '-' :: Nat.toDigits 10 (m + 1) := by
      rw [Int.toString_eq_repr]
      simp [Int.repr]
    simp only [text, digits_toDigits]
    rfl

/-- Dropping from the right keeps a head that is not white space. -/
theorem dropWhile_rdropWhile (p : Char → Bool) (l : List Char) :
    ((l.dropWhile p).rdropWhile p).dropWhile p = (l.dropWhile p).rdropWhile p := by
  obtain ⟨tail, whole⟩ := rdropWhile_prefix p (l := l.dropWhile p)
  cases kept : (l.dropWhile p).rdropWhile p with
  | nil => rfl
  | cons c rest =>
    rw [kept] at whole
    have head := head?_dropWhile_not p l
    rw [← whole] at head
    exact dropWhile_cons_of_neg (by simpa using head)

theorem trimSpace_eq_empty {s : String} : trimSpace s = "" ↔ ∀ c ∈ s.toList, isSpace c = true := by
  have whole (l : List Char) : String.ofList l = "" ↔ l = [] := by simp
  rw [trimSpace, whole, rdropWhile_eq_nil_iff]
  constructor
  · intro dropped c mem
    rw [← takeWhile_append_dropWhile (p := isSpace) (l := s.toList), mem_append] at mem
    exact mem.elim mem_takeWhile_imp (dropped c)
  · exact fun spaces c mem => spaces c ((dropWhile_suffix _).subset mem)

@[simp] theorem trimSpace_trimSpace : trimSpace (trimSpace s) = trimSpace s := by
  unfold trimSpace
  rw [String.toList_ofList, dropWhile_rdropWhile, rdropWhile_idempotent]

end NewApi.Theory.Text
