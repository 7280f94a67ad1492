import Mathlib.Tactic.Common
import Mathlib.Tactic.IntervalCases

/-!
# Tables as text

Numbers with their digits, rows of columns between separators, and lines. Each of these is read back as it
was printed, as long as no separator is part of what it separates.
-/

namespace TextTable

/-! ### Numbers -/

def digitValue (char : Char) : Nat :=
  if char.isDigit then char.toNat - '0'.toNat else char.toNat - 'a'.toNat + 10

theorem digitValue_digitChar {digit : Nat} (hdigit : digit < 16) :
    digitValue digit.digitChar = digit := by
  interval_cases digit <;> rfl

def readNat (base : Nat) (text : List Char) : Nat :=
  text.foldl (fun value char => base * value + digitValue char) 0

theorem readNat_concat (base : Nat) (text : List Char) (char : Char) :
    readNat base (text ++ [char]) = base * readNat base text + digitValue char := by
  rw [readNat, List.foldl_append]
  rfl

section Base

variable {base : Nat} (hbase : 1 < base) (hle : base ≤ 16)

include hbase hle

theorem readNat_toDigits (number : Nat) : readNat base (Nat.toDigits base number) = number := by
  induction number using Nat.strongRecOn with
  | ind number ih =>
      rw [Nat.toDigits_eq_if hbase]
      split_ifs with hlt
      · have hdigit := readNat_concat base [] number.digitChar
        rw [List.nil_append, digitValue_digitChar (by omega)] at hdigit
        rw [hdigit]
        exact Nat.zero_add number
      · have hlast : number % base < base := Nat.mod_lt number (by omega)
        rw [readNat_concat, ih (number / base) (Nat.div_lt_self (by omega) hbase),
          digitValue_digitChar (by omega), Nat.div_add_mod]

theorem exists_of_mem_toDigits {number : Nat} {char : Char} (hmem : char ∈ Nat.toDigits base number) :
    ∃ digit < 16, char = digit.digitChar := by
  induction number using Nat.strongRecOn with
  | ind number ih =>
      rw [Nat.toDigits_eq_if hbase] at hmem
      split_ifs at hmem with hlt
      · exact ⟨number, by omega, List.mem_singleton.mp hmem⟩
      · rcases List.mem_append.mp hmem with hinit | hlast
        · exact ih (number / base) (Nat.div_lt_self (by omega) hbase) hinit
        · have hdigit : number % base < base := Nat.mod_lt number (by omega)
          exact ⟨number % base, by omega, List.mem_singleton.mp hlast⟩

end Base

/-- Zeros before the digits do not count. -/
theorem readNat_leftpad (base width : Nat) (text : List Char) :
    readNat base (text.leftpad width '0') = readNat base text := by
  have hzeros : ∀ count, readNat base (List.replicate count '0') = 0 := by
    intro count
    induction count with
    | zero => rfl
    | succ count ih =>
        rw [List.replicate_succ', readNat_concat, ih]
        rfl
  rw [List.leftpad, readNat, List.foldl_append]
  change List.foldl _ (readNat base (List.replicate _ '0')) text = _
  rw [hzeros]
  rfl

def signed (number : Int) : List Char :=
  if number < 0 then '-' :: Nat.toDigits 10 number.natAbs else Nat.toDigits 10 number.natAbs

def readInt (text : List Char) : Int :=
  if text.head? = some '-' then -(readNat 10 text.tail : Int) else readNat 10 text

theorem readInt_signed (number : Int) : readInt (signed number) = number := by
  have hdigits := readNat_toDigits (show 1 < 10 by decide) (show 10 ≤ 16 by decide) number.natAbs
  unfold signed
  split_ifs with hneg
  · rw [readInt, List.head?_cons, if_pos rfl, List.tail_cons, hdigits]
    omega
  · have hhead : (Nat.toDigits 10 number.natAbs).head? ≠ some '-' := by
      intro hhead
      obtain ⟨digit, hdigit, hchar⟩ := exists_of_mem_toDigits (show 1 < 10 by decide)
        (show 10 ≤ 16 by decide) (List.mem_of_mem_head? hhead)
      interval_cases digit <;> exact absurd hchar (by decide)
    rw [readInt, if_neg hhead, hdigits]
    omega

/-! ### Rows and lines -/

/-- The character separates numbers: it is not part of any. -/
def Separates (char : Char) : Prop := char ≠ '-' ∧ ∀ digit < 16, char ≠ Nat.digitChar digit

instance : DecidablePred Separates := fun _ => inferInstanceAs (Decidable (_ ∧ _))

namespace Separates

variable {separator : Char} (hseparates : Separates separator)

include hseparates

theorem not_mem_toDigits {base : Nat} (hbase : 1 < base) (hle : base ≤ 16) (number : Nat) :
    separator ∉ Nat.toDigits base number := by
  intro hmem
  obtain ⟨digit, hdigit, hchar⟩ := exists_of_mem_toDigits hbase hle hmem
  exact hseparates.2 digit hdigit hchar

theorem not_mem_leftpad {text : List Char} (htext : separator ∉ text) (width : Nat) :
    separator ∉ text.leftpad width '0' := by
  rw [List.leftpad, List.mem_append, not_or]
  refine ⟨fun hmem => ?_, htext⟩
  exact hseparates.2 0 (by decide) (List.eq_of_mem_replicate hmem)

theorem not_mem_signed (number : Int) : separator ∉ signed number := by
  have hdigits := hseparates.not_mem_toDigits (show 1 < 10 by decide) (show 10 ≤ 16 by decide)
    number.natAbs
  unfold signed
  split_ifs
  · rw [List.mem_cons, not_or]
    exact ⟨hseparates.1, hdigits⟩
  · exact hdigits

end Separates

theorem not_mem_intercalate {Symbol : Type} {symbol separator : Symbol} {columns : List (List Symbol)}
    (hother : symbol ≠ separator) (hcolumns : ∀ column ∈ columns, symbol ∉ column) :
    symbol ∉ [separator].intercalate columns := by
  induction columns with
  | nil => exact List.not_mem_nil
  | cons first rest ih =>
      have hrest := ih fun column hmem => hcolumns column (List.mem_cons_of_mem first hmem)
      have hfirst := hcolumns first List.mem_cons_self
      cases rest with
      | nil =>
          rw [List.intercalate_singleton]
          exact hfirst
      | cons second rest =>
          rw [List.intercalate_cons_cons, List.mem_append, List.mem_append, List.mem_singleton]
          rintro ((hmem | rfl) | hmem)
          · exact hfirst hmem
          · exact hother rfl
          · exact hrest hmem

/-- Every row is a line of its own. -/
def lines (rows : List (List Char)) : List Char := rows.flatMap fun row => row ++ ['\n']

def readLines (text : List Char) : List (List Char) := (text.splitOn '\n').dropLast

theorem readLines_lines {rows : List (List Char)} (hrows : ∀ row ∈ rows, '\n' ∉ row) :
    readLines (lines rows) = rows := by
  have hsplit : (lines rows).splitOn '\n' = rows ++ [[]] := by
    induction rows with
    | nil => rfl
    | cons first rest ih =>
        have hrest := ih fun row hmem => hrows row (List.mem_cons_of_mem first hmem)
        have hcons : lines (first :: rest) = first ++ '\n' :: lines rest := by
          rw [lines, List.flatMap_cons, List.append_assoc]
          rfl
        rw [hcons, List.splitOn_append_cons_self_of_not_mem (hrows first List.mem_cons_self), hrest]
        rfl
  rw [readLines, hsplit, List.dropLast_concat]

end TextTable
