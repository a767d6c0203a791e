import Mathlib.Data.List.Basic
import SongPattern.Proofs.Song.Value
import SongPattern.Proofs.Text.Bytes

namespace SongPattern.Number

theorem digit_range {c : Char} (h : c.isDigit = true) : 48 ≤ c.toNat ∧ c.toNat ≤ 57 := by
  simp only [Char.isDigit, Bool.and_eq_true, decide_eq_true_eq] at h
  exact h

theorem isDigit_numeral (count n : Nat) : ∀ c ∈ zeros count ++ digits n, c.isDigit = true := by
  rw [List.forall_mem_append]
  constructor
  · intro c hc
    rw [List.eq_of_mem_replicate hc]
    decide
  · exact fun c hc => Nat.isDigit_of_mem_toDigits (by decide) (by decide) hc

/-- Digits are read as the library reads them. -/
theorem digitsValue_eq {cs : List Char} (h : ∀ c ∈ cs, c.isDigit = true) (value : Nat) :
    digitsValue 10 decimalDigit? value cs = some (Nat.ofDigitChars 10 cs value) := by
  induction cs generalizing value with
  | nil => rfl
  | cons c cs ih =>
    obtain ⟨first, rest⟩ := List.forall_mem_cons.mp h
    have step : decimalDigit? c = some (c.toNat - '0'.toNat) := by simp [decimalDigit?, first]
    simp [digitsValue, step, ih rest, Nat.ofDigitChars_cons, Nat.mul_comm]

/-- Zeros in front of a number do not count. -/
theorem ofDigitChars_numeral (count n : Nat) :
    Nat.ofDigitChars 10 (zeros count ++ digits n) 0 = n := by
  have none : Nat.ofDigitChars 10 (zeros count) 0 = 0 := by
    rw [zeros, Nat.ofDigitChars_replicate_zero, Nat.mul_zero]
  rw [Nat.ofDigitChars_append, none, digits, Nat.ofDigitChars_toDigits (by decide) (by decide)]

theorem readNat?_numeral (count n : Nat) : readNat? (zeros count ++ digits n) = some n := by
  have full : (zeros count ++ digits n).isEmpty = false := by
    simpa using fun _ => (solid_digits n).1
  have value := digitsValue_eq (isDigit_numeral count n) 0
  rw [ofDigitChars_numeral] at value
  simpa [readNat?, full] using value

theorem readSigned?_numeral (count n : Nat) :
    readSigned? (zeros count ++ digits n) = some (n : Int) := by
  have digit := isDigit_numeral count n
  have read := readNat?_numeral count n
  generalize zeros count ++ digits n = cs at digit read
  rw [readSigned?.eq_def]
  split
  · exact absurd (digit '-' List.mem_cons_self) (by decide)
  · exact absurd (digit '+' List.mem_cons_self) (by decide)
  · simp [read]

theorem fitsWord_of_le {n : Nat} (h : n ≤ 0x7fffffffffffffff) : fitsWord n = true := by
  simp only [fitsWord, Bool.and_eq_true, decide_eq_true_eq]
  omega

theorem readWord?_numeral {n : Nat} (h : n ≤ 0x7fffffffffffffff) (count : Nat) :
    readWord? (.ofList (zeros count ++ digits n)) = some (n : Int) := by
  rw [readWord?, String.toList_ofList, readSigned?_numeral]
  simp [fitsWord_of_le h]

/-- A number in decimal, its sign first, with zeros up to a length of `width`; none where it is
longer without them. -/
def ZeroPadded (width : Nat) (n : Int) (s : String) : Prop :=
  (∃ count, s.toList = minus (n < 0) ++ (zeros count ++ digits n.natAbs)) ∧
    s.length = max width (text n).length

theorem toList_padded (width : Nat) (n : Int) : (padded width n).toList =
    minus (n < 0) ++ (zeros (width - (minus (n < 0)).length - (digits n.natAbs).length) ++
      digits n.natAbs) := by
  rw [padded]
  split <;> simp [minus, *]

theorem length_padded (width : Nat) (n : Int) :
    (padded width n).length = max width ((minus (n < 0)).length + (digits n.natAbs).length) := by
  rw [← String.length_toList, toList_padded]
  simp [zeros]
  omega

theorem zeroPadded_padded (width : Nat) (n : Int) : ZeroPadded width n (padded width n) := by
  refine ⟨⟨_, toList_padded width n⟩, ?_⟩
  rw [text, length_padded, length_padded]
  omega

theorem length_text (n : Nat) : (text n).length = (digits n).length := by
  rw [text, length_padded]
  simp [minus]

/-- A greater number is not shorter. -/
theorem length_text_mono {n k : Nat} (h : n ≤ k) : (text n).length ≤ (text k).length := by
  have long : 0 < (digits k).length := List.length_pos_of_ne_nil (solid_digits k).1
  have below : k < 10 ^ (digits k).length :=
    (Nat.length_toDigits_le_iff (by decide) long).mp (Nat.le_refl _)
  rw [length_text, length_text]
  exact (Nat.length_toDigits_le_iff (by decide) long).mpr (by omega)

/-- A padded number reads back. -/
theorem readWord?_padded {n : Int} (fits : fitsWord n = true) (width : Nat) :
    readWord? (padded width n) = some n := by
  have read : readSigned? (padded width n).toList = some n := by
    rw [toList_padded]
    generalize width - (minus (n < 0)).length - (digits n.natAbs).length = count
    by_cases negative : n < 0
    · have value : -(n.natAbs : Int) = n := by omega
      simp only [minus, negative, decide_true, if_true, List.singleton_append, readSigned?,
        readNat?_numeral]
      exact congrArg some value
    · have value : (n.natAbs : Int) = n := by omega
      simp only [minus, negative, decide_false, Bool.false_eq_true, if_false, List.nil_append,
        readSigned?_numeral, value]
  rw [readWord?, read]
  simp [fits]

theorem mem_padded {width : Nat} {n : Int} {c : Char} (h : c ∈ (padded width n).toList) :
    c = '-' ∨ c.isDigit = true := by
  rw [toList_padded, List.mem_append] at h
  rcases h with sign | digit
  · left
    rw [minus] at sign
    split at sign
    · exact List.mem_singleton.mp sign
    · cases sign
  · exact .inr (isDigit_numeral _ _ c digit)

/-- Behind a greater number, no digits make up for it. -/
theorem ofDigitChars_lt {cs ds : List Char} (hc : ∀ c ∈ cs, c.isDigit = true)
    (length : cs.length = ds.length) {v w : Nat} (less : v < w) :
    Nat.ofDigitChars 10 cs v < Nat.ofDigitChars 10 ds w := by
  induction cs generalizing ds v w with
  | nil =>
    have none : ds = [] := List.eq_nil_of_length_eq_zero length.symm
    simpa [none] using less
  | cons c cs ih =>
    cases ds with
    | nil => simp at length
    | cons d ds =>
      obtain ⟨first, rest⟩ := List.forall_mem_cons.mp hc
      have range := digit_range first
      rw [Nat.ofDigitChars_cons, Nat.ofDigitChars_cons]
      apply ih rest (by simpa using length)
      simp only [Char.reduceToNat]
      omega

/-- Of two numbers with as many digits the smaller one stands first in the order of bytes, whatever
follows them. -/
theorem utf8_digits_lt {cs ds : List Char} (hc : ∀ c ∈ cs, c.isDigit = true)
    (hd : ∀ d ∈ ds, d.isDigit = true) (length : cs.length = ds.length) {v : Nat}
    (less : Nat.ofDigitChars 10 cs v < Nat.ofDigitChars 10 ds v) (x y : List UInt8) :
    cs.flatMap String.utf8EncodeChar ++ x < ds.flatMap String.utf8EncodeChar ++ y := by
  induction cs generalizing ds v with
  | nil =>
    have none : ds = [] := List.eq_nil_of_length_eq_zero length.symm
    simp [none] at less
  | cons c cs ih =>
    cases ds with
    | nil => simp at length
    | cons d ds =>
      obtain ⟨firstC, restC⟩ := List.forall_mem_cons.mp hc
      obtain ⟨firstD, restD⟩ := List.forall_mem_cons.mp hd
      have rangeC := digit_range firstC
      have rangeD := digit_range firstD
      have tails : cs.length = ds.length := by simpa using length
      have byteC := Text.utf8EncodeChar_ascii (c := c) (by omega)
      have byteD := Text.utf8EncodeChar_ascii (c := d) (by omega)
      rw [List.flatMap_cons, List.flatMap_cons, byteC, byteD]
      simp only [List.cons_append, List.cons_lt_cons_iff]
      rw [Nat.ofDigitChars_cons, Nat.ofDigitChars_cons] at less
      rcases Nat.lt_trichotomy c.toNat d.toNat with lower | same | higher
      · left
        rw [UInt8.lt_iff_toNat_lt]
        simp
        omega
      · right
        rw [same] at less ⊢
        exact ⟨rfl, ih restC restD tails less⟩
      · -- The first digits decide, so the text that has the greater one spells the greater number.
        have behind : 10 * v + (d.toNat - '0'.toNat) < 10 * v + (c.toNat - '0'.toNat) := by
          simp only [Char.reduceToNat]
          omega
        have greater := ofDigitChars_lt restD tails.symm behind
        omega

theorem toList_padded_nat (width n : Nat) :
    ∃ count, (padded width n).toList = zeros count ++ digits n := by
  obtain ⟨⟨count, chars⟩, _⟩ := zeroPadded_padded width n
  have positive : ¬ (n : Int) < 0 := by omega
  exact ⟨count, by simpa [minus, positive] using chars⟩

/-- Two numbers that are padded to the same length are in order, in whatever texts they stand at the
same place. -/
theorem bytes_padded_lt {width n k : Nat} (less : n < k)
    (length : (padded width n).length = (padded width k).length) (front x y : String) :
    Text.bytes (front ++ padded width n ++ x) < Text.bytes (front ++ padded width k ++ y) := by
  obtain ⟨count, chars⟩ := toList_padded_nat width n
  obtain ⟨count', chars'⟩ := toList_padded_nat width k
  rw [← String.length_toList, ← String.length_toList, chars, chars'] at length
  have value : Nat.ofDigitChars 10 (zeros count ++ digits n) 0 <
      Nat.ofDigitChars 10 (zeros count' ++ digits k) 0 := by
    simpa only [ofDigitChars_numeral] using less
  have order := utf8_digits_lt (isDigit_numeral count n) (isDigit_numeral count' k) length value
    (Text.bytes x) (Text.bytes y)
  rw [← chars, ← chars', ← Text.bytes_eq, ← Text.bytes_eq] at order
  simp only [Text.bytes_append, List.append_assoc]
  exact List.append_left_lt order

end SongPattern.Number
