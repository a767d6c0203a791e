import SongPattern.Number.Decimal
import SongPattern.Proofs.Song.Value

namespace SongPattern.Number

/-- A character that can stand in a number: no blank, nor the sign of a comparison. -/
def Numeral (c : Char) : Prop := Text.isBlank c = false ∧ c ≠ '='

theorem numeral_of_isDigit {c : Char} (h : c.isDigit = true) : Numeral c := by
  refine ⟨isBlank_of_isDigit h, ?_⟩
  rintro rfl
  cases h

theorem isDigit_of_digitsValue {value n : Nat} {cs : List Char}
    (h : digitsValue 10 decimalDigit? value cs = some n) : ∀ c ∈ cs, c.isDigit = true := by
  induction cs generalizing value with
  | nil => exact nofun
  | cons c cs ih =>
    obtain ⟨digit, read, rest⟩ := Option.bind_eq_some_iff.mp h
    rw [decimalDigit?] at read
    split at read
    next first => exact List.forall_mem_cons.mpr ⟨first, ih rest⟩
    · cases read

theorem numeral_of_readNat? {cs : List Char} {n : Nat} (h : readNat? cs = some n) :
    ∀ c ∈ cs, Numeral c := by
  rw [readNat?] at h
  split at h
  · cases h
  · exact fun c hc => numeral_of_isDigit (isDigit_of_digitsValue h c hc)

theorem numeral_of_readSigned? {cs : List Char} {n : Int} (h : readSigned? cs = some n) :
    ∀ c ∈ cs, Numeral c := by
  have unsigned {cs : List Char} {f : Int → Int}
      (h : ((readNat? cs).bind fun n => some (n : Int)).map f = some n) : ∀ c ∈ cs, Numeral c := by
    obtain ⟨m, read, -⟩ := Option.map_eq_some_iff.mp h
    obtain ⟨digits, read, -⟩ := Option.bind_eq_some_iff.mp read
    exact numeral_of_readNat? read
  rw [readSigned?.eq_def] at h
  split at h
  · exact List.forall_mem_cons.mpr ⟨⟨by decide, by decide⟩, unsigned h⟩
  · exact List.forall_mem_cons.mpr ⟨⟨by decide, by decide⟩, unsigned h⟩
  · exact unsigned h

theorem numeral_of_readExponent? {cs : List Char} {n : Int}
    (h : Decimal.readExponent? cs = some n) : ∀ c ∈ cs, Numeral c := by
  rw [Decimal.readExponent?.eq_def] at h
  split at h
  · exact nofun
  next c cs =>
    split at h
    next mark =>
      refine List.forall_mem_cons.mpr ⟨?_, numeral_of_readSigned? h⟩
      rw [Bool.or_eq_true, decide_eq_true_iff, decide_eq_true_iff] at mark
      rcases mark with rfl | rfl <;> exact ⟨by decide, by decide⟩
    · cases h

theorem numeral_takeWhile (cs : List Char) : ∀ c ∈ cs.takeWhile Char.isDigit, Numeral c :=
  fun _ hc => numeral_of_isDigit (List.mem_takeWhile_imp hc)

theorem numeral_of_decimal {cs : List Char} {d : Decimal} (h : Decimal.read? cs = some d) :
    cs ≠ [] ∧ ∀ c ∈ cs, Numeral c := by
  constructor
  · rintro rfl
    cases h
  · rw [← List.takeWhile_append_dropWhile (p := Char.isDigit) (l := cs), List.forall_mem_append]
    refine ⟨numeral_takeWhile cs, ?_⟩
    rw [Decimal.read?] at h
    generalize cs.dropWhile Char.isDigit = rest at h
    split at h
    next fraction rest' parts =>
      obtain ⟨_, _, h⟩ := Option.bind_eq_some_iff.mp h
      obtain ⟨exponent, read, -⟩ := Option.bind_eq_some_iff.mp h
      have behind := numeral_of_readExponent? read
      split at parts
      next cs' =>
        cases parts
        refine List.forall_mem_cons.mpr ⟨⟨by decide, by decide⟩, ?_⟩
        rw [← List.takeWhile_append_dropWhile (p := Char.isDigit) (l := cs'),
          List.forall_mem_append]
        exact ⟨numeral_takeWhile cs', behind⟩
      · cases parts
        exact behind

/-- Only letters have another case. -/
theorem numeral_of_toLower {c : Char} (h : Numeral c.toLower) : Numeral c := by
  delta Char.toLower at h
  split at h
  next upper =>
    have low : 65 ≤ c.toNat := upper.1
    have high : c.toNat ≤ 90 := upper.2
    refine ⟨isBlank_of_range (by omega) (by omega), ?_⟩
    rintro rfl
    exact absurd low (by decide)
  · exact h

theorem numeral_of_readUnsignedFloat? {negative : Bool} {cs : List Char} {x : Float}
    (h : readUnsignedFloat? negative cs = some x) : cs ≠ [] ∧ ∀ c ∈ cs, Numeral c := by
  have word {w : List Char} (named : cs.map Char.toLower = w)
      (plain : w ≠ [] ∧ ∀ c ∈ w, Numeral c) : cs ≠ [] ∧ ∀ c ∈ cs, Numeral c := by
    refine ⟨?_, fun c hc => numeral_of_toLower (plain.2 _ ?_)⟩
    · rintro rfl
      exact plain.1 named.symm
    · rw [← named]
      exact List.mem_map_of_mem hc
  have letters {w : String} (shown : w.toList.all (fun c => !Text.isBlank c && c ≠ '=') = true)
      (some : w.toList ≠ []) : w.toList ≠ [] ∧ ∀ c ∈ w.toList, Numeral c := by
    refine ⟨some, fun c hc => ?_⟩
    simpa [Numeral] using List.all_eq_true.mp shown c hc
  rw [readUnsignedFloat?] at h
  simp only [Bool.or_eq_true, decide_eq_true_eq] at h
  split at h
  next infinite =>
    rcases infinite with named | named
    · exact word named (letters (by decide) (by decide))
    · exact word named (letters (by decide) (by decide))
  · split at h
    next named => exact word named (letters (by decide) (by decide))
    · obtain ⟨d, read, -⟩ := Option.map_eq_some_iff.mp h
      exact numeral_of_decimal read

/-- A number is written without blanks and comparison signs, and with at least one character. -/
theorem numeral_of_readFloat? {s : String} {x : Float} (h : readFloat? s = some x) :
    s.toList ≠ [] ∧ ∀ c ∈ s.toList, Numeral c := by
  rw [readFloat?.eq_def] at h
  generalize s.toList = cs at h
  split at h
  · have behind := numeral_of_readUnsignedFloat? h
    exact ⟨List.cons_ne_nil _ _, List.forall_mem_cons.mpr ⟨⟨by decide, by decide⟩, behind.2⟩⟩
  · have behind := numeral_of_readUnsignedFloat? h
    exact ⟨List.cons_ne_nil _ _, List.forall_mem_cons.mpr ⟨⟨by decide, by decide⟩, behind.2⟩⟩
  · exact numeral_of_readUnsignedFloat? h

end SongPattern.Number
