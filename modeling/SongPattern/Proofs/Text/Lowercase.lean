import SongPattern.Text.Lowercase

namespace SongPattern.Text

open Unicode

/-- No lower-case form lies below the small letters. -/
theorem le_of_partner {n m : Nat} (h : partner? lowerRuns n = some m) : 'a'.toNat ≤ m := by
  obtain ⟨run, found, rfl⟩ := Option.map_eq_some_iff.mp h
  have covered := List.find?_some found
  rw [CaseRun.covers, Bool.and_eq_true, Bool.and_eq_true, decide_eq_true_iff] at covered
  have lowest : ∀ run ∈ lowerRuns, ('a'.toNat : Int) ≤ run.first + run.offset := by decide +kernel
  have first := lowest run (List.mem_of_find?_eq_some found)
  rw [CaseRun.shift]
  omega

/-- A number that is no code point makes the first character. -/
theorem ofNat_cases (n : Nat) : (Char.ofNat n).toNat = n ∨ Char.ofNat n = '\x00' := by
  by_cases valid : n.isValidChar
  · exact .inl (congrArg Char.toNat (dif_pos valid))
  · exact .inr (Char.ext (congrArg Char.val (dif_neg valid)))

theorem eq_of_mem_lowerChar {c d : Char} (h : c ∈ lowerChar d) (some : 0 < c.toNat)
    (low : c.toNat < 'a'.toNat) : c = d := by
  rw [lowerChar] at h
  split at h
  · rcases List.mem_cons.mp h with rfl | h
    · exact absurd low (by decide)
    · rw [List.mem_singleton.mp h] at low
      exact absurd low (by decide)
  · split at h
    next n found =>
      have high := le_of_partner found
      rw [List.mem_singleton.mp h] at some low
      rcases ofNat_cases n with same | zero
      · omega
      · rw [zero] at some
        exact absurd some (by decide)
    · exact List.mem_singleton.mp h

/-- Lowering brings in nothing but letters. -/
theorem mem_of_mem_lowerBehind {c : Char} {before cs : List Char} (h : c ∈ lowerBehind before cs)
    (some : 0 < c.toNat) (low : c.toNat < 'a'.toNat) : c ∈ cs := by
  induction cs generalizing before with
  | nil => cases h
  | cons d cs ih =>
    rw [lowerBehind, List.mem_append] at h
    rcases h with h | h
    · split at h
      · rw [List.mem_singleton] at h
        split at h <;> (subst h; exact absurd low (by decide))
      · exact List.mem_cons.mpr (.inl (eq_of_mem_lowerChar h some low))
    · exact List.mem_cons_of_mem d (ih h)

/-- The character is no capital: it is its own lower-case form wherever it stands. -/
def Lowered (c : Char) : Prop := c ≠ 'Σ' ∧ lowerChar c = [c]

/-- The code points with a lower-case form of their own, run by run. -/
def capitals : List (List Nat) := [0x130] :: lowerRuns.map CaseRun.codePoints

def smallForms : List (List Nat) := lowerRuns.map fun run => run.codePoints.map run.shift

/-- Numbers as the bits of one number. -/
def bits (ns : List Nat) : Nat := ns.foldr (fun n set => 1 <<< n ||| set) 0

/-- The groups keep the recursion flat, and two sets are compared in one step. -/
def bitsOfEach (groups : List (List Nat)) : Nat := groups.foldr (fun ns set => bits ns ||| set) 0

theorem testBit_bits {n : Nat} {ns : List Nat} (h : n ∈ ns) : (bits ns).testBit n = true := by
  induction ns with
  | nil => cases h
  | cons m ns ih =>
    have step : bits (m :: ns) = 1 <<< m ||| bits ns := rfl
    rw [step, Nat.testBit_or, Bool.or_eq_true]
    rcases List.mem_cons.mp h with same | tail
    · left
      simp [same, Nat.testBit_shiftLeft]
    · exact .inr (ih tail)

theorem testBit_bitsOfEach {n : Nat} {groups : List (List Nat)} (h : n ∈ groups.flatten) :
    (bitsOfEach groups).testBit n = true := by
  induction groups with
  | nil => cases h
  | cons ns groups ih =>
    have step : bitsOfEach (ns :: groups) = bits ns ||| bitsOfEach groups := rfl
    rw [step, Nat.testBit_or, Bool.or_eq_true]
    rw [List.flatten_cons, List.mem_append] at h
    exact h.imp testBit_bits ih

theorem not_mem_capitals {n : Nat} (h : n ∈ smallForms.flatten) : n ∉ capitals.flatten := by
  intro capital
  have apart : bitsOfEach capitals &&& bitsOfEach smallForms = 0 := by decide +kernel
  have both : (bitsOfEach capitals &&& bitsOfEach smallForms).testBit n = true := by
    rw [Nat.testBit_and, testBit_bitsOfEach capital, testBit_bitsOfEach h]
    rfl
  rw [apart, Nat.zero_testBit] at both
  cases both

theorem mem_codePoints {run : CaseRun} {n : Nat} (h : run.covers n = true) :
    n ∈ run.codePoints := by
  simp only [CaseRun.covers, Bool.and_eq_true, decide_eq_true_eq, beq_iff_eq] at h
  have place := Nat.div_add_mod (n - run.first) run.step
  rw [CaseRun.codePoints, List.mem_map]
  refine ⟨(n - run.first) / run.step, List.mem_range.mpr h.2, ?_⟩
  rw [Nat.mul_comm]
  omega

theorem mem_smallForms {n m : Nat} (h : partner? lowerRuns n = some m) :
    m ∈ smallForms.flatten := by
  obtain ⟨run, found, same⟩ := Option.map_eq_some_iff.mp h
  have covered := List.find?_some found
  rw [← same, List.mem_flatten]
  exact ⟨_, List.mem_map_of_mem (List.mem_of_find?_eq_some found),
    List.mem_map_of_mem (mem_codePoints covered)⟩

theorem lowered_of_not_capital {c : Char} (h : c.toNat ∉ capitals.flatten) : Lowered c := by
  have alone : partner? lowerRuns c.toNat = none := by
    rw [partner?, Option.map_eq_none_iff, List.find?_eq_none]
    intro run hr covered
    apply h
    have mem := List.mem_flatten.mpr ⟨_, List.mem_map_of_mem hr, mem_codePoints covered⟩
    exact List.mem_append_right _ mem
  constructor
  · intro same
    have sigma : partner? lowerRuns 'Σ'.toNat ≠ none := by decide +kernel
    rw [same] at alone
    exact sigma alone
  · have dotted : c ≠ '\u0130' := by
      intro same
      rw [same] at h
      exact h List.mem_cons_self
    rw [lowerChar, if_neg dotted]
    simp only [alone]

/-- The marks of paths, and the forms that are not in the table. -/
theorem lowered_of_mem_signs {c : Char} (h : c ∈ ['.', '/', 'i', '\u0307', 'ς', 'σ', '\x00']) :
    Lowered c := by
  have clear : (['.', '/', 'i', '\u0307', 'ς', 'σ', '\x00'].all fun c =>
      !(bitsOfEach capitals).testBit c.toNat) = true := by
    decide +kernel
  have unset := List.all_eq_true.mp clear c h
  apply lowered_of_not_capital
  intro capital
  rw [testBit_bitsOfEach capital] at unset
  cases unset

/-- A lower-case form is left as it is. -/
theorem lowered_of_mem_lowerChar {c d : Char} (h : d ∈ lowerChar c) (plain : c ≠ 'Σ') :
    Lowered d := by
  rw [lowerChar] at h
  split at h
  · apply lowered_of_mem_signs
    simp only [List.mem_cons, List.not_mem_nil, or_false] at h
    rcases h with same | same <;> simp [same]
  next single =>
    split at h
    next n found =>
      rw [List.mem_singleton.mp h]
      rcases ofNat_cases n with same | zero
      · apply lowered_of_not_capital
        rw [same]
        exact not_mem_capitals (mem_smallForms found)
      · rw [zero]
        exact lowered_of_mem_signs (by decide)
    next none =>
      rw [List.mem_singleton.mp h]
      constructor
      · exact plain
      · rw [lowerChar, if_neg single]
        simp only [none]

theorem lowered_of_mem_lowerBehind {c : Char} {before cs : List Char}
    (h : c ∈ lowerBehind before cs) : Lowered c := by
  induction cs generalizing before with
  | nil => cases h
  | cons d cs ih =>
    rw [lowerBehind, List.mem_append] at h
    rcases h with first | rest
    · split at first
      · apply lowered_of_mem_signs
        rw [List.mem_singleton.mp first]
        split <;> simp
      next plain => exact lowered_of_mem_lowerChar first plain
    · exact ih rest

theorem lowerBehind_cons {c : Char} (small : Lowered c) (before cs : List Char) :
    lowerBehind before (c :: cs) = c :: lowerBehind (c :: before) cs := by
  rw [lowerBehind, if_neg small.1, small.2]
  rfl

theorem lowerBehind_of_lowered {before cs : List Char} (h : ∀ c ∈ cs, Lowered c) :
    lowerBehind before cs = cs := by
  induction cs generalizing before with
  | nil => rfl
  | cons c cs ih =>
    obtain ⟨first, rest⟩ := List.forall_mem_cons.mp h
    rw [lowerBehind_cons first, ih rest]

/-- Lowering is done once and for all. -/
theorem lower_lower (s : String) : lower (lower s) = lower s := by
  have small : ∀ c ∈ (lower s).toList, Lowered c := by
    intro c hc
    rw [lower, String.toList_ofList] at hc
    exact lowered_of_mem_lowerBehind hc
  rw [lower, lowerBehind_of_lowered small, String.ofList_toList]

/-- What is no capital is still there. -/
theorem mem_lowerBehind {c : Char} {before cs : List Char} (small : Lowered c) (h : c ∈ cs) :
    c ∈ lowerBehind before cs := by
  induction cs generalizing before with
  | nil => cases h
  | cons d cs ih =>
    rcases List.mem_cons.mp h with same | rest
    · rw [← same, lowerBehind_cons small]
      exact List.mem_cons_self
    · rw [lowerBehind, List.mem_append]
      exact .inr (ih rest)

theorem lowerChar_ne_nil (c : Char) : lowerChar c ≠ [] := by
  rw [lowerChar]
  split
  · simp
  · split <;> simp

/-- A text starts with a character that is no letter if its lower-case form does. -/
theorem head_of_lowerBehind {c : Char} {before cs rest : List Char}
    (h : lowerBehind before cs = c :: rest) (some : 0 < c.toNat) (low : c.toNat < 'a'.toNat) :
    ∃ tail, cs = c :: tail := by
  cases cs with
  | nil => cases h
  | cons d cs =>
    rw [lowerBehind] at h
    split at h
    · simp only [List.cons_append, List.cons.injEq] at h
      have high : 'a'.toNat ≤ c.toNat := by
        rw [← h.1]
        split <;> decide
      omega
    · obtain ⟨e, es, form⟩ := List.exists_cons_of_ne_nil (lowerChar_ne_nil d)
      have first : c ∈ lowerChar d := by
        rw [form, List.cons_append] at h
        rw [form, (List.cons.inj h).1]
        exact List.mem_cons_self
      rw [eq_of_mem_lowerChar first some low]
      exact ⟨cs, rfl⟩

end SongPattern.Text
