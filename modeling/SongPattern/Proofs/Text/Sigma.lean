import SongPattern.Proofs.Text.Lowercase

namespace SongPattern.Text

open Unicode (caseIgnorable cased)

variable {cs front before after before' after' : List Char} {x : Char}

/-- Whether the first character that casing does not look through has a case, if there is one. -/
def caseAhead? (cs : List Char) : Option Bool :=
  (cs.dropWhile caseIgnorable.contains).head?.map cased.contains

theorem casedAhead_eq (cs : List Char) : casedAhead cs = (caseAhead? cs).getD false := by
  rw [casedAhead, caseAhead?]
  cases cs.dropWhile caseIgnorable.contains with
  | nil => rfl
  | cons c rest => rfl

theorem caseAhead?_append (cs more : List Char) :
    caseAhead? (cs ++ more) = (caseAhead? cs).or (caseAhead? more) := by
  induction cs with
  | nil => rfl
  | cons c cs ih =>
    rw [List.cons_append, caseAhead?, caseAhead?, List.dropWhile_cons, List.dropWhile_cons]
    split
    · exact ih
    · rfl

theorem casedAhead_append (cs more : List Char) :
    casedAhead (cs ++ more) = (caseAhead? cs).getD (casedAhead more) := by
  rw [casedAhead_eq, caseAhead?_append, casedAhead_eq]
  cases caseAhead? cs <;> rfl

/-- The small form of a capital sigma behind the reversed `before`. -/
def sigmaForm (before after : List Char) : Char :=
  if casedAhead before && !casedAhead after then 'ς' else 'σ'

/-- The characters next to a capital sigma leave nothing to what stands farther off. -/
def Settled (before after : List Char) : Prop :=
  caseAhead? before = some false ∨ caseAhead? after = some true ∨
    caseAhead? before = some true ∧ caseAhead? after = some false

instance : DecidableRel Settled := fun before after =>
  inferInstanceAs (Decidable (caseAhead? before = some false ∨ caseAhead? after = some true ∨
    caseAhead? before = some true ∧ caseAhead? after = some false))

theorem sigmaForm_eq_final_iff :
    sigmaForm before after = 'ς' ↔ casedAhead before = true ∧ casedAhead after = false := by
  rw [sigmaForm]
  cases casedAhead before <;> cases casedAhead after <;> decide

theorem sigmaForm_eq_inner_iff :
    sigmaForm before after = 'σ' ↔ casedAhead before = false ∨ casedAhead after = true := by
  rw [sigmaForm]
  cases casedAhead before <;> cases casedAhead after <;> decide

theorem sigmaForm_of_settled (h : Settled before after) (more rest : List Char) :
    sigmaForm (before ++ more) (after ++ rest) = sigmaForm before after := by
  rw [sigmaForm, sigmaForm, casedAhead_append, casedAhead_append, casedAhead_eq before,
    casedAhead_eq after]
  rcases h with uncased | cased | ⟨cased, uncased⟩
  · rw [uncased]
    rfl
  · rw [cased, Option.getD_some, Option.getD_some, Bool.not_true, Bool.and_false, Bool.and_false]
  · rw [cased, uncased]
    rfl

/-- A capital sigma that is not settled is left to a letter put behind the text, or to one in
front of it. -/
theorem cases_of_not_settled (h : ¬ Settled before after) :
    (caseAhead? before = some true ∧ caseAhead? after = none) ∨
      (caseAhead? before = none ∧ casedAhead after = false) := by
  rw [Settled, not_or, not_or] at h
  obtain ⟨clear, reached, closed⟩ := h
  cases front : caseAhead? before with
  | none =>
    rw [casedAhead_eq]
    cases behind : caseAhead? after with
    | none => exact .inr ⟨rfl, rfl⟩
    | some cased =>
      cases cased with
      | true => exact absurd behind reached
      | false => exact .inr ⟨rfl, rfl⟩
  | some cased =>
    cases cased with
    | false => exact absurd front clear
    | true =>
      cases behind : caseAhead? after with
      | none => exact .inl ⟨rfl, rfl⟩
      | some cased =>
        cases cased with
        | true => exact absurd behind reached
        | false => exact absurd ⟨front, behind⟩ closed

/-- The lower-case form of a text that stands between the reversed `before` and `after`. -/
def lowerBetween (before after : List Char) : List Char → List Char
  | [] => []
  | c :: cs =>
    (if c = 'Σ' then [sigmaForm before (cs ++ after)] else lowerChar c) ++
      lowerBetween (c :: before) after cs

theorem lowerBetween_nil (before cs : List Char) :
    lowerBetween before [] cs = lowerBehind before cs := by
  induction cs generalizing before with
  | nil => rfl
  | cons c cs ih => rw [lowerBetween, lowerBehind, List.append_nil, sigmaForm, ih]

theorem lower_eq_lowerBetween (s : String) : (lower s).toList = lowerBetween [] [] s.toList := by
  rw [lower, String.toList_ofList, lowerBetween_nil]

theorem lowerBetween_append (before after cs more : List Char) :
    lowerBetween before after (cs ++ more) =
      lowerBetween before (more ++ after) cs ++ lowerBetween (cs.reverse ++ before) after more := by
  induction cs generalizing before with
  | nil => rfl
  | cons c cs ih =>
    rw [List.cons_append, lowerBetween, lowerBetween, ih, List.append_assoc, List.append_assoc,
      List.reverse_cons, List.append_assoc]
    rfl

section Everywhere

variable {P Q : List Char → List Char → Prop}

/-- `P` holds of what stands around each capital sigma. What is in front of it is reversed, and
`front` stands in front of the whole. -/
def AtSigmas (P : List Char → List Char → Prop) (front : List Char) : List Char → Prop
  | [] => True
  | c :: cs => (c = 'Σ' → P front cs) ∧ AtSigmas P (c :: front) cs

instance AtSigmas.decidable [∀ front back, Decidable (P front back)] :
    (front cs : List Char) → Decidable (AtSigmas P front cs)
  | _, [] => .isTrue trivial
  | front, c :: cs =>
    have := AtSigmas.decidable (c :: front) cs
    inferInstanceAs (Decidable ((c = 'Σ' → P front cs) ∧ AtSigmas P (c :: front) cs))

theorem atSigmas_iff : AtSigmas P front cs ↔
    ∀ left right, cs = left ++ 'Σ' :: right → P (left.reverse ++ front) right := by
  induction cs generalizing front with
  | nil => exact iff_of_true trivial fun left right hcs => absurd hcs.symm (by simp)
  | cons c cs ih =>
    rw [AtSigmas, ih]
    constructor
    · rintro ⟨here, rest⟩ left right hcs
      cases left with
      | nil =>
        obtain ⟨sigma, rfl⟩ := List.cons.inj hcs
        exact here sigma
      | cons d left =>
        obtain ⟨rfl, tail⟩ := List.cons.inj hcs
        rw [List.reverse_cons, List.append_assoc]
        exact rest left right tail
    · intro h
      refine ⟨fun sigma => h [] cs (congrArg (· :: cs) sigma), fun left right hcs => ?_⟩
      have there := h (c :: left) right (congrArg (c :: ·) hcs)
      rwa [List.reverse_cons, List.append_assoc] at there

theorem AtSigmas.mono (h : AtSigmas P front cs) (imp : ∀ front back, P front back → Q front back) :
    AtSigmas Q front cs := by
  rw [atSigmas_iff] at h ⊢
  exact fun left right hcs => imp _ _ (h left right hcs)

end Everywhere

/-- The form is the same between `before` and `after` as between `before'` and `after'`. -/
def SameForm (before after before' after' front back : List Char) : Prop :=
  sigmaForm (front ++ before) (back ++ after) = sigmaForm (front ++ before') (back ++ after')

instance (front back : List Char) : Decidable (SameForm before after before' after' front back) :=
  inferInstanceAs (Decidable (_ = _))

theorem lowerBetween_congr (h : AtSigmas (SameForm before after before' after') front cs) :
    lowerBetween (front ++ before) after cs = lowerBetween (front ++ before') after' cs := by
  induction cs generalizing front with
  | nil => rfl
  | cons c cs ih =>
    obtain ⟨here, rest⟩ := h
    have behind := ih rest
    rw [List.cons_append, List.cons_append] at behind
    rw [lowerBetween, lowerBetween, behind]
    split
    next sigma => rw [here sigma]
    · rfl

/-- A part whose capital sigmas have the same forms in a text is lowered to a part of the lowered
text. -/
theorem lower_infix {part whole : String} {pre post : List Char}
    (place : whole.toList = pre ++ part.toList ++ post)
    (same : AtSigmas (SameForm [] [] pre.reverse post) [] part.toList) :
    (lower part).toList <:+: (lower whole).toList := by
  have forms := lowerBetween_congr same
  rw [List.nil_append, List.nil_append] at forms
  rw [lower_eq_lowerBetween, lower_eq_lowerBetween, place, lowerBetween_append,
    lowerBetween_append, List.append_nil, List.append_nil, List.append_nil, forms]
  exact ⟨_, _, rfl⟩

/-- Where the form is `x` in the first place, it is in the second place too. -/
def Keeps (x : Char) (before after before' after' front back : List Char) : Prop :=
  sigmaForm (front ++ before) (back ++ after) = x →
    sigmaForm (front ++ before') (back ++ after') = x

theorem count_form_le {form form' : Char} (h : form = x → form' = x) :
    [form].count x ≤ [form'].count x := by
  by_cases same : form = x
  · exact Nat.le_of_eq (by rw [same, h same])
  · rw [List.count_singleton, if_neg (mt beq_iff_eq.mp same)]
    exact Nat.zero_le _

theorem count_lowerBetween_le (h : AtSigmas (Keeps x before after before' after') front cs) :
    (lowerBetween (front ++ before) after cs).count x ≤
      (lowerBetween (front ++ before') after' cs).count x := by
  induction cs generalizing front with
  | nil => exact Nat.le_refl _
  | cons c cs ih =>
    obtain ⟨here, rest⟩ := h
    rw [lowerBetween, lowerBetween, List.count_append, List.count_append]
    refine Nat.add_le_add ?_ (ih rest)
    split
    next sigma => exact count_form_le (here sigma)
    · exact Nat.le_refl _

/-- A form that was not kept is one place less for `x`. -/
theorem count_lowerBetween_lt (h : AtSigmas (Keeps x before after before' after') front cs)
    (lost : ¬ AtSigmas (Keeps x before' after' before after) front cs) :
    (lowerBetween (front ++ before) after cs).count x <
      (lowerBetween (front ++ before') after' cs).count x := by
  induction cs generalizing front with
  | nil => exact absurd trivial lost
  | cons c cs ih =>
    obtain ⟨here, rest⟩ := h
    rw [lowerBetween, lowerBetween, List.count_append, List.count_append]
    by_cases kept : c = 'Σ' → Keeps x before' after' before after front cs
    · refine Nat.add_lt_add_of_le_of_lt ?_ (ih rest fun all => lost ⟨kept, all⟩)
      split
      next sigma => exact count_form_le (here sigma)
      · exact Nat.le_refl _
    · refine Nat.add_lt_add_of_lt_of_le ?_ (count_lowerBetween_le rest)
      obtain ⟨sigma, on, off⟩ : c = 'Σ' ∧ sigmaForm (front ++ before') (cs ++ after') = x ∧
          sigmaForm (front ++ before) (cs ++ after) ≠ x := by
        simpa only [Keeps, Classical.not_imp] using kept
      rw [if_pos sigma, if_pos sigma, List.count_singleton, List.count_singleton,
        if_neg (mt beq_iff_eq.mp off), if_pos (beq_iff_eq.mpr on)]
      exact Nat.zero_lt_one

/-- Every capital sigma is settled by the text itself. -/
def Steady (cs : List Char) : Prop := AtSigmas Settled [] cs

instance : Decidable (Steady cs) := AtSigmas.decidable [] cs

theorem Steady.sameForm (h : Steady cs) (before after : List Char) :
    AtSigmas (SameForm [] [] before after) [] cs := by
  refine h.mono fun front back stays => ?_
  rw [SameForm, sigmaForm_of_settled stays, sigmaForm_of_settled stays]

-- A letter next to the text has the most effect: behind the text it leaves no final form, and in
-- front of it there is one at the end of the text.

theorem caseAhead?_letter : caseAhead? ['a'] = some true := by decide +kernel

theorem lowerBetween_letter (before after : List Char) :
    lowerBetween before after ['a'] = ['a'] := by
  have small : lowerChar 'a' = ['a'] := by decide +kernel
  rw [lowerBetween, if_neg (by decide), small, lowerBetween]
  rfl

theorem casedAhead_letter (cs : List Char) :
    casedAhead (cs ++ ['a']) = (caseAhead? cs).getD true := by
  rw [casedAhead_append, casedAhead_eq, caseAhead?_letter]
  rfl

/-- With no more letters behind, a form stays final. -/
theorem keeps_final (front back : List Char) : Keeps 'ς' [] ['a'] [] [] front back := by
  intro final
  rw [sigmaForm_eq_final_iff, casedAhead_letter] at final
  rw [sigmaForm_eq_final_iff, List.append_nil back, casedAhead_eq back]
  cases ahead : caseAhead? back with
  | none => exact ⟨final.1, rfl⟩
  | some one =>
    rw [ahead] at final
    exact final

/-- With no more letters in front, a form stays the inner one. -/
theorem keeps_inner (front back : List Char) : Keeps 'σ' ['a'] [] [] [] front back := by
  intro inner
  rw [sigmaForm_eq_inner_iff, casedAhead_letter] at inner
  rw [sigmaForm_eq_inner_iff, List.append_nil front, casedAhead_eq front]
  refine inner.imp_left fun uncased => ?_
  cases ahead : caseAhead? front with
  | none => rfl
  | some one =>
    rw [ahead] at uncased
    exact uncased

variable {back : List Char}

theorem not_keeps_final (cased : caseAhead? front = some true) (none : caseAhead? back = none) :
    ¬ Keeps 'ς' [] [] [] ['a'] front back := by
  intro keeps
  have final : sigmaForm (front ++ []) (back ++ []) = 'ς' := by
    rw [sigmaForm_eq_final_iff, List.append_nil, List.append_nil, casedAhead_eq, cased,
      casedAhead_eq, none]
    exact ⟨rfl, rfl⟩
  have still := keeps final
  rw [sigmaForm_eq_final_iff, casedAhead_letter, none] at still
  exact Bool.noConfusion still.2

theorem not_keeps_inner (none : caseAhead? front = none) (uncased : casedAhead back = false) :
    ¬ Keeps 'σ' [] [] ['a'] [] front back := by
  intro keeps
  have inner : sigmaForm (front ++ []) (back ++ []) = 'σ' := by
    rw [sigmaForm_eq_inner_iff, List.append_nil, casedAhead_eq, none]
    exact .inl rfl
  have still := keeps inner
  rw [sigmaForm_eq_inner_iff, casedAhead_letter, none, List.append_nil, uncased] at still
  exact still.elim Bool.noConfusion Bool.noConfusion

/-- A text that is not steady gets another form behind a letter or in front of one. -/
theorem exists_of_not_steady (h : ¬ Steady cs) :
    ∃ whole, cs <:+: whole ∧ ¬ lowerBetween [] [] cs <:+: lowerBetween [] [] whole := by
  have everywhere {P : List Char → List Char → Prop} (all : ∀ front back, P front back) :
      AtSigmas P [] cs := atSigmas_iff.mpr fun left right _ => all _ right
  rw [Steady, atSigmas_iff] at h
  obtain ⟨left, right, hcs, unsettled⟩ : ∃ left right, cs = left ++ 'Σ' :: right ∧
      ¬ Settled (left.reverse ++ []) right := by
    simpa only [Classical.not_forall, exists_prop] using h
  -- The lowered text may hold the part at any place, so the forms are counted, not compared.
  rcases cases_of_not_settled unsettled with ⟨cased, none⟩ | ⟨none, uncased⟩
  · refine ⟨cs ++ ['a'], List.infix_append [] cs ['a'], fun found => ?_⟩
    have fewer := count_lowerBetween_lt (everywhere keeps_final) fun kept =>
      not_keeps_final cased none (atSigmas_iff.mp kept left right hcs)
    have all := found.count_le 'ς'
    rw [lowerBetween_append, List.count_append, lowerBetween_letter] at all
    exact absurd all (Nat.not_le_of_lt fewer)
  · refine ⟨['a'] ++ cs, (List.suffix_append ['a'] cs).isInfix, fun found => ?_⟩
    have fewer := count_lowerBetween_lt (everywhere keeps_inner) fun kept =>
      not_keeps_inner none uncased (atSigmas_iff.mp kept left right hcs)
    have all := found.count_le 'σ'
    have letter : List.count 'σ' ['a'] = 0 := rfl
    rw [lowerBetween_append, List.count_append, lowerBetween_letter, letter, Nat.zero_add] at all
    exact absurd all (Nat.not_le_of_lt fewer)

end SongPattern.Text
