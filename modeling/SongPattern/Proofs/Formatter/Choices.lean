import Mathlib.Data.List.Forall2
import Mathlib.Data.Prod.Lex
import Mathlib.Data.String.Basic
import SongPattern.Formatter

namespace SongPattern.Formatter

/-- One pair of texts behind another. -/
def behind (c d : String × String) : String × String := (c.1 ++ d.1, c.2 ++ d.2)

/-- A way to take one pair from each fragment: a literal is its own pair, and of the values of a tag
any one is taken, whatever was taken from the others. -/
inductive Chosen : List Fragment → String × String → Prop where
  | nothing : Chosen [] ("", "")
  | literal {s : String} {fs : List Fragment} {c : String × String} :
    Chosen fs c → Chosen (.text s :: fs) (behind (s, s) c)
  | value {pair : String × String} {pairs : List (String × String)} {fs : List Fragment}
    {c : String × String} :
    pair ∈ pairs → Chosen fs c → Chosen (.values pairs :: fs) (behind pair c)

variable {c : String × String} {fs gs : List Fragment} {cs ps : List (String × String)}

theorem behind_assoc (b c d : String × String) :
    behind (behind b c) d = behind b (behind c d) := by
  simp only [behind, String.append_assoc]

theorem empty_behind (c : String × String) : behind ("", "") c = c := by
  simp only [behind, String.empty_append]

theorem behind_empty (c : String × String) : behind c ("", "") = c := by
  simp only [behind, String.append_empty]

theorem chosen_nil_iff : Chosen [] c ↔ c = ("", "") := by
  constructor
  · rintro ⟨⟩
    rfl
  · rintro rfl
    exact .nothing

theorem chosen_cons_iff {f : Fragment} :
    Chosen (f :: fs) c ↔ ∃ pair ∈ f.pairs, ∃ d, Chosen fs d ∧ c = behind pair d := by
  cases f with
  | text s =>
    simp only [Fragment.pairs, List.mem_singleton, exists_eq_left]
    constructor
    · intro h
      cases h with
      | literal hd => exact ⟨_, hd, rfl⟩
    · rintro ⟨d, hd, rfl⟩
      exact .literal hd
  | values pairs =>
    simp only [Fragment.pairs]
    constructor
    · intro h
      cases h with
      | value hp hd => exact ⟨_, hp, _, hd, rfl⟩
    · rintro ⟨pair, hp, d, hd, rfl⟩
      exact .value hp hd

theorem chosen_append_iff :
    Chosen (fs ++ gs) c ↔ ∃ a, Chosen fs a ∧ ∃ b, Chosen gs b ∧ c = behind a b := by
  induction fs generalizing c with
  | nil =>
    simp only [List.nil_append, chosen_nil_iff, exists_eq_left, empty_behind, exists_eq_right']
  | cons f fs ih =>
    rw [List.cons_append, chosen_cons_iff]
    constructor
    · rintro ⟨pair, hp, _, hd, rfl⟩
      obtain ⟨a, ha, b, hb, rfl⟩ := ih.mp hd
      exact ⟨_, chosen_cons_iff.mpr ⟨pair, hp, a, ha, rfl⟩, b, hb, (behind_assoc pair a b).symm⟩
    · rintro ⟨_, ha, b, hb, rfl⟩
      obtain ⟨pair, hp, d, hd, rfl⟩ := chosen_cons_iff.mp ha
      exact ⟨pair, hp, _, ih.mpr ⟨d, hd, b, hb, rfl⟩, behind_assoc pair d b⟩

theorem exists_chosen (full : ∀ f ∈ fs, f.isEmpty = false) : ∃ c, Chosen fs c := by
  induction fs with
  | nil => exact ⟨_, .nothing⟩
  | cons f fs ih =>
    rw [List.forall_mem_cons] at full
    obtain ⟨d, hd⟩ := ih full.2
    have some : f.pairs ≠ [] := by
      cases f with
      | text s => exact List.cons_ne_nil _ _
      | values pairs => exact List.isEmpty_eq_false_iff.mp full.1
    obtain ⟨pair, hp⟩ := List.exists_mem_of_ne_nil _ some
    exact ⟨_, chosen_cons_iff.mpr ⟨pair, hp, d, hd, rfl⟩⟩

theorem mem_extendChoices_iff :
    c ∈ extendChoices cs ps ↔ ∃ front ∈ cs, ∃ pair ∈ ps, c = behind front pair := by
  rw [extendChoices, List.mem_flatMap]
  constructor
  · rintro ⟨pair, hp, hc⟩
    obtain ⟨front, hf, rfl⟩ := List.mem_map.mp hc
    exact ⟨front, hf, pair, hp, rfl⟩
  · rintro ⟨front, hf, pair, hp, rfl⟩
    exact ⟨pair, hp, List.mem_map.mpr ⟨front, hf, rfl⟩⟩

/-- The choices so far are in front of all that is taken from the fragments that follow. -/
theorem mem_foldl_extend_iff :
    c ∈ fs.foldl (fun choices f => extendChoices choices f.pairs) cs ↔
      ∃ front ∈ cs, ∃ d, Chosen fs d ∧ c = behind front d := by
  induction fs generalizing cs with
  | nil =>
    simp only [List.foldl_nil, chosen_nil_iff, exists_eq_left, behind_empty, exists_eq_right']
  | cons f fs ih =>
    rw [List.foldl_cons, ih]
    constructor
    · rintro ⟨_, hx, d, hd, rfl⟩
      obtain ⟨front, hf, pair, hp, rfl⟩ := mem_extendChoices_iff.mp hx
      exact ⟨front, hf, _, chosen_cons_iff.mpr ⟨pair, hp, d, hd, rfl⟩, behind_assoc front pair d⟩
    · rintro ⟨front, hf, _, hx, rfl⟩
      obtain ⟨pair, hp, d, hd, rfl⟩ := chosen_cons_iff.mp hx
      exact ⟨_, mem_extendChoices_iff.mpr ⟨front, hf, pair, hp, rfl⟩, d, hd,
        (behind_assoc front pair d).symm⟩

theorem mem_choices_iff : c ∈ choices fs ↔ Chosen (fs.filter (!·.isEmpty)) c := by
  rw [choices, mem_foldl_extend_iff]
  simp only [List.mem_singleton, exists_eq_left, empty_behind, exists_eq_right']

example :
    let values := [("a", "A"), ("b", "B")]
    choices [.values values, .text "-", .values [], .values values] =
      [("a-a", "A-A"), ("b-a", "B-A"), ("a-b", "A-B"), ("b-b", "B-B")] := by decide

theorem choices_ne_nil (fs : List Fragment) : choices fs ≠ [] := by
  have full : ∀ f ∈ fs.filter (!·.isEmpty), f.isEmpty = false := by
    intro f hf
    simpa using (List.mem_filter.mp hf).2
  obtain ⟨c, hc⟩ := exists_chosen full
  exact List.ne_nil_of_mem (mem_choices_iff.mpr hc)

theorem mem_choices_append_iff :
    c ∈ choices (fs ++ gs) ↔ ∃ a ∈ choices fs, ∃ b ∈ choices gs, c = behind a b := by
  simp only [mem_choices_iff, List.filter_append, chosen_append_iff]

theorem mem_choices_text {s : String} : c ∈ choices [.text s] ↔ c = (s, s) := by
  rw [mem_choices_iff]
  by_cases empty : s = ""
  · subst empty
    exact chosen_nil_iff
  · have full : [Fragment.text s].filter (!·.isEmpty) = [.text s] :=
      List.filter_cons_of_pos (by simpa [Fragment.isEmpty] using empty)
    rw [full, chosen_cons_iff]
    simp only [Fragment.pairs, List.mem_singleton, chosen_nil_iff, exists_eq_left, behind_empty]

/-- In the order of code points, the display text first, and without repeats. -/
def Ascending (ps : List (String × String)) : Prop := ps.Pairwise (toLex · < toLex ·)

theorem pairLe_iff (p q : String × String) : pairLe p q = true ↔ toLex p ≤ toLex q := by
  rw [pairLe, Bool.or_eq_true, Bool.and_eq_true, decide_eq_true_iff, decide_eq_true_iff,
    decide_eq_true_iff, Prod.Lex.toLex_le_toLex]

theorem mem_dropRepeats_iff : c ∈ dropRepeats ps ↔ c ∈ ps := by
  fun_induction dropRepeats ps with
  | case1 p rest ih => simp [ih]
  | case2 p q rest differ ih => rw [List.mem_cons, ih, ← List.mem_cons]
  | case3 => rfl

theorem ascending_dropRepeats (h : ps.Pairwise (toLex · ≤ toLex ·)) :
    Ascending (dropRepeats ps) := by
  fun_induction dropRepeats ps with
  | case1 p rest ih => exact ih h.of_cons
  | case2 p q rest differ ih =>
    have least := List.pairwise_cons.mp h.of_cons
    refine List.pairwise_cons.mpr ⟨fun x hx => ?_, ih h.of_cons⟩
    have first : toLex p < toLex q :=
      lt_of_le_of_ne (List.rel_of_pairwise_cons h List.mem_cons_self) (mt toLex_inj.mp differ)
    rcases List.mem_cons.mp (mem_dropRepeats_iff.mp hx) with rfl | hx
    · exact first
    · exact lt_of_lt_of_le first (least.1 x hx)
  | case3 ps short =>
    match ps with
    | [] => exact .nil
    | [p] => exact List.pairwise_singleton _ p
    | p :: q :: rest => exact (short p q rest rfl).elim

theorem mem_asSet_iff : c ∈ asSet ps ↔ c ∈ ps := by
  rw [asSet, mem_dropRepeats_iff, List.mem_mergeSort]

theorem ascending_asSet (ps : List (String × String)) : Ascending (asSet ps) := by
  refine ascending_dropRepeats ?_
  have sorted := @List.pairwise_mergeSort _ pairLe ?_ ?_ ps
  · exact sorted.imp (pairLe_iff _ _).mp
  · intro p q r
    simp only [pairLe_iff]
    exact le_trans
  · intro p q
    rw [Bool.or_eq_true, pairLe_iff, pairLe_iff]
    exact le_total _ _

section Except

variable {ε α β : Type} {g : α → Except ε β} {xs : List α} {ys : List β}

theorem bind_eq_ok_iff {e : Except ε α} {y : β} :
    (e >>= g) = .ok y ↔ ∃ x, e = .ok x ∧ g x = .ok y := by
  cases e with
  | error cause => exact iff_of_false nofun nofun
  | ok x =>
    simp only [Except.ok.injEq, exists_eq_left']
    rfl

theorem pure_eq_ok_iff {x y : α} : (pure x : Except ε α) = .ok y ↔ y = x :=
  ⟨fun h => (Except.ok.inj h).symm, fun h => congrArg Except.ok h.symm⟩

theorem mapM_eq_ok_iff : xs.mapM g = .ok ys ↔ List.Forall₂ (fun x y => g x = .ok y) xs ys := by
  induction xs generalizing ys with
  | nil => rw [List.mapM_nil, pure_eq_ok_iff, List.forall₂_nil_left_iff]
  | cons x xs ih =>
    simp only [List.mapM_cons, bind_eq_ok_iff, pure_eq_ok_iff, ih, List.forall₂_cons_left_iff,
      exists_and_left]

/-- One failure is enough for all to fail. -/
theorem exists_mapM_iff : (∃ ys, xs.mapM g = .ok ys) ↔ ∀ x ∈ xs, ∃ y, g x = .ok y := by
  simp only [mapM_eq_ok_iff]
  induction xs with
  | nil => exact iff_of_true ⟨[], .nil⟩ nofun
  | cons x xs ih =>
    rw [List.forall_mem_cons, ← ih]
    constructor
    · rintro ⟨_, _ | ⟨first, more⟩⟩
      exact ⟨⟨_, first⟩, _, more⟩
    · rintro ⟨⟨y, first⟩, ys, more⟩
      exact ⟨y :: ys, .cons first more⟩

theorem mem_of_mapM {y : β} (h : xs.mapM g = .ok ys) : y ∈ ys ↔ ∃ x ∈ xs, g x = .ok y := by
  rw [mapM_eq_ok_iff] at h
  induction h with
  | nil => simp
  | cons first more ih =>
    rw [List.mem_cons, ih, List.exists_mem_cons_iff, first, Except.ok.injEq, eq_comm]

end Except

/-- Both texts of a choice, as the policy finishes them. -/
def finishPair (f : Formatter) (song : Song) (c : String × String) :
    Except PatternError (String × String) := do
  return (← f.policy.post c.1 song, ← f.policy.post c.2 song)

theorem finishPair_eq_ok_iff {f : Formatter} {song : Song} {pair : String × String} :
    f.finishPair song c = .ok pair ↔
      f.policy.post c.1 song = .ok pair.1 ∧ f.policy.post c.2 song = .ok pair.2 := by
  simp only [finishPair, bind_eq_ok_iff, pure_eq_ok_iff]
  constructor
  · rintro ⟨d, hd, s, hs, rfl⟩
    exact ⟨hd, hs⟩
  · rintro ⟨hd, hs⟩
    exact ⟨_, hd, _, hs, rfl⟩

theorem formatList_eq_ok_iff {f : Formatter} {song : Song} {pairs : List (String × String)} :
    f.formatList song = .ok pairs ↔
      ∃ finished, (choices (f.list.run (f.policy.source song)).fragments).mapM
        (f.finishPair song) = .ok finished ∧ pairs = asSet finished := by
  have unfolded : f.formatList song =
      (choices (f.list.run (f.policy.source song)).fragments).mapM (f.finishPair song) >>=
        fun finished => pure (asSet finished) := rfl
  simp only [unfolded, bind_eq_ok_iff, pure_eq_ok_iff]

theorem formatList_isOk_iff {f : Formatter} {song : Song} :
    (∃ pairs, f.formatList song = .ok pairs) ↔
      ∀ c ∈ choices (f.list.run (f.policy.source song)).fragments,
        (∃ d, f.policy.post c.1 song = .ok d) ∧ ∃ s, f.policy.post c.2 song = .ok s := by
  have finished : (∃ pairs, f.formatList song = .ok pairs) ↔
      ∃ ys, (choices (f.list.run (f.policy.source song)).fragments).mapM (f.finishPair song) =
        .ok ys := by
    simp only [formatList_eq_ok_iff]
    constructor
    · rintro ⟨_, ys, hys, _⟩
      exact ⟨ys, hys⟩
    · rintro ⟨ys, hys⟩
      exact ⟨_, ys, hys, rfl⟩
  simp only [finished, exists_mapM_iff, finishPair_eq_ok_iff, Prod.exists, exists_and_left,
    exists_and_right]

theorem formatList_of_plain {f : Formatter} (plain : f.policy = .plain) (song : Song) :
    f.formatList song =
      .ok (asSet (choices (f.list.run (f.policy.source song)).fragments)) := by
  refine formatList_eq_ok_iff.mpr ⟨_, mapM_eq_ok_iff.mpr (List.forall₂_same.mpr ?_), rfl⟩
  intro c _
  rw [finishPair_eq_ok_iff, plain]
  exact ⟨rfl, rfl⟩

theorem mem_of_formatList {f : Formatter} {song : Song} {pairs : List (String × String)}
    (plain : f.policy = .plain) (h : f.formatList song = .ok pairs) :
    c ∈ pairs ↔ c ∈ choices (f.list.run (f.policy.source song)).fragments := by
  cases h.symm.trans (formatList_of_plain plain song)
  exact mem_asSet_iff

/-- The list of all renderings is there just where each choice can be finished, and then it has the
finished choices: of each fragment that is not empty one value is taken, of a tag that comes twice
any two. -/
theorem formatList_choices (f : Formatter) (song : Song) :
    let output := (f.list.run (f.policy.source song)).fragments.filter (!·.isEmpty)
    ((∃ pairs, f.formatList song = .ok pairs) ↔ ∀ c, Chosen output c →
      (∃ d, f.policy.post c.1 song = .ok d) ∧ ∃ s, f.policy.post c.2 song = .ok s) ∧
    ∀ pairs, f.formatList song = .ok pairs → pairs ≠ [] ∧ Ascending pairs ∧
      ∀ d s, (d, s) ∈ pairs ↔ ∃ c, Chosen output c ∧
        f.policy.post c.1 song = .ok d ∧ f.policy.post c.2 song = .ok s := by
  intro output
  constructor
  · simp only [formatList_isOk_iff, mem_choices_iff]
    rfl
  · intro pairs h
    obtain ⟨finished, hf, rfl⟩ := formatList_eq_ok_iff.mp h
    have members (pair : String × String) : pair ∈ asSet finished ↔ ∃ c, Chosen output c ∧
        f.policy.post c.1 song = .ok pair.1 ∧ f.policy.post c.2 song = .ok pair.2 := by
      simp only [mem_asSet_iff, mem_of_mapM hf, mem_choices_iff, finishPair_eq_ok_iff]
      rfl
    refine ⟨?_, ascending_asSet finished, fun d s => members (d, s)⟩
    obtain ⟨c, hc⟩ := List.exists_mem_of_ne_nil _ (choices_ne_nil _)
    obtain ⟨⟨d, hd⟩, s, hs⟩ := formatList_isOk_iff.mp ⟨_, h⟩ c hc
    exact List.ne_nil_of_mem ((members (d, s)).mpr ⟨c, mem_choices_iff.mp hc, hd, hs⟩)

end SongPattern.Formatter
