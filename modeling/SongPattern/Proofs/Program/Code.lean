import SongPattern.Program.Compile
import SongPattern.Proofs.Pattern.Node

namespace SongPattern

namespace Instr

theorem shifted_zero (instr : Instr) : instr.shifted 0 = instr := by
  cases instr <;> rfl

theorem shifted_shifted (instr : Instr) (first second : Nat) :
    (instr.shifted first).shifted second = instr.shifted (first + second) := by
  cases instr <;> simp only [shifted, Nat.add_assoc]

theorem target?_shifted (instr : Instr) (offset : Nat) :
    (instr.shifted offset).target? = instr.target?.map (· + offset) := by
  cases instr <;> rfl

end Instr

namespace Program

open Pattern (Node)

/-- Code whose first instruction stands at index `start`. -/
def moved (start : Nat) (code : List Instr) : List Instr := code.map (·.shifted start)

theorem append_eq (code block : List Instr) : append code block = code ++ moved code.length block :=
  rfl

theorem moved_zero (code : List Instr) : moved 0 code = code := by
  rw [moved, funext Instr.shifted_zero, List.map_id']

theorem moved_moved (code : List Instr) (first second : Nat) :
    moved second (moved first code) = moved (first + second) code := by
  rw [moved, moved, moved, List.map_map]
  exact List.map_congr_left fun instr _ => instr.shifted_shifted first second

theorem moved_append (start : Nat) (code rest : List Instr) :
    moved start (code ++ rest) = moved start code ++ moved start rest := List.map_append

theorem length_moved (start : Nat) (code : List Instr) : (moved start code).length = code.length :=
  List.length_map _

theorem length_append (code block : List Instr) :
    (append code block).length = code.length + block.length := by
  rw [append_eq, List.length_append, length_moved]

theorem append_nil (code : List Instr) : append code [] = code := List.append_nil code

theorem nil_append (code : List Instr) : append [] code = code := moved_zero code

/-- Code that is moved whole has each of its blocks moved to where it stands then. -/
theorem moved_append_block (start : Nat) (code block : List Instr) :
    moved start (append code block) =
      moved start code ++ moved (start + code.length) block := by
  rw [append_eq, moved_append, moved_moved, Nat.add_comm code.length]

theorem append_assoc (code block rest : List Instr) :
    append (append code block) rest = append code (append block rest) := by
  rw [append_eq, length_append, append_eq, List.append_assoc, ← moved_append_block]
  rfl

theorem append_eq_nil_iff {code block : List Instr} :
    append code block = [] ↔ code = [] ∧ block = [] := by
  rw [append_eq, List.append_eq_nil_iff, moved, List.map_eq_nil_iff]

theorem append_singleton (code : List Instr) (instr : Instr) :
    append code [instr] = code ++ [instr.shifted code.length] := rfl

theorem branch_yes (slot : Nat) (code : List Instr) {yes : List Instr} (h : yes ≠ []) :
    branch slot code yes [] = append code (append [.jumpUnless slot (1 + yes.length)] yes) := by
  have target : 1 + yes.length + code.length = code.length + 1 + yes.length := by omega
  rw [← append_assoc, append_singleton, Instr.shifted, target, branch,
    List.isEmpty_eq_false_iff.mpr h]
  rfl

theorem branch_no (slot : Nat) (code : List Instr) {no : List Instr} (h : no ≠ []) :
    branch slot code [] no = append code (append [.jumpIf slot (1 + no.length)] no) := by
  have target : 1 + no.length + code.length = code.length + 1 + no.length := by omega
  rw [← append_assoc, append_singleton, Instr.shifted, target, branch,
    List.isEmpty_eq_false_iff.mpr h]
  rfl

theorem branch_both (slot : Nat) (code : List Instr) {yes no : List Instr} (hy : yes ≠ [])
    (hn : no ≠ []) :
    branch slot code yes no =
      append code (append (append [.jumpUnless slot (1 + yes.length + 1)] yes)
        (append [.jump (1 + no.length)] no)) := by
  have first : 1 + yes.length + 1 + code.length = code.length + 1 + yes.length + 1 := by omega
  have second : 1 + no.length + (code.length + 1 + yes.length) =
      code.length + 1 + yes.length + 1 + no.length := by omega
  rw [← append_assoc, ← append_assoc, ← append_assoc, append_singleton, append_singleton,
    length_append, List.length_append, List.length_singleton, Instr.shifted, Instr.shifted, first,
    second, branch, List.isEmpty_eq_false_iff.mpr hy, List.isEmpty_eq_false_iff.mpr hn]

/-- The code of a condition can be laid out by itself first. -/
theorem branch_behind (slot : Nat) (code yes no : List Instr) :
    branch slot code yes no = append code (branch slot [] yes no) := by
  by_cases hy : yes = []
  · subst hy
    by_cases hn : no = []
    · subst hn
      exact (append_nil code).symm
    · rw [branch_no slot code hn, branch_no slot [] hn, nil_append]
  · by_cases hn : no = []
    · subst hn
      rw [branch_yes slot code hy, branch_yes slot [] hy, nil_append]
    · rw [branch_both slot code hy hn, branch_both slot [] hy hn, nil_append]

theorem branch_eq_nil_iff {slot : Nat} {yes no : List Instr} :
    branch slot [] yes no = [] ↔ yes = [] ∧ no = [] := by
  by_cases hy : yes = []
  · subst hy
    by_cases hn : no = []
    · subst hn
      exact iff_of_true rfl ⟨rfl, rfl⟩
    · rw [branch_no slot [] hn, append_eq_nil_iff, append_eq_nil_iff]
      simp [hn]
  · by_cases hn : no = []
    · subst hn
      rw [branch_yes slot [] hy, append_eq_nil_iff, append_eq_nil_iff]
      simp [hy]
    · rw [branch_both slot [] hy hn, append_eq_nil_iff, append_eq_nil_iff, append_eq_nil_iff]
      simp [hy]

theorem progress_conditionBlock (before : Scope) (load : Loaded) (yes no : Block) :
    (conditionBlock before load yes no).progress = no.progress := by
  rw [conditionBlock]
  split <;> rfl

theorem conditionBlock_of_nil {before : Scope} {load : Loaded} {yes no : Block}
    (h : yes.code = [] ∧ no.code = []) :
    conditionBlock before load yes no = ⟨[], before, no.progress⟩ := by
  rw [conditionBlock, h.1, h.2]
  rfl

theorem conditionBlock_of_not_nil {before : Scope} {load : Loaded} {yes no : Block}
    (h : ¬(yes.code = [] ∧ no.code = [])) :
    conditionBlock before load yes no =
      ⟨append load.block.code (branch load.slot [] yes.code no.code), load.block.scope,
        no.progress⟩ := by
  rw [← branch_behind, conditionBlock, if_neg]
  simpa using h

theorem code_conditionBlock_eq_nil {before : Scope} {load : Loaded} {yes no : Block} :
    (conditionBlock before load yes no).code = [] ↔ yes.code = [] ∧ no.code = [] := by
  by_cases h : yes.code = [] ∧ no.code = []
  · rw [conditionBlock_of_nil h]
    exact iff_of_true rfl h
  · rw [conditionBlock_of_not_nil h, append_eq_nil_iff, branch_eq_nil_iff]
    exact iff_of_false (fun both => h both.2) h

/-- The alternatives of a disjunction that ends at `stop`, laid out from `start` on, each with its
check behind it. -/
def laidOut (mark stop : Nat) : (start : Nat) → List (List Instr) → List Instr
  | _, [] => []
  | start, block :: blocks =>
    moved start block ++
      .keepOrRetract mark stop :: laidOut mark stop (start + block.length + 1) blocks

/-- Where the checks stand. -/
def checksFrom : (start : Nat) → List (List Instr) → List Nat
  | _, [] => []
  | start, block :: blocks =>
    (start + block.length) :: checksFrom (start + block.length + 1) blocks

def spanOf : List (List Instr) → Nat
  | [] => 0
  | block :: blocks => block.length + 1 + spanOf blocks

theorem length_laidOut (mark stop start : Nat) (blocks : List (List Instr)) :
    (laidOut mark stop start blocks).length = spanOf blocks := by
  induction blocks generalizing start with
  | nil => rfl
  | cons block blocks ih =>
    rw [laidOut, List.length_append, length_moved, List.length_cons, ih, spanOf]
    omega

theorem moved_laidOut (mark stop start offset : Nat) (blocks : List (List Instr)) :
    moved offset (laidOut mark stop start blocks) =
      laidOut mark (stop + offset) (start + offset) blocks := by
  induction blocks generalizing start with
  | nil => rfl
  | cons block blocks ih =>
    have behind : start + block.length + 1 + offset = start + offset + block.length + 1 := by omega
    rw [laidOut, laidOut, moved_append, moved_moved, ← behind, ← ih]
    rfl

/-- Each check is reached by its own index and made to lead to `stop`. -/
theorem patch_laidOut (mark stop : Nat) (code : List Instr) (blocks : List (List Instr)) :
    (checksFrom code.length blocks).foldl
        (fun code i => code.set i (Instr.keepOrRetract mark stop))
        (code ++ laidOut mark 0 code.length blocks) =
      code ++ laidOut mark stop code.length blocks := by
  induction blocks generalizing code with
  | nil => rfl
  | cons block blocks ih =>
    have front : (code ++ moved code.length block).length = code.length + block.length := by
      rw [List.length_append, length_moved]
    have checked : (code ++ moved code.length block ++ [Instr.keepOrRetract mark stop]).length =
        code.length + block.length + 1 := by
      rw [List.length_append, front, List.length_singleton]
    have rest := ih (code ++ moved code.length block ++ [.keepOrRetract mark stop])
    rw [checked] at rest
    rw [checksFrom, List.foldl_cons, laidOut, laidOut, ← List.append_assoc, ← front,
      List.set_append_right _ _ (Nat.le_refl _), Nat.sub_self, List.set_cons_zero, front]
    simpa only [List.append_assoc, List.singleton_append] using rest

section Compile

variable (literal : String → String) (parser : QueryParser)

/-- The code for each alternative by itself. -/
def blocksOf : List (List Node) → Scope → Progress → List (List Instr)
  | [], _, _ => []
  | nodes :: more, scope, p =>
    (compileNodes literal parser nodes scope p []).code ::
      blocksOf more scope (compileNodes literal parser nodes scope p []).progress

def progressBehind : List (List Node) → Scope → Progress → Progress
  | [], _, p => p
  | nodes :: more, scope, p =>
    progressBehind more scope (compileNodes literal parser nodes scope p []).progress

variable {literal parser}

theorem compileNodes_behind (nodes : List Node) (scope : Scope) (p : Progress)
    (code : List Instr) :
    compileNodes literal parser nodes scope p code =
      { compileNodes literal parser nodes scope p [] with
        code := append code (compileNodes literal parser nodes scope p []).code } := by
  induction nodes generalizing scope p code with
  | nil =>
    rw [compileNodes, compileNodes, append_nil]
  | cons node nodes ih =>
    rw [compileNodes, compileNodes, nil_append, ih, ih _ _ (compileNode ..).code, append_assoc]

theorem compileNodes_cons (node : Node) (nodes : List Node) (scope : Scope) (p : Progress) :
    compileNodes literal parser (node :: nodes) scope p [] =
      let first := compileNode literal parser node scope p
      let rest := compileNodes literal parser nodes first.scope first.progress []
      { rest with code := append first.code rest.code } := by
  rw [compileNodes, nil_append, compileNodes_behind]

theorem compileAlternatives_eq (mark : Nat) (alternatives : List (List Node)) (scope : Scope)
    (p : Progress) (code : List Instr) (checks : List Nat) :
    compileAlternatives literal parser mark alternatives scope p code checks =
      ⟨code ++ laidOut mark 0 code.length (blocksOf literal parser alternatives scope p),
        checks ++ checksFrom code.length (blocksOf literal parser alternatives scope p),
        progressBehind literal parser alternatives scope p⟩ := by
  induction alternatives generalizing p code checks with
  | nil =>
    rw [compileAlternatives, blocksOf, laidOut, checksFrom, List.append_nil, List.append_nil]
    rfl
  | cons nodes alternatives ih =>
    rw [compileAlternatives, ih, blocksOf, laidOut, checksFrom, length_append, List.length_append,
      length_append, List.length_singleton, append_eq]
    simp only [List.append_assoc, List.singleton_append]
    rfl

/-- A disjunction keeps the length of the output and tries its alternatives up to its own end. -/
theorem compileNode_disjunction (alternatives : List (List Node)) (scope : Scope) (p : Progress) :
    compileNode literal parser (.disjunction alternatives) scope p =
      let entered := { p with marks := p.marks + 1 }
      let blocks := blocksOf literal parser alternatives scope entered
      ⟨.mark p.marks :: laidOut p.marks (1 + spanOf blocks) 1 blocks, scope,
        progressBehind literal parser alternatives scope entered⟩ := by
  have patched := patch_laidOut p.marks
    (1 + spanOf (blocksOf literal parser alternatives scope { p with marks := p.marks + 1 }))
    [.mark p.marks]
    (blocksOf literal parser alternatives scope { p with marks := p.marks + 1 })
  rw [compileNode, compileAlternatives_eq]
  simp only [Trials.patched, List.length_append, length_laidOut, List.nil_append]
  rw [List.length_singleton] at patched ⊢
  rw [patched]
  rfl

/-- The jump of the condition has moved with its block, and both checks lead to the end. -/
example :
    (compile .joined id (fun _ => none)
      [.disjunction [[.condition "a" [.tag "b"] none], [.text "x"]]]).program.code =
        [.mark 0, .fetch "a" 0, .jumpUnless 0 5, .fetch "b" 1, .emitSlot 1, .keepOrRetract 0 8,
          .emit "x", .keepOrRetract 0 8] := by
  decide +kernel

end Compile

end Program

end SongPattern
