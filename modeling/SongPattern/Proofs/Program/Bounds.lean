import SongPattern.Proofs.Program.Machine
import SongPattern.Proofs.Program.Progress

namespace SongPattern.Program

open Pattern (Node)

/-- Code that stands from `start` on names only what the program has, and jumps forward, to `stop`
at most. -/
def Bounded (p : Program) (stop : Nat) : (start : Nat) → List Instr → Prop
  | _, [] => True
  | start, instr :: code =>
    p.InRange instr ∧ (∀ target, instr.target? = some target → start < target ∧ target ≤ stop) ∧
      p.Bounded stop (start + 1) code

/-- A block that was compiled by itself. -/
def Sealed (p : Program) (block : List Instr) : Prop := p.Bounded block.length 0 block

variable {p : Program} {start stop : Nat} {code rest block : List Instr}

theorem Bounded.append (h : p.Bounded stop start code)
    (hr : p.Bounded stop (start + code.length) rest) : p.Bounded stop start (code ++ rest) := by
  induction code generalizing start with
  | nil => exact hr
  | cons instr code ih =>
    obtain ⟨inRange, target, tail⟩ := h
    refine ⟨inRange, target, ih tail ?_⟩
    rwa [List.length_cons, ← Nat.add_assoc, Nat.add_right_comm] at hr

theorem Bounded.mono {later : Nat} (h : p.Bounded stop start code) (hle : stop ≤ later) :
    p.Bounded later start code := by
  induction code generalizing start with
  | nil => trivial
  | cons instr code ih =>
    obtain ⟨inRange, target, tail⟩ := h
    exact ⟨inRange, fun t ht => (target t ht).imp_right (Nat.le_trans · hle), ih tail⟩

theorem Bounded.moved (h : p.Bounded stop start code) (offset : Nat) :
    p.Bounded (stop + offset) (start + offset) (moved offset code) := by
  induction code generalizing start with
  | nil => trivial
  | cons instr code ih =>
    obtain ⟨inRange, target, tail⟩ := h
    have behind := ih tail
    rw [Nat.add_right_comm] at behind
    refine ⟨(inRange_shifted offset).mpr inRange, fun t ht => ?_, behind⟩
    rw [Instr.target?_shifted, Option.map_eq_some_iff] at ht
    obtain ⟨own, jump, rfl⟩ := ht
    have bounds := target own jump
    omega

theorem Bounded.getElem? {i : Nat} {instr : Instr} (h : p.Bounded stop start code)
    (here : code[i]? = some instr) : p.InRange instr ∧
      ∀ target, instr.target? = some target → start + i < target ∧ target ≤ stop := by
  induction code generalizing start i with
  | nil => cases here
  | cons first code ih =>
    obtain ⟨inRange, target, tail⟩ := h
    cases i with
    | zero =>
      cases here
      exact ⟨inRange, target⟩
    | succ i =>
      have later := ih tail here
      rwa [Nat.add_assoc, Nat.add_comm 1] at later

theorem Sealed.placed (h : p.Sealed block) (fits : start + block.length ≤ stop) :
    p.Bounded stop start (moved start block) := by
  have own := Bounded.moved h start
  rw [Nat.zero_add, Nat.add_comm] at own
  exact own.mono fits

theorem Sealed.append (h : p.Sealed code) (hb : p.Sealed block) : p.Sealed (append code block) := by
  rw [Sealed, length_append]
  refine (Bounded.mono h (Nat.le_add_right _ _)).append ?_
  rw [Nat.zero_add]
  exact hb.placed (Nat.le_refl _)

theorem sealed_nil : p.Sealed [] := trivial

theorem Sealed.one {instr : Instr} (inRange : p.InRange instr) (still : instr.target? = none) :
    p.Sealed [instr] := by
  refine ⟨inRange, fun target jump => ?_, trivial⟩
  rw [still] at jump
  cases jump

/-- A jump over the block behind it, or a little further. -/
theorem bounded_jump {instr : Instr} {target : Nat} (inRange : p.InRange instr)
    (jump : instr.target? = some target) (h : p.Sealed block) (past : 1 + block.length ≤ target)
    (reach : target ≤ stop) : p.Bounded stop 0 (append [instr] block) := by
  have first : p.Bounded stop 0 [instr] := by
    refine ⟨inRange, fun t ht => ?_, trivial⟩
    rw [jump] at ht
    cases ht
    omega
  exact first.append (h.placed (Nat.le_trans past reach))

theorem sealed_jump {instr : Instr} (inRange : p.InRange instr)
    (jump : instr.target? = some (1 + block.length)) (h : p.Sealed block) :
    p.Sealed (append [instr] block) := by
  rw [Sealed, length_append, List.length_singleton]
  exact bounded_jump inRange jump h (Nat.le_refl _) (Nat.le_refl _)

theorem sealed_branch {slot : Nat} {yes no : List Instr} (hs : slot < p.slots)
    (hyes : p.Sealed yes) (hno : p.Sealed no) : p.Sealed (branch slot [] yes no) := by
  by_cases emptyYes : yes = []
  · subst emptyYes
    by_cases emptyNo : no = []
    · subst emptyNo
      exact sealed_nil
    · have own : p.InRange (.jumpIf slot (1 + no.length)) := hs
      rw [branch_no slot [] emptyNo, nil_append]
      exact sealed_jump own rfl hno
  · by_cases emptyNo : no = []
    · subst emptyNo
      have own : p.InRange (.jumpUnless slot (1 + yes.length)) := hs
      rw [branch_yes slot [] emptyYes, nil_append]
      exact sealed_jump own rfl hyes
    · have behind : p.Sealed (append [.jump (1 + no.length)] no) := sealed_jump trivial rfl hno
      rw [branch_both slot [] emptyYes emptyNo, nil_append, Sealed]
      simp only [length_append, List.length_singleton]
      refine Bounded.append (bounded_jump hs rfl hyes (by omega) (by omega)) ?_
      rw [Nat.zero_add]
      refine behind.placed ?_
      simp only [length_append, List.length_singleton]
      omega

/-- Checks lead to the end of the alternatives, so each may stand in front of it. -/
theorem bounded_laidOut {mark : Nat} {blocks : List (List Instr)} (hm : mark < p.marks)
    (h : ∀ block ∈ blocks, p.Sealed block) (fits : start + spanOf blocks ≤ stop) :
    p.Bounded stop start (laidOut mark stop start blocks) := by
  induction blocks generalizing start with
  | nil => trivial
  | cons block blocks ih =>
    obtain ⟨first, others⟩ := List.forall_mem_cons.mp h
    rw [spanOf] at fits
    refine (first.placed (by omega)).append ⟨hm, fun t ht => ?_, ?_⟩
    · cases ht
      rw [length_moved]
      omega
    · rw [length_moved]
      exact ih others (by omega)

/-- The program has all slots, marks and queries that were handed out so far. -/
structure Progress.Fits (q : Progress) (p : Program) : Prop where
  slots : q.slots ≤ p.slots
  marks : q.marks ≤ p.marks
  matchers : q.matchers <+: p.queries

theorem Progress.Before.fits {q q' : Progress} (h : q.Before q') (fits : q'.Fits p) : q.Fits p :=
  ⟨Nat.le_trans h.slots fits.slots, Nat.le_trans h.marks fits.marks,
    h.matchers.trans fits.matchers⟩

variable {literal : String → String} {parser : QueryParser}

theorem sealed_loadValue (key : String) (scope : Scope) (q : Progress)
    (fits : (loadValue key scope q).block.progress.Fits p) :
    p.Sealed (loadValue key scope q).block.code := by
  unfold loadValue at fits ⊢
  cases known : scope.values.lookup key with
  | some slot => exact sealed_nil
  | none =>
    rw [known] at fits
    exact .one fits.slots rfl

theorem sealed_loadPredicate {scope : Scope} {q : Progress} (predicate : String)
    (ready : Ready parser scope q)
    (fits : (loadPredicate parser predicate scope q).block.progress.Fits p) :
    p.Sealed (loadPredicate parser predicate scope q).block.code := by
  unfold loadPredicate at fits ⊢
  cases known : scope.queries.lookup predicate with
  | some slot => exact sealed_nil
  | none =>
    rw [known] at fits
    obtain ⟨_, _, recorded, finds⟩ := ask_correct ready.recorded predicate
    rcases asked : q.ask parser predicate with ⟨index?, q'⟩
    rw [asked] at fits recorded finds
    cases index? with
    | none => exact sealed_loadValue predicate scope q' fits
    | some index =>
      obtain ⟨matcher, _, found⟩ := finds.matcher
      rw [← recorded.matchers] at found
      obtain ⟨bound, _⟩ := List.getElem?_eq_some_iff.mp found
      exact .one ⟨Nat.lt_of_lt_of_le bound fits.matchers.length_le, fits.slots⟩ rfl

theorem sealed_conditionBlock {before : Scope} {load : Loaded} {yes no : Block}
    (hs : load.slot < p.slots) (hload : p.Sealed load.block.code) (hyes : p.Sealed yes.code)
    (hno : p.Sealed no.code) : p.Sealed (conditionBlock before load yes no).code := by
  by_cases none : yes.code = [] ∧ no.code = []
  · rw [conditionBlock_of_nil none]
    exact sealed_nil
  · rw [conditionBlock_of_not_nil none]
    exact hload.append (sealed_branch hs hyes hno)

/-- One case for each kind of node. -/
theorem sealed_compile :
    (∀ node scope q, Ready parser scope q →
      (compileNode literal parser node scope q).progress.Fits p →
      p.Sealed (compileNode literal parser node scope q).code) ∧
    (∀ nodes scope q, Ready parser scope q →
      (compileNodes literal parser nodes scope q []).progress.Fits p →
      p.Sealed (compileNodes literal parser nodes scope q []).code) ∧
    ∀ alternatives scope q, Ready parser scope q →
      (progressBehind literal parser alternatives scope q).Fits p →
      ∀ block ∈ blocksOf literal parser alternatives scope q, p.Sealed block := by
  apply Node.induction
  case text =>
    intro s scope q _ _
    exact .one trivial rfl
  case tag =>
    intro name scope q ready fits
    have load := leaves_loadValue name (ready.addTags (Pattern.tagParts name))
    have slot := load.ready.below.1 _ (mem_loadValue name scope _)
    have inRange : p.InRange (.emitSlot (loadValue name scope (q.addTags _)).slot) :=
      Nat.lt_of_lt_of_le slot fits.slots
    exact (sealed_loadValue name scope _ fits).append (.one inRange rfl)
  case when =>
    intro predicate yes ih scope q ready fits
    rw [compileNode, progress_conditionBlock] at fits
    have load := leaves_loadPredicate predicate ready
    have room := ((@leaves_compile literal parser).2.1 yes _ _ load.ready).before.fits fits
    have slot := (tells_loadPredicate predicate ready).lt load.ready.below
    exact sealed_conditionBlock (Nat.lt_of_lt_of_le slot room.slots)
      (sealed_loadPredicate predicate ready room) (ih _ _ load.ready fits) sealed_nil
  case either =>
    intro predicate yes no ihyes ihno scope q ready fits
    rw [compileNode, progress_conditionBlock] at fits
    have load := leaves_loadPredicate predicate ready
    have hyes := (@leaves_compile literal parser).2.1 yes _ _ load.ready
    have readyNo := load.ready.later hyes.before hyes.ready
    have roomYes := ((@leaves_compile literal parser).2.1 no _ _ readyNo).before.fits fits
    have room := hyes.before.fits roomYes
    have slot := (tells_loadPredicate predicate ready).lt load.ready.below
    exact sealed_conditionBlock (Nat.lt_of_lt_of_le slot room.slots)
      (sealed_loadPredicate predicate ready room) (ihyes _ _ load.ready roomYes)
      (ihno _ _ readyNo fits)
  case disjunction =>
    intro alternatives ih scope q ready fits
    rw [compileNode_disjunction] at fits ⊢
    have tried := (@leaves_compile literal parser).2.2 alternatives scope _ ready.mark
    have marks : q.marks < p.marks := (tried.before.fits fits).marks
    have blocks := ih scope _ ready.mark fits
    rw [Sealed, List.length_cons, length_laidOut, Nat.add_comm]
    refine ⟨marks, fun target jump => ?_, bounded_laidOut marks blocks (Nat.le_refl _)⟩
    cases jump
  case nil =>
    intro scope q _ _
    exact sealed_nil
  case cons =>
    intro node nodes ihnode ihnodes scope q ready fits
    rw [compileNodes_cons] at fits ⊢
    have first := (@leaves_compile literal parser).1 node scope q ready
    have rest := (@leaves_compile literal parser).2.1 nodes _ _ first.ready
    exact (ihnode scope q ready (rest.before.fits fits)).append (ihnodes _ _ first.ready fits)
  case none =>
    intro scope q _ _
    exact List.forall_mem_nil _
  case more =>
    intro nodes alternatives ihnodes ihmore scope q ready fits
    have first := (@leaves_compile literal parser).2.1 nodes scope q ready
    have readyRest := ready.later first.before first.ready
    have rest := (@leaves_compile literal parser).2.2 alternatives scope _ readyRest
    rw [blocksOf, List.forall_mem_cons]
    exact ⟨ihnodes scope q ready (rest.before.fits fits), ihmore scope _ readyRest fits⟩

theorem sealed_program (mode : Mode) (literal : String → String) (parser : QueryParser)
    (nodes : List Node) :
    (compile mode literal parser nodes).program.Sealed
      (compile mode literal parser nodes).program.code :=
  sealed_compile.2.1 nodes .empty .start (ready_start parser)
    ⟨Nat.le_refl _, Nat.le_refl _, List.prefix_refl _⟩

theorem Sealed.forward (h : p.Sealed p.code) : p.Forward := by
  intro i instr here target jump
  have bounds := (Bounded.getElem? h here).2 target jump
  rwa [Nat.zero_add] at bounds

theorem Sealed.inRange (h : p.Sealed p.code) : ∀ instr ∈ p.code, p.InRange instr := by
  intro instr hm
  obtain ⟨i, _, here⟩ := List.getElem_of_mem hm
  exact (Bounded.getElem? h (List.getElem?_eq_some_iff.mpr ⟨_, here⟩)).1

end SongPattern.Program
