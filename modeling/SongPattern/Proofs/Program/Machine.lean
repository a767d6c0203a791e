import SongPattern.Program.Run
import SongPattern.Proofs.Program.Code

namespace SongPattern.Program

/-- The instruction names only slots, marks and queries that the program has. -/
def InRange (p : Program) : Instr → Prop
  | .fetch _ slot | .emitSlot slot | .jumpUnless slot _ | .jumpIf slot _ => slot < p.slots
  | .query index slot => index < p.queries.length ∧ slot < p.slots
  | .mark mark | .keepOrRetract mark _ => mark < p.marks
  | .emit _ | .jump _ => True

theorem inRange_shifted {p : Program} {instr : Instr} (offset : Nat) :
    p.InRange (instr.shifted offset) ↔ p.InRange instr := by
  cases instr <;> rfl

/-- These instructions stand in the program from `start` on, as they are. -/
def Stands (p : Program) (start : Nat) (code : List Instr) : Prop := code <+: p.code.drop start

/-- A block that was compiled by itself has been moved into the program, to `start`. -/
def Placed (p : Program) (start : Nat) (block : List Instr) : Prop :=
  p.Stands start (moved start block)

section Stands

variable {p : Program} {start : Nat} {instr : Instr} {code rest block : List Instr}

theorem Stands.left (h : p.Stands start (code ++ rest)) : p.Stands start code :=
  (List.prefix_append code rest).trans h

theorem Stands.right (h : p.Stands start (code ++ rest)) :
    p.Stands (start + code.length) rest := by
  obtain ⟨after, whole⟩ := h
  refine ⟨after, ?_⟩
  rw [← List.drop_drop, ← whole, List.append_assoc, List.drop_left]

theorem Stands.head (h : p.Stands start (instr :: code)) : p.code[start]? = some instr := by
  obtain ⟨after, whole⟩ := h
  have first : (p.code.drop start)[0]? = some instr := by
    rw [← whole]
    rfl
  rwa [List.getElem?_drop, Nat.add_zero] at first

theorem Stands.tail (h : p.Stands start (instr :: code)) : p.Stands (start + 1) code :=
  @Stands.right p start [instr] code h

theorem placed_whole (p : Program) : p.Placed 0 p.code := by
  rw [Placed, moved_zero]
  exact List.prefix_refl _

theorem placed_nil (p : Program) (start : Nat) : p.Placed start [] := List.nil_prefix

theorem Placed.left (h : p.Placed start (append code block)) : p.Placed start code := by
  rw [Placed, moved_append_block] at h
  exact h.left

theorem Placed.right (h : p.Placed start (append code block)) :
    p.Placed (start + code.length) block := by
  rw [Placed, moved_append_block] at h
  have behind := h.right
  rwa [length_moved] at behind

theorem Placed.head (h : p.Placed start (instr :: code)) :
    p.code[start]? = some (instr.shifted start) := Stands.head h

end Stands

/-- An instruction that is carried out, where it stands, and the state it finds. -/
structure Visit where
  index : Nat
  instr : Instr
  state : State

/-- The loop of a run goes from one index and state to another, in as many turns as it takes. An
instruction that names what the program does not have cannot be carried out, so such a run ends
before it. -/
inductive Passes (p : Program) (source : Source) :
    Nat → State → List Visit → Nat → State → Prop where
  | stay (index : Nat) (st : State) : Passes p source index st [] index st
  | go {index stop : Nat} {instr : Instr} {st st' : State} {visits : List Visit}
      (here : p.code[index]? = some instr) (inRange : p.InRange instr)
      (rest : Passes p source (p.step source instr (index + 1) st).1
        (p.step source instr (index + 1) st).2 visits stop st') :
      Passes p source index st (⟨index, instr, st⟩ :: visits) stop st'

/-- All jumps lead forward, and not beyond the end. -/
def Forward (p : Program) : Prop :=
  ∀ i instr, p.code[i]? = some instr →
    ∀ target, instr.target? = some target → i < target ∧ target ≤ p.code.length

variable {p : Program} {source : Source} {start middle stop : Nat} {st st₁ st' : State}
variable {visits more : List Visit}

theorem Passes.append (h₁ : Passes p source start st visits middle st₁)
    (h₂ : Passes p source middle st₁ more stop st') :
    Passes p source start st (visits ++ more) stop st' := by
  induction h₁ with
  | stay => exact h₂
  | go here inRange _ ih => exact .go here inRange (ih h₂)

/-- The run goes on behind an instruction, or where it leads to. -/
theorem step_next (p : Program) (source : Source) (instr : Instr) (next : Nat) (st : State) :
    (p.step source instr next st).1 = next ∨
      instr.target? = some (p.step source instr next st).1 := by
  cases instr with
  | jumpUnless slot target =>
    rw [step]
    cases (st.slots slot).holds with
    | true => exact .inl rfl
    | false => exact .inr rfl
  | jumpIf slot target =>
    rw [step]
    cases (st.slots slot).holds with
    | true => exact .inr rfl
    | false => exact .inl rfl
  | jump target => exact .inr rfl
  | keepOrRetract mark exit =>
    rw [step]
    split
    · cases st.output with
      | nil => exact .inl rfl
      | cons last older =>
        dsimp only
        split
        · exact .inl rfl
        · exact .inr rfl
    · exact .inl rfl
  | _ => exact .inl rfl

theorem Forward.step (forward : p.Forward) {instr : Instr} (here : p.code[start]? = some instr)
    (source : Source) (st : State) : start < (p.step source instr (start + 1) st).1 := by
  rcases step_next p source instr (start + 1) st with next | jump
  · rw [next]
    exact Nat.lt_succ_self _
  · exact (forward _ _ here _ jump).1

/-- The loop only goes forward. -/
theorem Passes.ascending (forward : p.Forward) (h : Passes p source start st visits stop st') :
    start + visits.length ≤ stop ∧ (∀ v ∈ visits, start ≤ v.index ∧ v.index < stop) ∧
      (visits.map (·.index)).Pairwise (· < ·) := by
  induction h with
  | stay => exact ⟨Nat.le_refl _, nofun, .nil⟩
  | @go index stop instr st st' visits here inRange rest ih =>
    obtain ⟨turns, inside, sorted⟩ := ih
    have later := forward.step here source st
    refine ⟨?_, ?_, ?_⟩
    · rw [List.length_cons]
      omega
    · rw [List.forall_mem_cons]
      refine ⟨⟨Nat.le_refl _, by simp only; omega⟩, fun v hv => ?_⟩
      have bounds := inside v hv
      omega
    · rw [List.map_cons, List.pairwise_cons, List.forall_mem_map]
      refine ⟨fun v hv => ?_, sorted⟩
      have bounds := inside v hv
      simp only
      omega

/-- The loop takes these turns, and has the others left. -/
theorem Passes.loop_eq (h : Passes p source start st visits stop st') (turns : Nat) :
    p.loop source (visits.length + turns) start st = p.loop source turns stop st' := by
  induction h with
  | stay => rw [List.length_nil, Nat.zero_add]
  | go here inRange rest ih =>
    rw [List.length_cons, Nat.add_right_comm, loop, here]
    exact ih

theorem loop_end (turns : Nat) (st : State) : p.loop source turns p.code.length st = st := by
  cases turns with
  | zero => rfl
  | succ turns =>
    rw [loop, List.getElem?_eq_none (Nat.le_refl _)]

/-- Once it is at the end, the loop has stopped: further turns change nothing. -/
theorem Passes.loop_stops (forward : p.Forward)
    (h : Passes p source 0 .start visits p.code.length st) {turns : Nat}
    (enough : p.code.length ≤ turns) : p.loop source turns 0 .start = st := by
  have taken := (h.ascending forward).1
  obtain ⟨spare, rfl⟩ : ∃ spare, turns = visits.length + spare :=
    Nat.exists_eq_add_of_le (by omega)
  rw [h.loop_eq, loop_end]

/-- A run that comes to the end of the code is the whole run. -/
theorem Passes.run_eq (forward : p.Forward)
    (h : Passes p source 0 .start visits p.code.length st) :
    p.run source = ⟨st.output.reverse, st.accesses.reverse⟩ := by
  rw [run, h.loop_stops forward (Nat.le_refl _)]

end SongPattern.Program
