import Mathlib.Data.List.Forall2
import SongPattern.Program.Run

namespace SongPattern

/-- A tag with one value or with none: both look-ups tell the same of it. -/
def Source.Single (source : Source) (key : String) : Prop :=
  (source.joined key ≠ "" ∧ source.pairs key = [(source.joined key, source.joined key)]) ∨
    (source.joined key = "" ∧ source.pairs key = [])

namespace Program

/-- What the two programs of a pattern put out for the same part of it. -/
inductive SameFragment : Fragment → Fragment → Prop
  | literal (s : String) : SameFragment (.text s) (.text s)
  | value {s : String} (full : s ≠ "") : SameFragment (.text s) (.values [(s, s)])
  | absent : SameFragment (.text "") (.values [])

inductive SameCell : Cell → Cell → Prop
  | unset : SameCell .unset .unset
  | value {s : String} (full : s ≠ "") : SameCell (.text s) (.values [(s, s)])
  | absent : SameCell (.text "") (.values [])
  | flag (b : Bool) : SameCell (.flag b) (.flag b)

/-- The two programs at the same place: the first holds texts where the other holds lists. -/
structure InStep (st st' : State) : Prop where
  output : List.Forall₂ SameFragment st.output st'.output
  slots : ∀ slot, SameCell (st.slots slot) (st'.slots slot)
  marks : st.marks = st'.marks

theorem SameFragment.isEmpty_eq {f g : Fragment} (h : SameFragment f g) :
    f.isEmpty = g.isEmpty := by
  cases h with
  | literal s => rfl
  | value full => simpa [Fragment.isEmpty] using full
  | absent => rfl

theorem SameCell.holds_eq {c d : Cell} (h : SameCell c d) : c.holds = d.holds := by
  cases h with
  | unset => rfl
  | value full => simpa [Cell.holds] using full
  | absent => rfl
  | flag b => rfl

theorem SameCell.fragments {c d : Cell} (h : SameCell c d) :
    List.Forall₂ SameFragment c.fragments d.fragments := by
  cases h with
  | unset => exact .nil
  | value full => exact .cons (.value full) .nil
  | absent => exact .cons .absent .nil
  | flag b => exact .nil

variable {st st' : State}

theorem inStep_start : InStep .start .start := ⟨.nil, fun _ => .unset, rfl⟩

theorem InStep.emit {fs gs : List Fragment} (h : InStep st st')
    (same : List.Forall₂ SameFragment fs gs) : InStep (st.emit fs) (st'.emit gs) :=
  ⟨List.rel_append same h.output, h.slots, h.marks⟩

theorem InStep.store {cell cell' : Cell} (h : InStep st st') (slot : Nat)
    (access access' : Access) (same : SameCell cell cell') :
    InStep (st.store slot cell access) (st'.store slot cell' access') := by
  refine ⟨h.output, ?_, h.marks⟩
  intro i
  simp only [State.store]
  split
  · exact same
  · exact h.slots i

theorem InStep.setMark (h : InStep st st') (mark : Nat) :
    InStep (st.setMark mark) (st'.setMark mark) := by
  refine ⟨h.output, h.slots, ?_⟩
  have length : st.output.length = st'.output.length := h.output.length_eq
  simp only [State.setMark, length, h.marks]

theorem InStep.output_cons {last : Fragment} {older : List Fragment} (h : InStep st st')
    (output : st.output = last :: older) :
    ∃ last' older', st'.output = last' :: older' ∧ SameFragment last last' ∧
      List.Forall₂ SameFragment older older' := by
  have same := h.output
  rw [output, List.forall₂_cons_left_iff] at same
  obtain ⟨last', older', first, rest, whole⟩ := same
  exact ⟨last', older', whole, first, rest⟩

theorem InStep.grown_iff (h : InStep st st') (mark : Nat) :
    st.marks mark < st.output.length ↔ st'.marks mark < st'.output.length := by
  rw [h.marks, h.output.length_eq]

theorem sameCell_fetched {source : Source} {key : String} (single : source.Single key) :
    SameCell (fetched .joined source key).1 (fetched .listed source key).1 := by
  rcases single with ⟨full, pairs⟩ | ⟨joined, pairs⟩
  · simp only [fetched, pairs]
    exact .value full
  · simp only [fetched, joined, pairs]
    exact .absent

/-- In one program a tag is fetched as a text, in the other as a list. -/
theorem step_inStep {p : Program} {source : Source} {instr : Instr} (next : Nat)
    (mode : p.mode = .joined) (h : InStep st st')
    (single : ∀ key slot, instr = .fetch key slot → source.Single key) :
    (p.step source instr next st).1 = ({ p with mode := .listed }.step source instr next st').1 ∧
      InStep (p.step source instr next st).2
        ({ p with mode := .listed }.step source instr next st').2 := by
  cases instr with
  | emit literal => exact ⟨rfl, h.emit (.cons (.literal literal) .nil)⟩
  | fetch key slot =>
    rw [step, step, mode]
    exact ⟨rfl, h.store slot _ _ (sameCell_fetched (single key slot rfl))⟩
  | query index slot => exact ⟨rfl, h.store slot _ _ (.flag _)⟩
  | emitSlot slot => exact ⟨rfl, h.emit (h.slots slot).fragments⟩
  | jumpUnless slot target =>
    rw [step, step, (h.slots slot).holds_eq]
    exact ⟨rfl, h⟩
  | jumpIf slot target =>
    rw [step, step, (h.slots slot).holds_eq]
    exact ⟨rfl, h⟩
  | jump target => exact ⟨rfl, h⟩
  | mark mark => exact ⟨rfl, h.setMark mark⟩
  | keepOrRetract mark exit =>
    rw [step, step]
    by_cases grown : st.marks mark < st.output.length
    · rw [if_pos grown, if_pos ((h.grown_iff mark).mp grown)]
      cases output : st.output with
      | nil =>
        rw [output] at grown
        exact absurd grown (Nat.not_lt_zero _)
      | cons last older =>
        obtain ⟨last', older', output', same, rest⟩ := h.output_cons output
        rw [output']
        dsimp only
        rw [← same.isEmpty_eq]
        split
        · exact ⟨rfl, rest, h.slots, h.marks⟩
        · exact ⟨rfl, h⟩
    · rw [if_neg grown, if_neg (mt (h.grown_iff mark).mpr grown)]
      exact ⟨rfl, h⟩

section Loop

variable {p : Program} {source : Source}

theorem accesses_step (instr : Instr) (next : Nat) (st : State) :
    st.accesses <:+ (p.step source instr next st).2.accesses := by
  cases instr with
  | fetch key slot => exact List.suffix_cons _ _
  | query index slot => exact List.suffix_cons _ _
  | keepOrRetract mark exit =>
    rw [step]
    split
    · split
      · exact List.suffix_refl _
      · split <;> exact List.suffix_refl _
    · exact List.suffix_refl _
  | _ => exact List.suffix_refl _

/-- A run forgets nothing that was asked for. -/
theorem accesses_loop (turns index : Nat) (st : State) :
    st.accesses <:+ (p.loop source turns index st).accesses := by
  induction turns generalizing index st with
  | zero => exact List.suffix_refl _
  | succ turns ih =>
    rw [loop]
    split
    · exact List.suffix_refl _
    · exact (accesses_step _ _ _).trans (ih _ _)

/-- Where every tag that the first program fetches has one value or none, the other program does
the same, turn by turn. -/
theorem loop_inStep (mode : p.mode = .joined) {turns index : Nat} {st st' : State}
    (h : InStep st st')
    (single : ∀ key, .joined key ∈ (p.loop source turns index st).accesses → source.Single key) :
    InStep (p.loop source turns index st)
      ({ p with mode := .listed }.loop source turns index st') := by
  induction turns generalizing index st st' with
  | zero => exact h
  | succ turns ih =>
    rw [loop] at single ⊢
    rw [loop]
    cases here : p.code[index]? with
    | none => exact h
    | some instr =>
      rw [here] at single
      have one : ∀ key slot, instr = .fetch key slot → source.Single key := by
        rintro key slot rfl
        have logged : .joined key ∈
            (p.step source (.fetch key slot) (index + 1) st).2.accesses := by
          simp [step, fetched, mode, State.store]
        exact single key ((accesses_loop turns _ _).subset logged)
      obtain ⟨next, same⟩ := step_inStep (index + 1) mode h one
      dsimp only at single ⊢
      rw [← next]
      exact ih same single

end Loop

end Program

end SongPattern
