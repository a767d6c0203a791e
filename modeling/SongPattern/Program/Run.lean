import SongPattern.Program.Instr

namespace SongPattern

/-- The values a program reads, as the policy has left them, and the song for its queries. -/
structure Source where
  joined : String → String
  pairs : String → List (String × String)
  song : Song

/-- What a program asked its source for. -/
inductive Access where
  | joined (key : String)
  | pairs (key : String)
  | song
  deriving DecidableEq

namespace Program

inductive Cell where
  | unset
  | text (s : String)
  | values (pairs : List (String × String))
  | flag (b : Bool)

def Cell.holds : Cell → Bool
  | .unset => false
  | .text s => !s.isEmpty
  | .values pairs => !pairs.isEmpty
  | .flag b => b

def Cell.fragments : Cell → List Fragment
  | .text s => [.text s]
  | .values pairs => [.values pairs]
  | .unset | .flag _ => []

/-- Output and accesses have the newest first. -/
structure State where
  output : List Fragment
  slots : Nat → Cell
  marks : Nat → Nat
  accesses : List Access

def State.start : State := ⟨[], fun _ => .unset, fun _ => 0, []⟩

def State.emit (st : State) (fragments : List Fragment) : State :=
  { st with output := fragments ++ st.output }

def State.store (st : State) (slot : Nat) (cell : Cell) (access : Access) : State :=
  { st with
    slots := fun i => if i = slot then cell else st.slots i
    accesses := access :: st.accesses }

def State.setMark (st : State) (mark : Nat) : State :=
  { st with marks := fun i => if i = mark then st.output.length else st.marks i }

def fetched (mode : Mode) (source : Source) (key : String) : Cell × Access :=
  match mode with
  | .joined => (.text (source.joined key), .joined key)
  | .listed => (.values (source.pairs key), .pairs key)

/-- Carries an instruction out. Gives the index of the one that comes after it, which is `next`
unless there is a jump. -/
def step (p : Program) (source : Source) (instr : Instr) (next : Nat) (st : State) : Nat × State :=
  match instr with
  | .emit literal => (next, st.emit [.text literal])
  | .fetch key slot =>
    let (cell, access) := fetched p.mode source key
    (next, st.store slot cell access)
  | .query index slot =>
    let answer := match p.queries[index]? with
      | some matcher => matcher source.song
      | none => false
    (next, st.store slot (.flag answer) .song)
  | .emitSlot slot => (next, st.emit (st.slots slot).fragments)
  | .jumpUnless slot target => (if (st.slots slot).holds then next else target, st)
  | .jumpIf slot target => (if (st.slots slot).holds then target else next, st)
  | .jump target => (target, st)
  | .mark mark => (next, st.setMark mark)
  | .keepOrRetract mark exit =>
    if st.marks mark < st.output.length then
      match st.output with
      | [] => (next, st)
      | last :: older => if last.isEmpty then (next, { st with output := older }) else (exit, st)
    else (next, st)

/-- Takes up to so many turns from the instruction at `index` on, and stops where there is none. -/
def loop (p : Program) (source : Source) : (turns index : Nat) → State → State
  | 0, _, st => st
  | turns + 1, index, st =>
    match p.code[index]? with
    | none => st
    | some instr =>
      let (next, st) := p.step source instr (index + 1) st
      p.loop source turns next st

/-- The fragments of a run and what it asked for, both in order. -/
structure Outcome where
  fragments : List Fragment
  accesses : List Access

/-- No instruction of compiled code comes up twice, so there is a turn for each of them. -/
def run (p : Program) (source : Source) : Outcome :=
  let st := p.loop source p.code.length 0 .start
  ⟨st.output.reverse, st.accesses.reverse⟩

end Program

end SongPattern
