import Mathlib.Data.List.Forall2
import SongPattern.Proofs.Program.Bounds
import SongPattern.Proofs.Program.Recall

namespace SongPattern

/-- The slot that an instruction fills. Only lookups fill one. -/
def Instr.fills? : Instr → Option Nat
  | .fetch _ slot | .query _ slot => some slot
  | _ => none

namespace Program

open Pattern (Node)

section Machine

variable {r : Rendering} {scope : Scope}

/-- The slots of the scope hold what they were filled with. -/
structure Scope.Holds (r : Rendering) (scope : Scope) (st : State) : Prop where
  values : ∀ entry ∈ scope.values, st.slots entry.2 = (fetched r.mode r.source entry.1).1
  queries : ∀ entry ∈ scope.queries,
    ∃ matcher, r.parser entry.1 = some matcher ∧ st.slots entry.2 = .flag (matcher r.source.song)

/-- Code compiled after `p` leaves alone what was handed out before. -/
structure Frame (p : Progress) (st st' : State) : Prop where
  slots : ∀ i < p.slots, st'.slots i = st.slots i
  marks : ∀ m < p.marks, st'.marks m = st.marks m

theorem Frame.refl (p : Progress) (st : State) : Frame p st st := ⟨fun _ _ => rfl, fun _ _ => rfl⟩

theorem Frame.trans {p q : Progress} {st st₁ st₂ : State} (h₁ : Frame p st st₁)
    (hpq : p.Before q) (h₂ : Frame q st₁ st₂) : Frame p st st₂ := by
  constructor
  · intro i hi
    rw [h₂.slots i (Nat.lt_of_lt_of_le hi hpq.slots), h₁.slots i hi]
  · intro m hm
    rw [h₂.marks m (Nat.lt_of_lt_of_le hm hpq.marks), h₁.marks m hm]

theorem Scope.Holds.frame {p : Progress} {st st' : State} (h : scope.Holds r st)
    (hb : scope.Below p.slots) (hf : Frame p st st') : scope.Holds r st' := by
  constructor
  · intro entry he
    rw [hf.slots _ (hb.1 entry he), h.values entry he]
  · intro entry he
    rw [hf.slots _ (hb.2 entry he)]
    exact h.queries entry he

/-- The fragments that were put out, the oldest first. -/
def State.printed (st : State) : List Fragment := st.output.reverse

theorem frame_store {p : Progress} (st : State) (cell : Cell) (access : Access) :
    Frame p st (st.store p.slots cell access) := by
  constructor
  · intro i hi
    simp [State.store, Nat.ne_of_lt hi]
  · intro m _
    rfl

theorem store_slots (st : State) (slot : Nat) (cell : Cell) (access : Access) :
    (st.store slot cell access).slots slot = cell := by
  simp [State.store]

theorem store_slots_of_ne {slot i : Nat} (st : State) (cell : Cell) (access : Access)
    (h : i ≠ slot) : (st.store slot cell access).slots i = st.slots i := by
  simp [State.store, h]

theorem Scope.Holds.addValue {n : Nat} {st : State} (h : scope.Holds r st)
    (hb : scope.Below n) (key : String) (access : Access) :
    Scope.Holds r { scope with values := (key, n) :: scope.values }
      (st.store n (fetched r.mode r.source key).1 access) := by
  constructor
  · intro entry he
    rcases List.mem_cons.mp he with rfl | he
    · exact store_slots st n _ access
    · rw [store_slots_of_ne st _ access (Nat.ne_of_lt (hb.1 entry he)), h.values entry he]
  · intro entry he
    rw [store_slots_of_ne st _ access (Nat.ne_of_lt (hb.2 entry he))]
    exact h.queries entry he

theorem Scope.Holds.addQuery {n : Nat} {st : State} {text : String}
    {matcher : Matcher} (h : scope.Holds r st) (hb : scope.Below n)
    (hm : r.parser text = some matcher) (access : Access) :
    Scope.Holds r { scope with queries := (text, n) :: scope.queries }
      (st.store n (.flag (matcher r.source.song)) access) := by
  constructor
  · intro entry he
    rw [store_slots_of_ne st _ access (Nat.ne_of_lt (hb.1 entry he)), h.values entry he]
  · intro entry he
    rcases List.mem_cons.mp he with rfl | he
    · exact ⟨matcher, hm, store_slots st n _ access⟩
    · rw [store_slots_of_ne st _ access (Nat.ne_of_lt (hb.2 entry he))]
      exact h.queries entry he

theorem holds_fetched (key : String) :
    (fetched r.mode r.source key).1.holds = !(r.value key).isEmpty := by
  unfold fetched Rendering.value
  cases r.mode <;> rfl

theorem fragments_fetched (key : String) :
    (fetched r.mode r.source key).1.fragments = [r.value key] := by
  unfold fetched Rendering.value
  cases r.mode <;> rfl

end Machine

/-- The code of this disjunction stands between `start` and `stop`, with its own mark. -/
def DisjunctionAt (r : Rendering) (p : Program) (alternatives : List (List Node))
    (mark start stop : Nat) : Prop :=
  ∃ scope q, q.marks = mark ∧
    p.Placed start (compileNode r.literal r.parser (.disjunction alternatives) scope q).code ∧
    start + (compileNode r.literal r.parser (.disjunction alternatives) scope q).code.length = stop

/-- One of the disjunctions in `known`, with its code up to `stop`, was entered at a visit that kept
the output's length at `mark`. -/
def Opened (r : Rendering) (p : Program) (known : List (List (List Node)))
    (visits : List Visit) (mark length stop : Nat) : Prop :=
  ∃ w ∈ visits, w.instr = .mark mark ∧ w.state.output.length = length ∧
    ∃ alternatives ∈ known, DisjunctionAt r p alternatives mark w.index stop

def Filled (visits : List Visit) (slot : Nat) : Prop := ∃ w ∈ visits, w.instr.fills? = some slot

/-- What an instruction reads was put there by one that was carried out before, in the kind that is
wanted. -/
def Visit.Justified (r : Rendering) (p : Program) (known : List (List (List Node)))
    (earlier : List Visit) (v : Visit) : Prop :=
  match v.instr with
  | .emitSlot slot => Filled earlier slot ∧ ∀ b, v.state.slots slot ≠ .flag b
  | .jumpUnless slot _ | .jumpIf slot _ => Filled earlier slot
  | .keepOrRetract mark exit =>
    Opened r p known earlier mark (v.state.marks mark) exit ∧
      v.state.marks mark ≤ v.state.output.length
  | _ => True

/-- The visits are justified, one after another, by those before them. -/
def Sound (r : Rendering) (p : Program) (known : List (List (List Node))) :
    (earlier visits : List Visit) → Prop
  | _, [] => True
  | earlier, v :: visits => v.Justified r p known earlier ∧ Sound r p known (earlier ++ [v]) visits

variable {r : Rendering} {p : Program} {known : List (List (List Node))}
variable {visits more last : List Visit}

theorem Filled.mono {slot : Nat} (h : Filled visits slot) (sub : visits ⊆ more) :
    Filled more slot := by
  obtain ⟨w, hw, fills⟩ := h
  exact ⟨w, sub hw, fills⟩

theorem Opened.mono {mark length stop : Nat} (h : Opened r p known visits mark length stop)
    (sub : visits ⊆ more) : Opened r p known more mark length stop := by
  obtain ⟨w, hw, rest⟩ := h
  exact ⟨w, sub hw, rest⟩

theorem Sound.append (h : Sound r p known visits more)
    (h' : Sound r p known (visits ++ more) last) : Sound r p known visits (more ++ last) := by
  induction more generalizing visits with
  | nil =>
    rw [List.append_nil] at h'
    exact h'
  | cons v more ih =>
    refine ⟨h.1, ih h.2 ?_⟩
    rw [List.append_assoc]
    exact h'

theorem Sound.justified {v : Visit} (h : Sound r p known visits (more ++ v :: last)) :
    v.Justified r p known (visits ++ more) := by
  induction more generalizing visits with
  | nil =>
    rw [List.append_nil]
    exact h.1
  | cons w more ih =>
    have rest := ih h.2
    rwa [List.append_assoc] at rest

/-- An instruction makes a lookup. -/
inductive Answers (parser : QueryParser) (queries : List Matcher) : Instr → Lookup → Prop where
  | tag (key : String) (slot : Nat) : Answers parser queries (.fetch key slot) (.tag key)
  | query {text : String} {matcher : Matcher} {index : Nat} (slot : Nat)
      (asked : parser text = some matcher) (found : queries[index]? = some matcher) :
      Answers parser queries (.query index slot) (.query text)

/-- The instructions among the visits that looked something up. -/
def lookupsOf (visits : List Visit) : List Instr :=
  (visits.map (·.instr)).filter (·.fills?.isSome)

theorem lookupsOf_append (visits more : List Visit) :
    lookupsOf (visits ++ more) = lookupsOf visits ++ lookupsOf more := by
  rw [lookupsOf, List.map_append, List.filter_append]
  rfl

/-- What the evaluator knows where the compiler knows `scope`. -/
def Scope.memo (scope : Scope) (r : Rendering) : Memo :=
  ⟨scope.values.map fun entry => (entry.1, r.value entry.1),
    scope.queries.map fun entry => (entry.1, r.truth entry.1)⟩

structure Agrees (r : Rendering) (p : Program) (scope : Scope) (visits : List Visit) (st : State)
    (c : Course) : Prop where
  holds : scope.Holds r st
  filled : ∀ entry ∈ scope.values ++ scope.queries, Filled visits entry.2
  memo : c.memo = scope.memo r
  printed : st.printed = c.output
  answers : List.Forall₂ (Answers r.parser p.queries) (lookupsOf visits) c.lookups
  accesses : st.accesses.reverse = c.lookups.map (Lookup.access r.mode)

section Agrees

variable {scope scope' : Scope} {st st' : State} {c c' : Course}

theorem Agrees.length (h : Agrees r p scope visits st c) :
    st.output.length = c.output.length := by
  rw [← h.printed, State.printed, List.length_reverse]

/-- Nothing is looked up at such a visit. -/
theorem Agrees.pass {v : Visit} {output : List Fragment} (h : Agrees r p scope visits st c)
    (still : v.instr.fills? = none) (slots : st'.slots = st.slots)
    (accesses : st'.accesses = st.accesses) (printed : st'.printed = output) :
    Agrees r p scope (visits ++ [v]) st' { c with output := output } where
  holds := by
    constructor
    · rw [slots]
      exact h.holds.values
    · rw [slots]
      exact h.holds.queries
  filled entry he := (h.filled entry he).mono (List.subset_append_left _ _)
  memo := h.memo
  printed := printed
  answers := by
    have none : lookupsOf [v] = [] := by simp [lookupsOf, still]
    rw [lookupsOf_append, none, List.append_nil]
    exact h.answers
  accesses := by
    rw [accesses]
    exact h.accesses

theorem Agrees.jump {v : Visit} (h : Agrees r p scope visits st c)
    (still : v.instr.fills? = none) : Agrees r p scope (visits ++ [v]) st c :=
  h.pass still rfl rfl h.printed

/-- Behind a branch, what it looked up is forgotten. -/
theorem Agrees.leave {q : Progress} (h : Agrees r p scope visits st c)
    (below : scope.Below q.slots) (frame : Frame q st st')
    (h' : Agrees r p scope' (visits ++ more) st' c') :
    Agrees r p scope (visits ++ more) st' { c' with memo := c.memo } where
  holds := h.holds.frame below frame
  filled entry he := (h.filled entry he).mono (List.subset_append_left _ _)
  memo := h.memo
  printed := h'.printed
  answers := h'.answers
  accesses := h'.accesses

/-- A lookup enters the slot that it fills into the scope. -/
theorem Agrees.lookup {index slot : Nat} {instr : Instr} {lookup : Lookup} {cell : Cell}
    {memo : Memo} (h : Agrees r p scope visits st c) (fills : instr.fills? = some slot)
    (entries : ∀ entry ∈ scope'.values ++ scope'.queries,
      entry.2 = slot ∨ entry ∈ scope.values ++ scope.queries)
    (holds : scope'.Holds r (st.store slot cell (lookup.access r.mode)))
    (same : memo = scope'.memo r) (answers : Answers r.parser p.queries instr lookup) :
    Agrees r p scope' (visits ++ [⟨index, instr, st⟩])
      (st.store slot cell (lookup.access r.mode))
      { c with memo := memo, lookups := c.lookups ++ [lookup] } where
  holds := holds
  filled entry he := by
    rcases entries entry he with rfl | known
    · exact ⟨_, List.mem_append_right _ (List.mem_singleton_self _), fills⟩
    · exact (h.filled entry known).mono (List.subset_append_left _ _)
  memo := same
  printed := h.printed
  answers := by
    have one : lookupsOf [⟨index, instr, st⟩] = [instr] := by simp [lookupsOf, fills]
    rw [lookupsOf_append, one]
    exact List.rel_append h.answers (.cons answers .nil)
  accesses := by
    rw [State.store, List.reverse_cons, h.accesses, List.map_append, List.map_singleton]

theorem lookup_map {α β : Type} (f : String → β) (key : String) (entries : List (String × α)) :
    (entries.map fun entry => (entry.1, f entry.1)).lookup key =
      (entries.lookup key).map fun _ => f key := by
  induction entries with
  | nil => rfl
  | cons entry entries ih =>
    obtain ⟨name, value⟩ := entry
    by_cases same : key = name
    · rw [same, List.map_cons, List.lookup_cons_self, List.lookup_cons_self]
      rfl
    · have other : (key == name) = false := beq_false_of_ne same
      rw [List.map_cons, List.lookup_cons, List.lookup_cons, other, ih]

theorem Agrees.lookup_values (h : Agrees r p scope visits st c) (key : String) :
    c.memo.values.lookup key = (scope.values.lookup key).map fun _ => r.value key := by
  rw [h.memo]
  exact lookup_map r.value key scope.values

theorem Agrees.lookup_truths (h : Agrees r p scope visits st c) (predicate : String) :
    c.memo.truths.lookup predicate =
      (scope.queries.lookup predicate).map fun _ => r.truth predicate := by
  rw [h.memo]
  exact lookup_map r.truth predicate scope.queries

theorem Agrees.value_eq (h : Agrees r p scope visits st c) (key : String) :
    (r.recallValue key c).1 = r.value key := by
  rw [Rendering.recallValue, h.lookup_values]
  cases scope.values.lookup key <;> rfl

theorem Agrees.truth_eq (h : Agrees r p scope visits st c) (predicate : String) :
    (r.recallTruth predicate c).1 = r.truth predicate := by
  rw [Rendering.recallTruth, h.lookup_truths]
  cases scope.queries.lookup predicate with
  | some slot => rfl
  | none =>
    rw [Option.map_none, Rendering.truth]
    cases r.parser predicate with
    | some matcher => rfl
    | none => exact congrArg (fun value : Fragment => !value.isEmpty) (h.value_eq predicate)

theorem Agrees.slot_of_tells {predicate : String} {slot : Nat}
    (h : Agrees r p scope visits st c) (tells : Tells r.parser predicate scope slot) :
    Filled visits slot ∧ (st.slots slot).holds = r.truth predicate := by
  rcases tells with known | ⟨tag, known⟩
  · refine ⟨h.filled _ (List.mem_append_right _ known), ?_⟩
    obtain ⟨matcher, query, cell⟩ := h.holds.queries _ known
    dsimp only at query cell
    rw [cell, Rendering.truth, query]
    rfl
  · refine ⟨h.filled _ (List.mem_append_left _ known), ?_⟩
    have cell := h.holds.values _ known
    dsimp only at cell
    rw [cell, holds_fetched, Rendering.truth_of_tag tag]

end Agrees

/-- The program can be run with this rendering's sources. -/
structure Hosts (r : Rendering) (p : Program) : Prop where
  mode : p.mode = r.mode
  inRange : ∀ instr ∈ p.code, p.InRange instr

/-- The machine goes from `start` to `stop` and arrives there when the evaluator has come to `c`.
Every visit on the way is justified, and what was handed out before `q` is left alone. -/
def Walks (r : Rendering) (p : Program) (known : List (List (List Node))) (scope : Scope)
    (q : Progress) (start stop : Nat) (visits : List Visit) (st : State) (c : Course) : Prop :=
  ∃ more st', Passes p r.source start st more stop st' ∧ Sound r p known visits more ∧
    Frame q st st' ∧ Agrees r p scope (visits ++ more) st' c

section Walks

variable {scope scope' : Scope} {q q' : Progress} {start middle stop : Nat} {st st' : State}
variable {c c' : Course}

theorem Walks.stay (h : Agrees r p scope visits st c) :
    Walks r p known scope q start start visits st c := by
  refine ⟨[], st, .stay _ _, trivial, .refl q st, ?_⟩
  rwa [List.append_nil]

theorem Walks.trans (h : Walks r p known scope q start middle visits st c)
    (before : q.Before q')
    (next : ∀ more st', Frame q st st' → Agrees r p scope (visits ++ more) st' c →
      Walks r p known scope' q' middle stop (visits ++ more) st' c') :
    Walks r p known scope' q start stop visits st c' := by
  obtain ⟨first, st₁, passes₁, sound₁, frame₁, agrees₁⟩ := h
  obtain ⟨second, st₂, passes₂, sound₂, frame₂, agrees₂⟩ := next first st₁ frame₁ agrees₁
  refine ⟨first ++ second, st₂, passes₁.append passes₂, sound₁.append sound₂,
    frame₁.trans before frame₂, ?_⟩
  rwa [← List.append_assoc]

theorem Walks.earlier (h : Walks r p known scope q' start stop visits st c) (before : q.Before q') :
    Walks r p known scope q start stop visits st c := by
  obtain ⟨more, st', passes, sound, frame, agrees⟩ := h
  exact ⟨more, st', passes, sound, (Frame.refl q st).trans before frame, agrees⟩

theorem Walks.cons {instr : Instr} {next : Nat} (host : Hosts r p)
    (here : p.code[start]? = some instr)
    (stepped : p.step r.source instr (start + 1) st = (next, st'))
    (justified : Visit.Justified r p known visits ⟨start, instr, st⟩) (frame : Frame q st st')
    (rest : Walks r p known scope q next stop (visits ++ [⟨start, instr, st⟩]) st' c) :
    Walks r p known scope q start stop visits st c := by
  obtain ⟨more, st₁, passes, sound, frame₁, agrees⟩ := rest
  have inRange := host.inRange instr (List.mem_of_getElem? here)
  refine ⟨⟨start, instr, st⟩ :: more, st₁, .go here inRange ?_, ⟨justified, sound⟩,
    frame.trans (.refl q) frame₁, ?_⟩
  · rw [stepped]
    exact passes
  · rwa [List.append_assoc] at agrees

theorem Walks.one {instr : Instr} {next : Nat} (host : Hosts r p)
    (here : p.code[start]? = some instr)
    (stepped : p.step r.source instr (start + 1) st = (next, st'))
    (justified : Visit.Justified r p known visits ⟨start, instr, st⟩) (frame : Frame q st st')
    (agrees : Agrees r p scope (visits ++ [⟨start, instr, st⟩]) st' c) :
    Walks r p known scope q start next visits st c :=
  .cons host here stepped justified frame (.stay agrees)

/-- A branch is entered with what is known, and left with the same. -/
theorem Walks.leave (h : Agrees r p scope visits st c) (below : scope.Below q.slots)
    (walks : Walks r p known scope' q start stop visits st c') :
    Walks r p known scope q start stop visits st { c' with memo := c.memo } := by
  obtain ⟨more, st', passes, sound, frame, agrees⟩ := walks
  exact ⟨more, st', passes, sound, frame, h.leave below frame agrees⟩

theorem Walks.jump {instr : Instr} {next : Nat} (host : Hosts r p)
    (here : p.code[start]? = some instr) (still : instr.fills? = none)
    (stepped : p.step r.source instr (start + 1) st = (next, st))
    (justified : Visit.Justified r p known visits ⟨start, instr, st⟩)
    (h : Agrees r p scope visits st c) :
    Walks r p known scope q start next visits st c :=
  .one host here stepped justified (.refl q st) (h.jump still)

end Walks

end Program

end SongPattern
