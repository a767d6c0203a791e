import SongPattern.Proofs.Program.Walk

namespace SongPattern

namespace Pattern

mutual

/-- The alternatives of every disjunction in a node, those inside its parts with them. -/
def Node.disjunctions : Node → List (List (List Node))
  | .text _ | .tag _ => []
  | .condition _ yes none => disjunctionsOf yes
  | .condition _ yes (some no) => disjunctionsOf yes ++ disjunctionsOf no
  | .disjunction alternatives => alternatives :: disjunctionsOfEach alternatives

def disjunctionsOf : List Node → List (List (List Node))
  | [] => []
  | node :: nodes => node.disjunctions ++ disjunctionsOf nodes

def disjunctionsOfEach : List (List Node) → List (List (List Node))
  | [] => []
  | nodes :: more => disjunctionsOf nodes ++ disjunctionsOfEach more

end

end Pattern

namespace Program

open Pattern (Node allIdle disjunctionsOf disjunctionsOfEach)

/-- Wherever `code` stands, the machine goes through it when the evaluator does `effect`. -/
def Follows (r : Rendering) (p : Program) (known : List (List (List Node))) (scope : Scope)
    (q : Progress) (code : List Instr) (scope' : Scope) (effect : Course → Course) : Prop :=
  ∀ start visits st c, p.Placed start code → Agrees r p scope visits st c →
    Walks r p known scope' q start (start + code.length) visits st (effect c)

variable {r : Rendering} {p : Program} {known : List (List (List Node))}
variable {scope scope' scope'' : Scope} {q q' : Progress} {code rest : List Instr}
variable {f g : Course → Course}

theorem Follows.nil : Follows r p known scope q [] scope id := by
  intro start visits st c _ h
  exact .stay h

theorem Follows.append (first : Follows r p known scope q code scope' f) (before : q.Before q')
    (second : Follows r p known scope' q' rest scope'' g) :
    Follows r p known scope q (append code rest) scope'' (g ∘ f) := by
  intro start visits st c placed h
  rw [length_append, ← Nat.add_assoc]
  refine (first start visits st c placed.left h).trans before ?_
  intro more st' _ agrees
  exact second _ _ _ _ placed.right agrees

theorem Follows.earlier (h : Follows r p known scope q' code scope' f) (before : q.Before q') :
    Follows r p known scope q code scope' f := by
  intro start visits st c placed agrees
  exact (h start visits st c placed agrees).earlier before

theorem Follows.leave (h : Follows r p known scope q code scope' f)
    (below : scope.Below q.slots) :
    Follows r p known scope q code scope (fun c => { f c with memo := c.memo }) := by
  intro start visits st c placed agrees
  exact (h start visits st c placed agrees).leave agrees below

theorem access_fetched (mode : Mode) (source : Source) (key : String) :
    (fetched mode source key).2 = (Lookup.tag key).access mode := by
  cases mode <;> rfl

theorem follows_loadValue (host : Hosts r p) (key : String) (ready : Ready r.parser scope q) :
    Follows r p known scope q (loadValue key scope q).block.code
      (loadValue key scope q).block.scope (fun c => (r.recallValue key c).2) := by
  intro start visits st c placed h
  dsimp only
  rw [Rendering.recallValue, h.lookup_values]
  unfold loadValue at placed ⊢
  cases seen : scope.values.lookup key with
  | some slot => exact .stay h
  | none =>
    rw [seen] at placed
    have stepped : p.step r.source (.fetch key q.slots) (start + 1) st = (start + 1,
        st.store q.slots (fetched r.mode r.source key).1 ((Lookup.tag key).access r.mode)) := by
      rw [step, host.mode, ← access_fetched]
    refine .one host placed.head stepped trivial (frame_store st _ _) ?_
    refine h.lookup rfl ?_ (h.holds.addValue ready.below key _) ?_ (.tag key q.slots)
    · intro entry he
      exact (List.mem_cons.mp he).imp_left (congrArg Prod.snd)
    · rw [h.memo]
      rfl

theorem getElem?_of_leading {earlier later : List Matcher} {index : Nat} {matcher : Matcher}
    (h : earlier <+: later) (hi : earlier[index]? = some matcher) :
    later[index]? = some matcher := by
  obtain ⟨rest, rfl⟩ := h
  obtain ⟨bound, _⟩ := List.getElem?_eq_some_iff.mp hi
  rw [List.getElem?_append_left bound, hi]

theorem follows_loadPredicate (host : Hosts r p) (predicate : String)
    (ready : Ready r.parser scope q)
    (room : (loadPredicate r.parser predicate scope q).block.progress.matchers <+: p.queries) :
    Follows r p known scope q (loadPredicate r.parser predicate scope q).block.code
      (loadPredicate r.parser predicate scope q).block.scope
      (fun c => (r.recallTruth predicate c).2) := by
  intro start visits st c placed h
  dsimp only
  rw [Rendering.recallTruth, h.lookup_truths]
  unfold loadPredicate at placed room ⊢
  cases seen : scope.queries.lookup predicate with
  | some slot => exact .stay h
  | none =>
    rw [seen] at placed room
    obtain ⟨before, _, _, finds⟩ := ask_correct ready.recorded predicate
    have ready' := ready_ask ready predicate
    rcases asked : q.ask r.parser predicate with ⟨index?, q'⟩
    rw [asked] at placed room before ready' finds
    cases index? with
    | none =>
      rw [Option.map_none, finds]
      exact (follows_loadValue host predicate ready' start visits st c placed h).earlier before
    | some index =>
      obtain ⟨matcher, query, found⟩ := finds.matcher
      rw [← ready'.recorded.matchers] at found
      have found' : p.queries[index]? = some matcher := getElem?_of_leading room found
      have stepped : p.step r.source (.query index q'.slots) (start + 1) st = (start + 1,
          st.store q'.slots (.flag (matcher r.source.song))
            ((Lookup.query predicate).access r.mode)) := by
        rw [step, found']
        rfl
      have truth : r.truth predicate = matcher r.source.song := by
        rw [Rendering.truth, query]
      rw [Option.map_none, query]
      refine .one host placed.head stepped trivial
        ((Frame.refl q st).trans before (frame_store st _ _)) ?_
      refine h.lookup rfl ?_ (h.holds.addQuery ready'.below query _) ?_ (.query _ query found')
      · intro entry he
        rcases List.mem_append.mp he with he | he
        · exact .inr (List.mem_append_left _ he)
        · exact (List.mem_cons.mp he).imp (congrArg Prod.snd) (List.mem_append_right _)
      · rw [h.memo, ← truth]
        rfl

theorem printed_emit (st : State) (fragment : Fragment) :
    (st.emit [fragment]).printed = st.printed ++ [fragment] := List.reverse_cons

theorem follows_text (host : Hosts r p) (s : String) :
    Follows r p known scope q [.emit s] scope (·.emit (.text s)) := by
  intro start visits st c placed h
  have printed : (st.emit [.text s]).printed = c.output ++ [.text s] := by
    rw [printed_emit, h.printed]
  exact .one host placed.head rfl trivial ⟨fun _ _ => rfl, fun _ _ => rfl⟩
    (h.pass rfl rfl rfl printed)

theorem follows_tag (host : Hosts r p) (name : String) (ready : Ready r.parser scope q) :
    Follows r p known scope q
      (append (loadValue name scope q).block.code [.emitSlot (loadValue name scope q).slot])
      (loadValue name scope q).block.scope
      (fun c => (r.recallValue name c).2.emit (r.recallValue name c).1) := by
  intro start visits st c placed h
  dsimp only
  rw [length_append, ← Nat.add_assoc, h.value_eq]
  refine (follows_loadValue host name ready start visits st c placed.left h).trans (.refl q) ?_
  intro more st' _ agrees
  have entry := mem_loadValue name scope q
  have cell := agrees.holds.values _ entry
  dsimp only at cell
  have value : ∀ b, st'.slots (loadValue name scope q).slot ≠ .flag b := by
    intro b
    rw [cell]
    unfold fetched
    cases r.mode <;> exact nofun
  have printed : (st'.emit (st'.slots (loadValue name scope q).slot).fragments).printed =
      (r.recallValue name c).2.output ++ [r.value name] := by
    rw [cell, fragments_fetched, printed_emit, agrees.printed]
  exact .one host placed.right.head rfl ⟨agrees.filled _ (List.mem_append_left _ entry), value⟩
    ⟨fun _ _ => rfl, fun _ _ => rfl⟩ (agrees.pass rfl rfl rfl printed)

section Branch

variable {predicate : String} {slot target start : Nat} {yes no : List Instr}
variable {visits : List Visit} {st : State} {c : Course}

theorem walks_unless (host : Hosts r p) (tells : Tells r.parser predicate scope slot)
    (here : p.code[start]? = some (.jumpUnless slot target)) (h : Agrees r p scope visits st c) :
    Walks r p known scope q start (if r.truth predicate then start + 1 else target)
      visits st c := by
  obtain ⟨filled, holds⟩ := h.slot_of_tells tells
  refine .jump host here rfl ?_ filled h
  rw [step, holds]

theorem walks_if (host : Hosts r p) (tells : Tells r.parser predicate scope slot)
    (here : p.code[start]? = some (.jumpIf slot target)) (h : Agrees r p scope visits st c) :
    Walks r p known scope q start (if r.truth predicate then target else start + 1)
      visits st c := by
  obtain ⟨filled, holds⟩ := h.slot_of_tells tells
  refine .jump host here rfl ?_ filled h
  rw [step, holds]

/-- A branch without code is gone through where the other one ends. -/
theorem follows_branch_no (host : Hosts r p) (tells : Tells r.parser predicate scope slot)
    (hyes : Follows r p known scope q [] scope f) (hno : Follows r p known scope q no scope g) :
    Follows r p known scope q (append [.jumpIf slot (1 + no.length)] no) scope
      (fun c => if r.truth predicate then f c else g c) := by
  intro start visits st c placed h
  have stop : start + (append [.jumpIf slot (1 + no.length)] no).length =
      start + 1 + no.length := by
    rw [length_append, List.length_singleton, Nat.add_assoc]
  have target : 1 + no.length + start = start + 1 + no.length := by omega
  rw [stop]
  refine (walks_if host tells placed.left.head h).trans (.refl q) ?_
  intro more st' _ agrees
  cases r.truth predicate with
  | true =>
    rw [if_pos rfl, target]
    exact hyes _ _ _ _ (placed_nil p _) agrees
  | false => exact hno _ _ _ _ placed.right agrees

theorem follows_branch_yes (host : Hosts r p) (tells : Tells r.parser predicate scope slot)
    (hyes : Follows r p known scope q yes scope f) (hno : Follows r p known scope q [] scope g) :
    Follows r p known scope q (append [.jumpUnless slot (1 + yes.length)] yes) scope
      (fun c => if r.truth predicate then f c else g c) := by
  intro start visits st c placed h
  have stop : start + (append [.jumpUnless slot (1 + yes.length)] yes).length =
      start + 1 + yes.length := by
    rw [length_append, List.length_singleton, Nat.add_assoc]
  have target : 1 + yes.length + start = start + 1 + yes.length := by omega
  rw [stop]
  refine (walks_unless host tells placed.left.head h).trans (.refl q) ?_
  intro more st' _ agrees
  cases r.truth predicate with
  | true => exact hyes _ _ _ _ placed.right agrees
  | false =>
    rw [if_neg Bool.false_ne_true, target]
    exact hno _ _ _ _ (placed_nil p _) agrees

/-- Behind the first branch a jump leads over the second one. -/
theorem follows_branch_both (host : Hosts r p) (tells : Tells r.parser predicate scope slot)
    (hyes : Follows r p known scope q yes scope f) (hno : Follows r p known scope q no scope g) :
    Follows r p known scope q
      (append (append [.jumpUnless slot (1 + yes.length + 1)] yes)
        (append [.jump (1 + no.length)] no)) scope
      (fun c => if r.truth predicate then f c else g c) := by
  intro start visits st c placed h
  have first : start + (append [.jumpUnless slot (1 + yes.length + 1)] yes).length =
      start + 1 + yes.length := by
    rw [length_append, List.length_singleton, Nat.add_assoc]
  have stop : start + (append (append [.jumpUnless slot (1 + yes.length + 1)] yes)
      (append [.jump (1 + no.length)] no)).length = start + 1 + yes.length + 1 + no.length := by
    rw [length_append, ← Nat.add_assoc, first, length_append, List.length_singleton,
      ← Nat.add_assoc]
  have second := placed.right
  rw [first] at second
  have otherwise : 1 + yes.length + 1 + start = start + 1 + yes.length + 1 := by omega
  have behind : 1 + no.length + (start + 1 + yes.length) =
      start + 1 + yes.length + 1 + no.length := by omega
  have jump : p.code[start + 1 + yes.length]? =
      some (.jump (start + 1 + yes.length + 1 + no.length)) := by
    rw [← behind]
    exact second.left.head
  rw [stop]
  refine (walks_unless host tells placed.left.left.head h).trans (.refl q) ?_
  intro more st' _ agrees
  cases r.truth predicate with
  | true =>
    refine (hyes _ _ _ _ placed.left.right agrees).trans (.refl q) ?_
    intro more' st'' _ agrees'
    exact .jump host jump rfl rfl trivial agrees'
  | false =>
    rw [if_neg Bool.false_ne_true, otherwise]
    exact hno _ _ _ _ second.right agrees

theorem follows_branch (host : Hosts r p) (tells : Tells r.parser predicate scope slot)
    (hyes : Follows r p known scope q yes scope f) (hno : Follows r p known scope q no scope g) :
    Follows r p known scope q (branch slot [] yes no) scope
      (fun c => if r.truth predicate then f c else g c) := by
  by_cases emptyYes : yes = []
  · subst emptyYes
    by_cases emptyNo : no = []
    · subst emptyNo
      intro start visits st c placed h
      cases r.truth predicate with
      | true => exact hyes start visits st c placed h
      | false => exact hno start visits st c placed h
    · rw [branch_no slot [] emptyNo, nil_append]
      exact follows_branch_no host tells hyes hno
  · by_cases emptyNo : no = []
    · subst emptyNo
      rw [branch_yes slot [] emptyYes, nil_append]
      exact follows_branch_yes host tells hyes hno
    · rw [branch_both slot [] emptyYes emptyNo, nil_append]
      exact follows_branch_both host tells hyes hno

end Branch

/-- The scope behind a condition has its predicate, unless it has no code: then there is no lookup
for it, and the scope is the one in front of it. -/
theorem follows_condition {predicate : String} {load : Loaded} {yes no : Block} {idle : Bool}
    (host : Hosts r p) (empty : yes.code = [] ∧ no.code = [] ↔ idle = true)
    (before : q.Before load.block.progress)
    (asked : Follows r p known scope q load.block.code load.block.scope
      (fun c => (r.recallTruth predicate c).2))
    (tells : Tells r.parser predicate load.block.scope load.slot)
    (hyes : Follows r p known load.block.scope load.block.progress yes.code load.block.scope f)
    (hno : Follows r p known load.block.scope load.block.progress no.code load.block.scope g) :
    Follows r p known scope q (conditionBlock scope load yes no).code
      (conditionBlock scope load yes no).scope
      (fun c => if idle then c
        else if (r.recallTruth predicate c).1 then f (r.recallTruth predicate c).2
        else g (r.recallTruth predicate c).2) := by
  cases idle with
  | true =>
    rw [conditionBlock_of_nil (empty.mpr rfl)]
    exact .nil
  | false =>
    rw [conditionBlock_of_not_nil fun bare => Bool.false_ne_true (empty.mp bare)]
    intro start visits st c placed h
    dsimp only
    rw [if_neg Bool.false_ne_true, h.truth_eq]
    exact asked.append before (follows_branch host tells hyes hno) start visits st c placed h

/-- Blocks that are tried one after the other against the output length kept at `mark`, up to the
end of the disjunction that kept it. -/
def Tried (r : Rendering) (p : Program) (known : List (List (List Node))) (scope : Scope)
    (q : Progress) (mark : Nat) (blocks : List (List Instr)) (alternatives : List (List Node)) :
    Prop :=
  ∀ start stop visits st c, p.Stands start (laidOut mark stop start blocks) →
    stop = start + spanOf blocks → Agrees r p scope visits st c →
    Opened r p known visits mark (st.marks mark) stop → st.marks mark ≤ st.output.length →
    Walks r p known scope q start stop visits st
      (r.recallAlternatives (st.marks mark) alternatives c)

variable {mark : Nat} {nodes : List Node} {alternatives : List (List Node)}
variable {block : List Instr} {blocks : List (List Instr)}

theorem tried_nil : Tried r p known scope q mark [] [] := by
  intro start stop visits st c _ reach h _ _
  rw [Rendering.recallAlternatives, reach]
  exact .stay h

/-- One alternative is behind us: it is kept, or the others are tried. -/
theorem Tried.check {start stop : Nat} {visits : List Visit} {st : State} {c : Course}
    (host : Hosts r p) (more : Tried r p known scope q mark blocks alternatives)
    (stands : p.Stands start (.keepOrRetract mark stop :: laidOut mark stop (start + 1) blocks))
    (reach : stop = start + 1 + spanOf blocks)
    (h : Agrees r p scope visits st c)
    (opened : Opened r p known visits mark (st.marks mark) stop)
    (floor : st.marks mark ≤ st.output.length) :
    Walks r p known scope q start stop visits st
      (if st.marks mark < c.output.length then
        if c.output.getLast?.any (!·.isEmpty) then c
        else
          r.recallAlternatives (st.marks mark) alternatives { c with output := c.output.dropLast }
      else r.recallAlternatives (st.marks mark) alternatives c) := by
  have justified : Visit.Justified r p known visits
      ⟨start, .keepOrRetract mark stop, st⟩ := ⟨opened, floor⟩
  have opened' := opened.mono
    (List.subset_append_left visits [⟨start, .keepOrRetract mark stop, st⟩])
  rw [← h.length]
  by_cases grown : st.marks mark < st.output.length
  · rw [if_pos grown]
    cases output : st.output with
    | nil =>
      rw [output] at grown
      exact absurd grown (Nat.not_lt_zero _)
    | cons last older =>
      have shown : c.output = older.reverse ++ [last] := by
        rw [← h.printed, State.printed, output, List.reverse_cons]
      rw [shown, List.getLast?_concat, List.dropLast_concat, Option.any_some]
      cases empty : last.isEmpty with
      | true =>
        have stepped : p.step r.source (.keepOrRetract mark stop) (start + 1) st =
            (start + 1, { st with output := older }) := by
          rw [step, if_pos grown, output]
          exact if_pos empty
        refine .cons host stands.head stepped justified ⟨fun _ _ => rfl, fun _ _ => rfl⟩ ?_
        refine more _ _ _ _ _ stands.tail reach (h.pass rfl rfl rfl rfl) opened' ?_
        -- it was longer than at the mark, so without one fragment it is still not shorter
        rw [output] at grown
        exact Nat.le_of_lt_succ grown
      | false =>
        have stepped : p.step r.source (.keepOrRetract mark stop) (start + 1) st = (stop, st) := by
          rw [step, if_pos grown, output]
          exact if_neg (ne_true_of_eq_false empty)
        exact .jump host stands.head rfl stepped justified h
  · have stepped : p.step r.source (.keepOrRetract mark stop) (start + 1) st =
        (start + 1, st) := by
      rw [step, if_neg grown]
    rw [if_neg grown]
    refine .cons host stands.head stepped justified (.refl q st) ?_
    exact more _ _ _ _ _ stands.tail reach (h.jump rfl) opened' floor

theorem Tried.cons (host : Hosts r p) (hm : mark < q.marks) (below : scope.Below q.slots)
    (before : q.Before q') (first : Follows r p known scope q block scope' (r.recallNodes nodes))
    (more : Tried r p known scope q' mark blocks alternatives) :
    Tried r p known scope q mark (block :: blocks) (nodes :: alternatives) := by
  intro start stop visits st c stands reach h opened floor
  rw [laidOut] at stands
  rw [spanOf] at reach
  rw [Rendering.recallAlternatives]
  refine (first.leave below start visits st c stands.left h).trans before ?_
  intro tried st₁ frame agrees
  -- the disjunctions inside the alternative have marks of their own
  have kept : st₁.marks mark = st.marks mark := frame.marks mark hm
  have grown : st₁.marks mark ≤ st₁.output.length := by
    rw [kept, agrees.length]
    rw [h.length] at floor
    exact Nat.le_trans floor (Rendering.length_le_recall.2.1 nodes c)
  have behind := stands.right
  rw [length_moved] at behind
  rw [← kept] at opened ⊢
  exact more.check host behind (by omega) agrees
    (opened.mono (List.subset_append_left visits tried)) grown

theorem follows_disjunction (host : Hosts r p) (member : alternatives ∈ known)
    (compiled : (compileNode r.literal r.parser (.disjunction alternatives) scope q).code =
      .mark q.marks :: laidOut q.marks (1 + spanOf blocks) 1 blocks)
    (tried : Tried r p known scope { q with marks := q.marks + 1 } q.marks blocks alternatives) :
    Follows r p known scope q
      (compileNode r.literal r.parser (.disjunction alternatives) scope q).code scope
      (fun c => r.recallAlternatives c.output.length alternatives c) := by
  intro start visits st c placed h
  have kept : (st.setMark q.marks).marks q.marks = st.output.length := if_pos rfl
  have frame : Frame q st (st.setMark q.marks) :=
    ⟨fun _ _ => rfl, fun m hm => if_neg (Nat.ne_of_lt hm)⟩
  have opened : Opened r p known (visits ++ [⟨start, .mark q.marks, st⟩]) q.marks
      st.output.length
      (start + (compileNode r.literal r.parser (.disjunction alternatives) scope q).code.length) :=
    ⟨_, List.mem_append_right _ (List.mem_singleton_self _), rfl, rfl, alternatives, member, scope,
      q, rfl, placed, rfl⟩
  have entered : Agrees r p scope (visits ++ [⟨start, .mark q.marks, st⟩]) (st.setMark q.marks) c :=
    h.pass rfl rfl rfl h.printed
  have stop : start +
      (compileNode r.literal r.parser (.disjunction alternatives) scope q).code.length =
        1 + spanOf blocks + start := by
    rw [compiled, List.length_cons, length_laidOut]
    omega
  rw [stop] at opened ⊢
  rw [compiled] at placed
  have behind := Stands.tail placed
  rw [← moved, moved_laidOut, Nat.add_comm 1 start] at behind
  dsimp only
  rw [← h.length, ← kept]
  refine .cons host placed.head rfl trivial frame ?_
  refine (tried _ _ _ _ _ behind (by omega) entered ?_ (Nat.le_of_eq kept)).earlier q.before_mark
  rw [kept]
  exact opened

/-- One case for each kind of node. -/
theorem follows_compile (host : Hosts r p) :
    (∀ node scope q, Ready r.parser scope q → node.disjunctions ⊆ known →
      (compileNode r.literal r.parser node scope q).progress.matchers <+: p.queries →
      Follows r p known scope q (compileNode r.literal r.parser node scope q).code
        (compileNode r.literal r.parser node scope q).scope (r.recallNode node)) ∧
    (∀ nodes scope q, Ready r.parser scope q → disjunctionsOf nodes ⊆ known →
      (compileNodes r.literal r.parser nodes scope q []).progress.matchers <+: p.queries →
      Follows r p known scope q (compileNodes r.literal r.parser nodes scope q []).code
        (compileNodes r.literal r.parser nodes scope q []).scope (r.recallNodes nodes)) ∧
    ∀ alternatives mark scope q, Ready r.parser scope q → mark < q.marks →
      disjunctionsOfEach alternatives ⊆ known →
      (progressBehind r.literal r.parser alternatives scope q).matchers <+: p.queries →
      Tried r p known scope q mark (blocksOf r.literal r.parser alternatives scope q)
        alternatives := by
  apply Node.induction
  case text =>
    intro s scope q _ _ _
    exact follows_text host (r.literal s)
  case tag =>
    intro name scope q ready _ _
    exact (follows_tag host name (ready.addTags _)).earlier (q.before_addTags _)
  case when =>
    intro predicate yes ih scope q ready sub room
    rw [compileNode, progress_conditionBlock] at room
    have load := leaves_loadPredicate predicate ready
    have hyes := (@leaves_compile r.literal r.parser).2.1 yes _ _ load.ready
    have asked := @follows_loadPredicate r p known scope q host predicate ready
      (hyes.before.matchers.trans room)
    have taken := (ih _ _ load.ready sub room).leave load.ready.below
    rw [compileNode, Rendering.recallNode_when]
    refine follows_condition (g := id) host ?_ load.before asked
      (tells_loadPredicate predicate ready) taken .nil
    rw [code_eq_nil_iff.2.1]
    exact and_iff_left rfl
  case either =>
    intro predicate yes no ihyes ihno scope q ready sub room
    rw [compileNode, progress_conditionBlock] at room
    have load := leaves_loadPredicate predicate ready
    have hyes := (@leaves_compile r.literal r.parser).2.1 yes _ _ load.ready
    have readyNo := load.ready.later hyes.before hyes.ready
    have hno := (@leaves_compile r.literal r.parser).2.1 no _ _ readyNo
    have roomYes := hno.before.matchers.trans room
    have asked := @follows_loadPredicate r p known scope q host predicate ready
      (hyes.before.matchers.trans roomYes)
    have parts := List.append_subset.mp sub
    have takenYes := (ihyes _ _ load.ready parts.1 roomYes).leave load.ready.below
    have takenNo := ((ihno _ _ readyNo parts.2 room).leave readyNo.below).earlier hyes.before
    rw [compileNode, Rendering.recallNode_either]
    refine follows_condition host ?_ load.before asked (tells_loadPredicate predicate ready)
      takenYes takenNo
    rw [code_eq_nil_iff.2.1, code_eq_nil_iff.2.1, Bool.and_eq_true]
  case disjunction =>
    intro alternatives ih scope q ready sub room
    rw [compileNode_disjunction] at room
    have parts := List.cons_subset.mp sub
    have tried := ih q.marks scope _ ready.mark (Nat.lt_succ_self _) parts.2 room
    have compiled := congrArg Block.code
      (@compileNode_disjunction r.literal r.parser alternatives scope q)
    have behind := congrArg Block.scope
      (@compileNode_disjunction r.literal r.parser alternatives scope q)
    rw [Rendering.recallNode_disjunction, behind]
    exact follows_disjunction host parts.1 compiled tried
  case nil =>
    intro scope q _ _ _
    exact .nil
  case cons =>
    intro node nodes ihnode ihnodes scope q ready sub room
    rw [compileNodes_cons] at room ⊢
    have first := (@leaves_compile r.literal r.parser).1 node scope q ready
    have rest := (@leaves_compile r.literal r.parser).2.1 nodes _ _ first.ready
    have parts := List.append_subset.mp sub
    exact (ihnode scope q ready parts.1 (rest.before.matchers.trans room)).append first.before
      (ihnodes _ _ first.ready parts.2 room)
  case none =>
    intro mark scope q _ _ _ _
    exact tried_nil
  case more =>
    intro nodes alternatives ihnodes ihmore mark scope q ready hm sub room
    have first := (@leaves_compile r.literal r.parser).2.1 nodes scope q ready
    have readyRest := ready.later first.before first.ready
    have later := Nat.lt_of_lt_of_le hm first.before.marks
    have rest := (@leaves_compile r.literal r.parser).2.2 alternatives scope _ readyRest
    have parts := List.append_subset.mp sub
    exact .cons host hm ready.below first.before
      (ihnodes scope q ready parts.1 (rest.before.matchers.trans room))
      (ihmore mark scope _ readyRest later parts.2 room)

end Program

end SongPattern
