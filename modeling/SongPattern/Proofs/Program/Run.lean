import SongPattern.Proofs.Program.Follow

namespace SongPattern.Program

open Pattern (Node disjunctionsOf)

variable (mode : Mode) (literal : String → String) (parser : QueryParser)

/-- The run of a whole program, from its first instruction to its end, beside the evaluation of the
pattern. -/
theorem walks_program (source : Source) (nodes : List Node) :
    ∃ visits st scope,
      Passes (compile mode literal parser nodes).program source 0 .start visits
        (compile mode literal parser nodes).program.code.length st ∧
      Sound ⟨mode, literal, parser, source⟩ (compile mode literal parser nodes).program
        (disjunctionsOf nodes) [] visits ∧
      Agrees ⟨mode, literal, parser, source⟩ (compile mode literal parser nodes).program scope
        visits st (Rendering.recallNodes ⟨mode, literal, parser, source⟩ nodes .start) := by
  have host : Hosts ⟨mode, literal, parser, source⟩ (compile mode literal parser nodes).program :=
    ⟨rfl, (sealed_program mode literal parser nodes).inRange⟩
  have agrees : Agrees ⟨mode, literal, parser, source⟩ (compile mode literal parser nodes).program
      .empty [] .start .start := ⟨⟨nofun, nofun⟩, nofun, rfl, rfl, .nil, rfl⟩
  obtain ⟨visits, st, passes, sound, _, arrived⟩ :=
    (follows_compile host).2.1 nodes .empty .start (ready_start parser) (List.Subset.refl _)
      (List.prefix_refl _) 0 [] .start .start (placed_whole _) agrees
  rw [Nat.zero_add] at passes
  exact ⟨visits, st, _, passes, sound, arrived⟩

theorem forward_program (nodes : List Node) : (compile mode literal parser nodes).program.Forward :=
  (sealed_program mode literal parser nodes).forward

/-- The run of a program puts out, and asks for, what the evaluation of the pattern does. -/
theorem run_eq_recall (source : Source) (nodes : List Node) :
    (compile mode literal parser nodes).program.run source =
      ⟨(Rendering.recallNodes ⟨mode, literal, parser, source⟩ nodes .start).output,
        (Rendering.recallNodes ⟨mode, literal, parser, source⟩ nodes .start).lookups.map
          (Lookup.access mode)⟩ := by
  obtain ⟨visits, st, scope, passes, _, agrees⟩ := walks_program mode literal parser source nodes
  rw [passes.run_eq (forward_program mode literal parser nodes), ← agrees.accesses,
    ← agrees.printed]
  rfl

/-- A run asks its source for just what the evaluation looks up, in the same order, and puts out the
same. Lookup by lookup, the instruction that makes it is a fetch of that tag, or a query that the
parser made from that text. -/
theorem run_compile_recall (source : Source) (nodes : List Node) :
    let p := (compile mode literal parser nodes).program
    let c := Rendering.recallNodes ⟨mode, literal, parser, source⟩ nodes .start
    p.run source = ⟨c.output, c.lookups.map (Lookup.access mode)⟩ ∧
      ∃ visits st, Passes p source 0 .start visits p.code.length st ∧
        List.Forall₂ (Answers parser p.queries) (lookupsOf visits) c.lookups := by
  obtain ⟨visits, st, scope, passes, _, agrees⟩ := walks_program mode literal parser source nodes
  exact ⟨run_eq_recall mode literal parser source nodes, visits, st, passes, agrees.answers⟩

/-- What a branch has looked up is looked up again behind it; what stands in front of it is not. -/
example : (Rendering.recallNodes ⟨.joined, id, fun _ => none, ⟨fun _ => "x", fun _ => [], .standIn⟩⟩
    [.condition "a" [.tag "b", .tag "a"] none, .tag "b", .tag "a"] .start).lookups =
      [.tag "a", .tag "b", .tag "b"] := by
  decide

/-- Jumps go forward and stay inside, and all that instructions name is there. So the loop goes
through the code once, to its end, where further turns change nothing, and reads only what it has
written. -/
theorem compile_wellFormed (nodes : List Node) :
    let p := (compile mode literal parser nodes).program
    (∀ i instr, p.code[i]? = some instr → p.InRange instr ∧
      ∀ target, instr.target? = some target → i < target ∧ target ≤ p.code.length) ∧
    ∀ source, ∃ visits st, Passes p source 0 .start visits p.code.length st ∧
      (∀ turns, p.code.length ≤ turns → p.loop source turns 0 .start = st) ∧
      p.run source = ⟨st.output.reverse, st.accesses.reverse⟩ ∧
      (visits.map (·.index)).Pairwise (· < ·) ∧
      ∀ earlier v later, visits = earlier ++ v :: later →
        v.Justified ⟨mode, literal, parser, source⟩ p (disjunctionsOf nodes) earlier := by
  intro p
  have whole := sealed_program mode literal parser nodes
  refine ⟨fun i instr here => ⟨?_, whole.forward i instr here⟩, fun source => ?_⟩
  · exact whole.inRange instr (List.mem_of_getElem? here)
  · obtain ⟨visits, st, _, passes, sound, _⟩ := walks_program mode literal parser source nodes
    refine ⟨visits, st, passes, fun turns enough => passes.loop_stops whole.forward enough,
      passes.run_eq whole.forward, (passes.ascending whole.forward).2.2, ?_⟩
    intro earlier v later split
    rw [split] at sound
    exact sound.justified

/-- What the program of a pattern puts out. -/
def Rendering.fragments (r : Rendering) (nodes : List Node) : List Fragment :=
  ((compile r.mode r.literal r.parser nodes).program.run r.source).fragments

theorem fragments_eq_nodes (r : Rendering) (nodes : List Node) :
    r.fragments nodes = r.nodes nodes [] := by
  rw [Rendering.fragments, run_eq_recall]
  exact (Rendering.recall_correct.2.1 nodes .start Rendering.remembers_empty).1

/-- Slots that are shared, and conditions that are left out, cannot be seen in the output. -/
theorem fragments_run_compile (source : Source) (nodes : List Node) :
    ((compile mode literal parser nodes).program.run source).fragments =
      Rendering.nodes ⟨mode, literal, parser, source⟩ nodes [] :=
  fragments_eq_nodes ⟨mode, literal, parser, source⟩ nodes

end SongPattern.Program
