import SongPattern.Proofs.Formatter.Build
import SongPattern.Proofs.Pattern.RoundTrip
import SongPattern.Proofs.Program.Lockstep
import SongPattern.Proofs.Render
import SongPattern.Regex.Engine
import SongPattern.Song.TagTable

namespace SongPattern.Formatter

open Program (SameFragment)

theorem extendChoices_single (s t : String) :
    extendChoices [(s, s)] [(t, t)] = [(s ++ t, s ++ t)] := rfl

/-- An empty fragment leaves the choices as they are, and adds no text. -/
theorem extend_of_same {f g : Fragment} (same : SameFragment f g) (s : String) :
    (if g.isEmpty then [(s, s)] else extendChoices [(s, s)] g.pairs) =
      [(s ++ f.flat, s ++ f.flat)] := by
  cases same with
  | literal t =>
    by_cases empty : t = ""
    · subst empty
      rw [Fragment.flat, String.append_empty]
      rfl
    · have full : (Fragment.text t).isEmpty = false := by simpa [Fragment.isEmpty] using empty
      rw [full]
      exact extendChoices_single s t
  | value full => exact extendChoices_single s _
  | absent =>
    rw [Fragment.flat, String.append_empty]
    rfl

theorem choices_of_same {fs gs : List Fragment} (same : List.Forall₂ SameFragment fs gs) :
    choices gs = [(textOf fs, textOf fs)] := by
  have behind (s : String) :
      (gs.filter (!·.isEmpty)).foldl (fun choices g => extendChoices choices g.pairs) [(s, s)] =
        [(s ++ textOf fs, s ++ textOf fs)] := by
    induction same generalizing s with
    | nil =>
      rw [textOf_nil, String.append_empty]
      rfl
    | @cons f g fs gs first rest ih =>
      have step := extend_of_same first s
      rw [List.filter_cons]
      have text : s ++ textOf (f :: fs) = s ++ f.flat ++ textOf fs :=
        String.append_assoc.symm
      rw [text, ← ih]
      cases empty : g.isEmpty with
      | true =>
        rw [empty, if_pos rfl] at step
        rw [step]
        rfl
      | false =>
        rw [empty] at step
        rw [← step]
        rfl
  have whole := behind ""
  rwa [String.empty_append] at whole

theorem asSet_single (pair : String × String) : asSet [pair] = [pair] := by
  rw [asSet, List.mergeSort_singleton]
  rfl

variable {pattern : String} {policy : Policy} {parser : QueryParser} {f : Formatter} {song : Song}

/-- Both programs of a formatter have the same code, which asks for the same queries. -/
theorem same_fragments (hf : build pattern policy parser = .ok f)
    (single : ∀ key, .joined key ∈ (f.scalar.run (policy.source song)).accesses →
      (policy.source song).Single key) :
    List.Forall₂ SameFragment (f.scalar.run (policy.source song)).fragments
      (f.list.run (policy.source song)).fragments := by
  obtain ⟨nodes, _, rfl, _⟩ := build_eq_ok_iff.mp hf
  have all := Program.loop_inStep rfl Program.inStep_start fun key asked =>
    single key (List.mem_reverse.mpr asked)
  exact List.rel_reverse all.output

/-- A song with at most one value for each tag that the pattern asks for renders the same both
ways. -/
theorem formatList_of_single (hf : build pattern policy parser = .ok f)
    (single : ∀ key, .joined key ∈ (f.scalar.run (policy.source song)).accesses →
      (policy.source song).Single key) :
    f.formatList song = (f.format song).map fun r => [(r, r)] := by
  have hp : f.policy = policy := by
    obtain ⟨nodes, _, rfl, _⟩ := build_eq_ok_iff.mp hf
    rfl
  have same := same_fragments hf single
  rw [← hp] at same
  rw [formatList, choices_of_same same, format, rendered, ← textOf]
  simp only [List.mapM_cons, List.mapM_nil]
  cases f.policy.post (textOf (f.scalar.run (f.policy.source song)).fragments) song with
  | error e => rfl
  | ok r => exact congrArg Except.ok (asSet_single (r, r))

def artistBeforeTitle : List Pattern.Node :=
  [.condition "artist" [.tag "artist", .text " - "] none, .tag "title"]

theorem parse_artistBeforeTitle :
    Pattern.parse "<artist|<artist> - ><title>" = .ok artistBeforeTitle :=
  Pattern.parse_of_print (by decide +kernel) (by decide +kernel)

/-- A song without a title. -/
theorem formatList_single_artist :
    let song := (TagTable.ofList [("artist", .text "Foo")]).song
    let source := Policy.plain.source song
    ∃ f, build "<artist|<artist> - ><title>" .plain (Query.parser Regex.engine) = .ok f ∧
      (∀ key, .joined key ∈ (f.scalar.run source).accesses → source.Single key) ∧
      f.formatList song = .ok [("Foo - ", "Foo - ")] := by
  intro song source
  let f := ofNodes "<artist|<artist> - ><title>" .plain (Query.parser Regex.engine)
    artistBeforeTitle
  have tried : f.format .standIn = .ok "_ - _" := by decide +kernel
  have hf : build "<artist|<artist> - ><title>" .plain (Query.parser Regex.engine) = .ok f :=
    build_eq_ok_iff.mpr ⟨_, parse_artistBeforeTitle, rfl, _, tried⟩
  have asked : (f.scalar.run source).accesses = [.joined "artist", .joined "title"] := by
    decide +kernel
  have single : ∀ key, .joined key ∈ (f.scalar.run source).accesses → source.Single key := by
    intro key h
    rw [asked] at h
    obtain rfl | rfl : key = "artist" ∨ key = "title" := by simpa using h
    · exact .inl (by decide +kernel)
    · exact .inr (by decide +kernel)
  have one : f.format song = .ok "Foo - " := by decide +kernel
  refine ⟨f, hf, single, ?_⟩
  rw [formatList_of_single hf single, one]
  rfl

end SongPattern.Formatter
