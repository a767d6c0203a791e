import SongPattern.Proofs.Pattern.Mention
import SongPattern.Proofs.Pattern.RoundTrip
import SongPattern.Proofs.Program.Code
import SongPattern.Proofs.Program.Evaluator

namespace SongPattern.Program

open Pattern (Node Mention mentionsOf mentionsOfEach tagParts tagsOf)

/-- Two renderings make the same of what a pattern names. -/
def Rendering.AgreeOn (r r' : Rendering) : Mention → Prop
  | .literal s => r.literal s = r'.literal s
  | .tag name => r.value name = r'.value name
  | .predicate text => r.truth text = r'.truth text

theorem render_congr {r r' : Rendering} :
    (∀ node, (∀ m ∈ node.mentions, r.AgreeOn r' m) → ∀ out, r.node node out = r'.node node out) ∧
    (∀ nodes, (∀ m ∈ mentionsOf nodes, r.AgreeOn r' m) →
      ∀ out, r.nodes nodes out = r'.nodes nodes out) ∧
    ∀ alternatives, (∀ m ∈ mentionsOfEach alternatives, r.AgreeOn r' m) →
      ∀ start out,
        r.alternatives start alternatives out = r'.alternatives start alternatives out := by
  apply Node.induction
  case text =>
    intro s h out
    rw [Node.mentions, List.forall_mem_singleton] at h
    have same : r.literal s = r'.literal s := h
    rw [Rendering.node, Rendering.node, same]
  case tag =>
    intro name h out
    rw [Node.mentions, List.forall_mem_singleton] at h
    have same : r.value name = r'.value name := h
    rw [Rendering.node, Rendering.node, same]
  case when =>
    intro predicate yes ih h out
    rw [Node.mentions, List.forall_mem_cons] at h
    have same : r.truth predicate = r'.truth predicate := h.1
    rw [Rendering.node, Rendering.node, same, ih h.2]
  case either =>
    intro predicate yes no ihyes ihno h out
    rw [Node.mentions, List.forall_mem_cons, List.forall_mem_append] at h
    have same : r.truth predicate = r'.truth predicate := h.1
    rw [Rendering.node, Rendering.node, same, ihyes h.2.1, ihno h.2.2]
  case disjunction =>
    intro alternatives ih h out
    rw [Node.mentions] at h
    rw [Rendering.node, Rendering.node, ih h]
  case nil =>
    intro _ out
    rw [Rendering.nodes, Rendering.nodes]
  case cons =>
    intro node nodes ihnode ihnodes h out
    rw [mentionsOf, List.forall_mem_append] at h
    rw [Rendering.nodes, Rendering.nodes, ihnode h.1, ihnodes h.2]
  case none =>
    intro _ start out
    rw [Rendering.alternatives, Rendering.alternatives]
  case more =>
    intro nodes alternatives ihnodes ihmore h start out
    rw [mentionsOfEach, List.forall_mem_append] at h
    rw [Rendering.alternatives, Rendering.alternatives]
    simp only [ihnodes h.1, ihmore h.2]

/-- Tags behind those that were seen, each at its first place. -/
def addNew (seen tags : List String) : List String :=
  tags.foldl (fun seen tag => if tag ∈ seen then seen else seen ++ [tag]) seen

theorem addNew_append (seen tags more : List String) :
    addNew seen (tags ++ more) = addNew (addNew seen tags) more := List.foldl_append

theorem mem_addNew_iff {tag : String} {seen tags : List String} :
    tag ∈ addNew seen tags ↔ tag ∈ seen ∨ tag ∈ tags := by
  induction tags generalizing seen with
  | nil => exact (or_iff_left List.not_mem_nil).symm
  | cons first tags ih =>
    have step : addNew seen (first :: tags) =
        addNew (if first ∈ seen then seen else seen ++ [first]) tags := rfl
    rw [step, ih, List.mem_cons]
    split
    next known =>
      constructor
      · exact Or.imp_right .inr
      · rintro (h | rfl | h)
        · exact .inl h
        · exact .inl known
        · exact .inr h
    · rw [List.mem_append, List.mem_singleton, or_assoc]

theorem nodup_addNew {seen : List String} (tags : List String) (h : seen.Nodup) :
    (addNew seen tags).Nodup := by
  induction tags generalizing seen with
  | nil => exact h
  | cons tag tags ih =>
    have step : addNew seen (tag :: tags) =
        addNew (if tag ∈ seen then seen else seen ++ [tag]) tags := rfl
    rw [step]
    split
    next known => exact ih h
    next new =>
      have grown : (tag :: seen).Nodup := List.nodup_cons.mpr ⟨new, h⟩
      exact ih ((List.perm_append_singleton tag seen).nodup_iff.mpr grown)

theorem addNew_of_mem {seen : List String} {text : String} (h : text ∈ seen) :
    addNew seen [text] = seen := if_pos h

/-- Texts behind others, each once, are those that are new, with their repeats removed. -/
theorem addNew_eq (seen texts : List String) :
    addNew seen texts = seen ++ (texts.filter (· ∉ seen)).eraseDups := by
  induction texts generalizing seen with
  | nil => exact (List.append_nil seen).symm
  | cons text texts ih =>
    have step : addNew seen (text :: texts) =
        addNew (if text ∈ seen then seen else seen ++ [text]) texts := rfl
    rw [step, ih]
    by_cases known : text ∈ seen
    · rw [if_pos known, List.filter_cons_of_neg (by simpa using known)]
    · have rest : texts.filter (· ∉ seen ++ [text]) =
          (texts.filter (· ∉ seen)).filter fun other => !other == text := by
        rw [List.filter_filter]
        refine List.filter_congr fun other _ => ?_
        rw [Bool.eq_iff_iff]
        simp
        tauto
      rw [if_neg known, List.filter_cons_of_pos (by simpa using known), List.eraseDups_cons, rest]
      simp

theorem addNew_nil (texts : List String) : addNew [] texts = texts.eraseDups := by
  rw [addNew_eq, List.nil_append, List.filter_eq_self.mpr fun text _ => by simp]

/-- The tags that are looked up where a tag is to be shown. -/
def atoms : Mention → List String
  | .tag name => tagParts name
  | .literal _ | .predicate _ => []

/-- Only the tags that are shown have parts here. -/
theorem flatMap_atoms (mentions : List Mention) :
    mentions.flatMap atoms = (mentions.filterMap Mention.tag?).flatMap tagParts := by
  induction mentions with
  | nil => rfl
  | cons m mentions ih =>
    rw [List.flatMap_cons, ih]
    cases m with
    | tag name => rfl
    | literal s => rfl
    | predicate text => rfl

section Compile

variable {literal : String → String} {parser : QueryParser}

theorem tags_loadValue (key : String) (scope : Scope) (p : Progress) :
    (loadValue key scope p).block.progress.tags = p.tags := by
  rw [loadValue]
  split <;> rfl

theorem tags_ask (p : Progress) (text : String) : (p.ask parser text).2.tags = p.tags := by
  rw [Progress.ask]
  split
  · rfl
  · split
    · rfl
    · rw [Progress.askNew]
      split <;> rfl

theorem tags_loadPredicate (predicate : String) (scope : Scope) (p : Progress) :
    (loadPredicate parser predicate scope p).block.progress.tags = p.tags := by
  have asked : (p.ask parser predicate).2.tags = p.tags := tags_ask p predicate
  rw [loadPredicate]
  split
  · rfl
  · split
    next q hq =>
      rw [hq] at asked
      exact (tags_loadValue predicate scope q).trans asked
    next index q hq =>
      rw [hq] at asked
      exact asked

theorem tags_compile :
    (∀ node scope p, (compileNode literal parser node scope p).progress.tags =
      addNew p.tags (node.mentions.flatMap atoms)) ∧
    (∀ nodes scope p, (compileNodes literal parser nodes scope p []).progress.tags =
      addNew p.tags ((mentionsOf nodes).flatMap atoms)) ∧
    ∀ alternatives scope p, (progressBehind literal parser alternatives scope p).tags =
      addNew p.tags ((mentionsOfEach alternatives).flatMap atoms) := by
  apply Node.induction
  case text =>
    intro s scope p
    rw [compileNode, Node.mentions]
    rfl
  case tag =>
    intro name scope p
    rw [compileNode, Node.mentions, List.flatMap_singleton]
    exact tags_loadValue name scope (p.addTags (tagParts name))
  case when =>
    intro predicate yes ih scope p
    rw [compileNode, progress_conditionBlock, Node.mentions, List.flatMap_cons]
    exact (ih _ _).trans (congrArg (addNew · _) (tags_loadPredicate predicate scope p))
  case either =>
    intro predicate yes no ihyes ihno scope p
    rw [compileNode, progress_conditionBlock, ihno, ihyes, tags_loadPredicate, Node.mentions,
      List.flatMap_cons, List.flatMap_append, ← addNew_append]
    rfl
  case disjunction =>
    intro alternatives ih scope p
    rw [compileNode_disjunction, Node.mentions]
    exact ih _ _
  case nil =>
    intro scope p
    rfl
  case cons =>
    intro node nodes ihnode ihnodes scope p
    rw [compileNodes_cons, mentionsOf, List.flatMap_append, addNew_append, ← ihnode scope p]
    exact ihnodes _ _
  case none =>
    intro scope p
    rfl
  case more =>
    intro nodes alternatives ihnodes ihmore scope p
    rw [progressBehind, mentionsOfEach, List.flatMap_append, addNew_append, ← ihnodes scope p]
    exact ihmore _ _

theorem tags_eq (mode : Mode) (literal : String → String) (parser : QueryParser)
    (nodes : List Node) :
    (compile mode literal parser nodes).tags = addNew [] ((tagsOf nodes).flatMap tagParts) := by
  rw [tagsOf, ← flatMap_atoms]
  exact tags_compile.2.1 nodes .empty .start

/-- The tags of a pattern are the parts of those that it shows. -/
theorem mem_tags_iff {mode : Mode} {nodes : List Node} {part : String} :
    part ∈ (compile mode literal parser nodes).tags ↔
      ∃ name, .tag name ∈ mentionsOf nodes ∧ part ∈ tagParts name := by
  rw [tags_eq, mem_addNew_iff, or_iff_right List.not_mem_nil, List.mem_flatMap]
  simp only [Pattern.mem_tagsOf_iff]

end Compile

/-- The tags of a compiled pattern are the parts of all the tags that it shows, in their order and
once each, whatever the code leaves out. In a pattern that was read they are not tied. -/
theorem compile_tags (mode : Mode) (literal : String → String) (parser : QueryParser)
    (nodes : List Node) :
    let tags := (compile mode literal parser nodes).tags
    tags.Nodup ∧ tags = ((tagsOf nodes).flatMap tagParts).eraseDups ∧
      (∀ tag ∈ tags, ∃ name ∈ tagsOf nodes, tag ∈ tagParts name) ∧
      ∀ source, Pattern.parse source = .ok nodes →
        ∀ tag ∈ tags, tag ≠ "" ∧ '~' ∉ tag.toList.drop 1 := by
  intro tags
  have whole : tags = addNew [] ((tagsOf nodes).flatMap tagParts) :=
    tags_eq mode literal parser nodes
  have shown : ∀ tag ∈ tags, ∃ name ∈ tagsOf nodes, tag ∈ tagParts name := by
    intro tag ht
    obtain ⟨name, hn, hp⟩ := mem_tags_iff.mp ht
    exact ⟨name, Pattern.mem_tagsOf_iff.mpr hn, hp⟩
  refine ⟨?_, ?_, shown, ?_⟩
  · rw [whole]
    exact nodup_addNew _ .nil
  · rw [whole, addNew_nil]
  · intro source parsed tag ht
    obtain ⟨name, hn, hp⟩ := shown tag ht
    have named : Pattern.IsName name :=
      Pattern.named_of_shaped.2.1 nodes (Pattern.canonical_of_parse parsed).1 _
        (Pattern.mem_tagsOf_iff.mp hn)
    exact ⟨Pattern.tagParts_ne_empty named.1 hp, Pattern.tagParts_tilde hp⟩

/-- Tied tags in both branches, and one that is only tested. -/
theorem compile_tags_tied :
    let nodes : List Node := [.condition "album" [.tag "~artist~~people"] (some [.tag "artist"]),
      .tag "~~#track~title"]
    let tags := (compile .joined id (fun _ => none) nodes).tags
    Pattern.parse "<album|<~artist~~people>|<artist>><~~#track~title>" = .ok nodes ∧
      tags = ["artist", "~people", "~#track", "title"] ∧ tags.Nodup ∧
      ∀ tag ∈ tags, tag ≠ "" ∧ '~' ∉ tag.toList.drop 1 := by
  intro nodes tags
  have parsed : Pattern.parse "<album|<~artist~~people>|<artist>><~~#track~title>" = .ok nodes :=
    Pattern.parse_of_print (by decide +kernel) (by decide +kernel)
  have listed := compile_tags .joined id (fun _ => none) nodes
  exact ⟨parsed, listed.2.1.trans (by decide +kernel), listed.1, listed.2.2.2 _ parsed⟩

end SongPattern.Program
