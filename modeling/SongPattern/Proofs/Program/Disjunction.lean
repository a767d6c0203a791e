import SongPattern.Proofs.Pattern.RoundTrip
import SongPattern.Proofs.Program.Output
import SongPattern.Proofs.Program.Run
import SongPattern.Proofs.Program.Settle
import SongPattern.Proofs.Render
import SongPattern.Regex.Engine
import SongPattern.Song.TagTable

namespace SongPattern.Program

open Pattern (Node)

variable {r : Rendering}

/-- The alternatives see of the output just what they have put behind it. -/
theorem alternatives_eq_settle (alternatives : List (List Node)) (out kept : List Fragment) :
    r.alternatives out.length alternatives (out ++ kept) =
      out ++ settle Fragment.isEmpty kept (alternatives.map (r.nodes · [])) := by
  induction alternatives generalizing kept with
  | nil => rw [Rendering.alternatives]; rfl
  | cons nodes alternatives ih =>
    rw [Rendering.alternatives, nodes_behind nodes, List.map_cons, settle, List.append_assoc]
    generalize hg : kept ++ r.nodes nodes [] = grown
    by_cases hn : grown = []
    · rw [hn, List.append_nil, if_neg (Nat.lt_irrefl _), List.getLast?_nil, Option.all_none,
        if_pos rfl]
      have h := ih []
      rw [List.append_nil] at h
      exact h
    · have pos := List.length_pos_iff.mpr hn
      have longer : out.length < (out ++ grown).length := by
        rw [List.length_append]
        omega
      rw [if_pos longer, List.getLast?_append, List.getLast?_eq_some_getLast hn, Option.some_or,
        Option.any_some, Option.all_some, List.dropLast_append_of_ne_nil hn, ih]
      cases (grown.getLast hn).isEmpty <;> rfl

def silent (fragments : List Fragment) : Bool := textOf fragments = ""

/-- The fragments of each alternative, with its number. -/
def numbered (start : Nat) : List (List Fragment) → List (List (Fragment × Nat))
  | [] => []
  | group :: groups => group.map (·, start) :: numbered (start + 1) groups

/-- What a disjunction keeps of what its alternatives render. -/
def keptOf (rendered : List (List Fragment)) : List (Fragment × Nat) :=
  settle (·.1.isEmpty) [] (numbered 0 rendered)

/-- The law of a disjunction: it shows the text of its first alternative that has any, and leaves
no fragment of another one behind. -/
structure FirstOnly (rendered : List (List Fragment)) : Prop where
  text : textOf ((keptOf rendered).map (·.1)) = textOf ((rendered.find? (!silent ·)).getD [])
  chosen : ∀ piece ∈ keptOf rendered, rendered.findIdx? (!silent ·) = some piece.2

/-- Where the law holds. What is in front of the first alternative with a text may be taken back
whole by the one fragment for each alternative. Behind it, the empty fragments that it ends with
run out before another alternative shows a text, or there is none such and what the others leave
is taken back. -/
def Settles (rendered : List (List Fragment)) : Prop :=
  Cleared (rendered.takeWhile silent) ∧
    match rendered.dropWhile silent with
    | [] => True
    | first :: later =>
      RunsDry (first.rtakeWhile Fragment.isEmpty).length (later.takeWhile silent) ∨
        (∀ group ∈ later, silent group = true) ∧ Cleared later

theorem isEmpty_of_silent {fs : List Fragment} (texts : Texts fs)
    (h : silent fs = true) : ∀ f ∈ fs, f.isEmpty = true := by
  induction fs with
  | nil => exact nofun
  | cons f fs ih =>
    rw [Texts, List.forall_mem_cons] at texts
    rw [List.forall_mem_cons]
    rw [silent, decide_eq_true_iff, ← List.singleton_append, textOf_append,
      String.append_eq_empty_iff] at h
    obtain ⟨⟨s, rfl⟩, texts⟩ := texts
    refine ⟨?_, ih texts (decide_eq_true h.2)⟩
    have hs : s ++ "" = "" := h.1
    rw [String.append_empty] at hs
    exact String.isEmpty_iff.mpr hs

theorem textOf_dropLast {fs : List Fragment} (h : fs.getLast?.all Fragment.isEmpty = true) :
    textOf fs.dropLast = textOf fs := by
  cases fs using List.reverseRecOn with
  | nil => rfl
  | append_singleton fs f =>
    rw [List.getLast?_concat] at h
    have last : ∀ g ∈ [f], g.isEmpty = true := by simpa using h
    rw [List.dropLast_concat, textOf_append, textOf_empty last, String.append_empty]

theorem textOf_settle (kept : List Fragment) (groups : List (List Fragment)) :
    ∃ t, textOf (settle Fragment.isEmpty kept groups) =
      textOf kept ++ textOf (groups.headD []) ++ t := by
  induction groups generalizing kept with
  | nil =>
    refine ⟨"", ?_⟩
    rw [settle, List.headD_nil, String.append_empty]
    exact String.append_empty.symm
  | cons group groups ih =>
    rw [settle, List.headD_cons]
    split
    next last =>
      obtain ⟨t, ht⟩ := ih (kept ++ group).dropLast
      refine ⟨textOf (groups.headD []) ++ t, ?_⟩
      rw [ht, textOf_dropLast last, textOf_append, String.append_assoc]
    · exact ⟨"", by rw [textOf_append, String.append_empty]⟩

theorem numbered_append (start : Nat) (groups more : List (List Fragment)) :
    numbered start (groups ++ more) =
      numbered start groups ++ numbered (start + groups.length) more := by
  induction groups generalizing start with
  | nil => rfl
  | cons group groups ih =>
    rw [List.cons_append, numbered, numbered, ih, List.cons_append, List.length_cons,
      Nat.add_right_comm, Nat.add_assoc]

theorem numbered_length (start : Nat) (groups : List (List Fragment)) :
    (numbered start groups).length = groups.length ∧
      (numbered start groups).flatten.length = groups.flatten.length := by
  induction groups generalizing start with
  | nil => exact ⟨rfl, rfl⟩
  | cons group groups ih =>
    obtain ⟨outer, inner⟩ := ih (start + 1)
    simp only [numbered, List.length_cons, List.flatten_cons, List.length_append, List.length_map,
      outer, inner, and_self]

theorem map_numbered (start : Nat) (groups : List (List Fragment)) :
    (numbered start groups).map (List.map (·.1)) = groups := by
  induction groups generalizing start with
  | nil => rfl
  | cons group groups ih =>
    rw [numbered, List.map_cons, ih, List.map_map]
    congr 1
    exact List.map_id group

theorem cleared_numbered (start : Nat) (groups : List (List Fragment)) :
    Cleared (numbered start groups) ↔ Cleared groups := by
  induction groups generalizing start with
  | nil => exact iff_of_true cleared_nil cleared_nil
  | cons group groups ih =>
    obtain ⟨outer, inner⟩ := numbered_length (start + 1) groups
    rw [numbered, cleared_cons, cleared_cons, ih, List.length_map, outer, inner]

theorem runsDry_numbered (n start : Nat) (groups : List (List Fragment)) :
    RunsDry n (numbered start groups) ↔ RunsDry n groups := by
  induction groups generalizing n start with
  | nil =>
    cases n with
    | zero => exact iff_of_true (runsDry_zero _) (runsDry_zero _)
    | succ n => exact iff_of_false (not_runsDry_nil n) (not_runsDry_nil n)
  | cons group groups ih =>
    cases n with
    | zero => exact iff_of_true (runsDry_zero _) (runsDry_zero _)
    | succ n => rw [numbered, runsDry_cons, runsDry_cons, ih, List.length_map]

theorem number_bounds {start : Nat} {groups : List (List Fragment)} {piece : Fragment × Nat}
    (h : piece ∈ (numbered start groups).flatten) :
    start ≤ piece.2 ∧ piece.2 < start + groups.length := by
  induction groups generalizing start with
  | nil => cases h
  | cons group groups ih =>
    rw [numbered, List.flatten_cons, List.mem_append] at h
    rw [List.length_cons]
    rcases h with h | h
    · obtain ⟨f, _, rfl⟩ := List.mem_map.mp h
      exact ⟨Nat.le_refl _, by simp only; omega⟩
    · obtain ⟨low, high⟩ := ih h
      omega

theorem mem_of_mem_numbered {start : Nat} {groups : List (List Fragment)}
    {piece : Fragment × Nat} (h : piece ∈ (numbered start groups).flatten) :
    ∃ group ∈ groups, piece.1 ∈ group := by
  have hmap : piece.1 ∈ ((numbered start groups).flatten.map (·.1)) := List.mem_map_of_mem h
  rw [List.map_flatten, map_numbered] at hmap
  exact List.mem_flatten.mp hmap

theorem map_keptOf (rendered : List (List Fragment)) :
    (keptOf rendered).map (·.1) = settle Fragment.isEmpty [] rendered := by
  have h := settle_map (fun piece : Fragment × Nat => piece.1) Fragment.isEmpty []
    (numbered 0 rendered)
  rwa [map_numbered] at h

/-- Alternatives that put out nothing but empty fragments. -/
def Quiet (groups : List (List Fragment)) : Prop := ∀ group ∈ groups, ∀ f ∈ group, f.isEmpty = true

section Law

variable {rendered quiet soft later rest : List (List Fragment)} {first : List Fragment}

theorem Quiet.flatten (h : Quiet quiet) : ∀ f ∈ quiet.flatten, f.isEmpty = true := by
  intro f hf
  obtain ⟨group, hg, hf⟩ := List.mem_flatten.mp hf
  exact h group hg f hf

theorem Quiet.numbered (h : Quiet quiet) (start : Nat) :
    ∀ piece ∈ (numbered start quiet).flatten, piece.1.isEmpty = true := by
  intro piece hp
  obtain ⟨group, hg, hf⟩ := mem_of_mem_numbered hp
  exact h group hg _ hf

theorem quiet_takeWhile (texts : ∀ group ∈ rendered, Texts group) :
    Quiet (rendered.takeWhile silent) := fun group hg =>
  isEmpty_of_silent (texts group ((List.takeWhile_prefix silent).subset hg))
    (List.mem_takeWhile_imp hg)

theorem not_all_empty (hf : silent first = false) : ¬∀ f ∈ first, f.isEmpty = true := by
  intro h
  rw [silent, textOf_empty h] at hf
  cases hf

theorem find_quiet (h : Quiet quiet) :
    quiet.find? (!silent ·) = none ∧ quiet.findIdx? (!silent ·) = none := by
  have loud : ∀ group ∈ quiet, (!silent group) = false := by
    intro group hg
    rw [silent, textOf_empty (h group hg)]
    rfl
  exact ⟨List.find?_eq_none.mpr fun group hg => Bool.eq_false_iff.mp (loud group hg),
    List.findIdx?_eq_none_iff.mpr loud⟩

theorem find_first (later : List (List Fragment)) (h : Quiet quiet) (hf : silent first = false) :
    (quiet ++ first :: later).find? (!silent ·) = some first ∧
      (quiet ++ first :: later).findIdx? (!silent ·) = some quiet.length := by
  obtain ⟨none, noIndex⟩ := find_quiet h
  constructor
  · rw [List.find?_append, none, Option.none_or, List.find?_cons, hf]
    rfl
  · rw [List.findIdx?_append, noIndex, Option.none_or, List.findIdx?_cons, hf]
    simp

theorem firstOnly_iff_of_quiet (h : Quiet rendered) : FirstOnly rendered ↔ Cleared rendered := by
  obtain ⟨none, noIndex⟩ := find_quiet h
  have drained : keptOf rendered = drain [] (numbered 0 rendered) := by
    have hs := settle_empty_groups [] (List.forall_mem_nil _) (h.numbered 0)
    rwa [List.append_nil] at hs
  rw [← cleared_numbered 0, ← drain_nil_eq_nil_iff, ← drained]
  constructor
  · intro law
    refine List.eq_nil_iff_forall_not_mem.mpr ?_
    intro piece hp
    have found := law.chosen piece hp
    rw [noIndex] at found
    cases found
  · intro hk
    constructor
    · rw [hk, none]
      rfl
    · rw [hk]
      exact List.forall_mem_nil _

/-- Where fragments of the first alternative with a text are kept in the middle, the law says that
there is nothing around them. -/
theorem firstOnly_iff_of_kept (h : Quiet quiet) (hf : silent first = false) {own : List Fragment}
    {front back : List (Fragment × Nat)}
    (kept : keptOf (quiet ++ first :: later) = front ++ own.map (·, quiet.length) ++ back)
    (text : textOf own = textOf first) (other : ∀ piece ∈ front ++ back, piece.2 ≠ quiet.length) :
    FirstOnly (quiet ++ first :: later) ↔ front = [] ∧ back = [] := by
  obtain ⟨found, index⟩ := find_first later h hf
  rw [← List.append_eq_nil_iff]
  constructor
  · intro law
    refine List.eq_nil_iff_forall_not_mem.mpr ?_
    intro piece hp
    refine other piece hp ?_
    have mem : piece ∈ keptOf (quiet ++ first :: later) := by
      rw [kept]
      rcases List.mem_append.mp hp with hp | hp
      · exact List.mem_append_left _ (List.mem_append_left _ hp)
      · exact List.mem_append_right _ hp
    have number := law.chosen piece mem
    rw [index] at number
    exact (Option.some.inj number).symm
  · intro hn
    obtain ⟨rfl, rfl⟩ := List.append_eq_nil_iff.mp hn
    rw [List.append_nil, List.nil_append] at kept
    constructor
    · rw [kept, found, List.map_map]
      exact (congrArg textOf (List.map_id own)).trans text
    · rw [kept, List.forall_mem_map]
      exact fun _ _ => index

theorem rdropWhile_map_number (n : Nat) (group : List Fragment) :
    (group.map (·, n)).rdropWhile (·.1.isEmpty) =
      (group.rdropWhile Fragment.isEmpty).map (·, n) := by
  rw [List.rdropWhile, List.rdropWhile, ← List.map_reverse, List.dropWhile_map, List.map_reverse]
  rfl

theorem rtakeWhile_map_number (n : Nat) (group : List Fragment) :
    (group.map (·, n)).rtakeWhile (·.1.isEmpty) =
      (group.rtakeWhile Fragment.isEmpty).map (·, n) := by
  rw [List.rtakeWhile, List.rtakeWhile, ← List.map_reverse, List.takeWhile_map, List.map_reverse]
  rfl

theorem runsDry_map_number (n start : Nat) (group : List Fragment)
    (groups : List (List Fragment)) :
    RunsDry ((group.map (·, n)).rtakeWhile (·.1.isEmpty)).length (numbered start groups) ↔
      RunsDry (group.rtakeWhile Fragment.isEmpty).length groups := by
  rw [rtakeWhile_map_number, List.length_map, runsDry_numbered]

theorem not_all_empty_number (n : Nat) (hf : silent first = false) :
    ¬∀ piece ∈ first.map (·, n), piece.1.isEmpty = true := by
  rw [List.forall_mem_map]
  exact not_all_empty hf

theorem number_of_drain {start n : Nat} {groups : List (List Fragment)} {piece : Fragment × Nat}
    (h : piece ∈ drain [] (numbered start groups)) (hn : n < start ∨ start + groups.length ≤ n) :
    piece.2 ≠ n := by
  rcases mem_of_mem_drain [] _ h with h | h
  · cases h
  · obtain ⟨low, high⟩ := number_bounds h
    omega

theorem keptOf_eq_settle (h : Quiet quiet) :
    keptOf (quiet ++ first :: later) = settle (·.1.isEmpty) (drain [] (numbered 0 quiet))
      (first.map (·, quiet.length) :: numbered (quiet.length + 1) later) := by
  rw [keptOf, numbered_append, Nat.zero_add, numbered,
    settle_empty_groups _ (List.forall_mem_nil _) (h.numbered 0)]

/-- The text of a group is that of its part up to the last full fragment. -/
theorem textOf_core {group left : List Fragment} (hl : left <+: group.rtakeWhile Fragment.isEmpty) :
    textOf (group.rdropWhile Fragment.isEmpty ++ left) = textOf group := by
  have tail : ∀ f ∈ group.rtakeWhile Fragment.isEmpty, f.isEmpty = true := fun f hf =>
    List.mem_rtakeWhile_imp hf
  have whole : group.rdropWhile Fragment.isEmpty ++ group.rtakeWhile Fragment.isEmpty = group :=
    List.rdropWhile_append_rtakeWhile
  have h := congrArg textOf whole
  rw [textOf_append, textOf_empty tail] at h
  rw [textOf_append, textOf_empty fun f hf => tail f (hl.subset hf)]
  exact h

theorem firstOnly_iff_of_runsDry (hq : Quiet quiet) (hs : Quiet soft) (hf : silent first = false)
    (dry : RunsDry (first.rtakeWhile Fragment.isEmpty).length soft) :
    FirstOnly (quiet ++ first :: (soft ++ rest)) ↔ Cleared quiet := by
  have kept : keptOf (quiet ++ first :: (soft ++ rest)) = drain [] (numbered 0 quiet) ++
      (first.rdropWhile Fragment.isEmpty ++ []).map (·, quiet.length) ++ [] := by
    rw [keptOf_eq_settle hq, numbered_append, settle_full_of_runsDry _
      (not_all_empty_number _ hf) (hs.numbered _) ((runsDry_map_number _ _ _ _).mpr dry),
      rdropWhile_map_number, List.append_nil, List.append_nil]
  rw [firstOnly_iff_of_kept hq hf kept (textOf_core List.nil_prefix), drain_nil_eq_nil_iff,
    cleared_numbered]
  · exact and_iff_left rfl
  · rw [List.append_nil]
    exact fun piece hp => number_of_drain hp (.inr (Nat.le_of_eq (Nat.zero_add _)))

theorem firstOnly_iff_of_not_runsDry (hq : Quiet quiet) (hs : Quiet soft)
    (hf : silent first = false)
    (wet : ¬RunsDry (first.rtakeWhile Fragment.isEmpty).length soft) :
    FirstOnly (quiet ++ first :: soft) ↔ Cleared quiet ∧ Cleared soft := by
  obtain ⟨left, hl, settled⟩ := settle_full_of_not_runsDry (drain [] (numbered 0 quiet)) []
    (not_all_empty_number quiet.length hf) (hs.numbered (quiet.length + 1))
    (mt (runsDry_map_number _ _ _ _).mp wet)
  rw [rtakeWhile_map_number, List.prefix_map_iff] at hl
  obtain ⟨left, hl, rfl⟩ := hl
  have kept : keptOf (quiet ++ first :: soft) = drain [] (numbered 0 quiet) ++
      (first.rdropWhile Fragment.isEmpty ++ left).map (·, quiet.length) ++
      drain [] (numbered (quiet.length + 1) soft) := by
    rw [List.append_nil, rdropWhile_map_number] at settled
    rw [keptOf_eq_settle hq, settled, settle, List.map_append]
    simp only [List.append_assoc]
  rw [firstOnly_iff_of_kept hq hf kept (textOf_core hl), drain_nil_eq_nil_iff,
    drain_nil_eq_nil_iff, cleared_numbered, cleared_numbered]
  rw [List.forall_mem_append]
  constructor
  · exact fun piece hp => number_of_drain hp (.inr (Nat.le_of_eq (Nat.zero_add _)))
  · exact fun piece hp => number_of_drain hp (.inl (Nat.lt_succ_self _))

theorem textOf_drain (h : Quiet quiet) : textOf (drain [] quiet) = "" := by
  refine textOf_empty fun f hf => ?_
  rcases mem_of_mem_drain _ _ hf with hf | hf
  · cases hf
  · exact h.flatten f hf

/-- Another alternative with a text puts it behind the one that should have been the last. -/
theorem not_firstOnly {loud : List Fragment} (hq : Quiet quiet) (hs : Quiet soft)
    (hf : silent first = false) (hl : silent loud = false)
    (wet : ¬RunsDry (first.rtakeWhile Fragment.isEmpty).length soft) :
    ¬FirstOnly (quiet ++ first :: (soft ++ loud :: rest)) := by
  intro law
  obtain ⟨left, hleft, settled⟩ := settle_full_of_not_runsDry (drain [] quiet) (loud :: rest)
    (not_all_empty hf) hs.flatten wet
  have text := law.text
  rw [(find_first _ hq hf).1, map_keptOf, settle_empty_groups _ (List.forall_mem_nil _) hq.flatten,
    settled] at text
  obtain ⟨t, ht⟩ := textOf_settle (drain [] quiet ++ first.rdropWhile Fragment.isEmpty ++
    (left ++ drain [] soft)) (loud :: rest)
  have base : textOf (drain [] quiet ++ first.rdropWhile Fragment.isEmpty ++
      (left ++ drain [] soft)) = textOf first := by
    rw [← textOf_core hleft]
    simp only [textOf_append, textOf_drain hq, textOf_drain hs, String.append_empty,
      String.empty_append]
  rw [ht, base, String.append_assoc, Option.getD_some, String.append_eq_left_iff,
    String.append_eq_empty_iff, List.headD_cons] at text
  rw [silent, decide_eq_false_iff_not] at hl
  exact hl text.1

/-- An alternative with a text, found first behind those without one. -/
theorem split_silent {groups more : List (List Fragment)} {group : List Fragment}
    (hd : groups.dropWhile silent = group :: more) :
    silent group = false ∧ groups.takeWhile silent ++ group :: more = groups := by
  constructor
  · have head := List.head?_dropWhile_not silent groups
    rw [hd] at head
    simpa using head
  · rw [← hd]
    exact List.takeWhile_append_dropWhile

theorem firstOnly_iff_settles (texts : ∀ group ∈ rendered, Texts group) :
    FirstOnly rendered ↔ Settles rendered := by
  have hq := quiet_takeWhile texts
  unfold Settles
  cases hd : rendered.dropWhile silent with
  | nil =>
    have whole := List.takeWhile_append_dropWhile (p := silent) (l := rendered)
    rw [hd, List.append_nil] at whole
    rw [whole] at hq ⊢
    rw [firstOnly_iff_of_quiet hq]
    exact (and_iff_left trivial).symm
  | cons first later =>
    obtain ⟨hf, whole⟩ := split_silent hd
    rw [← whole, List.forall_mem_append, List.forall_mem_cons] at texts
    have hs := quiet_takeWhile texts.2.2
    have rest := List.takeWhile_append_dropWhile (p := silent) (l := later)
    conv => lhs; rw [← whole, ← rest]
    by_cases dry : RunsDry (first.rtakeWhile Fragment.isEmpty).length (later.takeWhile silent)
    · rw [firstOnly_iff_of_runsDry hq hs hf dry]
      exact (and_iff_left (.inl dry)).symm
    · cases hr : later.dropWhile silent with
      | nil =>
        have allSilent : ∀ group ∈ later, silent group = true := List.dropWhile_eq_nil_iff.mp hr
        rw [hr, List.append_nil] at rest
        rw [List.append_nil, firstOnly_iff_of_not_runsDry hq hs hf dry, rest]
        exact and_congr_right fun _ => ((or_iff_right dry).trans (and_iff_right allSilent)).symm
      | cons loud more =>
        obtain ⟨hl, rest⟩ := split_silent hr
        refine iff_of_false (not_firstOnly hq hs hf hl dry) ?_
        rintro ⟨_, dry' | ⟨allSilent, _⟩⟩
        · exact dry dry'
        · have mem : loud ∈ later := by
            rw [← rest]
            exact List.mem_append_right _ List.mem_cons_self
          rw [allSilent loud mem] at hl
          cases hl

end Law

/-- A disjunction puts out what is kept of its alternatives, wherever it stands. It shows the first
one that has a text and nothing else just where this settles. -/
theorem disjunction_firstOnly_iff (literal : String → String) (parser : QueryParser)
    (source : Source) (alternatives : List (List Node)) :
    let r : Rendering := ⟨.joined, literal, parser, source⟩
    let rendered := alternatives.map r.fragments
    (∀ before after, r.fragments (before ++ .disjunction alternatives :: after) =
        r.fragments before ++ (keptOf rendered).map (·.1) ++ r.fragments after) ∧
      (∀ output, r.node (.disjunction alternatives) output =
        output ++ (keptOf rendered).map (·.1)) ∧
      (FirstOnly rendered ↔ Settles rendered) := by
  intro r rendered
  have own : rendered = alternatives.map (r.nodes · []) :=
    congrArg alternatives.map (funext (fragments_eq_nodes r))
  have node (output : List Fragment) :
      r.node (.disjunction alternatives) output = output ++ (keptOf rendered).map (·.1) := by
    have h := alternatives_eq_settle (r := r) alternatives output []
    rw [List.append_nil] at h
    rw [Rendering.node, h, own, map_keptOf]
  refine ⟨fun before after => ?_, node, firstOnly_iff_settles ?_⟩
  · rw [fragments_eq_nodes, fragments_eq_nodes, fragments_eq_nodes, nodes_append, Rendering.nodes,
      node, nodes_behind after]
  · rw [own, List.forall_mem_map]
    exact fun nodes _ => (render_texts rfl).2.1 nodes [] texts_nil

/-- The empty value of `b` is taken for an alternative without a text. -/
theorem disjunction_shows_two :
    let song := (TagTable.ofList [("a", .text "foo")]).song
    let r : Rendering := ⟨.joined, id, Query.parser Regex.engine, Policy.plain.source song⟩
    let alternatives : List (List Node) := [[.tag "a", .tag "b"], [.text "x"]]
    Pattern.parse "<<a><b>||x>" = .ok [.disjunction alternatives] ∧
      textOf (r.fragments [.tag "a", .tag "b"]) = "foo" ∧
      textOf (r.fragments [.disjunction alternatives]) = "foox" ∧
      render Regex.engine "<<a><b>||x>" song = .ok "foox" ∧
      ¬FirstOnly (alternatives.map r.fragments) := by
  intro song r alternatives
  have printed : Pattern.printNodes [.disjunction alternatives] = "<<a><b>||x>" := by
    decide +kernel
  have canonical : Pattern.Canonical [.disjunction alternatives] := by
    refine ⟨?_, by decide⟩
    simp only [alternatives, Pattern.Shaped, Node.Shaped, Pattern.ShapedEach, Pattern.IsName]
    decide
  have parsed := Pattern.parse_printNodes canonical
  rw [printed] at parsed
  have shown : textOf (r.nodes [.disjunction alternatives] []) = "foox" := by decide +kernel
  have kept : textOf ((keptOf (alternatives.map r.fragments)).map (·.1)) = "foox" := by
    decide +kernel
  have first : textOf (((alternatives.map r.fragments).find? (!silent ·)).getD []) = "foo" := by
    decide +kernel
  refine ⟨parsed, by decide +kernel, ?_, ?_, ?_⟩
  · rw [fragments_eq_nodes, shown]
  · rw [render_of_parse parsed]
    exact congrArg Except.ok shown
  · intro h
    have text := h.text
    rw [kept, first] at text
    exact absurd text (by decide)

end SongPattern.Program
