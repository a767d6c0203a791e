import SongPattern.Proofs.Pattern.RoundTrip

namespace SongPattern.Pattern

def endsWithText (nodes : List Node) : Bool := nodes.getLast?.any Node.isText

/-- The nodes that are read from two patterns, one written behind the other. Where a text ends the
first and a text starts the second, they are read as one. -/
inductive Joined : List Node → List Node → List Node → Prop where
  | apart {front back : List Node} :
    (endsWithText front = true → startsWithText back = false) → Joined front back (front ++ back)
  | merged {front back : List Node} {s t : String} :
    Joined (front ++ [.text s]) (.text t :: back) (front ++ .text (s ++ t) :: back)

variable {front back nodes : List Node}

theorem endsWithText_iff :
    endsWithText nodes = true ↔ ∃ front s, nodes = front ++ [.text s] := by
  rw [endsWithText, Option.any_eq_true]
  constructor
  · rintro ⟨last, hl, text⟩
    obtain ⟨front, rfl⟩ := List.getLast?_eq_some_iff.mp hl
    cases last with
    | text s => exact ⟨front, s, rfl⟩
    | _ => cases text
  · rintro ⟨front, s, rfl⟩
    exact ⟨_, List.getLast?_concat, rfl⟩

theorem startsWithText_iff :
    startsWithText nodes = true ↔ ∃ s back, nodes = .text s :: back := by
  cases nodes with
  | nil => exact iff_of_false nofun nofun
  | cons first back =>
    cases first with
    | text s => exact iff_of_true rfl ⟨s, back, rfl⟩
    | _ => exact iff_of_false nofun nofun

theorem exists_joined (front back : List Node) : ∃ nodes, Joined front back nodes := by
  by_cases meet : endsWithText front = true ∧ startsWithText back = true
  · obtain ⟨shorter, s, rfl⟩ := endsWithText_iff.mp meet.1
    obtain ⟨t, later, rfl⟩ := startsWithText_iff.mp meet.2
    exact ⟨_, .merged⟩
  · exact ⟨_, .apart fun ends => Bool.eq_false_iff.mpr fun starts => meet ⟨ends, starts⟩⟩

theorem escape_append (s t : String) : escape (s ++ t) = escape s ++ escape t := by
  rw [escape, String.toList_append, escapeChars_append, String.ofList_append, ← escape, ← escape]

theorem printNodes_append (front back : List Node) :
    printNodes (front ++ back) = printNodes front ++ printNodes back := by
  induction front with
  | nil => exact String.empty_append.symm
  | cons node front ih =>
    rw [List.cons_append, printNodes, printNodes, ih, String.append_assoc]

theorem depthOf_append (front back : List Node) :
    depthOf (front ++ back) = max (depthOf front) (depthOf back) := by
  induction front with
  | nil => exact (Nat.zero_max _).symm
  | cons node front ih => rw [List.cons_append, depthOf, depthOf, ih, Nat.max_assoc]

theorem shaped_append_iff : Shaped (front ++ back) ↔
    Shaped front ∧ Shaped back ∧ (endsWithText front = true → startsWithText back = false) := by
  induction front with
  | nil => exact ⟨fun h => ⟨trivial, h, nofun⟩, fun h => h.2.1⟩
  | cons node front ih =>
    rw [List.cons_append, Shaped, Shaped, ih]
    cases front with
    | nil =>
      constructor
      · rintro ⟨shaped, seam, _, more, _⟩
        exact ⟨⟨shaped, fun _ => rfl, trivial⟩, more, seam⟩
      · rintro ⟨⟨shaped, _, _⟩, more, seam⟩
        exact ⟨shaped, seam, trivial, more, nofun⟩
    | cons next front =>
      have ends : endsWithText (node :: next :: front) = endsWithText (next :: front) := by
        rw [endsWithText, List.getLast?_cons_cons, ← endsWithText]
      have starts : startsWithText (next :: front ++ back) = startsWithText (next :: front) := rfl
      rw [ends, starts, and_assoc, and_assoc]

theorem Joined.print (h : Joined front back nodes) :
    printNodes nodes = printNodes front ++ printNodes back := by
  cases h with
  | apart => exact printNodes_append front back
  | @merged front back s t =>
    simp only [printNodes_append, printNodes, Node.print, escape_append, String.append_assoc,
      String.empty_append]

theorem Joined.depth (h : Joined front back nodes) :
    depthOf nodes = max (depthOf front) (depthOf back) := by
  cases h with
  | apart => exact depthOf_append front back
  | merged => simp [depthOf_append, depthOf, Node.depth]

theorem Joined.shaped (h : Joined front back nodes) (hf : Shaped front) (hb : Shaped back) :
    Shaped nodes := by
  cases h with
  | apart seam => exact shaped_append_iff.mpr ⟨hf, hb, seam⟩
  | @merged front back s t =>
    obtain ⟨shaped, ⟨full, _⟩, seam⟩ := shaped_append_iff.mp hf
    obtain ⟨_, alone, more⟩ := hb
    refine shaped_append_iff.mpr ⟨shaped, ⟨?_, alone, more⟩, seam⟩
    exact mt String.append_eq_empty_iff.mp fun h => full h.1

theorem Joined.canonical (h : Joined front back nodes) (hf : Canonical front)
    (hb : Canonical back) : Canonical nodes :=
  ⟨h.shaped hf.1 hb.1, h.depth ▸ Nat.max_le.mpr ⟨hf.2, hb.2⟩⟩

/-- A pattern that is printed from nodes that can be read. -/
def WellFormed (pattern : String) : Prop := ∃ nodes, Canonical nodes ∧ printNodes nodes = pattern

end SongPattern.Pattern
