import Mathlib.Data.List.Chain
import SongPattern.Proofs.Pattern.Scan

namespace SongPattern.Pattern

def unescape (s : String) : String := .ofList (unescapeChars s.toList)

/-- The part of the source from one byte offset to another. -/
def slice (source : String) (start stop : Nat) : String :=
  String.Pos.Raw.extract source ⟨start⟩ ⟨stop⟩

/-- An operator is written as itself, and a text has no operator in it. -/
def Spelled (kind : TokenKind) (s : String) : Prop :=
  Lexeme.Formed (kind, s) ∧ (kind = .text → hasOperator s.toList = false)

/-- `t` is what the source has from its place up to that of `next`, where no text goes on. -/
structure Tile (source : String) (t next : Token) : Prop where
  spelled : Spelled t.kind (slice source t.position next.position)
  meant : unescape (slice source t.position next.position) = t.text
  maximal : t.kind = .text → next.kind ≠ .text

/-- The tokens stand one behind the other in the source and leave nothing of it out. -/
structure Tiling (source : String) (ts : List Token) : Prop where
  starts : ts.head?.map Token.position = some 0
  ends : ts.getLast? = some ⟨.finish, "", source.utf8ByteSize⟩
  ascending : (ts.map Token.position).Pairwise (· < ·)
  boundary : ∀ t ∈ ts, String.Pos.Raw.IsValid source ⟨t.position⟩
  tiles : ts.IsChain (Tile source)

/-- The tokens cut `cs`, which stands behind `position` bytes, into pieces. -/
inductive CutFrom : Nat → List Char → List Token → Prop where
  | finish {position : Nat} : CutFrom position [] [⟨.finish, "", position⟩]
  | token {position : Nat} {kind : TokenKind} {piece cs : List Char} {ts : List Token} :
    Spelled kind (.ofList piece) → (∀ next ∈ ts.head?, kind = .text → next.kind ≠ .text) →
    CutFrom (position + String.utf8Len piece) cs ts →
    CutFrom position (piece ++ cs) (⟨kind, .ofList (unescapeChars piece), position⟩ :: ts)

variable {position : Nat} {kind : TokenKind} {chunk piece cs : List Char} {ts : List Token}

theorem Chunk.spelled_append (h : Chunk chunk) (bare : hasOperator chunk = false)
    (rest : hasOperator piece = false) : Spelled .text (.ofList (chunk ++ piece)) := by
  have full : chunk ++ piece ≠ [] := by
    cases h <;> simp
  refine ⟨mt String.ofList_eq_empty_iff.mp full, fun _ => ?_⟩
  rw [String.toList_ofList, h.hasOperator_append, bare, rest]
  rfl

theorem CutFrom.operator {l : Lexeme} (formed : l.Formed) (operator : l.1 ≠ .text)
    (h : CutFrom (position + String.utf8Len l.written) cs ts) :
    CutFrom position (l.written ++ cs) (⟨l.1, l.2, position⟩ :: ts) := by
  obtain ⟨kind, s⟩ := l
  cases kind with
  | text => exact absurd rfl operator
  | finish => exact formed.elim
  | _ =>
    cases formed
    exact .token ⟨rfl, nofun⟩ (fun _ _ => nofun) h

/-- A chunk of a text joins the text behind it, if there is one. -/
theorem CutFrom.text (h : Chunk chunk) (bare : hasOperator chunk = false)
    (cut : CutFrom (position + String.utf8Len chunk) cs ts) :
    CutFrom position (chunk ++ cs) (prepend position (unescapeChars chunk) ts) := by
  have alone (other : ∀ t ∈ ts.head?, t.kind ≠ .text) :
      CutFrom position (chunk ++ cs) (prepend position (unescapeChars chunk) ts) := by
    have spelled := h.spelled_append bare (rfl : hasOperator [] = false)
    rw [List.append_nil] at spelled
    rw [prepend_of_head position _ other]
    exact .token spelled (fun next hn _ => other next hn) cut
  cases cut with
  | finish => exact alone (by simp)
  | @token _ kind piece cs ts spelled apart cut =>
    by_cases text : kind = .text
    · subst text
      have bare' := spelled.2 rfl
      rw [String.toList_ofList] at bare'
      rw [prepend, if_pos rfl, ← String.ofList_append, ← h.unescapeChars_append,
        ← List.append_assoc]
      refine .token (h.spelled_append bare bare') apart ?_
      rwa [String.utf8Len_append, ← Nat.add_assoc]
    · exact alone (by simpa using text)

theorem cutFrom_of_scan (h : scan position cs = .ok ts) : CutFrom position cs ts := by
  induction cs using source_induction generalizing position ts with
  | nil =>
    cases h
    exact .finish
  | operator l rest formed operator free ih =>
    rw [scan_operator formed operator free] at h
    obtain ⟨us, hus, rfl⟩ := map_eq_ok h
    exact .operator formed operator (ih hus)
  | chunk chunk rest piece bare ih =>
    rw [scan_chunk piece bare] at h
    obtain ⟨us, hus, rfl⟩ := map_eq_ok h
    exact .text piece bare (ih hus)
  | stray back behind =>
    rw [scan_stray back behind] at h
    cases h

theorem formed_ne_empty {l : Lexeme} (h : l.Formed) : l.2 ≠ "" := by
  obtain ⟨kind, s⟩ := l
  cases kind with
  | text => exact h
  | finish => exact h.elim
  | _ =>
    cases h
    decide

theorem Spelled.utf8Len_pos (h : Spelled kind (.ofList piece)) : 0 < String.utf8Len piece := by
  have full : piece ≠ [] := by
    rintro rfl
    exact formed_ne_empty h.1 rfl
  exact Nat.pos_of_ne_zero (mt String.utf8Len_eq_zero.mp full)

theorem CutFrom.starts (h : CutFrom position cs ts) :
    ts.head?.map Token.position = some position := by
  cases h <;> rfl

theorem CutFrom.ends (h : CutFrom position cs ts) :
    ts.getLast? = some ⟨.finish, "", position + String.utf8Len cs⟩ := by
  induction h with
  | finish => rfl
  | token _ _ _ ih =>
    rw [List.getLast?_cons, ih, String.utf8Len_append, Nat.add_assoc]
    rfl

theorem CutFrom.le (h : CutFrom position cs ts) : ∀ t ∈ ts, position ≤ t.position := by
  induction h with
  | finish => simp
  | token _ _ _ ih =>
    rw [List.forall_mem_cons]
    exact ⟨Nat.le_refl _, fun t ht => Nat.le_of_add_right_le (ih t ht)⟩

theorem CutFrom.ascending (h : CutFrom position cs ts) :
    (ts.map Token.position).Pairwise (· < ·) := by
  induction h with
  | finish => simp
  | token spelled _ cut ih =>
    rw [List.map_cons, List.pairwise_cons, List.forall_mem_map]
    refine ⟨fun t ht => ?_, ih⟩
    have wide := spelled.utf8Len_pos
    have behind := cut.le t ht
    dsimp only
    omega

theorem isValid_front (front cs : List Char) :
    String.Pos.Raw.IsValid (.ofList (front ++ cs)) ⟨String.utf8Len front⟩ :=
  String.Pos.Raw.isValid_iff_exists_append.mpr
    ⟨.ofList front, .ofList cs, String.ofList_append, (String.rawEndPos_ofList front).symm⟩

theorem CutFrom.boundary (h : CutFrom position cs ts) (front : List Char)
    (behind : position = String.utf8Len front) :
    ∀ t ∈ ts, String.Pos.Raw.IsValid (.ofList (front ++ cs)) ⟨t.position⟩ := by
  -- what was cut off joins the front, so the source stays the same
  induction h generalizing front with
  | finish =>
    rw [List.forall_mem_singleton, behind]
    exact isValid_front front []
  | @token position kind piece cs ts _ _ _ ih =>
    have later := ih (front ++ piece) (by rw [behind, String.utf8Len_append])
    rw [List.append_assoc] at later
    rw [List.forall_mem_cons, behind]
    exact ⟨isValid_front front (piece ++ cs), later⟩

theorem CutFrom.tiles (h : CutFrom position cs ts) (front : List Char)
    (behind : position = String.utf8Len front) :
    ts.IsChain (Tile (.ofList (front ++ cs))) := by
  induction h generalizing front with
  | finish => exact List.isChain_singleton _
  | @token position kind piece cs ts spelled apart cut ih =>
    have later := ih (front ++ piece) (by rw [behind, String.utf8Len_append])
    rw [List.append_assoc] at later
    refine List.isChain_cons.mpr ⟨fun next hn => ?_, later⟩
    have place : next.position = position + String.utf8Len piece := by
      have starts := cut.starts
      rw [Option.mem_def.mp hn] at starts
      exact Option.some.inj starts
    have here : slice (.ofList (front ++ (piece ++ cs))) position next.position =
        .ofList piece := by
      rw [slice, place, behind, ← List.append_assoc]
      exact String.extract_of_valid front piece cs
    refine ⟨?_, ?_, apart next hn⟩
    · rw [here]
      exact spelled
    · rw [here, unescape, String.toList_ofList]

/-- What is read tiles the source: from its first byte to its last one, each token is the part up to
the next token, its escapes resolved, and no text ends before an operator or the end does. -/
theorem tokenize_tiling {source : String} (h : tokenize source = .ok ts) : Tiling source ts := by
  have cut := cutFrom_of_scan h
  have boundary := cut.boundary [] rfl
  have tiles := cut.tiles [] rfl
  rw [List.nil_append, String.ofList_toList] at boundary tiles
  refine ⟨cut.starts, ?_, cut.ascending, boundary, tiles⟩
  rw [cut.ends, Nat.zero_add, String.utf8Len_toList]

/-- Characters of two bytes, escapes that are resolved and one that is not. -/
theorem tokenize_tiling_escapes :
    let ts : List Token := [⟨.text, "ä\\[<é", 0⟩, ⟨.doubleBar, "||", 8⟩, ⟨.text, "\\", 10⟩,
      ⟨.bar, "|", 12⟩, ⟨.finish, "", 13⟩]
    tokenize "ä\\[\\<é||\\\\|" = .ok ts ∧ Tiling "ä\\[\\<é||\\\\|" ts := by
  intro ts
  have read : tokenize "ä\\[\\<é||\\\\|" = .ok ts := by decide +kernel
  exact ⟨read, tokenize_tiling read⟩

end SongPattern.Pattern
