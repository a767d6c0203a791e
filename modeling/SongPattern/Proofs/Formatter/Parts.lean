import SongPattern.Proofs.Formatter.Rendered
import SongPattern.Proofs.Policy.Markup
import SongPattern.Proofs.Policy.Url
import SongPattern.Proofs.Policy.Value
import SongPattern.Proofs.Program.Origin
import SongPattern.Proofs.Song.TagTable
import SongPattern.Regex.Engine
import SongPattern.Settings

namespace SongPattern

open Pattern (Node mentionsOf)
open Program (Guide Origin Rendering)

namespace Policy

section Parts

variable (policy : Policy) (parser : QueryParser) (song : Song) (nodes : List Node)

/-- The output for one text, piece by piece. -/
def fragments : List Fragment :=
  ((Program.compile .joined policy.literal parser nodes).program.run
    (policy.source song)).fragments

/-- The parts of a pattern that are rendered. -/
def parts : List Origin := (policy.rendering parser song).guide.nodes nodes []

/-- What is shown for a part: a literal, or the value of a tag under its name. -/
def shown : Origin → Fragment
  | .literal s => .text (policy.literal s)
  | .tag name => .text (policy.value name (song.joined name).display)

theorem piece_eq_shown : (policy.rendering parser song).piece = policy.shown song := by
  funext o
  cases o <;> rfl

theorem fragments_eq_shown :
    policy.fragments parser song nodes =
      (policy.parts parser song nodes).map (policy.shown song) := by
  rw [parts, ← policy.piece_eq_shown parser song, ← Rendering.nodes_eq_map]
  exact Program.fragments_eq_nodes (policy.rendering parser song) nodes

end Parts

/-- A literal or a value is empty just where it was empty before the policy. -/
structure KeepsSilence (policy : Policy) (song : Song) : Prop where
  literal : ∀ s, policy.literal s = "" ↔ s = ""
  value : ∀ name, policy.value name (song.joined name).display = "" ↔
    (song.joined name).display = ""

theorem keepsSilence_build (kind : PolicyKind) (settings : Settings) (p : Platform)
    (t : TagTable) : (kind.build settings p).KeepsSilence t.song := by
  have path (keep : Bool) : (Policy.filePath keep settings.path p).KeepsSilence t.song :=
    ⟨fun _ => Iff.rfl, fun _ => FilePath.cleanValue_eq_empty_iff TagTable.shows_joined⟩
  cases kind with
  | plain => exact ⟨fun _ => Iff.rfl, fun _ => Iff.rfl⟩
  | file => exact path true
  | fileAnyExtension => exact path false
  | markup => exact ⟨fun _ => Iff.rfl, fun _ => escapeMarkup_eq_empty_iff⟩
  | markupShorthand =>
    exact ⟨fun _ => expandShorthand_eq_empty_iff, fun _ => escapeMarkup_eq_empty_iff⟩
  | url => exact ⟨fun _ => Iff.rfl, fun _ => quotePlus_eq_empty_iff⟩

variable {policy : Policy} {parser : QueryParser} {song : Song} {nodes : List Node}

theorem KeepsSilence.isEmpty_shown (h : policy.KeepsSilence song) (o : Origin) :
    (policy.shown song o).isEmpty = (Policy.plain.shown song o).isEmpty := by
  rw [Bool.eq_iff_iff]
  cases o with
  | literal s => exact String.isEmpty_iff.trans ((h.literal s).trans String.isEmpty_iff.symm)
  | tag name => exact String.isEmpty_iff.trans ((h.value name).trans String.isEmpty_iff.symm)

/-- Queries look at the song itself, so all that a policy could change is what is empty. -/
theorem KeepsSilence.guide_eq (h : policy.KeepsSilence song) :
    (policy.rendering parser song).guide = (Policy.plain.rendering parser song).guide := by
  rw [Rendering.guide, Rendering.guide, Guide.mk.injEq, piece_eq_shown, piece_eq_shown]
  refine ⟨?_, funext h.isEmpty_shown⟩
  funext predicate
  exact Rendering.truth_congr rfl (fun _ _ => rfl) fun _ => h.isEmpty_shown (.tag predicate)

theorem KeepsSilence.parts_eq (h : policy.KeepsSilence song) :
    policy.parts parser song nodes = Policy.plain.parts parser song nodes := by
  rw [parts, h.guide_eq, parts]

/-- Where all values are encoded piece by piece, so is their join. -/
theorem textOf_shown {encode : String → String} (value : ∀ name s, policy.value name s = encode s)
    (append : ∀ s t, encode (s ++ t) = encode s ++ encode t) (empty : encode "" = "")
    {parts : List Origin} (tags : ∀ s, .literal s ∉ parts) :
    textOf (parts.map (policy.shown song)) =
      encode (textOf (parts.map (Policy.plain.shown song))) := by
  induction parts with
  | nil => exact empty.symm
  | cons o parts ih =>
    rw [List.map_cons, List.map_cons, textOf_cons, textOf_cons, append,
      ih fun s hs => tags s (List.mem_cons_of_mem o hs)]
    cases o with
    | literal s => exact absurd List.mem_cons_self (tags s)
    | tag name => exact congrArg (· ++ _) (value name _)

/-- What is rendered, the pattern names. -/
theorem mention_of_parts {o : Origin} (h : o ∈ policy.parts parser song nodes) :
    o.mention ∈ mentionsOf nodes :=
  (Guide.mention_mem.2.1 nodes [] o h).resolve_left List.not_mem_nil

theorem textOf_fragments {encode : String → String} (silence : policy.KeepsSilence song)
    (value : ∀ name s, policy.value name s = encode s)
    (append : ∀ s t, encode (s ++ t) = encode s ++ encode t) (empty : encode "" = "")
    (none : ∀ s, .literal s ∉ mentionsOf nodes) :
    textOf (policy.fragments parser song nodes) =
      encode (textOf (Policy.plain.fragments parser song nodes)) := by
  rw [fragments_eq_shown, silence.parts_eq, fragments_eq_shown]
  exact textOf_shown value append empty fun s hs => none s (mention_of_parts hs)

/-- All policies render the same parts of a pattern, and each shows them in its own way. So the
policies that encode values encode the whole text where there is nothing else. -/
theorem fragments_build (kind : PolicyKind) (settings : Settings) (p : Platform)
    (parser : QueryParser) (t : TagTable) (nodes : List Node) :
    let policy := kind.build settings p
    let parts := Policy.plain.parts parser t.song nodes
    policy.parts parser t.song nodes = parts ∧
      Policy.plain.fragments parser t.song nodes = parts.map (Policy.plain.shown t.song) ∧
      policy.fragments parser t.song nodes = parts.map (policy.shown t.song) ∧
      ((∀ s, .literal s ∉ mentionsOf nodes) → ∀ pattern, ∃ text,
        (Formatter.ofNodes pattern .plain parser nodes).format t.song = .ok text ∧
        (Formatter.ofNodes pattern .markup parser nodes).format t.song = .ok (escapeMarkup text) ∧
        (Formatter.ofNodes pattern .url parser nodes).format t.song = .ok (quotePlus text)) := by
  intro policy parts
  have silence (kind : PolicyKind) : (kind.build settings p).KeepsSilence t.song :=
    keepsSilence_build kind settings p t
  have same : policy.parts parser t.song nodes = parts := (silence kind).parts_eq
  refine ⟨same, Policy.plain.fragments_eq_shown parser t.song nodes, ?_, ?_⟩
  · rw [fragments_eq_shown, same]
  · intro none pattern
    let text := textOf (Policy.plain.fragments parser t.song nodes)
    have markup : textOf (Policy.markup.fragments parser t.song nodes) = escapeMarkup text :=
      textOf_fragments (silence .markup) (fun _ _ => rfl) escapeMarkup_append rfl none
    have url : textOf (Policy.url.fragments parser t.song nodes) = quotePlus text :=
      textOf_fragments (silence .url) (fun _ _ => rfl) quotePlus_append rfl none
    exact ⟨text, rfl, congrArg Except.ok markup, congrArg Except.ok url⟩

theorem fragments_build_tags :
    let nodes : List Node := [.tag "artist", .disjunction [[.tag "album"], [.tag "title"]]]
    let t : TagTable := .ofList [("artist", .text "A & B"), ("title", .text "<c>")]
    let rendered (policy : Policy) :=
      (Formatter.ofNodes "<artist><<album>||<title>>" policy (Query.parser Regex.engine)
        nodes).format t.song
    (∀ s, .literal s ∉ mentionsOf nodes) ∧ rendered .plain = .ok "A & B<c>" ∧
      rendered .markup = .ok "A &amp; B&lt;c&gt;" ∧ rendered .url = .ok "A+%26+B%3Cc%3E" := by
  intro nodes t rendered
  have none : ∀ s, .literal s ∉ mentionsOf nodes := by
    intro s
    simp [nodes, mentionsOf, Node.mentions, Pattern.mentionsOfEach]
  have plain : rendered .plain = .ok "A & B<c>" := by decide +kernel
  obtain ⟨text, same, markup, url⟩ :=
    (fragments_build .plain {} ⟨.unix, .none⟩ (Query.parser Regex.engine) t nodes).2.2.2 none
      "<artist><<album>||<title>>"
  cases Except.ok.inj (plain.symm.trans same)
  have escaped : escapeMarkup "A & B<c>" = "A &amp; B&lt;c&gt;" := by decide +kernel
  have quoted : quotePlus "A & B<c>" = "A+%26+B%3Cc%3E" := by decide +kernel
  rw [escaped] at markup
  rw [quoted] at url
  exact ⟨none, plain, markup, url⟩

end Policy

end SongPattern
