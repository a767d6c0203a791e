import SongPattern.Proofs.Formatter.Rendered
import SongPattern.Proofs.Pattern.RoundTrip
import SongPattern.Proofs.Program.Mention
import SongPattern.Proofs.Query.Tag
import SongPattern.Proofs.Song.Agreement
import SongPattern.Regex.Engine
import SongPattern.Settings

namespace SongPattern

open Pattern (IsName Mention Node mentionsOf tagParts)
open Program (Rendering)

/-- The tags of a song that a rendering may look at: those that the pattern shows, those that its
conditions test, and the name of the file where the policy keeps its extension. -/
inductive Declared (engine : RegexEngine) (kind : PolicyKind) (tags : List String)
    (nodes : List Node) : String → Prop where
  | shown {name : String} : name ∈ tags → Declared engine kind tags nodes name
  | tested {text part : String} : .predicate text ∈ mentionsOf nodes →
    Query.read? engine text = none → part ∈ tagParts text → Declared engine kind tags nodes part
  | queried {text : String} {q : Query} : .predicate text ∈ mentionsOf nodes →
    Query.read? engine text = some q → Declared engine kind tags nodes q.tag
  | extension : kind = .file → Declared engine kind tags nodes "~filename"

section Policies

variable {song song' : Song}

theorem FilePath.finish_congr {keep : Bool} {options : PathOptions} {p : Platform}
    (same : keep = true → song.get "~filename" = song'.get "~filename") (path : String) :
    finish keep options p path song = finish keep options p path song' := by
  cases keep with
  | false => rfl
  | true =>
    have extension : songExtension? p song = songExtension? p song' := by
      rw [songExtension?, songExtension?, same rfl]
    have appended : appendExtension p song path.toList = appendExtension p song' path.toList := by
      rw [appendExtension, appendExtension, extension]
    rw [finish, finish, if_pos rfl, if_pos rfl, appended]

theorem PolicyKind.post_congr {kind : PolicyKind} {settings : Settings} {p : Platform}
    (same : kind = .file → song.get "~filename" = song'.get "~filename") (text : String) :
    (kind.build settings p).post text song = (kind.build settings p).post text song' := by
  cases kind with
  | file => exact FilePath.finish_congr (fun _ => same rfl) text
  | fileAnyExtension =>
    exact FilePath.finish_congr (fun keep => absurd keep Bool.false_ne_true) text
  | plain => rfl
  | markup => rfl
  | markupShorthand => rfl
  | url => rfl

end Policies

/-- The tags that a pattern looks up to show them or to test whether they have a value. -/
def LooksUp (engine : RegexEngine) (nodes : List Node) (name : String) : Prop :=
  .tag name ∈ mentionsOf nodes ∨ .predicate name ∈ mentionsOf nodes ∧ Query.read? engine name = none

section Songs

variable {engine : RegexEngine} {kind : PolicyKind} {settings : Settings} {p : Platform}
  {nodes : List Node} {policy : Policy} {mode : Mode} {t t' : TagTable} {name : String}

theorem fragments_congr
    (values : ∀ name, LooksUp engine nodes name →
      Rendering.value ⟨mode, policy.literal, Query.parser engine, policy.source t.song⟩ name =
        Rendering.value ⟨mode, policy.literal, Query.parser engine, policy.source t'.song⟩ name)
    (queries : ∀ text q, .predicate text ∈ mentionsOf nodes → Query.read? engine text = some q →
      t.get? q.tag = t'.get? q.tag) :
    ((Program.compile mode policy.literal (Query.parser engine) nodes).program.run
        (policy.source t.song)).fragments =
      ((Program.compile mode policy.literal (Query.parser engine) nodes).program.run
        (policy.source t'.song)).fragments := by
  let r : Rendering := ⟨mode, policy.literal, Query.parser engine, policy.source t.song⟩
  let r' : Rendering := ⟨mode, policy.literal, Query.parser engine, policy.source t'.song⟩
  have agree : ∀ m ∈ mentionsOf nodes, r.AgreeOn r' m := by
    intro m hm
    cases m with
    | literal s => rfl
    | tag name => exact values name (.inl hm)
    | predicate text =>
      refine Rendering.truth_congr rfl ?_ ?_
      · intro matcher asked
        obtain ⟨q, hq, rfl⟩ := Option.map_eq_some_iff.mp asked
        exact Query.holds_congr (queries text q hm hq)
      · intro asked
        exact congrArg Fragment.isEmpty (values text (.inr ⟨hm, Option.map_eq_none_iff.mp asked⟩))
  calc
    _ = r.nodes nodes [] := Program.fragments_eq_nodes r nodes
    _ = r'.nodes nodes [] := Program.render_congr.2.1 nodes agree []
    _ = _ := (Program.fragments_eq_nodes r' nodes).symm

theorem isName_of_looksUp {source : String} (parsed : Pattern.parse source = .ok nodes)
    (h : LooksUp engine nodes name) : IsName name := by
  have named := Pattern.named_of_shaped.2.1 nodes (Pattern.canonical_of_parse parsed).1
  rcases h with h | ⟨h, _⟩
  · exact named _ h
  · exact named _ h

theorem declared_of_looksUp {part : String} (h : LooksUp engine nodes name)
    (hp : part ∈ tagParts name) :
    Declared engine kind (Program.compile .joined policy.literal (Query.parser engine) nodes).tags
      nodes part := by
  rcases h with h | ⟨h, plain⟩
  · exact .shown (Program.mem_tags_iff.mpr ⟨name, h, hp⟩)
  · exact .tested h plain hp

theorem pairs_source_congr (named : IsName name)
    (same : ∀ part ∈ tagParts name, t.get? part = t'.get? part)
    (sort : ∀ part ∈ tagParts name, part ∈ TagTable.sortable →
      t.get? (part ++ "sort") = t'.get? (part ++ "sort")) :
    (policy.source t.song).pairs name = (policy.source t'.song).pairs name := by
  have value : t.song.textOf name = t'.song.textOf name :=
    Song.textOf_congr (TagTable.get?_congr named same)
  have pairs : t.song.pairs name = t'.song.pairs name := TagTable.pairs_congr named same sort
  simp only [Policy.source, value, pairs]

end Songs

namespace Formatter

/-- Two songs with the same declared tags are rendered the same, and so are their lists if the
companions to sort by are the same as well. -/
theorem format_eq_of_declared {engine : RegexEngine} {pattern : String} {kind : PolicyKind}
    {settings : Settings} {p : Platform} {f : Formatter} {nodes : List Node} {t t' : TagTable}
    (hf : build pattern (kind.build settings p) (Query.parser engine) = .ok f)
    (parsed : Pattern.parse ((kind.build settings p).preprocess pattern) = .ok nodes)
    (same : ∀ name, Declared engine kind f.tags nodes name → t.get? name = t'.get? name) :
    f.format t.song = f.format t'.song ∧
      ((∀ name, Declared engine kind f.tags nodes name → name ∈ TagTable.sortable →
        t.get? (name ++ "sort") = t'.get? (name ++ "sort")) →
      f.formatList t.song = f.formatList t'.song) := by
  obtain ⟨nodes', parsed', rfl, _⟩ := build_eq_ok_iff.mp hf
  cases Except.ok.inj (parsed.symm.trans parsed')
  have parts {name : String} (h : LooksUp engine nodes name) :
      ∀ part ∈ tagParts name, t.get? part = t'.get? part :=
    fun part hp => same part (declared_of_looksUp h hp)
  have queries (text : String) (q : Query) (h : .predicate text ∈ mentionsOf nodes)
      (hq : Query.read? engine text = some q) : t.get? q.tag = t'.get? q.tag :=
    same _ (.queried h hq)
  have post (text : String) : (kind.build settings p).post text t.song =
      (kind.build settings p).post text t'.song :=
    PolicyKind.post_congr (fun file => same _ (.extension file)) text
  constructor
  · refine format_congr (fragments_congr ?_ queries) post
    intro name h
    have joined : t.joined name = t'.joined name :=
      TagTable.joined_congr (TagTable.get?_congr (isName_of_looksUp parsed h) (parts h))
    exact congrArg (fun value : Value => Fragment.text (Policy.value _ name value.display)) joined
  · intro sort
    refine formatList_congr (fragments_congr ?_ queries) post
    intro name h
    exact congrArg Fragment.values (pairs_source_congr (isName_of_looksUp parsed h) (parts h)
      fun part hp => sort part (declared_of_looksUp h hp))

def titleBelowArtist : List Node :=
  [.text "/", .condition "artist=\"Foo\"" [.tag "artist"] (some [.text "x"]), .text "/",
    .tag "title"]

theorem parse_titleBelowArtist :
    Pattern.parse "/<artist=\"Foo\"|<artist>|x>/<title>" = .ok titleBelowArtist :=
  Pattern.parse_of_print (by decide +kernel) (by decide +kernel)

theorem query_titleBelowArtist :
    Query.read? Regex.engine "artist=\"Foo\"" = some (.equals "artist" "Foo") := rfl

theorem predicate_titleBelowArtist {text : String}
    (h : .predicate text ∈ mentionsOf titleBelowArtist) : text = "artist=\"Foo\"" := by
  simpa [titleBelowArtist, mentionsOf, Node.mentions] using h

/-- Nobody looks at the comment. -/
theorem format_eq_comment :
    let p : Platform := ⟨.unix, none⟩
    let t (comment : String) : TagTable := .ofList [("artist", .text "Foo"), ("title", .text "Bar"),
      ("~filename", .text "/a/b.MP3"), ("comment", .text comment)]
    ∃ f, build "/<artist=\"Foo\"|<artist>|x>/<title>" (PolicyKind.file.build {} p)
        (Query.parser Regex.engine) = .ok f ∧
      (∀ name, Declared Regex.engine .file f.tags titleBelowArtist name →
        name ∈ ["artist", "title", "~filename"]) ∧
      f.format (t "one").song = .ok "/Foo/Bar.mp3" ∧ f.format (t "two").song = .ok "/Foo/Bar.mp3" ∧
      f.formatList (t "one").song = f.formatList (t "two").song := by
  intro p t
  let policy := PolicyKind.file.build {} p
  let f := ofNodes "/<artist=\"Foo\"|<artist>|x>/<title>" policy (Query.parser Regex.engine)
    titleBelowArtist
  have tried : f.format .standIn = .ok "/x/_" := by decide +kernel
  have hf :
      build "/<artist=\"Foo\"|<artist>|x>/<title>" policy (Query.parser Regex.engine) = .ok f :=
    build_eq_ok_iff.mpr ⟨_, parse_titleBelowArtist, rfl, _, tried⟩
  have tags : f.tags = ["artist", "title"] := by decide +kernel
  have declared : ∀ name, Declared Regex.engine .file f.tags titleBelowArtist name →
      name ∈ ["artist", "title", "~filename"] := by
    intro name h
    cases h with
    | shown h =>
      rw [tags] at h
      exact List.subset_append_left ["artist", "title"] ["~filename"] h
    | tested mentioned plain _ =>
      cases predicate_titleBelowArtist mentioned
      cases plain.symm.trans query_titleBelowArtist
    | queried mentioned hq =>
      cases predicate_titleBelowArtist mentioned
      cases Option.some.inj (hq.symm.trans query_titleBelowArtist)
      decide
    | extension _ => decide
  have same : ∀ name, Declared Regex.engine .file f.tags titleBelowArtist name →
      (t "one").get? name = (t "two").get? name := by
    intro name h
    obtain rfl | rfl | rfl : name = "artist" ∨ name = "title" ∨ name = "~filename" := by
      simpa using declared name h
    all_goals rfl
  have sort : ∀ name, Declared Regex.engine .file f.tags titleBelowArtist name →
      name ∈ TagTable.sortable → (t "one").get? (name ++ "sort") = (t "two").get? (name ++ "sort") := by
    intro name h sorts
    obtain rfl | rfl | rfl : name = "artist" ∨ name = "title" ∨ name = "~filename" := by
      simpa using declared name h
    · rfl
    · rfl
    · exact absurd sorts (by decide)
  obtain ⟨one, all⟩ := format_eq_of_declared hf parse_titleBelowArtist same
  have first : f.format (t "one").song = .ok "/Foo/Bar.mp3" := by decide +kernel
  exact ⟨f, hf, declared, first, one.symm.trans first, all sort⟩

end Formatter

end SongPattern
