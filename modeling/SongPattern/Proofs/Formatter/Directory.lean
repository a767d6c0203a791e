import SongPattern.Proofs.Formatter.Parts
import SongPattern.Proofs.Pattern.RoundTrip
import SongPattern.Proofs.Policy.Segments

namespace SongPattern

open Pattern (Node mentionsOf)
open Program (Origin)

namespace FilePath

variable {p : Platform} {options : PathOptions} {keep : Bool} {song : Song} {text : String}

/-- An extension starts with its dot. -/
theorem songExtension?_dot {ext : List Char} (h : songExtension? p song = some ext) :
    ∃ rest, ext = '.' :: rest := by
  obtain ⟨value, _, h⟩ := Option.bind_eq_some_iff.mp h
  simp only at h
  split at h
  · cases h
    have dot : Text.Lowered '.' := Text.lowered_of_mem_signs (by decide)
    exact ⟨_, Text.lowerBehind_cons dot _ _⟩
  · cases h

theorem pathOf_eq_tilde_iff : pathOf keep p song text = ['~'] ↔
    text = "~" ∧ (keep = true → songExtension? p song = none) := by
  have alone : text.toList = ['~'] ↔ text = "~" := @String.toList_inj text "~"
  cases keep with
  | false => simp [pathOf, alone]
  | true =>
    rw [pathOf, if_pos rfl, appendExtension]
    cases known : songExtension? p song with
    | none => simp [alone]
    | some ext =>
      obtain ⟨rest, rfl⟩ := songExtension?_dot known
      refine iff_of_false ?_ (fun h => by cases h.2 rfl)
      simp only
      split
      next same =>
        intro tilde
        rw [tilde] at same
        have kept : ['~'].drop (['~'].length - ('.' :: rest).length) = ['~'] := by simp
        have first : Text.lowerBehind [] ['~'] = ['~'] := by decide +kernel
        rw [kept, first] at same
        cases same
      next =>
        intro tilde
        rcases List.append_eq_singleton_iff.mp tilde with ⟨_, behind⟩ | ⟨_, behind⟩
        · cases behind
        · cases behind

/-- Without a separator of its own, a path gets one from the home directory alone. -/
theorem sep_mem_fullPath_iff (unix : p.family = .unix)
    (absolute : ∀ dir, p.home = some dir → p.isAbsolute dir = true)
    (fresh : p.separator ∉ pathOf keep p song text) :
    p.separator ∈ fullPath keep p song text ↔
      pathOf keep p song text = ['~'] ∧ p.home ≠ none := by
  rw [fullPath]
  by_cases alone : pathOf keep p song text = ['~']
  · rw [alone, makeSafe_tilde]
    cases known : p.home with
    | none =>
      rw [expandHome_eq_self fun rest _ => .inl known]
      exact iff_of_false (sep_not_mem_tilde p) fun h => h.2 rfl
    | some dir =>
      obtain ⟨rest, chars⟩ := exists_cons_of_isAbsolute unix (absolute dir known)
      rw [expandHome_tilde known (.inl rfl), List.append_nil, chars]
      exact iff_of_true List.mem_cons_self ⟨rfl, nofun⟩
  · exact iff_of_false (expandHome_of_not_mem fresh alone) fun h => alone h.1

/-- A text without separators is accepted, and has none afterwards, unless it is a lone tilde that
stands for the home directory. -/
theorem finish_of_not_mem (unix : p.family = .unix)
    (absolute : ∀ dir, p.home = some dir → p.isAbsolute dir = true)
    (fresh : p.separator ∉ text.toList) :
    ∃ path, finish keep options p text song = .ok path ∧
      (p.separator ∈ path.toList ↔
        text = "~" ∧ (keep = true → songExtension? p song = none) ∧ p.home ≠ none) := by
  obtain ⟨ext, whole, bare⟩ := pathOf_eq keep p song text
  have inPath : p.separator ∉ pathOf keep p song text := by
    rw [whole, List.mem_append, not_or]
    exact ⟨fresh, bare⟩
  have accepted : Accepted options p (pathOf keep p song text) :=
    ⟨fun there => absurd there inPath,
      fun _ dir known _ => startsAtRoot_home_unix unix (absolute dir known)⟩
  obtain ⟨path, hpath⟩ := finish_isOk_iff.mpr (.inr accepted)
  refine ⟨path, hpath, ?_⟩
  by_cases empty : text = ""
  · subst empty
    have nothing : (.ok "" : Except PatternError String) = .ok path := hpath
    cases nothing
    exact iff_of_false List.not_mem_nil fun h => absurd h.1 (by decide)
  · rw [eq_of_finish hpath empty, limitPath, String.toList_ofList, String.toList_ofList,
      sep_mem_limitChars_iff (separator_ne_dot p), sep_mem_fullPath_iff unix absolute inPath,
      pathOf_eq_tilde_iff, and_assoc]

end FilePath

namespace Formatter

open FilePath (cleanValue songExtension?)

variable {pattern : String} {keep : Bool} {options : PathOptions} {p : Platform}
  {parser : QueryParser} {f : Formatter} {nodes : List Node} {song : Song}

theorem rendered_eq_textOf_parts (policy : Policy) :
    (ofNodes pattern policy parser nodes).rendered song =
      textOf ((policy.parts parser song nodes).map (policy.shown song)) :=
  congrArg textOf (policy.fragments_eq_shown parser song nodes)

/-- A character that no literal has comes from the value of a tag. -/
theorem exists_tag_of_mem {c : Char}
    (literals : ∀ s, .literal s ∈ mentionsOf nodes → c ∉ s.toList)
    (h : c ∈ ((ofNodes pattern (.filePath keep options p) parser nodes).rendered song).toList) :
    ∃ name, .tag name ∈ mentionsOf nodes ∧
      c ∈ (cleanValue p name (song.joined name).display).toList ∧
      (cleanValue p name (song.joined name).display).toList.Sublist
        ((ofNodes pattern (.filePath keep options p) parser nodes).rendered song).toList := by
  rw [rendered_eq_textOf_parts] at h ⊢
  obtain ⟨piece, hp, hc⟩ := mem_textOf_iff.mp h
  have whole := flat_sublist hp
  obtain ⟨o, ho, rfl⟩ := List.mem_map.mp hp
  have named := Policy.mention_of_parts ho
  cases o with
  | literal s => exact absurd hc (literals s named)
  | tag name => exact ⟨name, named, hc, whole⟩

/-- Where no literal has a separator or a tilde, a song is always rendered, and as a path of one
segment. The only exception is a lone tilde, which is then the value of a tag: it stands for the
home directory. -/
theorem format_slash_iff (hf : build pattern (.filePath keep options p) parser = .ok f)
    (unix : p.family = .unix)
    (absolute : ∀ dir, p.home = some dir → p.isAbsolute dir = true)
    (parsed : Pattern.parse pattern = .ok nodes)
    (literals : ∀ s, .literal s ∈ mentionsOf nodes → '/' ∉ s.toList ∧ '~' ∉ s.toList)
    (song : Song) :
    (∃ path, f.format song = .ok path ∧
      ('/' ∈ path.toList ↔ f.rendered song = "~" ∧
        (keep = true → songExtension? p song = none) ∧ p.home ≠ none)) ∧
    (f.rendered song = "~" → ∃ name, .tag name ∈ mentionsOf nodes ∧
      cleanValue p name (song.joined name).display = "~") := by
  obtain ⟨nodes', parsed', rfl, _⟩ := build_eq_ok_iff.mp hf
  have same : (Policy.filePath keep options p).preprocess pattern = pattern := by
    simp only [Policy.filePath, unix]
  rw [same] at parsed'
  cases parsed.symm.trans parsed'
  constructor
  · rw [← FilePath.separator_unix unix]
    refine FilePath.finish_of_not_mem unix absolute fun hs => ?_
    obtain ⟨name, _, inValue, _⟩ := exists_tag_of_mem (fun s hs' => by
      rw [FilePath.separator_unix unix]
      exact (literals s hs').1) hs
    exact FilePath.sep_not_mem_cleanValue p name _ inValue
  · intro tilde
    have there : '~' ∈ ((ofNodes pattern (.filePath keep options p) parser nodes).rendered
        song).toList := by
      rw [tilde]
      decide
    obtain ⟨name, named, inValue, part⟩ :=
      exists_tag_of_mem (fun s hs => (literals s hs).2) there
    rw [tilde] at part
    refine ⟨name, named, String.toList_inj.mp ?_⟩
    exact (List.sublist_singleton.mp part).resolve_left (List.ne_nil_of_mem inValue)

theorem parse_title : Pattern.parse "<title>" = .ok [.tag "title"] :=
  Pattern.parse_of_print (by decide +kernel) (by decide +kernel)

/-- The extension of the file keeps the tilde from standing alone. -/
theorem format_slash_tilde_file :
    let p : Platform := ⟨.unix, some "/home/me"⟩
    let song :=
      (TagTable.ofList [("title", .text " ~ "), ("~filename", .text "/a/b.MP3")]).song
    ∃ f, build "<title>" (.filePath true {} p) (Query.parser Regex.engine) = .ok f ∧
      p.isAbsolute "/home/me" = true ∧ (∀ s, .literal s ∉ mentionsOf [.tag "title"]) ∧
      f.rendered song = "~" ∧ f.format song = .ok "~.mp3" ∧ '/' ∉ "~.mp3".toList ∧
      cleanValue p "title" (song.joined "title").display = "~" := by
  intro p song
  let f := ofNodes "<title>" (.filePath true {} p) (Query.parser Regex.engine) [.tag "title"]
  have tried : f.format .standIn = .ok "_" := by decide +kernel
  have hf : build "<title>" (.filePath true {} p) (Query.parser Regex.engine) = .ok f :=
    build_eq_ok_iff.mpr ⟨_, parse_title, rfl, _, tried⟩
  have home : p.isAbsolute "/home/me" = true := by decide +kernel
  have absolute : ∀ dir, p.home = some dir → p.isAbsolute dir = true := by
    rintro dir ⟨⟩
    exact home
  have none : ∀ s, .literal s ∉ mentionsOf [.tag "title"] := by
    intro s
    simp [mentionsOf, Node.mentions]
  have tilde : f.rendered song = "~" := by decide +kernel
  have path : f.format song = .ok "~.mp3" := by decide +kernel
  obtain ⟨⟨path', same, slash⟩, value⟩ :=
    format_slash_iff hf rfl absolute parse_title (fun s hs => absurd hs (none s)) song
  cases Except.ok.inj (path.symm.trans same)
  have extension : songExtension? p song ≠ .none := by decide +kernel
  have title : cleanValue p "title" (song.joined "title").display = "~" := by
    obtain ⟨name, named, shown⟩ := value tilde
    cases (show name = "title" by simpa [mentionsOf, Node.mentions] using named)
    exact shown
  exact ⟨f, hf, home, none, tilde, path, fun h => extension ((slash.mp h).2.1 rfl), title⟩

/-- A song without a file is called by a tilde alone. -/
theorem format_slash_tilde :
    let p : Platform := ⟨.unix, some "/home/me"⟩
    let song := (TagTable.ofList [("title", .text "~")]).song
    ∃ f, build "<title>" (.filePath true {} p) (Query.parser Regex.engine) = .ok f ∧
      (∀ s, .literal s ∉ mentionsOf [.tag "title"]) ∧ f.format song = .ok "/home/me" ∧
      '/' ∈ "/home/me".toList := by
  intro p song
  let f := ofNodes "<title>" (.filePath true {} p) (Query.parser Regex.engine) [.tag "title"]
  have tried : f.format .standIn = .ok "_" := by decide +kernel
  have hf : build "<title>" (.filePath true {} p) (Query.parser Regex.engine) = .ok f :=
    build_eq_ok_iff.mpr ⟨_, parse_title, rfl, _, tried⟩
  have none : ∀ s, .literal s ∉ mentionsOf [.tag "title"] := by
    intro s
    simp [mentionsOf, Node.mentions]
  have path : f.format song = .ok "/home/me" := by decide +kernel
  exact ⟨f, hf, none, path, by decide⟩

end Formatter

end SongPattern
