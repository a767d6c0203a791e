import SongPattern.Proofs.Policy.Segments

namespace SongPattern.FilePath

variable {p : Platform} {options : PathOptions} {keep : Bool} {song : Song} {value : Value}
  {c : Char} {path stem front ext : List Char} {text : String}

/-- A dot, and neither a dot nor a slash behind it. -/
def Dotted (ext : List Char) : Prop := ∃ kind, ext = '.' :: kind ∧ '.' ∉ kind ∧ '/' ∉ kind

theorem Dotted.no_slash (h : Dotted ext) : '/' ∉ ext := by
  obtain ⟨kind, same, -, flat⟩ := h
  simp [same, flat]

theorem free_of_not_mem {stop : Char} (h : stop ∉ path) :
    ∀ c ∈ path, decide (c = stop) = false := by
  intro c hc
  rw [decide_eq_false_iff_not]
  intro same
  rw [same] at hc
  exact h hc

theorem Dotted.afterLast (h : Dotted ext) (front : List Char) :
    '.' :: Text.afterLast (· = '.') (front ++ ext) = ext := by
  obtain ⟨kind, same, dotless, -⟩ := h
  rw [same, Text.afterLast_append_cons (by simp), Text.afterLast_of_free (free_of_not_mem dotless)]

/-- The extension starts at the last dot where something other than dots stands before it. -/
theorem Dotted.extension (h : Dotted ext) (named : ∃ c ∈ stem, c ≠ '.') :
    extension (stem ++ ext) = ext := by
  have last := h.afterLast stem
  have length : (Text.afterLast (· = '.') (stem ++ ext)).length + 1 = ext.length :=
    congrArg List.length last
  have whole : (stem ++ ext).length = stem.length + ext.length := List.length_append
  have behind : (stem ++ ext).length - (Text.afterLast (· = '.') (stem ++ ext)).length - 1 =
      stem.length := by omega
  have shorter : (Text.afterLast (· = '.') (stem ++ ext)).length < (stem ++ ext).length := by
    omega
  have other : stem.any (· ≠ '.') = true := by simpa using named
  rw [FilePath.extension, behind, List.take_left, other, last]
  simp only [shorter, decide_true, Bool.and_true, if_true]

theorem Dotted.lower (h : Dotted ext) : Dotted (Text.lowerBehind [] ext) := by
  obtain ⟨kind, same, dotless, flat⟩ := h
  have dot : Text.Lowered '.' := Text.lowered_of_mem_signs (by decide)
  rw [same, Text.lowerBehind_cons dot]
  refine ⟨_, rfl, ?_, ?_⟩
  · exact fun h => dotless (Text.mem_of_mem_lowerBehind h (by decide) (by decide))
  · exact fun h => flat (Text.mem_of_mem_lowerBehind h (by decide) (by decide))

/-- Nothing else is lowered to a dot or a slash. -/
theorem dotted_of_lower (h : Dotted (Text.lowerBehind [] ext)) : Dotted ext := by
  obtain ⟨kind, lowered, dotless, flat⟩ := h
  have dot : Text.Lowered '.' := Text.lowered_of_mem_signs (by decide)
  have slash : Text.Lowered '/' := Text.lowered_of_mem_signs (by decide)
  obtain ⟨tail, same⟩ := Text.head_of_lowerBehind lowered (by decide) (by decide)
  rw [same, Text.lowerBehind_cons dot] at lowered
  have rest : Text.lowerBehind ['.'] tail = kind := (List.cons.inj lowered).2
  rw [← rest] at dotless flat
  exact ⟨tail, same, fun h => dotless (Text.mem_lowerBehind dot h),
    fun h => flat (Text.mem_lowerBehind slash h)⟩

theorem isSeparator_unix (unix : p.family = .unix) (c : Char) :
    p.isSeparator c = decide (c = '/') := by
  simp [Platform.isSeparator, separator_unix unix, unix]

theorem songExtension?_eq (unix : p.family = .unix) (file : song.get "~filename" = some value)
    (name : value.display.toList = front ++ ext) (h : Dotted ext) :
    songExtension? p song = some (Text.lowerBehind [] ext) := by
  have free : ∀ c ∈ ext, p.isSeparator c = false := by
    intro c hc
    rw [isSeparator_unix unix]
    exact free_of_not_mem h.no_slash c hc
  have segment := Text.afterLast_append free front
  have last := h.afterLast (Text.afterLast p.isSeparator front)
  have dotted : '.' ∈ Text.afterLast p.isSeparator front ++ ext := by
    obtain ⟨kind, same, -⟩ := h
    simp [same]
  rw [songExtension?, file]
  simp only [Option.bind_eq_bind, Option.bind_some, name, segment, last, List.contains_iff_mem,
    dotted, if_true]

/-- A home directory takes the place of the first segment, so the last one is as before. -/
theorem afterLast_expandHome (unix : p.family = .unix) (other : path ≠ ['~']) :
    Text.afterLast (· = '/') (p.expandHome path) = Text.afterLast (· = '/') path := by
  rw [Platform.expandHome.eq_def]
  split
  next dir rest known =>
    cases rest with
    | nil => exact absurd rfl other
    | cons c rest =>
      split
      next lone =>
        have root : c = '/' := by
          simpa [Platform.startsAtSeparator, isSeparator_unix unix] using lone
        have tilde : '~' :: c :: rest = ['~'] ++ c :: rest := rfl
        rw [tilde, Text.afterLast_append_cons (by simpa using root),
          Text.afterLast_append_cons (by simpa using root)]
      · rfl
  · rfl

/-- What the last segment of the path ends in is its extension, and is not cut. -/
theorem Dotted.suffix_of_finish (h : Dotted ext) (unix : p.family = .unix) (some : text ≠ "")
    (named : ∃ c ∈ stem, c ≠ '.')
    (last : Text.afterLast (· = '/') (pathOf keep p song text) = stem ++ ext) {path : String}
    (hp : finish keep options p text song = .ok path) : ext <:+ path.toList := by
  have other : pathOf keep p song text ≠ ['~'] := by
    intro tilde
    have dot : '.' ∈ stem ++ ext := by
      obtain ⟨kind, same, -⟩ := h
      simp [same]
    rw [← last, tilde] at dot
    revert dot
    decide
  have safe : makeSafe p (pathOf keep p song text) = pathOf keep p song text := by
    rw [makeSafe, unix]
  have segment := afterLast_expandHome unix other
  have full : (splitExtension (fullPath keep p song text) '/').2 = ext := by
    rw [fullPath, safe, splitExtension, segment, last, h.extension named]
  have kept := extension_suffix_limitPath (.ofList (fullPath keep p song text)) '/'
    options.maxSegment options.ellipsis
  rw [String.toList_ofList, full] at kept
  rw [eq_of_finish hp some, separator_unix unix]
  exact kept

/-- The last characters of the text, as many as the extension has. -/
def ending (text ext : String) : String :=
  .ofList (text.toList.drop (text.length - ext.length))

theorem appendExtension_of_eq {e : List Char} (known : songExtension? p song = some e)
    (text : String) :
    appendExtension p song text.toList =
      (if Text.lower (ending text (.ofList e)) = .ofList e then text
        else text ++ .ofList e).toList := by
  have tail : Text.lower (ending text (.ofList e)) = .ofList e ↔
      Text.lowerBehind [] (text.toList.drop (text.toList.length - e.length)) = e := by
    rw [Text.lower, ending, String.toList_ofList, String.ofList_inj, String.length_ofList,
      String.length_toList]
  rw [appendExtension, known]
  simp only [tail]
  split
  · rfl
  · rw [String.toList_append, String.toList_ofList]

theorem finish_of_extension {e : List Char} (known : songExtension? p song = some e)
    (some : text ≠ "") :
    finish true options p text song =
      finish false options p
        (if Text.lower (ending text (.ofList e)) = .ofList e then text else text ++ .ofList e)
        song := by
  have full : (if Text.lower (ending text (.ofList e)) = .ofList e then text
      else text ++ .ofList e) ≠ "" := by
    split
    · exact some
    · intro empty
      exact some (String.append_eq_empty_iff.mp empty).1
  rw [finish, finish, if_neg some, if_neg full, if_pos rfl, appendExtension_of_eq known]
  rfl

/-- A segment that does not start with a dot has something in front of its last one. -/
theorem exists_named (start : (stem ++ ext).head? = some c) (other : c ≠ '.') (h : Dotted ext) :
    ∃ c ∈ stem, c ≠ '.' := by
  obtain ⟨kind, same, -⟩ := h
  cases stem with
  | nil =>
    rw [same] at start
    exact absurd (Option.some.inj start).symm other
  | cons d stem =>
    have first : d = c := Option.some.inj start
    exact ⟨c, by simp [first], other⟩

/-- A path gets the extension of the song's file unless it ends in it already, in whatever case. The
path that is made of it still ends in that extension, whatever is cut off. -/
theorem finish_extension (unix : p.family = .unix) (file : song.get "~filename" = some value)
    {kind : List Char} (name : value.display.toList = front ++ '.' :: kind)
    (dotless : '.' ∉ kind) (flat : '/' ∉ kind)
    (start : (Text.afterLast (· = '/') text.toList).head? = some c) (other : c ≠ '.')
    (options : PathOptions) :
    let ext := Text.lower (.ofList ('.' :: kind))
    let own := Text.lower (ending text ext) = ext
    (Policy.filePath true options p).post text song =
        (Policy.filePath false options p).post (if own then text else text ++ ext) song ∧
      ∀ path, (Policy.filePath true options p).post text song = .ok path →
        ∃ suffix : String, suffix.toList <:+ path.toList ∧ Text.lower suffix = ext := by
  intro ext own
  have dotted : Dotted ('.' :: kind) := ⟨kind, rfl, dotless, flat⟩
  have known := songExtension?_eq unix file name dotted
  have chars : Text.lowerBehind [] ('.' :: kind) = ext.toList := by
    simp [ext, Text.lower]
  rw [chars] at known
  have lowered : Dotted ext.toList := by
    rw [← chars]
    exact dotted.lower
  have some : text ≠ "" := by
    intro empty
    simp [empty, Text.afterLast] at start
  have finished := @finish_of_extension p options song text _ known some
  have appended := appendExtension_of_eq known text
  have post (keep : Bool) : (Policy.filePath keep options p).post = finish keep options p := rfl
  rw [String.ofList_toList] at finished appended
  rw [post, post]
  refine ⟨finished, ?_⟩
  intro path hp
  by_cases kept : own
  · -- the text is left as it is, and its own end is found again as the extension
    have whole : text.toList = text.toList.take (text.length - ext.length) ++
        (ending text ext).toList := by
      rw [ending, String.toList_ofList, List.take_append_drop]
    have tail : Dotted (ending text ext).toList := by
      apply dotted_of_lower
      have same := congrArg String.toList kept
      rw [Text.lower, String.toList_ofList] at same
      rwa [same]
    have last := Text.afterLast_append (free_of_not_mem tail.no_slash)
      (text.toList.take (text.length - ext.length))
    rw [← whole] at last
    have named := exists_named (last ▸ start) other tail
    rw [if_pos kept] at appended
    refine ⟨ending text ext, tail.suffix_of_finish unix some named ?_ hp, kept⟩
    rw [pathOf, if_pos rfl, appended, last]
  · have last := Text.afterLast_append (free_of_not_mem lowered.no_slash) text.toList
    have named : ∃ c ∈ Text.afterLast (· = '/') text.toList, c ≠ '.' :=
      ⟨c, List.mem_of_head? start, other⟩
    rw [if_neg kept, String.toList_append] at appended
    refine ⟨ext, lowered.suffix_of_finish unix some named ?_ hp, Text.lower_lower _⟩
    rw [pathOf, if_pos rfl, appended, last]

/-- With a limit that the extension alone exceeds, nothing else is left of the name. -/
theorem finish_extension_home :
    let p : Platform := ⟨.unix, some "/home/me"⟩
    let post := (Policy.filePath true ⟨false, 3⟩ p).post
    let file : Value := .text "/a.b/x.y.MP3"
    let song : Song := { Song.standIn with get := fun _ => some file }
    file.display.toList = "/a.b/x.y".toList ++ '.' :: "MP3".toList ∧
      (post "~/Foo" song = .ok "/hom/me/.mp3" ∧
        ∃ suffix : String, suffix.toList <:+ "/hom/me/.mp3".toList ∧ Text.lower suffix = ".mp3") ∧
      post "~/Foo.Mp3" song = .ok "/hom/me/.Mp3" ∧
        ∃ suffix : String, suffix.toList <:+ "/hom/me/.Mp3".toList ∧ Text.lower suffix = ".mp3" := by
  intro p post file song
  have name : file.display.toList = "/a.b/x.y".toList ++ '.' :: "MP3".toList := by decide +kernel
  have ext : Text.lower (.ofList ('.' :: "MP3".toList)) = ".mp3" := by decide +kernel
  have added : post "~/Foo" song = .ok "/hom/me/.mp3" := by decide +kernel
  have kept : post "~/Foo.Mp3" song = .ok "/hom/me/.Mp3" := by decide +kernel
  have start : (Text.afterLast (· = '/') "~/Foo".toList).head? = some 'F' := by decide +kernel
  have start' : (Text.afterLast (· = '/') "~/Foo.Mp3".toList).head? = some 'F' := by decide +kernel
  have ends := (@finish_extension p song file 'F' _ _ rfl rfl _ name (by decide) (by decide) start
    (by decide) ⟨false, 3⟩).2 _ added
  have ends' := (@finish_extension p song file 'F' _ _ rfl rfl _ name (by decide) (by decide) start'
    (by decide) ⟨false, 3⟩).2 _ kept
  rw [ext] at ends ends'
  exact ⟨name, ⟨added, ends⟩, kept, ends'⟩

end SongPattern.FilePath
