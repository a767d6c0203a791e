import SongPattern.Cache
import SongPattern.Proofs.Cache.Recency

namespace SongPattern.Cache

open Recency (renew)

section Entries

variable {entries : List (CacheKey × CacheEntry)} {key other : CacheKey}
  {order : List CacheKey}

theorem isSome_lookup_iff : (entries.lookup key).isSome = true ↔ key ∈ entries.map (·.1) := by
  rw [List.lookup_isSome_iff, List.mem_map]
  exact exists_congr fun entry => and_congr_right fun _ => by rw [beq_iff_eq, eq_comm]

theorem lookup_filter (p : CacheKey → Bool) :
    (entries.filter fun entry => p entry.1).lookup key =
      if p key then entries.lookup key else none := by
  induction entries with
  | nil => simp
  | cons entry entries ih =>
    obtain ⟨k, e⟩ := entry
    rw [List.filter_cons, List.lookup_cons]
    by_cases hk : key = k
    · subst hk
      cases hp : p key with
      | true => simp
      | false => simpa [hp] using ih
    · have differ : (key == k) = false := beq_eq_false_iff_ne.mpr hk
      rw [differ]
      cases p k with
      | true => simpa [List.lookup_cons, differ] using ih
      | false => simpa using ih

theorem perm_filter (same : (entries.map (·.1)).Perm order) (p : CacheKey → Bool) :
    ((entries.filter fun entry => p entry.1).map (·.1)).Perm (order.filter p) :=
  (List.Perm.of_eq List.filter_map.symm).trans (same.filter p)

theorem perm_remove (same : (entries.map (·.1)).Perm (key :: order)) (fresh : key ∉ order) :
    ((remove key entries).map (·.1)).Perm order := by
  have rest : (key :: order).filter (fun k => decide (k ≠ key)) = order := by
    rw [List.filter_cons_of_neg (by simp)]
    exact List.filter_eq_self.mpr fun k hk => decide_eq_true fun e => fresh (e ▸ hk)
  exact rest ▸ perm_filter same fun k => decide (k ≠ key)

theorem lookup_insert (e : CacheEntry) :
    (insert key e entries).lookup other = if other = key then some e else entries.lookup other := by
  rw [insert, List.lookup_cons]
  by_cases h : other = key
  · subst h
    simp
  · have differ : (other == key) = false := beq_eq_false_iff_ne.mpr h
    rw [differ, if_neg h, remove, lookup_filter (fun k => decide (k ≠ key)),
      if_pos (by simpa using h)]

/-- What is left is the end of the order, with its entries. -/
theorem makeRoom_eq (same : (entries.map (·.1)).Perm order) (h : order.Nodup) (n : Nat) :
    makeRoom (n + 1) entries order =
      (entries.filter (fun entry => decide (entry.1 ∈ order.rtake n)), order.rtake n) := by
  induction order generalizing entries with
  | nil =>
    have none : entries = [] := List.map_eq_nil_iff.mp (List.perm_nil.mp same)
    rw [none, makeRoom, List.rtake_nil, List.filter_nil]
  | cons oldest order ih =>
    obtain ⟨fresh, nodup⟩ := List.nodup_cons.mp h
    have length : entries.length = order.length + 1 := by simpa using same.length_eq
    rw [makeRoom]
    split
    next room =>
      rw [Recency.rtake_of_length_le (by rw [List.length_cons]; omega), List.filter_eq_self.mpr]
      intro entry he
      exact decide_eq_true (same.subset (List.mem_map_of_mem he))
    next full =>
      rw [ih (perm_remove same fresh) nodup, Recency.rtake_cons (by omega), remove,
        List.filter_filter]
      congr 1
      apply List.filter_congr
      intro entry _
      have dropped : oldest ∉ order.rtake n :=
        fun ho => fresh ((Recency.rtake_suffix n order).subset ho)
      by_cases he : entry.1 = oldest
      · simp [he, dropped]
      · simp [he]

end Entries

/-- What holds of every cache: both parts have the same keys, and an entry is what building its key
gives. -/
structure Sound (c : Cache) : Prop where
  perm : (c.entries.map (·.1)).Perm c.order
  nodup : c.order.Nodup
  bounded : c.order.length ≤ c.capacity
  serial_lt : ∀ {key e}, c.find? key = some e → e.serial < c.built
  build_eq : ∀ {key e}, c.find? key = some e →
    key.build c.settings c.platform c.parser = .ok e.formatter

/-- What a get that succeeds does to a cache. -/
structure Renewed (c : Cache) (key : CacheKey) (e : CacheEntry) (c' : Cache) : Prop where
  settings : c'.settings = c.settings
  platform : c'.platform = c.platform
  parser : c'.parser = c.parser
  order : c'.order = renew c.capacity key c.order
  perm : (c'.entries.map (·.1)).Perm c'.order
  found : c'.find? key = some e
  kept : ∀ {other}, other ≠ key → other ∈ c'.order → c'.find? other = c.find? other
  built : c.built ≤ c'.built
  serial_lt : e.serial < c'.built
  old : ∀ {e'}, c.find? key = some e' → e = e'
  fresh : c.find? key = none → e.serial = c.built
  build_eq : key.build c.settings c.platform c.parser = .ok e.formatter

variable {c c' : Cache} {key other : CacheKey} {e : CacheEntry}

theorem empty_sound (settings : Settings) (platform : Platform) (parser : QueryParser) :
    (empty settings platform parser).Sound where
  perm := .nil
  nodup := .nil
  bounded := Nat.zero_le _
  serial_lt := nofun
  build_eq := nofun

theorem capacity_pos (c : Cache) : 0 < c.capacity :=
  Nat.lt_of_lt_of_le Nat.one_pos (Nat.le_max_left 1 _)

/-- The keys that stay where one is added. -/
def recent (c : Cache) : List CacheKey := c.order.rtake (c.capacity - 1)

def recentEntries (c : Cache) : List (CacheKey × CacheEntry) :=
  c.entries.filter fun entry => decide (entry.1 ∈ c.recent)

theorem recent_suffix (c : Cache) : c.recent <:+ c.order := Recency.rtake_suffix _ _

theorem lookup_recent (h : key ∈ c.recent) : c.recentEntries.lookup key = c.find? key := by
  rw [recentEntries, lookup_filter fun k => decide (k ∈ c.recent), if_pos (decide_eq_true h), find?]

namespace Sound

theorem isSome_find?_iff (h : c.Sound) : (c.find? key).isSome = true ↔ key ∈ c.order := by
  rw [find?, isSome_lookup_iff]
  exact h.perm.mem_iff

theorem find?_eq_none_iff (h : c.Sound) : c.find? key = none ↔ key ∉ c.order := by
  rw [← h.isSome_find?_iff, Option.not_isSome_iff_eq_none]

theorem touch_eq (h : c.Sound) (hk : key ∈ c.order) :
    touch key c.order = renew c.capacity key c.order := by
  have length := List.length_erase_of_mem hk
  have bounded := h.bounded
  rw [touch, if_pos hk, renew, Recency.rtake_of_length_le (by omega)]

theorem makeRoom_eq (h : c.Sound) :
    makeRoom c.capacity c.entries c.order = (c.recentEntries, c.recent) := by
  obtain ⟨n, hn⟩ := Nat.exists_eq_succ_of_ne_zero c.capacity_pos.ne'
  rw [recentEntries, recent, hn]
  exact Cache.makeRoom_eq h.perm h.nodup n

theorem perm_recent (h : c.Sound) : (c.recentEntries.map (·.1)).Perm c.recent := by
  have members : (c.order.filter fun k => decide (k ∈ c.recent)).Perm c.recent := by
    rw [List.perm_ext_iff_of_nodup (h.nodup.filter _) (h.nodup.sublist c.recent_suffix.sublist)]
    intro k
    rw [List.mem_filter, decide_eq_true_iff]
    exact and_iff_right_of_imp fun hk => c.recent_suffix.subset hk
  exact (perm_filter h.perm _).trans members

theorem remove_recent (h : c.Sound) (absent : key ∉ c.order) :
    remove key c.recentEntries = c.recentEntries := by
  refine List.filter_eq_self.mpr fun entry he => decide_eq_true ?_
  rintro rfl
  exact absent (c.recent_suffix.subset (h.perm_recent.subset (List.mem_map_of_mem he)))

theorem renewed_hit (h : c.Sound) (he : c.find? key = some e) :
    c.Renewed key e { c with order := touch key c.order } := by
  have hk : key ∈ c.order := h.isSome_find?_iff.mp (Option.isSome_of_eq_some he)
  exact {
    settings := rfl
    platform := rfl
    parser := rfl
    order := h.touch_eq hk
    perm := by
      rw [touch, if_pos hk]
      exact h.perm.trans ((List.perm_cons_erase hk).trans (List.perm_append_singleton key _).symm)
    found := he
    kept := fun _ _ => rfl
    built := Nat.le_refl _
    serial_lt := h.serial_lt he
    old := fun he' => Option.some.inj (he.symm.trans he')
    fresh := fun hn => absurd (he.symm.trans hn) (Option.some_ne_none e)
    build_eq := h.build_eq he }

theorem renewed_store (h : c.Sound) (hn : c.find? key = none) {formatter : Formatter}
    (hb : key.build c.settings c.platform c.parser = .ok formatter) :
    c.Renewed key (c.store key formatter).1 (c.store key formatter).2 := by
  have absent : key ∉ c.order := h.find?_eq_none_iff.mp hn
  rw [store, h.makeRoom_eq]
  exact {
    settings := rfl
    platform := rfl
    parser := rfl
    order := by rw [recent, renew, List.erase_of_not_mem absent]
    perm := by
      dsimp only
      rw [insert, h.remove_recent absent]
      exact (h.perm_recent.cons key).trans (List.perm_append_singleton key _).symm
    found := by
      rw [find?, lookup_insert, if_pos rfl]
    kept := fun differ hk => by
      have stays := (List.mem_append.mp hk).resolve_right (mt List.mem_singleton.mp differ)
      rw [find?, lookup_insert, if_neg differ, lookup_recent stays]
    built := Nat.le_succ _
    serial_lt := Nat.lt_succ_self _
    old := fun he' => absurd (hn.symm.trans he') nofun
    fresh := fun _ => rfl
    build_eq := hb }

/-- A get either succeeds, in one of two ways, or changes nothing. -/
theorem get_cases (h : c.Sound) (key : CacheKey) :
    (∃ e c', c.get key.kind key.pattern = (.ok e, c') ∧ c.Renewed key e c') ∨
      ∃ cause, c.get key.kind key.pattern = (.error cause, c) ∧
        key.build c.settings c.platform c.parser = .error cause := by
  rw [get]
  cases he : c.find? key with
  | some e => exact .inl ⟨e, _, rfl, h.renewed_hit he⟩
  | none =>
    cases hb : key.build c.settings c.platform c.parser with
    | ok formatter => exact .inl ⟨_, _, rfl, h.renewed_store he hb⟩
    | error cause => exact .inr ⟨cause, rfl, rfl⟩

theorem renewed_of_get (h : c.Sound) (got : c.get key.kind key.pattern = (.ok e, c')) :
    c.Renewed key e c' := by
  rcases h.get_cases key with ⟨e', c'', got', renewed⟩ | ⟨cause, got', _⟩
  · obtain ⟨⟨⟩, rfl⟩ := Prod.mk.inj (got'.symm.trans got)
    exact renewed
  · cases got'.symm.trans got

/-- A get that fails leaves the cache as it was. -/
theorem eq_of_get_error (h : c.Sound) {cause : PatternError}
    (got : c.get key.kind key.pattern = (.error cause, c')) : c' = c := by
  rcases h.get_cases key with ⟨e, c'', got', _⟩ | ⟨cause', got', _⟩
  · cases got'.symm.trans got
  · exact (Prod.mk.inj (got'.symm.trans got)).2.symm

theorem of_renewed (h : c.Sound) (r : c.Renewed key e c') : c'.Sound := by
  have same : c'.capacity = c.capacity := by rw [capacity, r.settings, capacity]
  have all {other e'} (he' : c'.find? other = some e') :
      other = key ∧ e' = e ∨ c.find? other = some e' := by
    by_cases differ : other = key
    · subst differ
      exact .inl ⟨rfl, Option.some.inj (he'.symm.trans r.found)⟩
    · have hk : other ∈ c'.order :=
        r.perm.subset (isSome_lookup_iff.mp (Option.isSome_of_eq_some he'))
      exact .inr ((r.kept differ hk).symm.trans he')
  exact {
    perm := r.perm
    nodup := r.order ▸ Recency.nodup_renew _ h.nodup
    bounded := by
      rw [r.order, same]
      exact Recency.length_renew_le c.capacity_pos key c.order
    serial_lt := fun he' => by
      rcases all he' with ⟨rfl, rfl⟩ | he'
      · exact r.serial_lt
      · exact (h.serial_lt he').trans_le r.built
    build_eq := fun he' => by
      rw [r.settings, r.platform, r.parser]
      rcases all he' with ⟨rfl, rfl⟩ | he'
      · exact r.build_eq
      · exact h.build_eq he' }

end Sound

end SongPattern.Cache
