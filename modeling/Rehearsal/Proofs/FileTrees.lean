import Mathlib.Data.List.Nodup
import Rehearsal.Proofs.FilePlaces

/-!
# Trees of files

In a tree as a file system has it, places are distinct and entries have the names of entries, so what
stands at a place is what is listed in its directory. Putting and erasing keep a tree like that.
-/

namespace Rehearsal

/-- A name that a file system accepts for an entry of a directory. -/
structure FileName (name : String) : Prop extends EntryName name where
  short : Files.tooLong name = false
  nonNull : '\x00' ∉ name.toList

instance (name : String) : Decidable (FileName name) :=
  decidable_of_iff (EntryName name ∧ Files.tooLong name = false ∧ '\x00' ∉ name.toList)
    ⟨fun ⟨entry, short, nonNull⟩ => ⟨entry, short, nonNull⟩,
      fun h => ⟨h.toEntryName, h.short, h.nonNull⟩⟩

namespace Files

variable {fs ft : Files} {p : Path} {dir place : Location} {name : String} {f : File} {n : Node}

/-- A tree as a file system has it. -/
structure Sound (fs : Files) : Prop where
  distinct : (fs.entries.map (·.1)).Nodup
  /-- The way down to the working directory is there without entries. -/
  off : ∀ e ∈ fs.entries, ¬ e.1 <+: fs.home
  named : ∀ e ∈ fs.entries, ∀ name ∈ e.1.getLast?, FileName name

instance (fs : Files) : Decidable fs.Sound :=
  decidable_of_iff ((fs.entries.map (·.1)).Nodup ∧ (∀ e ∈ fs.entries, ¬ e.1 <+: fs.home) ∧
      ∀ e ∈ fs.entries, ∀ name ∈ e.1.getLast?, FileName name)
    ⟨fun ⟨distinct, off, named⟩ => ⟨distinct, off, named⟩, fun h => ⟨h.distinct, h.off, h.named⟩⟩

lemma Sound.fileName (h : fs.Sound) (he : (dir ++ [name], n) ∈ fs.entries) : FileName name :=
  h.named _ he name (by simp)

lemma distinct_vacated (h : (fs.entries.map (·.1)).Nodup) (place : Location) :
    ((fs.entries.filter fun e => e.1 ≠ place).map (·.1)).Nodup :=
  h.sublist (List.filter_sublist.map _)

lemma Sound.erase (h : fs.Sound) (place : Location) : (fs.erase place).Sound where
  distinct := distinct_vacated h.distinct place
  off e he := h.off e (List.mem_filter.mp he).1
  named e he := h.named e (List.mem_filter.mp he).1

/-- A node may be put wherever there is no directory, under a name that an entry can have. -/
lemma Sound.put (h : fs.Sound) (vacant : fs.at? (dir ++ [name]) ≠ some .directory)
    (fit : FileName name) (n : Node) : (fs.put (dir ++ [name]) n).Sound where
  distinct := by
    have rest := distinct_vacated h.distinct (dir ++ [name])
    refine List.nodup_cons.mpr ⟨?_, rest⟩
    intro again
    obtain ⟨e, he, same⟩ := List.mem_map.mp again
    have other := (List.mem_filter.mp he).2
    simp [same] at other
  off := by
    intro e he
    rcases List.mem_cons.mp he with rfl | he
    · intro above
      exact vacant (if_pos (List.isPrefixOf_iff_prefix.mpr above))
    · exact h.off e (List.mem_filter.mp he).1
  named := by
    intro e he last hl
    rcases List.mem_cons.mp he with rfl | he
    · have own : name = last := by simpa using hl
      exact own ▸ fit
    · exact h.named e (List.mem_filter.mp he).1 last hl

/-- A way to a place without a directory ends with a name of its own that may stand there. -/
lemma Way.vacant {names : List String} (w : Way fs dir names place) (grounded : fs.Grounded dir)
    (vacant : fs.at? place ≠ some .directory) : ∃ above, ∃ name ∈ names,
      name ≠ ".." ∧ tooLong name = false ∧ place = above ++ [name] := by
  induction w with
  | here dir => exact absurd (grounded dir (List.prefix_refl _)) vacant
  | back onward ih =>
    obtain ⟨above, name, hn, fit⟩ := ih grounded.up vacant
    exact ⟨above, name, List.mem_cons_of_mem _ hn, fit⟩
  | last dir up short => exact ⟨dir, _, List.mem_singleton_self _, up, short, rfl⟩
  | down up short further through onward ih =>
    obtain ⟨above, name, hn, fit⟩ := ih (grounded.down through) vacant
    exact ⟨above, name, List.mem_cons_of_mem _ hn, fit⟩

/-- Where a proper path leads, a node may be put, unless there is a directory. -/
lemma Sound.put_located (h : fs.Sound) (proper : p.Proper) (hl : fs.locate p = .ok place)
    (vacant : fs.at? place ≠ some .directory) (n : Node) : (fs.put place n).Sound := by
  obtain ⟨above, name, own, up, short, rfl⟩ :=
    (locate_way hl).vacant (grounded_start fs p) vacant
  have entry : EntryName name := (proper name own).resolve_left up
  have nonNull : '\x00' ∉ name.toList := by
    unfold locate at hl
    split at hl
    · cases hl
    · next plain =>
      intro null
      exact plain (List.any_eq_true.mpr ⟨name, own, List.contains_iff_mem.mpr null⟩)
  exact h.put vacant ⟨entry, short, nonNull⟩ n

lemma Sound.write (h : fs.Sound) (proper : p.Proper) (hw : fs.write p f = .ok ft) : ft.Sound := by
  obtain ⟨place, found, vacant, rfl⟩ := write_ok hw
  exact h.put_located proper found vacant _

lemma Sound.makeOne (h : fs.Sound) (proper : p.Proper) (hm : fs.makeOne p = .ok ft) :
    ft.Sound := by
  unfold Files.makeOne at hm
  split at hm
  · cases hm
  · next place hl =>
    split at hm
    · cases hm
    · next vacant =>
      cases hm
      exact h.put_located proper hl (by simp [vacant]) _

lemma Sound.settle (h : fs.Sound) (proper : p.Proper) (hs : fs.settle p = .ok ft) :
    ft.Sound := by
  unfold Files.settle at hs
  split at hs
  · next made =>
    cases hs
    exact h.makeOne proper made
  · cases hs
  · obtain ⟨rfl, -⟩ := acceptExisting_ok hs
    exact h

lemma Sound.makeAll {anchor : Anchor} {names : List String} (h : fs.Sound)
    (proper : Path.Proper ⟨anchor, names.reverse⟩) (hm : fs.makeAll anchor names = .ok ft) :
    ft.Sound := by
  induction names generalizing ft with
  | nil => exact h.settle proper hm
  | cons name above ih =>
    have higher : Path.Proper ⟨anchor, above.reverse⟩ := fun n hn => proper n (by simp_all)
    unfold Files.makeAll at hm
    dsimp only at hm
    split at hm
    · next made =>
      cases hm
      exact h.makeOne proper made
    · split at hm
      · cases hm
      · next fu made => exact (ih higher made).settle proper hm
    · obtain ⟨rfl, -⟩ := acceptExisting_ok hm
      exact h

lemma Sound.makeDirectory (h : fs.Sound) (proper : p.Proper)
    (hm : fs.makeDirectory p = .ok ft) : ft.Sound := by
  refine h.makeAll ?_ hm
  rwa [List.reverse_reverse]

/-! What stands at a place. -/

lemma entry_of_file (h : fs.at? place = some (.file f)) : (place, .file f) ∈ fs.entries := by
  unfold at? at h
  split at h
  · cases h
  · obtain ⟨front, rest, entries, -⟩ := List.lookup_eq_some_iff.mp h
    rw [entries]
    exact List.mem_append_right _ (List.mem_cons_self ..)

lemma Sound.at?_entry (h : fs.Sound) (he : (place, n) ∈ fs.entries) : fs.at? place = some n := by
  have off : ¬ place <+: fs.home := h.off _ he
  obtain ⟨front, rest, entries⟩ := List.append_of_mem he
  have found : fs.entries.lookup place = some n := by
    refine List.lookup_eq_some_iff.mpr ⟨front, rest, entries, ?_⟩
    intro e inFront
    have distinct := h.distinct
    rw [entries, List.map_append, List.map_cons] at distinct
    have other : e.1 ≠ place := by
      intro same
      have apart := (List.nodup_append.mp distinct).2.2
      exact apart e.1 (List.mem_map_of_mem inFront) place (List.mem_cons_self ..) same
    simpa using other.symm
  unfold at?
  rw [if_neg (by simpa using off), found]

lemma Sound.file_iff (h : fs.Sound) :
    (place, .file f) ∈ fs.entries ↔ fs.at? place = some (.file f) :=
  ⟨h.at?_entry, entry_of_file⟩

/-! What a directory lists. -/

/-- A place in a directory is the directory with a name. -/
lemma place_in (last : place.getLast? = some name) (within : place.dropLast = dir) :
    place = dir ++ [name] := by
  obtain ⟨front, rfl⟩ := List.getLast?_eq_some_iff.mp last
  rw [List.dropLast_concat] at within
  rw [within]

lemma mem_namesIn : name ∈ fs.namesIn dir ↔ ∃ n, (dir ++ [name], n) ∈ fs.entries := by
  unfold namesIn
  rw [List.mem_filterMap]
  constructor
  · rintro ⟨⟨place, n⟩, he, shown⟩
    dsimp only at shown
    split at shown
    · next last hl =>
      split at shown
      · next within =>
        cases shown
        exact ⟨n, place_in hl within ▸ he⟩
      · cases shown
    · cases shown
  · rintro ⟨n, he⟩
    exact ⟨_, he, by simp⟩

/-- The file that a listing shows for an entry. -/
lemma shown_file {e : Location × Node} {g : String × File}
    (h : (match e.2, e.1.getLast? with
      | .file f, some name => if e.1.dropLast = dir then some (name, f) else none
      | _, _ => none) = some g) : e = (dir ++ [g.1], .file g.2) := by
  obtain ⟨place, n⟩ := e
  dsimp only at h
  split at h
  · next f name hl =>
    split at h
    · next within =>
      cases h
      rw [place_in hl within]
    · cases h
  · cases h

lemma mem_filesIn : (name, f) ∈ fs.filesIn dir ↔ (dir ++ [name], .file f) ∈ fs.entries := by
  unfold filesIn
  rw [List.mem_filterMap]
  constructor
  · rintro ⟨e, he, shown⟩
    rw [shown_file shown] at he
    exact he
  · intro he
    exact ⟨_, he, by simp⟩

/-- A directory lists each of its files once. -/
lemma Sound.filesIn_nodup (h : fs.Sound) (dir : Location) :
    ((fs.filesIn dir).map (·.1)).Nodup := by
  have distinct := h.distinct
  unfold filesIn
  rw [List.Nodup, List.pairwise_map] at distinct ⊢
  rw [List.pairwise_filterMap]
  refine distinct.imp ?_
  intro d e other f hf g hg same
  rw [shown_file hf, shown_file hg] at other
  exact other (by rw [same])

/-! Paths of entries. -/

/-- The path of an entry leads to it, unless the path is too long. -/
lemma locate_child (hl : fs.locate p = .ok dir) (hd : fs.at? dir = some .directory)
    (fit : FileName name) : fs.locate (p.child name) =
      if 4095 < (p.child name).text.utf8ByteSize then .error .nameTooLong
      else .ok (dir ++ [name]) := by
  have last : Way fs dir [name] (dir ++ [name]) := .last dir fit.above fit.short
  have way := ((locate_way hl).append hd (by simp) last).walk
  rw [Path.child_entry p fit.toEntryName]
  unfold locate at hl ⊢
  split at hl
  · cases hl
  · next plain =>
    have plain : ¬ (p.names ++ [name]).any (·.toList.contains '\x00') = true := by
      have own := fit.nonNull
      simp_all
    rw [if_neg plain]
    split
    · rfl
    · exact way

/-- A way goes on from a directory that it comes down to. -/
lemma Way.deeper {rest : List String} (up : name ≠ "..") (short : tooLong name = false)
    (through : fs.at? (dir ++ [name]) = some .directory) (w : Way fs (dir ++ [name]) rest place) :
    Way fs dir (name :: rest) place := by
  by_cases further : rest = []
  · subst further
    cases w
    exact .last dir up short
  · exact .down up short further through w

/-- A way that ends in a name passes the directory of what it leads to. -/
lemma Way.parent {names : List String} {start : Location} (up : name ≠ "..")
    (grounded : fs.Grounded start) (w : Way fs start (names ++ [name]) place) :
    ∃ dir, Way fs start names dir ∧ fs.at? dir = some .directory ∧ place = dir ++ [name] := by
  induction names generalizing start with
  | nil =>
    cases w with
    | back => exact absurd rfl up
    | last => exact ⟨start, .here start, grounded start (List.prefix_refl _), rfl⟩
    | down _ _ further => exact absurd rfl further
  | cons a rest ih =>
    rw [List.cons_append] at w
    generalize hm : rest ++ [name] = more at w
    have further : more ≠ [] := by simp [← hm]
    cases w with
    | back onward =>
      subst hm
      obtain ⟨dir, w, hd, rfl⟩ := ih grounded.up onward
      exact ⟨dir, .back w, hd, rfl⟩
    | last => exact absurd rfl further
    | down other short _ through onward =>
      subst hm
      obtain ⟨dir, w, hd, rfl⟩ := ih (grounded.down through) onward
      exact ⟨dir, w.deeper other short through, hd, rfl⟩

/-- An entry that a path leads to stands in the directory that the path goes through. -/
lemma locate_parent {found : Bool} (reached : fs.isDirectory p = .ok found)
    (entry : EntryName name) (h : fs.locate (p.child name) = .ok place) :
    ∃ dir, fs.locate p = .ok dir ∧ fs.at? dir = some .directory ∧ place = dir ++ [name] := by
  have way := locate_way h
  rw [Path.child_entry p entry] at h way
  obtain ⟨dir, w, hd, rfl⟩ := way.parent entry.above (grounded_start fs p)
  refine ⟨dir, ?_, hd, rfl⟩
  unfold isDirectory node? at reached
  unfold locate at h reached ⊢
  split at h
  · cases h
  · next plain =>
    have plain : ¬ p.names.any (·.toList.contains '\x00') = true := by simp_all
    rw [if_neg plain] at reached ⊢
    split
    · next long =>
      rw [if_pos long] at reached
      cases reached
    · exact w.walk

/-! Erasing. -/

lemma at?_erase {d : Location} (other : d ≠ place) : (fs.erase place).at? d = fs.at? d := by
  unfold erase at?
  rw [lookup_vacated other]

variable {places : List Location}

lemma Sound.erase_all (h : fs.Sound) (places : List Location) :
    (places.foldl Files.erase fs).Sound := by
  induction places generalizing fs with
  | nil => exact h
  | cons place rest ih => exact ih (h.erase place)

lemma home_erase_all (fs : Files) (places : List Location) :
    (places.foldl erase fs).home = fs.home := by
  induction places generalizing fs with
  | nil => rfl
  | cons place rest ih => exact ih (fs.erase place)

lemma at?_erase_all {d : Location} (other : d ∉ places) :
    (places.foldl erase fs).at? d = fs.at? d := by
  induction places generalizing fs with
  | nil => rfl
  | cons place rest ih =>
    obtain ⟨first, later⟩ := List.ne_and_not_mem_of_not_mem_cons other
    exact (ih later).trans (at?_erase first)

lemma mem_erase_all {e : Location × Node} :
    e ∈ (places.foldl erase fs).entries ↔ e ∈ fs.entries ∧ e.1 ∉ places := by
  induction places generalizing fs with
  | nil => simp
  | cons place rest ih =>
    rw [List.foldl_cons, ih, erase, List.mem_filter, List.mem_cons, not_or, decide_eq_true_eq]
    exact and_assoc

/-- Erasing files leaves everything else, and all directories, as they are. -/
lemma written_erase_all (fs : Files) (places : List Location)
    (files : ∀ place ∈ places, fs.at? place ≠ some .directory) :
    Written (fun _ d => d ∈ places) fs (places.foldl erase fs) where
  home := home_erase_all fs places
  directories d hd := by
    rw [at?_erase_all fun erased => files d erased hd, hd]
  files d other f := by
    rw [at?_erase_all other]

end Files
end Rehearsal
