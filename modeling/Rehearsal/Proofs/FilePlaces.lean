import Mathlib.Data.List.Infix
import Rehearsal.Files
import Rehearsal.Proofs.FileNames

/-!
# The places of files

A path leads to its place through directories, so it goes on leading there while directories are
only added. Making a directory adds directories and nothing else. Writing a file changes one place,
which stands in a directory and is none itself.
-/

namespace Rehearsal

namespace Files

/-- A way from a directory along some names to a place. -/
inductive Way (fs : Files) : Location → List String → Location → Prop
  | here (dir : Location) : Way fs dir [] dir
  | back {dir place : Location} {rest : List String} (onward : Way fs dir.dropLast rest place) :
      Way fs dir (".." :: rest) place
  | last (dir : Location) {name : String} (up : name ≠ "..") (short : tooLong name = false) :
      Way fs dir [name] (dir ++ [name])
  | down {dir place : Location} {name : String} {rest : List String} (up : name ≠ "..")
      (short : tooLong name = false) (further : rest ≠ [])
      (through : fs.at? (dir ++ [name]) = some .directory)
      (onward : Way fs (dir ++ [name]) rest place) : Way fs dir (name :: rest) place

variable {fs ft fu : Files} {p : Path} {dir place : Location} {names rest : List String}
  {name : String} {f : File}

lemma Way.of_walk (h : fs.walk dir names = .ok place) : Way fs dir names place := by
  induction names generalizing dir with
  | nil =>
    cases h
    exact .here _
  | cons name rest ih =>
    unfold walk at h
    dsimp only at h
    split at h
    · next up =>
      subst up
      exact .back (ih h)
    · next up =>
      split at h
      · cases h
      · next short =>
        have short := Bool.eq_false_iff.mpr short
        split at h
        · next last =>
          cases List.isEmpty_iff.mp last
          cases h
          exact .last _ up short
        · next further =>
          split at h
          · next through => exact .down up short (fun e => further (by simp [e])) through (ih h)
          · cases h
          · cases h

lemma Way.walk (w : Way fs dir names place) : fs.walk dir names = .ok place := by
  induction w with
  | here dir => rfl
  | back onward ih => rw [Files.walk, if_pos rfl, ih]
  | last dir up short => simp [Files.walk, up, short]
  | down up short further through onward ih =>
    simp only [Files.walk, if_neg up, short, Bool.false_eq_true, if_false, List.isEmpty_iff, further,
      through, ih]

lemma Way.up (w : Way fs dir (".." :: rest) place) : Way fs dir.dropLast rest place := by
  cases w with
  | back onward => exact onward
  | last up => exact absurd rfl ‹".." ≠ ".."›
  | down up => exact absurd rfl up

lemma Way.next (up : name ≠ "..") (further : rest ≠ []) (w : Way fs dir (name :: rest) place) :
    Way fs (dir ++ [name]) rest place := by
  cases w with
  | back => exact absurd rfl up
  | last => exact absurd rfl further
  | down up short further through onward => exact onward

/-- A way that ends at a directory can be followed further. -/
lemma Way.append (w : Way fs dir names place) (there : fs.at? place = some .directory)
    {last : Location} (further : rest ≠ []) (v : Way fs place rest last) :
    Way fs dir (names ++ rest) last := by
  induction w with
  | here dir => exact v
  | back onward ih => exact .back (ih there v)
  | last dir up short => exact .down up short further there v
  | down up short more through onward ih =>
    exact .down up short (by simp [more]) through (ih there v)

/-- A way past a place goes on from it. -/
lemma Way.onward (w : Way fs dir names place) {last : Location} (further : rest ≠ [])
    (v : Way fs dir (names ++ rest) last) : Way fs place rest last := by
  induction w with
  | here dir => exact v
  | back onward ih => exact ih v.up
  | last dir up short => exact v.next up further
  | down up short more through onward ih => exact ih (v.next up (by simp [more]))

/-- Directories that are added do not turn ways away. -/
lemma Way.mono (w : Way fs dir names place)
    (directories : ∀ d, fs.at? d = some .directory → ft.at? d = some .directory) :
    Way ft dir names place := by
  induction w with
  | here dir => exact .here dir
  | back onward ih => exact .back ih
  | last dir up short => exact .last dir up short
  | down up short further through onward ih =>
    exact .down up short further (directories _ through) ih

/-- Everything on the way down to a place is a directory. -/
abbrev Grounded (fs : Files) (place : Location) : Prop :=
  ∀ d, d <+: place → fs.at? d = some .directory

lemma Grounded.up (h : fs.Grounded dir) : fs.Grounded dir.dropLast :=
  fun d hd => h d (hd.trans (List.dropLast_prefix dir))

lemma Grounded.down (h : fs.Grounded dir) (through : fs.at? (dir ++ [name]) = some .directory) :
    fs.Grounded (dir ++ [name]) := by
  intro d hd
  rcases List.prefix_concat_iff.mp hd with rfl | hd
  · exact through
  · exact h d hd

/-- A way passes directories only. -/
lemma Way.grounded (w : Way fs dir names place) (h : fs.Grounded dir) :
    fs.Grounded place.dropLast := by
  induction w with
  | here dir => exact h.up
  | back onward ih => exact ih h.up
  | last dir up short => rwa [List.dropLast_concat]
  | down up short further through onward ih => exact ih (h.down through)

lemma grounded_start (fs : Files) (p : Path) : fs.Grounded (fs.start p) := by
  intro d hd
  have onHome : d <+: fs.home := by
    unfold start at hd
    split at hd
    · exact hd
    · rw [List.prefix_nil.mp hd]
      exact List.nil_prefix
  simp [at?, onHome]

/-! Places. -/

lemma locate_way (h : fs.locate p = .ok place) : Way fs (fs.start p) p.names place := by
  unfold locate at h
  split at h
  · cases h
  · split at h
    · cases h
    · exact .of_walk h

lemma isDirectory_iff :
    fs.isDirectory p = .ok true ↔ ∃ dir, fs.locate p = .ok dir ∧ fs.at? dir = some .directory := by
  unfold isDirectory node?
  rcases h : fs.locate p with o | dir
  · cases o <;> simp [Except.map]
  · simp [Except.map]

lemma lookup_vacated {d : Location} (h : d ≠ place) (es : List (Location × Node)) :
    (es.filter fun e => e.1 ≠ place).lookup d = es.lookup d := by
  induction es with
  | nil => rfl
  | cons e es ih =>
    obtain ⟨k, n⟩ := e
    by_cases kept : k = place
    · have other : (d == k) = false := beq_eq_false_iff_ne.mpr (kept ▸ h)
      rw [List.filter_cons_of_neg (by simp [kept]), ih, List.lookup_cons, other]
    · rw [List.filter_cons_of_pos (by simp [kept]), List.lookup_cons, List.lookup_cons, ih]

/-- Putting changes one place, unless that is on the way down to the working directory. -/
lemma at?_put (h : fs.at? place ≠ some .directory) (n : Node) (d : Location) :
    (fs.put place n).at? d = if d = place then some n else fs.at? d := by
  -- the way down to the working directory is there without entries
  have off : ¬ place <+: fs.home := fun e => h (by simp [at?, e])
  unfold put at?
  by_cases hd : d = place
  · subst hd
    simp [off]
  · have other : (d == place) = false := beq_eq_false_iff_ne.mpr hd
    simp only [List.lookup_cons, other, lookup_vacated hd, hd, if_false]

/-- Directories have been added, and files written at the chosen places at most. -/
structure Written (chosen : Files → Location → Prop) (fs ft : Files) : Prop where
  home : ft.home = fs.home
  directories : ∀ place, fs.at? place = some .directory → ft.at? place = some .directory
  files : ∀ place, ¬ chosen ft place →
    ∀ f, ft.at? place = some (.file f) ↔ fs.at? place = some (.file f)

/-- No place at all. -/
abbrev noPlace (_ : Files) (_ : Location) : Prop := False

/-- A place for an entry of the directory that a path leads to. -/
def Inside (directory : Path) (fs : Files) (place : Location) : Prop :=
  ∃ dir name, fs.locate directory = .ok dir ∧ fs.at? dir = some .directory ∧ EntryName name ∧
    place = dir ++ [name]

/-- A place for an entry of the directory that has one of some names. -/
def Entries (directory : Path) (names : String → Prop) (fs : Files) (place : Location) : Prop :=
  ∃ dir name, fs.locate directory = .ok dir ∧ fs.at? dir = some .directory ∧ EntryName name ∧
    names name ∧ place = dir ++ [name]

lemma Entries.inside {names : String → Prop} (h : Entries p names fs place) :
    Inside p fs place := by
  obtain ⟨dir, name, hl, hd, entry, -, rfl⟩ := h
  exact ⟨dir, name, hl, hd, entry, rfl⟩

namespace Written

variable {chosen : Files → Location → Prop}

lemma rfl : Written chosen fs fs := ⟨.refl _, fun _ h => h, fun _ _ _ => .rfl⟩

lemma mono {wider : Files → Location → Prop} (h : Written chosen fs ft)
    (all : ∀ place, chosen ft place → wider ft place) : Written wider fs ft :=
  ⟨h.home, h.directories, fun place elsewhere => h.files place fun e => elsewhere (all place e)⟩

/-- Places stay chosen where only directories are added. -/
lemma trans (h : Written chosen fs ft) (k : Written chosen ft fu)
    (stays : ∀ place, chosen ft place → chosen fu place) : Written chosen fs fu where
  home := k.home.trans h.home
  directories place hd := k.directories place (h.directories place hd)
  files place hc f := (k.files place hc f).trans (h.files place (fun e => hc (stays place e)) f)

lemma locate (h : Written chosen fs ft) (hl : fs.locate p = .ok place) :
    ft.locate p = .ok place := by
  have start : ft.start p = fs.start p := by simp [Files.start, h.home]
  have onward := ((locate_way hl).mono h.directories).walk
  unfold Files.locate at hl ⊢
  rw [start, onward]
  split at hl
  · cases hl
  · next plain =>
    split at hl
    · cases hl
    · next short => rw [if_neg plain, if_neg short]

lemma inside (h : Written chosen fs ft) (hi : Inside p fs place) : Inside p ft place := by
  obtain ⟨dir, name, hl, hd, entry, rfl⟩ := hi
  exact ⟨dir, name, h.locate hl, h.directories dir hd, entry, .refl _⟩

lemma entries {names : String → Prop} (h : Written chosen fs ft) (hi : Entries p names fs place) :
    Entries p names ft place := by
  obtain ⟨dir, name, hl, hd, entry, named, rfl⟩ := hi
  exact ⟨dir, name, h.locate hl, h.directories dir hd, entry, named, .refl _⟩

end Written

lemma written_put (vacant : fs.at? place ≠ some .directory) (n : Node) :
    Written (fun _ d => d = place) fs (fs.put place n) := by
  have put := at?_put vacant n
  refine ⟨rfl, fun d hd => ?_, fun d other g => ?_⟩
  · rw [put, if_neg (by rintro rfl; exact vacant hd), hd]
  · rw [put, if_neg other]

/-! Directories. -/

lemma makeOne_ok (h : fs.makeOne p = .ok ft) :
    Written noPlace fs ft ∧ ft.isDirectory p = .ok true := by
  unfold makeOne at h
  split at h
  · cases h
  · next place hl =>
    split at h
    · cases h
    · next vacant =>
      cases h
      have notThere : fs.at? place ≠ some .directory := by simp [vacant]
      have put := at?_put notThere .directory
      have written := written_put notThere .directory
      refine ⟨⟨rfl, written.directories, fun d _ f => ?_⟩,
        isDirectory_iff.mpr ⟨place, written.locate hl, by simp [put]⟩⟩
      by_cases same : d = place
      · simp [put, same, vacant]
      · exact written.files d same f

lemma acceptExisting_ok {o : Obstacle} (h : fs.acceptExisting p o = .ok ft) :
    ft = fs ∧ fs.isDirectory p = .ok true := by
  unfold acceptExisting at h
  split at h
  · cases h
  · split at h
    · cases h
    · next there =>
      cases h
      exact ⟨rfl, there⟩
    · cases h

lemma settle_ok (h : fs.settle p = .ok ft) :
    Written noPlace fs ft ∧ ft.isDirectory p = .ok true := by
  unfold settle at h
  split at h
  · next made =>
    cases h
    exact makeOne_ok made
  · cases h
  · obtain ⟨rfl, there⟩ := acceptExisting_ok h
    exact ⟨.rfl, there⟩

lemma makeAll_ok {anchor : Anchor} (h : fs.makeAll anchor names = .ok ft) :
    Written noPlace fs ft ∧ ft.isDirectory ⟨anchor, names.reverse⟩ = .ok true := by
  -- on the names above, of which the missing ones are made first
  induction names generalizing ft with
  | nil => exact settle_ok h
  | cons name above ih =>
    unfold makeAll at h
    dsimp only at h
    split at h
    · next made =>
      cases h
      exact makeOne_ok made
    · split at h
      · cases h
      · next fu made =>
        obtain ⟨first, there⟩ := settle_ok h
        exact ⟨.trans (ih made).1 first fun _ => id, there⟩
    · obtain ⟨rfl, there⟩ := acceptExisting_ok h
      exact ⟨.rfl, there⟩

/-- A directory that has been made is there, and no file has changed. -/
lemma makeDirectory_ok (h : fs.makeDirectory p = .ok ft) :
    Written noPlace fs ft ∧ ft.isDirectory p = .ok true := by
  have made := makeAll_ok h
  rwa [List.reverse_reverse] at made

/-! Files. -/

lemma write_ok (h : fs.write p f = .ok ft) :
    ∃ place, fs.locate p = .ok place ∧ fs.at? place ≠ some .directory ∧
      ft = fs.put place (.file f) := by
  unfold write at h
  split at h
  · cases h
  · next place hl =>
    split at h
    · cases h
    · next vacant =>
      split at h
      · cases h
      · cases h
        exact ⟨place, hl, by simpa [isDirectoryAt] using vacant, rfl⟩

/-- A path leads to a file. -/
def Leads (fs : Files) (p : Path) : Prop :=
  ∃ place f, fs.locate p = .ok place ∧ fs.at? place = some (.file f)

lemma isFile_iff : fs.isFile p = .ok true ↔ fs.Leads p := by
  unfold isFile node? Leads
  rcases h : fs.locate p with o | place
  · cases o <;> simp [Except.map]
  · rcases hn : fs.at? place with _ | f | _ <;> simp [Except.map, hn]

lemma leads_write {p : Path} {f : File} (h : fs.write p f = .ok ft) : ft.Leads p := by
  obtain ⟨place, found, vacant, rfl⟩ := write_ok h
  have put := at?_put vacant (.file f)
  exact ⟨place, f, (written_put vacant (.file f)).locate found, by simp [put]⟩

lemma Leads.written {q : Path} (h : fs.Leads q) (w : Written noPlace fs ft) : ft.Leads q := by
  obtain ⟨place, f, found, there⟩ := h
  exact ⟨place, f, w.locate found, (w.files place not_false f).mpr there⟩

/-- A file that is written over is still a file. -/
lemma Leads.write {q : Path} (h : fs.Leads q) (hw : fs.write p f = .ok ft) : ft.Leads q := by
  obtain ⟨place, g, found, there⟩ := h
  obtain ⟨target, -, vacant, rfl⟩ := write_ok hw
  have put := at?_put vacant (.file f)
  have still := (written_put vacant (.file f)).locate found
  by_cases same : place = target
  · exact ⟨place, f, still, by rw [put, if_pos same]⟩
  · exact ⟨place, g, still, by rw [put, if_neg same, there]⟩

/-- The name of an entry leads to a place of the directory. -/
lemma locate_entry (entry : EntryName name) (hl : fs.locate p = .ok dir)
    (h : fs.locate (p.child name) = .ok place) : place = dir ++ [name] := by
  rw [Path.child_entry p entry] at h
  cases (locate_way hl).onward (by simp) (locate_way h) with
  | back => exact absurd rfl entry.above
  | last => rfl
  | down _ _ further => exact absurd rfl further

/-- What is written under the name of an entry stands in the directory. -/
lemma write_entry {names : String → Prop} (there : fs.isDirectory p = .ok true)
    (entry : EntryName name) (named : names name) (h : fs.write (p.child name) f = .ok ft) :
    Written (Entries p names) fs ft := by
  obtain ⟨dir, hl, hd⟩ := isDirectory_iff.mp there
  obtain ⟨place, found, vacant, rfl⟩ := write_ok h
  have written := written_put vacant (.file f)
  refine written.mono fun d e => ?_
  exact ⟨dir, name, written.locate hl, written.directories dir hd, entry, named,
    e.trans (locate_entry entry hl found)⟩

/-- Two points lead from a directory back to the one above, if the path is not too long. -/
lemma locate_above (hl : fs.locate p = .ok dir) (hd : fs.at? dir = some .directory) :
    fs.locate (p.child "..") = .ok dir.dropLast ∨
      fs.locate (p.child "..") = .error .nameTooLong := by
  have way := ((locate_way hl).append hd (by simp) (.back (.here _))).walk
  rw [Path.child_above]
  unfold locate at hl ⊢
  split at hl
  · cases hl
  · next plain =>
    have plain : ¬ (p.names ++ [".."]).any (·.toList.contains '\x00') = true := by
      simpa using plain
    rw [if_neg plain]
    split
    · exact .inr rfl
    · exact .inl way

lemma isDirectory_above {found : Bool} (there : fs.isDirectory p = .ok true)
    (h : fs.isDirectory (p.child "..") = .ok found) : found = true := by
  obtain ⟨dir, hl, hd⟩ := isDirectory_iff.mp there
  have above := (locate_way hl).grounded (grounded_start fs p) _ (List.prefix_refl _)
  unfold isDirectory node? at h
  rcases locate_above hl hd with found | long
  · rw [found] at h
    simpa [Except.map, above] using h.symm
  · rw [long] at h
    cases h

end Files
end Rehearsal
