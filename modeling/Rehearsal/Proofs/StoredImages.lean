import Mathlib.Data.String.Basic
import Rehearsal.Proofs.FileTrees
import Rehearsal.Screenshot.Store

/-!
# The images in a directory

An image is a file that stands directly in the directory under the name of an image. The listing
shows each of them once and the newest first, the number of them is counted and removed, and a name
is resolved to one of them. Removing the images leaves all else.
-/

namespace Rehearsal.Screenshot

variable {fs ft : Files} {p : Path} {dir place : Location} {name : String} {f : File}
  {images : List (String × File)} {es : List Entry}

/-- An image in a directory, with its place. -/
structure Stored (fs : Files) (p : Path) (place : Location) (name : String) (f : File) : Prop where
  image : isImage name = true
  within : ∃ dir, fs.locate p = .ok dir ∧ fs.at? dir = some .directory ∧ place = dir ++ [name]
  file : fs.at? place = some (.file f)

lemma Stored.fileName (h : Stored fs p place name f) (sound : fs.Sound) : FileName name := by
  obtain ⟨dir, -, -, rfl⟩ := h.within
  exact sound.fileName (Files.entry_of_file h.file)

/-- An image stands in the one directory that the path leads to. -/
lemma Stored.place_eq (h : Stored fs p place name f) (hl : fs.locate p = .ok dir) :
    place = dir ++ [name] := by
  obtain ⟨_, found, -, rfl⟩ := h.within
  cases hl.symm.trans found
  rfl

/-- What there is to a directory whose entries have all been looked at: it is not there, or its
images are the files that it lists under names of images. -/
inductive Looked (fs : Files) (p : Path) : Location → List (String × File) → Prop
  | missing (h : fs.isDirectory p = .ok false) : Looked fs p [] []
  | there {dir : Location} (hl : fs.locate p = .ok dir) (hd : fs.at? dir = some .directory)
      (short : firstFault fs p dir = none) :
      Looked fs p dir ((fs.filesIn dir).filter fun i => isImage i.1)

lemma looked (h : imagesIn fs p = .ok (dir, images)) : Looked fs p dir images := by
  unfold imagesIn at h
  split at h
  · cases h
  · next missing =>
    cases h
    exact .missing missing
  · next found =>
    obtain ⟨_, hl, hd⟩ := Files.isDirectory_iff.mp found
    rw [hl] at h
    dsimp only at h
    split at h
    · cases h
    · next short =>
      cases h
      exact .there hl hd short

lemma Looked.imagesIn (h : Looked fs p dir images) : imagesIn fs p = .ok (dir, images) := by
  unfold Screenshot.imagesIn
  cases h with
  | missing h => rw [h]
  | there hl hd short =>
    rw [Files.isDirectory_iff.mpr ⟨dir, hl, hd⟩, hl]
    dsimp only
    rw [short]

namespace Looked

variable (h : Looked fs p dir images)
include h

lemma reached : ∃ found, fs.isDirectory p = .ok found := by
  cases h with
  | missing h => exact ⟨false, h⟩
  | there hl hd => exact ⟨true, Files.isDirectory_iff.mpr ⟨dir, hl, hd⟩⟩

/-- The images that have been found are those that are stored. -/
lemma mem_iff (sound : fs.Sound) : (name, f) ∈ images ↔ ∃ place, Stored fs p place name f := by
  cases h with
  | missing missing =>
    refine ⟨nofun, ?_⟩
    rintro ⟨_, -, ⟨dir, hl, hd, -⟩, -⟩
    cases missing.symm.trans (Files.isDirectory_iff.mpr ⟨dir, hl, hd⟩)
  | there hl hd =>
    rw [List.mem_filter, Files.mem_filesIn, sound.file_iff]
    constructor
    · rintro ⟨file, image⟩
      exact ⟨_, image, ⟨dir, hl, hd, rfl⟩, file⟩
    · rintro ⟨place, stored⟩
      have at_ := stored.place_eq hl
      subst at_
      exact ⟨stored.file, stored.image⟩

lemma once (sound : fs.Sound) : (images.map (·.1)).Nodup := by
  cases h with
  | missing => exact List.nodup_nil
  | there => exact (sound.filesIn_nodup dir).sublist (List.filter_sublist.map _)

end Looked

/-! Entries. -/

lemma entriesOf_ok : entriesOf images = .ok es ↔
    images.map (fun i => Entry.ofFile i.1 i.2) = es.map .ok := by
  induction images generalizing es with
  | nil => cases es <;> simp [entriesOf]
  | cons i rest ih =>
    obtain ⟨name, f⟩ := i
    rw [entriesOf]
    rcases first : Entry.ofFile name f with fault | e
    · cases es <;> simp [first]
    · cases es with
      | nil => rcases entriesOf rest with _ | _ <;> simp [Except.map, first]
      | cons d more =>
        rw [List.map_cons, List.map_cons, List.cons.injEq, ← ih]
        rcases entriesOf rest with _ | _ <;> simp [Except.map, first]

lemma Entry.ofFile_name {e : Entry} (h : Entry.ofFile name f = .ok e) : e.name = name := by
  unfold ofFile at h
  dsimp only at h
  rcases told : momentText (secondsOf f.modified) with fault | text <;> rw [told] at h
  · cases h
  · cases h
    rfl

lemma entry_names (told : images.map (fun i => Entry.ofFile i.1 i.2) = es.map .ok) :
    es.map (·.name) = images.map (·.1) := by
  induction images generalizing es with
  | nil => rw [List.map_eq_nil_iff.mp told.symm]; rfl
  | cons i rest ih =>
    cases es with
    | nil => cases told
    | cons e more =>
      obtain ⟨first, later⟩ := List.cons.inj told
      rw [List.map_cons, List.map_cons, Entry.ofFile_name first, ih later]

lemma mem_entries (told : images.map (fun i => Entry.ofFile i.1 i.2) = es.map .ok) {e : Entry} :
    e ∈ es ↔ ∃ i ∈ images, Entry.ofFile i.1 i.2 = .ok e := by
  have shown : e ∈ es ↔ Except.ok e ∈ es.map (Except.ok (ε := ClockFault)) := by simp
  rw [shown, ← told, List.mem_map]

/-- There is an entry for an image unless its time of change is outside the calendar. -/
lemma Entry.ofFile_isOk (name : String) : (∃ e, Entry.ofFile name f = .ok e) ↔
    ∃ text, momentText (secondsOf f.modified) = .ok text := by
  unfold ofFile
  dsimp only
  rcases momentText (secondsOf f.modified) with _ | text <;> simp [Except.map]

lemma entriesOf_isOk : (∃ es, entriesOf images = .ok es) ↔
    ∀ i ∈ images, ∃ text, momentText (secondsOf i.2.modified) = .ok text := by
  induction images with
  | nil => simp [entriesOf]
  | cons i rest ih =>
    obtain ⟨name, f⟩ := i
    rw [List.forall_mem_cons, ← ih, ← Entry.ofFile_isOk name, entriesOf]
    dsimp only
    rcases Entry.ofFile name f with _ | e <;> rcases entriesOf rest with _ | _ <;>
      simp [Except.map]

/-! The order of listings. -/

lemma before_trans (a b c : Entry) (hab : before a b = true) (hbc : before b c = true) :
    before a c = true := by
  simp only [before, Bool.or_eq_true, Bool.and_eq_true, decide_eq_true_eq, beq_iff_eq] at hab hbc ⊢
  rcases hab with newer | ⟨same, named⟩ <;> rcases hbc with older | ⟨again, next⟩
  · exact .inl (by omega)
  · exact .inl (by omega)
  · exact .inl (by omega)
  · exact .inr ⟨same.trans again, String.le_trans named next⟩

lemma before_total (a b : Entry) : (before a b || before b a) = true := by
  simp only [before, Bool.or_eq_true, Bool.and_eq_true, decide_eq_true_eq, beq_iff_eq]
  rcases lt_trichotomy a.modified b.modified with older | same | newer
  · exact .inr (.inl older)
  · rcases String.le_total a.name b.name with first | last
    · exact .inl (.inr ⟨same, first⟩)
    · exact .inr (.inr ⟨same.symm, last⟩)
  · exact .inl (.inl newer)

lemma newest_first (es : List Entry) :
    (es.mergeSort before).Pairwise fun a b => b.modified ≤ a.modified := by
  refine (List.pairwise_mergeSort before_trans before_total es).imp fun {a b} h => ?_
  simp only [before, Bool.or_eq_true, Bool.and_eq_true, decide_eq_true_eq, beq_iff_eq] at h
  rcases h with newer | ⟨same, -⟩ <;> omega

/-! Listings. -/

/-- A listing shows each image of a directory once, the newest first. -/
structure Listed (fs : Files) (p : Path) (es : List Entry) : Prop where
  entries : ∀ e, e ∈ es ↔ ∃ place f, Stored fs p place e.name f ∧ Entry.ofFile e.name f = .ok e
  names : ∀ name, name ∈ es.map (·.name) ↔ ∃ place f, Stored fs p place name f
  once : (es.map (·.name)).Nodup
  newest : es.Pairwise fun a b => b.modified ≤ a.modified

/-- All entries of a directory have paths that can be looked at, and its images date from years of
the calendar. -/
structure Listable (fs : Files) (p : Path) : Prop where
  reached : ∃ found, fs.isDirectory p = .ok found
  short : ∀ dir, fs.locate p = .ok dir → fs.at? dir = some .directory →
    ∀ name ∈ fs.namesIn dir, (p.child name).text.utf8ByteSize ≤ 4095
  dated : ∀ place name f, Stored fs p place name f →
    ∃ text, momentText (secondsOf f.modified) = .ok text

lemma listing_cases (h : listing fs p = .ok es) : ∃ dir images unsorted, Looked fs p dir images ∧
    entriesOf images = .ok unsorted ∧ es = unsorted.mergeSort before := by
  unfold listing at h
  split at h
  · cases h
  · next dir images found =>
    split at h
    · cases h
    · next unsorted told =>
      cases h
      exact ⟨dir, images, unsorted, looked found, told, rfl⟩

lemma listing_length (h : listing fs p = .ok es) :
    ∃ dir images, Looked fs p dir images ∧ es.length = images.length := by
  obtain ⟨dir, images, unsorted, found, told, rfl⟩ := listing_cases h
  have same := congrArg List.length (entriesOf_ok.mp told)
  rw [List.length_map, List.length_map] at same
  exact ⟨dir, images, found, by rw [List.length_mergeSort, same]⟩

theorem listing_listed (sound : fs.Sound) (h : listing fs p = .ok es) : Listed fs p es := by
  obtain ⟨dir, images, unsorted, found, told, rfl⟩ := listing_cases h
  have told := entriesOf_ok.mp told
  have order := List.mergeSort_perm unsorted before
  have named := entry_names told
  constructor
  · intro e
    rw [order.mem_iff, mem_entries told]
    constructor
    · rintro ⟨⟨name, f⟩, hi, shown⟩
      obtain rfl := Entry.ofFile_name shown
      obtain ⟨place, stored⟩ := (found.mem_iff sound).mp hi
      exact ⟨place, f, stored, shown⟩
    · rintro ⟨place, f, stored, shown⟩
      exact ⟨(e.name, f), (found.mem_iff sound).mpr ⟨place, stored⟩, shown⟩
  · intro name
    rw [(order.map _).mem_iff, named, List.mem_map]
    constructor
    · rintro ⟨⟨_, f⟩, hi, rfl⟩
      obtain ⟨place, stored⟩ := (found.mem_iff sound).mp hi
      exact ⟨place, f, stored⟩
    · rintro ⟨place, f, stored⟩
      exact ⟨(name, f), (found.mem_iff sound).mpr ⟨place, stored⟩, rfl⟩
  · rw [(order.map _).nodup_iff, named]
    exact found.once sound
  · exact newest_first unsorted

lemma firstFault_none (sound : fs.Sound) (hl : fs.locate p = .ok dir)
    (hd : fs.at? dir = some .directory) : firstFault fs p dir = none ↔
      ∀ name ∈ fs.namesIn dir, (p.child name).text.utf8ByteSize ≤ 4095 := by
  unfold firstFault
  rw [List.findSome?_eq_none_iff]
  refine forall₂_congr fun name listed => ?_
  obtain ⟨n, he⟩ := Files.mem_namesIn.mp listed
  have located := Files.locate_child hl hd (sound.fileName he)
  unfold Files.isFile Files.node?
  by_cases long : 4095 < (p.child name).text.utf8ByteSize
  · rw [located, if_pos long]
    simp [Except.map, long]
  · rw [located, if_neg long]
    simp [Except.map, Nat.le_of_not_lt long]

/-- Without images, the listing is empty. -/
lemma Looked.listing_nil (h : Looked fs p dir []) : listing fs p = .ok [] := by
  unfold listing
  rw [h.imagesIn]
  simp [entriesOf]

/-- When a directory can be listed. -/
theorem listing_isOk (sound : fs.Sound) :
    (∃ es, listing fs p = .ok es) ↔ Listable fs p := by
  constructor
  · rintro ⟨es, h⟩
    obtain ⟨dir, images, unsorted, found, told, rfl⟩ := listing_cases h
    have dated := entriesOf_isOk.mp ⟨unsorted, told⟩
    refine ⟨found.reached, ?_, ?_⟩
    · intro d hl hd
      cases found with
      | missing missing =>
        cases missing.symm.trans (Files.isDirectory_iff.mpr ⟨d, hl, hd⟩)
      | there hl' _ short =>
        cases hl'.symm.trans hl
        exact (firstFault_none sound hl hd).mp short
    · intro place name f stored
      exact dated (name, f) ((found.mem_iff sound).mpr ⟨place, stored⟩)
  · intro h
    have found : ∃ dir images, Looked fs p dir images := by
      obtain ⟨there, reached⟩ := h.reached
      cases there with
      | false => exact ⟨_, _, .missing reached⟩
      | true =>
        obtain ⟨dir, hl, hd⟩ := Files.isDirectory_iff.mp reached
        exact ⟨_, _, .there hl hd ((firstFault_none sound hl hd).mpr (h.short dir hl hd))⟩
    obtain ⟨dir, images, found⟩ := found
    have dated : ∀ i ∈ images, ∃ text, momentText (secondsOf i.2.modified) = .ok text := by
      intro i hi
      obtain ⟨place, stored⟩ := (found.mem_iff sound).mp hi
      exact h.dated place i.1 i.2 stored
    obtain ⟨unsorted, told⟩ := entriesOf_isOk.mpr dated
    refine ⟨unsorted.mergeSort before, ?_⟩
    unfold listing
    rw [found.imagesIn]
    dsimp only
    rw [told]

/-! Single images. -/

/-- What is read as its own last name, and is the name of an image, can name an entry. -/
lemma entry_of_image (image : isImage name = true) (own : (Path.ofText name).name = name) :
    EntryName name := by
  have other (s : String) (h : isImage s = false) : name ≠ s := by
    rintro rfl
    cases image.symm.trans h
  rcases Path.nameless_or_entry name with (empty | above) | entry
  · exact absurd (own.symm.trans empty) (other "" (by decide +kernel))
  · exact absurd (own.symm.trans above) (other ".." (by decide +kernel))
  · exact own ▸ entry

/-- A file under the name of an entry is what the name resolves to. -/
lemma resolve_file (entry : EntryName name) (there : fs.isFile (p.child name) = .ok true) :
    resolve fs p name = .ok (some (p.child name)) := by
  have own : (Path.ofText name).name = name := by
    rw [Path.ofText_entry entry]
    rfl
  unfold resolve
  rw [if_neg (not_not.mpr own), there]
  rfl

/-- In a directory that can be listed, a name resolves to a file exactly when the listing shows it. -/
theorem resolve_iff (sound : fs.Sound) (listable : Listable fs p) (image : isImage name = true)
    (path : Path) : resolve fs p name = .ok (some path) ↔
      path = p.child name ∧ ∃ place f, Stored fs p place name f ∧ fs.locate path = .ok place := by
  constructor
  · intro h
    unfold resolve at h
    split at h
    · cases h
    · next own =>
      have entry := entry_of_image image (not_not.mp own)
      unfold Files.isFile Files.node? at h
      rcases hl : fs.locate (p.child name) with o | place <;> rw [hl] at h
      · cases o <;> cases h
      · rcases hn : fs.at? place with _ | f | _ <;> simp only [hn, Except.map] at h
        · cases h
        · cases h
          obtain ⟨found, reached⟩ := listable.reached
          obtain ⟨dir, hd, there, within⟩ := Files.locate_parent reached entry hl
          exact ⟨rfl, place, f, ⟨image, ⟨dir, hd, there, within⟩, hn⟩, hl⟩
        · cases h
  · rintro ⟨rfl, place, f, stored, hl⟩
    have entry := (stored.fileName sound).toEntryName
    exact resolve_file entry (Files.isFile_iff.mpr ⟨place, f, hl, stored.file⟩)

/-- The path of an image that is listed leads to it. -/
lemma Stored.locate (sound : fs.Sound) (listable : Listable fs p)
    (h : Stored fs p place name f) : fs.locate (p.child name) = .ok place := by
  obtain ⟨dir, hl, hd, rfl⟩ := h.within
  have listed : name ∈ fs.namesIn dir := Files.mem_namesIn.mpr ⟨_, Files.entry_of_file h.file⟩
  have short := listable.short dir hl hd name listed
  rw [Files.locate_child hl hd (h.fileName sound), if_neg (Nat.not_lt.mpr short)]

/-- As many images are counted as listed. -/
lemma stats_of_listing (h : listing fs p = .ok es) : ∃ present,
    fs.isDirectory p = .ok present ∧ stats fs p = .ok ⟨es.length, present⟩ := by
  obtain ⟨dir, images, found, length⟩ := listing_length h
  obtain ⟨present, reached⟩ := found.reached
  refine ⟨present, reached, ?_⟩
  unfold stats
  rw [found.imagesIn, reached, length]

/-! Removal. -/

/-- The images of a directory have been removed, and nothing else. -/
structure Cleared (fs : Files) (p : Path) (ft : Files) : Prop where
  sound : ft.Sound
  empty : listing ft p = .ok []
  kept : ∀ place, (∀ name f, ¬ Stored fs p place name f) → ft.at? place = fs.at? place

lemma cleared_missing (sound : fs.Sound) (h : fs.isDirectory p = .ok false) : Cleared fs p fs where
  sound := sound
  empty := (Looked.missing h).listing_nil
  kept _ _ := rfl

/-- Removing what a directory shows of images clears it. -/
lemma cleared_there (sound : fs.Sound) (hl : fs.locate p = .ok dir)
    (hd : fs.at? dir = some .directory) (short : firstFault fs p dir = none) :
    Cleared fs p ((((fs.filesIn dir).filter fun i => isImage i.1).map fun i => dir ++ [i.1]).foldl
      Files.erase fs) := by
  have found := Looked.there hl hd short
  generalize hi : (fs.filesIn dir).filter (fun i => isImage i.1) = images at found ⊢
  have file {place : Location} (erased : place ∈ images.map fun i => dir ++ [i.1]) :
      ∃ name f, Stored fs p place name f := by
    obtain ⟨⟨name, f⟩, hi, rfl⟩ := List.mem_map.mp erased
    obtain ⟨place, stored⟩ := (found.mem_iff sound).mp hi
    exact ⟨name, f, stored.place_eq hl ▸ stored⟩
  have written := Files.written_erase_all fs (images.map fun i => dir ++ [i.1])
    fun place erased there => by
      obtain ⟨name, f, stored⟩ := file erased
      cases stored.file.symm.trans there
  have sound' := sound.erase_all (images.map fun i => dir ++ [i.1])
  generalize hft : (images.map fun i => dir ++ [i.1]).foldl Files.erase fs = ft at written sound' ⊢
  have mem {e : Location × Node} : e ∈ ft.entries ↔
      e ∈ fs.entries ∧ e.1 ∉ images.map fun i => dir ++ [i.1] := by
    rw [← hft]
    exact Files.mem_erase_all
  refine ⟨sound', ?_, fun place other => ?_⟩
  · have hl' := written.locate hl
    have hd' := written.directories dir hd
    have short' : firstFault ft p dir = none := by
      refine (firstFault_none sound' hl' hd').mpr fun name listed => ?_
      obtain ⟨n, he⟩ := Files.mem_namesIn.mp listed
      exact (firstFault_none sound hl hd).mp short name (Files.mem_namesIn.mpr ⟨n, (mem.mp he).1⟩)
    have none : (ft.filesIn dir).filter (fun i => isImage i.1) = [] := by
      rw [List.filter_eq_nil_iff]
      rintro ⟨name, f⟩ listed image
      obtain ⟨before, kept⟩ := mem.mp (Files.mem_filesIn.mp listed)
      refine kept (List.mem_map.mpr ⟨(name, f), ?_, rfl⟩)
      rw [← hi]
      exact List.mem_filter.mpr ⟨Files.mem_filesIn.mpr before, image⟩
    have looked := Looked.there hl' hd' short'
    rw [none] at looked
    exact looked.listing_nil
  · rw [← hft]
    refine Files.at?_erase_all fun erased => ?_
    obtain ⟨name, f, stored⟩ := file erased
    exact other name f stored

/-- As many images are removed as listed, and nothing else is. -/
theorem clear_of_listing (sound : fs.Sound) (h : listing fs p = .ok es) :
    ∃ ft, clear fs p = .ok (es.length, ft) ∧ Cleared fs p ft := by
  obtain ⟨dir, images, found, length⟩ := listing_length h
  have cleared : Cleared fs p ((images.map fun i => dir ++ [i.1]).foldl Files.erase fs) := by
    cases found with
    | missing missing => exact cleared_missing sound missing
    | there hl hd short => exact cleared_there sound hl hd short
  refine ⟨_, ?_, cleared⟩
  unfold clear
  rw [found.imagesIn, length, List.foldl_map]

end Rehearsal.Screenshot
