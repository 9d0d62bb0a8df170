import Rehearsal.Proofs.CaptureNames
import Rehearsal.Proofs.RunFiles
import Rehearsal.Proofs.RunLedger

/-!
# The files of captures

A record names the file that its capture has left in the directory for screenshots. Captures of
other marks have other names, so none of the same run writes that file again. This needs an image
type that leads no further down after a slash; with any other, what stands there names all captures.
-/

namespace Rehearsal

open Play

namespace Files

variable {fs ft : Files} {directory : Path} {name : String} {names : String → Prop}

/-- The file that a path leads to stays in its place, with its content. -/
def Spared (p : Path) (fs ft : Files) : Prop :=
  ∀ place f, fs.locate p = .ok place → fs.at? place = some (.file f) →
    ft.locate p = .ok place ∧ ft.at? place = some (.file f)

/-- What is written under other names spares the file of a name. -/
lemma Written.spared (h : Written (Entries directory names) fs ft) (entry : EntryName name)
    (other : ¬ names name) : Spared (directory.child name) fs ft := by
  intro place f found there
  have still := h.locate found
  refine ⟨still, (h.files place ?_ f).mpr there⟩
  rintro ⟨dir, last, located, -, -, named, rfl⟩
  have same : [last] = [name] := List.append_cancel_left (locate_entry entry located still)
  cases same
  exact other named

end Files

namespace Screenshot.Camera

variable {τ : Type} [Clock τ] {c : Camera} {s t : Stage τ} {page : Option Nat} {caption : Caption}
  {label : String} {attempt : Option Int}

/-- A picture has been taken into a file. -/
lemma shoot_leads {id : Nat} {path : Path} (h : c.shoot id path s = (.done (), t)) :
    t.files.Leads path := by
  obtain ⟨_, u, -, shot⟩ := done_of_bind h
  obtain ⟨_, v, -, saved⟩ := done_of_bind shot
  unfold Browser.saveImage at saved
  split at saved
  · cases saved
  · cases saved
  · split at saved
    · next files written =>
      cases saved
      exact Files.leads_write written
    · cases saved

/-- A capture with a file has it where the moment of the capture puts it. -/
lemma capture_leads {path : Path} (h : c.capture page label attempt s = (.done (some path), t)) :
    (∃ m, path = c.fileFor label attempt m) ∧ t.files.Leads path := by
  cases page with
  | none => cases h
  | some id =>
    unfold capture at h
    dsimp only at h
    rw [bind_done (look_run _ s)] at h
    split at h
    · cases h
    · obtain ⟨m, u, -, after⟩ := done_of_bind h
      obtain ⟨result, v, tried, after⟩ := done_of_bind after
      cases result with
      | error f => cases after
      | ok taken =>
        -- the file is named by a text that is not to be evaluated, so the ending is taken apart
        simp only [pure_run, Prod.mk.injEq, Ending.done.injEq, Option.some.injEq] at after
        obtain ⟨file, rfl⟩ := after
        rw [← file]
        exact ⟨⟨m, rfl⟩, shoot_leads (done_of_attempt tried)⟩

lemma record_leads {r : Record} (h : c.record page caption attempt s = (.done (some r), t)) :
    ∃ m, r.fileName = (c.fileFor caption.step attempt m).name ∧
      t.files.Leads (c.fileFor caption.step attempt m) := by
  obtain ⟨taken, u, captured, after⟩ := done_of_bind h
  cases taken with
  | none => cases after
  | some path =>
    obtain ⟨⟨m, file⟩, leads⟩ := capture_leads captured
    obtain ⟨n, v, told, after⟩ := done_of_bind after
    have unmoved : u = v := (Within.moment (R := Eq) (E := True)).stage told
    subst unmoved
    cases after
    rw [file] at leads
    exact ⟨m, congrArg Path.name file, leads⟩

/-- A capture writes under its own name only, if that is one of an entry. -/
lemma record_entries {names : String → Prop} {E : Prop}
    (own : ∀ m, ∃ name, EntryName name ∧ names name ∧
      c.fileFor caption.step attempt m = c.directory.child name) :
    Within (Stage.WritesEntries c.directory names) E (c.record page caption attempt : Play τ _) := by
  refine record_within _ page caption attempt (fun page m => ?_) fun s r _ => .rfl
  obtain ⟨name, entry, named, file⟩ := own m
  rw [shoot_eq, file]
  exact photograph_entry page _ entry named

end Screenshot.Camera

namespace Run

open Screenshot

variable {settings : Settings}

namespace Point

variable {p q : Point} {record : Record}

/-- The names that the file for a mark can have. -/
def NameOf (settings : Settings) (m : Mark) (name : String) : Prop :=
  ∃ moment, name = entryName (settings .screenshotType) m moment

lemma capture_of_entry (h : p.entry settings = some record) :
    ∃ t, p.capture settings p.stage = (.done (some record), t) := by
  unfold entry at h
  rcases hc : p.capture settings p.stage with ⟨r | f | _, t⟩ <;> rw [hc] at h
  · cases h
    exact ⟨t, rfl⟩
  · cases h
  · cases h

/-- A record names the file for its mark. -/
lemma entry_fileFor (h : p.entry settings = some record) :
    ∃ m, record.fileName =
        ((Camera.ofSettings settings).fileFor p.mark.step p.mark.attempt m).name ∧
      (p.capture settings p.stage).2.files.Leads
        ((Camera.ofSettings settings).fileFor p.mark.step p.mark.attempt m) := by
  obtain ⟨t, taken⟩ := capture_of_entry h
  have recorded : (Camera.ofSettings settings).record p.page p.caption p.mark.attempt p.stage =
      (.done (some record), t) := taken
  obtain ⟨m, named, leads⟩ := Camera.record_leads recorded
  rw [taken]
  exact ⟨m, named, leads⟩

section Flat

variable (flat : Flat (settings .screenshotType))
include flat

lemma entry_named (h : p.entry settings = some record) :
    EntryName record.fileName ∧ NameOf settings p.mark record.fileName ∧
      (p.capture settings p.stage).2.files.Leads
        ((settings .screenshotsDir : Path).child record.fileName) := by
  obtain ⟨m, named, leads⟩ := entry_fileFor h
  obtain ⟨entry, file⟩ := fileFor_flat (c := Camera.ofSettings settings) flat p.mark m
  have name : record.fileName = entryName (settings .screenshotType) p.mark m := by
    rw [named, file, Path.child_entry _ entry]
    simp [Path.name]
    rfl
  rw [file] at leads
  rw [name]
  exact ⟨entry, ⟨m, rfl⟩, leads⟩

lemma capture_written (p : Point) :
    Files.Written (Files.Entries (settings .screenshotsDir) (NameOf settings p.mark))
      p.stage.files (p.capture settings p.stage).2.files := by
  have own (m : Moment) : ∃ name, EntryName name ∧ NameOf settings p.mark name ∧
      (Camera.ofSettings settings).fileFor p.caption.step p.mark.attempt m =
        (Camera.ofSettings settings).directory.child name := by
    obtain ⟨entry, file⟩ := fileFor_flat (c := Camera.ofSettings settings) flat p.mark m
    exact ⟨_, entry, ⟨m, rfl⟩, file⟩
  exact (Camera.record_entries (E := True) own p.stage).1

omit flat in
lemma NameOf.apart {m n : Mark} {name : String} (h : NameOf settings m name)
    (k : NameOf settings n name) : m = n := by
  obtain ⟨a, rfl⟩ := h
  obtain ⟨b, same⟩ := k
  exact entryName_apart same

/-- A capture of another mark spares the file of a record. -/
lemma capture_spares (h : p.entry settings = some record) (other : p.mark ≠ q.mark) :
    Files.Spared ((settings .screenshotsDir : Path).child record.fileName) q.stage.files
      (q.capture settings q.stage).2.files := by
  obtain ⟨entry, named, -⟩ := entry_named flat h
  exact (capture_written flat q).spared entry fun taken => other (named.apart taken)

end Flat

/-- Where the image type leads further down, the record names the file by what the type says. -/
lemma entry_deep (deep : ¬ Flat (settings .screenshotType)) (h : p.entry settings = some record) :
    record.fileName = (Path.ofText (settings .screenshotType)).name := by
  obtain ⟨m, named, -⟩ := entry_fileFor h
  rw [named]
  exact fileFor_deep (c := Camera.ofSettings settings) deep p.mark m

end Point

section Ledgers

variable {pts : List Point}

/-- The ledger of points with different marks names different files. -/
lemma names_distinct (flat : Flat (settings .screenshotType))
    (apart : (pts.map (·.mark)).Nodup) :
    ((pts.filterMap (·.entry settings)).map (·.fileName)).Nodup := by
  rw [List.Nodup, List.pairwise_map] at apart ⊢
  rw [List.pairwise_filterMap]
  refine apart.imp fun {p q} other r hr s hs same => other ?_
  obtain ⟨-, named, -⟩ := Point.entry_named flat hr
  obtain ⟨-, again, -⟩ := Point.entry_named flat hs
  rw [same] at named
  exact named.apart again

/-- What captures, in the order in which they are made, do to the files of each other's records. -/
structure Undisturbed (settings : Settings) (pts : List Point) : Prop where
  /-- The file that a record names is there once it has been captured. -/
  left : ∀ p ∈ pts, ∀ record, p.entry settings = some record →
    (p.capture settings p.stage).2.files.Leads
      ((settings .screenshotsDir : Path).child record.fileName)
  /-- A later capture leaves it as it finds it. -/
  spared : pts.Pairwise fun p q => ∀ record, p.entry settings = some record →
    Files.Spared ((settings .screenshotsDir : Path).child record.fileName) q.stage.files
      (q.capture settings q.stage).2.files

lemma undisturbed (flat : Flat (settings .screenshotType))
    (apart : (pts.map (·.mark)).Nodup) : Undisturbed settings pts := by
  constructor
  · intro p _ record taken
    exact (Point.entry_named flat taken).2.2
  · rw [List.Nodup, List.pairwise_map] at apart
    exact apart.imp fun other record taken => Point.capture_spares flat taken other

end Ledgers

variable {url : Value} {g : Given} {s t : Stage Float} {r : Except RunFailure RunResult}

/-- Every record of a run names a file of its own, however slowly the clock goes, and no later
capture of the run changes it, provided the image type leads no further down after a slash, as one
without a slash does. Otherwise every record of the run has the last name that the type itself
spells, so they all have the same. -/
theorem records_name_files (h : ofGiven settings url g s = (.done r, t)) :
    ('/' ∉ (settings .screenshotType : String).toList → Flat (settings .screenshotType)) ∧
    (Flat (settings .screenshotType) →
      ((ledgerOf r).map (·.fileName)).Nodup ∧
      ∀ actions, g.read = .ok actions →
        ∃ pts, Documented settings url actions s r pts ∧ Undisturbed settings pts) ∧
    (¬ Flat (settings .screenshotType) →
      ∀ record ∈ ledgerOf r, record.fileName = (Path.ofText (settings .screenshotType)).name) := by
  refine ⟨flat_of_plain, ?_⟩
  rcases hg : g.read with cause | actions
  · cases (ofGiven_unread settings url hg s).symm.trans h
    exact ⟨fun _ => ⟨List.nodup_nil, nofun⟩, fun _ _ ha => absurd ha List.not_mem_nil⟩
  obtain ⟨pts, documented⟩ := documented hg h
  have apart := documented.course.nodup
  rw [documented.ledger]
  constructor
  · intro flat
    refine ⟨names_distinct flat apart, ?_⟩
    rintro _ ⟨⟩
    exact ⟨pts, documented, undisturbed flat apart⟩
  · intro deep record hr
    obtain ⟨p, -, taken⟩ := List.mem_filterMap.mp hr
    exact Point.entry_deep deep taken

/-- Four captures at one and the same moment. -/
theorem records_name_files_instant : ∃ r t,
    ofGiven Settings.standard (.text "https://x") (.items [.ready .switchToMain, .ready .switchToMain])
      { now := 0 } = (.done r, t) ∧
    Flat (Settings.standard .screenshotType) ∧
    (ledgerOf r).map (·.fileName) = ["debug_initial_2024-05-01T12-00-00-000000.jpg",
      "debug_action_1_2024-05-01T12-00-00-000000.jpg", "debug_action_2_2024-05-01T12-00-00-000000.jpg",
      "debug_final_2024-05-01T12-00-00-000000.jpg"] ∧
    ((ledgerOf r).map (·.fileName)).Nodup ∧
    ∃ pts, Documented Settings.standard (.text "https://x") [.switchToMain, .switchToMain]
      { now := 0 } r pts ∧ Undisturbed Settings.standard pts := by
  have names : (ofGiven Settings.standard (.text "https://x")
      (.items [.ready .switchToMain, .ready .switchToMain]) { now := 0 }).1.value?.map
        (fun r => (ledgerOf r).map (·.fileName)) =
      some ["debug_initial_2024-05-01T12-00-00-000000.jpg",
        "debug_action_1_2024-05-01T12-00-00-000000.jpg",
        "debug_action_2_2024-05-01T12-00-00-000000.jpg",
        "debug_final_2024-05-01T12-00-00-000000.jpg"] := by decide +kernel
  rcases h : ofGiven Settings.standard (.text "https://x")
      (.items [.ready .switchToMain, .ready .switchToMain]) { now := 0 } with
    ⟨r | f | _, t⟩ <;> rw [h] at names
  · obtain ⟨plain, apart, -⟩ := records_name_files h
    have flat := plain (by decide +kernel)
    obtain ⟨distinct, points⟩ := apart flat
    exact ⟨r, t, rfl, flat, Option.some.inj names, distinct, points _ rfl⟩
  · cases names
  · cases names

/-- The paths for two captures are there to be climbed back from. -/
def forkedFiles : Files where
  home := ["work"]
  entries := [(["work", "screenshots"], .directory),
    (["work", "screenshots", "debug_initial_2024-05-01T12-00-00-000000.x"], .directory),
    (["work", "screenshots", "debug_final_2024-05-01T12-00-00-000000.x"], .directory)]

/-- An image type that climbs takes two captures of a run to one file. -/
theorem records_share_file : ∃ r t,
    ofGiven (Settings.standard.assign .screenshotType "x/../y") (.text "https://x") (.items [])
      { now := 0, files := forkedFiles } = (.done r, t) ∧
    (ledgerOf r).map (·.fileName) = ["y", "y"] ∧ ¬ ((ledgerOf r).map (·.fileName)).Nodup ∧
    (t.files.filesIn ["work", "screenshots"]).map (·.1) = ["y"] := by
  have names : (ofGiven (Settings.standard.assign .screenshotType "x/../y") (.text "https://x")
      (.items []) { now := 0, files := forkedFiles }).1.value?.map
        (fun r => (ledgerOf r).map (·.fileName)) = some ["y", "y"] := by decide +kernel
  have files : ((ofGiven (Settings.standard.assign .screenshotType "x/../y") (.text "https://x")
      (.items []) { now := 0, files := forkedFiles }).2.files.filesIn
        ["work", "screenshots"]).map (·.1) = ["y"] := by decide +kernel
  rcases h : ofGiven (Settings.standard.assign .screenshotType "x/../y") (.text "https://x")
      (.items []) { now := 0, files := forkedFiles } with ⟨r | f | _, t⟩ <;> rw [h] at names files
  · have shared : (ledgerOf r).map (·.fileName) = ["y", "y"] := Option.some.inj names
    exact ⟨r, t, rfl, shared, by rw [shared]; decide, files⟩
  · cases names
  · cases names

end Run
end Rehearsal
