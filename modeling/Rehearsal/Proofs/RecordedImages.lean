import Rehearsal.Proofs.CaptureFiles
import Rehearsal.Proofs.ListedAddresses
import Rehearsal.Proofs.SoundReplies
import Rehearsal.Proofs.WireForm

/-!
# Recorded images can be looked at

The name of the file for a capture is made of safe characters and one point, whatever the label is,
so it is the name of an image, resolves to the file itself and stands for itself in an address. A run
keeps the files of its records, so after it each record leads to an image that is served, and that is
listed wherever the directory can be listed at all.
-/

namespace Rehearsal

open Play

namespace Screenshot

variable {label : String}

/-! Labels. -/

/-- A label that is safe and has no underscore at its ends is left alone. -/
lemma safeLabel_eq_self (safe : ∀ c ∈ label.toList, isSafe c = true)
    (trimmed : Text.trimChars (· == '_') label.toList = label.toList) (filled : label ≠ "") :
    safeLabel label = label := by
  have runs : replaceRuns false label.toList = label.toList := by
    have whole := replaceRuns_safe safe []
    rwa [List.append_nil, show replaceRuns false [] = [] from rfl, List.append_nil] at whole
  have letters : label.toList ≠ [] := fun none => filled (String.toList_eq_nil_iff.mp none)
  unfold safeLabel
  dsimp only
  rw [runs, trimmed, if_neg (by simpa using letters), String.ofList_toList]

lemma safeLabel_trimmed (label : String) :
    Text.trimChars (· == '_') (safeLabel label).toList = (safeLabel label).toList := by
  unfold safeLabel
  dsimp only
  split
  · decide +kernel
  · rw [String.toList_ofList, Text.trimChars_trimChars]

/-- Something is left of every label. -/
lemma safeLabel_filled (label : String) : safeLabel label ≠ "" := by
  unfold safeLabel
  dsimp only
  split
  · decide
  · next filled =>
    intro empty
    have letters := congrArg String.toList empty
    rw [String.toList_ofList] at letters
    exact filled (List.isEmpty_iff.mpr letters)

lemma safeLabel_safeLabel (label : String) : safeLabel (safeLabel label) = safeLabel label :=
  safeLabel_eq_self (fun _ => safe_of_mem_safeLabel) (safeLabel_trimmed label)
    (safeLabel_filled label)

/-! Names. -/

/-- A name under which an image can be looked up in a directory as it is. -/
structure Presentable (name : String) : Prop where
  letters : ∀ c ∈ name.toList, isSafe c = true ∨ c = '.'
  point : name.toList.count '.' = 1
  image : isImage name = true
  resolved : ∀ fs p, Files.isFile fs (p.child name) = .ok true →
    resolve fs p name = .ok (some (p.child name))

lemma isImage_of_ending {name ending : String} {stem : List Char} (known : ending ∈ imageEndings)
    (split : name.toList = stem ++ ending.toList) : isImage name = true := by
  have lower : ∀ ending ∈ imageEndings, ending.toList.map Char.toLower = ending.toList := by
    decide +kernel
  unfold isImage
  rw [List.any_eq_true]
  refine ⟨ending, known, ?_⟩
  unfold Text.endsWith
  rw [String.toList_ofList, split, List.map_append, lower ending known, List.isSuffixOf_iff_suffix]
  exact List.suffix_append _ _

/-- The name of the file for a capture is presentable, whatever the label, attempt and moment. -/
lemma presentable_fileName {imageType : String} (known : imageType = "jpeg" ∨ imageType = "png")
    (label : String) (attempt : Option Int) (m : Moment) :
    Presentable (fileName label attempt imageType m) := by
  obtain ⟨stem, safe, -, split⟩ := fileName_split label attempt imageType m
  have listed : "." ++ fileEnding imageType ∈ imageEndings := by
    rcases known with rfl | rfl <;> decide +kernel
  have ending : ∀ c ∈ (fileEnding imageType).toList, isSafe c = true := by
    refine List.all_eq_true.mp ?_
    rcases known with rfl | rfl <;> decide +kernel
  have pointless {s : List Char} (safe : ∀ c ∈ s, isSafe c = true) : s.count '.' = 0 :=
    List.count_eq_zero.mpr fun point => absurd (safe _ point) (by decide)
  constructor
  · intro c hc
    rw [split] at hc
    rcases List.mem_append.mp hc with hc | hc
    · exact .inl (safe c hc)
    · rcases List.mem_cons.mp hc with point | hc
      · exact .inr point
      · exact .inl (ending c hc)
  · rw [split, List.count_append, List.count_cons, pointless safe, pointless ending]
    rfl
  · have whole : (fileName label attempt imageType m).toList =
        stem ++ ("." ++ fileEnding imageType).toList := by
      rw [split, String.toList_append]
      rfl
    exact isImage_of_ending listed whole
  · intro fs p there
    exact resolve_file (entry_fileName known label attempt m) there

end Screenshot

namespace Server

/-- What is made of safe characters and points stands for itself in an address. -/
lemma literal_of_safe {name : List Char}
    (letters : ∀ c ∈ name, Screenshot.isSafe c = true ∨ c = '.') : Literal name := by
  have other {c d : Char} (hc : c ∈ name) (apart : Screenshot.isSafe d = false ∧ d ≠ '.') :
      c ≠ d := by
    rintro rfl
    rcases letters c hc with safe | point
    · cases apart.1.symm.trans safe
    · exact apart.2 point
  constructor
  · intro c hc
    simp only [isKept, Bool.and_eq_true, bne_iff_ne]
    exact ⟨⟨other hc (by decide), other hc (by decide)⟩, other hc (by decide)⟩
  · intro c hc
    simp only [isInside, Bool.and_eq_true, bne_iff_ne]
    exact ⟨other hc (by decide), other hc (by decide)⟩
  · intro a b found
    have percent : '%' ∈ name := found.subset (by simp)
    exact absurd rfl (other percent (by decide))

end Server

namespace Stage

variable {τ : Type}

/-- Paths that lead to files go on leading to files, and the ledger is the same. -/
structure Retains (s t : Stage τ) : Prop where
  files : ∀ p, s.files.Leads p → t.files.Leads p
  ledger : t.ledger = s.ledger

instance : Std.Refl (@Retains τ) where
  refl _ := ⟨fun _ => id, rfl⟩

instance : IsTrans (Stage τ) Retains where
  trans _ _ _ h k := ⟨fun p led => k.files p (h.files p led), k.ledger.trans h.ledger⟩

lemma Retains.of_same {s t : Stage τ} (files : s.SameFiles t) (ledger : t.ledger = s.ledger) :
    s.Retains t := by
  refine ⟨fun p led => ?_, ledger⟩
  rwa [files]

variable [Clock τ]

instance : Stage.Admits (@Retains τ) where
  note _ _ _ _ := .of_same rfl rfl
  perform s id e := .of_same (Stage.Admits.perform s id e) (s.quiet_perform id e).ledger
  pass _ _ := .of_same rfl rfl
  meanwhile _ _ := .of_same rfl rfl
  answers _ _ := .of_same rfl rfl
  script _ _ _ := .of_same rfl rfl
  element _ _ _ _ := .of_same rfl rfl
  arrive _ _ _ := .of_same rfl rfl
  load _ _ _ := .of_same rfl rfl

instance (limit : Int) : Stage.AdmitsLimit limit (@Retains τ) where
  limits _ _ := .of_same rfl rfl

end Stage

lemma photograph_retains {τ : Type} [Clock τ] {E : Prop} (directory path : Path) (page : Nat)
    (shot : Capture) :
    Within Stage.Retains E (photograph directory page shot path : Play τ Unit) := by
  refine photograph_within page shot (fun s files made => ?_) fun s f files written => ?_
  · exact ⟨fun p led => led.written (Files.makeDirectory_ok made).1, rfl⟩
  · exact ⟨fun p led => led.write written, rfl⟩

namespace Run

open Screenshot

variable {settings : Settings}

/-- A record names the file of a capture, and leads to it. -/
structure Backed (settings : Settings) (fs : Files) (record : Record) : Prop where
  named : ∃ label attempt m, record.fileName = fileName label attempt (settings .screenshotType) m
  there : fs.Leads ((settings .screenshotsDir : Path).child record.fileName)

/-- A ledger of which every record leads to its file stays such a ledger. -/
def KeepsBacked (settings : Settings) (s t : Stage Float) : Prop :=
  (∀ record ∈ s.ledger, Backed settings s.files record) →
    ∀ record ∈ t.ledger, Backed settings t.files record

instance : Std.Refl (KeepsBacked settings) where
  refl _ := id

instance : IsTrans (Stage Float) (KeepsBacked settings) where
  trans _ _ _ h k backed := k (h backed)

lemma keepsBacked {s t : Stage Float} (h : s.Retains t) : KeepsBacked settings s t := by
  intro backed record hr
  obtain ⟨named, there⟩ := backed record (h.ledger ▸ hr)
  exact ⟨named, h.files _ there⟩

instance : Stage.Admits (KeepsBacked settings) := Stage.Admits.mono fun _ _ => keepsBacked

instance (limit : Int) : Stage.AdmitsLimit limit (KeepsBacked settings) where
  limits s id := keepsBacked (Stage.AdmitsLimit.limits s id)

variable (settings) in
lemma capture_retains (page : Option Nat) (label : String) (attempt : Option Int) :
    Within Stage.Retains True
      ((Camera.ofSettings settings).capture page label attempt : Play Float _) :=
  Camera.capture_within _ page label attempt fun _ _ => photograph_retains _ _ _ _

/-- The ledger of a session that has been settled is what its stage holds. -/
lemma settled_ledger {session : Session} {url : Value} {actions : List Action} {s t : Stage Float}
    {result : Except RunCause RunResult}
    (h : settled (inSession settings session url actions) s = (.done result, t)) :
    ledgerOf (result.mapError (⟨·, t.records⟩)) = t.records := by
  rcases result with cause | result
  · rfl
  · rcases settled_cases h with hx | ⟨f, -, failed⟩
    · obtain ⟨pts, reached⟩ := visited hx nofun
      exact reached.records
    · cases failed

section Known

variable (known : settings .screenshotType = "jpeg" ∨ settings .screenshotType = "png")
include known

/-- The record of a capture leads to the file of the capture. -/
lemma capture_backed {page : Option Nat} {caption : Caption} {attempt : Option Int}
    {s t : Stage Float} {path : Path} (h : (Camera.ofSettings settings).capture page caption.step
      attempt s = (.done (some path), t)) (n : Moment) :
    Backed settings t.files (caption.recordOf path n) := by
  obtain ⟨⟨m, file⟩, leads⟩ := Camera.capture_leads h
  have entry := entry_fileName known caption.step attempt m
  have child : path = (settings .screenshotsDir : Path).child
      (fileName caption.step attempt (settings .screenshotType) m) :=
    file.trans (Path.resolve_entry _ entry)
  have name : path.name = fileName caption.step attempt (settings .screenshotType) m := by
    rw [child, Path.child_entry _ entry]
    simp [Path.name]
  refine ⟨⟨_, _, m, name⟩, ?_⟩
  change t.files.Leads ((settings .screenshotsDir : Path).child path.name)
  rwa [name, ← child]

/-- A capture keeps a ledger backed, whether it puts a record down or not. -/
lemma record_keepsBacked (page : Option Nat) (caption : Caption) (attempt : Option Int) :
    Within (KeepsBacked settings) True
      ((Camera.ofSettings settings).record page caption attempt : Play Float _) := by
  intro s
  refine ⟨?_, fun _ => trivial⟩
  have captured := capture_retains settings page caption.step attempt
  have still : Within Eq False (Play.moment : Play Float Moment) := .moment
  rcases hc : (Camera.ofSettings settings).capture page caption.step attempt s with
    ⟨(_ | path) | f | _, t⟩
  · rw [Camera.record_none hc]
    exact keepsBacked (captured.stage hc)
  · rcases hm : Play.moment t with ⟨n | f | _, u⟩
    · obtain rfl : t = u := still.stage hm
      rw [Camera.record_some hc hm]
      intro backed record hr
      rcases List.mem_cons.mp hr with rfl | hr
      · exact capture_backed known hc n
      · exact keepsBacked (captured.stage hc) backed record hr
    · obtain rfl : t = u := still.stage hm
      rw [Camera.record_untold hc hm]
      exact keepsBacked (captured.stage hc)
    · exact absurd (congrArg Prod.fst hm) (still.ends t)
  · rw [Camera.record_failed hc]
    exact keepsBacked (captured.stage hc)
  · have hung : (Camera.ofSettings settings).record page caption attempt s = (.endless, t) :=
      bind_endless hc
    rw [hung]
    exact keepsBacked (captured.stage hc)

/-- Each record of the ledger of a run leads to its file when the run is over. -/
lemma ledgerOf_backed {url : Value} {g : Given} {s t : Stage Float}
    {r : Except RunFailure RunResult} (h : ofGiven settings url g s = (.done r, t)) :
    ∀ record ∈ ledgerOf r, Backed settings t.files record := by
  rcases hg : g.read with cause | actions
  · cases (ofGiven_unread settings url hg s).symm.trans h
    exact nofun
  rcases ran settings url s hg with
    ⟨f, u, hl, calls, called, -, hr⟩ |
    ⟨session, u, hl, calls, called, -, result, v, hs, w, hc, -, hr⟩ |
    ⟨u, hr, -⟩
  · cases hr.symm.trans h
    have none : t.records = [] := congrArg List.reverse called.ledger
    intro record hr
    cases none ▸ hr
  · cases hr.symm.trans h
    have saved (page : Nat) (path : String) :
        Within (KeepsBacked settings) True (saveScreenshot settings page path) := by
      rw [saveScreenshot_eq]
      exact (photograph_retains _ _ page _).mono (fun _ _ => keepsBacked) id
    have acted : Within (KeepsBacked settings) True (inSession settings session url actions) :=
      inSession_within (record_keepsBacked known) saved session url actions fun _ _ => trivial
    have kept : KeepsBacked settings u v := by
      rcases settled_cases hs with hx | ⟨f, hx, -⟩
      · exact acted.stage hx
      · exact acted.stage hx
    -- the run begins with an empty ledger, and closing a session leaves the files alone
    have begun : ∀ record ∈ u.ledger, Backed settings u.files record := by
      rw [show u.ledger = [] from called.ledger]
      exact nofun
    have same : v.SameFiles t := (Session.close_files (E := True) session).stage hc
    intro record hr
    rw [settled_ledger hs, Stage.records, List.mem_reverse] at hr
    rw [same]
    exact kept begun record hr
  · cases hr.symm.trans h

end Known

end Run

namespace Server

open Screenshot Run

variable {settings : Settings} {t : Stage Float}

/-- In a directory that can be listed, an image that a path leads to is one of those listed. -/
lemma listed_of_leads {fs : Files} {p : Path} {name : String} {es : List Screenshot.Entry}
    (sound : fs.Sound) (h : listing fs p = .ok es) (entry : EntryName name)
    (image : isImage name = true) (leads : fs.Leads (p.child name)) :
    name ∈ es.map (·.name) := by
  obtain ⟨found, reached⟩ := ((listing_isOk sound).mp ⟨es, h⟩).reached
  obtain ⟨place, f, hl, there⟩ := leads
  obtain ⟨dir, hd, folder, rfl⟩ := Files.locate_parent reached entry hl
  exact ((listing_listed sound h).names name).mpr ⟨_, f, image, ⟨dir, hd, folder, rfl⟩, there⟩

/-- How the records of a ledger are shown. -/
structure Exhibited (settings : Settings) (t : Stage Float) (records : List Record) : Prop where
  /-- The directory can be listed when its entries can be looked at and its images date from years
  of the calendar. -/
  listable : (∃ es, listing t.files (settings .screenshotsDir) = .ok es) ↔
    Listable t.files (settings .screenshotsDir)
  /-- Then that is what is told, and every record is in it. -/
  listed : ∀ es, listing t.files (settings .screenshotsDir) = .ok es →
    handle settings (.get "/screenshots") t = (.done (withCrossOrigin settings
      (ok [("total", .int es.length),
        ("screenshots", .list (es.map fun e => .object (entryFields e)))])), t) ∧
    ∀ record ∈ records, record.fileName ∈ es.map (·.name)
  /-- The image of each record is served in any case. -/
  served : ∀ record ∈ records, ∃ f,
    storedFile (settings .screenshotsDir) record.fileName t.files = .ok (some f) ∧
    handle settings (.get ("/screenshots/" ++ record.fileName)) t = (.done (withCrossOrigin settings
      ⟨200, .file (fileType record.fileName) f.content.size⟩), t)

/-- What is written under the name of a capture can be read under it: a label is made safe once and
for all, the name is presentable, and the images of all records of a run are served after it, and
listed if the directory can be listed, whatever requests the server has answered before the run. -/
theorem records_exhibited (settings : Settings)
    (known : settings .screenshotType = "jpeg" ∨ settings .screenshotType = "png")
    (folder : (settings .screenshotsDir : Path).Proper) :
    (∀ label, safeLabel label ≠ "" ∧ safeLabel (safeLabel label) = safeLabel label) ∧
    (∀ label attempt m, Presentable (fileName label attempt (settings .screenshotType) m)) ∧
    ∀ (requests : List Request) url g s r t, s.files.Sound →
      ofGiven settings url g (requests.foldl (fun s r => (handle settings r s).2) s) =
        (.done r, t) → Exhibited settings t (ledgerOf r) := by
  refine ⟨fun label => ⟨safeLabel_filled label, safeLabel_safeLabel label⟩,
    presentable_fileName known, fun requests url g s r t sound h => ?_⟩
  have begun := requests_keep_sound folder requests sound
  have sound : t.files.Sound := (ofGiven_sound folder url g).stage h begun
  have backed := ledgerOf_backed known h
  have fit (record : Record) (hr : record ∈ ledgerOf r) :
      EntryName record.fileName ∧ Presentable record.fileName := by
    obtain ⟨label, attempt, m, named⟩ := (backed record hr).named
    rw [named]
    exact ⟨entry_fileName known label attempt m, presentable_fileName known label attempt m⟩
  constructor
  · exact listing_isOk sound
  · intro es listed
    constructor
    · refine handle_get (by decide +kernel) (get_listing ?_ listed)
      decide +kernel
    · intro record hr
      obtain ⟨entry, presentable⟩ := fit record hr
      exact listed_of_leads sound listed entry presentable.image (backed record hr).there
  · intro record hr
    obtain ⟨entry, presentable⟩ := fit record hr
    obtain ⟨place, f, located, there⟩ := (backed record hr).there
    have found := storedFile_located entry located there
    exact ⟨f, found, handle_image (literal_of_safe presentable.letters) presentable.image found⟩

/-- Both records of a run without actions. -/
theorem records_exhibited_plain :
    (Settings.standard .screenshotType = "jpeg" ∨ Settings.standard .screenshotType = "png") ∧
    (Settings.standard .screenshotsDir : Path).Proper ∧ (⟨["work"], []⟩ : Files).Sound ∧
    safeLabel "_¿?_" = "step" ∧
    ∃ r t, ofGiven Settings.standard (.text "https://x") (.items []) { now := 0 } = (.done r, t) ∧
      (ledgerOf r).map (·.fileName) = ["debug_initial_2024-05-01T12-00-00-000000.jpg",
        "debug_final_2024-05-01T12-00-00-000000.jpg"] ∧
      Exhibited Settings.standard t (ledgerOf r) := by
  have known : Settings.standard .screenshotType = "jpeg" ∨
    Settings.standard .screenshotType = "png" := .inl rfl
  have folder : (Settings.standard .screenshotsDir : Path).Proper := by
    change ∀ n ∈ ["screenshots"], n = ".." ∨ EntryName n
    decide +kernel
  have sound : (⟨["work"], []⟩ : Files).Sound := by decide +kernel
  have names : (ofGiven Settings.standard (.text "https://x") (.items [])
      { now := 0 }).1.value?.map (fun r => (ledgerOf r).map (·.fileName)) =
      some ["debug_initial_2024-05-01T12-00-00-000000.jpg",
        "debug_final_2024-05-01T12-00-00-000000.jpg"] := by decide +kernel
  obtain ⟨-, -, exhibited⟩ := records_exhibited Settings.standard known folder
  refine ⟨known, folder, sound, by decide +kernel, ?_⟩
  rcases h : ofGiven Settings.standard (.text "https://x") (.items []) { now := 0 } with
    ⟨r | f | _, t⟩ <;> rw [h] at names
  · exact ⟨r, t, rfl, Option.some.inj names, exhibited [] _ _ { now := 0 } r t sound h⟩
  · cases names
  · cases names

/-- A detour that leads to the directory of screenshots. -/
def detour : Path := ⟨.here, "screenshots" :: (List.replicate 256 ["..", "screenshots"]).flatten⟩

/-- A directory with a file that is no image and has a long name. -/
def annotated : Files where
  home := ["work"]
  entries := [(["work", "screenshots"], .directory),
    (["work", "screenshots", String.ofList (List.replicate 246 'n') ++ ".txt"],
      .file ⟨.zeros 3, 0⟩)]

/-- By way of the detour, the other file has too long a path, and with it nothing can be listed. -/
theorem records_unlisted : ∃ r t,
    ofGiven (Settings.standard.assign .screenshotsDir detour) (.text "https://x") (.items [])
      { now := 0, files := annotated } = (.done r, t) ∧
    (ledgerOf r).map (·.fileName) = ["debug_initial_2024-05-01T12-00-00-000000.jpg",
      "debug_final_2024-05-01T12-00-00-000000.jpg"] ∧
    (handle (Settings.standard.assign .screenshotsDir detour) (.get "/screenshots") t).1.value?.map
      (·.reply.status) = some 500 := by
  have course : (ofGiven (Settings.standard.assign .screenshotsDir detour) (.text "https://x")
      (.items []) { now := 0, files := annotated }).1.value?.map
        (fun r => (ledgerOf r).map (·.fileName)) =
      some ["debug_initial_2024-05-01T12-00-00-000000.jpg",
        "debug_final_2024-05-01T12-00-00-000000.jpg"] := by decide +kernel
  have answered : (handle (Settings.standard.assign .screenshotsDir detour) (.get "/screenshots")
      (ofGiven (Settings.standard.assign .screenshotsDir detour) (.text "https://x")
        (.items []) { now := 0, files := annotated }).2).1.value?.map (·.reply.status) =
      some 500 := by decide +kernel
  rcases h : ofGiven (Settings.standard.assign .screenshotsDir detour) (.text "https://x")
      (.items []) { now := 0, files := annotated } with
    ⟨r | f | _, t⟩ <;> rw [h] at course answered
  · exact ⟨r, t, rfl, Option.some.inj course, answered⟩
  · cases course
  · cases course

end Server

end Rehearsal
